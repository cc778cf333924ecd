import MicroserviceCommon.Communication.AmqpNetwork
import MicroserviceCommon.Properties.ReplyAddress

/-!
# Requests and answers between services

What holds in every state of a network, whatever the order of the sending threads and the pollings
and whatever a lawful broker does.

* `Inv` — the letters on their way, the requests that were handed out and the awaited responses
* `responses_authentic` — where a response comes from
* `requests_handed_once` — which requests the observers get
-/

namespace MicroserviceCommon

open Infra

variable {π : Type*}

/-- An address has one owner. -/
theorem Topology.owner_unique {t : Topology π} {p q : π} {address : String × String}
    (hp : t.Owns p address) (hq : t.Owns q address) : p = q := by
  obtain ⟨r, hr, rfl⟩ := hp
  obtain ⟨r', hr', heq⟩ := hq
  exact (t.address_owner p r hr q r' hr' heq.symm).1

namespace AmqpNetwork

/-! ## Letters -/

/-- The reply-to that names the address of a route. -/
def replyToOf (route : SAmqpRouteParameters) : String :=
  cStr (route.predatorExchangePointName ++ String.singleton AmqpClient.replyToDelimeter ++
    route.predatorRoutingKeyName)

/-- The package of a requester. -/
def questionLetter (p : π) (route : SAmqpRouteParameters) (uniqueId : TCorrelationId)
    (msg : String) : Letter π where
  correlationId := cStr uniqueId
  replyTo := replyToOf route
  body := msg
  exchange := cStr route.targetExchangePointName
  routingKey := cStr route.targetRoutingKeyName
  sender := p
  answer := false

/-- The package of a replier. -/
def answerLetter (h : Handed π) (ep rk msg : String) : Letter π where
  correlationId := cStr h.request.correlationId
  replyTo := cStr replyToDummy
  body := msg
  exchange := cStr ep
  routingKey := cStr rk
  sender := h.receiver
  answer := true

variable {t : Topology π} {B : Broker String (Letter π)} {s s' : AmqpNetwork B}

/-! ## The history -/

/-- The service got the question and answered with the body. -/
def Answered (s : AmqpNetwork B) (q : π) (corrId : TCorrelationId) (body : String) : Prop :=
  (∃ h ∈ s.handed, h.receiver = q ∧ h.letter.answer = false ∧ h.letter.correlationId = corrId) ∧
    ⟨q, corrId, body⟩ ∈ s.answers

def IsQuestion (s : AmqpNetwork B) (l : Letter π) : Prop :=
  ∃ x ∈ s.questions, x.asker = l.sender ∧ x.correlationId = l.correlationId ∧ x.body = l.body ∧
    x.route.target = (l.exchange, l.routingKey) ∧ l.replyTo = replyToOf x.route

def IsAnswer (s : AmqpNetwork B) (l : Letter π) : Prop :=
  ∃ x ∈ s.questions, x.correlationId = l.correlationId ∧
    x.route.address = (l.exchange, l.routingKey) ∧ l.replyTo = replyToDummy ∧
    s.Answered l.sender l.correlationId l.body

def Lawful (s : AmqpNetwork B) (l : Letter π) : Prop :=
  if l.answer then s.IsAnswer l else s.IsQuestion l

theorem lawful_answer {l : Letter π} (h : l.answer = true) : s.Lawful l ↔ s.IsAnswer l := by
  rw [Lawful, if_pos h]

theorem lawful_question {l : Letter π} (h : l.answer = false) : s.Lawful l ↔ s.IsQuestion l := by
  rw [Lawful, if_neg (by simp [h])]

/-- The service asked with the correlation id, or got a request with it. -/
def Known (s : AmqpNetwork B) (p : π) (corrId : TCorrelationId) : Prop :=
  (∃ x ∈ s.questions, x.asker = p ∧ x.correlationId = corrId) ∨
    ∃ h ∈ s.handed, h.receiver = p ∧ h.letter.correlationId = corrId

/-- The body is what the owner of the target answered to this question of the service. -/
def Authentic (t : Topology π) (s : AmqpNetwork B) (p : π) (corrId : TCorrelationId)
    (body : String) : Prop :=
  ∃ x ∈ s.questions, x.asker = p ∧ x.correlationId = corrId ∧
    ∃ q, q ≠ p ∧ t.Owns q x.route.target ∧ s.Answered q corrId body

/-- The letters that are on their way or were handed out. -/
def letters (s : AmqpNetwork B) : Multiset (Letter π) :=
  (B.stored s.broker).map Prod.snd + (s.handed.map (·.letter) : Multiset (Letter π))

/-- Those of requesters. -/
def questionLetters (s : AmqpNetwork B) : Multiset (Letter π) :=
  s.letters.filter fun l => l.answer = false

/-- Nothing of the history is lost. -/
structure Extends (s s' : AmqpNetwork B) : Prop where
  questions : s.questions ⊆ s'.questions
  handed : s.handed ⊆ s'.handed
  answers : s.answers ⊆ s'.answers

namespace Extends

variable {l : Letter π} {p : π} {corrId : TCorrelationId} {body : String}

theorem answered (h : Extends s s') (ha : s.Answered p corrId body) :
    s'.Answered p corrId body := by
  obtain ⟨⟨x, hx, hrest⟩, hanswer⟩ := ha
  exact ⟨⟨x, h.handed hx, hrest⟩, h.answers hanswer⟩

theorem lawful (h : Extends s s') (hl : s.Lawful l) : s'.Lawful l := by
  cases hanswer : l.answer with
  | true =>
    rw [lawful_answer hanswer] at hl ⊢
    obtain ⟨x, hx, hid, haddress, hreply, hanswered⟩ := hl
    exact ⟨x, h.questions hx, hid, haddress, hreply, h.answered hanswered⟩
  | false =>
    rw [lawful_question hanswer] at hl ⊢
    obtain ⟨x, hx, hrest⟩ := hl
    exact ⟨x, h.questions hx, hrest⟩

theorem known (h : Extends s s') (hk : s.Known p corrId) : s'.Known p corrId := by
  rcases hk with ⟨x, hx, hrest⟩ | ⟨x, hx, hrest⟩
  · exact Or.inl ⟨x, h.questions hx, hrest⟩
  · exact Or.inr ⟨x, h.handed hx, hrest⟩

theorem authentic (h : Extends s s') (ha : Authentic t s p corrId body) :
    Authentic t s' p corrId body := by
  obtain ⟨x, hx, hasker, hid, q, hne, howns, hanswered⟩ := ha
  exact ⟨x, h.questions hx, hasker, hid, q, hne, howns, h.answered hanswered⟩

end Extends

/-! ## The invariant -/

/-- What is bound and stored, whatever it says. -/
structure Routed (t : Topology π) (s : AmqpNetwork B) : Prop where
  bindings : ∀ b ∈ B.bindings s.broker, ∃ p, ∃ r ∈ t.routes p, b =
    ⟨r.predatorExchangePointName, r.predatorRoutingKeyName, r.predatorQueueName⟩
  consumers : ∀ p, ∀ q ∈ s.consumers p, ∃ r ∈ t.routes p, r.predatorQueueName = q
  bound : ∀ e ∈ B.stored s.broker, ∃ p, ∃ r ∈ t.routes p,
    r.address = (e.2.exchange, e.2.routingKey) ∧ r.predatorQueueName = e.1

structure Inv (t : Topology π) (s : AmqpNetwork B) : Prop extends Routed t s where
  questions : ∀ x ∈ s.questions, x.route ∈ t.routes x.asker ∧ NulFree x.correlationId ∧
    x.correlationId ≠ ""
  questions_nodup : (s.questions.map (·.correlationId)).Nodup
  stored : ∀ e ∈ B.stored s.broker, s.Lawful e.2
  handed : ∀ h ∈ s.handed, s.Lawful h.letter ∧
    t.Owns h.receiver (h.letter.exchange, h.letter.routingKey) ∧
    h.request.correlationId = h.letter.correlationId ∧ h.request.replyTo = h.letter.replyTo ∧
    h.request.incomingMessage = h.letter.body
  once : (s.questionLetters.map (·.correlationId)).Nodup
  known : ∀ p corrId, ((s.client p).readyResponsesToAsyncMessages corrId).isSome →
    s.Known p corrId
  sending : ∀ p corrId, s.sending p = some corrId → s.Known p corrId
  authentic : ∀ p corrId body, (s.client p).readyResponsesToAsyncMessages corrId = some body →
    body ≠ "" → Authentic t s p corrId body

theorem not_mem_stored_start [B.Lawful] (e : String × Letter π) : e ∉ B.stored B.start := by
  rw [Broker.Lawful.stored_start]
  exact Multiset.notMem_zero e

theorem inv_start [B.Lawful] (t : Topology π) (connId : π → TConnectionId) (expiration : π → Int32)
    (observers : π → List Nat) : Inv t (start B connId expiration observers) where
  bindings b hb := absurd (Broker.Lawful.bindings_start (B := B) ▸ hb) (Set.notMem_empty b)
  consumers p q hq := absurd hq List.not_mem_nil
  bound e he := absurd he (not_mem_stored_start e)
  questions x hx := absurd hx List.not_mem_nil
  questions_nodup := List.nodup_nil
  stored e he := absurd he (not_mem_stored_start e)
  handed h hh := absurd hh List.not_mem_nil
  once := by
    have hnone : (start B connId expiration observers).letters = 0 := by
      rw [letters, start, Broker.Lawful.stored_start]
      rfl
    rw [questionLetters, hnone]
    exact Multiset.nodup_zero
  known p corrId h := by cases h
  sending p corrId h := by cases h
  authentic p corrId body h := by cases h

/-! ## Owners -/

/-- **A stored letter waits at the owner of its address.** -/
theorem Routed.owns_of_consumer (h : Routed t s) {p : π} {queue : String} {l : Letter π}
    (hp : queue ∈ s.consumers p) (hl : (queue, l) ∈ B.stored s.broker) :
    t.Owns p (l.exchange, l.routingKey) := by
  obtain ⟨q, r, hr, haddress, hqueue⟩ := h.bound _ hl
  obtain ⟨r', hr', hqueue'⟩ := h.consumers p queue hp
  obtain rfl := t.queue_owner p r' hr' q r hr (hqueue'.trans hqueue.symm)
  exact ⟨r, hr, haddress⟩

/-- A queue that is bound with the address of a letter is a mailbox with this address. -/
theorem Routed.mailbox (h : Routed t s) {exchange routingKey queue : String}
    (hbound : ⟨exchange, routingKey, queue⟩ ∈ B.bindings s.broker) : ∃ p, ∃ r ∈ t.routes p,
      r.address = (exchange, routingKey) ∧ r.predatorQueueName = queue := by
  obtain ⟨p, r, hr, hbinding⟩ := h.bindings _ hbound
  obtain ⟨hexchange, hkey, hqueue⟩ := Binding.mk.inj hbinding
  exact ⟨p, r, hr, Prod.ext hexchange.symm hkey.symm, hqueue.symm⟩

theorem Routed.publish [DecidableEq π] [B.Lawful] (h : Routed t s) (l : Letter π) :
    Routed t (s.publish l) where
  bindings b hb := h.bindings b (Broker.Lawful.bindings_publish _ _ _ _ hb)
  consumers := h.consumers
  bound e he := by
    rcases Broker.mem_publish he with he | ⟨hbound, heq⟩
    · exact h.bound e he
    · exact heq ▸ h.mailbox hbound

/-- An address is bound to one queue. -/
theorem Routed.queue_unique (h : Routed t s) {exchange routingKey q q' : String}
    (hq : ⟨exchange, routingKey, q⟩ ∈ B.bindings s.broker)
    (hq' : ⟨exchange, routingKey, q'⟩ ∈ B.bindings s.broker) : q = q' := by
  obtain ⟨p, r, hr, haddress, rfl⟩ := h.mailbox hq
  obtain ⟨p', r', hr', haddress', rfl⟩ := h.mailbox hq'
  exact (t.address_owner p r hr p' r' hr' (haddress.trans haddress'.symm)).2

/-- A correlation id belongs to one question. -/
theorem Inv.question_unique (h : Inv t s) {x y : Question π} (hx : x ∈ s.questions)
    (hy : y ∈ s.questions) (heq : x.correlationId = y.correlationId) : x = y :=
  List.inj_on_of_nodup_map h.questions_nodup hx hy heq

/-- **An answer that has come to its service is authentic.** -/
theorem Inv.authentic_of_isAnswer (h : Inv t s) {p : π} {l : Letter π} (hl : s.IsAnswer l)
    (howns : t.Owns p (l.exchange, l.routingKey)) :
    Authentic t s p l.correlationId l.body := by
  obtain ⟨x, hx, hid, haddress, _, hanswered⟩ := hl
  have hroute := (h.questions x hx).1
  obtain rfl := Topology.owner_unique howns ⟨x.route, hroute, haddress⟩
  have ⟨⟨y, hy, hreceiver, hquestion, hyid⟩, _⟩ := hanswered
  -- the question that the replier got is the one of this service
  have hlawful := (h.handed y hy).1
  rw [lawful_question hquestion] at hlawful
  obtain ⟨z, hz, _, hzid, _, htarget, _⟩ := hlawful
  obtain rfl := h.question_unique hz hx (hzid.trans (hyid.trans hid.symm))
  have hreplier : t.Owns l.sender z.route.target := by
    rw [htarget, ← hreceiver]
    exact (h.handed y hy).2.1
  refine ⟨z, hz, rfl, hid, l.sender, ?_, hreplier, hanswered⟩
  intro heq
  obtain ⟨r, hr, hraddress⟩ := heq ▸ hreplier
  exact t.target_foreign _ z.route hroute r hr hraddress.symm

/-- **A question is not taken for a response.** -/
theorem Inv.ready_eq_none (h : Inv t s) {p : π} {queue : String} {l : Letter π}
    (hp : queue ∈ s.consumers p) (hl : (queue, l) ∈ B.stored s.broker)
    (hquestion : l.answer = false) :
    (s.client p).readyResponsesToAsyncMessages l.correlationId = none := by
  have howns := h.owns_of_consumer hp hl
  have hlawful := h.stored _ hl
  rw [lawful_question hquestion] at hlawful
  obtain ⟨x, hx, hasker, hid, _, htarget, _⟩ := hlawful
  -- the service has not asked this question, as it goes to another one
  have hforeign : x.asker ≠ p := by
    rintro rfl
    obtain ⟨r, hr, haddress⟩ := howns
    exact t.target_foreign _ x.route (h.questions x hx).1 r hr (htarget.trans haddress.symm)
  rw [← Option.not_isSome_iff_eq_none]
  intro hready
  rcases h.known p _ hready with ⟨y, hy, hyasker, hyid⟩ | ⟨y, hy, hreceiver, hyid⟩
  · obtain rfl := h.question_unique hy hx (hyid.trans hid.symm)
    exact hforeign hyasker
  · obtain ⟨hlawful, hyowns, _⟩ := h.handed y hy
    cases hanswer : y.letter.answer with
    | true =>
      rw [lawful_answer hanswer] at hlawful
      obtain ⟨z, hz, hzid, haddress, _⟩ := hlawful
      obtain rfl := h.question_unique hz hx (hzid.trans (hyid.trans hid.symm))
      refine hforeign ?_
      rw [← hreceiver]
      exact Topology.owner_unique ⟨z.route, (h.questions z hz).1, haddress⟩ hyowns
    | false =>
      -- the same question would be on its way and handed out
      have honce := h.once
      rw [questionLetters, letters, Multiset.filter_add, Multiset.map_add,
        Multiset.nodup_add] at honce
      have hstored : l ∈ ((B.stored s.broker).map Prod.snd).filter fun l => l.answer = false :=
        Multiset.mem_filter.mpr ⟨Multiset.mem_map_of_mem Prod.snd hl, hquestion⟩
      refine Multiset.disjoint_left.mp honce.2.2 (Multiset.mem_map_of_mem _ hstored) ?_
      rw [← hyid]
      exact Multiset.mem_map_of_mem _
        (Multiset.mem_filter.mpr ⟨List.mem_map_of_mem (f := Handed.letter) hy, hanswer⟩)

/-- The letters of requesters have the ids of questions. -/
theorem Inv.mem_questions_of_questionLetters (h : Inv t s) {corrId : TCorrelationId}
    (hmem : corrId ∈ s.questionLetters.map (·.correlationId)) :
    corrId ∈ s.questions.map (·.correlationId) := by
  obtain ⟨l, hl, rfl⟩ := Multiset.mem_map.mp hmem
  obtain ⟨hl, hquestion⟩ := Multiset.mem_filter.mp hl
  have hlawful : s.Lawful l := by
    rcases Multiset.mem_add.mp hl with hl | hl
    · obtain ⟨e, he, rfl⟩ := Multiset.mem_map.mp hl
      exact h.stored e he
    · obtain ⟨x, hx, rfl⟩ := List.mem_map.mp (Multiset.mem_coe.mp hl)
      exact (h.handed x hx).1
  rw [lawful_question hquestion] at hlawful
  obtain ⟨x, hx, _, hid, _⟩ := hlawful
  exact List.mem_map.mpr ⟨x, hx, hid⟩

/-! ## Letters that are lost -/

theorem Inv.once_of_le (h : Inv t s) (hle : s'.letters ≤ s.letters) :
    (s'.questionLetters.map (·.correlationId)).Nodup :=
  Multiset.nodup_of_le (Multiset.map_le_map (Multiset.filter_le_filter _ hle)) h.once

/-- Letters and mailboxes may get lost. -/
theorem Inv.discard (h : Inv t s) {b : B.State} (hbindings : B.bindings b ⊆ B.bindings s.broker)
    (hstored : B.stored b ≤ B.stored s.broker) : Inv t { s with broker := b } where
  bindings x hx := h.bindings x (hbindings hx)
  consumers := h.consumers
  bound e he := h.bound e (Multiset.mem_of_le hstored he)
  questions := h.questions
  questions_nodup := h.questions_nodup
  stored e he := h.stored e (Multiset.mem_of_le hstored he)
  handed := h.handed
  once := h.once_of_le (Multiset.add_le_add_right (Multiset.map_le_map hstored))
  known := h.known
  sending := h.sending
  authentic := h.authentic

/-! ## What the steps do -/

variable [DecidableEq π]

theorem ask_eq_some {p : π} {route : SAmqpRouteParameters} {uniqueId : TCorrelationId}
    {msg : String} (h : s.ask p route uniqueId msg = some s') : uniqueId ≠ "" ∧
      s' = { s.publish (questionLetter p route uniqueId msg) with
        sending := Function.update s.sending p (some uniqueId)
        questions := s.questions ++
          [{ asker := p, route := route, correlationId := uniqueId, body := msg }] } := by
  obtain ⟨s₁, hsend, rfl⟩ := Option.map_eq_some_iff.mp h
  simp only [send, AmqpController.getRequestInstance, RoutedAmqpRequest.sendMessageAsync, if_true,
    AmqpClient.sendPackageAsync] at hsend
  split at hsend
  · cases hsend
  · next heq =>
    split at heq
    · cases heq
    · next hnonempty =>
      cases heq
      cases hsend
      exact ⟨fun he => hnonempty (Or.inr (Or.inl he)), rfl⟩

theorem answer_eq_some {h : Handed π} {msg ep rk : String}
    (hcorrId : h.request.correlationId ≠ "")
    (haddress : RoutedAmqpRequest.replyAddress h.request.replyTo = some (ep, rk))
    (hs : s.answer h msg = some s') :
    s' = { s.publish (answerLetter h ep rk msg) with
      sending := Function.update s.sending h.receiver (some h.request.correlationId)
      answers := s.answers ++
        [{ replier := h.receiver, correlationId := h.request.correlationId, body := msg }] } := by
  obtain ⟨s₁, hsend, rfl⟩ := Option.map_eq_some_iff.mp hs
  simp only [send, RoutedAmqpRequest.sendMessageAsync, if_neg hcorrId, haddress,
    AmqpClient.sendPackageAsync] at hsend
  split at hsend
  · cases hsend
  · next heq =>
    split at heq
    · cases heq
    · cases heq
      cases hsend
      rfl

/-! ## What the steps keep -/

/-- A client may change as long as its responses are known and authentic. -/
theorem Inv.setClient (h : Inv t s) {p : π} {c : AmqpClient}
    (hknown : ∀ corrId, (c.readyResponsesToAsyncMessages corrId).isSome → s.Known p corrId)
    (hauthentic : ∀ corrId body, c.readyResponsesToAsyncMessages corrId = some body → body ≠ "" →
      Authentic t s p corrId body) : Inv t (s.setClient p c) where
  bindings := h.bindings
  consumers := h.consumers
  bound := h.bound
  questions := h.questions
  questions_nodup := h.questions_nodup
  stored := h.stored
  handed := h.handed
  once := h.once
  known q corrId hready := by
    by_cases hq : q = p
    · subst hq
      simp only [AmqpNetwork.setClient, Function.update_self] at hready
      exact hknown corrId hready
    · simp only [AmqpNetwork.setClient, Function.update_of_ne hq] at hready
      exact h.known q corrId hready
  sending := h.sending
  authentic q corrId body hready := by
    by_cases hq : q = p
    · subst hq
      simp only [AmqpNetwork.setClient, Function.update_self] at hready
      exact hauthentic corrId body hready
    · simp only [AmqpNetwork.setClient, Function.update_of_ne hq] at hready
      exact h.authentic q corrId body hready

theorem Inv.register (h : Inv t s) {p : π} {corrId : TCorrelationId}
    (hsending : s.sending p = some corrId) : Inv t (s.register p corrId) := by
  have hclient : Inv t (s.setClient p ((s.client p).registerAsync corrId)) := by
    refine h.setClient (fun c hc => ?_) fun c body hc hbody => ?_
    · rcases (isSome_registerAsync _ _ _).mp hc with rfl | hc
      · exact h.sending p c hsending
      · exact h.known p c hc
    · rcases UnorderedMap.insert_eq_some_iff.mp hc with hc | ⟨_, _, hempty⟩
      · exact h.authentic p c body hc hbody
      · exact absurd hempty.symm hbody
  refine { hclient with sending := fun q c hq => ?_ }
  by_cases hqp : q = p
  · subst hqp
    simp [AmqpNetwork.register] at hq
  · simp only [AmqpNetwork.register, Function.update_of_ne hqp] at hq
    exact h.sending q c hq

/-! ## Polling -/

/-- A message that is no response goes to the observers, if there are any. -/
theorem consume_of_none {p : π} {l : Letter π} {b : B.State}
    (h : (s.client p).readyResponsesToAsyncMessages l.correlationId = none) :
    s.consume p l b = { s with broker := b } ∨
      s.consume p l b = { s with
        broker := b
        handed := s.handed ++ [{
          receiver := p
          request := (s.client p).incomingRequest l.toEnvelope
          letter := l }] } := by
  have hclient : s.setClient p (s.client p) = s := by
    rw [setClient, Function.update_eq_self]
  have hpoll : (s.client p).poll (some l.toEnvelope) = _ := poll_of_none h
  cases hobservers : (s.client p).observers with
  | nil =>
    refine Or.inl ?_
    simp only [consume, hpoll, hobservers, List.map_nil, hclient]
  | cons observer observers =>
    refine Or.inr ?_
    simp only [consume, hpoll, hobservers, List.map_cons, hclient]

/-- **A message that is no response is handed out.** -/
theorem Inv.hand [B.Lawful] (h : Inv t s) {p : π} {queue : String} {l : Letter π} {b : B.State}
    (hp : queue ∈ s.consumers p) (hget : B.get s.broker queue = some (l, b))
    (hnone : (s.client p).readyResponsesToAsyncMessages l.correlationId = none) :
    Inv t (s.consume p l b) := by
  have hstored : (queue, l) ∈ B.stored s.broker := Broker.mem_of_get hget
  have hdiscard := h.discard (Broker.Lawful.bindings_get _ _ _ _ hget)
    (Broker.stored_le_of_get hget)
  rcases consume_of_none hnone with heq | heq
  · rw [heq]
    exact hdiscard
  rw [heq]
  have hextends : Extends s { s with
      broker := b
      handed := s.handed ++
        [{ receiver := p, request := (s.client p).incomingRequest l.toEnvelope, letter := l }] } :=
    ⟨List.Subset.refl _, List.subset_append_left _ _, List.Subset.refl _⟩
  refine
    { hdiscard with
      stored := fun e he => hextends.lawful (hdiscard.stored e he)
      handed := fun x hx => ?_
      once := ?_
      known := fun q c hc => hextends.known (h.known q c hc)
      sending := fun q c hc => hextends.known (h.sending q c hc)
      authentic := fun q c body hc hbody => hextends.authentic (h.authentic q c body hc hbody) }
  · rcases List.mem_append.mp hx with hx | hx
    · exact ⟨hextends.lawful (h.handed x hx).1, (h.handed x hx).2⟩
    · obtain rfl := List.mem_singleton.mp hx
      exact ⟨hextends.lawful (h.stored _ hstored), h.owns_of_consumer hp hstored, rfl, rfl, rfl⟩
  · -- the letter is handed out instead of stored
    refine h.once_of_le ?_
    have hle := Multiset.map_le_map (f := Prod.snd) (Broker.Lawful.stored_get _ _ _ _ hget)
    rw [Multiset.map_cons] at hle
    rw [letters, List.map_append, List.map_singleton, ← Multiset.coe_add, Multiset.coe_singleton,
      Multiset.add_comm _ {l}, ← Multiset.add_assoc, Multiset.add_comm _ {l},
      Multiset.singleton_add]
    exact Multiset.add_le_add_right hle

/-- **What was polled is kept where it belongs.** -/
theorem Inv.consume [B.Lawful] (h : Inv t s) {p : π} {queue : String} {l : Letter π} {b : B.State}
    (hp : queue ∈ s.consumers p) (hget : B.get s.broker queue = some (l, b)) :
    Inv t (s.consume p l b) := by
  have hstored : (queue, l) ∈ B.stored s.broker := Broker.mem_of_get hget
  cases hready : (s.client p).readyResponsesToAsyncMessages l.correlationId with
  | none => exact h.hand hp hget hready
  | some v =>
    have hsome : ((s.client p).readyResponsesToAsyncMessages l.correlationId).isSome := by
      rw [hready]
      rfl
    -- the letter is an answer to this service
    have hanswer : l.answer = true := by
      by_contra hquestion
      rw [h.ready_eq_none hp hstored (by simpa using hquestion)] at hready
      cases hready
    have hlawful := h.stored _ hstored
    rw [lawful_answer hanswer] at hlawful
    have hauthentic := h.authentic_of_isAnswer hlawful (h.owns_of_consumer hp hstored)
    have hcallbacks : ((s.client p).poll (some l.toEnvelope)).callbacks = [] :=
      poll_callbacks_of_isSome hsome
    have hclient : Inv t (s.setClient p ((s.client p).poll (some l.toEnvelope)).client) := by
      refine h.setClient (fun c hc => h.known p c ((poll_isSome _ _).mp hc)) ?_
      intro c body hc hbody
      by_cases hrefused : l.correlationId ∈ (s.client p).refusedMessages
      · simp only [AmqpClient.poll, hsome, if_true, hrefused, not_true_eq_false, if_false] at hc
        exact h.authentic p c body hc hbody
      · rw [poll_ready_of_isSome hsome hrefused, UnorderedMap.assign] at hc
        split at hc
        · next heq =>
          cases hc
          rw [heq]
          exact hauthentic
        · exact h.authentic p c body hc hbody
    have hconsume : s.consume p l b =
        { s.setClient p ((s.client p).poll (some l.toEnvelope)).client with broker := b } := by
      simp only [AmqpNetwork.consume, hcallbacks, AmqpNetwork.setClient]
    rw [hconsume]
    exact hclient.discard (Broker.Lawful.bindings_get _ _ _ _ hget) (Broker.stored_le_of_get hget)

/-! ## Sending -/

omit [DecidableEq π] in
/-- A new letter is stored once or not at all. -/
theorem Inv.once_publish [B.Lawful] (h : Inv t s) {l : Letter π}
    (hfresh : l.answer = false → l.correlationId ∉ s.questionLetters.map (·.correlationId)) :
    ((s.publish l).questionLetters.map (·.correlationId)).Nodup := by
  have hstored := Broker.publish_stored_of_unique (B := B) (b := s.broker) l fun q q'
    (hq : Binding.mk l.exchange l.routingKey q ∈ _) hq' => h.queue_unique hq hq'
  rcases hstored with hle | ⟨q, hle⟩
  · exact h.once_of_le (Multiset.add_le_add_right (Multiset.map_le_map hle))
  · have hletters : (s.publish l).letters ≤ l ::ₘ s.letters := by
      rw [letters, letters, ← Multiset.cons_add]
      refine Multiset.add_le_add_right ?_
      rw [← Multiset.map_cons Prod.snd (q, l)]
      exact Multiset.map_le_map hle
    refine Multiset.nodup_of_le
      (Multiset.map_le_map (Multiset.filter_le_filter _ hletters)) ?_
    cases hanswer : l.answer with
    | true =>
      rw [Multiset.filter_cons_of_neg _ (by simp [hanswer])]
      exact h.once
    | false =>
      rw [Multiset.filter_cons_of_pos (p := fun l : Letter π => l.answer = false) _ hanswer,
        Multiset.map_cons]
      exact Multiset.nodup_cons.mpr ⟨hfresh hanswer, h.once⟩

theorem Inv.ask [B.Lawful] (h : Inv t s) {p : π} {route : SAmqpRouteParameters}
    {uniqueId : TCorrelationId} {msg : String} (hroute : route ∈ t.routes p) (hnul : NulFree uniqueId)
    (hfresh : uniqueId ∉ s.questions.map (·.correlationId))
    (hs : s.ask p route uniqueId msg = some s') : Inv t s' := by
  obtain ⟨hne, rfl⟩ := ask_eq_some hs
  have hextends : Extends s { s.publish (questionLetter p route uniqueId msg) with
      sending := Function.update s.sending p (some uniqueId)
      questions := s.questions ++
        [{ asker := p, route := route, correlationId := uniqueId, body := msg }] } :=
    ⟨List.subset_append_left _ _, List.Subset.refl _, List.Subset.refl _⟩
  have hnew : (⟨p, route, uniqueId, msg⟩ : Question π) ∈
      s.questions ++ [⟨p, route, uniqueId, msg⟩] :=
    List.mem_append_right _ (List.mem_singleton_self _)
  refine
    { bindings := (h.publish _).bindings
      consumers := h.consumers
      bound := (h.publish _).bound
      questions := fun x hx => ?_
      questions_nodup := ?_
      stored := fun e he => ?_
      handed := fun x hx => ⟨hextends.lawful (h.handed x hx).1, (h.handed x hx).2⟩
      once := ?_
      known := fun q c hc => hextends.known (h.known q c hc)
      sending := fun q c hc => ?_
      authentic := fun q c body hc hbody => hextends.authentic (h.authentic q c body hc hbody) }
  · rcases List.mem_append.mp hx with hx | hx
    · exact h.questions x hx
    · obtain rfl := List.mem_singleton.mp hx
      exact ⟨hroute, hnul, hne⟩
  · rw [List.map_append, List.map_singleton, ← List.concat_eq_append, List.nodup_concat]
    exact ⟨hfresh, h.questions_nodup⟩
  · rcases Broker.mem_publish he with he | ⟨_, heq⟩
    · exact hextends.lawful (h.stored e he)
    · rw [heq]
      exact ⟨_, hnew, rfl, (cStr_of_nulFree hnul).symm, rfl, rfl, rfl⟩
  · refine h.once_publish fun _ hmem => hfresh ?_
    rw [questionLetter, cStr_of_nulFree hnul] at hmem
    exact h.mem_questions_of_questionLetters hmem
  · by_cases hq : q = p
    · subst hq
      simp only [Function.update_self, Option.some.injEq] at hc
      exact Or.inl ⟨_, hnew, rfl, hc⟩
    · simp only [Function.update_of_ne hq] at hc
      exact hextends.known (h.sending q c hc)

omit [DecidableEq π] in
/-- Where an answer goes. -/
theorem Inv.replyAddress (h : Inv t s) {x : Handed π} (hx : x ∈ s.handed) :
    x.request.correlationId ≠ "" ∧ NulFree x.request.correlationId ∧
      (x.letter.answer = false ∧ (∃ y ∈ s.questions,
          y.correlationId = x.request.correlationId ∧
          RoutedAmqpRequest.replyAddress x.request.replyTo = some y.route.address) ∨
        RoutedAmqpRequest.replyAddress x.request.replyTo = some (replyToDummy, replyToDummy)) := by
  obtain ⟨hlawful, _, hid, hreply, _⟩ := h.handed x hx
  rw [hid, hreply]
  cases hanswer : x.letter.answer with
  | true =>
    rw [lawful_answer hanswer] at hlawful
    obtain ⟨y, hy, hyid, _, hdummy, _⟩ := hlawful
    obtain ⟨_, hnul, hne⟩ := h.questions y hy
    rw [← hyid, hdummy]
    exact ⟨hne, hnul, Or.inr (replyAddress_of_not_mem (by decide))⟩
  | false =>
    rw [lawful_question hanswer] at hlawful
    obtain ⟨y, hy, _, hyid, _, _, hreplyTo⟩ := hlawful
    obtain ⟨hroute, hnul, hne⟩ := h.questions y hy
    have hreadable := t.readable _ _ hroute
    have hdivision : IsDivision (replyToOf y.route) AmqpClient.replyToDelimeter
        y.route.predatorExchangePointName y.route.predatorRoutingKeyName :=
      ⟨cStr_of_nulFree (nulFree_join hreadable.exchange hreadable.routingKey (by decide)),
        hreadable.delimeter⟩
    rw [← hyid, hreplyTo]
    exact ⟨hne, hnul, Or.inl ⟨rfl, y, hy, rfl, replyAddress_of_isDivision hdivision⟩⟩

theorem Inv.answer [B.Lawful] (h : Inv t s) {x : Handed π} {msg : String} (hx : x ∈ s.handed)
    (hs : s.answer x msg = some s') : Inv t s' := by
  obtain ⟨hne, hnul, haddress⟩ := h.replyAddress hx
  obtain ⟨ep, rk, hreply⟩ : ∃ ep rk,
      RoutedAmqpRequest.replyAddress x.request.replyTo = some (ep, rk) := by
    rcases haddress with ⟨_, _, _, _, hreply⟩ | hreply
    · exact ⟨_, _, hreply⟩
    · exact ⟨_, _, hreply⟩
  obtain rfl := answer_eq_some hne hreply hs
  have hextends : Extends s { s.publish (answerLetter x ep rk msg) with
      sending := Function.update s.sending x.receiver (some x.request.correlationId)
      answers := s.answers ++
        [{ replier := x.receiver, correlationId := x.request.correlationId, body := msg }] } :=
    ⟨List.Subset.refl _, List.Subset.refl _, List.subset_append_left _ _⟩
  refine
    { bindings := (h.publish _).bindings
      consumers := h.consumers
      bound := (h.publish _).bound
      questions := h.questions
      questions_nodup := h.questions_nodup
      stored := fun e he => ?_
      handed := fun y hy => ⟨hextends.lawful (h.handed y hy).1, (h.handed y hy).2⟩
      once := h.once_publish fun hanswer => absurd (show true = false from hanswer) (by decide)
      known := fun q c hc => hextends.known (h.known q c hc)
      sending := fun q c hc => ?_
      authentic := fun q c body hc hbody => hextends.authentic (h.authentic q c body hc hbody) }
  · rcases Broker.mem_publish he with he | ⟨hbound, heq⟩
    · exact hextends.lawful (h.stored e he)
    · rw [heq, lawful_answer rfl]
      obtain ⟨q, r, hr, haddress', _⟩ := h.mailbox hbound
      rcases haddress with ⟨hquestion, y, hy, hyid, hyreply⟩ | hdummy
      · have hreadable := t.readable _ _ (h.questions y hy).1
        rw [hreply, Option.some.injEq] at hyreply
        refine ⟨y, hy, hyid.trans (cStr_of_nulFree hnul).symm, ?_, rfl, ⟨x, hx, rfl, hquestion, ?_⟩,
          List.mem_append_right _ ?_⟩
        · rw [← hyreply]
          exact Prod.ext (cStr_of_nulFree (congrArg Prod.fst hyreply ▸ hreadable.exchange)).symm
            (cStr_of_nulFree (congrArg Prod.snd hyreply ▸ hreadable.routingKey)).symm
        · rw [← (h.handed x hx).2.2.1]
          exact (cStr_of_nulFree hnul).symm
        · rw [answerLetter, cStr_of_nulFree hnul]
          exact List.mem_singleton_self _
      · -- nobody receives at the address of an answer's reply-to
        rw [hreply, Option.some.injEq, Prod.mk.injEq] at hdummy
        obtain ⟨rfl, rfl⟩ := hdummy
        exact absurd haddress' (t.dummy_unused q r hr)
  · by_cases hq : q = x.receiver
    · subst hq
      simp only [Function.update_self, Option.some.injEq] at hc
      refine Or.inr ⟨x, hx, rfl, ?_⟩
      rw [← hc]
      exact (h.handed x hx).2.2.1.symm
    · simp only [Function.update_of_ne hq] at hc
      exact hextends.known (h.sending q c hc)

/-! ## Runs -/

theorem Inv.createMailbox [B.Lawful] (h : Inv t s) {p : π} {route : SAmqpRouteParameters}
    (hroute : route ∈ t.routes p) : Inv t (s.createMailbox p route) := by
  have hreadable := t.readable p route hroute
  have hle : B.stored (s.createMailbox p route).broker ≤ B.stored s.broker :=
    Broker.Lawful.stored_bind _ _
  refine
    { bindings := fun b hb => ?_
      consumers := fun q queue hqueue => ?_
      bound := fun e he => h.bound e (Multiset.mem_of_le hle he)
      questions := h.questions
      questions_nodup := h.questions_nodup
      stored := fun e he => h.stored e (Multiset.mem_of_le hle he)
      handed := h.handed
      once := h.once_of_le (Multiset.add_le_add_right (Multiset.map_le_map hle))
      known := h.known
      sending := h.sending
      authentic := h.authentic }
  · rcases Broker.Lawful.bindings_bind _ _ hb with rfl | hb
    · refine ⟨p, route, hroute, ?_⟩
      rw [cStr_of_nulFree hreadable.exchange, cStr_of_nulFree hreadable.routingKey,
        cStr_of_nulFree hreadable.queue]
    · exact h.bindings b hb
  · by_cases hq : q = p
    · subst hq
      simp only [AmqpNetwork.createMailbox, Function.update_self, List.mem_append,
        List.mem_singleton] at hqueue
      rcases hqueue with hqueue | rfl
      · exact h.consumers q queue hqueue
      · exact ⟨route, hroute, (cStr_of_nulFree hreadable.queue).symm⟩
    · simp only [AmqpNetwork.createMailbox, Function.update_of_ne hq] at hqueue
      exact h.consumers q queue hqueue

theorem Inv.step [B.Lawful] {a : NetworkAction π} (h : Inv t s) (hs : s.step t a = some s') :
    Inv t s' := by
  cases a with
  | createMailbox p route =>
    obtain ⟨hroute, hs⟩ := Option.ite_none_right_eq_some.mp hs
    exact Option.some.inj hs ▸ h.createMailbox hroute
  | ask p route uniqueId msg =>
    obtain ⟨⟨hroute, _, hnul, hfresh⟩, hs⟩ := Option.ite_none_right_eq_some.mp hs
    exact h.ask hroute hnul hfresh hs
  | answer x msg =>
    obtain ⟨⟨hx, _⟩, hs⟩ := Option.ite_none_right_eq_some.mp hs
    exact h.answer hx hs
  | register p =>
    obtain ⟨corrId, hsending, rfl⟩ := Option.map_eq_some_iff.mp hs
    exact h.register hsending
  | poll p queue =>
    obtain ⟨hp, hs⟩ := Option.ite_none_right_eq_some.mp hs
    split at hs
    · exact Option.some.inj hs ▸ h
    · next l b hget => exact Option.some.inj hs ▸ h.consume hp hget
  | check p request now =>
    obtain rfl := Option.some.inj hs
    have hready :
        (request.checkResponseReadyness now (s.client p)).1.readyResponsesToAsyncMessages =
          (s.client p).readyResponsesToAsyncMessages := by
      unfold AmqpRequest.checkResponseReadyness
      split <;> rfl
    refine h.setClient (fun c hc => h.known p c ?_) fun c body hc => h.authentic p c body ?_
    · rwa [hready] at hc
    · rwa [hready] at hc
  | collect p request =>
    obtain ⟨result, hresult, rfl⟩ := Option.map_eq_some_iff.mp hs
    obtain ⟨⟨out, c⟩, hcollect, rfl⟩ := Option.map_eq_some_iff.mp hresult
    have hclient := getAsyncResponse_eq_some hcollect
    refine h.setClient (fun k hk => h.known p k ?_) fun k body hk => h.authentic p k body ?_
    · rw [hclient] at hk
      exact ((UnorderedMap.isSome_erase _ _ _).mp hk).2
    · simp only [hclient, UnorderedMap.erase] at hk
      split at hk
      · cases hk
      · exact hk
  | expire i =>
    exact Option.some.inj hs ▸
      h.discard (Broker.Lawful.bindings_expire _ _) (Broker.Lawful.stored_expire _ _)

theorem inv_always [B.Lawful] (t : Topology π) (connId : π → TConnectionId) (expiration : π → Int32)
    (observers : π → List Nat) (as : List (NetworkAction π)) :
    AlwaysState (AmqpNetwork.step t) (Inv t) (start B connId expiration observers) as :=
  alwaysState_of_alwaysStep (C := fun _ _ => True) (Inv t) (fun _ _ _ h _ hs => h.step hs) as _
    (inv_start t connId expiration observers) alwaysStep_trivial

def clientRoute : SAmqpRouteParameters where
  predatorExchangePointName := "answers"
  predatorQueueName := "client"
  predatorRoutingKeyName := "a"
  targetExchangePointName := "commands"
  targetRoutingKeyName := "c"

def serverRoute : SAmqpRouteParameters where
  predatorExchangePointName := "commands"
  predatorQueueName := "server"
  predatorRoutingKeyName := "c"

def clientAndServer : Topology Bool where
  routes
    | true => [clientRoute]
    | false => [serverRoute]
  readable p r hr := by
    cases p <;> obtain rfl := List.mem_singleton.mp hr <;>
      exact ⟨by decide, by decide, by decide, by decide⟩
  queue_owner := by decide
  address_owner := by decide
  target_foreign := by decide
  dummy_unused := by decide

def exchangeStart : AmqpNetwork (Broker.direct String (Letter Bool)) :=
  start _ (fun _ => 0) (fun _ => 0) fun _ => [0]

def pingHanded : Handed Bool where
  receiver := false
  request := (exchangeStart.client false).incomingRequest
    (questionLetter true clientRoute "1" "ping").toEnvelope
  letter := questionLetter true clientRoute "1" "ping"

def pingPong : List (NetworkAction Bool) :=
  [.createMailbox true clientRoute, .createMailbox false serverRoute,
    .ask true clientRoute "1" "ping", .register true, .poll false "server",
    .answer pingHanded "pong", .register false, .poll true "client"]

/-- The requests of the observers that were not answers. -/
structure HandedOnce (t : Topology π) (s : AmqpNetwork B) : Prop where
  distinct : ((s.handed.filter fun h => !h.letter.answer).map (·.request.correlationId)).Nodup
  asked : ∀ h ∈ s.handed, h.letter.answer = false → ∃ x ∈ s.questions, x.asker ≠ h.receiver ∧
    t.Owns h.receiver x.route.target ∧ h.request.correlationId = x.correlationId ∧
    h.request.incomingMessage = x.body ∧ h.request.replyTo = replyToOf x.route

omit [DecidableEq π] in
theorem Inv.handedOnce (h : Inv t s) : HandedOnce t s where
  distinct := by
    have hsame : (s.handed.filter fun h => !h.letter.answer).map (·.request.correlationId) =
        ((s.handed.map (·.letter)).filter fun l => l.answer = false).map (·.correlationId) := by
      rw [List.filter_map, List.map_map]
      have hfilter : (fun h : Handed π => !h.letter.answer) =
          (fun l : Letter π => decide (l.answer = false)) ∘ (·.letter) := by
        funext x
        cases hx : x.letter.answer <;> simp [hx]
      rw [hfilter]
      exact List.map_congr_left fun x hx => (h.handed x (List.mem_of_mem_filter hx)).2.2.1
    have honce := h.once
    rw [questionLetters, letters, Multiset.filter_add, Multiset.map_add,
      Multiset.nodup_add] at honce
    rw [hsame]
    exact Multiset.coe_nodup.mp honce.2.1
  asked x hx hquestion := by
    obtain ⟨hlawful, howns, hid, hreply, hbody⟩ := h.handed x hx
    rw [lawful_question hquestion] at hlawful
    obtain ⟨y, hy, hasker, hyid, hybody, htarget, hyreply⟩ := hlawful
    refine ⟨y, hy, ?_, htarget ▸ howns, hid.trans hyid.symm, hbody.trans hybody.symm,
      hreply.trans hyreply⟩
    intro heq
    obtain ⟨r, hr, haddress⟩ := heq ▸ howns
    exact t.target_foreign _ y.route (h.questions y hy).1 r hr (htarget.trans haddress.symm)

/--
**A request is handed out once, to the service it was sent to.**

A request that is not a late answer is handed to the observers of one service, the owner of the
target, and not a second time. It has the text, the correlation id and the reply-to of the question.
-/
theorem requests_handed_once (B : Broker String (Letter π)) [B.Lawful] (t : Topology π)
    (connId : π → TConnectionId) (expiration : π → Int32) (observers : π → List Nat)
    (as : List (NetworkAction π)) :
    AlwaysState (AmqpNetwork.step t) (HandedOnce t) (start B connId expiration observers) as :=
  (inv_always t connId expiration observers as).mono fun _ => Inv.handedOnce

/-- The server gets the question once, although it polls again. -/
theorem requests_handed_once_ping_pong :
    ((runAll (AmqpNetwork.step clientAndServer) exchangeStart
      (pingPong ++ [.poll false "server"])).map fun s => s.handed) = some [pingHanded] ∧
    AlwaysState (AmqpNetwork.step clientAndServer) (HandedOnce clientAndServer) exchangeStart
      (pingPong ++ [.poll false "server"]) :=
  ⟨by decide, requests_handed_once _ _ _ _ _ _⟩

end AmqpNetwork

end MicroserviceCommon
