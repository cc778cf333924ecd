import MicroserviceCommon.Infra.Run
import MicroserviceCommon.Communication.Amqp

/-!
# The threads and the broker around an `AmqpClient`

A step relation over the sending threads, the polling thread and the broker.

* A request is published and registered in two steps. `m_muSendAsync` is held between them.
* A generated correlation id was never seen before. The broker delivers any message at any time,
  one with a generated id only after the publish.
* A blocked call is begun, published and ended in three steps. `m_muSendBlocked` is held throughout.

`Inv` holds in every reachable state. It says which ids can be in the map at all.
-/

namespace MicroserviceCommon

open Infra

/-! ## States -/

/-- A correlation id that this client generated for an asynchronous request. `failed` is a publish
that failed: the request object waits for a response all the same. -/
inductive RequestPhase where
  | unknown | published | registered | failed | collected | timedOut
  deriving DecidableEq, Repr

/-- A reply to a blocked call that `poll` consumed, with the observers of that moment
and the callbacks it made. -/
structure ConsumedReply where
  body : String
  observers : List Nat
  callbacks : List (Nat × AmqpRequest)
  deriving DecidableEq, Repr

/-- `replies` are those that were consumed since the publish. -/
structure BlockedCall where
  correlationId : TCorrelationId
  published : Bool := false
  replies : List ConsumedReply := []
  deriving DecidableEq, Repr

/-- `sending` holds `m_muSendAsync` between publish and registration. `seen` are the ids that were
generated or delivered, `handed` those that observers got with a request. -/
structure AmqpSystem where
  client : AmqpClient := {}
  phase : TCorrelationId → RequestPhase := fun _ => .unknown
  sentAt : TCorrelationId → Int64 := fun _ => 0
  sending : Option TCorrelationId := none
  received : List Envelope := []
  seen : List TCorrelationId := []
  handed : List TCorrelationId := []
  blocked : Option BlockedCall := none

/-- The settings and the observers are free, nothing was sent yet. -/
def AmqpSystem.initial (connId : TConnectionId) (deliveredMessageExpirationSec : Int32)
    (observers : List Nat) : AmqpSystem where
  client :=
    { connId := connId
      deliveredMessageExpirationSec := deliveredMessageExpirationSec
      observers := observers }

inductive AmqpStep where
  | publish (corrId : TCorrelationId) (now : Int64) (ok : Bool)
  | publishReply (corrId : TCorrelationId) (ok : Bool)
  | register
  | deliver (envelope : Envelope)
  | poll
  | check (corrId : TCorrelationId) (now : Int64)
  | collect (corrId : TCorrelationId)
  | beginBlocked (corrId : TCorrelationId)
  | publishBlocked (ok : Bool)
  | endBlocked (timedOut : Bool)
  | addObserver (observer : Nat)
  deriving DecidableEq, Repr

namespace AmqpSystem

/-! ## Steps -/

/-- The object of an asynchronous request whose response is awaited. -/
def request (s : AmqpSystem) (corrId : TCorrelationId) : AmqpRequest where
  correlationId := corrId
  requestTimeMillisec := s.sentAt corrId

/-- The requester branch of `sendMessageAsync`, up to the publish. -/
def publish (s : AmqpSystem) (corrId : TCorrelationId) (now : Int64) (ok : Bool) : AmqpSystem :=
  { s with
    phase := Function.update s.phase corrId (if ok then .published else .failed)
    sentAt := Function.update s.sentAt corrId now
    sending := if ok then some corrId else none
    seen := corrId :: s.seen }

def register (s : AmqpSystem) (corrId : TCorrelationId) : AmqpSystem :=
  { s with
    client := s.client.registerAsync corrId
    phase := if s.phase corrId = .published then Function.update s.phase corrId .registered
      else s.phase
    sending := none }

def deliver (s : AmqpSystem) (envelope : Envelope) : AmqpSystem :=
  { s with received := s.received ++ [envelope], seen := envelope.correlationId :: s.seen }

/-- A reply to the published blocked call is noted. -/
def noteReply (b : BlockedCall) (observers : List Nat) (envelope : Envelope)
    (callbacks : List (Nat × AmqpRequest)) : BlockedCall :=
  if b.published ∧ envelope.correlationId = b.correlationId then
    { b with
      replies := b.replies ++
        [{ body := envelope.body, observers := observers, callbacks := callbacks }] }
  else b

def consume (s : AmqpSystem) (envelope : Envelope) (rest : List Envelope) : AmqpSystem :=
  let result := s.client.poll (some envelope)
  { s with
    client := result.client
    received := rest
    handed := result.callbacks.map (·.2.correlationId) ++ s.handed
    blocked := s.blocked.map fun b => noteReply b s.client.observers envelope result.callbacks }

def check (s : AmqpSystem) (corrId : TCorrelationId) (now : Int64) : AmqpSystem :=
  let result := (s.request corrId).checkResponseReadyness now s.client
  { s with
    client := result.1
    phase := if result.2.1.timeouted then Function.update s.phase corrId .timedOut else s.phase }

def collect (s : AmqpSystem) (corrId : TCorrelationId) : Option AmqpSystem :=
  ((s.request corrId).getAsyncResponse s.client).map fun (_, client, _) =>
    { s with client := client, phase := Function.update s.phase corrId .collected }

def beginBlocked (s : AmqpSystem) (corrId : TCorrelationId) : AmqpSystem :=
  { s with
    client := s.client.beginBlocked corrId
    seen := corrId :: s.seen
    blocked := some { correlationId := corrId } }

def endBlocked (s : AmqpSystem) (b : BlockedCall) : AmqpSystem :=
  { s with client := (s.client.endBlocked b.correlationId).2, blocked := none }

/-- A blocked call ends on its time-out or when the response is there. -/
def step (s : AmqpSystem) : AmqpStep → Option AmqpSystem
  | .publish corrId now ok =>
    if corrId ≠ "" ∧ corrId ∉ s.seen ∧ s.sending = none then some (s.publish corrId now ok)
    else none
  | .publishReply corrId ok =>
    if corrId ≠ "" ∧ corrId ∈ s.handed ∧ s.sending = none then
      some { s with sending := if ok then some corrId else none }
    else none
  | .register => s.sending.map s.register
  | .deliver envelope =>
    if ∀ b ∈ s.blocked, b.published ∨ envelope.correlationId ≠ b.correlationId then
      some (s.deliver envelope)
    else none
  | .poll =>
    match s.received with
    | [] => some s
    | envelope :: rest => some (s.consume envelope rest)
  | .check corrId now =>
    if s.phase corrId = .registered ∨ s.phase corrId = .failed then some (s.check corrId now)
    else none
  | .collect corrId =>
    if s.phase corrId = .registered ∧ s.client.checkResponseReadyness corrId then
      s.collect corrId
    else none
  | .beginBlocked corrId =>
    if corrId ≠ "" ∧ corrId ∉ s.seen ∧ s.blocked = none then some (s.beginBlocked corrId)
    else none
  | .publishBlocked ok =>
    match s.blocked with
    | some b =>
      if b.published then none
      else some { s with blocked := if ok then some { b with published := true } else none }
    | none => none
  | .endBlocked timedOut =>
    match s.blocked with
    | some b =>
      if b.published ∧ (timedOut ∨ s.client.blockedResponseArrived b.correlationId) then
        some (s.endBlocked b)
      else none
    | none => none
  | .addObserver observer => some { s with client := s.client.addObserver observer }

/-- What a step does when it is taken. -/
def StepsTo (s s' : AmqpSystem) : AmqpStep → Prop
  | .publish c now ok => (c ∉ s.seen ∧ s.sending = none) ∧ s' = s.publish c now ok
  | .publishReply c ok => (c ∈ s.handed ∧ s.sending = none) ∧
      s' = { s with sending := if ok then some c else none }
  | .register => ∃ c, s.sending = some c ∧ s' = s.register c
  | .deliver e => (∀ b ∈ s.blocked, b.published ∨ e.correlationId ≠ b.correlationId) ∧
      s' = s.deliver e
  | .poll => s.received = [] ∧ s' = s ∨
      ∃ e rest, s.received = e :: rest ∧ s' = s.consume e rest
  | .check c now => (s.phase c = .registered ∨ s.phase c = .failed) ∧ s' = s.check c now
  | .collect c => s.phase c = .registered ∧ s.collect c = some s'
  | .beginBlocked c => (c ∉ s.seen ∧ s.blocked = none) ∧ s' = s.beginBlocked c
  | .publishBlocked ok => ∃ b, s.blocked = some b ∧ b.published = false ∧
      s' = { s with blocked := if ok then some { b with published := true } else none }
  | .endBlocked _ => ∃ b, s.blocked = some b ∧ s' = s.endBlocked b
  | .addObserver observer => s' = { s with client := s.client.addObserver observer }

theorem stepsTo_of_step {s s' : AmqpSystem} {a : AmqpStep} (hs : s.step a = some s') :
    s.StepsTo s' a := by
  cases a with
  | publish c now ok =>
    obtain ⟨⟨_, hc⟩, hs⟩ := Option.ite_none_right_eq_some.mp hs
    exact ⟨hc, (Option.some.inj hs).symm⟩
  | publishReply c ok =>
    obtain ⟨⟨_, hc⟩, hs⟩ := Option.ite_none_right_eq_some.mp hs
    exact ⟨hc, (Option.some.inj hs).symm⟩
  | register =>
    obtain ⟨c, hsend, hs⟩ := Option.map_eq_some_iff.mp hs
    exact ⟨c, hsend, hs.symm⟩
  | deliver e =>
    obtain ⟨he, hs⟩ := Option.ite_none_right_eq_some.mp hs
    exact ⟨he, (Option.some.inj hs).symm⟩
  | poll =>
    simp only [step] at hs
    split at hs
    · next hnil => exact Or.inl ⟨hnil, (Option.some.inj hs).symm⟩
    · next e rest hr => exact Or.inr ⟨e, rest, hr, (Option.some.inj hs).symm⟩
  | check c now =>
    obtain ⟨hc, hs⟩ := Option.ite_none_right_eq_some.mp hs
    exact ⟨hc, (Option.some.inj hs).symm⟩
  | collect c =>
    obtain ⟨⟨hc, _⟩, hs⟩ := Option.ite_none_right_eq_some.mp hs
    exact ⟨hc, hs⟩
  | beginBlocked c =>
    obtain ⟨⟨_, hc⟩, hs⟩ := Option.ite_none_right_eq_some.mp hs
    exact ⟨hc, (Option.some.inj hs).symm⟩
  | publishBlocked ok =>
    simp only [step] at hs
    split at hs
    · next b hb =>
      obtain ⟨hp, hs⟩ := Option.ite_none_left_eq_some.mp hs
      exact ⟨b, hb, Bool.eq_false_iff.mpr hp, (Option.some.inj hs).symm⟩
    · cases hs
  | endBlocked timedOut =>
    simp only [step] at hs
    split at hs
    · next b hb =>
      obtain ⟨_, hs⟩ := Option.ite_none_right_eq_some.mp hs
      exact ⟨b, hb, (Option.some.inj hs).symm⟩
    · cases hs
  | addObserver observer => exact (Option.some.inj hs).symm

end AmqpSystem

/-! ## The invariant -/

/-- No reply to the call was handed to an observer. -/
def BlockedCall.Unhanded (b : BlockedCall) : Prop := ∀ r ∈ b.replies, r.callbacks = []

namespace AmqpSystem

/-- While observers know nothing of a blocked call, nobody puts its id into the map. -/
structure BlockedInv (s : AmqpSystem) (b : BlockedCall) : Prop where
  seen : b.correlationId ∈ s.seen
  unknown : s.phase b.correlationId = .unknown
  unpublished : b.published = false →
    b.replies = [] ∧ ∀ e ∈ s.received, e.correlationId ≠ b.correlationId
  unhanded : b.Unhanded → ¬(s.client.readyResponsesToAsyncMessages b.correlationId).isSome ∧
    s.sending ≠ some b.correlationId ∧ b.correlationId ∉ s.handed
  observers : b.Unhanded ↔ ∀ r ∈ b.replies, r.observers = []

structure Inv (s : AmqpSystem) : Prop where
  ready_seen : ∀ c, (s.client.readyResponsesToAsyncMessages c).isSome → c ∈ s.seen
  refused_seen : ∀ c ∈ s.client.refusedMessages, c ∈ s.seen
  handed_seen : ∀ c ∈ s.handed, c ∈ s.seen
  received_seen : ∀ e ∈ s.received, e.correlationId ∈ s.seen
  sending_seen : ∀ c, s.sending = some c → c ∈ s.seen
  phase_seen : ∀ c, s.phase c ≠ .unknown → c ∈ s.seen
  published : ∀ c, s.phase c = .published →
    s.sending = some c ∧ ¬(s.client.readyResponsesToAsyncMessages c).isSome ∧
      c ∉ s.client.refusedMessages
  registered : ∀ c, s.phase c = .registered →
    (s.client.readyResponsesToAsyncMessages c).isSome ∧ c ∉ s.client.refusedMessages
  blocked : ∀ b, s.blocked = some b → s.BlockedInv b

variable {s s' : AmqpSystem} {c : TCorrelationId}

theorem inv_initial (connId : TConnectionId) (expirationSec : Int32) (observers : List Nat) :
    (initial connId expirationSec observers).Inv := by
  constructor <;> simp [initial, UnorderedMap.empty]

/-- More ids may have been seen. -/
theorem Inv.see (h : s.Inv) (c : TCorrelationId) : Inv { s with seen := c :: s.seen } :=
  { h with
    ready_seen := fun q hq => List.mem_cons_of_mem c (h.ready_seen q hq)
    refused_seen := fun q hq => List.mem_cons_of_mem c (h.refused_seen q hq)
    handed_seen := fun q hq => List.mem_cons_of_mem c (h.handed_seen q hq)
    received_seen := fun e he => List.mem_cons_of_mem c (h.received_seen e he)
    sending_seen := fun q hq => List.mem_cons_of_mem c (h.sending_seen q hq)
    phase_seen := fun q hq => List.mem_cons_of_mem c (h.phase_seen q hq)
    blocked := fun b hb =>
      { h.blocked b hb with seen := List.mem_cons_of_mem c (h.blocked b hb).seen } }

/-! ## Sending an asynchronous request -/

theorem phase_publish (now : Int64) (ok : Bool) (q : TCorrelationId) :
    (s.publish c now ok).phase q =
      if q = c then (if ok then .published else .failed) else s.phase q :=
  Function.update_apply ..

/-- A new id is in no map, so nothing has to be known of it. -/
theorem inv_publish (h : s.Inv) (now : Int64) (ok : Bool) (hc : c ∉ s.seen)
    (hs : s.sending = none) : (s.publish c now ok).Inv where
  ready_seen := (h.see c).ready_seen
  refused_seen := (h.see c).refused_seen
  handed_seen := (h.see c).handed_seen
  received_seen := (h.see c).received_seen
  sending_seen q hq := by
    cases ok <;> cases hq
    exact List.mem_cons_self
  phase_seen q hq := by
    rw [phase_publish] at hq
    split at hq
    · next heq =>
      rw [heq]
      exact List.mem_cons_self
    · exact (h.see c).phase_seen q hq
  published q hq := by
    rw [phase_publish] at hq
    split at hq
    · next heq =>
      subst heq
      cases ok with
      | false => cases hq
      | true =>
        exact ⟨rfl, fun hr => hc (h.ready_seen q hr), fun hr => hc (h.refused_seen q hr)⟩
    · -- `m_muSendAsync` was free, so no other request waits for its registration.
      have hsend := (h.published q hq).1
      rw [hs] at hsend
      cases hsend
  registered q hq := by
    rw [phase_publish] at hq
    split at hq
    · cases ok <;> cases hq
    · exact h.registered q hq
  blocked b hb := by
    have hinv := h.blocked b hb
    have hne : b.correlationId ≠ c := by
      rintro rfl
      exact hc hinv.seen
    refine { (h.see c).blocked b hb with unknown := ?_, unhanded := ?_ }
    · rw [phase_publish, if_neg hne]
      exact hinv.unknown
    · intro hu
      obtain ⟨hready, _, hhanded⟩ := hinv.unhanded hu
      refine ⟨hready, ?_, hhanded⟩
      cases ok
      · exact fun hsend => by cases hsend
      · exact fun hsend => hne (Option.some.inj hsend).symm

/-- An observer answers only what it got. A blocked call is among that after it failed. -/
theorem inv_publishReply (h : s.Inv) (hc : c ∈ s.handed) (hs : s.sending = none) (ok : Bool) :
    Inv { s with sending := if ok then some c else none } :=
  { h with
    sending_seen := by
      intro q hq
      cases ok <;> cases hq
      exact h.handed_seen c hc
    published := by
      intro q hq
      have hsend := (h.published q hq).1
      rw [hs] at hsend
      cases hsend
    blocked := by
      intro b hb
      refine { h.blocked b hb with unhanded := ?_ }
      intro hu
      obtain ⟨hready, _, hhanded⟩ := (h.blocked b hb).unhanded hu
      refine ⟨hready, ?_, hhanded⟩
      cases ok
      · exact fun hsend => by cases hsend
      · intro hsend
        cases hsend
        exact hhanded hc }

theorem phase_register (q : TCorrelationId) :
    (s.register c).phase q =
      if q = c ∧ s.phase q = .published then .registered else s.phase q := by
  by_cases hq : q = c
  · subst hq
    by_cases hp : s.phase q = .published <;> simp [register, hp]
  · by_cases hp : s.phase c = .published <;> simp [register, hp, hq]

theorem inv_register (h : s.Inv) (hs : s.sending = some c) : (s.register c).Inv where
  ready_seen q hq := by
    rcases (isSome_registerAsync s.client c q).mp hq with rfl | hr
    · exact h.sending_seen q hs
    · exact h.ready_seen q hr
  refused_seen := h.refused_seen
  handed_seen := h.handed_seen
  received_seen := h.received_seen
  sending_seen := fun q hq => by cases hq
  phase_seen q hq := by
    rw [phase_register] at hq
    split at hq
    · next hpub =>
      rw [hpub.1]
      exact h.sending_seen c hs
    · exact h.phase_seen q hq
  published q hq := by
    rw [phase_register] at hq
    split at hq
    · cases hq
    · next hpub =>
      -- The published request is the one that is registered now.
      have hsend := (h.published q hq).1
      rw [hs, Option.some.injEq] at hsend
      exact absurd ⟨hsend.symm, hq⟩ hpub
  registered q hq := by
    rw [phase_register] at hq
    split at hq
    · next hpub =>
      exact ⟨(isSome_registerAsync s.client c q).mpr (Or.inl hpub.1), (h.published q hpub.2).2.2⟩
    · obtain ⟨hready, hrefused⟩ := h.registered q hq
      exact ⟨(isSome_registerAsync s.client c q).mpr (Or.inr hready), hrefused⟩
  blocked b hb := by
    have hinv := h.blocked b hb
    refine { hinv with unknown := ?_, unhanded := ?_ }
    · rw [phase_register, if_neg (by simp [hinv.unknown])]
      exact hinv.unknown
    · intro hu
      obtain ⟨hready, hsend, hhanded⟩ := hinv.unhanded hu
      refine ⟨fun hr => ?_, fun hsend => (by cases hsend), hhanded⟩
      rcases (isSome_registerAsync s.client c _).mp hr with heq | hr
      · exact hsend (heq ▸ hs)
      · exact hready hr

/-! ## Receiving -/

theorem inv_deliver (h : s.Inv) {e : Envelope}
    (he : ∀ b ∈ s.blocked, b.published ∨ e.correlationId ≠ b.correlationId) :
    (s.deliver e).Inv :=
  { h.see e.correlationId with
    received_seen := by
      intro e' he'
      rcases List.mem_append.mp he' with hold | hnew
      · exact (h.see e.correlationId).received_seen e' hold
      · rw [List.mem_singleton.mp hnew]
        exact List.mem_cons_self
    blocked := by
      intro b hb
      refine { (h.see e.correlationId).blocked b hb with unpublished := ?_ }
      intro hp
      obtain ⟨hnil, hreceived⟩ := (h.blocked b hb).unpublished hp
      refine ⟨hnil, fun e' he' => ?_⟩
      rcases List.mem_append.mp he' with hold | hnew
      · exact hreceived e' hold
      · rw [List.mem_singleton.mp hnew]
        exact (he b hb).resolve_left (by simp [hp]) }

theorem unhanded_append (b : BlockedCall) (r : ConsumedReply) :
    BlockedCall.Unhanded { b with replies := b.replies ++ [r] } ↔
      b.Unhanded ∧ r.callbacks = [] := by
  simp only [BlockedCall.Unhanded, List.forall_mem_append, List.forall_mem_singleton]

/-- **A reply to a blocked call goes to the observers, if there are any.** -/
theorem BlockedInv.callbacks_eq_nil {b : BlockedCall} (h : s.BlockedInv b) (hu : b.Unhanded)
    {e : Envelope} (he : e.correlationId = b.correlationId) :
    (s.client.poll (some e)).callbacks = [] ↔ s.client.observers = [] := by
  have hnone : s.client.readyResponsesToAsyncMessages e.correlationId = none := by
    rw [he]
    exact Option.not_isSome_iff_eq_none.mp (h.unhanded hu).1
  rw [poll_of_none hnone]
  exact List.map_eq_nil_iff

section Consume

variable {e : Envelope} {rest : List Envelope}

theorem mem_handed_consume :
    c ∈ (s.consume e rest).handed → c = e.correlationId ∨ c ∈ s.handed := by
  intro hc
  rcases List.mem_append.mp hc with hnew | hold
  · obtain ⟨callback, hcallback, rfl⟩ := List.mem_map.mp hnew
    exact Or.inl (poll_callbacks_correlationId hcallback)
  · exact Or.inr hold

theorem blockedInv_consume {b : BlockedCall} (h : s.BlockedInv b) (hr : s.received = e :: rest) :
    (s.consume e rest).BlockedInv
      (noteReply b s.client.observers e (s.client.poll (some e)).callbacks) := by
  have hhead : e ∈ s.received := by
    rw [hr]
    exact List.mem_cons_self
  have htail : ∀ e' ∈ rest, e' ∈ s.received := by
    rw [hr]
    exact fun e' => List.mem_cons_of_mem e
  by_cases hnote : b.published ∧ e.correlationId = b.correlationId
  · rw [noteReply, if_pos hnote]
    refine { seen := h.seen, unknown := h.unknown, unpublished := ?_, unhanded := ?_,
             observers := ?_ }
    · intro hp
      exact absurd hnote.1 (by simp [show b.published = false from hp])
    · rw [unhanded_append]
      rintro ⟨hu, hnil⟩
      obtain ⟨hready, hsend, hhanded⟩ := h.unhanded hu
      refine ⟨fun hsome => hready ((poll_isSome _ _).mp hsome), hsend, ?_⟩
      replace hnil : (s.client.poll (some e)).callbacks = [] := hnil
      simp only [consume, hnil, List.map_nil, List.nil_append]
      exact hhanded
    · rw [unhanded_append, List.forall_mem_append, List.forall_mem_singleton]
      exact (and_congr_right fun hu => h.callbacks_eq_nil hu hnote.2).trans
        (and_congr_left' h.observers)
  · rw [noteReply, if_neg hnote]
    refine { h with unpublished := ?_, unhanded := ?_ }
    · intro hp
      exact ⟨(h.unpublished hp).1, fun e' he' => (h.unpublished hp).2 e' (htail e' he')⟩
    · intro hu
      obtain ⟨hready, hsend, hhanded⟩ := h.unhanded hu
      refine ⟨fun hsome => hready ((poll_isSome _ _).mp hsome), hsend, fun hc => ?_⟩
      rcases mem_handed_consume hc with heq | hold
      · -- A message with the id of the call is there only after the publish.
        have hp : b.published = false := Bool.eq_false_iff.mpr fun hp => hnote ⟨hp, heq.symm⟩
        exact (h.unpublished hp).2 e hhead heq.symm
      · exact hhanded hold

theorem inv_consume (h : s.Inv) (hr : s.received = e :: rest) : (s.consume e rest).Inv where
  ready_seen q hq := h.ready_seen q ((poll_isSome _ q).mp hq)
  refused_seen q hq := h.refused_seen q (poll_refused_subset _ hq)
  handed_seen q hq := by
    rcases mem_handed_consume hq with rfl | hold
    · exact h.received_seen e (by rw [hr]; exact List.mem_cons_self)
    · exact h.handed_seen q hold
  received_seen e' he' := h.received_seen e' (by rw [hr]; exact List.mem_cons_of_mem e he')
  sending_seen := h.sending_seen
  phase_seen := h.phase_seen
  published q hq := by
    obtain ⟨hsend, hready, hrefused⟩ := h.published q hq
    exact ⟨hsend, fun hsome => hready ((poll_isSome _ q).mp hsome),
      fun hmem => hrefused (poll_refused_subset _ hmem)⟩
  registered q hq := by
    obtain ⟨hready, hrefused⟩ := h.registered q hq
    exact ⟨(poll_isSome _ q).mpr hready, fun hmem => hrefused (poll_refused_subset _ hmem)⟩
  blocked := by
    intro b' hb'
    obtain ⟨b, hb, rfl⟩ := Option.map_eq_some_iff.mp hb'
    exact blockedInv_consume (h.blocked b hb) hr

end Consume

/-! ## Waiting for a response -/

/-- **A request that is no longer awaited leaves the others alone.** -/
theorem inv_settle (h : s.Inv) (hc : s.phase c = .registered ∨ s.phase c = .failed)
    {client : AmqpClient} {p : RequestPhase} (hp : p = .collected ∨ p = .timedOut)
    (hready : ∀ q, (client.readyResponsesToAsyncMessages q).isSome →
      (s.client.readyResponsesToAsyncMessages q).isSome)
    (hother : ∀ q, q ≠ c → (s.client.readyResponsesToAsyncMessages q).isSome →
      (client.readyResponsesToAsyncMessages q).isSome)
    (hrefused : ∀ q ∈ client.refusedMessages, q = c ∨ q ∈ s.client.refusedMessages) :
    Inv { s with client := client, phase := Function.update s.phase c p } := by
  have hknown : s.phase c ≠ .unknown := by
    rcases hc with hc | hc <;> simp [hc]
  have hphase : ∀ q v, Function.update s.phase c p q = v →
      q = c ∧ p = v ∨ q ≠ c ∧ s.phase q = v := by
    intro q v hq
    rw [Function.update_apply] at hq
    split at hq
    · next heq => exact Or.inl ⟨heq, hq⟩
    · next hne => exact Or.inr ⟨hne, hq⟩
  refine { h with ready_seen := ?_, refused_seen := ?_, phase_seen := ?_, published := ?_,
                  registered := ?_, blocked := ?_ }
  · exact fun q hq => h.ready_seen q (hready q hq)
  · intro q hq
    rcases hrefused q hq with rfl | hq
    · exact h.phase_seen q hknown
    · exact h.refused_seen q hq
  · intro q hq
    rcases hphase q _ rfl with ⟨rfl, _⟩ | ⟨_, hsame⟩
    · exact h.phase_seen q hknown
    · exact h.phase_seen q fun hunknown => hq (hsame.symm.trans hunknown)
  · intro q hq
    rcases hphase q _ hq with ⟨_, rfl⟩ | ⟨hne, hq⟩
    · simp at hp
    · obtain ⟨hsend, hnone, hmem⟩ := h.published q hq
      exact ⟨hsend, fun hsome => hnone (hready q hsome),
        fun hq => (hrefused q hq).elim hne hmem⟩
  · intro q hq
    rcases hphase q _ hq with ⟨_, rfl⟩ | ⟨hne, hq⟩
    · simp at hp
    · obtain ⟨hsome, hmem⟩ := h.registered q hq
      exact ⟨hother q hne hsome, fun hq => (hrefused q hq).elim hne hmem⟩
  · intro b hb
    have hinv := h.blocked b hb
    have hne : b.correlationId ≠ c := fun heq => hknown (heq ▸ hinv.unknown)
    refine { hinv with unknown := ?_, unhanded := ?_ }
    · exact (Function.update_of_ne hne p s.phase).trans hinv.unknown
    · intro hu
      obtain ⟨hnone, hrest⟩ := hinv.unhanded hu
      exact ⟨fun hsome => hnone (hready _ hsome), hrest⟩

/-- A check without time-out changes nothing. -/
theorem check_eq (now : Int64) :
    s.check c now = s ∨
      s.check c now = { s with
        client := { s.client with refusedMessages := s.client.refusedMessages.insert c }
        phase := Function.update s.phase c .timedOut } := by
  unfold check AmqpRequest.checkResponseReadyness
  dsimp only
  split
  · exact Or.inr rfl
  · exact Or.inl rfl

/-- A request that timed out is refused from now on, whether its id is in the map or not. -/
theorem inv_check (h : s.Inv) (now : Int64)
    (hc : s.phase c = .registered ∨ s.phase c = .failed) : (s.check c now).Inv := by
  rcases check_eq (s := s) (c := c) now with heq | heq
  · rw [heq]
    exact h
  · rw [heq]
    exact inv_settle h hc (Or.inr rfl) (fun _ hq => hq) (fun _ _ hq => hq)
      fun _ hq => List.mem_insert_iff.mp hq

theorem collect_eq_some (hs : s.collect c = some s') :
    s' = { s with
      client := { s.client with
        readyResponsesToAsyncMessages := s.client.readyResponsesToAsyncMessages.erase c }
      phase := Function.update s.phase c .collected } := by
  obtain ⟨_, hget, rfl⟩ := Option.map_eq_some_iff.mp hs
  obtain ⟨_, hclient, rfl⟩ := Option.map_eq_some_iff.mp hget
  simp only [getAsyncResponse_eq_some hclient, request]

theorem inv_collect (h : s.Inv) (hc : s.phase c = .registered) (hs : s.collect c = some s') :
    s'.Inv := by
  obtain rfl := collect_eq_some hs
  exact inv_settle h (Or.inl hc) (Or.inl rfl)
    (fun q hq => ((UnorderedMap.isSome_erase _ _ q).mp hq).2)
    (fun q hne hq => (UnorderedMap.isSome_erase _ _ q).mpr ⟨hne, hq⟩) fun _ hq => Or.inr hq

/-! ## Blocked calls -/

theorem inv_beginBlocked (h : s.Inv) (hc : c ∉ s.seen) : (s.beginBlocked c).Inv :=
  { h.see c with
    blocked := by
      rintro b ⟨⟩
      exact {
        seen := List.mem_cons_self
        unknown := by_contra fun hp => hc (h.phase_seen c hp)
        unpublished := fun _ => ⟨rfl, by
          rintro e he rfl
          exact hc (h.received_seen e he)⟩
        unhanded := fun _ => ⟨fun hr => hc (h.ready_seen c hr), fun hs => hc (h.sending_seen c hs),
          fun hh => hc (h.handed_seen c hh)⟩
        observers := ⟨fun _ _ hr => absurd hr List.not_mem_nil,
          fun _ _ hr => absurd hr List.not_mem_nil⟩ } }

theorem inv_publishBlocked (h : s.Inv) {b : BlockedCall} (hb : s.blocked = some b) (ok : Bool) :
    Inv { s with blocked := if ok then some { b with published := true } else none } :=
  { h with
    blocked := by
      cases ok with
      | false => rintro _ ⟨⟩
      | true =>
        rintro _ ⟨⟩
        exact { h.blocked b hb with unpublished := fun hp => by cases hp } }

/-- The id of a blocked call is no request's, so no request loses its place in the map. -/
theorem inv_endBlocked (h : s.Inv) {b : BlockedCall} (hb : s.blocked = some b) :
    (s.endBlocked b).Inv :=
  { h with
    ready_seen := fun q hq => h.ready_seen q ((isSome_endBlocked _ _ q).mp hq).2
    published := by
      intro q hq
      obtain ⟨hsend, hready, hrefused⟩ := h.published q hq
      exact ⟨hsend, fun hsome => hready ((isSome_endBlocked _ _ q).mp hsome).2, hrefused⟩
    registered := by
      intro q hq
      obtain ⟨hready, hrefused⟩ := h.registered q hq
      refine ⟨(isSome_endBlocked _ _ q).mpr ⟨?_, hready⟩, hrefused⟩
      rintro rfl
      rw [endBlocked, (h.blocked b hb).unknown] at hq
      cases hq
    blocked := fun _ hnone => by cases hnone }

theorem inv_addObserver (h : s.Inv) (observer : Nat) :
    Inv { s with client := s.client.addObserver observer } :=
  { h with blocked := fun b hb => { h.blocked b hb with } }

/-! ## All steps -/

/-- **Every step keeps the invariant.** -/
theorem inv_step (h : s.Inv) {a : AmqpStep} (hs : s.step a = some s') : s'.Inv := by
  have hs := stepsTo_of_step hs
  cases a with
  | publish c now ok =>
    obtain ⟨⟨hc, hsend⟩, rfl⟩ := hs
    exact inv_publish h now ok hc hsend
  | publishReply c ok =>
    obtain ⟨⟨hc, hsend⟩, rfl⟩ := hs
    exact inv_publishReply h hc hsend ok
  | register =>
    obtain ⟨c, hsend, rfl⟩ := hs
    exact inv_register h hsend
  | deliver e =>
    obtain ⟨he, rfl⟩ := hs
    exact inv_deliver h he
  | poll =>
    rcases hs with ⟨_, rfl⟩ | ⟨e, rest, hr, rfl⟩
    · exact h
    · exact inv_consume h hr
  | check c now =>
    obtain ⟨hc, rfl⟩ := hs
    exact inv_check h now hc
  | collect c =>
    obtain ⟨hc, hs⟩ := hs
    exact inv_collect h hc hs
  | beginBlocked c =>
    obtain ⟨⟨hc, _⟩, rfl⟩ := hs
    exact inv_beginBlocked h hc
  | publishBlocked ok =>
    obtain ⟨b, hb, _, rfl⟩ := hs
    exact inv_publishBlocked h hb ok
  | endBlocked timedOut =>
    obtain ⟨b, hb, rfl⟩ := hs
    exact inv_endBlocked h hb
  | addObserver observer =>
    obtain rfl := hs
    exact inv_addObserver h observer

end AmqpSystem

end MicroserviceCommon
