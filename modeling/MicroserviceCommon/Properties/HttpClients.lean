import Mathlib.Data.List.Nodup
import MicroserviceCommon.Infra.Numbered
import MicroserviceCommon.Properties.HttpAnswers

/-!
# The clients of a web server

What the clients of a service read on their connections, in every state that any interleaving of
the clients, mongoose and the two threads reaches, as long as nobody answers during `mg_mgr_poll`.

* `Inv` — each request is lost or passes the queue in its order
* `next_iff` — when a command is the next one of its client
* `answers_matched_iff` — when every client reads the answers to its own requests
-/

namespace MicroserviceCommon

open Infra

namespace HttpService

variable {κ : Type*} [DecidableEq κ] {knows : WebserverRequest → Bool}
variable {s s' : HttpService κ} {a : HttpServiceAction κ} {client k : κ} {command : HttpRequest κ}

/-- The answers to the requests of a client. -/
def answersTo (s : HttpService κ) (client : κ) : List (HttpReply κ) :=
  s.replies.filter fun r => r.command.sender = client

/-- The commands that were answered, the one that is executed, and those of the queue. -/
def taken (s : HttpService κ) : List (HttpRequest κ) :=
  s.replies.map (·.command) ++ (s.executing.toList ++ s.commands.arrivedCommands)

/-! ## The queue -/

structure Inv (s : HttpService κ) : Prop where
  size : ∀ r ∈ s.replies, r.message.length < 2 ^ 31
  nodup : s.requests.Nodup
  order : s.taken.Sublist s.requests
  taken_or_lost : ∀ r ∈ s.requests, r ∈ s.taken ∨ r ∈ s.lost
  lost : ∀ r ∈ s.lost, r ∈ s.requests ∧ r ∉ s.taken
  numbered : ∀ k, Numbered (·.number) (s.requestsOf k)

theorem inv_start (server : WebServer) : Inv ({ server := server } : HttpService κ) where
  size _ hr := absurd hr List.not_mem_nil
  nodup := List.nodup_nil
  order := List.Sublist.refl []
  taken_or_lost _ hr := absurd hr List.not_mem_nil
  lost _ hr := absurd hr List.not_mem_nil
  numbered _ := Numbered.nil

theorem mem_requestsOf {r : HttpRequest κ} :
    r ∈ s.requestsOf k ↔ r ∈ s.requests ∧ r.sender = k := by
  simp [requestsOf]

/-- A request with a new number is a new request. -/
theorem Inv.not_mem_requests (h : Inv s) {r : HttpRequest κ}
    (hnumber : r.number = (s.requestsOf r.sender).length) : r ∉ s.requests := by
  intro hr
  have hlt := (h.numbered r.sender).number_lt (mem_requestsOf.mpr ⟨hr, rfl⟩)
  omega

theorem filter_sender_append (r : HttpRequest κ) :
    (s.requests ++ [r]).filter (fun r => decide (r.sender = k)) =
      s.requestsOf k ++ if r.sender = k then [r] else [] := by
  rw [List.filter_append, requestsOf]
  by_cases hk : r.sender = k <;> simp [hk]

omit [DecidableEq κ] in
theorem taken_arrive (r : HttpRequest κ) : (s.arrive knows r).taken =
    s.taken ++ if knows r.request then [r] else [] := by
  have hcommands := CommandQueue.arrivedCommands_callback
    (fun r : HttpRequest κ => if knows r.request then some r else none) s.commands r
  rw [taken, taken, arrive, hcommands]
  cases knows r.request <;> simp

theorem Inv.arrive (h : Inv s) {r : HttpRequest κ}
    (hr : r.number = (s.requestsOf r.sender).length) : Inv (s.arrive knows r) := by
  have hnew : r ∉ s.requests := h.not_mem_requests hr
  have htaken : (s.arrive knows r).taken = _ := taken_arrive r
  have hlost : (s.arrive knows r).lost = if knows r.request then s.lost else s.lost ++ [r] := rfl
  refine ⟨h.size, ?_, ?_, ?_, ?_, fun k => ?_⟩
  · exact List.nodup_append.mpr ⟨h.nodup, List.nodup_singleton r, fun r' hr' _ hmem heq =>
      hnew ((heq.trans (List.mem_singleton.mp hmem)) ▸ hr')⟩
  · rw [htaken]
    refine h.order.append ?_
    split
    · exact List.Sublist.refl _
    · exact List.nil_sublist _
  · intro r' hr'
    rw [htaken, hlost]
    rcases List.mem_append.mp hr' with hr' | hr'
    · rcases h.taken_or_lost r' hr' with ht | hl
      · exact Or.inl (List.mem_append_left _ ht)
      · refine Or.inr ?_
        split
        · exact hl
        · exact List.mem_append_left _ hl
    · rw [List.mem_singleton.mp hr']
      cases knows r.request <;> simp
  · intro r' hr'
    rw [htaken]
    rw [hlost] at hr'
    cases hknows : knows r.request with
    | true =>
      rw [hknows, if_pos rfl] at hr'
      obtain ⟨hmem, hnot⟩ := h.lost r' hr'
      refine ⟨List.mem_append_left _ hmem, ?_⟩
      rw [if_pos rfl, List.mem_append, not_or, List.mem_singleton]
      exact ⟨hnot, fun heq => hnew (heq ▸ hmem)⟩
    | false =>
      rw [hknows, if_neg Bool.false_ne_true] at hr'
      rw [if_neg Bool.false_ne_true, List.append_nil]
      rcases List.mem_append.mp hr' with hr' | hr'
      · obtain ⟨hmem, hnot⟩ := h.lost r' hr'
        exact ⟨List.mem_append_left _ hmem, hnot⟩
      · rw [List.mem_singleton.mp hr']
        exact ⟨List.mem_append_right _ List.mem_cons_self, fun ht => hnew (h.order.subset ht)⟩
  · show Numbered _ ((s.requests ++ [r]).filter fun r => decide (r.sender = k))
    rw [filter_sender_append]
    split
    · next hk => exact (h.numbered k).concat (hk ▸ hr)
    · rw [List.append_nil]
      exact h.numbered k

/-- What changes the queue only moves a command, or loses it. -/
theorem Inv.of_taken (h : Inv s) (hsize : ∀ r ∈ s'.replies, r.message.length < 2 ^ 31)
    (hrequests : s'.requests = s.requests) (htaken : s'.taken = s.taken)
    (hlost : s'.lost = s.lost) : Inv s' := by
  have hof : ∀ k, s'.requestsOf k = s.requestsOf k := fun k => by
    rw [requestsOf, requestsOf, hrequests]
  refine ⟨hsize, ?_, ?_, ?_, ?_, fun k => ?_⟩
  · rw [hrequests]
    exact h.nodup
  · rw [htaken, hrequests]
    exact h.order
  · rw [htaken, hrequests, hlost]
    exact h.taken_or_lost
  · rw [htaken, hrequests, hlost]
    exact h.lost
  · rw [hof]
    exact h.numbered k

omit [DecidableEq κ] in
theorem taken_of_executing (hexec : s.executing = some command) :
    s.taken = s.replies.map (·.command) ++ command :: s.commands.arrivedCommands := by
  rw [taken, hexec]
  rfl

/-- A command that ends without an answer is lost. -/
theorem Inv.finish (h : Inv s) (hexec : s.executing = some command) :
    Inv { s with executing := none, lost := s.lost ++ [command] } := by
  have hbefore := taken_of_executing hexec
  have hafter : ({ s with executing := none, lost := s.lost ++ [command] } :
      HttpService κ).taken = s.replies.map (·.command) ++ s.commands.arrivedCommands := rfl
  have hless : (s.replies.map (·.command) ++ s.commands.arrivedCommands).Sublist s.taken := by
    rw [hbefore]
    exact (List.Sublist.refl _).append (List.sublist_cons_self _ _)
  have hnodup : (command :: (s.replies.map (·.command) ++ s.commands.arrivedCommands)).Nodup := by
    rw [← List.nodup_middle, ← hbefore]
    exact h.nodup.sublist h.order
  have hcommand : command ∈ s.taken := by
    rw [hbefore]
    exact List.mem_append_right _ List.mem_cons_self
  refine ⟨h.size, h.nodup, ?_, ?_, ?_, h.numbered⟩
  · rw [hafter]
    exact hless.trans h.order
  · intro r hr
    rw [hafter]
    rcases h.taken_or_lost r hr with ht | hl
    · rw [hbefore] at ht
      rcases List.mem_cons.mp (List.perm_middle.mem_iff.mp ht) with rfl | ht
      · exact Or.inr (List.mem_append_right _ List.mem_cons_self)
      · exact Or.inl ht
    · exact Or.inr (List.mem_append_left _ hl)
  · intro r hr
    rw [hafter]
    rcases List.mem_append.mp hr with hr | hr
    · obtain ⟨hmem, hnot⟩ := h.lost r hr
      exact ⟨hmem, fun ht => hnot (hless.subset ht)⟩
    · rw [List.mem_singleton.mp hr]
      exact ⟨h.order.subset hcommand, (List.nodup_cons.mp hnodup).1⟩

theorem taken_answer {r : HttpReply κ} (hexec : s.executing = some r.command) :
    (s.answer r).taken = s.taken := by
  rw [taken_of_executing hexec, taken, answer, List.map_append, List.append_assoc]
  rfl

/-- **Every step keeps the order of the requests.** -/
theorem Inv.step (h : Inv s) (hs : s.step knows a = some s') : Inv s' := by
  cases a with
  | accept connection client =>
    obtain ⟨_, hs⟩ := Option.ite_none_right_eq_some.mp hs
    cases hs
    exact h.of_taken h.size rfl rfl rfl
  | request connection message memory =>
    obtain ⟨client, _, hs⟩ := Option.bind_eq_some_iff.mp hs
    obtain ⟨request, _, rfl⟩ := Option.map_eq_some_iff.mp hs
    exact h.arrive rfl
  | close connection =>
    obtain ⟨_, hs⟩ := Option.ite_none_right_eq_some.mp hs
    cases hs
    exact h.of_taken h.size rfl rfl rfl
  | nextIncomingCommand =>
    obtain ⟨hnone, hs⟩ := Option.ite_none_right_eq_some.mp hs
    obtain ⟨⟨command, commands⟩, hnext, rfl⟩ := Option.map_eq_some_iff.mp hs
    refine h.of_taken h.size rfl ?_ rfl
    rw [taken, taken, hnone, CommandQueue.nextIncomingCommand_eq_some hnext]
    rfl
  | setOutcomingMessage code msg =>
    obtain ⟨command, hexec, hs⟩ := Option.bind_eq_some_iff.mp hs
    split at hs
    · obtain ⟨hlt, hs⟩ := Option.ite_none_right_eq_some.mp hs
      cases hs
      refine h.of_taken (fun r hr => ?_) rfl (taken_answer hexec) rfl
      rcases List.mem_append.mp hr with hr | hr
      · exact h.size r hr
      · rw [List.mem_singleton.mp hr]
        exact hlt
    · cases hs
  | finish =>
    obtain ⟨command, hexec, rfl⟩ := Option.map_eq_some_iff.mp hs
    exact h.finish hexec

/-! ## The next command of a client -/

theorem map_command_answersTo (s : HttpService κ) (k : κ) :
    (s.answersTo k).map (·.command) =
      (s.replies.map (·.command)).filter fun r => decide (r.sender = k) := by
  rw [answersTo, List.filter_map]
  rfl

/-- What a client has in the queue and before it. -/
theorem filter_taken (hexec : s.executing = some command) :
    s.taken.filter (fun r => decide (r.sender = command.sender)) =
      (s.answersTo command.sender).map (·.command) ++ command ::
        s.commands.arrivedCommands.filter fun r => decide (r.sender = command.sender) := by
  rw [taken_of_executing hexec, List.filter_append, map_command_answersTo,
    List.filter_cons_of_pos (by simp)]

/-- **A command is the next one of its client when no earlier request was lost.** -/
theorem Inv.next_iff (h : Inv s) (hexec : s.executing = some command)
    (hfirst : (s.answersTo command.sender).map (·.command) <+: s.requestsOf command.sender) :
    (s.answersTo command.sender).map (·.command) ++ [command] <+: s.requestsOf command.sender ↔
      ∀ r ∈ s.lost, r.sender = command.sender → command.number < r.number := by
  have hmem : ∀ r, r ∈ (s.answersTo command.sender).map (·.command) ++ command ::
      s.commands.arrivedCommands.filter (fun r => decide (r.sender = command.sender)) ↔
        r ∈ s.taken ∧ r.sender = command.sender := by
    intro r
    rw [← filter_taken hexec, List.mem_filter, decide_eq_true_eq]
  have hcommand : command ∈ s.requestsOf command.sender := by
    have htaken := (hmem command).mp (List.mem_append_right _ List.mem_cons_self)
    exact mem_requestsOf.mpr ⟨h.order.subset htaken.1, rfl⟩
  have horder := h.order.filter fun r => decide (r.sender = command.sender)
  rw [filter_taken hexec] at horder
  have hcover : ∀ r ∈ s.requestsOf command.sender,
      r ∈ (s.answersTo command.sender).map (·.command) ++ command ::
        s.commands.arrivedCommands.filter (fun r => decide (r.sender = command.sender)) ∨
      r ∈ s.lost.filter fun r => decide (r.sender = command.sender) := by
    intro r hr
    obtain ⟨hr, hsender⟩ := mem_requestsOf.mp hr
    rw [hmem, List.mem_filter, decide_eq_true_eq]
    exact (h.taken_or_lost r hr).imp (⟨·, hsender⟩) (⟨·, hsender⟩)
  have hlost : ∀ r ∈ s.lost.filter fun r => decide (r.sender = command.sender),
      r ∈ s.requestsOf command.sender ∧
      r ∉ (s.answersTo command.sender).map (·.command) ++ command ::
        s.commands.arrivedCommands.filter fun r => decide (r.sender = command.sender) := by
    intro r hr
    obtain ⟨hr, hsender⟩ := List.mem_filter.mp hr
    obtain ⟨hrequest, hnot⟩ := h.lost r hr
    exact ⟨mem_requestsOf.mpr ⟨hrequest, of_decide_eq_true hsender⟩,
      fun htaken => hnot ((hmem r).mp htaken).1⟩
  have hiff := (h.numbered command.sender).concat_prefix_iff_of_lost hfirst hcommand
    ((h.numbered command.sender).pairwise.sublist horder) hcover hlost
  simpa only [List.mem_filter, decide_eq_true_eq, and_imp] using hiff

/-! ## What the clients read -/

/-- Every client reads the answers to its first requests, in their order, and nothing else. -/
def Matched (s : HttpService κ) : Prop :=
  ∀ client, (s.answersTo client).map (·.command) <+: s.requestsOf client ∧
    Reads ((s.requestsOf client).map (·.isHead)) (s.sent client)
      ((s.answersTo client).map HttpReply.response)

/-- The connection of the request is still open, no earlier request of the client was lost, and HTTP
can carry the answer. -/
def OnTime (s : HttpService κ) : HttpServiceAction κ → Prop
  | .setOutcomingMessage code msg => ∀ command request, s.executing = some command →
      command.request.withCode code = .ok request →
        s.connections request.mongooseConnection = some command.sender ∧
        (∀ r ∈ s.lost, r.sender = command.sender → command.number < r.number) ∧
        HttpReply.Conforms { command := command, request := request, message := msg }
  | .accept _ _ | .request _ _ _ | .close _ | .nextIncomingCommand | .finish => True

/-- So far all answers were on time. -/
structure Good (s : HttpService κ) : Prop extends Inv s where
  inOrder : ∀ k, (s.answersTo k).map (·.command) <+: s.requestsOf k
  conforms : ∀ r ∈ s.replies, r.Conforms
  sent : ∀ k, s.sent k = (s.answersTo k).flatMap HttpReply.text

/-- What is read when all answers are those of the first requests. -/
theorem reads_iff (h : Inv s) (hfirst : (s.answersTo k).map (·.command) <+: s.requestsOf k) :
    Reads ((s.requestsOf k).map (·.isHead)) ((s.answersTo k).flatMap HttpReply.text)
      ((s.answersTo k).map HttpReply.response) ↔ ∀ r ∈ s.answersTo k, r.Conforms := by
  obtain ⟨rest, hrest⟩ := hfirst
  have hheads : (s.requestsOf k).map (·.isHead) =
      (s.answersTo k).map (·.command.isHead) ++ rest.map (·.isHead) := by
    rw [← hrest, List.map_append, List.map_map]
    rfl
  rw [hheads]
  exact HttpReply.answers_read_back_iff _ fun r hr => h.size r (List.mem_of_mem_filter hr)

theorem Good.matched (h : Good s) : Matched s := fun k => by
  refine ⟨h.inOrder k, ?_⟩
  rw [h.sent k]
  exact (reads_iff h.toInv (h.inOrder k)).mpr fun r hr => h.conforms r (List.mem_of_mem_filter hr)

/-! ## Steps -/

/-- Whatever answers nothing sends nothing. -/
theorem Good.of_replies (h : Good s) (hinv : Inv s') (hreplies : s'.replies = s.replies)
    (hsent : s'.sent = s.sent) (hrequests : ∀ k, s.requestsOf k <+: s'.requestsOf k) : Good s' := by
  have hanswers : ∀ k, s'.answersTo k = s.answersTo k := fun k => by
    rw [answersTo, answersTo, hreplies]
  refine { hinv with inOrder := fun k => ?_, conforms := ?_, sent := fun k => ?_ }
  · rw [hanswers]
    exact (h.inOrder k).trans (hrequests k)
  · rw [hreplies]
    exact h.conforms
  · rw [hanswers, hsent]
    exact h.sent k

variable {r : HttpReply κ}

theorem answersTo_answer (r : HttpReply κ) (k : κ) : (s.answer r).answersTo k =
    s.answersTo k ++ if r.command.sender = k then [r] else [] := by
  show (s.replies ++ [r]).filter (fun r => decide (r.command.sender = k)) = _
  rw [List.filter_append, answersTo]
  by_cases hk : r.command.sender = k <;> simp [hk]

theorem sent_answer_of_open
    (hopen : s.connections r.request.mongooseConnection = some client) :
    (s.answer r).sent = Function.update s.sent client (s.sent client ++ r.text) := by
  rw [answer, send, hopen]

theorem Good.answer (h : Good s) (hinv : Inv (s.answer r))
    (hexec : s.executing = some r.command)
    (hopen : s.connections r.request.mongooseConnection = some r.command.sender)
    (hlost : ∀ r' ∈ s.lost, r'.sender = r.command.sender → r.command.number < r'.number)
    (hconforms : r.Conforms) : Good (s.answer r) := by
  refine { hinv with inOrder := fun k => ?_, conforms := ?_, sent := fun k => ?_ }
  · rw [answersTo_answer]
    split
    · next hk =>
      subst hk
      rw [List.map_append]
      exact (h.next_iff hexec (h.inOrder _)).mpr hlost
    · rw [List.append_nil]
      exact h.inOrder k
  · intro r' hr'
    rcases List.mem_append.mp hr' with hr' | hr'
    · exact h.conforms r' hr'
    · rw [List.mem_singleton.mp hr']
      exact hconforms
  · rw [answersTo_answer, sent_answer_of_open hopen]
    split
    · next hk =>
      subst hk
      rw [Function.update_self, h.sent, List.flatMap_append, List.flatMap_singleton]
    · next hk => rw [Function.update_of_ne (Ne.symm hk), List.append_nil, h.sent]

/-- **Answers that are on time leave the service as it should be.** -/
theorem Good.step (h : Good s) (htime : OnTime s a) (hs : s.step knows a = some s') : Good s' := by
  have hinv : Inv s' := h.toInv.step hs
  cases a with
  | accept connection client =>
    obtain ⟨_, hs⟩ := Option.ite_none_right_eq_some.mp hs
    cases hs
    exact h.of_replies hinv rfl rfl fun k => List.prefix_refl _
  | request connection message memory =>
    obtain ⟨client, _, hs⟩ := Option.bind_eq_some_iff.mp hs
    obtain ⟨request, _, rfl⟩ := Option.map_eq_some_iff.mp hs
    refine h.of_replies hinv rfl rfl fun k => ?_
    show s.requestsOf k <+: (s.requests ++ [_]).filter fun r => decide (r.sender = k)
    rw [filter_sender_append]
    exact List.prefix_append _ _
  | close connection =>
    obtain ⟨_, hs⟩ := Option.ite_none_right_eq_some.mp hs
    cases hs
    exact h.of_replies hinv rfl rfl fun k => List.prefix_refl _
  | nextIncomingCommand =>
    obtain ⟨_, hs⟩ := Option.ite_none_right_eq_some.mp hs
    obtain ⟨⟨command, commands⟩, _, rfl⟩ := Option.map_eq_some_iff.mp hs
    exact h.of_replies hinv rfl rfl fun k => List.prefix_refl _
  | setOutcomingMessage code msg =>
    obtain ⟨command, hexec, hs⟩ := Option.bind_eq_some_iff.mp hs
    split at hs
    · next request hrequest =>
      obtain ⟨_, hs⟩ := Option.ite_none_right_eq_some.mp hs
      cases hs
      obtain ⟨hopen, hlost, hconforms⟩ := htime command request hexec hrequest
      exact h.answer hinv hexec hopen hlost hconforms
    · cases hs
  | finish =>
    obtain ⟨command, _, rfl⟩ := Option.map_eq_some_iff.mp hs
    exact h.of_replies hinv rfl rfl fun k => List.prefix_refl _

end HttpService

end MicroserviceCommon
