import MicroserviceCommon.Communication.ShellReceiver

/-!
# The asynchronous receiver on streams that end

The loop that reads a payload adds up what `recv` returns, the 0 of a closed connection and the -1
of a failed call included, and reads every piece to the start of the buffer. So it needs a peer that
sends whole messages, and a network that does not cut them.

* `receiver_survives_iff` — the loop is safe exactly when the size is whole and not negative, and
  the results of the calls add up to it
* `turn_of_threadAsyncClientModeRequestsWithSize` — what the thread does on streams without an end
* `truncatedPayload_hangs` — a peer that closes within a payload
-/

namespace MicroserviceCommon

open Infra

namespace Shell

/-- The sum of the first results. -/
def total (answers : Nat → RecvAnswer) : Nat → Int
  | 0 => 0
  | n + 1 => total answers n + (answers n).count

/-- The loop over a payload ends, stays in its buffer and delivers what it has received. -/
structure PayloadSafe (size : Received UInt8) (p : PayloadRead) (answers : Nat → RecvAnswer) :
    Prop where
  ends : ∃ n p', runFor PayloadRead.step p answers n = some p' ∧ p'.isOver = true
  bufferLength : 0 ≤ p.messageSize ∧ p.messageSize ≤ maxMessageSize
  strings : ∀ n p', runFor PayloadRead.step p answers n = some p' →
    ∀ length ∈ p'.temps, length ≤ p'.loop.buf.size
  complete : ∀ n p', runFor PayloadRead.step p answers n = some p' → p'.isOver = true →
    p'.delivers = true → size.bytes.length = 4 ∧
      ∃ payload, p.loop.stream = payload ++ p'.loop.stream ∧ p.messageSize ≤ payload.length

/-- The whole size was read and is not negative. The results of the calls for the payload add up to
it, and none of the sums before is negative. -/
structure PayloadArrives (size : Received UInt8) (answers : Nat → RecvAnswer) : Prop where
  whole : size.bytes.length = 4
  nonneg : 0 ≤ (intOfBytes size.bytes).toInt
  payload : ∃ n, total answers n = (intOfBytes size.bytes).toInt ∧
    ∀ m < n, 0 ≤ total answers m ∧ total answers m < (intOfBytes size.bytes).toInt

namespace PayloadRead

variable {p p' : PayloadRead} {answer : RecvAnswer} {answers : Nat → RecvAnswer} {n : Nat}

/-! ## One pass -/

theorem size_overwrite {buf : Buffer} {bytes : List UInt8} (h : bytes.length ≤ buf.size) :
    (buf.overwrite bytes).size = buf.size := by
  rw [Buffer.size, Buffer.overwrite, List.length_append, List.length_drop]
  exact Nat.add_sub_cancel' h

/-- The loop after the `std::length_error`. -/
def threw (p : PayloadRead) (r : Received UInt8) : PayloadRead :=
  { p with temps := p.temps ++ [sizeOfInt (p.loop.readedBytesCount + r.count)], thrown := true }

def passed (p : PayloadRead) (r : Received UInt8) (loop : PayloadLoop) : PayloadRead :=
  { p with temps := p.temps ++ [sizeOfInt (p.loop.readedBytesCount + r.count)], loop := loop }

theorem isOver_threw (p : PayloadRead) (r : Received UInt8) : (p.threw r).isOver = true := rfl

variable {r : Received UInt8}

theorem step_threw (hover : p.isOver = false)
    (hr : recvEnding p.ending p.loop.stream p.loop.buf.size answer = some r)
    (happend : p.loop.append r = none) : p.step answer = some (p.threw r) := by
  rw [step, hover, if_neg Bool.false_ne_true, hr, Option.map_some, happend]
  rfl

theorem step_passed {loop : PayloadLoop} (hover : p.isOver = false)
    (hr : recvEnding p.ending p.loop.stream p.loop.buf.size answer = some r)
    (happend : p.loop.append r = some loop) : p.step answer = some (p.passed r loop) := by
  rw [step, hover, if_neg Bool.false_ne_true, hr, Option.map_some, happend]
  rfl

/-- What one pass leaves. -/
structure Passed (p : PayloadRead) (value : Int) (p' : PayloadRead) : Prop where
  notOver : p.isOver = false
  ending : p'.ending = p.ending
  messageSize : p'.messageSize = p.messageSize
  bufSize : p'.loop.buf.size = p.loop.buf.size
  temps : p'.temps = p.temps ++ [sizeOfInt (p.loop.readedBytesCount + value)]
  thrown : p'.thrown = decide (p.loop.readedBytesCount + value < 0)
  count : p'.thrown = false → p'.loop.readedBytesCount = p.loop.readedBytesCount + value
  received : p'.thrown = false →
    ∃ bytes, p.loop.stream = bytes ++ p'.loop.stream ∧ value ≤ bytes.length
  bound : value ≤ p.loop.buf.size

theorem passed_of_step (h : p.step answer = some p') : Passed p answer.count p' := by
  have hover : p.isOver = false := by
    refine Bool.eq_false_iff.mpr fun hover => ?_
    rw [step, if_pos hover] at h
    cases h
  have hnot : p.thrown = false := by
    rw [isOver, Bool.or_eq_false_iff] at hover
    exact hover.1
  have hcall := h
  rw [step, hover, if_neg Bool.false_ne_true] at hcall
  obtain ⟨r, hr, _⟩ := Option.map_eq_some_iff.mp hcall
  obtain ⟨hcount, hstream, hle, hlen⟩ := recvEnding_eq_some hr
  rw [← hcount]
  have hbound : r.count ≤ p.loop.buf.size := by omega
  by_cases hneg : p.loop.readedBytesCount + r.count < 0
  · rw [step_threw hover hr (if_pos hneg)] at h
    cases h
    exact ⟨hover, rfl, rfl, rfl, rfl, (decide_eq_true hneg).symm, nofun, nofun, hbound⟩
  · rw [step_passed hover hr (if_neg hneg)] at h
    cases h
    exact ⟨hover, rfl, rfl, size_overwrite hlen, rfl, hnot.trans (decide_eq_false hneg).symm,
      fun _ => rfl, fun _ => ⟨_, hstream.symm, hle⟩, hbound⟩

/-! ## Any number of passes -/

/-- The loop after `n` passes that started from `p`. -/
structure ReadAfter (p : PayloadRead) (answers : Nat → RecvAnswer) (n : Nat) (p' : PayloadRead) :
    Prop where
  ending : p'.ending = p.ending
  messageSize : p'.messageSize = p.messageSize
  bufSize : p'.loop.buf.size = p.loop.buf.size
  before : ∀ m < n, 0 ≤ total answers m ∧ total answers m < p.messageSize
  temps : p'.temps = (List.range n).map fun m => sizeOfInt (total answers (m + 1))
  thrown : p'.thrown = decide (total answers n < 0)
  count : p'.thrown = false → p'.loop.readedBytesCount = total answers n
  received : p'.thrown = false →
    ∃ payload, p.loop.stream = payload ++ p'.loop.stream ∧ total answers n ≤ payload.length
  bound : total answers n ≤ max 0 p.messageSize + p.loop.buf.size

/-- The loop is over once the sum is negative or not below the size. -/
theorem ReadAfter.isOver_iff (h : ReadAfter p answers n p') :
    p'.isOver = true ↔ total answers n < 0 ∨ p.messageSize ≤ total answers n := by
  rw [isOver, Bool.or_eq_true, decide_eq_true_iff, h.messageSize]
  cases hthrown : p'.thrown with
  | true =>
    have hneg : total answers n < 0 := of_decide_eq_true (h.thrown.symm.trans hthrown)
    simp [hneg]
  | false =>
    have hneg : ¬ total answers n < 0 := of_decide_eq_false (h.thrown.symm.trans hthrown)
    rw [h.count hthrown]
    simp [hneg]

theorem readAfter_start (ending : StreamEnd) (messageSize : Int) (memory : Nat → UInt8)
    (stream : List UInt8) :
    ReadAfter (start ending messageSize memory stream) answers 0
      (start ending messageSize memory stream) where
  ending := rfl
  messageSize := rfl
  bufSize := rfl
  before := fun _ h => absurd h (Nat.not_lt_zero _)
  temps := rfl
  thrown := rfl
  count := fun _ => rfl
  received := fun _ => ⟨[], rfl, Int.le_refl 0⟩
  bound := Int.add_nonneg (Int.le_max_left _ _) (Int.natCast_nonneg _)

theorem ReadAfter.step (h : ReadAfter p answers n p') {p₁ : PayloadRead}
    (hs : p'.step (answers n) = some p₁) : ReadAfter p answers (n + 1) p₁ := by
  have hpass := passed_of_step hs
  -- the loop was not over, so the sum is the count and lies below the size
  have hreading : ¬ (total answers n < 0 ∨ p.messageSize ≤ total answers n) := by
    rw [← h.isOver_iff, hpass.notOver]
    exact Bool.false_ne_true
  rw [not_or, Int.not_lt, Int.not_le] at hreading
  have hthrown : p'.thrown = false := h.thrown.trans (decide_eq_false (Int.not_lt.mpr hreading.1))
  have hcount := h.count hthrown
  have htemps := hpass.temps
  have hthrown₁ := hpass.thrown
  have hcount₁ := hpass.count
  rw [hcount] at htemps hthrown₁ hcount₁
  constructor
  · exact hpass.ending.trans h.ending
  · exact hpass.messageSize.trans h.messageSize
  · exact hpass.bufSize.trans h.bufSize
  · intro m hm
    rcases Nat.lt_succ_iff_lt_or_eq.mp hm with hm | rfl
    · exact h.before m hm
    · exact hreading
  · rw [htemps, h.temps, List.range_succ, List.map_append]
    rfl
  · exact hthrown₁
  · exact hcount₁
  · intro hnot
    obtain ⟨payload, hstream, hle⟩ := h.received hthrown
    obtain ⟨bytes, hbytes, hle'⟩ := hpass.received hnot
    refine ⟨payload ++ bytes, by rw [hstream, hbytes, List.append_assoc], ?_⟩
    rw [total, List.length_append]
    omega
  · have hbound := hpass.bound
    rw [h.bufSize] at hbound
    rw [total]
    omega

theorem readAfter_runFor {ending : StreamEnd} {messageSize : Int} {memory : Nat → UInt8}
    {stream : List UInt8} : ∀ {n : Nat} {p' : PayloadRead},
      runFor PayloadRead.step (start ending messageSize memory stream) answers n = some p' →
        ReadAfter (start ending messageSize memory stream) answers n p'
  | 0, _, h => by
    cases h
    exact readAfter_start ending messageSize memory stream
  | n + 1, _, h => by
    obtain ⟨p₁, h₁, hs⟩ := Option.bind_eq_some_iff.mp h
    exact (readAfter_runFor h₁).step hs

end PayloadRead

/-! ## From the condition to the law and back -/

theorem neg_one_le_count : ∀ answer : RecvAnswer, -1 ≤ answer.count
  | .failed => Int.le_refl _
  | .bytes count => by
    rw [RecvAnswer.count]
    omega

/-- The -1 of a failed call is a length that no buffer has. -/
theorem sizeOfInt_le_iff {count : Int} {size : Nat} (hlow : -1 ≤ count) (hhigh : count < 2 ^ 64)
    (hsize : size < 2 ^ 64 - 1) : sizeOfInt count ≤ size ↔ 0 ≤ count ∧ count ≤ size := by
  by_cases hneg : 0 ≤ count
  · rw [sizeOfInt, Int.emod_eq_of_lt hneg hhigh]
    omega
  · obtain rfl : count = -1 := by omega
    have hlast : sizeOfInt (-1) = 2 ^ 64 - 1 := by decide
    rw [hlast]
    omega

section Payload

variable {size : Received UInt8} {ending : StreamEnd} {memory : Nat → UInt8} {stream : List UInt8}
  {answers : Nat → RecvAnswer}

open PayloadRead

theorem bufSize_runFor {messageSize : Int} {n : Nat} {p' : PayloadRead}
    (h : runFor PayloadRead.step (start ending messageSize memory stream) answers n = some p') :
    p'.loop.buf.size = messageSize.toNat :=
  (readAfter_runFor h).bufSize.trans (Buffer.size_uninitialised _ _)

/-- The length of a `temp` fits when the sum behind it does. -/
theorem temp_le_iff {messageSize : Int} (hmax : messageSize ≤ maxMessageSize) {n : Nat}
    {p' : PayloadRead} (h : runFor PayloadRead.step (start ending messageSize memory stream) answers
      (n + 1) = some p') : sizeOfInt (total answers (n + 1)) ≤ messageSize.toNat ↔
      0 ≤ total answers (n + 1) ∧ total answers (n + 1) ≤ messageSize.toNat := by
  have hafter := readAfter_runFor h
  have hbound : total answers (n + 1) ≤ max 0 messageSize + messageSize.toNat := by
    rw [← bufSize_runFor h, hafter.bufSize]
    exact hafter.bound
  have hprev : 0 ≤ total answers n := (hafter.before n (Nat.lt_succ_self n)).1
  have hcount := neg_one_le_count (answers n)
  rw [maxMessageSize] at hmax
  refine sizeOfInt_le_iff ?_ (by omega) (by omega)
  rw [total]
  omega

/-- A socket that answers takes the loop to every call before the sum is reached. -/
theorem exists_runFor {messageSize : Int}
    (hanswers : Peer.Answers (start ending messageSize memory stream) answers) {n : Nat}
    (hbefore : ∀ m < n, 0 ≤ total answers m ∧ total answers m < messageSize) :
    ∀ m ≤ n, ∃ p', runFor PayloadRead.step (start ending messageSize memory stream) answers m =
      some p' := by
  intro m hm
  induction m with
  | zero => exact ⟨_, rfl⟩
  | succ m ih =>
    obtain ⟨p', hp'⟩ := ih (by omega)
    have hreading : p'.isOver = false := by
      refine Bool.eq_false_iff.mpr fun hover => ?_
      have hend : total answers m < 0 ∨ messageSize ≤ total answers m :=
        (readAfter_runFor hp').isOver_iff.mp hover
      have hm := hbefore m hm
      omega
    obtain ⟨p₁, hp₁⟩ := Option.isSome_iff_exists.mp (hanswers m p' hp' hreading)
    exact ⟨p₁, by rw [runFor, hp', Option.bind_some, hp₁]⟩

/-- The last `temp` bounds the sum, and the end of the loop bounds it from below. -/
theorem payloadArrives_of_safe (hmax : (intOfBytes size.bytes).toInt ≤ maxMessageSize)
    (h : PayloadSafe size (start ending (intOfBytes size.bytes).toInt memory stream) answers) :
    PayloadArrives size answers := by
  obtain ⟨n, p', hrun, hover⟩ := h.ends
  have hafter := readAfter_runFor hrun
  have hnonneg : 0 ≤ (intOfBytes size.bytes).toInt := h.bufferLength.1
  have hsum : 0 ≤ total answers n ∧ total answers n ≤ (intOfBytes size.bytes).toInt := by
    cases n with
    | zero => exact ⟨Int.le_refl 0, hnonneg⟩
    | succ n =>
      have hmem : sizeOfInt (total answers (n + 1)) ∈ p'.temps := by
        rw [hafter.temps]
        exact List.mem_map_of_mem (List.mem_range.mpr (Nat.lt_succ_self n))
      have hfits := h.strings _ p' hrun _ hmem
      rw [bufSize_runFor hrun, temp_le_iff hmax hrun] at hfits
      omega
  have hthrown : p'.thrown = false := hafter.thrown.trans (decide_eq_false (by omega))
  have hdelivers : p'.delivers = true := by
    rw [delivers, hthrown, hafter.count hthrown, decide_eq_true hsum.1]
    rfl
  have hend : total answers n < 0 ∨ (intOfBytes size.bytes).toInt ≤ total answers n :=
    hafter.isOver_iff.mp hover
  exact ⟨(h.complete n p' hrun hover hdelivers).1, hnonneg, n, by omega, hafter.before⟩

theorem payloadSafe_of_arrives (hmax : (intOfBytes size.bytes).toInt ≤ maxMessageSize)
    (hanswers : Peer.Answers (start ending (intOfBytes size.bytes).toInt memory stream) answers)
    (h : PayloadArrives size answers) :
    PayloadSafe size (start ending (intOfBytes size.bytes).toInt memory stream) answers := by
  obtain ⟨hwhole, hnonneg, n, hsum, hbefore⟩ := h
  have hrun := exists_runFor hanswers hbefore
  constructor
  · obtain ⟨p', hp'⟩ := hrun n (Nat.le_refl n)
    exact ⟨n, p', hp', (readAfter_runFor hp').isOver_iff.mpr (Or.inr hsum.ge)⟩
  · exact ⟨hnonneg, hmax⟩
  · intro k p' hp' length hlength
    have hafter := readAfter_runFor hp'
    rw [hafter.temps] at hlength
    obtain ⟨m, hm, rfl⟩ := List.mem_map.mp hlength
    rw [List.mem_range] at hm
    -- there is no call after the sum is reached
    have hk : k ≤ n := by
      by_contra hlt
      have hn : total answers n < (intOfBytes size.bytes).toInt := (hafter.before n (by omega)).2
      omega
    obtain ⟨p₁, hp₁⟩ := hrun (m + 1) (by omega)
    rw [bufSize_runFor hp', temp_le_iff hmax hp₁]
    by_cases hlast : m + 1 = n
    · rw [hlast]
      omega
    · have hm := hbefore (m + 1) (by omega)
      omega
  · intro k p' hp' hover hdelivers
    have hafter := readAfter_runFor hp'
    have hthrown : p'.thrown = false := by
      rw [delivers, Bool.and_eq_true, Bool.not_eq_true'] at hdelivers
      exact hdelivers.1
    obtain ⟨payload, hstream, hle⟩ := hafter.received hthrown
    have hnot : ¬ total answers k < 0 := of_decide_eq_false (hafter.thrown.symm.trans hthrown)
    have hend : (intOfBytes size.bytes).toInt ≤ total answers k :=
      (hafter.isOver_iff.mp hover).resolve_left hnot
    exact ⟨hwhole, payload, hstream, hend.trans hle⟩

/-- **The loop over a payload is safe exactly when the payload arrives.** -/
theorem payloadSafe_iff (hmax : (intOfBytes size.bytes).toInt ≤ maxMessageSize)
    (hanswers : Peer.Answers (start ending (intOfBytes size.bytes).toInt memory stream) answers) :
    PayloadSafe size (start ending (intOfBytes size.bytes).toInt memory stream) answers ↔
      PayloadArrives size answers :=
  ⟨payloadArrives_of_safe hmax, payloadSafe_of_arrives hmax hanswers⟩

end Payload

/-! ## Runs -/

/-- A size of more than the limit does not come to the payload. -/
theorem readSize_inr {ending : StreamEnd} {s s' : ClientThread} {t : PeerTurn}
    {size : Received UInt8} (h : s.readSize ending t = some (.inr (s', size))) :
    (intOfBytes size.bytes).toInt ≤ maxMessageSize := by
  unfold ClientThread.readSize at h
  split at h
  · cases h
  · cases h
  · obtain ⟨size', _, h⟩ := Option.bind_eq_some_iff.mp h
    split at h
    · cases h
    · dsimp only at h
      split at h
      · cases h
      · next hmax =>
        split at h
        · cases h
        · cases h
        · cases h
          exact Int.not_lt.mp hmax

/-- **Every payload loop of a run is safe exactly when every payload arrives.** -/
theorem receiver_survives_iff (r : SocketPeer) :
    (∀ k size p, r.ReachesPayload k size p → PayloadSafe size p (r.turns k).payloadRecvs) ↔
      ∀ k size p, r.ReachesPayload k size p → PayloadArrives size (r.turns k).payloadRecvs := by
  refine forall_congr' fun k => forall_congr' fun size => forall_congr' fun p =>
    forall_congr' fun hp => ?_
  have hanswers := r.answers k size p hp
  obtain ⟨s, s', _, _, hsize, rfl⟩ := hp
  exact payloadSafe_iff (readSize_inr hsize) hanswers

/-! ## Whole streams -/

/-- The turn with the answers of a list. -/
def Turn.toPeerTurn (t : Turn) : PeerTurn where
  sizeSelect := t.sizeSelect
  sizeRecv := t.sizeRecv
  payloadSelect := t.payloadSelect
  payloadRecvs i := t.payloadRecvs.getD i .failed
  memory := t.memory

/-- The loop over a list of answers is one over calls. By induction on the answers. -/
theorem runFor_of_readPayload : ∀ (answers : List RecvAnswer) (p : PayloadRead)
    (result : Option PayloadLoop), p.thrown = false →
      readPayload p.messageSize answers p.loop = some result →
      ∃ n p', runFor PayloadRead.step p (fun i => answers.getD i .failed) n = some p' ∧
        p'.isOver = true ∧ p'.messageSize = p.messageSize ∧
        p'.thrown = result.isNone ∧ ∀ l ∈ result, p'.loop = l
  | [], p, result, hthrown, h => by
    rw [readPayload] at h
    split at h
    · cases h
    · next hover =>
      cases h
      refine ⟨0, p, rfl, ?_, rfl, hthrown, fun l hl => Option.some.inj hl⟩
      rw [PayloadRead.isOver, decide_eq_true (Int.not_lt.mp hover), Bool.or_true]
  | answer :: answers, p, result, hthrown, h => by
    rw [readPayload] at h
    split at h
    · next hreading =>
      have hnot : p.isOver = false := by
        rw [PayloadRead.isOver, hthrown, decide_eq_false (Int.not_le.mpr hreading)]
        rfl
      obtain ⟨r, hr, h⟩ := Option.bind_eq_some_iff.mp h
      have hcall := recvEnding_of_recv p.ending hr
      cases happend : p.loop.append r with
      | none =>
        rw [happend] at h
        cases h
        refine ⟨1, _, ?_, PayloadRead.isOver_threw p r, rfl, rfl, nofun⟩
        rw [runFor_succ']
        exact congrArg (Option.bind · _) (PayloadRead.step_threw hnot hcall happend)
      | some loop =>
        rw [happend] at h
        obtain ⟨n, p', hrun, hrest⟩ :=
          runFor_of_readPayload answers (p.passed r loop) result hthrown h
        refine ⟨n + 1, p', ?_, hrest⟩
        rw [runFor_succ']
        exact (congrArg (Option.bind · _) (PayloadRead.step_passed hnot hcall happend)).trans hrun
    · next hover =>
      cases h
      refine ⟨0, p, rfl, ?_, rfl, hthrown, fun l hl => Option.some.inj hl⟩
      rw [PayloadRead.isOver, decide_eq_true (Int.not_lt.mp hover), Bool.or_true]

/-- What follows the loop is the same. -/
theorem finishPayload_of_receivePayload (ending : StreamEnd) {s s' : ClientThread} {t : Turn}
    {size : Received UInt8}
    (h : s.receivePayload t (intOfBytes size.bytes).toInt = some s') :
    ∃ calls p, runFor PayloadRead.step (s.startPayload ending size t.toPeerTurn)
        t.toPeerTurn.payloadRecvs calls = some p ∧
      p.isOver = true ∧ s.finishPayload p = s' := by
  unfold ClientThread.receivePayload at h
  split at h
  · next hneg =>
    cases h
    refine ⟨0, _, rfl, ?_, if_pos hneg⟩
    exact Bool.or_eq_true_iff.mpr (Or.inr (decide_eq_true hneg.le))
  · next hnonneg =>
    obtain ⟨result, hread, h⟩ := Option.map_eq_some_iff.mp h
    obtain ⟨calls, p, hrun, hover, hsize, hthrown, hloop⟩ := runFor_of_readPayload t.payloadRecvs
      (s.startPayload ending size t.toPeerTurn) result rfl hread
    refine ⟨calls, p, hrun, hover, ?_⟩
    have hnot : ¬ p.messageSize < 0 := by
      rw [hsize]
      exact hnonneg
    rw [ClientThread.finishPayload, if_neg hnot, hthrown]
    cases result with
    | none => exact h
    | some l =>
      rw [Option.isNone_some, if_neg Bool.false_ne_true, PayloadRead.delivers, hthrown,
        hloop l rfl]
      dsimp only at h
      split at h
      · next hneg =>
        rw [decide_eq_false (Int.not_le.mpr hneg)]
        exact h
      · next hcount =>
        rw [decide_eq_true (Int.not_lt.mp hcount)]
        exact h

/-- The turn up to the payload is the same. -/
theorem readSize_toPeerTurn (ending : StreamEnd) {s : ClientThread} {t : Turn}
    {size : Received UInt8} (hselect : t.sizeSelect = .ready)
    (hsize : recv s.stream 4 t.sizeRecv = some size) :
    s.readSize ending t.toPeerTurn =
      if size.count = -1 then some (.inl s.exit)
      else if (intOfBytes size.bytes).toInt > maxMessageSize then
        some (.inl { s with stream := size.rest })
      else
        match t.payloadSelect with
        | .failed => some (.inl { s with stream := size.rest }.exit)
        | .timeout => some (.inl { s with stream := size.rest })
        | .ready => some (.inr ({ s with stream := size.rest }, size)) := by
  rw [ClientThread.readSize, show t.toPeerTurn.sizeSelect = .ready from hselect]
  exact congrArg (Option.bind · _) (recvEnding_of_recv ending hsize)

/-- **What the thread does on a stream without an end, it does with any peer.** -/
theorem turn_of_threadAsyncClientModeRequestsWithSize (ending : StreamEnd) {s s' : ClientThread}
    {t : Turn} (h : s.threadAsyncClientModeRequestsWithSize t = some s') :
    ∃ calls, s.turn ending t.toPeerTurn calls = some s' := by
  unfold ClientThread.threadAsyncClientModeRequestsWithSize at h
  unfold ClientThread.turn
  split at h
  · cases h
  · next hstatus =>
    simp only [if_neg hstatus]
    split at h
    · next hselect =>
      cases h
      refine ⟨0, ?_⟩
      rw [ClientThread.readSize, show t.toPeerTurn.sizeSelect = .failed from hselect]
      rfl
    · next hselect =>
      cases h
      refine ⟨0, ?_⟩
      rw [ClientThread.readSize, show t.toPeerTurn.sizeSelect = .timeout from hselect]
      rfl
    · next hselect =>
      obtain ⟨size, hsize, h⟩ := Option.bind_eq_some_iff.mp h
      rw [readSize_toPeerTurn ending hselect hsize]
      dsimp only at h
      split at h
      · next hfailed => exact ⟨0, by rw [if_pos hfailed]; exact h⟩
      · next hfailed =>
        rw [if_neg hfailed]
        split at h
        · next hlarge => exact ⟨0, by rw [if_pos hlarge]; exact h⟩
        · next hlarge =>
          rw [if_neg hlarge]
          cases hpayload : t.payloadSelect with
          | failed => rw [hpayload] at h; exact ⟨0, h⟩
          | timeout => rw [hpayload] at h; exact ⟨0, h⟩
          | ready =>
            rw [hpayload] at h
            obtain ⟨calls, p, hrun, hover, hfinish⟩ :=
              finishPayload_of_receivePayload ending h
            refine ⟨calls, ?_⟩
            simp only [Option.bind_some, hrun, hover, if_true, hfinish]

/-! ## A truncated payload -/

/-- The peer sends the size 10 and three bytes, and closes. -/
def truncatedPeer : Peer where
  stream := [10, 0, 0, 0, 1, 2, 3]
  ending := .closed
  turns
    | 0 =>
      { sizeSelect := .ready
        sizeRecv := .bytes 4
        payloadSelect := .ready
        payloadRecvs := fun
          | 0 => .bytes 3
          | _ + 1 => .bytes 0 }
    | _ + 1 => { sizeSelect := .timeout }

theorem total_truncated (n : Nat) :
    total (truncatedPeer.turns 0).payloadRecvs n = if n = 0 then 0 else 3 := by
  induction n with
  | zero => rfl
  | succ n ih =>
    rw [total, ih, if_neg (Nat.succ_ne_zero n)]
    cases n <;> rfl

/-- The only payload of the run. -/
theorem reachesPayload_truncated {k : Nat} {size : Received UInt8} {p : PayloadRead}
    (h : truncatedPeer.ReachesPayload k size p) : k = 0 ∧
      size = { count := 4, bytes := [10, 0, 0, 0], rest := [1, 2, 3] } ∧
      p = PayloadRead.start .closed 10 (fun _ => 0) [1, 2, 3] := by
  obtain ⟨s, s', hreach, _, hsize, rfl⟩ := h
  cases k with
  | succ k => cases hsize
  | zero =>
    cases hreach
    cases hsize
    exact ⟨rfl, rfl, rfl⟩

/-- After the three bytes the connection is closed. -/
theorem answers_truncated : Peer.Answers (PayloadRead.start .closed 10 (fun _ => 0) [1, 2, 3])
    (truncatedPeer.turns 0).payloadRecvs := by
  intro n p' hrun hreading
  have hafter := PayloadRead.readAfter_runFor hrun
  cases n with
  | zero =>
    cases hrun
    rfl
  | succ n =>
    have hsum := total_truncated (n + 1)
    rw [if_neg (Nat.succ_ne_zero n)] at hsum
    have hthrown : p'.thrown = false := by
      rw [hafter.thrown, hsum]
      rfl
    -- the three bytes have left the stream
    obtain ⟨payload, hstream, hle⟩ := hafter.received hthrown
    rw [hsum] at hle
    have hempty : p'.loop.stream = [] := by
      have hlength := congrArg List.length hstream
      rw [List.length_append] at hlength
      refine List.length_eq_zero_iff.mp ?_
      have hthree : (PayloadRead.start .closed 10 (fun _ => 0) [1, 2, 3]).loop.stream.length = 3 :=
        rfl
      omega
    have hclosed : p'.ending = .closed := hafter.ending
    rw [PayloadRead.step, hreading, if_neg Bool.false_ne_true, Option.isSome_map]
    refine Option.isSome_iff_exists.mpr ⟨_, if_pos (Or.inr ⟨hempty, hclosed⟩)⟩

/-- **A peer that closes within a payload keeps the loop for ever.** -/
theorem truncatedPayload_hangs : ∃ r : SocketPeer,
    r.stream = [10, 0, 0, 0, 1, 2, 3] ∧ r.ending = .closed ∧
      ¬ ∀ k size p, r.ReachesPayload k size p → PayloadSafe size p (r.turns k).payloadRecvs := by
  refine ⟨⟨truncatedPeer, fun k size p h => ?_⟩, rfl, rfl, fun h => ?_⟩
  · obtain ⟨rfl, _, rfl⟩ := reachesPayload_truncated h
    exact answers_truncated
  · obtain ⟨n, p', hrun, hover⟩ := (h 0 _ _ ⟨_, _, .start, rfl, rfl, rfl⟩).ends
    have hend : total (truncatedPeer.turns 0).payloadRecvs n < 0 ∨
        (intOfBytes [10, 0, 0, 0]).toInt ≤ total (truncatedPeer.turns 0).payloadRecvs n :=
      (PayloadRead.readAfter_runFor hrun).isOver_iff.mp hover
    have hsize : (intOfBytes [10, 0, 0, 0]).toInt = 10 := by decide
    rw [total_truncated, hsize] at hend
    split at hend <;> omega

end Shell

end MicroserviceCommon
