import Mathlib.Data.List.Basic
import Mathlib.Data.List.Flatten

/-!
# Byte streams

A socket hands out the bytes of a stream in order, and the network decides how many at a time.

* `recv` — one call that reads from the stream
* `recvEnding` — the same on a stream that ends
* `AtBoundary` — a reader has handed out exactly the items whose bytes have left the stream

`atBoundary_same` and `atBoundary_next` say what is left in the stream after a turn of the reader.
-/

namespace Infra

variable {α β : Type*}

/-! ## Socket calls -/

inductive SelectAnswer where
  | ready | timeout | failed
  deriving DecidableEq, Repr

inductive RecvAnswer where
  | bytes (count : Nat)
  | failed
  deriving DecidableEq, Repr

/-- The value of a `recv` call, with what was read and what is left. -/
structure Received (β : Type*) where
  count : Int
  bytes : List β
  rest : List β
  deriving DecidableEq, Repr

/-- An answer is any non-empty prefix up to the length that was asked for.
`none` means that a socket cannot answer so. -/
def recv (stream : List β) (len : Nat) : RecvAnswer → Option (Received β)
  | .failed => some { count := -1, bytes := [], rest := stream }
  | .bytes count =>
    if count ≤ len ∧ count ≤ stream.length ∧ (count = 0 → len = 0) then
      some { count := count, bytes := stream.take count, rest := stream.drop count }
    else none

theorem recv_bytes_eq_some {stream : List β} {len count : Nat} {r : Received β} :
    recv stream len (.bytes count) = some r ↔
      (count ≤ len ∧ count ≤ stream.length ∧ (count = 0 → len = 0)) ∧
        r = { count := count, bytes := stream.take count, rest := stream.drop count } := by
  rw [recv]
  split
  · next h =>
    rw [and_iff_right h]
    exact Option.some_inj.trans eq_comm
  · next h =>
    constructor
    · intro he
      cases he
    · intro he
      exact absurd he.1 h

/-- The answer that brings all that was asked for. -/
theorem recv_append (xs ys : List β) :
    recv (xs ++ ys) xs.length (.bytes xs.length) =
      some { count := xs.length, bytes := xs, rest := ys } := by
  refine recv_bytes_eq_some.mpr ⟨⟨Nat.le_refl _, ?_, id⟩, ?_⟩
  · rw [List.length_append]
    exact Nat.le_add_right _ _
  · rw [List.take_left, List.drop_left]

/-! ## Streams that end -/

/-- What comes after the last byte: the peer has closed the connection, or calls fail. -/
inductive StreamEnd where
  | closed | failed
  deriving DecidableEq, Repr

/-- The end of a closed stream is answered with the count 0. -/
def recvEnding (ending : StreamEnd) (stream : List β) (len : Nat) :
    RecvAnswer → Option (Received β)
  | .failed => recv stream len .failed
  | .bytes 0 =>
    if len = 0 ∨ stream = [] ∧ ending = .closed then
      some { count := 0, bytes := [], rest := stream }
    else none
  | .bytes (count + 1) => recv stream len (.bytes (count + 1))

/-- The value of the call. -/
def RecvAnswer.count : RecvAnswer → Int
  | .bytes count => count
  | .failed => -1

/-- What a socket answers on any stream it also answers on one that ends. -/
theorem recvEnding_of_recv (ending : StreamEnd) {stream : List β} {len : Nat}
    {answer : RecvAnswer} {r : Received β} (h : recv stream len answer = some r) :
    recvEnding ending stream len answer = some r := by
  match answer with
  | .failed => exact h
  | .bytes (count + 1) => exact h
  | .bytes 0 =>
    obtain ⟨⟨_, _, hlen⟩, rfl⟩ := recv_bytes_eq_some.mp h
    exact if_pos (Or.inl (hlen rfl))

/-- **What a call returns**: its count, as many bytes and the rest of the stream. -/
theorem recvEnding_eq_some {ending : StreamEnd} {stream : List β} {len : Nat}
    {answer : RecvAnswer} {r : Received β} (h : recvEnding ending stream len answer = some r) :
    r.count = answer.count ∧ r.bytes ++ r.rest = stream ∧ r.count ≤ r.bytes.length ∧
      r.bytes.length ≤ len := by
  match answer with
  | .failed =>
    cases h
    exact ⟨rfl, rfl, by simp, Nat.zero_le _⟩
  | .bytes 0 =>
    rw [recvEnding] at h
    split at h
    · cases h
      exact ⟨rfl, rfl, by simp, Nat.zero_le _⟩
    · cases h
  | .bytes (count + 1) =>
    obtain ⟨⟨hle, hlen, _⟩, rfl⟩ := recv_bytes_eq_some.mp h
    have htake : (stream.take (count + 1)).length = count + 1 := by
      rw [List.length_take, Nat.min_eq_left hlen]
    refine ⟨rfl, List.take_append_drop _ _, Int.le_of_eq (congrArg Nat.cast htake.symm), ?_⟩
    rw [htake]
    exact hle

/-! ## Items in a stream -/

section Items

variable {enc : α → List β} {items handed rest : List α} {m x : α} {stream : List β}

variable (enc) in
/-- The items not yet handed out are the ones in the stream. -/
def AtBoundary (items handed : List α) (stream : List β) : Prop :=
  ∃ rest, items = handed ++ rest ∧ stream = rest.flatMap enc

variable (enc items) in
theorem atBoundary_start : AtBoundary enc items [] (items.flatMap enc) := ⟨items, rfl, rfl⟩

/-- Nothing was handed out, so nothing may have been read. -/
theorem atBoundary_same :
    AtBoundary enc (handed ++ rest) handed stream ↔ stream = rest.flatMap enc := by
  constructor
  · rintro ⟨rest', hitems, hstream⟩
    rw [List.append_cancel_left hitems]
    exact hstream
  · intro hstream
    exact ⟨rest, rfl, hstream⟩

/-- **The next item was handed out and its bytes have been read.** -/
theorem atBoundary_next :
    AtBoundary enc (handed ++ m :: rest) (handed ++ [x]) stream ↔
      x = m ∧ stream = rest.flatMap enc := by
  constructor
  · rintro ⟨rest', hitems, hstream⟩
    rw [List.append_assoc, List.singleton_append] at hitems
    obtain ⟨hm, hrest⟩ := List.cons.inj (List.append_cancel_left hitems)
    exact ⟨hm.symm, hrest ▸ hstream⟩
  · rintro ⟨rfl, hstream⟩
    exact ⟨rest, by simp, hstream⟩

theorem AtBoundary.isPrefix (h : AtBoundary enc items handed stream) : handed <+: items := by
  obtain ⟨rest, hitems, _⟩ := h
  exact ⟨rest, hitems.symm⟩

/-- **A reader that has emptied the stream has handed out everything.** -/
theorem AtBoundary.complete (henc : ∀ a, enc a ≠ [])
    (h : AtBoundary enc items handed []) : handed = items := by
  obtain ⟨rest, hitems, hstream⟩ := h
  cases rest with
  | nil => rw [hitems, List.append_nil]
  | cons a rest =>
    rw [List.flatMap_cons, eq_comm, List.append_eq_nil_iff] at hstream
    exact absurd hstream.1 (henc a)

end Items

end Infra
