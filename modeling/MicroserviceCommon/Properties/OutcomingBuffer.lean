import MicroserviceCommon.Infra.Run
import MicroserviceCommon.Communication.OutcomingBuffer

/-!
# The outcoming buffer can be too small

The buffer doubles once when the message alone is longer than the buffer by two bytes or more. The
header is not counted, and one doubling may not be enough.

* `capacity_iff` — large enough exactly while every message fits with its header, before the growth
  or after a growth that happens
-/

namespace MicroserviceCommon

open Infra

namespace OutcomingBuffer

variable {b : OutcomingBuffer}

/-- The size is that of the array, and never left its type. -/
structure SizeTrue (b : OutcomingBuffer) : Prop where
  size : b.outcomingBufferSize.toInt = b.allocated
  overflowed : b.overflowed = false

/-- At the two copies the buffer has room for the header and the message. -/
def HasRoom (b : OutcomingBuffer) (call : OutcomingCall) : Prop :=
  (sizeofHeader + call.msg.length : Int) ≤ (b.send call).1.outcomingBufferSize.toInt

/-- The package fits as it is, or the message alone makes the buffer grow and the package fits
then. -/
def Fits (b : OutcomingBuffer) (call : OutcomingCall) : Prop :=
  let size := b.outcomingBufferSize.toInt
  let msgSize : Int := call.msg.length
  sizeofHeader + msgSize ≤ size ∨
    size + 1 < msgSize ∧ sizeofHeader + msgSize ≤ size * 2 ∧ size * 2 < 2 ^ 31

/-! ## The size as a number -/

/-- Doubled from an even size, the buffer has an even size. -/
structure SizeInv (b : OutcomingBuffer) : Prop extends b.SizeTrue where
  pos : 0 < b.outcomingBufferSize.toInt
  even : b.outcomingBufferSize.toInt % 2 = 0

theorem sizeInv_start : SizeInv {} where
  size := by decide
  overflowed := rfl
  pos := by decide
  even := by decide

theorem toInt_lt (x : Int32) : x.toInt < 2 ^ 31 := by
  have hlt := x.toInt_lt
  exact hlt

theorem sizeOfInt_of_nonneg {x : Int32} (h : 0 ≤ x.toInt) : (sizeOfInt x : Int) = x.toInt := by
  have hlt := toInt_lt x
  unfold sizeOfInt
  omega

theorem toInt_succ (h : b.SizeInv) :
    (b.outcomingBufferSize + 1).toInt = b.outcomingBufferSize.toInt + 1 := by
  have hlt := toInt_lt b.outcomingBufferSize
  have hpos := h.pos
  have heven := h.even
  rw [Int32.toInt_add, Int32.toInt_one]
  exact Int.bmod_eq_of_le (by omega) (by omega)

theorem toInt_grow (h : b.SizeInv) (hfits : b.outcomingBufferSize.toInt * 2 < 2 ^ 31) :
    b.grow.outcomingBufferSize.toInt = b.outcomingBufferSize.toInt * 2 := by
  have hpos := h.pos
  have htwo : (2 : Int32).toInt = 2 := by decide
  unfold grow
  rw [Int32.toInt_mul, htwo]
  exact Int.bmod_eq_of_le (by omega) (by omega)

/-! ## One send -/

theorem send_eq (b : OutcomingBuffer) (call : OutcomingCall) :
    b.send call = (b.adjust call.msg.length, copies call.msg.length) := by
  cases call <;> rfl

/-- An even size is never the largest `int`. -/
theorem computed_succ (h : b.SizeInv) : b.computed (b.outcomingBufferSize.toInt + 1) = b := by
  have hlt := toInt_lt b.outcomingBufferSize
  have hpos := h.pos
  have heven := h.even
  have hfits : FitsInt (b.outcomingBufferSize.toInt + 1) := ⟨by omega, by omega⟩
  unfold computed
  rw [decide_eq_true hfits, Bool.not_true, Bool.or_false]

theorem adjust_eq (h : b.SizeInv) (msgSize : Nat) :
    b.adjust msgSize = if b.outcomingBufferSize.toInt + 1 < msgSize then b.grow else b := by
  have hpos := h.pos
  have hsucc := toInt_succ h
  have hconv := sizeOfInt_of_nonneg (x := b.outcomingBufferSize + 1) (by omega)
  unfold adjust
  rw [computed_succ h]
  exact if_congr (by omega) rfl rfl

theorem sizeInv_grow (h : b.SizeInv) (hfits : b.outcomingBufferSize.toInt * 2 < 2 ^ 31) :
    b.grow.SizeInv := by
  have hpos := h.pos
  have hdouble := toInt_grow h hfits
  have hint : FitsInt (b.outcomingBufferSize.toInt * 2) := ⟨by omega, hfits⟩
  refine ⟨⟨(sizeOfInt_of_nonneg (x := b.grow.outcomingBufferSize) ?_).symm, ?_⟩, ?_, ?_⟩
  · omega
  · unfold grow computed
    dsimp only
    rw [h.overflowed, decide_eq_true hint]
    rfl
  · omega
  · omega

theorem grow_overflowed (hfits : ¬ b.outcomingBufferSize.toInt * 2 < 2 ^ 31) :
    b.grow.overflowed = true := by
  have hint : ¬ FitsInt (b.outcomingBufferSize.toInt * 2) := fun h => hfits h.2
  unfold grow computed
  dsimp only
  rw [decide_eq_false hint, Bool.not_false, Bool.or_true]

theorem hasRoom_iff (h : b.SizeInv) {call : OutcomingCall} : b.HasRoom call ↔
    if b.outcomingBufferSize.toInt + 1 < call.msg.length then
      (sizeofHeader + call.msg.length : Int) ≤ b.grow.outcomingBufferSize.toInt
    else (sizeofHeader + call.msg.length : Int) ≤ b.outcomingBufferSize.toInt := by
  rw [HasRoom, send_eq, adjust_eq h]
  split <;> rfl

/--
**The buffer has room at every send exactly when every package fits.**

A message of nearly the length of the buffer leaves no room for the header, and one that is more
than twice as long does not fit after the growth.
-/
theorem capacity_iff (calls : List OutcomingCall) :
    AlwaysState step SizeTrue {} calls ∧ AlwaysStep step HasRoom {} calls ↔
      AlwaysStep step Fits {} calls := by
  refine alwaysStep_iff_of_inv step SizeInv (fun b h => h.toSizeTrue)
    (fun b call b' h hc hs => ?_) (fun b call b' h hs hroom h' => ?_)
    (fun b call b' h hs hc => ?_) calls {} sizeInv_start
  · cases hs
    rw [send_eq, adjust_eq h]
    dsimp only [Fits] at hc
    split
    · exact sizeInv_grow h (by omega)
    · exact h
  · cases hs
    rw [hasRoom_iff h] at hroom
    rw [send_eq, adjust_eq h] at h'
    dsimp only [Fits]
    split at hroom
    · next hgrow =>
      rw [if_pos hgrow] at h'
      have hfits : b.outcomingBufferSize.toInt * 2 < 2 ^ 31 := by
        by_contra hover
        exact absurd h'.overflowed (by rw [grow_overflowed hover]; decide)
      rw [toInt_grow h hfits] at hroom
      exact Or.inr ⟨hgrow, hroom, hfits⟩
    · exact Or.inl hroom
  · rw [hasRoom_iff h]
    dsimp only [Fits] at hc
    split
    · rw [toInt_grow h (by omega)]
      omega
    · omega

/-- A message of exactly the size of the new buffer. -/
def fullMessage : OutcomingCall :=
  .websocketServerSendAsyncRequest { msg := List.replicate 4096 0 }

theorem fullMessage_no_room :
    ¬ (AlwaysState step SizeTrue {} [fullMessage] ∧ AlwaysStep step HasRoom {} [fullMessage]) := by
  rintro ⟨_, hroom⟩
  have hlaw := (hroom _ rfl).1
  have hlength : fullMessage.msg.length = 4096 := List.length_replicate
  rw [hasRoom_iff sizeInv_start, hlength] at hlaw
  exact absurd hlaw (by decide)

end OutcomingBuffer

end MicroserviceCommon
