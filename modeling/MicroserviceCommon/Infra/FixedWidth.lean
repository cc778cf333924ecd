import Mathlib.Algebra.Ring.Nat
import Mathlib.Data.List.Forall2
import MicroserviceCommon.Infra.Decimal

/-!
# Numbers in fields of a fixed width

* `ofDigitChars_padded` — the zeros in front do not change the number
* `lt_of_ofDigitChars_lt` — texts of digits of one length are in the order of their numbers
* `fieldsText_lt` — records of such fields are in the order of their lists of numbers
-/

namespace Infra

/-- The digits, with zeros in front up to the width. -/
def padded (width n : Nat) : List Char := (Nat.toDigits 10 n).leftpad width '0'

theorem isDigit_of_mem_padded {width n : Nat} {c : Char} (h : c ∈ padded width n) :
    c.isDigit = true := by
  rcases List.mem_append.mp h with hzero | hdigit
  · rw [List.eq_of_mem_replicate hzero]
    rfl
  · exact isDigit_of_mem_toDigits hdigit

theorem padded_ne_nil (width n : Nat) : padded width n ≠ [] := fun h =>
  Nat.toDigits_ne_nil (List.append_eq_nil_iff.mp h).2

/-- **The zeros in front do not change the number.** -/
theorem ofDigitChars_padded (width n : Nat) : Nat.ofDigitChars 10 (padded width n) 0 = n := by
  rw [padded, List.leftpad, Nat.ofDigitChars_append, Nat.ofDigitChars_replicate_zero, Nat.mul_zero]
  exact Nat.ofDigitChars_ten_toDigits

theorem length_padded {width n : Nat} (hwidth : 0 < width) (h : n < 10 ^ width) :
    (padded width n).length = width := by
  have hlength : (Nat.toDigits 10 n).length ≤ width :=
    (Nat.length_toDigits_le_iff (by decide) hwidth).mpr h
  rw [padded, List.length_leftpad]
  omega

/-- A number that fills the field needs no zeros. -/
theorem padded_eq_toDigits {width n : Nat} (h : 10 ^ width ≤ n) :
    padded (width + 1) n = Nat.toDigits 10 n := by
  have hlength : ¬ (Nat.toDigits 10 n).length ≤ width := by
    intro hle
    rcases Nat.eq_zero_or_pos width with hzero | hpos
    · exact Nat.toDigits_ne_nil (List.length_eq_zero_iff.mp
        (show (Nat.toDigits 10 n).length = 0 by omega))
    · have hlt : n < 10 ^ width := (Nat.length_toDigits_le_iff (by decide) hpos).mp hle
      omega
  rw [padded, List.leftpad, Nat.sub_eq_zero_of_le (by omega)]
  rfl

/-! ## The order of the texts -/

theorem ofDigitChars_lt_pow : ∀ {digits : List Char}, (∀ c ∈ digits, c.isDigit = true) →
    Nat.ofDigitChars 10 digits 0 < 10 ^ digits.length
  | [], _ => by simp
  | c :: digits, h => by
    have hrest : Nat.ofDigitChars 10 digits 0 < 10 ^ digits.length :=
      ofDigitChars_lt_pow fun d hd => h d (List.mem_cons_of_mem _ hd)
    have hbounds := digit_bounds (h c List.mem_cons_self)
    have hzero : '0'.toNat = 48 := rfl
    have hdigit : 10 ^ digits.length * (10 * 0 + (c.toNat - '0'.toNat)) ≤
        10 ^ digits.length * 9 := Nat.mul_le_mul_left _ (by omega)
    rw [Nat.ofDigitChars_cons, Nat.ofDigitChars_eq_ofDigitChars_zero, List.length_cons,
      Nat.pow_succ]
    omega

/-- **Digits of one length are in the order of their numbers.** -/
theorem lt_of_ofDigitChars_lt : ∀ {xs ys : List Char}, xs.length = ys.length →
    (∀ c ∈ xs, c.isDigit = true) → (∀ c ∈ ys, c.isDigit = true) →
    Nat.ofDigitChars 10 xs 0 < Nat.ofDigitChars 10 ys 0 → xs < ys
  | [], [], _, _, _, h => absurd h (Nat.lt_irrefl _)
  | x :: xs, y :: ys, hlength, hxs, hys, h => by
    have hlength' : xs.length = ys.length := Nat.succ.inj hlength
    have hx := digit_bounds (hxs x List.mem_cons_self)
    have hy := digit_bounds (hys y List.mem_cons_self)
    have hxs' : ∀ c ∈ xs, c.isDigit = true := fun c hc => hxs c (List.mem_cons_of_mem _ hc)
    have hys' : ∀ c ∈ ys, c.isDigit = true := fun c hc => hys c (List.mem_cons_of_mem _ hc)
    have hzero : '0'.toNat = 48 := rfl
    rw [Nat.ofDigitChars_cons, Nat.ofDigitChars_cons, Nat.ofDigitChars_eq_ofDigitChars_zero,
      @Nat.ofDigitChars_eq_ofDigitChars_zero ys, ← hlength'] at h
    rw [List.cons_lt_cons_iff]
    rcases Nat.lt_trichotomy x.toNat y.toNat with hlt | heq | hgt
    · exact Or.inl (Char.lt_def.mpr hlt)
    · refine Or.inr ⟨Char.toNat_inj.mp heq, lt_of_ofDigitChars_lt hlength' hxs' hys' ?_⟩
      rw [heq] at h
      omega
    · -- the first digit outweighs all that follow
      have hpow := ofDigitChars_lt_pow hys'
      have hstep : 10 ^ xs.length * (10 * 0 + (y.toNat - '0'.toNat) + 1) ≤
          10 ^ xs.length * (10 * 0 + (x.toNat - '0'.toNat)) := Nat.mul_le_mul_left _ (by omega)
      rw [Nat.mul_add, Nat.mul_one] at hstep
      rw [← hlength'] at hpow
      omega

theorem append_lt_append {α : Type*} [LT α] : ∀ {xs ys : List α} (x' y' : List α),
    xs.length = ys.length → xs < ys → xs ++ x' < ys ++ y'
  | [], [], _, _, _, h => absurd h (List.not_lt_nil _)
  | x :: xs, y :: ys, x', y', hlength, h => by
    rw [List.cons_append, List.cons_append, List.cons_lt_cons_iff]
    rcases List.cons_lt_cons_iff.mp h with hlt | ⟨heq, hlt⟩
    · exact Or.inl hlt
    · exact Or.inr ⟨heq, append_lt_append x' y' (Nat.succ.inj hlength) hlt⟩

theorem append_lt_append_of_lt {xs ys : List Char} (before : List Char) (h : xs < ys) :
    before ++ xs < before ++ ys := by
  induction before with
  | nil => exact h
  | cons c before ih => exact List.cons_lt_cons_iff.mpr (Or.inr ⟨rfl, ih⟩)

/-! ## Records -/

/-- A field has a width, and a text behind it. -/
structure Field where
  width : Nat
  behind : List Char

/-- The number fits into the field. -/
def Field.Fits (f : Field) (n : Nat) : Prop := 0 < f.width ∧ n < 10 ^ f.width

def fieldsText : List Field → List Nat → List Char
  | f :: fields, n :: numbers => padded f.width n ++ (f.behind ++ fieldsText fields numbers)
  | _, _ => []

/-- **Records are in the order of their numbers.** -/
theorem fieldsText_lt : ∀ {fields : List Field} {xs ys : List Nat},
    List.Forall₂ Field.Fits fields xs → List.Forall₂ Field.Fits fields ys → xs < ys →
      fieldsText fields xs < fieldsText fields ys
  | [], _, _, List.Forall₂.nil, List.Forall₂.nil, h => absurd h (List.not_lt_nil _)
  | f :: fields, x :: xs, y :: ys, List.Forall₂.cons hx hxs, List.Forall₂.cons hy hys, h => by
    have hlength : (padded f.width x).length = (padded f.width y).length := by
      rw [length_padded hx.1 hx.2, length_padded hy.1 hy.2]
    rw [fieldsText, fieldsText]
    rcases List.cons_lt_cons_iff.mp h with hlt | ⟨rfl, hlt⟩
    · refine append_lt_append _ _ hlength (lt_of_ofDigitChars_lt hlength ?_ ?_ ?_)
      · exact fun c hc => isDigit_of_mem_padded hc
      · exact fun c hc => isDigit_of_mem_padded hc
      · rwa [ofDigitChars_padded, ofDigitChars_padded]
    · exact append_lt_append_of_lt _ (append_lt_append_of_lt _ (fieldsText_lt hxs hys hlt))

end Infra
