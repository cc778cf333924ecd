import Mathlib.Data.List.Induction
import Mathlib.Data.List.Infix

/-!
# Decimal numbers in a text

A number ends where the digits end.

* `takeWhile_toDigits`, `dropWhile_toDigits` — a number is read back from the front of a text
* `prefix_toDigits_append` — a text of digits is in front of a number and what follows exactly when
  it is in front of the number
* `toDigits_ofDigitChars` — digits without a leading zero are printed as they were read
-/

namespace Infra

/-- What follows a number does not go on with a digit. -/
def NoDigitHead : List Char → Prop
  | [] => True
  | c :: _ => c.isDigit = false

variable {rest : List Char}

theorem isDigit_of_mem_toDigits {n : Nat} {c : Char} (h : c ∈ Nat.toDigits 10 n) :
    c.isDigit = true := Nat.isDigit_of_mem_toDigits (by decide) (by decide) h

theorem takeWhile_toDigits (n : Nat) (hrest : NoDigitHead rest) :
    (Nat.toDigits 10 n ++ rest).takeWhile Char.isDigit = Nat.toDigits 10 n := by
  rw [List.takeWhile_append_of_pos fun c => isDigit_of_mem_toDigits]
  cases rest with
  | nil => exact List.append_nil _
  | cons c rest => rw [List.takeWhile_cons_of_neg (Bool.eq_false_iff.mp hrest), List.append_nil]

theorem dropWhile_toDigits (n : Nat) (hrest : NoDigitHead rest) :
    (Nat.toDigits 10 n ++ rest).dropWhile Char.isDigit = rest := by
  rw [List.dropWhile_append_of_pos fun c => isDigit_of_mem_toDigits]
  cases rest with
  | nil => rfl
  | cons c rest => exact List.dropWhile_cons_of_neg (Bool.eq_false_iff.mp hrest)

/-- Digits in front of a text are in front of its number. -/
theorem prefix_append_of_digits (hrest : NoDigitHead rest) :
    ∀ {digits text : List Char}, (∀ c ∈ digits, c.isDigit = true) →
      (digits <+: text ++ rest ↔ digits <+: text)
  | [], _, _ => iff_of_true List.nil_prefix List.nil_prefix
  | d :: digits, [], hdigits => by
    refine iff_of_false (fun h => ?_) fun h => List.cons_ne_nil _ _ (List.prefix_nil.mp h)
    cases rest with
    | nil => exact List.cons_ne_nil _ _ (List.prefix_nil.mp h)
    | cons c rest =>
      rw [List.nil_append, List.cons_prefix_cons] at h
      have hdigit := hdigits d List.mem_cons_self
      rw [h.1, show c.isDigit = false from hrest] at hdigit
      cases hdigit
  | d :: digits, c :: text, hdigits => by
    rw [List.cons_append, List.cons_prefix_cons, List.cons_prefix_cons]
    refine and_congr_right fun _ => prefix_append_of_digits hrest fun c hc => ?_
    exact hdigits c (List.mem_cons_of_mem _ hc)

/-- **A number is not found across the end of another one.** -/
theorem prefix_toDigits_append (m : Nat) (text : List Char) (hrest : NoDigitHead rest) :
    Nat.toDigits 10 m <+: text ++ rest ↔ Nat.toDigits 10 m <+: text :=
  prefix_append_of_digits hrest fun _ => isDigit_of_mem_toDigits

/-! ## Digits as they are printed -/

/-- Digits without a leading zero, apart from the number zero. -/
structure IsDecimal (digits : List Char) : Prop where
  ne_nil : digits ≠ []
  isDigit : ∀ c ∈ digits, c.isDigit = true
  leading : digits.head? = some '0' → digits = ['0']

theorem digit_bounds {c : Char} (h : c.isDigit = true) : 48 ≤ c.toNat ∧ c.toNat ≤ 57 := by
  simp only [Char.isDigit, Bool.and_eq_true, decide_eq_true_eq, ge_iff_le,
    UInt32.le_iff_toNat_le] at h
  exact h

theorem digitChar_of_isDigit {c : Char} (h : c.isDigit = true) :
    (c.toNat - '0'.toNat).digitChar = c := by
  have hbounds := digit_bounds h
  have hzero : '0'.toNat = 48 := rfl
  refine Char.toNat_inj.mp ?_
  rw [hzero, Nat.toNat_digitChar_of_lt_ten (by omega)]
  omega

/-- **Digits without a leading zero are those of their number.** -/
theorem toDigits_ofDigitChars {digits : List Char} (h : IsDecimal digits) :
    Nat.toDigits 10 (Nat.ofDigitChars 10 digits 0) = digits := by
  induction digits using List.reverseRecOn with
  | nil => exact absurd rfl h.ne_nil
  | append_singleton digits c ih =>
    have hc := h.isDigit c (by simp)
    have hlt : c.toNat - '0'.toNat < 10 := by
      have hbounds := digit_bounds hc
      have hzero : '0'.toNat = 48 := rfl
      omega
    rw [Nat.ofDigitChars_append, Nat.ofDigitChars_cons, Nat.ofDigitChars_nil]
    by_cases hnil : digits = []
    · subst hnil
      rw [Nat.ofDigitChars_nil, Nat.mul_zero, Nat.zero_add, Nat.toDigits_of_lt_base hlt,
        digitChar_of_isDigit hc]
      rfl
    · -- the digits in front do not begin with a zero, so they are a number of their own
      have hhead : digits.head? ≠ some '0' := by
        intro hzero
        have hwhole := h.leading (by rw [List.head?_append_of_ne_nil _ hnil, hzero])
        have hlength := congrArg List.length hwhole
        simp [hnil] at hlength
      have hdigits : IsDecimal digits :=
        ⟨hnil, fun d hd => h.isDigit d (List.mem_append_left _ hd), fun hzero => absurd hzero hhead⟩
      have hprinted := ih hdigits
      have hpos : 0 < Nat.ofDigitChars 10 digits 0 := by
        refine Nat.pos_of_ne_zero fun hzero => hhead ?_
        rw [← hprinted, hzero]
        rfl
      rw [← Nat.toDigits_append_toDigits (by decide) hpos hlt, hprinted,
        Nat.toDigits_of_lt_base hlt, digitChar_of_isDigit hc]

end Infra
