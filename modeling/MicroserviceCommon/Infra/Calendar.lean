import Mathlib.Algebra.Order.Group.Int
import Mathlib.Algebra.Ring.Nat
import Mathlib.Order.Monotone.Basic

/-!
# The Gregorian calendar

Days are numbered in both directions, from the first of January of the year 1 on. The calendar is
taken to hold for all years.

* `blockOf` — where a number lies in consecutive blocks, the months of a year here
* `Date.ofDayNumber_dayNumber`, `Date.dayNumber_ofDayNumber` — dates and day numbers are the same
* `Date.dayNumber_lt` — a later date has a higher number
-/

namespace Infra

/-! ## Consecutive blocks -/

/-- The block that a number lies in, and its place there. -/
def blockOf : List Nat → Nat → Nat × Nat
  | [], n => (0, n)
  | length :: lengths, n =>
    if n < length then (0, n)
    else ((blockOf lengths (n - length)).1 + 1, (blockOf lengths (n - length)).2)

/-- **A place in a block is found again.** -/
theorem blockOf_sum_take_add : ∀ {lengths : List Nat} {i place : Nat},
    place < lengths.getD i 0 → blockOf lengths ((lengths.take i).sum + place) = (i, place)
  | [], _, _, h => absurd h (Nat.not_lt_zero _)
  | length :: lengths, 0, place, h => by
    have hlt : place < length := h
    rw [List.take_zero, List.sum_nil, Nat.zero_add, blockOf, if_pos hlt]
  | length :: lengths, i + 1, place, h => by
    have hrest : blockOf lengths ((lengths.take i).sum + place) = (i, place) :=
      blockOf_sum_take_add h
    rw [List.take_succ_cons, List.sum_cons, blockOf, if_neg (by omega),
      show length + (lengths.take i).sum + place - length = (lengths.take i).sum + place by omega,
      hrest]

/-- **The blocks before and the place are the number.** -/
theorem sum_take_blockOf : ∀ {lengths : List Nat} {n : Nat}, n < lengths.sum →
    (lengths.take (blockOf lengths n).1).sum + (blockOf lengths n).2 = n ∧
      (blockOf lengths n).2 < lengths.getD (blockOf lengths n).1 0
  | [], _, h => absurd h (Nat.not_lt_zero _)
  | length :: lengths, n, h => by
    rw [List.sum_cons] at h
    rw [blockOf]
    split
    · next hlt => exact ⟨Nat.zero_add n, hlt⟩
    · next hge =>
      obtain ⟨hsum, hplace⟩ := sum_take_blockOf (show n - length < lengths.sum by omega)
      refine ⟨?_, hplace⟩
      rw [List.take_succ_cons, List.sum_cons]
      omega

theorem sum_take_add_le : ∀ {lengths : List Nat} {i : Nat},
    (lengths.take i).sum + lengths.getD i 0 ≤ lengths.sum
  | [], _ => by simp
  | length :: lengths, 0 => by simp
  | length :: lengths, i + 1 => by
    have hrest : (lengths.take i).sum + lengths.getD i 0 ≤ lengths.sum := sum_take_add_le
    rw [List.take_succ_cons, List.sum_cons, List.sum_cons, List.getD_cons_succ]
    omega

/-- A block ends before a later one begins. -/
theorem sum_take_add_le_of_lt : ∀ {lengths : List Nat} {i j : Nat}, i < j →
    (lengths.take i).sum + lengths.getD i 0 ≤ (lengths.take j).sum
  | [], _, _, _ => by simp
  | length :: lengths, 0, j + 1, _ => by simp
  | length :: lengths, i + 1, j + 1, h => by
    have hrest : (lengths.take i).sum + lengths.getD i 0 ≤ (lengths.take j).sum :=
      sum_take_add_le_of_lt (Nat.lt_of_succ_lt_succ h)
    rw [List.take_succ_cons, List.take_succ_cons, List.sum_cons, List.sum_cons, List.getD_cons_succ]
    omega

/-! ## Years and months -/

def IsLeap (year : Int) : Prop := year % 4 = 0 ∧ (year % 100 = 0 → year % 400 = 0)

instance (year : Int) : Decidable (IsLeap year) := inferInstanceAs (Decidable (_ ∧ _))

def monthLengths (year : Int) : List Nat :=
  [31, if IsLeap year then 29 else 28, 31, 30, 31, 30, 31, 31, 30, 31, 30, 31]

def yearLength (year : Int) : Nat := if IsLeap year then 366 else 365

/-- The number of the first of January. -/
def daysBeforeYear (year : Int) : Int :=
  365 * (year - 1) + (year - 1) / 4 - (year - 1) / 100 + (year - 1) / 400

theorem sum_monthLengths (year : Int) : (monthLengths year).sum = yearLength year := by
  unfold monthLengths yearLength
  split <;> rfl

theorem daysBeforeYear_succ (year : Int) :
    daysBeforeYear (year + 1) = daysBeforeYear year + yearLength year := by
  unfold daysBeforeYear yearLength
  split
  · next h =>
    unfold IsLeap at h
    omega
  · next h =>
    unfold IsLeap at h
    omega

theorem yearLength_pos (year : Int) : 0 < yearLength year := by
  unfold yearLength
  split <;> omega

theorem daysBeforeYear_lt_iff {year year' : Int} :
    daysBeforeYear year < daysBeforeYear year' ↔ year < year' := by
  refine (strictMono_int_of_lt_succ fun y => ?_).lt_iff_lt
  have hpos := yearLength_pos y
  rw [daysBeforeYear_succ]
  omega

theorem daysBeforeYear_le {year year' : Int} (h : year ≤ year') :
    daysBeforeYear year ≤ daysBeforeYear year' :=
  Int.not_lt.mp fun hlt => Int.not_lt.mpr h (daysBeforeYear_lt_iff.mp hlt)

/-- The year of a day. The quotient is the year or the one before. -/
def yearOf (day : Int) : Int :=
  let year := day * 400 / 146097 + 1
  if day < daysBeforeYear year then year - 1
  else if daysBeforeYear (year + 1) ≤ day then year + 1
  else year

theorem daysBeforeYear_yearOf (day : Int) :
    daysBeforeYear (yearOf day) ≤ day ∧ day < daysBeforeYear (yearOf day + 1) := by
  unfold yearOf
  simp only
  split
  · next h =>
    refine ⟨?_, by rwa [Int.sub_add_cancel]⟩
    unfold daysBeforeYear at h ⊢
    omega
  · next h =>
    split
    · next h' =>
      refine ⟨h', ?_⟩
      unfold daysBeforeYear at h' ⊢
      omega
    · next h' => exact ⟨by omega, by omega⟩

/-- **A day lies in one year.** -/
theorem yearOf_eq {day year : Int} (hle : daysBeforeYear year ≤ day)
    (hlt : day < daysBeforeYear (year + 1)) : yearOf day = year := by
  obtain ⟨hle', hlt'⟩ := daysBeforeYear_yearOf day
  have h₁ : year < yearOf day + 1 := daysBeforeYear_lt_iff.mp (by omega)
  have h₂ : yearOf day < year + 1 := daysBeforeYear_lt_iff.mp (by omega)
  omega

theorem le_yearOf_iff {day year : Int} : year ≤ yearOf day ↔ daysBeforeYear year ≤ day := by
  obtain ⟨hle, hlt⟩ := daysBeforeYear_yearOf day
  constructor
  · intro h
    exact (daysBeforeYear_le h).trans hle
  · intro h
    have hyear : year < yearOf day + 1 := daysBeforeYear_lt_iff.mp (by omega)
    omega

/-! ## Dates -/

/-- The month and the day count from 0. -/
structure Date where
  year : Int
  month : Nat
  day : Nat
  day_lt : day < (monthLengths year).getD month 0
  deriving DecidableEq

namespace Date

def dayOfYear (d : Date) : Nat := ((monthLengths d.year).take d.month).sum + d.day

def dayNumber (d : Date) : Int := daysBeforeYear d.year + d.dayOfYear

theorem month_lt (d : Date) : d.month < 12 := by
  by_contra h
  have hday := d.day_lt
  rw [List.getD_eq_getElem?_getD, List.getElem?_eq_none (Nat.not_lt.mp h)] at hday
  exact Nat.not_lt_zero _ hday

theorem day_lt_31 (d : Date) : d.day < 31 := by
  have hday := d.day_lt
  have hmonth := d.month_lt
  unfold monthLengths at hday
  generalize d.month = month at hday hmonth
  have hfebruary : (if IsLeap d.year then 29 else 28) ≤ 31 := by split <;> omega
  match month, hmonth with
  | 0, _ | 1, _ | 2, _ | 3, _ | 4, _ | 5, _ | 6, _ | 7, _ | 8, _ | 9, _ | 10, _ | 11, _ =>
    simp only [List.getD_cons_zero, List.getD_cons_succ] at hday
    omega
  | _ + 12, h => omega

theorem dayOfYear_lt (d : Date) : d.dayOfYear < yearLength d.year := by
  have hday := d.day_lt
  have hle : ((monthLengths d.year).take d.month).sum + (monthLengths d.year).getD d.month 0 ≤
      (monthLengths d.year).sum := sum_take_add_le
  rw [sum_monthLengths] at hle
  unfold dayOfYear
  omega

theorem yearOf_dayNumber (d : Date) : yearOf d.dayNumber = d.year := by
  have hlt := d.dayOfYear_lt
  refine yearOf_eq ?_ ?_
  · unfold dayNumber
    omega
  · rw [daysBeforeYear_succ]
    unfold dayNumber
    omega

theorem dayOfYear_bound (day : Int) :
    (day - daysBeforeYear (yearOf day)).toNat < (monthLengths (yearOf day)).sum := by
  obtain ⟨hle, hlt⟩ := daysBeforeYear_yearOf day
  rw [daysBeforeYear_succ] at hlt
  rw [sum_monthLengths]
  omega

def ofDayNumber (day : Int) : Date where
  year := yearOf day
  month := (blockOf (monthLengths (yearOf day)) (day - daysBeforeYear (yearOf day)).toNat).1
  day := (blockOf (monthLengths (yearOf day)) (day - daysBeforeYear (yearOf day)).toNat).2
  day_lt := (sum_take_blockOf (dayOfYear_bound day)).2

/-- **Every day is the day of its date.** -/
theorem dayNumber_ofDayNumber (day : Int) : (ofDayNumber day).dayNumber = day := by
  have hle := (daysBeforeYear_yearOf day).1
  have hday : (ofDayNumber day).dayOfYear = (day - daysBeforeYear (yearOf day)).toNat :=
    (sum_take_blockOf (dayOfYear_bound day)).1
  have hyear : (ofDayNumber day).year = yearOf day := rfl
  rw [dayNumber, hday, hyear]
  omega

/-- **Every date is the date of its day.** -/
theorem ofDayNumber_dayNumber (d : Date) : ofDayNumber d.dayNumber = d := by
  have hoffset : (d.dayNumber - daysBeforeYear d.year).toNat =
      ((monthLengths d.year).take d.month).sum + d.day := by
    unfold dayNumber dayOfYear
    omega
  have hblock := blockOf_sum_take_add d.day_lt
  cases d with | mk year month day day_lt =>
  rw [ofDayNumber, Date.mk.injEq, yearOf_dayNumber]
  simp only at hoffset hblock ⊢
  rw [hoffset, hblock]
  simp

/-- The order of dates. -/
def Before (d d' : Date) : Prop :=
  d.year < d'.year ∨ d.year = d'.year ∧ (d.month < d'.month ∨ d.month = d'.month ∧ d.day < d'.day)

/-- **A later date has a higher number.** -/
theorem before_of_dayNumber_lt {d d' : Date} (h : d.dayNumber < d'.dayNumber) : d.Before d' := by
  by_contra hnot
  simp only [Before, not_or, not_and, Int.not_lt, Nat.not_lt] at hnot
  obtain ⟨hyear, hmonth⟩ := hnot
  rcases Int.lt_or_eq_of_le hyear with hlt | heq
  · -- the year of the other date is over
    have hover := daysBeforeYear_le (show d'.year + 1 ≤ d.year from hlt)
    have hend := d'.dayOfYear_lt
    rw [daysBeforeYear_succ] at hover
    unfold dayNumber at h
    omega
  · obtain ⟨hmonth, hday⟩ := hmonth heq.symm
    have hend := d'.day_lt
    have hlengths : monthLengths d'.year = monthLengths d.year := congrArg _ heq
    unfold dayNumber dayOfYear at h
    rw [hlengths] at hend h
    rw [heq] at h
    rcases Nat.lt_or_eq_of_le hmonth with hlt | heq'
    · have hover : ((monthLengths d.year).take d'.month).sum +
          (monthLengths d.year).getD d'.month 0 ≤ ((monthLengths d.year).take d.month).sum :=
        sum_take_add_le_of_lt hlt
      omega
    · have hday := hday heq'.symm
      rw [heq'] at h
      omega

end Date

end Infra
