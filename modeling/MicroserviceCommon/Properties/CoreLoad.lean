import Mathlib.Algebra.BigOperators.Group.List.Basic
import Mathlib.Algebra.Order.BigOperators.Group.List
import Mathlib.Data.Nat.Cast.Order.Field
import MicroserviceCommon.System.CpuStatus

/-!
# The load of a core is computed with `int`

The counters of a core are read with `stoi` and summed up as `int`.

* `getIntsFromStr_counters` — the numbers of a line are read back as they were written
* `core_load_iff` — the load is right exactly when all counters together are an `int`
* `core_load_after_months` — a counter of `2 ^ 31` ends the call
-/

namespace MicroserviceCommon.SystemMonitor

open Infra

/-! ## Reading the numbers back -/

theorem atWordEnd_countersText : ∀ values : List Nat, atWordEnd (countersText values) = true
  | [] => rfl
  | _ :: _ => rfl

theorem matchFraction_countersText : ∀ values : List Nat,
    matchFraction (countersText values) = ([], countersText values)
  | [] => rfl
  | _ :: _ => rfl

/-- A number has no sign. -/
theorem matchSign_toDigits (n : Nat) (rest : Line) :
    matchSign (Nat.toDigits 10 n ++ rest) = ([], Nat.toDigits 10 n ++ rest) := by
  cases hdigits : Nat.toDigits 10 n with
  | nil => exact absurd hdigits Nat.toDigits_ne_nil
  | cons d digits =>
    have hdigit : d.isDigit = true := isDigit_of_mem_toDigits (hdigits ▸ List.mem_cons_self)
    rw [List.cons_append]
    unfold matchSign
    split
    · next heq => cases heq; cases hdigit
    · next heq => cases heq; cases hdigit
    · rfl

theorem matchNumber_counter (n : Nat) (values : List Nat) :
    matchNumber (Nat.toDigits 10 n ++ countersText values) =
      some (Nat.toDigits 10 n, countersText values) := by
  have hrest := noDigitHead_countersText values
  unfold matchNumber
  simp only [matchSign_toDigits, takeWhile_toDigits n hrest, dropWhile_toDigits n hrest,
    matchFraction_countersText, atWordEnd_countersText, List.nil_append, List.append_nil]
  exact if_pos ⟨Nat.toDigits_ne_nil, trivial⟩

theorem regexSearch_countersText (n : Nat) (values : List Nat) :
    regexSearch (countersText (n :: values)) = some (Nat.toDigits 10 n, countersText values) := by
  show (matchNumber (' ' :: (Nat.toDigits 10 n ++ countersText values))).or
    (searchBehindSpace (' ' :: (Nat.toDigits 10 n ++ countersText values))) = _
  have hspace : matchNumber (' ' :: (Nat.toDigits 10 n ++ countersText values)) = none := rfl
  have hblank : isSpace ' ' = true := rfl
  rw [hspace, Option.none_or, searchBehindSpace, if_pos hblank, matchNumber_counter, Option.some_or]

/-- What `stoi` makes of a counter. -/
def readCounter (n : Nat) : Except Fault Int := toInt .outOfRange n

theorem stoi_toDigits (n : Nat) : stoi (Nat.toDigits 10 n) = readCounter n := by
  have hsign := matchSign_toDigits n []
  have hdigits := takeWhile_toDigits n (show NoDigitHead [] from trivial)
  rw [List.append_nil] at hsign hdigits
  unfold stoi
  simp only [hsign, hdigits, Nat.ofDigitChars_ten_toDigits]
  rfl

/-- What `getIntsFromStr` does with the first match. -/
theorem getIntsFromStr_of_match {str number suffix : Line}
    (h : regexSearch str = some (number, suffix)) :
    getIntsFromStr str =
      (do
        let value ← stoi number
        let values ← getIntsFromStr suffix
        pure (value :: values)) := by
  rw [getIntsFromStr]
  split
  · next hnone =>
    rw [h] at hnone
    cases hnone
  · next hsome =>
    rw [h] at hsome
    cases hsome
    rfl

theorem getIntsFromStr_countersText : ∀ values : List Nat,
    getIntsFromStr (countersText values) = values.mapM readCounter
  | [] => by
    rw [getIntsFromStr]
    rfl
  | n :: values => by
    rw [getIntsFromStr_of_match (regexSearch_countersText n values), stoi_toDigits,
      getIntsFromStr_countersText values, List.mapM_cons]

/-- **The numbers are read back as they were written.** The first one has no blank in front. -/
theorem getIntsFromStr_counters (n : Nat) (values : List Nat) :
    getIntsFromStr (Nat.toDigits 10 n ++ countersText values) =
      (n :: values).mapM readCounter := by
  have hmatch : regexSearch (Nat.toDigits 10 n ++ countersText values) =
      some (Nat.toDigits 10 n, countersText values) := by
    rw [regexSearch, matchNumber_counter, Option.some_or]
  rw [getIntsFromStr_of_match hmatch, stoi_toDigits, getIntsFromStr_countersText, List.mapM_cons]

/-- The first blank of a line is behind the name. -/
theorem behindFirst_coreLine (cpu n : Nat) (values : List Nat) :
    behindFirst ' ' (coreLine cpu (n :: values)) = Nat.toDigits 10 n ++ countersText values := by
  have hname : (cpuName cpu).findIdx? (· == ' ') = none := by
    refine List.findIdx?_eq_none_iff.mpr fun c hc => beq_false_of_ne ?_
    rintro rfl
    rcases List.mem_append.mp hc with hc | hc
    · exact absurd hc (by decide)
    · exact absurd (isDigit_of_mem_toDigits hc) (by decide)
  have hfind : (coreLine cpu (n :: values)).findIdx? (· == ' ') =
      some (cpuName cpu).length := by
    rw [coreLine, List.findIdx?_append, hname, Option.none_or]
    exact congrArg some (Nat.zero_add _)
  rw [behindFirst, hfind]
  show (cpuName cpu ++ countersText (n :: values)).drop ((cpuName cpu).length + 1) = _
  rw [← List.drop_drop, List.drop_left]
  rfl

/-! ## Sums of `int` -/

theorem toInt_natCast (fault : Fault) (n : Nat) :
    toInt fault n = if n < 2147483648 then .ok (n : Int) else .error fault := by
  unfold toInt
  refine if_congr ⟨fun h => ?_, fun h => ?_⟩ rfl rfl <;> omega

theorem addInt_natCast (a b : Nat) : addInt a b =
    if a + b < 2147483648 then .ok ((a + b : Nat) : Int) else .error .overflow := by
  rw [addInt, ← Int.natCast_add, toInt_natCast]

/-- Numbers that are no `int` end the reading. -/
theorem mapM_readCounter : ∀ values : List Nat, values.mapM readCounter =
    if ∀ n ∈ values, n < 2147483648 then .ok (values.map Nat.cast) else .error .outOfRange
  | [] => (if_pos fun _ h => by cases h).symm
  | n :: values => by
    have hcons : (∀ m ∈ n :: values, m < 2147483648) ↔
        n < 2147483648 ∧ ∀ m ∈ values, m < 2147483648 := List.forall_mem_cons
    rw [List.mapM_cons, readCounter, toInt_natCast, mapM_readCounter values]
    by_cases hn : n < 2147483648
    · rw [if_pos hn]
      by_cases hvalues : ∀ m ∈ values, m < 2147483648
      · rw [if_pos hvalues, if_pos (hcons.mpr ⟨hn, hvalues⟩)]
        rfl
      · rw [if_neg hvalues, if_neg fun h => hvalues (hcons.mp h).2]
        rfl
    · rw [if_neg hn, if_neg fun h => hn (hcons.mp h).1]
      rfl

/-- **A sum of counters is right as long as it is an `int`.** -/
theorem foldlM_addInt : ∀ (values : List Nat) (a : Nat), a < 2147483648 →
    (values.map (Nat.cast : Nat → Int)).foldlM addInt (a : Int) =
      if a + values.sum < 2147483648 then .ok ((a + values.sum : Nat) : Int)
      else .error .overflow
  | [], a, ha => (if_pos ha).symm
  | n :: values, a, ha => by
    rw [List.map_cons, List.foldlM_cons, addInt_natCast, List.sum_cons, ← add_assoc]
    by_cases hn : a + n < 2147483648
    · rw [if_pos hn]
      exact foldlM_addInt values (a + n) hn
    · have hsum : ¬ a + n + values.sum < 2147483648 := by omega
      rw [if_neg hn, if_neg hsum]
      rfl

/-! ## The load -/

/-- The counters of a core: at least three, of 64 bits, and not all of them zero. -/
structure CoreCounters where
  cpu : Nat
  user : Nat
  nice : Nat
  system : Nat
  others : List Nat
  lt : ∀ n ∈ user :: nice :: system :: others, n < 2 ^ 64
  sum_lt : (user :: nice :: system :: others).sum < 2 ^ 64
  sum_pos : 0 < (user :: nice :: system :: others).sum

namespace CoreCounters

variable (c : CoreCounters)

def values : List Nat := c.user :: c.nice :: c.system :: c.others

def text : Line := coreLine c.cpu c.values

/-- The time at work, in percent. -/
def load : ℚ := 100 * ((c.user + c.nice + c.system : Nat) : ℚ) / (c.values.sum : ℚ)

theorem getCoreLoad_eq : getCoreLoad c.text = (c.values.mapM readCounter).bind utilization := by
  rw [getCoreLoad, text, values, behindFirst_coreLine, getIntsFromStr_counters]
  rfl

theorem sum_values : c.values.sum = c.user + c.nice + c.system + c.others.sum := by
  simp only [values, List.sum_cons]
  omega

theorem workTime_values (h : c.values.sum < 2147483648) : workTime (c.values.map Nat.cast) =
    .ok ((c.user + c.nice + c.system : Nat) : Int) := by
  have hsum := c.sum_values
  have hnice : c.user + c.nice < 2147483648 := by omega
  have hsystem : c.user + c.nice + c.system < 2147483648 := by omega
  show (addInt c.user c.nice).bind (fun work => addInt work c.system) = _
  rw [addInt_natCast, if_pos hnice, Except.bind, addInt_natCast, if_pos hsystem]

theorem foldlM_values : (c.values.map (Nat.cast : Nat → Int)).foldlM addInt 0 =
    if c.values.sum < 2147483648 then .ok ((c.values.sum : Nat) : Int) else .error .overflow := by
  have hfold := foldlM_addInt c.values 0 (by decide)
  rwa [Nat.zero_add] at hfold

theorem getCoreLoad_of_sum_lt (h : c.values.sum < 2147483648) :
    getCoreLoad c.text = .ok (some c.load) := by
  have hvalues : ∀ n ∈ c.values, n < 2147483648 :=
    fun n hn => (List.single_le_sum (fun _ _ => Nat.zero_le _) n hn).trans_lt h
  have hpos : ((c.values.sum : Nat) : Int) ≠ 0 := Int.natCast_ne_zero.mpr c.sum_pos.ne'
  rw [getCoreLoad_eq, mapM_readCounter, if_pos hvalues, Except.bind, utilization,
    c.workTime_values h, c.foldlM_values, if_pos h]
  simp only [bind, Except.bind, pure, Except.pure]
  rw [if_neg hpos, load, Int.cast_natCast, Int.cast_natCast, div_mul_eq_mul_div, mul_comm]

/-- Counters that are no `int` together give no load. -/
theorem getCoreLoad_of_le_sum (h : ¬ c.values.sum < 2147483648) :
    ∃ fault, getCoreLoad c.text = .error fault := by
  rw [getCoreLoad_eq, mapM_readCounter]
  by_cases hvalues : ∀ n ∈ c.values, n < 2147483648
  · rw [if_pos hvalues, Except.bind, utilization, c.foldlM_values, if_neg h]
    cases workTime (c.values.map Nat.cast) with
    | error fault => exact ⟨fault, rfl⟩
    | ok work_time => exact ⟨.overflow, rfl⟩
  · rw [if_neg hvalues]
    exact ⟨.outOfRange, rfl⟩

/--
**When the load of a core is right.**

The call returns the share of the first three counters exactly when the sum of all counters is an
`int`. Otherwise `stoi` throws or a sum overflows.
-/
theorem core_load_iff : getCoreLoad c.text = .ok (some c.load) ↔ c.values.sum < 2 ^ 31 := by
  constructor
  · intro hload
    by_contra hsum
    obtain ⟨fault, hfault⟩ := c.getCoreLoad_of_le_sum hsum
    rw [hfault] at hload
    cases hload
  · exact c.getCoreLoad_of_sum_lt

/-- Eight months of idle time in hundredths of a second. -/
def afterMonths : CoreCounters where
  cpu := 0
  user := 1
  nice := 0
  system := 1
  others := [2147483648]
  lt := by decide
  sum_lt := by decide
  sum_pos := by decide

theorem core_load_after_months :
    ¬ getCoreLoad afterMonths.text = .ok (some afterMonths.load) := by
  intro hload
  obtain ⟨fault, hfault⟩ := afterMonths.getCoreLoad_of_le_sum (by decide)
  rw [hfault] at hload
  cases hload

end CoreCounters

end MicroserviceCommon.SystemMonitor
