import Mathlib.Algebra.Order.Ring.Cast
import Mathlib.Tactic.FieldSimp
import Mathlib.Tactic.Linarith
import Mathlib.Tactic.Positivity
import MicroserviceCommon.Properties.CoreLoad

/-!
# The total load is taken from the wrong counters

A call remembers the growth of the counters, not the counters. The next call subtracts this growth
from the counters. The first two calls do not show it, as nothing was remembered before them.

* `cpu_load_iff` — every call from the second on reports the growth since the call before exactly
  when what is left over of the earlier counters is in proportion to this growth
* `cpu_load_wrong` — an idle machine is reported as half busy
-/

namespace MicroserviceCommon.SystemMonitor

/-! ## Calls one after the other -/

/-- Every call finds the cores. The counters do not decrease from one call to the next. -/
structure CpuHistory where
  files : ℕ → ProcFiles
  cpu : ℕ → GlibtopCpu
  total_le : ∀ k, (cpu k).total ≤ (cpu (k + 1)).total
  used_le : ∀ k, (cpu k).used ≤ (cpu (k + 1)).used
  returns : ∀ k, ∃ lines cores, (files k).cpuinfo = some lines ∧
    readCores (getCoreStatLines (files k)) 0 [] lines = .ok cores

namespace CpuHistory

variable (h : CpuHistory)

/-- What is remembered before each call. A call that does not return remembers nothing. -/
def last : ℕ → LastCpu
  | 0 => {}
  | k + 1 =>
    match getCPUStatus (last k) (h.files k) (h.cpu k) with
    | .ok (_, last') => last'
    | .error _ => last k

def total (k : ℕ) : ℤ := (h.cpu k).total.toNat

def used (k : ℕ) : ℤ := (h.cpu k).used.toNat

/-- The counters of the processor do not go below what is remembered. -/
def NoUnderflow (k : ℕ) : Prop :=
  (h.last k).total ≤ (h.cpu k).total ∧ (h.last k).used ≤ (h.cpu k).used

/-- The growth since the call before, in percent. -/
def growth (k : ℕ) : ℚ :=
  100 * ((h.used (k + 1) - h.used k : ℤ) : ℚ) / max ((h.total (k + 1) - h.total k : ℤ) : ℚ) 1

/-- Every call from the second on reports the growth, without an underflow. -/
def ReportsGrowth : Prop :=
  (∀ k, h.NoUnderflow k) ∧ ∀ k, ∃ status last',
    getCPUStatus (h.last (k + 1)) (h.files (k + 1)) (h.cpu (k + 1)) = .ok (status, last') ∧
    status.totalLoadByAvgFromCoresPercent = some (h.growth k) ∧
    (h.used (k + 1) - h.used k ≤ h.total (k + 1) - h.total k →
      0 ≤ h.growth k ∧ h.growth k ≤ 100)

/-- `f (k - 1) - f (k - 2) + f (k - 3) - …` -/
def alternatingSum (f : ℕ → ℤ) : ℕ → ℤ
  | 0 => 0
  | k + 1 => f k - alternatingSum f k

/-- The sums over the counters before the last two calls are in proportion to the growth. -/
def InProportion : Prop :=
  ∀ k, alternatingSum h.used k * max (h.total (k + 1) - h.total k) 1 =
    (h.used (k + 1) - h.used k) *
      (max (h.total (k + 1) - h.total k + alternatingSum h.total k) 1 -
        max (h.total (k + 1) - h.total k) 1)

/-! ## What is remembered -/

variable {h}

theorem total_mono (k : ℕ) : h.total k ≤ h.total (k + 1) :=
  Int.ofNat_le.mpr (UInt64.le_iff_toNat_le.mp (h.total_le k))

theorem used_mono (k : ℕ) : h.used k ≤ h.used (k + 1) :=
  Int.ofNat_le.mpr (UInt64.le_iff_toNat_le.mp (h.used_le k))

/-- An alternating sum of numbers that do not decrease is not above the last one. -/
theorem alternatingSum_bounds {f : ℕ → ℤ} (hzero : 0 ≤ f 0) (hmono : ∀ k, f k ≤ f (k + 1)) :
    ∀ k, 0 ≤ alternatingSum f k ∧ alternatingSum f k ≤ f k
  | 0 => ⟨le_rfl, hzero⟩
  | k + 1 => by
    obtain ⟨hlow, hhigh⟩ := alternatingSum_bounds hzero hmono k
    have hstep := hmono k
    rw [alternatingSum]
    constructor <;> omega

/-- A call reports the load and remembers the differences. -/
theorem getCPUStatus_eq (k : ℕ) (last : LastCpu) : ∃ status : SCPUStatus,
    getCPUStatus last (h.files k) (h.cpu k) = .ok (status, (totalLoad last (h.cpu k)).2) ∧
    status.totalLoadByAvgFromCoresPercent = some (totalLoad last (h.cpu k)).1 := by
  obtain ⟨lines, cores, hopen, hcores⟩ := h.returns k
  rw [getCPUStatus_of_open hopen, hcores]
  exact ⟨_, rfl, rfl⟩

theorem last_succ (k : ℕ) : h.last (k + 1) = (totalLoad (h.last k) (h.cpu k)).2 := by
  obtain ⟨status, hcall, _⟩ := getCPUStatus_eq (h := h) k (h.last k)
  rw [last, hcall]

theorem toNat_sub_of_le {a b : UInt64} (hle : b ≤ a) :
    ((a - b).toNat : ℤ) = a.toNat - b.toNat := by
  rw [UInt64.toNat_sub_of_le _ _ hle]
  exact Int.ofNat_sub (UInt64.le_iff_toNat_le.mp hle)

/-- **The remembered values are the alternating sums of the counters.** -/
theorem last_eq (k : ℕ) : ((h.last k).total.toNat : ℤ) = alternatingSum h.total k ∧
    ((h.last k).used.toNat : ℤ) = alternatingSum h.used k ∧ h.NoUnderflow k := by
  induction k with
  | zero => exact ⟨rfl, rfl, UInt64.zero_le, UInt64.zero_le⟩
  | succ k ih =>
    obtain ⟨htotal, hused, hle⟩ := ih
    have htotal' : ((h.last (k + 1)).total.toNat : ℤ) = alternatingSum h.total (k + 1) := by
      rw [last_succ, alternatingSum, ← htotal]
      exact toNat_sub_of_le hle.1
    have hused' : ((h.last (k + 1)).used.toNat : ℤ) = alternatingSum h.used (k + 1) := by
      rw [last_succ, alternatingSum, ← hused]
      exact toNat_sub_of_le hle.2
    refine ⟨htotal', hused', ?_, ?_⟩
    · refine UInt64.le_iff_toNat_le.mpr (Int.ofNat_le.mp (htotal'.le.trans ?_))
      exact (alternatingSum_bounds (f := h.total) (Int.natCast_nonneg _) total_mono (k + 1)).2
    · refine UInt64.le_iff_toNat_le.mpr (Int.ofNat_le.mp (hused'.le.trans ?_))
      exact (alternatingSum_bounds (f := h.used) (Int.natCast_nonneg _) used_mono (k + 1)).2

/-- **The growth is reported with what is left over of the earlier counters.** -/
theorem load_succ (k : ℕ) : (totalLoad (h.last (k + 1)) (h.cpu (k + 1))).1 =
    ((h.used (k + 1) - h.used k + alternatingSum h.used k : ℤ) : ℚ) /
      max ((h.total (k + 1) - h.total k + alternatingSum h.total k : ℤ) : ℚ) 1 * 100 := by
  obtain ⟨htotal, hused, hle⟩ := last_eq (h := h) (k + 1)
  have htotal' : (((h.cpu (k + 1)).total - (h.last (k + 1)).total).toNat : ℤ) =
      h.total (k + 1) - h.total k + alternatingSum h.total k := by
    rw [toNat_sub_of_le hle.1, htotal, alternatingSum, ← sub_add]
    rfl
  have hused' : (((h.cpu (k + 1)).used - (h.last (k + 1)).used).toNat : ℤ) =
      h.used (k + 1) - h.used k + alternatingSum h.used k := by
    rw [toNat_sub_of_le hle.2, hused, alternatingSum, ← sub_add]
    rfl
  rw [← htotal', ← hused']
  rfl

/-! ## When the growth is reported -/

/-- A growth that is not above the total one is a percentage. -/
theorem growth_bounds (k : ℕ) (hle : h.used (k + 1) - h.used k ≤ h.total (k + 1) - h.total k) :
    0 ≤ h.growth k ∧ h.growth k ≤ 100 := by
  have hpos : (0 : ℚ) < max ((h.total (k + 1) - h.total k : ℤ) : ℚ) 1 :=
    lt_max_of_lt_right one_pos
  have hnonneg : (0 : ℚ) ≤ ((h.used (k + 1) - h.used k : ℤ) : ℚ) :=
    Int.cast_nonneg (sub_nonneg.mpr (used_mono k))
  have hbelow : ((h.used (k + 1) - h.used k : ℤ) : ℚ) ≤
      max ((h.total (k + 1) - h.total k : ℤ) : ℚ) 1 :=
    (Int.cast_le.mpr hle).trans (le_max_left _ _)
  refine ⟨div_nonneg (mul_nonneg (by norm_num) hnonneg) hpos.le, ?_⟩
  rw [growth, div_le_iff₀ hpos]
  exact mul_le_mul_of_nonneg_left hbelow (by norm_num)

/-- Two fractions of which the second has a surplus in both parts. -/
theorem surplus_iff {u b m m' : ℚ} (hm : 0 < m) (hm' : 0 < m') :
    (u + b) / m' * 100 = 100 * u / m ↔ b * m = u * (m' - m) := by
  rw [div_mul_eq_mul_div, div_eq_div_iff hm'.ne' hm.ne']
  constructor <;> intro heq <;> linarith

theorem load_eq_growth_iff (k : ℕ) :
    (totalLoad (h.last (k + 1)) (h.cpu (k + 1))).1 = h.growth k ↔
      alternatingSum h.used k * max (h.total (k + 1) - h.total k) 1 =
        (h.used (k + 1) - h.used k) *
          (max (h.total (k + 1) - h.total k + alternatingSum h.total k) 1 -
            max (h.total (k + 1) - h.total k) 1) := by
  rw [load_succ, growth, Int.cast_add,
    surplus_iff (lt_max_of_lt_right one_pos) (lt_max_of_lt_right one_pos)]
  rw [← Int.cast_inj (α := ℚ)]
  push_cast
  exact Iff.rfl

variable (h) in
/--
**When the load is the growth of the counters.**

What a call remembers is the alternating sum of all counters so far. The load is right exactly when
the sums that are left over from before the last two calls do not change the quotient.
-/
theorem cpu_load_iff : h.ReportsGrowth ↔ h.InProportion := by
  constructor
  · rintro ⟨_, hreports⟩ k
    obtain ⟨status, last', hcall, hgrowth, _⟩ := hreports k
    obtain ⟨status', hcall', hload⟩ := getCPUStatus_eq (h := h) (k + 1) (h.last (k + 1))
    rw [hcall', Except.ok.injEq, Prod.mk.injEq] at hcall
    rw [← hcall.1, hload, Option.some.injEq] at hgrowth
    exact (load_eq_growth_iff k).mp hgrowth
  · intro hproportion
    refine ⟨fun k => (last_eq k).2.2, fun k => ?_⟩
    obtain ⟨status, hcall, hload⟩ := getCPUStatus_eq (h := h) (k + 1) (h.last (k + 1))
    refine ⟨status, _, hcall, ?_, growth_bounds k⟩
    rw [hload, (load_eq_growth_iff k).mpr (hproportion k)]

/-- One core, which always has the same line. -/
def oneCore : CoreCounters where
  cpu := 0
  user := 100
  nice := 0
  system := 0
  others := [200]
  lt := by decide
  sum_lt := by decide
  sum_pos := by decide

def oneCoreFiles : ProcFiles where
  cpuinfo := some ["processor : 0".toList, []]
  stat := some [summaryLine oneCore.values, oneCore.text]
  nprocs := 1

theorem readCores_oneCore : ∃ cores,
    readCores (getCoreStatLines oneCoreFiles) 0 [] ["processor : 0".toList, []] = .ok cores := by
  have hlines : getCoreStatLines oneCoreFiles = [oneCore.text] := by decide
  have hload := oneCore.getCoreLoad_of_sum_lt (by decide)
  rw [hlines, readCores, if_neg (by decide), readCores, if_pos rfl]
  simp only [List.getElem?_cons_zero, hload]
  exact ⟨_, rfl⟩

/-- One busy interval, then the machine is idle. -/
def idleAfterWork : CpuHistory where
  files := fun _ => oneCoreFiles
  cpu := fun k => { total := 100 * UInt64.ofNat (min k 2 + 1), user := 100, nice := 0, sys := 0 }
  total_le := fun k => by
    have hcases : k = 0 ∨ k = 1 ∨ 2 ≤ k := by omega
    rcases hcases with rfl | rfl | hk
    · decide
    · decide
    · rw [min_eq_right hk, min_eq_right (hk.trans (Nat.le_succ k))]
      exact UInt64.le_refl _
  used_le := fun _ => UInt64.le_refl _
  returns := fun _ => by
    obtain ⟨cores, hcores⟩ := readCores_oneCore
    exact ⟨_, cores, rfl, hcores⟩

/-- The third call reports 50 percent, though nothing was used since the second one. -/
theorem cpu_load_wrong : ¬ idleAfterWork.ReportsGrowth := by
  rintro ⟨_, hreports⟩
  obtain ⟨status, last', hcall, hgrowth, _⟩ := hreports 1
  obtain ⟨status', hcall', hload⟩ :=
    getCPUStatus_eq (h := idleAfterWork) 2 (idleAfterWork.last 2)
  rw [hcall', Except.ok.injEq, Prod.mk.injEq] at hcall
  rw [← hcall.1, hload, Option.some.injEq] at hgrowth
  have hequation := (load_eq_growth_iff 1).mp hgrowth
  exact absurd hequation (by decide)

end CpuHistory

end MicroserviceCommon.SystemMonitor
