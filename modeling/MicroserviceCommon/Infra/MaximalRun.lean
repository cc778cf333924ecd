import Mathlib.Data.Finset.Sort
import Mathlib.Data.Int.Order.Basic
import Mathlib.Data.Set.Finite.Basic

/-!
# Maximal runs of consecutive integers

A set of integers falls into maximal runs.

* `IsMaximalRun` — a run that cannot be made longer
* `IsRunDecomposition` — all of them, in ascending order
* `exists_isRunDecomposition` — a finite set has its decomposition
-/

namespace Infra

/-- All integers from `a` to `b` are in the set, and neither neighbour is. -/
structure IsMaximalRun (S : Set ℤ) (a b : ℤ) : Prop where
  le : a ≤ b
  inside : ∀ k, a ≤ k → k ≤ b → k ∈ S
  before : a - 1 ∉ S
  behind : b + 1 ∉ S

/-- The runs are apart from each other and hold the whole set. -/
structure IsRunDecomposition (S : Set ℤ) (runs : List (ℤ × ℤ)) : Prop where
  sorted : runs.Pairwise fun r r' => r.2 < r'.1
  maximal : ∀ r ∈ runs, IsMaximalRun S r.1 r.2
  covers : ∀ k ∈ S, ∃ r ∈ runs, r.1 ≤ k ∧ k ≤ r.2

variable {S : Set ℤ} {a b k : ℤ} {runs : List (ℤ × ℤ)}

/-- **Two maximal runs with a common integer are the same.** -/
theorem IsMaximalRun.eq_of_common {a' b' : ℤ} (h : IsMaximalRun S a b) (h' : IsMaximalRun S a' b')
    (ha : a ≤ k) (hb : k ≤ b) (ha' : a' ≤ k) (hb' : k ≤ b') : a = a' ∧ b = b' := by
  -- one end outside the other run would be a neighbour inside the set
  constructor
  · rcases lt_trichotomy a a' with hlt | heq | hlt
    · exact absurd (h.inside (a' - 1) (by omega) (by omega)) h'.before
    · exact heq
    · exact absurd (h'.inside (a - 1) (by omega) (by omega)) h.before
  · rcases lt_trichotomy b b' with hlt | heq | hlt
    · exact absurd (h'.inside (b + 1) (by omega) (by omega)) h.behind
    · exact heq
    · exact absurd (h.inside (b' + 1) (by omega) (by omega)) h'.behind

/-- An integer that is no neighbour does not matter. -/
theorem IsMaximalRun.insert (h : IsMaximalRun S a b) (hk : k < a - 1) :
    IsMaximalRun (insert k S) a b := by
  have hle := h.le
  refine ⟨h.le, fun i hi hi' => Set.mem_insert_of_mem _ (h.inside i hi hi'), ?_, ?_⟩
  · rintro (heq | hmem)
    · omega
    · exact h.before hmem
  · rintro (heq | hmem)
    · omega
    · exact h.behind hmem

namespace IsRunDecomposition

/-- **Every integer of the set lies in exactly one run.** -/
theorem existsUnique (h : IsRunDecomposition S runs) (hk : k ∈ S) :
    ∃! r, r ∈ runs ∧ r.1 ≤ k ∧ k ≤ r.2 := by
  obtain ⟨r, hr, hle, hge⟩ := h.covers k hk
  refine ⟨r, ⟨hr, hle, hge⟩, ?_⟩
  rintro r' ⟨hr', hle', hge'⟩
  obtain ⟨hfst, hsnd⟩ :=
    (h.maximal r' hr').eq_of_common (h.maximal r hr) hle' hge' hle hge
  exact Prod.ext hfst hsnd

/-- Without runs there is nothing. -/
theorem nil_iff : IsRunDecomposition S [] ↔ ∀ k, k ∉ S := by
  constructor
  · intro h k hk
    obtain ⟨r, hr, _⟩ := h.covers k hk
    exact absurd hr List.not_mem_nil
  · exact fun h => ⟨List.Pairwise.nil, fun r hr => absurd hr List.not_mem_nil,
      fun k hk => absurd hk (h k)⟩

/-- The first run begins with the least integer. -/
theorem head_le (h : IsRunDecomposition S ((a, b) :: runs)) (hk : k ∈ S) : a ≤ k := by
  obtain ⟨r, hr, hle, _⟩ := h.covers k hk
  rcases List.mem_cons.mp hr with rfl | hr
  · exact hle
  · have hbefore := List.rel_of_pairwise_cons h.sorted hr
    have hrun := (h.maximal (a, b) List.mem_cons_self).le
    exact le_trans hrun (le_trans hbefore.le hle)

/-- A smaller integer prolongs the first run. -/
theorem extend (h : IsRunDecomposition S ((a, b) :: runs)) :
    IsRunDecomposition (insert (a - 1) S) ((a - 1, b) :: runs) := by
  have hfirst := h.maximal (a, b) List.mem_cons_self
  have hle := hfirst.le
  have hsorted := List.pairwise_cons.mp h.sorted
  refine ⟨List.pairwise_cons.mpr ⟨fun r hr => hsorted.1 r hr, hsorted.2⟩, ?_, ?_⟩
  · intro r hr
    rcases List.mem_cons.mp hr with rfl | hr
    · refine ⟨by omega, fun i hi hi' => ?_, ?_, ?_⟩
      · rcases eq_or_lt_of_le hi with rfl | hlt
        · exact Set.mem_insert _ _
        · exact Set.mem_insert_of_mem _ (hfirst.inside i (by omega) hi')
      · rintro (heq | hmem)
        · omega
        · have hhead := h.head_le hmem
          omega
      · rintro (heq | hmem)
        · omega
        · exact hfirst.behind hmem
    · have hbefore := hsorted.1 r hr
      exact (h.maximal r (List.mem_cons_of_mem _ hr)).insert (by omega)
  · rintro i (rfl | hi)
    · exact ⟨(a - 1, b), List.mem_cons_self, le_rfl, by omega⟩
    · obtain ⟨r, hr, hri, hir⟩ := h.covers i hi
      rcases List.mem_cons.mp hr with rfl | hr
      · exact ⟨(a - 1, b), List.mem_cons_self, by omega, hir⟩
      · exact ⟨r, List.mem_cons_of_mem _ hr, hri, hir⟩

/-- A much smaller integer is a run of its own. -/
theorem cons (h : IsRunDecomposition S runs) (hk : ∀ i ∈ S, k + 1 < i) :
    IsRunDecomposition (insert k S) ((k, k) :: runs) := by
  have hruns : ∀ r ∈ runs, k + 1 < r.1 := fun r hr =>
    hk _ ((h.maximal r hr).inside r.1 le_rfl (h.maximal r hr).le)
  refine ⟨List.pairwise_cons.mpr ⟨fun r hr => ?_, h.sorted⟩, ?_, ?_⟩
  · have hbehind := hruns r hr
    show k < r.1
    omega
  · intro r hr
    rcases List.mem_cons.mp hr with rfl | hr
    · refine ⟨le_rfl, fun i hi hi' => Or.inl (le_antisymm hi' hi), ?_, ?_⟩
      · rintro (heq | hmem)
        · omega
        · have hbehind := hk _ hmem
          omega
      · rintro (heq | hmem)
        · omega
        · exact absurd (hk _ hmem) (lt_irrefl _)
    · have hbehind := hruns r hr
      exact (h.maximal r hr).insert (by omega)
  · rintro i (rfl | hi)
    · exact ⟨(i, i), List.mem_cons_self, le_rfl, le_rfl⟩
    · obtain ⟨r, hr, hri, hir⟩ := h.covers i hi
      exact ⟨r, List.mem_cons_of_mem _ hr, hri, hir⟩

end IsRunDecomposition

/-- The runs of an ascending list. -/
def runsOf : List ℤ → List (ℤ × ℤ)
  | [] => []
  | k :: rest =>
    match runsOf rest with
    | [] => [(k, k)]
    | (a, b) :: runs => if k = a - 1 then (k, b) :: runs else (k, k) :: (a, b) :: runs

/-- **An ascending list falls into its runs.** -/
theorem isRunDecomposition_runsOf : ∀ {l : List ℤ}, l.Pairwise (· < ·) →
    IsRunDecomposition {k | k ∈ l} (runsOf l)
  | [], _ => IsRunDecomposition.nil_iff.mpr fun k hk => absurd hk List.not_mem_nil
  | k :: rest, h => by
    obtain ⟨hk, hrest⟩ := List.pairwise_cons.mp h
    have hset : {i | i ∈ k :: rest} = insert k {i | i ∈ rest} := by
      ext i
      exact List.mem_cons
    have ih := isRunDecomposition_runsOf hrest
    rw [hset, runsOf]
    split
    · next hnil =>
      rw [hnil] at ih
      exact ih.cons fun i hi => absurd hi (IsRunDecomposition.nil_iff.mp ih i)
    · next a b runs hcons =>
      rw [hcons] at ih
      have ha : a ∈ rest := (ih.maximal (a, b) List.mem_cons_self).inside a le_rfl
        (ih.maximal (a, b) List.mem_cons_self).le
      split
      · next heq =>
        subst heq
        exact ih.extend
      · next hne =>
        have hlt := hk a ha
        refine ih.cons fun i hi => ?_
        have hhead := ih.head_le hi
        omega

/-- **A finite set falls into its runs.** -/
theorem exists_isRunDecomposition (h : S.Finite) : ∃ runs, IsRunDecomposition S runs := by
  have hset : {k | k ∈ h.toFinset.sort} = S := by
    ext k
    exact (Finset.mem_sort _).trans h.mem_toFinset
  exact ⟨_, hset ▸ isRunDecomposition_runsOf h.toFinset.sortedLT_sort.pairwise⟩

end Infra
