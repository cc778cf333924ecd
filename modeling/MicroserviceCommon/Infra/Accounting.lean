import Mathlib.Algebra.BigOperators.Group.Finset.Piecewise
import Mathlib.Algebra.Order.BigOperators.Group.Finset
import Mathlib.Algebra.Order.Group.Multiset
import Mathlib.Data.Fintype.Basic

/-!
# Items held by finitely many owners

Every owner has a state, and holds the items that belong to this state.

* `total_transfer` — a step of one owner changes the total by what it takes and gives
* `total_eq_zero` — nothing is held exactly when no owner holds anything
-/

namespace Infra

variable {ι σ τ : Type*} [Fintype ι] {holds : σ → Multiset τ} {owners : ι → σ}

def total (holds : σ → Multiset τ) (owners : ι → σ) : Multiset τ := ∑ i, holds (owners i)

theorem total_eq_zero : total holds owners = 0 ↔ ∀ i, holds (owners i) = 0 := by
  rw [total, Finset.sum_eq_zero_iff]
  exact ⟨fun h i => h i (Finset.mem_univ i), fun h i _ => h i⟩

variable [DecidableEq ι]

theorem total_update (i : ι) (x : σ) :
    total holds (Function.update owners i x) + holds (owners i) = total holds owners + holds x := by
  have hrest : ∑ j ∈ Finset.univ.erase i, holds (Function.update owners i x j) =
      ∑ j ∈ Finset.univ.erase i, holds (owners j) := by
    refine Finset.sum_congr rfl fun j hj => ?_
    rw [Function.update_of_ne (Finset.ne_of_mem_erase hj)]
  have hnew := Finset.add_sum_erase Finset.univ
    (fun j => holds (Function.update owners i x j)) (Finset.mem_univ i)
  have hold := Finset.add_sum_erase Finset.univ (fun j => holds (owners j)) (Finset.mem_univ i)
  rw [hrest, Function.update_self] at hnew
  rw [total, total, ← hnew, ← hold, add_right_comm, add_comm (holds x), add_right_comm]

/-- **What an owner gives away and takes shows in the total.** -/
theorem total_transfer {i : ι} {x : σ} {given taken : Multiset τ}
    (h : holds x + given = holds (owners i) + taken) :
    total holds (Function.update owners i x) + given = total holds owners + taken := by
  refine add_right_cancel (b := holds (owners i)) ?_
  calc total holds (Function.update owners i x) + given + holds (owners i)
      = total holds (Function.update owners i x) + holds (owners i) + given := add_right_comm ..
    _ = total holds owners + holds x + given := by rw [total_update]
    _ = total holds owners + (holds (owners i) + taken) := by rw [add_assoc, h]
    _ = total holds owners + taken + holds (owners i) := by
      rw [add_comm (holds (owners i)), add_assoc]

end Infra
