import MicroserviceCommon.System.ThreadPool

/-!
# The pool cannot be cancelled

`cancelPendingAndProcessTasks` cancels the current task of every worker and then goes on behind the
last worker, because its second loop asks for the size of the vector instead of the index.

* `cancelPendingAndProcessTasks_iff` — a call keeps its promise exactly on a pool without workers
-/

namespace MicroserviceCommon

namespace ThreadPool

variable {n : Nat} {τ : Type*}

/-! ## The loops -/

theorem popInputTasks_eq_ok_iff {inputTasks rest : List τ} {i : Nat} (hi : i < 2 ^ 31) :
    popInputTasks inputTasks i = .ok rest ↔ rest = [] ∧ inputTasks.length + i < 2 ^ 31 := by
  induction inputTasks generalizing i with
  | nil =>
    unfold popInputTasks
    rw [List.length_nil, Nat.zero_add, Except.ok.injEq, and_iff_left hi]
    exact eq_comm
  | cons task inputTasks ih =>
    unfold popInputTasks
    by_cases hnext : i + 1 < 2 ^ 31
    · rw [if_pos hnext, ih hnext, List.length_cons, Nat.add_right_comm, Nat.add_assoc]
    · rw [if_neg hnext, List.length_cons]
      constructor
      · intro h
        cases h
      · rintro ⟨_, hlength⟩
        omega

/-- With a worker the loop leaves the vector, whatever the tasks are. -/
theorem cancelFrom_of_workers (hn : n ≠ 0) (current : Fin n → Option τ) (i : Nat) (hi : i ≤ n)
    (cancelled : List τ) :
    cancelFrom current i cancelled = .error (.indexOutOfBounds n) := by
  fun_induction cancelFrom current i cancelled with
  | case1 => contradiction
  | case2 current i cancelled _ h curTask _ ih => exact ih h
  | case3 current i cancelled _ h _ ih => exact ih h
  | case4 current i cancelled _ h =>
    have hend : i = n := by omega
    rw [hend]

/-- Without workers there is nothing to cancel. -/
theorem cancelFrom_of_no_workers (hn : n = 0) (current : Fin n → Option τ) (i : Nat)
    (cancelled : List τ) : cancelFrom current i cancelled = .ok (current, cancelled) := by
  unfold cancelFrom
  rw [if_pos hn]

/-! ## The call -/

/-- What a call that leaves `s'` behind and has cancelled these tasks promises. -/
structure Cancels [DecidableEq τ] (s s' : ThreadPool n τ) (cancelled : List τ) : Prop where
  empty : s'.inputTasks = []
  once : ∀ w task, s.workersCurrentTask w = some task → cancelled.count task = 1
  cleared : ∀ w, s'.workersCurrentTask w = none

theorem cancelPendingAndProcessTasks_eq_ok_iff {s s' : ThreadPool n τ} {cancelled : List τ} :
    s.cancelPendingAndProcessTasks = .ok (s', cancelled) ↔
      (n = 0 ∧ s.inputTasks.length < 2 ^ 31) ∧ s' = { s with inputTasks := [] } ∧
        cancelled = [] := by
  unfold cancelPendingAndProcessTasks
  cases hpop : popInputTasks s.inputTasks 0 with
  | error fault =>
    have hlength : ¬ s.inputTasks.length < 2 ^ 31 := by
      intro hlt
      rw [(popInputTasks_eq_ok_iff (by decide)).mpr ⟨rfl, hlt⟩] at hpop
      cases hpop
    constructor
    · intro h
      cases h
    · exact fun h => absurd h.1.2 hlength
  | ok rest =>
    obtain ⟨rfl, hlength⟩ := (popInputTasks_eq_ok_iff (by decide)).mp hpop
    by_cases hn : n = 0
    · rw [and_iff_right ⟨hn, hlength⟩]
      simp only [cancelFrom_of_no_workers hn, bind, Except.bind, pure, Except.pure]
      rw [Except.ok.injEq, Prod.mk.injEq, eq_comm (b := s'), eq_comm (b := cancelled)]
    · simp only [cancelFrom_of_workers hn _ 0 n.zero_le, bind, Except.bind]
      constructor
      · intro h
        cases h
      · exact fun h => absurd h.1.1 hn

/--
**`cancelPendingAndProcessTasks` returns only from a pool without workers.**

The length bound is that of the unused `int` counter of the first loop.
-/
theorem cancelPendingAndProcessTasks_iff [DecidableEq τ] (s : ThreadPool n τ) :
    (∃ s' cancelled, s.cancelPendingAndProcessTasks = .ok (s', cancelled) ∧
      s.Cancels s' cancelled) ↔ n = 0 ∧ s.inputTasks.length < 2 ^ 31 := by
  constructor
  · rintro ⟨s', cancelled, hcall, _⟩
    exact (cancelPendingAndProcessTasks_eq_ok_iff.mp hcall).1
  · intro h
    have hnone : ∀ _ : Fin n, False := fun w => absurd h.1 w.pos.ne'
    exact ⟨_, _, cancelPendingAndProcessTasks_eq_ok_iff.mpr ⟨h, rfl, rfl⟩, rfl,
      fun w => (hnone w).elim, fun w => (hnone w).elim⟩

/-- One worker that runs the task 7. -/
def cancelledPool : ThreadPool 1 Nat :=
  { workersCurrentTask := fun _ => some 7, threadsActivity := fun _ => true
    workers := fun _ => .running 7 }

theorem cancelledPool_faults : ¬ ∃ s' cancelled,
    cancelledPool.cancelPendingAndProcessTasks = .ok (s', cancelled) ∧
      cancelledPool.Cancels s' cancelled := by
  rintro ⟨s', cancelled, hcall, _⟩
  exact absurd (cancelPendingAndProcessTasks_eq_ok_iff.mp hcall).1.1 (by decide)

end ThreadPool

end MicroserviceCommon
