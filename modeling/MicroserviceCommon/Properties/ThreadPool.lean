import MicroserviceCommon.Infra.Run
import MicroserviceCommon.System.ThreadPool

/-!
# The thread pool processes every task once, and reports it too early

* `shutdown_processes` — tasks leave the queue in order, each is processed once, and when `shutdown`
  returns all tasks are processed that came before the last worker left
* `allTasksDone_sound_iff` — `allTasksDone` is right exactly when it does not fall between a pop and
  the mark of the worker that popped
-/

namespace MicroserviceCommon

open Infra

namespace ThreadPool

variable {n : Nat} {τ : Type*} {s s' : ThreadPool n τ} {a : PoolAction n τ}

/-! ## The partition of the tasks -/

/-- Every task is in the queue, held by one worker, or processed. -/
structure Partition (s : ThreadPool n τ) : Prop where
  order : s.history.dequeued ++ s.inputTasks = s.history.enqueued
  accounts : total WorkerState.holds s.workers + ↑s.history.processed = ↑s.history.dequeued
  activity : ∀ w, s.threadsActivity w = (s.workers w).active

theorem partition_start : Partition ({} : ThreadPool n τ) where
  order := rfl
  accounts := by
    have hnone : total WorkerState.holds ({} : ThreadPool n τ).workers = 0 :=
      total_eq_zero.mpr fun _ => rfl
    rw [hnone]
    rfl
  activity _ := rfl

/-- What a step of one worker has to keep. -/
theorem Partition.of_work (h : s.Partition) {w : Fin n} {state : WorkerState τ}
    (dequeued processed : List τ) (hworkers : s'.workers = Function.update s.workers w state)
    (horder : s'.history.dequeued ++ s'.inputTasks = s'.history.enqueued)
    (hdequeued : s'.history.dequeued = s.history.dequeued ++ dequeued)
    (hprocessed : s'.history.processed = s.history.processed ++ processed)
    (hbalance : state.holds + ↑processed = (s.workers w).holds + ↑dequeued)
    (hactivity : s'.threadsActivity w = state.active)
    (hothers : ∀ v, v ≠ w → s'.threadsActivity v = s.threadsActivity v) : s'.Partition where
  order := horder
  accounts := by
    have hchange := total_transfer hbalance
    rw [hworkers, hdequeued, hprocessed, ← Multiset.coe_add, ← Multiset.coe_add, ← h.accounts,
      add_comm (s.history.processed : Multiset τ), ← add_assoc, hchange]
    exact add_right_comm ..
  activity v := by
    rw [hworkers]
    by_cases hv : v = w
    · rw [hv, Function.update_self]
      exact hactivity
    · rw [Function.update_of_ne hv, hothers v hv]
      exact h.activity v

theorem Partition.takeTask (h : s.Partition) {w : Fin n} (hw : s.workers w = .waiting)
    (hs : s.takeTask w = some s') : s'.Partition := by
  have hidle : s.threadsActivity w = false := by rw [h.activity, hw, WorkerState.active]
  unfold ThreadPool.takeTask at hs
  split at hs
  · split at hs
    · cases hs
      refine h.of_work [] [] rfl h.order ?_ ?_ ?_ hidle fun _ _ => rfl
      · exact (List.append_nil _).symm
      · exact (List.append_nil _).symm
      · rw [hw]
        rfl
    · cases hs
  · next task inputTasks hqueue =>
    cases hs
    refine h.of_work [task] [] rfl ?_ rfl ?_ ?_ hidle fun _ _ => rfl
    · rw [← h.order, hqueue, List.append_assoc]
      rfl
    · exact (List.append_nil _).symm
    · rw [hw]
      rfl

/-- A step that neither takes nor finishes a task. -/
theorem Partition.of_write (h : s.Partition) {w : Fin n} {state : WorkerState τ}
    (hworkers : s'.workers = Function.update s.workers w state)
    (hqueue : s'.inputTasks = s.inputTasks) (hhistory : s'.history = s.history)
    (hholds : state.holds = (s.workers w).holds) (hactivity : s'.threadsActivity w = state.active)
    (hothers : ∀ v, v ≠ w → s'.threadsActivity v = s.threadsActivity v) : s'.Partition := by
  refine h.of_work [] [] hworkers ?_ ?_ ?_ ?_ hactivity hothers
  · rw [hhistory, hqueue]
    exact h.order
  · rw [hhistory, List.append_nil]
  · rw [hhistory, List.append_nil]
  · rw [hholds]

theorem Partition.work (h : s.Partition) {w : Fin n} (hs : s.work w = some s') :
    s'.Partition := by
  have hactive := h.activity w
  have hflag : ∀ flag : Bool, ∀ v, v ≠ w →
      Function.update s.threadsActivity w flag v = s.threadsActivity v :=
    fun flag _ hv => Function.update_of_ne hv flag s.threadsActivity
  unfold ThreadPool.work at hs
  split at hs
  · next hw => exact h.takeTask hw hs
  · next task hw =>
    cases hs
    refine h.of_write rfl rfl rfl ?_ (Function.update_self ..) (hflag true)
    rw [hw]
    rfl
  · next task hw =>
    cases hs
    rw [hw] at hactive
    refine h.of_write rfl rfl rfl ?_ hactive fun _ _ => rfl
    rw [hw]
    rfl
  · next task hw =>
    cases hs
    rw [hw] at hactive
    refine h.of_work [] [task] rfl h.order ?_ rfl ?_ hactive
      fun _ _ => rfl
    · exact (List.append_nil _).symm
    · rw [hw]
      rfl
  · next task hw =>
    cases hs
    rw [hw] at hactive
    refine h.of_write rfl rfl rfl ?_ hactive fun _ _ => rfl
    rw [hw]
    rfl
  · next hw =>
    cases hs
    refine h.of_write rfl rfl rfl ?_ (Function.update_self ..) (hflag false)
    rw [hw]
    rfl
  · cases hs

theorem Partition.step (h : s.Partition) (hs : s.step a = some s') : s'.Partition := by
  cases a with
  | enqueue task =>
    cases hs
    refine ⟨?_, h.accounts, h.activity⟩
    show s.history.dequeued ++ (s.inputTasks ++ [task]) = s.history.enqueued ++ [task]
    rw [← h.order, List.append_assoc]
  | work w => exact h.work hs
  | shutdown =>
    rw [ThreadPool.step] at hs
    split at hs
    · cases hs
    · cases hs
      exact ⟨h.order, h.accounts, h.activity⟩
  | join =>
    rw [ThreadPool.step] at hs
    split at hs
    · cases hs
      exact ⟨h.order, h.accounts, h.activity⟩
    · cases hs
  | allTasksDone =>
    cases hs
    exact h

/-! ## `allTasksDone` -/

/-- `processInThread` has returned for every enqueued task. -/
def AllProcessed (s : ThreadPool n τ) : Prop := s.history.processed.Perm s.history.enqueued

/-- No worker has popped a task that it has not yet marked, unless something else keeps
`allTasksDone` from returning true. -/
def Marked (s : ThreadPool n τ) : Prop :=
  s.inputTasks ≠ [] ∨ (∃ w, s.threadsActivity w = true) ∨ ∀ w task, s.workers w ≠ .popped task

theorem allTasksDone_eq_true :
    s.allTasksDone = true ↔ (∀ w, s.threadsActivity w = false) ∧ s.inputTasks = [] := by
  rw [allTasksDone, Bool.and_eq_true, decide_eq_true_eq, List.isEmpty_iff]

/-- Without a queue, what is not processed is held. -/
theorem Partition.allProcessed_iff (h : s.Partition) (hqueue : s.inputTasks = []) :
    s.AllProcessed ↔ ∀ w, (s.workers w).holds = 0 := by
  have horder := h.order
  rw [hqueue, List.append_nil] at horder
  have haccounts := h.accounts
  rw [horder] at haccounts
  rw [AllProcessed, ← Multiset.coe_eq_coe, ← total_eq_zero, ← haccounts]
  exact right_eq_add

/-- **`allTasksDone` is right in a state exactly when nobody stands between pop and mark.** -/
theorem Partition.sound_iff (h : s.Partition) :
    (s.allTasksDone = true → s.AllProcessed) ↔ s.Marked := by
  rw [allTasksDone_eq_true]
  constructor
  · intro hsound
    by_cases hqueue : s.inputTasks = []
    · by_cases hflags : ∃ w, s.threadsActivity w = true
      · exact Or.inr (Or.inl hflags)
      · refine Or.inr (Or.inr fun w task hw => ?_)
        have hidle : ∀ w, s.threadsActivity w = false := fun w =>
          Bool.eq_false_iff.mpr fun hw => hflags ⟨w, hw⟩
        have hholds := (h.allProcessed_iff hqueue).mp (hsound ⟨hidle, hqueue⟩) w
        rw [hw] at hholds
        exact absurd hholds (Multiset.singleton_ne_zero task)
    · exact Or.inl hqueue
  · rintro hmarked ⟨hidle, hqueue⟩
    refine (h.allProcessed_iff hqueue).mpr fun w => ?_
    have hpopped : ∀ w task, s.workers w ≠ .popped task := by
      rcases hmarked with hne | ⟨v, hv⟩ | hpopped
      · exact absurd hqueue hne
      · rw [hidle v] at hv
        cases hv
      · exact hpopped
    have hactive := h.activity w
    rw [hidle w] at hactive
    cases hw : s.workers w with
    | popped task => exact absurd hw (hpopped w task)
    | waiting | processed task | cleared | exited => rfl
    | marked task | running task =>
      rw [hw] at hactive
      cases hactive

/-! ## `shutdown` -/

/-- Workers leave after `shutdown` was called, with an empty queue. -/
structure Leaving (s : ThreadPool n τ) : Prop where
  called : s.history.beforeShutdown <+: s.history.enqueued
  left : ∀ w, (s.workers w).left = true →
    s.terminate = true ∧ s.history.beforeShutdown <+: s.history.beforeExit
  allLeft : (∀ w, (s.workers w).left = true) → s.history.beforeExit = s.history.dequeued

theorem leaving_start : Leaving ({} : ThreadPool n τ) where
  called := List.prefix_rfl
  left _ h := by cases h
  allLeft _ := rfl

/-- A worker that stays in its loop. -/
theorem Leaving.of_stay (h : s.Leaving) {w : Fin n} {state : WorkerState τ}
    (hworkers : s'.workers = Function.update s.workers w state) (hstay : state.left = false)
    (hterminate : s'.terminate = s.terminate)
    (henqueued : s'.history.enqueued = s.history.enqueued)
    (hshutdown : s'.history.beforeShutdown = s.history.beforeShutdown)
    (hexit : s'.history.beforeExit = s.history.beforeExit) : s'.Leaving where
  called := by
    rw [hshutdown, henqueued]
    exact h.called
  left v hv := by
    rw [hterminate, hshutdown, hexit]
    rw [hworkers] at hv
    by_cases hvw : v = w
    · rw [hvw, Function.update_self, hstay] at hv
      cases hv
    · rw [Function.update_of_ne hvw] at hv
      exact h.left v hv
  allLeft hall := by
    have hw := hall w
    rw [hworkers, Function.update_self, hstay] at hw
    cases hw

theorem Leaving.work (h : s.Leaving) (hp : s.Partition) {w : Fin n} (hs : s.work w = some s') :
    s'.Leaving := by
  unfold ThreadPool.work at hs
  split at hs
  · unfold ThreadPool.takeTask at hs
    split at hs
    · next hqueue =>
      split at hs
      · next hterminate =>
        -- the worker leaves, and the queue is empty
        cases hs
        have horder := hp.order
        rw [hqueue, List.append_nil] at horder
        exact ⟨h.called, fun _ _ => ⟨hterminate, h.called⟩, fun _ => horder.symm⟩
      · cases hs
    · cases hs
      exact h.of_stay rfl rfl rfl rfl rfl rfl
  · cases hs
    exact h.of_stay rfl rfl rfl rfl rfl rfl
  · cases hs
    exact h.of_stay rfl rfl rfl rfl rfl rfl
  · cases hs
    exact h.of_stay rfl rfl rfl rfl rfl rfl
  · cases hs
    exact h.of_stay rfl rfl rfl rfl rfl rfl
  · cases hs
    exact h.of_stay rfl rfl rfl rfl rfl rfl
  · cases hs

theorem Leaving.step (h : s.Leaving) (hp : s.Partition) (hs : s.step a = some s') :
    s'.Leaving := by
  cases a with
  | enqueue task =>
    cases hs
    exact ⟨h.called.trans (List.prefix_append _ _), h.left, h.allLeft⟩
  | work w => exact h.work hp hs
  | shutdown =>
    rw [ThreadPool.step] at hs
    split at hs
    · cases hs
    · next hterminate =>
      cases hs
      refine ⟨List.prefix_rfl, fun w hw => ?_, h.allLeft⟩
      exact absurd (h.left w hw).1 hterminate
  | join =>
    rw [ThreadPool.step] at hs
    split at hs
    · cases hs
      exact ⟨h.called, h.left, h.allLeft⟩
    · cases hs
  | allTasksDone =>
    cases hs
    exact h

theorem holds_of_left {state : WorkerState τ} (h : state.left = true) : state.holds = 0 := by
  cases state with
  | exited => rfl
  | waiting | popped _ | marked _ | running _ | processed _ | cleared => cases h

/-- What holds when `shutdown` returns. The queue has only what came after the last worker left. -/
structure AllServed (s : ThreadPool n τ) : Prop where
  called : s.history.beforeShutdown <+: s.history.beforeExit
  processed : s.history.processed.Perm s.history.beforeExit
  queue : s.history.beforeExit ++ s.inputTasks = s.history.enqueued

theorem allServed_of_join (hn : 0 < n) (hp : s.Partition) (h : s.Leaving)
    (hs : s.step .join = some s') : s.AllServed := by
  rw [step] at hs
  split at hs
  · next hall =>
    obtain ⟨_, hleft⟩ := hall
    have hexit := h.allLeft hleft
    have hnone : total WorkerState.holds s.workers = 0 :=
      total_eq_zero.mpr fun w => holds_of_left (hleft w)
    have haccounts := hp.accounts
    rw [hnone, zero_add, Multiset.coe_eq_coe] at haccounts
    refine ⟨(h.left ⟨0, hn⟩ (hleft _)).2, ?_, ?_⟩
    · rw [hexit]
      exact haccounts
    · rw [hexit]
      exact hp.order
  · cases hs

end ThreadPool

open ThreadPool

/--
**`allTasksDone` is right in every call of a run exactly when no call falls between the pop and
the mark of a worker.**
-/
theorem allTasksDone_sound_iff {n : Nat} {τ : Type*} (actions : List (PoolAction n τ)) :
    AlwaysStep step (fun s a => a = .allTasksDone → s.allTasksDone = true → s.AllProcessed) {}
        actions ↔
      AlwaysStep step (fun s a => a = .allTasksDone → s.Marked) {} actions :=
  alwaysStep_congr (fun _ _ _ (h : Partition _) hs => h.step hs)
    (fun _ _ _ h _ => imp_congr_right fun _ => h.sound_iff) actions _ partition_start

/-- A worker has popped the only task, and `allTasksDone` finds nothing to do. -/
theorem allTasksDone_too_early :
    ∃ s : ThreadPool 1 Nat, runAll step {} [.enqueue 7, .work 0] = some s ∧
      s.allTasksDone = true ∧ s.history.enqueued = [7] ∧ s.history.processed = [] :=
  ⟨_, rfl, rfl, rfl, rfl⟩

/--
**In every run each task is in one place, and when `shutdown` returns all tasks are processed that
were enqueued before the last worker left.**

Those include the tasks enqueued before the call. A task that comes later stays in the queue.
-/
theorem shutdown_processes {n : Nat} {τ : Type*} (hn : 0 < n) (actions : List (PoolAction n τ)) :
    AlwaysState step Partition {} actions ∧
      AlwaysStep step (fun s a => a = .join → s.AllServed) {} actions := by
  have hinv : ∀ (s : ThreadPool n τ) a s', s.Partition ∧ s.Leaving → step s a = some s' →
      s'.Partition ∧ s'.Leaving :=
    fun _ _ _ h hs => ⟨h.1.step hs, h.2.step h.1 hs⟩
  have hstart : Partition ({} : ThreadPool n τ) ∧ Leaving ({} : ThreadPool n τ) :=
    ⟨partition_start, leaving_start⟩
  constructor
  · have hall := alwaysState_of_alwaysStep (fun s : ThreadPool n τ => s.Partition ∧ s.Leaving)
      (fun s a s' h _ hs => hinv s a s' h hs) actions _ hstart alwaysStep_trivial
    exact hall.mono fun _ h => h.1
  · refine (alwaysStep_congr hinv (fun s a s' h hs => ?_) actions _ hstart).mpr
      alwaysStep_trivial
    refine iff_of_true ?_ trivial
    rintro rfl
    exact allServed_of_join hn h.1 h.2 hs

/-- One worker, one task before `shutdown` and one before the worker leaves. -/
theorem shutdown_processes_one :
    AlwaysStep step (fun (s : ThreadPool 1 Nat) a => a = .join → s.AllServed) {}
      [.enqueue 7, .shutdown, .enqueue 8, .work 0, .work 0, .work 0, .work 0, .work 0, .work 0,
       .work 0, .work 0, .work 0, .work 0, .work 0, .work 0, .work 0, .join] :=
  (shutdown_processes (by decide) _).2

/-- A task that is enqueued after the worker has left is in the queue when `shutdown` returns. -/
theorem shutdown_leaves_task :
    ∃ s : ThreadPool 1 Nat, runAll step {} [.shutdown, .work 0, .enqueue 7, .join] = some s ∧
      s.stopped = true ∧ s.inputTasks = [7] :=
  ⟨_, rfl, rfl, rfl⟩

end MicroserviceCommon
