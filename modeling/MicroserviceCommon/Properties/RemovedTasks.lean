import MicroserviceCommon.Infra.Run
import MicroserviceCommon.System.ProcessLauncher

/-!
# Removed launch tasks stay in the queue

`removeLaunchTask` deletes a task and takes it out of the map, but not out of `m_launchTasks`.

* `removedTasks_iff` — a tick never touches a deleted task exactly in the runs that remove no task
  from the map while it is in the queue
-/

namespace MicroserviceCommon.ProcessLauncher

open Infra

namespace LaunchTaskStore

variable {s s' : LaunchTaskStore}

/-- The task belongs to the map and was not deleted. -/
def IsLive (s : LaunchTaskStore) (task : Nat) : Prop :=
  task ∉ s.deleted ∧ ∃ taskId, s.processesLaunchedFromChildThreadTasks taskId = some task

/-- What every state promises. -/
structure TasksLive (s : LaunchTaskStore) : Prop where
  queue : ∀ task ∈ s.launchTasks, s.IsLive task
  unlaunched : ∀ task ∈ s.removedUnlaunched, task ∉ s.launchedTasks

/-- A tick reads and writes the task at the back of the queue. -/
def TouchesLive (s : LaunchTaskStore) : LaunchTaskAction → Prop
  | .runSystemClock _ => ∀ task, s.launchTasks.getLast? = some task → task ∉ s.deleted
  | .addLaunchTask _ | .removeLaunchTask _ => True

/-- No task is removed that is in the queue, and the id of a new task is not in use. -/
def Unqueued (s : LaunchTaskStore) : LaunchTaskAction → Prop
  | .addLaunchTask _ =>
    s.processesLaunchedFromChildThreadTasks (s.launchTaskIdGenerator + 1) = none
  | .removeLaunchTask taskId =>
    ∀ task ∈ s.launchTasks, s.processesLaunchedFromChildThreadTasks taskId ≠ some task
  | .runSystemClock _ => True

/-! ## The invariant -/

/-- Pointers are made by `new`, and deleted tasks are not in the map. -/
structure StoreInv (s : LaunchTaskStore) : Prop extends s.TasksLive where
  bound : ∀ taskId task, s.processesLaunchedFromChildThreadTasks taskId = some task →
    task < s.tasks.length
  deleted_bound : ∀ task ∈ s.deleted, task < s.tasks.length
  removed : ∀ task ∈ s.removedUnlaunched, task ∈ s.deleted

theorem storeInv_start : StoreInv {} where
  queue _ h := absurd h List.not_mem_nil
  unlaunched _ h := absurd h List.not_mem_nil
  bound _ _ h := nomatch h
  deleted_bound _ h := absurd h List.not_mem_nil
  removed _ h := absurd h List.not_mem_nil

theorem storeInv_addLaunchTask (h : s.StoreInv) {call : LaunchCall}
    (hnew : s.Unqueued (.addLaunchTask call)) : (s.addLaunchTask call).StoreInv := by
  have hlength : (s.addLaunchTask call).tasks.length = s.tasks.length + 1 := List.length_append
  have hmap : ∀ taskId task,
      (s.addLaunchTask call).processesLaunchedFromChildThreadTasks taskId = some task ↔
        s.processesLaunchedFromChildThreadTasks taskId = some task ∨
          s.processesLaunchedFromChildThreadTasks taskId = none ∧
            taskId = s.launchTaskIdGenerator + 1 ∧ s.tasks.length = task :=
    fun _ _ => UnorderedMap.insert_eq_some_iff
  refine ⟨⟨fun task ht => ?_, h.unlaunched⟩, fun taskId task ht => ?_, fun task ht => ?_,
    h.removed⟩
  · rcases List.mem_append.mp ht with hold | hlast
    · obtain ⟨hkept, taskId, hin⟩ := h.queue task hold
      exact ⟨hkept, taskId, (hmap _ _).mpr (Or.inl hin)⟩
    · -- the new object is in the map, because its id was free
      rw [List.mem_singleton] at hlast
      rw [hlast]
      exact ⟨fun hdel => Nat.lt_irrefl _ (h.deleted_bound _ hdel), _,
        (hmap _ _).mpr (Or.inr ⟨hnew, rfl, rfl⟩)⟩
  · rw [hlength]
    rcases (hmap _ _).mp ht with hold | ⟨_, _, rfl⟩
    · exact Nat.lt_succ_of_lt (h.bound _ _ hold)
    · exact Nat.lt_succ_self _
  · rw [hlength]
    exact Nat.lt_succ_of_lt (h.deleted_bound _ ht)

theorem storeInv_removeLaunchTask (h : s.StoreInv) {taskId : TLaunchTaskId}
    (hfree : s.Unqueued (.removeLaunchTask taskId)) : (s.removeLaunchTask taskId).1.StoreInv := by
  unfold removeLaunchTask
  split
  · exact h
  · next task hfound =>
    refine ⟨⟨fun other hother => ?_, fun other hother => ?_⟩, fun id other ho => ?_,
      fun other ho => ?_, fun other ho => ?_⟩
    · have hne : other ≠ task := by
        rintro rfl
        exact hfree other hother hfound
      obtain ⟨hkept, id, hin⟩ := h.queue other hother
      refine ⟨?_, id, ?_⟩
      · rw [List.mem_append, List.mem_singleton]
        exact not_or.mpr ⟨hkept, hne⟩
      · have hid : id ≠ taskId := by
          rintro rfl
          exact hne (Option.some.inj (hin.symm.trans hfound))
        exact (if_neg hid).trans hin
    · dsimp only at hother
      split at hother
      · exact h.unlaunched other hother
      · next hwaits =>
        rcases List.mem_append.mp hother with hold | hlast
        · exact h.unlaunched other hold
        · rw [List.mem_singleton.mp hlast]
          exact hwaits
    · exact h.bound id other (Option.ite_none_left_eq_some.mp ho).2
    · rcases List.mem_append.mp ho with hold | hlast
      · exact h.deleted_bound other hold
      · rw [List.mem_singleton.mp hlast]
        exact h.bound taskId task hfound
    · rw [List.mem_append, List.mem_singleton]
      dsimp only at ho
      split at ho
      · exact Or.inl (h.removed other ho)
      · exact (List.mem_append.mp ho).imp (h.removed other) List.mem_singleton.mp

theorem runSystemClock_queue (s : LaunchTaskStore) (handle : Option TPid) :
    (s.runSystemClock handle).launchTasks = s.launchTasks.tail ∧
      (s.runSystemClock handle).tasks.length = s.tasks.length ∧
      (s.runSystemClock handle).processesLaunchedFromChildThreadTasks =
        s.processesLaunchedFromChildThreadTasks := by
  unfold runSystemClock LaunchQueue.runSystemClock
  cases hlast : s.launchTasks.getLast? with
  | none =>
    rw [List.getLast?_eq_none_iff.mp hlast]
    exact ⟨rfl, rfl, rfl⟩
  | some task => exact ⟨rfl, List.length_modify .., rfl⟩

theorem storeInv_runSystemClock (h : s.StoreInv) (handle : Option TPid) :
    (s.runSystemClock handle).StoreInv := by
  obtain ⟨hqueue, hlength, hmap⟩ := runSystemClock_queue s handle
  refine ⟨⟨fun task ht => ?_, fun task ht hl => ?_⟩, ?_, ?_, h.removed⟩
  · rw [hqueue] at ht
    obtain ⟨hkept, hin⟩ := h.queue task (List.mem_of_mem_tail ht)
    exact ⟨hkept, by rw [hmap]; exact hin⟩
  · rcases List.mem_append.mp hl with hold | hnew
    · exact h.unlaunched task ht hold
    · -- the task at the back is live
      have hback : s.launchTasks.getLast? = some task := by simpa using hnew
      exact (h.queue task (List.mem_of_getLast? hback)).1 (h.removed task ht)
  · rw [hmap, hlength]
    exact h.bound
  · rw [hlength]
    exact h.deleted_bound

theorem storeInv_step {a : LaunchTaskAction} (h : s.StoreInv) (hc : s.Unqueued a)
    (hs : s.step a = some s') : s'.StoreInv := by
  cases a with
  | addLaunchTask call =>
    cases hs
    exact storeInv_addLaunchTask h hc
  | removeLaunchTask taskId =>
    cases hs
    exact storeInv_removeLaunchTask h hc
  | runSystemClock handle =>
    cases hs
    exact storeInv_runSystemClock h handle

/-! ## The other direction -/

/-- A new task whose id is in use is not in the map, and a removed one leaves a dangling pointer. -/
theorem unqueued_of_tasksLive {a : LaunchTaskAction} (h : s.StoreInv) (hs : s.step a = some s')
    (h' : s'.TasksLive) : s.Unqueued a := by
  cases a with
  | addLaunchTask call =>
    cases hs
    obtain ⟨_, taskId, hin⟩ := h'.queue s.tasks.length (List.mem_append_right _ (by simp))
    rcases UnorderedMap.insert_eq_some_iff.mp hin with hold | ⟨hnone, hid, _⟩
    · exact absurd (h.bound _ _ hold) (Nat.lt_irrefl _)
    · rw [hid] at hnone
      exact hnone
  | removeLaunchTask taskId =>
    cases hs
    intro task htask hfound
    unfold removeLaunchTask at h'
    rw [hfound] at h'
    exact (h'.queue task htask).1 (List.mem_append_right _ (List.mem_singleton_self _))
  | runSystemClock handle => exact trivial

/--
**Deleted tasks are not touched exactly when no task is removed while the queue has it.**

A task waits in the queue, or it was launched from the back and has not come to the front yet.
-/
theorem removedTasks_iff (actions : List LaunchTaskAction) :
    AlwaysState step TasksLive {} actions ∧ AlwaysStep step TouchesLive {} actions ↔
      AlwaysStep step Unqueued {} actions := by
  refine alwaysStep_iff_of_inv step StoreInv (fun s h => h.toTasksLive)
    (fun s a s' h hc hs => storeInv_step h hc hs)
    (fun s a s' h hs _ h' => unqueued_of_tasksLive h hs h') (fun s a s' h hs _ => ?_) actions {}
    storeInv_start
  cases a with
  | runSystemClock handle =>
    exact fun task hback => (h.queue task (List.mem_of_getLast? hback)).1
  | addLaunchTask _ | removeLaunchTask _ => exact trivial

/-- A task is added and removed, and the tick launches it. -/
def removedRun : List LaunchTaskAction :=
  [.addLaunchTask { program := "a", args := [] }, .removeLaunchTask 1, .runSystemClock none]

theorem removedRun_touches :
    ¬ (AlwaysState step TasksLive {} removedRun ∧ AlwaysStep step TouchesLive {} removedRun) := by
  rintro ⟨_, hlaw⟩
  have htick := (((hlaw _ rfl).2 _ rfl).2 _ rfl).1
  exact htick 0 rfl (by decide)

end LaunchTaskStore

end MicroserviceCommon.ProcessLauncher
