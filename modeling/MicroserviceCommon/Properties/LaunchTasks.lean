import MicroserviceCommon.Infra.Run
import MicroserviceCommon.System.ProcessLauncher

/-!
# Launch tasks are launched in order while no two of them wait

`runSystemClock` takes the task at the back of the queue and pops the one at the front. With one
task in the queue these are the same.

* `runSystemClock_inOrder_iff` — the launched tasks are the first ones added exactly when every
  tick finds at most one task, and then as many ticks as additions launch them all
-/

namespace MicroserviceCommon.ProcessLauncher

open Infra

namespace LaunchQueue

/-- The first tasks were launched, in the order of addition, and the others wait. -/
def InOrder (s : LaunchQueue) : Prop :=
  ∃ done waiting : List SLaunchTask, s.tasks = done ++ waiting ∧
    s.launchTasks = List.range' done.length waiting.length ∧
    s.launches = done.map SLaunchTask.toLaunchCall ∧
    (∀ task ∈ done, task.launched = true) ∧ ∀ task ∈ waiting, task.launched = false

def OneWaiting (s : LaunchQueue) : LaunchAction → Prop
  | .addLaunchTask _ => True
  | .runSystemClock _ => s.launchTasks.length ≤ 1

instance (s : LaunchQueue) : ∀ a : LaunchAction, Decidable (s.OneWaiting a)
  | .addLaunchTask _ => isTrue trivial
  | .runSystemClock _ => inferInstanceAs (Decidable (_ ≤ _))

variable {s s' : LaunchQueue}

/-! ## Single steps -/

theorem inOrder_addLaunchTask (h : s.InOrder) (call : LaunchCall) :
    (s.addLaunchTask call).InOrder := by
  obtain ⟨done, waiting, htasks, hqueue, hlaunches, hdone, hwaiting⟩ := h
  let task : SLaunchTask := { toLaunchCall := call, taskId := s.launchTaskIdGenerator + 1 }
  refine ⟨done, waiting ++ [task], ?_, ?_, hlaunches, hdone, ?_⟩
  · rw [← List.append_assoc, ← htasks]
    rfl
  · have hlen : s.tasks.length = done.length + waiting.length := by
      rw [htasks, List.length_append]
    rw [List.length_append, List.length_singleton, List.range'_1_concat, ← hqueue, ← hlen]
    rfl
  · intro t ht
    rcases List.mem_append.mp ht with hold | hnew
    · exact hwaiting t hold
    · rw [List.mem_singleton.mp hnew]

/-- The task at the back, after its launch. -/
def launchedTask (task : SLaunchTask) (handle : Option TPid) : SLaunchTask :=
  { task with handle := handle, launched := true }

/-- A tick launches the last task, whoever is at the front. -/
theorem runSystemClock_back {front : List SLaunchTask} {task : SLaunchTask} {n : Nat}
    (htasks : s.tasks = front ++ [task])
    (hqueue : s.launchTasks = List.range' n (front.length + 1 - n)) (hn : n ≤ front.length)
    (handle : Option TPid) :
    s.runSystemClock handle = { s with
      launchTasks := List.range' (n + 1) (front.length - n)
      launches := s.launches ++ [task.toLaunchCall]
      tasks := front ++ [launchedTask task handle] } := by
  have hback : s.launchTasks.getLast? = some front.length := by
    rw [hqueue, Nat.succ_sub hn, List.range'_1_concat, List.getLast?_concat]
    exact congrArg some (Nat.add_sub_cancel' hn)
  have hfront : s.launchTasks.tail = List.range' (n + 1) (front.length - n) := by
    rw [hqueue, Nat.succ_sub hn, List.range'_succ]
    rfl
  have htask : s.tasks[front.length]? = some task := by
    rw [htasks, List.getElem?_concat_length]
  have hmodify : s.tasks.modify front.length
      (fun t => { t with handle := handle, launched := true }) =
        front ++ [launchedTask task handle] := by
    rw [htasks, List.modify_eq_take_drop, List.take_left, List.drop_left]
    rfl
  rw [runSystemClock, hback]
  dsimp only
  rw [hfront, htask, hmodify]
  rfl

theorem runSystemClock_empty (h : s.launchTasks = []) (handle : Option TPid) :
    s.runSystemClock handle = s := by
  rw [runSystemClock, h]
  rfl

theorem inOrder_runSystemClock (h : s.InOrder) (hone : s.launchTasks.length ≤ 1)
    (handle : Option TPid) : (s.runSystemClock handle).InOrder := by
  obtain ⟨done, waiting, htasks, hqueue, hlaunches, hdone, hwaiting⟩ := h
  rw [hqueue, List.length_range'] at hone
  match waiting, hone with
  | [], _ =>
    rw [runSystemClock_empty hqueue]
    exact ⟨done, [], htasks, hqueue, hlaunches, hdone, hwaiting⟩
  | [task], _ =>
    have hrange : s.launchTasks = List.range' done.length (done.length + 1 - done.length) := by
      rw [hqueue, Nat.add_sub_cancel_left]
      rfl
    rw [runSystemClock_back htasks hrange (Nat.le_refl _)]
    refine ⟨done ++ [launchedTask task handle], [], ?_, ?_, ?_, ?_, ?_⟩
    · rw [List.append_nil]
    · dsimp only
      rw [Nat.sub_self]
      rfl
    · dsimp only
      rw [hlaunches, List.map_append]
      rfl
    · intro t ht
      rcases List.mem_append.mp ht with hold | hnew
      · exact hdone t hold
      · rw [List.mem_singleton.mp hnew]
        rfl
    · exact fun t ht => absurd ht List.not_mem_nil

/-- With two tasks in the queue the later one is launched, and the earlier one is gone. -/
theorem oneWaiting_of_inOrder (h : s.InOrder) {handle : Option TPid}
    (h' : (s.runSystemClock handle).InOrder) : s.launchTasks.length ≤ 1 := by
  obtain ⟨done, waiting, htasks, hqueue, _, _, _⟩ := h
  rw [hqueue, List.length_range']
  by_contra hmany
  obtain ⟨waiting', task, rfl⟩ : ∃ waiting' task, waiting = waiting' ++ [task] := by
    rcases List.eq_nil_or_concat waiting with hnil | hconcat
    · rw [hnil, List.length_nil] at hmany
      omega
    · obtain ⟨waiting', task, rfl⟩ := hconcat
      exact ⟨waiting', task, List.concat_eq_append⟩
  rw [List.length_append, List.length_singleton] at hmany hqueue
  rw [← List.append_assoc] at htasks
  have hle : done.length ≤ (done ++ waiting').length := by
    rw [List.length_append]
    exact Nat.le_add_right _ _
  have hrange : s.launchTasks =
      List.range' done.length ((done ++ waiting').length + 1 - done.length) := by
    rw [hqueue, List.length_append]
    congr 1
    omega
  rw [runSystemClock_back htasks hrange hle] at h'
  -- the last task of the table is launched, but the queue says that it waits
  obtain ⟨done₂, waiting₂, htasks₂, hqueue₂, _, _, hwaiting₂⟩ := h'
  dsimp only at htasks₂ hqueue₂
  have hlen := congrArg List.length hqueue₂
  rw [List.length_range', List.length_range', List.length_append] at hlen
  have hne : waiting₂ ≠ [] := by
    rintro rfl
    rw [List.length_nil] at hlen
    omega
  have hlast := congrArg List.getLast? htasks₂
  rw [List.getLast?_concat, List.getLast?_append_of_ne_nil _ hne] at hlast
  have hwaits := hwaiting₂ _ (List.mem_of_getLast? hlast.symm)
  cases hwaits

theorem inOrder_step {a : LaunchAction} (h : s.InOrder) (hone : s.OneWaiting a)
    (hs : s.step a = some s') : s'.InOrder := by
  cases a with
  | addLaunchTask call =>
    cases hs
    exact inOrder_addLaunchTask h call
  | runSystemClock handle =>
    cases hs
    exact inOrder_runSystemClock h hone handle

theorem oneWaiting_step {a : LaunchAction} (h : s.InOrder) (hs : s.step a = some s')
    (h' : s'.InOrder) : s.OneWaiting a := by
  cases a with
  | addLaunchTask call => exact trivial
  | runSystemClock handle =>
    cases hs
    exact oneWaiting_of_inOrder h h'

/-! ## What was added -/

/-- The arguments of the `addLaunchTask` calls of a run. -/
def additions (actions : List LaunchAction) : List LaunchCall :=
  actions.filterMap fun
    | .addLaunchTask call => some call
    | .runSystemClock _ => none

theorem toLaunchCall_runSystemClock (s : LaunchQueue) (handle : Option TPid) :
    (s.runSystemClock handle).tasks.map SLaunchTask.toLaunchCall =
      s.tasks.map SLaunchTask.toLaunchCall := by
  unfold runSystemClock
  split
  · rfl
  · next task _ =>
    dsimp only
    rw [List.modify_eq_take_drop, List.map_append]
    conv => rhs; rw [← List.take_append_drop task s.tasks, List.map_append]
    cases s.tasks.drop task with
    | nil => rfl
    | cons _ _ => rfl

/-- The table has the tasks in the order of addition. -/
theorem toLaunchCall_runAll {actions : List LaunchAction} (h : runAll step s actions = some s') :
    s'.tasks.map SLaunchTask.toLaunchCall =
      s.tasks.map SLaunchTask.toLaunchCall ++ additions actions := by
  induction actions generalizing s with
  | nil =>
    cases h
    exact (List.append_nil _).symm
  | cons a actions ih =>
    obtain ⟨s₁, h₁, h₂⟩ := Option.bind_eq_some_iff.mp h
    rw [ih h₂]
    cases a with
    | addLaunchTask call =>
      cases h₁
      rw [addLaunchTask, List.map_append, List.append_assoc]
      rfl
    | runSystemClock handle =>
      cases h₁
      rw [toLaunchCall_runSystemClock]
      rfl

/-- Every tick shortens the queue. -/
theorem length_launchTasks_ticks {handles : List (Option TPid)}
    (h : runAll step s (handles.map .runSystemClock) = some s') :
    s'.launchTasks.length = s.launchTasks.length - handles.length := by
  induction handles generalizing s with
  | nil =>
    cases h
    rfl
  | cons handle handles ih =>
    obtain ⟨s₁, h₁, h₂⟩ := Option.bind_eq_some_iff.mp h
    cases h₁
    rw [ih h₂, List.length_cons]
    have hpop : (s.runSystemClock handle).launchTasks.length = s.launchTasks.length - 1 := by
      unfold runSystemClock
      split
      · next hnone =>
        rw [List.getLast?_eq_none_iff.mp hnone]
        rfl
      · exact List.length_tail
    rw [hpop]
    omega

end LaunchQueue

open LaunchQueue

/--
**The launched tasks are the first ones added exactly when every tick finds at most one.**

Then `launch` got the arguments of every task once and in order, and after as many ticks as
there were additions all tasks are launched.
-/
theorem runSystemClock_inOrder_iff (actions : List LaunchAction) :
    (AlwaysState step InOrder {} actions ↔ AlwaysStep step OneWaiting {} actions) ∧
      (AlwaysStep step OneWaiting {} actions → ∀ s, runAll step {} actions = some s →
        s.launches <+: additions actions ∧
        ∀ (before : List LaunchAction) (handles : List (Option TPid)),
          actions = before ++ handles.map .runSystemClock →
          (additions before).length ≤ handles.length →
          s.launches = additions actions ∧ ∀ task ∈ s.tasks, task.launched = true) := by
  have hstart : InOrder {} := ⟨[], [], rfl, rfl, rfl, by simp, by simp⟩
  have hiff := alwaysState_iff_of_inv step InOrder (P := InOrder) (C := OneWaiting)
    (fun _ h => h) (fun _ _ _ h hone hs => inOrder_step h hone hs)
    (fun _ _ _ h hs h' => oneWaiting_step h hs h') actions {} hstart
  refine ⟨hiff, fun hone s hs => ?_⟩
  obtain ⟨done, waiting, htasks, hqueue, hlaunches, hdone, _⟩ := (hiff.mpr hone).last hs
  have hadded : s.tasks.map SLaunchTask.toLaunchCall = additions actions := toLaunchCall_runAll hs
  rw [htasks, List.map_append, ← hlaunches] at hadded
  refine ⟨⟨_, hadded⟩, ?_⟩
  rintro before handles rfl hmany
  rw [runAll_append] at hs
  obtain ⟨s₁, h₁, h₂⟩ := Option.bind_eq_some_iff.mp hs
  -- no more tasks wait than were added
  have hbefore : s₁.launchTasks.length ≤ (additions before).length := by
    have hadded₁ : s₁.tasks.map SLaunchTask.toLaunchCall = additions before :=
      toLaunchCall_runAll h₁
    obtain ⟨done₁, waiting₁, htasks₁, hqueue₁, _⟩ := ((hiff.mpr hone).of_append h₁).head
    rw [hqueue₁, List.length_range', ← hadded₁, htasks₁, List.length_map, List.length_append]
    exact Nat.le_add_left _ _
  have hlength := length_launchTasks_ticks h₂
  rw [hqueue, List.length_range'] at hlength
  have hnil : waiting = [] := List.length_eq_zero_iff.mp (by omega)
  rw [hnil, List.map_nil, List.append_nil] at hadded
  rw [hnil, List.append_nil] at htasks
  rw [htasks]
  exact ⟨hadded, hdone⟩

/-- Two additions and two ticks: the second task is launched twice, the first one never. -/
theorem runSystemClock_skips :
    ∃ s, runAll LaunchQueue.step {}
        [.addLaunchTask { program := "a", args := [] },
          .addLaunchTask { program := "b", args := [] }, .runSystemClock none,
          .runSystemClock none] = some s ∧
      s.launches = [{ program := "b", args := [] }, { program := "b", args := [] }] ∧
      s.tasks.map SLaunchTask.launched = [false, true] :=
  ⟨_, rfl, rfl, rfl⟩

end MicroserviceCommon.ProcessLauncher
