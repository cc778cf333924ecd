import MicroserviceCommon.System.MultitaskService
import MicroserviceCommon.System.ProcessMonitoring

/-!
# Lost wake-ups

The mutex that goes with each wait is a local one. A producer does not have to wait for it, so its
change and its notification can come between the evaluation of the predicate and the block. The
calls of `ThreadedMultitaskService` do not notify at all.

* `lost_wakeups_iff` — the task thread and the monitoring thread lose no wake-up exactly when no
  notification comes too early, and the service loses none exactly when nothing is added and no
  shutdown requested after its thread has found nothing to do
* `lost_wakeups_lost` — one call at a wrong time, for each of the three threads
-/

namespace MicroserviceCommon

open Infra

/-! ## The task thread -/

namespace ThreadedMultitaskService

variable {κ τ : Type*}

namespace TaskClients

variable (s : TaskClients κ)

theorem isClientExists_addRunnableClient (client : κ) :
    (s.addRunnableClient (some client)).1.isClientExists = true := by
  unfold addRunnableClient isClientExists
  simp only
  split
  · next hused =>
    -- the id is used, so there is a client
    cases hclients : s.clients with
    | nil => rw [hclients] at hused; cases hused
    | cons entry entries => rfl
  · simp

theorem shutdownCalled_removeRunnableClient (id : TRunnableClientId) :
    (s.removeRunnableClient id).1.shutdownCalled = s.shutdownCalled := by
  unfold removeRunnableClient
  split <;> rfl

theorem isClientExists_of_removeRunnableClient {id : TRunnableClientId}
    (h : (s.removeRunnableClient id).1.isClientExists = true) : s.isClientExists = true := by
  unfold removeRunnableClient at h
  split at h
  · exact h
  · cases hclients : s.clients with
    | nil =>
      simp only [isClientExists, hclients] at h
      cases h
    | cons entry entries =>
      unfold isClientExists
      rw [hclients]
      rfl

end TaskClients

theorem RunnableTask.quiet : (RunnableTask.threadTaskProcessing κ τ).Quiet := by
  intro t c hc d d' hd
  cases c with
  | addRunnableClient client =>
    cases client with
    | none =>
      cases hd
      exact ⟨rfl, id⟩
    | some client => cases hc
  | removeRunnableClient id =>
    cases hd
    exact ⟨d.shutdownCalled_removeRunnableClient id, d.isClientExists_of_removeRunnableClient⟩

/-! ## The service -/

/-- Nothing is added once the thread is bound to block, and no shutdown is requested once it has
found its predicate false. -/
def InTime (s : WaitSystem (TaskClients κ) TaskSection τ) : WaitAction Unit τ (ServiceCall κ) → Prop
  | .call _ (.addRunnableClient (some _)) =>
      (threadDumpToDatabase κ τ).asleep s.phase s.data = false
  | .call _ .shutdown => s.phase ≠ .blocking ∧ s.phase ≠ .blocked
  | _ => True

variable [DecidableEq τ]

theorem inTime_iff {s s' : WaitSystem (TaskClients κ) TaskSection τ}
    {a : WaitAction Unit τ (ServiceCall κ)} (hsilent : ∀ t, s.notifying t = false)
    (h : (threadDumpToDatabase κ τ).Announced s)
    (hs : (threadDumpToDatabase κ τ).step s a = some s') :
    InTime s a ↔ (threadDumpToDatabase κ τ).InTime s a := by
  cases a with
  | work input => exact Iff.rfl
  | wakeUp => exact Iff.rfl
  | notify t =>
    rw [WaitProgram.step, hsilent t, if_neg Bool.false_ne_true] at hs
    cases hs
  | call t c =>
    cases c with
    | addRunnableClient client =>
      cases client with
      | none =>
        refine iff_of_true trivial (WaitProgram.QuietCall.inTime ?_ h)
        intro d d' hd
        cases hd
        exact ⟨rfl, id⟩
      | some client =>
        have hpred : (threadDumpToDatabase κ τ).predicate
            (s.data.addRunnableClient (some client)).1 = true :=
          Bool.or_eq_true_iff.mpr (Or.inl (s.data.isClientExists_addRunnableClient client))
        rw [WaitProgram.inTime_iff_of_silent hsilent rfl rfl hpred]
        show _ = false ↔ _ = false
        cases s.phase <;> exact Iff.rfl
    | removeDumpToDatabaseClient id =>
      refine iff_of_true trivial (WaitProgram.QuietCall.inTime ?_ h)
      intro d d' hd
      cases hd
      exact ⟨d.shutdownCalled_removeRunnableClient id, d.isClientExists_of_removeRunnableClient⟩
    | shutdown =>
      have hpred : (threadDumpToDatabase κ τ).predicate
          { s.data with shutdownCalled := true } = true := Bool.or_true _
      rw [WaitProgram.inTime_iff_of_silent hsilent rfl rfl hpred]
      show s.phase ≠ .blocking ∧ s.phase ≠ .blocked ↔ _
      -- a shutdown before the flag is read is still seen
      cases s.phase <;> simp [WaitProgram.asleep, threadDumpToDatabase]

theorem awakens_iff_inTime (as : List (WaitAction Unit τ (ServiceCall κ))) (d : TaskClients κ) :
    AlwaysState (threadDumpToDatabase κ τ).step (threadDumpToDatabase κ τ).Awakens
        { data := d } as ↔
      AlwaysStep (threadDumpToDatabase κ τ).step InTime { data := d } as :=
  WaitProgram.awakens_iff (fun s => ∀ t, s.notifying t = false)
    (fun _ _ _ h hs => WaitProgram.notifying_of_silent (fun _ => rfl) h hs)
    (fun _ _ _ hsilent h hs => inTime_iff hsilent h hs) as _ (fun _ => rfl)
    (WaitProgram.announced_start d)

end ThreadedMultitaskService

/-! ## The monitoring thread -/

namespace ProcessLauncher

variable {τ : Type*}

namespace HandleSystem

/-- The sections of a launch that push nothing, and the signals. -/
def AddsNothing : HandleAction τ → Prop
  | .pushHandle _ | .shutdown => False
  | _ => True

theorem handles_of_signalChild (s : HandleSystem τ) (handle : Nat) (signal : Int32) :
    (s.signalChild handle signal).shutdown = s.shutdown ∧
      ∀ i ∈ (s.signalChild handle signal).handles, i ∈ s.handles := by
  unfold signalChild
  split
  · exact ⟨rfl, fun _ hi => hi⟩
  · exact ⟨rfl, fun _ hi => List.mem_of_mem_eraseP hi⟩

theorem handles_runShutdown (s : HandleSystem τ) :
    ∀ i ∈ s.runShutdown.handles, i ∈ s.handles := by
  unfold runShutdown
  split
  · exact fun _ hi => hi
  · exact fun _ hi => absurd hi List.not_mem_nil

variable [DecidableEq τ]

theorem handles_of_addsNothing {s s' : HandleSystem τ} {a : HandleAction τ} (ha : AddsNothing a)
    (hs : s.step a = some s') :
    s'.shutdown = s.shutdown ∧ ∀ i ∈ s'.handles, i ∈ s.handles := by
  have hs := stepsTo_of_step hs
  cases a with
  | checkDuplicate t call =>
    obtain ⟨_, rfl⟩ := hs
    unfold checkDuplicate
    split <;> exact ⟨rfl, fun _ hi => hi⟩
  | pushHandle t => exact ha.elim
  | fork t forkRt =>
    obtain ⟨_, _, _, rfl⟩ := hs
    unfold fork
    split <;> exact ⟨rfl, fun _ hi => hi⟩
  | setRole t =>
    obtain ⟨_, _, _, rfl⟩ := hs
    exact ⟨rfl, fun _ hi => hi⟩
  | kill handle signal | close handle signal =>
    obtain ⟨_, rfl⟩ := hs
    exact handles_of_signalChild s handle signal
  | monitor gone =>
    obtain rfl := hs
    exact ⟨rfl, fun _ hi => (List.mem_filter.mp hi).1⟩
  | shutdown => exact ha.elim

end HandleSystem

namespace Monitoring

/-- Fewer handles and the same tasks. -/
theorem childsExist_of_handles {s s' : Monitoring τ} (htasks : s'.tasks = s.tasks)
    (hhandles : ∀ i ∈ s'.launcher.handles, i ∈ s.launcher.handles) (h : s'.childsExist = true) :
    s.childsExist = true := by
  unfold childsExist at h ⊢
  rw [htasks] at h
  rw [Bool.or_eq_true] at h ⊢
  refine h.imp_left fun hne => ?_
  rw [Bool.not_eq_true', List.isEmpty_eq_false_iff_exists_mem] at hne ⊢
  obtain ⟨i, hi⟩ := hne
  exact ⟨i, hhandles i hi⟩

variable [DecidableEq τ]

theorem quiet_launcherStep {s s' : Monitoring τ} {a : HandleAction (Option τ)}
    (hs : s.launcherStep a = some s') (ha : HandleSystem.AddsNothing a) :
    s'.launcher.shutdown = s.launcher.shutdown ∧
      (s'.childsExist = true → s.childsExist = true) := by
  obtain ⟨launcher, hlauncher, rfl⟩ := Option.map_eq_some_iff.mp hs
  obtain ⟨hshutdown, hhandles⟩ := HandleSystem.handles_of_addsNothing ha hlauncher
  exact ⟨hshutdown, childsExist_of_handles rfl hhandles⟩

theorem quiet : (threadChildProcessMonitoring τ).Quiet := by
  intro t c hc s s' hs
  have hcall : s.call t c = some s' := hs
  cases c with
  | addLaunchTask launchCall => cases hc
  | pushHandle => cases hc
  | setShutdown => cases hc
  | fork forkRt => exact quiet_launcherStep hcall trivial
  | setRole => exact quiet_launcherStep hcall trivial
  | checkDuplicate _ | kill _ _ | close _ _ =>
    obtain ⟨_, hcall⟩ := Option.ite_none_right_eq_some.mp hcall
    exact quiet_launcherStep hcall trivial
  | clearHandles =>
    obtain ⟨_, hcall⟩ := Option.ite_none_right_eq_some.mp hcall
    cases hcall
    exact ⟨rfl, childsExist_of_handles rfl s.launcher.handles_runShutdown⟩

end Monitoring

end ProcessLauncher

/-! ## The three threads -/

section Main

variable {κ τ : Type*} [DecidableEq τ]

open ThreadedMultitaskService ProcessLauncher

/--
**When no wake-up is lost.**

The task thread and the monitoring thread lose none exactly when no notification comes between the
look at the data and the block, while the predicate is true and nobody else is to notify. The
service, which never notifies, loses none exactly when nothing is added and no shutdown requested
while its thread is bound to block or blocked.

The equivalences are about every state of a run and what the thread comes to from there on its own.
-/
theorem lost_wakeups_iff (clientIdGenerator : TRunnableClientId) (shutdownCalled : Bool)
    (taskRun : List (WaitAction Unit τ (RunnableTaskCall κ)))
    (serviceRun : List (WaitAction Unit τ (ServiceCall κ)))
    (monitoringRun : List (WaitAction MonitoringInput τ MonitoringCall)) :
    let task := RunnableTask.threadTaskProcessing κ τ
    let taskStart := { data := RunnableTask.init clientIdGenerator shutdownCalled }
    let service := threadDumpToDatabase κ τ
    let monitoring := threadChildProcessMonitoring τ
    ((AlwaysState task.step task.Awakens taskStart taskRun ↔
        AlwaysStep task.step task.NotifiesInTime taskStart taskRun) ∧
      (AlwaysStep task.step task.NotifiesInTime taskStart taskRun →
        AlwaysState task.step (fun s => ¬ task.LostWakeup s) taskStart taskRun)) ∧
    ((AlwaysState service.step service.Awakens { data := {} } serviceRun ↔
        AlwaysStep service.step InTime { data := {} } serviceRun) ∧
      (AlwaysStep service.step InTime { data := {} } serviceRun →
        AlwaysState service.step (fun s => ¬ service.LostWakeup s) { data := {} } serviceRun)) ∧
    (AlwaysState monitoring.step monitoring.Awakens { data := Monitoring.init } monitoringRun ↔
        AlwaysStep monitoring.step monitoring.NotifiesInTime { data := Monitoring.init }
          monitoringRun) ∧
      (AlwaysStep monitoring.step monitoring.NotifiesInTime { data := Monitoring.init }
          monitoringRun →
        AlwaysState monitoring.step (fun s => ¬ monitoring.LostWakeup s)
          { data := Monitoring.init } monitoringRun) := by
  intro task taskStart service monitoring
  have htask := WaitProgram.awakens_iff_of_quiet (τ := τ) (RunnableTask.quiet (κ := κ)) taskRun
    (RunnableTask.init clientIdGenerator shutdownCalled)
  have hservice := awakens_iff_inTime serviceRun {}
  have hmonitoring := WaitProgram.awakens_iff_of_quiet Monitoring.quiet monitoringRun
    (Monitoring.init : Monitoring τ)
  refine ⟨⟨htask, fun h => ?_⟩, ⟨hservice, fun h => ?_⟩, hmonitoring, fun h => ?_⟩
  · exact (htask.mpr h).mono fun _ hs => hs.not_lostWakeup
  · exact (hservice.mpr h).mono fun _ hs => hs.not_lostWakeup
  · exact (hmonitoring.mpr h).mono fun _ hs => hs.not_lostWakeup

/-- A client and a launch task that are added between the look at the data and the block, and the
shutdown of a service whose thread is blocked. -/
theorem lost_wakeups_lost :
    (∃ s, runAll (RunnableTask.threadTaskProcessing Unit Unit).step
        { data := RunnableTask.init 0 false }
        [.work (), .work (), .call () (.addRunnableClient (some ())), .notify (), .work (),
          .work ()] = some s ∧
      (RunnableTask.threadTaskProcessing Unit Unit).LostWakeup s) ∧
    (∃ s, runAll (threadDumpToDatabase Unit Unit).step { data := {} }
        [.work (), .work (), .work (), .work (), .call () .shutdown] = some s ∧
      (threadDumpToDatabase Unit Unit).LostWakeup s) ∧
    (∃ s, runAll (threadChildProcessMonitoring Unit).step { data := Monitoring.init }
        [.work {}, .work {}, .call () (.addLaunchTask { program := "a", args := [] }), .notify (),
          .work {}, .work {}] = some s ∧
      (threadChildProcessMonitoring Unit).LostWakeup s) :=
  ⟨⟨_, rfl, rfl, rfl, fun _ => rfl⟩, ⟨_, rfl, rfl, rfl, fun _ => rfl⟩,
    ⟨_, rfl, rfl, rfl, fun _ => rfl⟩⟩

end Main

end MicroserviceCommon
