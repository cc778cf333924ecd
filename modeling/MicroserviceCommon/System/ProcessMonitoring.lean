import MicroserviceCommon.Infra.ConditionVariable
import MicroserviceCommon.System.ProcessHandles

/-!
# The child process monitoring thread

The thread waits until there is a handle or a launch task, or the launcher is shut down. Other
threads add launch tasks, launch, signal and shut down.

A launch of another thread is the sequence of its sections. The launch that the thread itself does
in `runSystemClock` is one section with it.
-/

namespace MicroserviceCommon.ProcessLauncher

open Infra

/-- The thread itself launches as `none`. `shuttingDown` are the threads between the section and the
flag of `shutdown`. -/
structure Monitoring (τ : Type*) where
  tasks : LaunchQueue := {}
  launcher : HandleSystem (Option τ)
  shuttingDown : τ → Bool := fun _ => false

/-- The sections of the loop behind the wait. -/
inductive MonitoringSection where
  | childsExist
  | runSystemClock
  | readChilds
  deriving DecidableEq, Repr

/-- What the system answers: the `fork` of the clock, and the pids without a process. -/
structure MonitoringInput where
  forkRt : TPid := 1
  gone : List TPid := []
  deriving DecidableEq, Repr, Inhabited

inductive MonitoringCall where
  | addLaunchTask (call : LaunchCall)
  | checkDuplicate (call : LaunchCall)
  | pushHandle
  | fork (forkRt : TPid)
  | setRole
  | kill (handle : Nat) (signal : Int32)
  | close (handle : Nat) (signal : Int32)
  /-- the section of `shutdown` -/
  | clearHandles
  /-- `m_shutdown = true` -/
  | setShutdown
  deriving DecidableEq, Repr

/-- A launch that nothing comes between. `none`: this is the child. -/
def HandleSystem.launch {τ : Type*} [DecidableEq τ] (s : HandleSystem τ) (t : τ) (call : LaunchCall)
    (forkRt : TPid) : Option (HandleSystem τ × Option TPid) :=
  if call.checkForDuplicate && s.isDuplicate call then some (s, none)
  else if forkRt = 0 then none
  else
    let forked := (s.pushHandle t call).fork t s.next forkRt
    if forkRt < 0 then some (forked, none)
    else some (forked.setRole t s.next forkRt, some forkRt)

namespace Monitoring

variable {τ : Type*}

def childsExist (s : Monitoring τ) : Bool :=
  !s.launcher.handles.isEmpty || !s.tasks.launchTasks.isEmpty

variable [DecidableEq τ]

/-- Nothing was launched. -/
def init : Monitoring τ where
  launcher := HandleSystem.start

/-- `runSystemClock` with the launch of the task at the back. -/
def runSystemClock (s : Monitoring τ) (forkRt : TPid) : Option (Monitoring τ) :=
  match s.tasks.launchTasks.getLast?.bind fun task => s.tasks.tasks[task]? with
  | none => some s
  | some task => (s.launcher.launch none task.toLaunchCall forkRt).map fun r =>
      { s with launcher := r.1, tasks := s.tasks.runSystemClock r.2 }

/-- The thread is in no other call. -/
def idle (s : Monitoring τ) (t : τ) : Bool :=
  s.launcher.phase (some t) == .idle && !s.shuttingDown t

/-- A section that works on the handles alone. -/
def launcherStep (s : Monitoring τ) (a : HandleAction (Option τ)) : Option (Monitoring τ) :=
  (s.launcher.step a).map fun launcher => { s with launcher := launcher }

/-- A section of another thread. -/
def call (s : Monitoring τ) (t : τ) : MonitoringCall → Option (Monitoring τ)
  | .addLaunchTask call =>
    if s.idle t then some { s with tasks := s.tasks.addLaunchTask call } else none
  | .checkDuplicate call =>
    if s.idle t then s.launcherStep (.checkDuplicate (some t) call) else none
  | .pushHandle => s.launcherStep (.pushHandle (some t))
  | .fork forkRt => s.launcherStep (.fork (some t) forkRt)
  | .setRole => s.launcherStep (.setRole (some t))
  | .kill handle signal => if s.idle t then s.launcherStep (.kill handle signal) else none
  | .close handle signal => if s.idle t then s.launcherStep (.close handle signal) else none
  | .clearHandles =>
    if s.idle t && !s.launcher.shutdown then
      some { s with
        launcher := { s.launcher.runShutdown with shutdown := s.launcher.shutdown }
        shuttingDown := Function.update s.shuttingDown t true }
    else none
  | .setShutdown =>
    if s.shuttingDown t then
      some { s with
        launcher := { s.launcher with shutdown := true }
        shuttingDown := Function.update s.shuttingDown t false }
    else none

/-- After the clock only the handles keep the inner loop going. -/
def runSection (input : MonitoringInput) (s : Monitoring τ) :
    MonitoringSection → Option (Monitoring τ × Option MonitoringSection)
  | .childsExist => some (s, if s.childsExist then some .runSystemClock else none)
  | .runSystemClock => (s.runSystemClock input.forkRt).map fun s' => (s', some .readChilds)
  | .readChilds =>
    let launcher := s.launcher.monitor input.gone
    some ({ s with launcher := launcher },
      if launcher.handles.isEmpty then none else some .runSystemClock)

end Monitoring

/-- A pushed task, a pushed handle and the flag are followed by a notification. -/
def threadChildProcessMonitoring (τ : Type*) [DecidableEq τ] :
    WaitProgram (Monitoring τ) MonitoringSection MonitoringInput τ MonitoringCall where
  found s := s.childsExist
  flag s := s.launcher.shutdown
  entry := .childsExist
  body input b s := s.runSection input b
  call t c s := s.call t c
  notifies c := match c with
    | .addLaunchTask _ | .pushHandle | .setShutdown => true
    | .checkDuplicate _ | .fork _ | .setRole | .kill _ _ | .close _ _ | .clearHandles => false

end MicroserviceCommon.ProcessLauncher
