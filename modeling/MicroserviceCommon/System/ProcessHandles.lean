import Mathlib.Data.List.Infix
import Mathlib.Logic.Function.Basic
import MicroserviceCommon.Common.Utils
import MicroserviceCommon.System.ProcessLauncher
import MicroserviceCommon.System.SystemEnvironmentFacade

/-!
# Process handles

`launch`, the monitoring pass, `kill`, `close` and `shutdown` of `ProcessLauncher` on `m_handles`.
Several threads launch at the same time. Each section under `m_muHandlesLock` is one step, and so
are `fork` and `setRole`.

The child goes on with its own program. What is followed here is the process that launches.

A pointer is an index into `objects`. `none` is a step that is not enabled, or the use of a deleted
handle.
-/

namespace MicroserviceCommon

structure ProcessHandle where
  settings : ProcessLauncher.LaunchCall
  childPid : TPid := 0
  died : Bool := false
  deriving DecidableEq, Repr

namespace ProcessHandle

/-- `::kill( m_childPid, 0 )`. The pid 0 is the own process group, which is always there. `gone` are
the pids that no process has. The line that sets `m_died` stands behind a `return`. -/
def isRunning (gone : List TPid) (h : ProcessHandle) : Bool :=
  h.childPid == 0 || !gone.contains h.childPid

/-- The first argument that has the key in it. -/
def findArgValue (h : ProcessHandle) (argKey : String) : Option String :=
  match h.settings.args.find? fun argStr => argKey.toList <:+: argStr.toList with
  | none => some ""
  | some argStr => (cutBySimbol '=' argStr).map (·.2)

end ProcessHandle

namespace ProcessLauncher

/-- A handle with its history: the process that was forked through it, whether `launch` returned it
and whether it was deleted. -/
structure HandleObject extends ProcessHandle where
  forkedPid : Option TPid := none
  returned : Bool := false
  deleted : Bool := false
  deriving DecidableEq, Repr

/-- Where a thread is in `launch`. -/
inductive LaunchPhase where
  | idle
  /-- the duplicate check is done -/
  | checked (call : LaunchCall)
  /-- the handle is in `m_handles` -/
  | pushed (handle : Nat)
  /-- `fork` returned the pid -/
  | forked (handle : Nat) (forkRt : TPid)
  deriving DecidableEq, Repr

/-- The handle that is in `m_handles` and has no pid yet. -/
def LaunchPhase.handle? : LaunchPhase → Option Nat
  | pushed i | forked i _ => some i
  | idle | checked _ => none

/-- A signal that was sent through a handle. -/
structure HandleSignal extends SentSignal where
  handle : Nat
  deriving DecidableEq, Repr

/-- The threads `τ` launch. `next` is the index of the next `new ProcessHandle`. -/
structure HandleSystem (τ : Type*) where
  objects : Nat → HandleObject
  next : Nat := 0
  handles : List Nat := []
  phase : τ → LaunchPhase
  shutdown : Bool := false
  signals : List HandleSignal := []

inductive HandleAction (τ : Type*) where
  | checkDuplicate (t : τ) (call : LaunchCall)
  | pushHandle (t : τ)
  | fork (t : τ) (forkRt : TPid)
  | setRole (t : τ)
  | kill (handle : Nat) (signal : Int32)
  | close (handle : Nat) (signal : Int32)
  | monitor (gone : List TPid)
  | shutdown
  deriving Repr

namespace HandleSystem

variable {τ : Type*}

/-! ## `launch` -/

/-- A handle with the program and the arguments is in `m_handles`. -/
def isDuplicate (s : HandleSystem τ) (call : LaunchCall) : Bool :=
  s.handles.any fun i => (s.objects i).settings.program == call.program &&
    (s.objects i).settings.args == call.args

section Launch

variable [DecidableEq τ]

def setPhase (s : HandleSystem τ) (t : τ) (phase : LaunchPhase) : HandleSystem τ :=
  { s with phase := Function.update s.phase t phase }

def setObject (s : HandleSystem τ) (i : Nat) (object : HandleObject) : HandleSystem τ :=
  { s with objects := Function.update s.objects i object }

/-- A duplicate returns `nullptr`. -/
def checkDuplicate (s : HandleSystem τ) (t : τ) (call : LaunchCall) : HandleSystem τ :=
  if call.checkForDuplicate && s.isDuplicate call then s else s.setPhase t (.checked call)

/-- The handle is in `m_handles` before there is a process. -/
def pushHandle (s : HandleSystem τ) (t : τ) (call : LaunchCall) : HandleSystem τ :=
  ({ s with next := s.next + 1, handles := s.handles ++ [s.next] }.setObject s.next
    { settings := call }).setPhase t (.pushed s.next)

/-- A failed `fork` returns `nullptr` and leaves the handle where it is. -/
def fork (s : HandleSystem τ) (t : τ) (i : Nat) (forkRt : TPid) : HandleSystem τ :=
  if forkRt < 0 then s.setPhase t .idle
  else (s.setObject i { s.objects i with forkedPid := some forkRt }).setPhase t (.forked i forkRt)

/-- `setRole( PARENT, forkRt )`, and `launch` returns the handle. -/
def setRole (s : HandleSystem τ) (t : τ) (i : Nat) (forkRt : TPid) : HandleSystem τ :=
  (s.setObject i { s.objects i with childPid := forkRt, returned := true }).setPhase t .idle

end Launch

/-! ## Signals -/

def pidOf (s : HandleSystem τ) (i : Nat) : TPid := (s.objects i).childPid

/-- The loops of `kill` and `close`: the first handle with the same pid gets the signal and leaves
`m_handles`. It is not deleted. -/
def signalChild (s : HandleSystem τ) (handle : Nat) (signal : Int32) : HandleSystem τ :=
  match s.handles.find? fun i => s.pidOf i == s.pidOf handle with
  | none => s
  | some i =>
    { s with
      handles := s.handles.eraseP fun i => s.pidOf i == s.pidOf handle
      signals := s.signals ++ [{ pid := s.pidOf i, signal := signal, handle := i }] }

/-- `process->kill( _signal )` -/
def kill (s : HandleSystem τ) (handle : Nat) (signal : Int32) : HandleSystem τ :=
  s.signalChild handle signal

/-- `process->requestForClose( _signal )` -/
def close (s : HandleSystem τ) (handle : Nat) (signal : Int32) : HandleSystem τ :=
  s.signalChild handle signal

/-- One pass of the inner loop. A handle leaves with every other one of its pid. -/
def monitor (s : HandleSystem τ) (gone : List TPid) : HandleSystem τ :=
  let diedProcesses := s.handles.filter fun i => !(s.objects i).isRunning gone
  { s with handles := s.handles.filter fun i => !diedProcesses.any fun d => s.pidOf d == s.pidOf i }

/-- `~ProcessHandle` of every handle. -/
def runShutdown (s : HandleSystem τ) : HandleSystem τ :=
  if s.shutdown then s
  else
    { s with
      signals := s.signals ++ (s.handles.filter fun i => !(s.objects i).died).map fun i =>
        { pid := s.pidOf i, signal := sigkill, handle := i }
      objects := fun i =>
        if i ∈ s.handles then { s.objects i with deleted := true } else s.objects i
      handles := []
      shutdown := true }

/-- `kill` and `close` are called with a handle that `launch` returned. -/
def step [DecidableEq τ] (s : HandleSystem τ) : HandleAction τ → Option (HandleSystem τ)
  | .checkDuplicate t call => if s.phase t = .idle then some (s.checkDuplicate t call) else none
  | .pushHandle t =>
    match s.phase t with
    | .checked call => some (s.pushHandle t call)
    | _ => none
  | .fork t forkRt =>
    match s.phase t with
    | .pushed i => if forkRt = 0 then none else some (s.fork t i forkRt)
    | _ => none
  | .setRole t =>
    match s.phase t with
    | .forked i forkRt => if (s.objects i).deleted then none else some (s.setRole t i forkRt)
    | _ => none
  | .kill handle signal =>
    if (s.objects handle).returned && !(s.objects handle).deleted then some (s.kill handle signal)
    else none
  | .close handle signal =>
    if (s.objects handle).returned && !(s.objects handle).deleted then some (s.close handle signal)
    else none
  | .monitor gone => some (s.monitor gone)
  | .shutdown => some s.runShutdown

/-- What a step does when it is taken. -/
def StepsTo [DecidableEq τ] (s s' : HandleSystem τ) : HandleAction τ → Prop
  | .checkDuplicate t call => s.phase t = .idle ∧ s' = s.checkDuplicate t call
  | .pushHandle t => ∃ call, s.phase t = .checked call ∧ s' = s.pushHandle t call
  | .fork t forkRt => ∃ i, s.phase t = .pushed i ∧ forkRt ≠ 0 ∧ s' = s.fork t i forkRt
  | .setRole t => ∃ i forkRt, s.phase t = .forked i forkRt ∧ s' = s.setRole t i forkRt
  | .kill handle signal | .close handle signal =>
    (s.objects handle).returned = true ∧ s' = s.signalChild handle signal
  | .monitor gone => s' = s.monitor gone
  | .shutdown => s' = s.runShutdown

theorem stepsTo_of_step [DecidableEq τ] {s s' : HandleSystem τ} {a : HandleAction τ}
    (hs : s.step a = some s') : s.StepsTo s' a := by
  cases a with
  | checkDuplicate t call =>
    obtain ⟨ht, hs⟩ := Option.ite_none_right_eq_some.mp hs
    exact ⟨ht, (Option.some.inj hs).symm⟩
  | pushHandle t =>
    rw [step] at hs
    split at hs
    · next call ht => exact ⟨call, ht, (Option.some.inj hs).symm⟩
    · cases hs
  | fork t forkRt =>
    rw [step] at hs
    split at hs
    · next i ht =>
      obtain ⟨hne, hs⟩ := Option.ite_none_left_eq_some.mp hs
      exact ⟨i, ht, hne, (Option.some.inj hs).symm⟩
    · cases hs
  | setRole t =>
    rw [step] at hs
    split at hs
    · next i forkRt ht =>
      obtain ⟨_, hs⟩ := Option.ite_none_left_eq_some.mp hs
      exact ⟨i, forkRt, ht, (Option.some.inj hs).symm⟩
    · cases hs
  | kill handle signal | close handle signal =>
    obtain ⟨hvalid, hs⟩ := Option.ite_none_right_eq_some.mp hs
    exact ⟨(Bool.and_eq_true_iff.mp hvalid).1, (Option.some.inj hs).symm⟩
  | monitor gone => exact (Option.some.inj hs).symm
  | shutdown => exact (Option.some.inj hs).symm

/-- Nothing was launched. -/
def start : HandleSystem τ where
  objects := fun _ => { settings := { program := "", args := [] } }
  phase := fun _ => .idle

end HandleSystem

end ProcessLauncher

end MicroserviceCommon
