import Mathlib.Logic.Function.Basic
import MicroserviceCommon.Common.Types

/-!
# The lock file of a program

`isApplicationInstanceUnique` and `writePidFile` of `SystemEnvironmentFacade`, for any number of
processes that start on one path. The file is the lock, and later it holds the pid of the process
that has the lock.

A step is one system call of one process. The descriptor stays open until the process ends, and the
lock with it.
-/

namespace MicroserviceCommon.SystemEnvironmentFacade

/-- How far a process is in `init`. -/
inductive InstancePhase where
  /-- not started, or ended -/
  | absent
  /-- the lock file is open, `flock` comes next -/
  | opened
  /-- `isApplicationInstanceUnique` returned false -/
  | rejected
  /-- `isApplicationInstanceUnique` returned true -/
  | unique
  /-- inside `writePidFile`, the stream is open -/
  | pidFileOpen
  /-- the stream was closed with the pid in it -/
  | pidWritten
  /-- the stream could not be opened, and the program goes on -/
  | noPidFile
  deriving DecidableEq, Repr

/-- `isApplicationInstanceUnique` returned true, and the process runs. -/
def InstancePhase.passed : InstancePhase → Bool
  | unique | pidFileOpen | pidWritten | noPidFile => true
  | absent | opened | rejected => false

/-- The lock file and the processes. `holder` owns the `flock`. -/
structure LockFile (π : Type*) where
  content : String
  holder : Option π
  phase : π → InstancePhase

/-- `std::to_string` -/
def pidText (pid : TPid) : String := toString pid.toInt

/-- What a file holds after `text` is written at its start. -/
def overwrite (text content : String) : String :=
  String.ofList (text.toList ++ content.toList.drop text.length)

/-- `failed` in `flock`: another error than `EWOULDBLOCK`. `text` in `flushPidFile`: what the
pointer `pidStr` shows, whose string is gone by then. -/
inductive LockFileAction (π : Type*) where
  | openLockFile (p : π)
  | flock (p : π) (failed : Bool)
  | openPidFile (p : π) (isOpen : Bool)
  | flushPidFile (p : π) (text : String)
  | terminate (p : π)
  deriving Repr

namespace LockFile

variable {π : Type*} [DecidableEq π]

def setPhase (s : LockFile π) (p : π) (phase : InstancePhase) : LockFile π :=
  { s with phase := Function.update s.phase p phase }

/-- `open( path, O_CREAT | O_RDWR | O_TRUNC )` -/
def openLockFile (s : LockFile π) (p : π) : LockFile π :=
  { s with content := "" }.setPhase p .opened

/-- `flock( pidFile, LOCK_EX | LOCK_NB )` and the checks behind it. -/
def flock (s : LockFile π) (p : π) (failed : Bool) : LockFile π :=
  if failed then s.setPhase p .unique
  else
    match s.holder with
    | none => { s with holder := some p }.setPhase p .unique
    | some _ => s.setPhase p .rejected

/-- `ofstream pidFile( path, ios::out | ios::trunc )` -/
def openPidFile (s : LockFile π) (p : π) (isOpen : Bool) : LockFile π :=
  if isOpen then { s with content := "" }.setPhase p .pidFileOpen else s.setPhase p .noPidFile

/-- The destructor of the stream. -/
def flushPidFile (s : LockFile π) (p : π) (text : String) : LockFile π :=
  { s with content := overwrite text s.content }.setPhase p .pidWritten

/-- The lock ends with its process. -/
def terminate (s : LockFile π) (p : π) : LockFile π :=
  { s with holder := if s.holder = some p then none else s.holder }.setPhase p .absent

/-- `none`: the process is not at this call. -/
def step (s : LockFile π) : LockFileAction π → Option (LockFile π)
  | .openLockFile p => if s.phase p = .absent then some (s.openLockFile p) else none
  | .flock p failed => if s.phase p = .opened then some (s.flock p failed) else none
  | .openPidFile p isOpen => if s.phase p = .unique then some (s.openPidFile p isOpen) else none
  | .flushPidFile p text => if s.phase p = .pidFileOpen then some (s.flushPidFile p text) else none
  | .terminate p => if s.phase p = .absent then none else some (s.terminate p)

/-- No process runs. The file has whatever an earlier one left. -/
def start (content : String) : LockFile π where
  content := content
  holder := none
  phase := fun _ => .absent

end LockFile

end MicroserviceCommon.SystemEnvironmentFacade
