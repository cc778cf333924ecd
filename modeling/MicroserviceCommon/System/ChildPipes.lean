import MicroserviceCommon.System.ProcessHandles

/-!
# The pipes of the children

A child that is launched with `readOutput` writes into a pipe.

* `ChildOutput` — one such child, and the monitoring thread that logs what is in its pipe. Its pid
  is not given to another process, and nothing interrupts the `wait` for it.
* `PipeSystem` — the launcher with the descriptors of its process. `pipe` gets two free numbers.

`written`, `logged` and `pipes` are the history.
-/

namespace MicroserviceCommon.ProcessLauncher

/-! ## What a child writes -/

/-- `BYTES_COUNT_READ_FROM_PIPE` -/
def bytesCountReadFromPipe : Nat := 10240

/-- `inPass` is the part of a pass between the look at the pipe and the look at the process. -/
structure ChildOutput where
  pipe : List UInt8 := []
  isRunning : Bool := true
  inPass : Bool := false
  registered : Bool := true
  written : List UInt8 := []
  logged : List UInt8 := []
  deriving DecidableEq, Repr

inductive ChildOutputAction where
  /-- the child, or a process it has started, writes -/
  | write (bytes : List UInt8)
  /-- the pid of the child has no process any more -/
  | exit
  /-- `isMessageFromChildStdoutExist`. A signal ends `select` with nothing ready. -/
  | readOutput (ready : Bool)
  | checkRunning
  /-- `kill` and `close` -/
  | forget
  deriving DecidableEq, Repr

namespace ChildOutput

/-- One `read` a pass. What it finds is the message that is logged. -/
def isMessageFromChildStdoutExist (s : ChildOutput) (ready : Bool) : ChildOutput :=
  { s with
    inPass := true
    pipe := if ready then s.pipe.drop bytesCountReadFromPipe else s.pipe
    logged := if ready then s.logged ++ s.pipe.take bytesCountReadFromPipe else s.logged }

/-- A pass holds the mutex that `kill` and `close` lock. -/
def step (s : ChildOutput) : ChildOutputAction → Option ChildOutput
  | .write bytes => some { s with pipe := s.pipe ++ bytes, written := s.written ++ bytes }
  | .exit => some { s with isRunning := false }
  | .readOutput ready =>
    if s.registered && !s.inPass then some (s.isMessageFromChildStdoutExist ready) else none
  | .checkRunning =>
    if s.inPass then some { s with inPass := false, registered := s.isRunning } else none
  | .forget => if s.registered && !s.inPass then some { s with registered := false } else none

end ChildOutput

/-! ## The descriptors -/

inductive FileOwner where
  | readEnd (handle : Nat)
  | writeEnd (handle : Nat)
  | other
  deriving DecidableEq, Repr

/-- `m_pipeFileDs` of a handle. -/
structure HandlePipe where
  handle : Nat
  readEnd : Nat
  writeEnd : Nat
  deriving DecidableEq, Repr

structure PipeSystem (τ : Type*) where
  launcher : HandleSystem τ
  files : Nat → Option FileOwner
  pipes : List HandlePipe := []

/-- The numbers are those that `pipe` returns, where it is called. -/
inductive PipeAction (τ : Type*) where
  | launcher (a : HandleAction τ) (readEnd writeEnd : Nat)
  /-- another part of the program -/
  | openFile (number : Nat)
  | closeFile (number : Nat)
  deriving Repr

namespace PipeSystem

variable {τ : Type*}

def closeFile (files : Nat → Option FileOwner) (number : Nat) : Nat → Option FileOwner :=
  Function.update files number none

/-- The constructor of a handle with `readOuput`. No number from `limit` on is given out, and a
`pipe` that fails ends in an `assert`. -/
def openPipe (s : PipeSystem τ) (limit readEnd writeEnd : Nat) (launcher : HandleSystem τ) :
    Option (PipeSystem τ) :=
  if readEnd < limit ∧ writeEnd < limit ∧ readEnd ≠ writeEnd ∧ s.files readEnd = none ∧
      s.files writeEnd = none then
    some {
      launcher := launcher
      files := Function.update (Function.update s.files readEnd
        (some (.readEnd s.launcher.next))) writeEnd (some (.writeEnd s.launcher.next))
      pipes := s.pipes ++ [{
        handle := s.launcher.next, readEnd := readEnd, writeEnd := writeEnd }] }
  else none

def pipeOf (s : PipeSystem τ) (handle : Nat) : Option HandlePipe :=
  s.pipes.find? fun p => p.handle == handle

/-- `setRole( PARENT )` closes the end that the child writes to. -/
def closeWriteEnd (s : PipeSystem τ) (handle : Nat) : Nat → Option FileOwner :=
  match s.pipeOf handle with
  | some p => closeFile s.files p.writeEnd
  | none => s.files

/-- `~ProcessHandle` closes both ends. -/
def closePipe (s : PipeSystem τ) (files : Nat → Option FileOwner) (handle : Nat) :
    Nat → Option FileOwner :=
  match s.pipeOf handle with
  | some p => closeFile (closeFile files p.readEnd) p.writeEnd
  | none => files

/-- What a step of the launcher does with the descriptors. -/
def follow (s : PipeSystem τ) (limit : Nat) (a : HandleAction τ) (readEnd writeEnd : Nat)
    (launcher : HandleSystem τ) : Option (PipeSystem τ) :=
  match a with
  | .pushHandle t =>
    match s.launcher.phase t with
    | .checked call =>
      if call.readOutput then s.openPipe limit readEnd writeEnd launcher
      else some { s with launcher := launcher }
    | _ => none
  | .setRole t =>
    match s.launcher.phase t with
    | .forked i _ => some { s with launcher := launcher, files := s.closeWriteEnd i }
    | _ => none
  | .shutdown =>
    some { s with
      launcher := launcher
      files := if s.launcher.shutdown then s.files
        else s.launcher.handles.foldl s.closePipe s.files }
  | .checkDuplicate _ _ | .fork _ _ | .kill _ _ | .close _ _ | .monitor _ =>
    some { s with launcher := launcher }

def step [DecidableEq τ] (limit : Nat) (s : PipeSystem τ) : PipeAction τ → Option (PipeSystem τ)
  | .launcher a readEnd writeEnd =>
    (s.launcher.step a).bind (s.follow limit a readEnd writeEnd)
  | .openFile number =>
    if number < limit ∧ s.files number = none then
      some { s with files := Function.update s.files number (some .other) }
    else none
  | .closeFile number =>
    if s.files number = some .other then some { s with files := closeFile s.files number } else none

/-- Nothing was launched, and some files are open. -/
def start (occupied : Nat → Bool) : PipeSystem τ where
  launcher := HandleSystem.start
  files number := if occupied number then some .other else none

end PipeSystem

end MicroserviceCommon.ProcessLauncher
