import Mathlib.Logic.Function.Basic
import MicroserviceCommon.Common.Types
import MicroserviceCommon.Infra.UnorderedMap

/-!
# `ProcessLauncher`

The locks between processes and the tasks that wait to be launched.

A lock is a named semaphore of the kernel. Every process has a launcher, whose map
`m_processLocks` keeps the semaphores that it has ever got.

Any thread adds launch tasks. The monitoring thread calls `runSystemClock`, which launches one
of them. Both work on the queue under `m_muLaunchTaskLock`, so each is one step. The number of a
task is taken before the lock, and the step stands for both: no two threads are between them at the
same time.
-/

namespace MicroserviceCommon

open Infra

namespace ProcessLauncher

/-! ## Locks -/

variable {π : Type*} [DecidableEq π]

/-- What belongs to one lock name. -/
structure Lock (π : Type*) where
  /-- the value of the semaphore, once it was created -/
  semaphore : Option Nat := none
  /-- whether the name is in `m_processLocks` of the process -/
  processLocks : π → Bool := fun _ => false
  /-- whether `getLock` returned true in the process and `releaseLock` was not called since -/
  acquired : π → Bool := fun _ => false

/-- `waiting` is the lock of the `sem_wait` in which a process is. -/
structure LockSystem (π : Type*) where
  lock : String → Lock π := fun _ => {}
  waiting : π → Option String := fun _ => none

/-- `SEM_VALUE_MAX` -/
def semValueMax : Nat := 2147483647

/-- `sem_open`. A new semaphore gets the value 1, an existing one keeps its value. -/
def semOpen (createLock opened : Bool) (semaphore : Option Nat) : Option Nat :=
  if opened then
    if createLock then some (semaphore.getD 1) else semaphore
  else none

/-- `sem_post`. The error of a full semaphore is only logged. -/
def semPost (value : Nat) : Nat := if value = semValueMax then value else value + 1

/-- A call, or the end of a `sem_wait`. `opened`: nothing else keeps `sem_open` from its work.
`interrupted`: the wait ends by a signal, with an error that is only logged. -/
inductive LockAction (π : Type*) where
  | getLock (p : π) (lockName : String) (createLock opened : Bool)
  | semWait (p : π) (interrupted : Bool)
  | releaseLock (p : π) (lockName : String)
  deriving DecidableEq, Repr

namespace Lock

/-- The rest of `getLock` after `sem_wait`. -/
def enter (l : Lock π) (p : π) : Lock π :=
  { l with
    processLocks := Function.update l.processLocks p true
    acquired := Function.update l.acquired p true }

/-- `releaseLock` of a process that has the name in its map. The name stays there. -/
def release (l : Lock π) (p : π) : Lock π :=
  { l with
    semaphore := l.semaphore.map semPost
    acquired := Function.update l.acquired p false }

@[simp] theorem processLocks_enter (l : Lock π) (p : π) :
    (l.enter p).processLocks = Function.update l.processLocks p true := rfl

@[simp] theorem acquired_enter (l : Lock π) (p : π) :
    (l.enter p).acquired = Function.update l.acquired p true := rfl

@[simp] theorem acquired_release (l : Lock π) (p : π) :
    (l.release p).acquired = Function.update l.acquired p false := rfl

@[simp] theorem semaphore_release (l : Lock π) (p : π) :
    (l.release p).semaphore = l.semaphore.map semPost := rfl

end Lock

namespace LockSystem

/-- No process has started. A semaphore that is there has the value 1. -/
def start (created : Bool) : LockSystem π where
  lock _ := { semaphore := if created then some 1 else none }

def setLock (s : LockSystem π) (lockName : String) (l : Lock π) : LockSystem π :=
  { s with lock := Function.update s.lock lockName l }

/-- A name in the map is taken for a lock that is held. Else the semaphore is opened
and the process goes to wait for it. -/
def getLock (s : LockSystem π) (p : π) (lockName : String) (createLock opened : Bool) :
    LockSystem π :=
  let l := s.lock lockName
  if l.processLocks p then
    s.setLock lockName { l with acquired := Function.update l.acquired p true }
  else
    match semOpen createLock opened l.semaphore with
    | none => s
    | some value =>
      { s.setLock lockName { l with semaphore := some value } with
        waiting := Function.update s.waiting p (some lockName) }

/-- `none`: the process does not wait, or goes on waiting. -/
def semWait (s : LockSystem π) (p : π) (interrupted : Bool) : Option (LockSystem π) :=
  match s.waiting p with
  | none => none
  | some lockName =>
    let l := s.lock lockName
    let s := { s with waiting := Function.update s.waiting p none }
    if interrupted then some (s.setLock lockName (l.enter p))
    else
      match l.semaphore with
      | some (value + 1) => some (s.setLock lockName ({ l with semaphore := some value }.enter p))
      | _ => none

def releaseLock (s : LockSystem π) (p : π) (lockName : String) : LockSystem π :=
  let l := s.lock lockName
  if l.processLocks p then s.setLock lockName (l.release p) else s

/-- A process that waits makes no other call. -/
def step (s : LockSystem π) : LockAction π → Option (LockSystem π)
  | .getLock p lockName createLock opened =>
    if (s.waiting p).isSome then none else some (s.getLock p lockName createLock opened)
  | .semWait p interrupted => s.semWait p interrupted
  | .releaseLock p lockName =>
    if (s.waiting p).isSome then none else some (s.releaseLock p lockName)

end LockSystem

/-! ## Launch tasks -/

abbrev TLaunchTaskId := Int32

/-- The arguments of `launch`. -/
structure LaunchCall where
  program : String
  args : List String
  readOutput : Bool := true
  checkForDuplicate : Bool := true
  deriving DecidableEq, Repr

/-- `handle` is the process that `launch` gave, when there is one. -/
structure SLaunchTask extends LaunchCall where
  taskId : TLaunchTaskId
  launched : Bool := false
  handle : Option TPid := none
  deriving DecidableEq, Repr

/-- `tasks` holds the objects of every `new SLaunchTask()`, and a pointer is an index in it.
`launches` has the calls of `launch` so far. The front of `m_launchTasks` is its head. -/
structure LaunchQueue where
  tasks : List SLaunchTask := []
  processesLaunchedFromChildThreadTasks : UnorderedMap TLaunchTaskId Nat := UnorderedMap.empty
  launchTasks : List Nat := []
  launchTaskIdGenerator : TLaunchTaskId := 0
  launches : List LaunchCall := []

inductive LaunchAction where
  | addLaunchTask (call : LaunchCall)
  | runSystemClock (handle : Option TPid)
  deriving DecidableEq, Repr

namespace LaunchQueue

def addLaunchTask (s : LaunchQueue) (call : LaunchCall) : LaunchQueue :=
  let taskId := s.launchTaskIdGenerator + 1
  let task := s.tasks.length
  { s with
    tasks := s.tasks ++ [{ toLaunchCall := call, taskId := taskId }]
    launchTaskIdGenerator := taskId
    processesLaunchedFromChildThreadTasks :=
      s.processesLaunchedFromChildThreadTasks.insert taskId task
    launchTasks := s.launchTasks ++ [task] }

/-- The task is the one at the back, and the one at the front is popped. -/
def runSystemClock (s : LaunchQueue) (handle : Option TPid) : LaunchQueue :=
  match s.launchTasks.getLast? with
  | none => s
  | some task =>
    { s with
      launchTasks := s.launchTasks.tail
      launches := s.launches ++ (s.tasks[task]?.map SLaunchTask.toLaunchCall).toList
      tasks := s.tasks.modify task fun t => { t with handle := handle, launched := true } }

def step (s : LaunchQueue) : LaunchAction → Option LaunchQueue
  | .addLaunchTask call => some (s.addLaunchTask call)
  | .runSystemClock handle => some (s.runSystemClock handle)

end LaunchQueue

/-! ## Removed launch tasks -/

/-- The queue with its history. `deleted` are the tasks that `removeLaunchTask` deleted,
`launchedTasks` those that a tick launched. `removedUnlaunched` were deleted before. -/
structure LaunchTaskStore extends LaunchQueue where
  deleted : List Nat := []
  launchedTasks : List Nat := []
  removedUnlaunched : List Nat := []

inductive LaunchTaskAction where
  | addLaunchTask (call : LaunchCall)
  | removeLaunchTask (taskId : TLaunchTaskId)
  | runSystemClock (handle : Option TPid)
  deriving DecidableEq, Repr

namespace LaunchTaskStore

def addLaunchTask (s : LaunchTaskStore) (call : LaunchCall) : LaunchTaskStore :=
  { s with toLaunchQueue := s.toLaunchQueue.addLaunchTask call }

/-- The object is deleted and leaves the map. `m_launchTasks` keeps the pointer. -/
def removeLaunchTask (s : LaunchTaskStore) (taskId : TLaunchTaskId) : LaunchTaskStore × Bool :=
  match s.processesLaunchedFromChildThreadTasks taskId with
  | none => (s, false)
  | some task =>
    ({ s with
      processesLaunchedFromChildThreadTasks := s.processesLaunchedFromChildThreadTasks.erase taskId
      deleted := s.deleted ++ [task]
      removedUnlaunched :=
        if task ∈ s.launchedTasks then s.removedUnlaunched else s.removedUnlaunched ++ [task] },
      true)

def runSystemClock (s : LaunchTaskStore) (handle : Option TPid) : LaunchTaskStore :=
  { s with
    toLaunchQueue := s.toLaunchQueue.runSystemClock handle
    launchedTasks := s.launchedTasks ++ s.launchTasks.getLast?.toList }

def step (s : LaunchTaskStore) : LaunchTaskAction → Option LaunchTaskStore
  | .addLaunchTask call => some (s.addLaunchTask call)
  | .removeLaunchTask taskId => some (s.removeLaunchTask taskId).1
  | .runSystemClock handle => some (s.runSystemClock handle)

end LaunchTaskStore

end ProcessLauncher

end MicroserviceCommon
