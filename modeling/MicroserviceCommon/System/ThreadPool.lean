import MicroserviceCommon.Infra.Accounting

/-!
# `ThreadPool`

A queue of tasks and `n` workers. A worker takes a task under the mutex of the queue. The flag of
its activity and its current task are written later, outside the mutex.

A step of a worker is one write of the source, or a whole block under the mutex. A worker that
waits on the condition variable goes on when the predicate of the wait holds. The flags are packed
bits of a `std::vector<bool>`, and are taken as independent: no write of one flag loses another.
`cancelPendingAndProcessTasks` is no action of these: a call of it is a function of the pool.
-/

namespace MicroserviceCommon

open Infra

/-- Where a worker is in its loop, with the value of its variable `task`. -/
inductive WorkerState (τ : Type*) where
  | waiting
  | popped (task : τ)
  | marked (task : τ)
  | running (task : τ)
  | processed (task : τ)
  | cleared
  | exited
  deriving DecidableEq, Repr

namespace WorkerState

variable {τ : Type*}

/-- The task that the worker has taken and not yet processed. -/
def holds : WorkerState τ → Multiset τ
  | popped task | marked task | running task => {task}
  | waiting | processed _ | cleared | exited => 0

/-- Whether the activity flag is set. -/
def active : WorkerState τ → Bool
  | marked _ | running _ | processed _ | cleared => true
  | waiting | popped _ | exited => false

def left : WorkerState τ → Bool
  | exited => true
  | waiting | popped _ | marked _ | running _ | processed _ | cleared => false

end WorkerState

/-- What has happened so far. The last two are the tasks enqueued before `shutdown` was called
and before the last worker that has left did so. -/
structure PoolHistory (τ : Type*) where
  enqueued : List τ := []
  dequeued : List τ := []
  processed : List τ := []
  beforeShutdown : List τ := []
  beforeExit : List τ := []
  deriving DecidableEq, Repr

structure ThreadPool (n : Nat) (τ : Type*) where
  inputTasks : List τ := []
  workersCurrentTask : Fin n → Option τ := fun _ => none
  threadsActivity : Fin n → Bool := fun _ => false
  terminate : Bool := false
  stopped : Bool := false
  workers : Fin n → WorkerState τ := fun _ => .waiting
  history : PoolHistory τ := {}

/-- `shutdown` raises the flag, and `join` is its return. -/
inductive PoolAction (n : Nat) (τ : Type*) where
  | enqueue (task : τ)
  | work (worker : Fin n)
  | shutdown
  | join
  | allTasksDone
  deriving DecidableEq, Repr

namespace ThreadPool

variable {n : Nat} {τ : Type*}

def enqueue (s : ThreadPool n τ) (task : τ) : ThreadPool n τ :=
  { s with
    inputTasks := s.inputTasks ++ [task]
    history := { s.history with enqueued := s.history.enqueued ++ [task] } }

def setWorker (s : ThreadPool n τ) (w : Fin n) (state : WorkerState τ) : ThreadPool n τ :=
  { s with workers := Function.update s.workers w state }

/-- The block under the mutex. `none` is a worker that waits. -/
def takeTask (s : ThreadPool n τ) (w : Fin n) : Option (ThreadPool n τ) :=
  match s.inputTasks with
  | [] =>
    if s.terminate then
      some { s.setWorker w .exited with
        history := { s.history with beforeExit := s.history.enqueued } }
    else none
  | task :: inputTasks =>
    some { s.setWorker w (.popped task) with
      inputTasks := inputTasks
      history := { s.history with dequeued := s.history.dequeued ++ [task] } }

/-- The next step of a worker. -/
def work (s : ThreadPool n τ) (w : Fin n) : Option (ThreadPool n τ) :=
  match s.workers w with
  | .waiting => s.takeTask w
  | .popped task =>
    some { s.setWorker w (.marked task) with
      threadsActivity := Function.update s.threadsActivity w true }
  | .marked task =>
    some { s.setWorker w (.running task) with
      workersCurrentTask := Function.update s.workersCurrentTask w (some task) }
  | .running task =>
    -- `processInThread` returns
    some { s.setWorker w (.processed task) with
      history := { s.history with processed := s.history.processed ++ [task] } }
  | .processed _ =>
    some { s.setWorker w .cleared with
      workersCurrentTask := Function.update s.workersCurrentTask w none }
  | .cleared =>
    some { s.setWorker w .waiting with
      threadsActivity := Function.update s.threadsActivity w false }
  | .exited => none

def allTasksDone (s : ThreadPool n τ) : Bool :=
  decide (∀ w, s.threadsActivity w = false) && s.inputTasks.isEmpty

/-- One call of `shutdown`: it can return once all workers have left. -/
def step (s : ThreadPool n τ) : PoolAction n τ → Option (ThreadPool n τ)
  | .enqueue task => some (s.enqueue task)
  | .work w => s.work w
  | .shutdown =>
    if s.terminate then none
    else some { s with
      terminate := true, history := { s.history with beforeShutdown := s.history.enqueued } }
  | .join =>
    if s.terminate ∧ ∀ w, (s.workers w).left = true then
      some { s with stopped := true }
    else none
  | .allTasksDone => some s

end ThreadPool

/-- Where a call of `cancelPendingAndProcessTasks` leaves what the language defines. -/
inductive CancelFault where
  | counterOverflow
  | indexOutOfBounds (i : Nat)
  deriving DecidableEq, Repr

namespace ThreadPool

variable {n : Nat} {τ : Type*}

/-- The first loop, at the value `i` of its counter, an `int`. -/
def popInputTasks : List τ → Nat → Except CancelFault (List τ)
  | [], _ => .ok []
  | _ :: inputTasks, i =>
    if i + 1 < 2 ^ 31 then popInputTasks inputTasks (i + 1) else .error .counterOverflow

/-- The second loop, at the value `i` of its counter, with the tasks cancelled so far. -/
def cancelFrom (workersCurrentTask : Fin n → Option τ) (i : Nat) (cancelled : List τ) :
    Except CancelFault ((Fin n → Option τ) × List τ) :=
  -- the condition is the size of the vector, which no iteration changes
  if n = 0 then .ok (workersCurrentTask, cancelled)
  else if h : i < n then
    match workersCurrentTask ⟨i, h⟩ with
    | some curTask =>
      cancelFrom (Function.update workersCurrentTask ⟨i, h⟩ none) (i + 1) (cancelled ++ [curTask])
    | none => cancelFrom workersCurrentTask (i + 1) cancelled
  else .error (.indexOutOfBounds i)
termination_by n - i

/-- The pool after the call, with the tasks whose `cancel` it called. -/
def cancelPendingAndProcessTasks (s : ThreadPool n τ) :
    Except CancelFault (ThreadPool n τ × List τ) := do
  let inputTasks ← popInputTasks s.inputTasks 0
  let (workersCurrentTask, cancelled) ← cancelFrom s.workersCurrentTask 0 []
  return ({ s with inputTasks, workersCurrentTask }, cancelled)

end ThreadPool

end MicroserviceCommon
