import Mathlib.Data.Finset.Basic
import MicroserviceCommon.System.ProcessLauncher

/-!
# Crash notification

The part of the monitoring thread that looks for died children, removes their handles from
`m_handles` and calls the observers. `isRunning` may answer anything: a child can die, and its pid
can be given to another one, between two questions of one pass.

Reading the output of a child and the status it exited with do not matter here.
-/

namespace MicroserviceCommon.ProcessLauncher

/-- `std::sort` with `SProcessObserverComparator`. Nothing is said about equal priorities. -/
structure ObserverSort (ω : Type*) where
  priority : ω → Int32
  sort : List ω → List ω
  perm : ∀ l, (sort l).Perm l
  sorted : ∀ l, (sort l).Pairwise fun a b => priority a ≤ priority b

/-- The handles `ι` and the observers `ω`. `callbacks` are the calls of `callbackProcessCrashed`.

`registered` are the observers that were added and not removed since, and `removed` the handles that
a pass took out of `m_handles`, each with the observers that were registered then. -/
structure CrashMonitor (ι ω : Type*) where
  handles : List ι := []
  observers : List ω := []
  callbacks : List (ι × ω) := []
  registered : Finset ω := ∅
  removed : List (ι × Finset ω) := []

inductive CrashAction (ι ω : Type*) where
  | launch (handle : ι)
  | addObserver (observer : Option ω)
  | removeObserver (observer : ω)
  | monitor (isRunning : ι → Bool)

namespace CrashMonitor

variable {ι ω : Type*} [DecidableEq ι] [DecidableEq ω]

/-- An observer that is in the list is not added again. -/
def addObserver (order : ObserverSort ω) (s : CrashMonitor ι ω) (observer : ω) :
    CrashMonitor ι ω :=
  if observer ∈ s.observers then s
  else
    { s with
      observers := order.sort (s.observers ++ [observer])
      registered := insert observer s.registered }

/-- The first entry is erased. -/
def removeObserver (s : CrashMonitor ι ω) (observer : ω) : CrashMonitor ι ω :=
  { s with
    observers := s.observers.erase observer
    registered := s.registered.erase observer }

/-- The handles whose process does not run. -/
def diedProcesses (s : CrashMonitor ι ω) (isRunning : ι → Bool) : List ι :=
  s.handles.filter fun process => !isRunning process

/-- The loop over `diedProcesses` for one handle: it compares the pids. -/
def processDied (childPid : ι → TPid) (s : CrashMonitor ι ω) (isRunning : ι → Bool) (proc : ι) :
    Bool :=
  (s.diedProcesses isRunning).any fun diedProcess => childPid diedProcess == childPid proc

/-- The calls of one pass. -/
def notifications (s : CrashMonitor ι ω) (isRunning : ι → Bool) : List (ι × ω) :=
  (s.diedProcesses isRunning).flatMap fun zombie => s.observers.map fun observer =>
    (zombie, observer)

/-- One pass of the inner loop. -/
def monitor (childPid : ι → TPid) (s : CrashMonitor ι ω) (isRunning : ι → Bool) :
    CrashMonitor ι ω :=
  { s with
    handles := s.handles.filter fun proc => !s.processDied childPid isRunning proc
    callbacks := s.callbacks ++ s.notifications isRunning
    removed := s.removed ++
      (s.handles.filter (s.processDied childPid isRunning)).map fun proc => (proc, s.registered) }

/-- `launch` makes a new object. `assert( _observer )` keeps null pointers out. -/
def step (childPid : ι → TPid) (order : ObserverSort ω) (s : CrashMonitor ι ω) :
    CrashAction ι ω → Option (CrashMonitor ι ω)
  | .launch handle =>
    if handle ∈ s.handles ∨ handle ∈ s.removed.map Prod.fst then none
    else some { s with handles := s.handles ++ [handle] }
  | .addObserver observer => observer.map (s.addObserver order)
  | .removeObserver observer => some (s.removeObserver observer)
  | .monitor isRunning => some (s.monitor childPid isRunning)

end CrashMonitor

end MicroserviceCommon.ProcessLauncher
