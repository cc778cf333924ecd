import MicroserviceCommon.Infra.Aggregate
import MicroserviceCommon.System.ProcessHandles

/-!
# The signal of the children

`signalChildDieHandler` waits for one child whenever a `SIGCHLD` comes. A child that has exited has
a process, and a pid that `isRunning` finds, until it was waited for.

* A signal that is pending is not queued again. It goes to any thread that is not in the handler.
* `wait` takes any child that has exited. It blocks while there are none and others run.
* Without `SA_NOCLDSTOP` a child that is stopped or continued raises the signal too.
* No pid is given out twice, and nothing interrupts a `wait`.

`exited` and `coalesced` are the history.
-/

namespace MicroserviceCommon.ProcessLauncher

/-- `handling` are the threads in the handler, `reaped` the children that were waited for.
`coalesced` counts the exits that found the signal pending. -/
structure ChildSignals (τ : Type*) where
  running : List TPid := []
  zombies : List TPid := []
  reaped : List TPid := []
  pending : Bool := false
  handling : List τ := []
  exited : List TPid := []
  coalesced : Nat := 0

inductive ChildAction (τ : Type*) where
  | fork (pid : TPid)
  | exit (pid : TPid)
  /-- stopped or continued -/
  | stop (pid : TPid)
  /-- the thread enters `signalChildDieHandler` -/
  | deliver (t : τ)
  /-- `wait` returns the child, and the handler ends -/
  | wait (t : τ) (pid : TPid)
  /-- `wait` fails without a child -/
  | waitFailed (t : τ)
  deriving DecidableEq, Repr

namespace ChildSignals

variable {τ : Type*} [DecidableEq τ]

def exit (s : ChildSignals τ) (pid : TPid) : ChildSignals τ :=
  { s with
    running := s.running.erase pid
    zombies := s.zombies ++ [pid]
    pending := true
    exited := s.exited ++ [pid]
    coalesced := if s.pending then s.coalesced + 1 else s.coalesced }

def wait (s : ChildSignals τ) (t : τ) (pid : TPid) : ChildSignals τ :=
  { s with
    zombies := s.zombies.erase pid
    reaped := s.reaped ++ [pid]
    handling := s.handling.erase t }

def step (s : ChildSignals τ) : ChildAction τ → Option (ChildSignals τ)
  | .fork pid =>
    if 0 < pid ∧ pid ∉ s.running ∧ pid ∉ s.exited then
      some { s with running := s.running ++ [pid] }
    else none
  | .exit pid => if pid ∈ s.running then some (s.exit pid) else none
  | .stop pid => if pid ∈ s.running then some { s with pending := true } else none
  | .deliver t =>
    if s.pending ∧ t ∉ s.handling then
      some { s with pending := false, handling := s.handling ++ [t] }
    else none
  | .wait t pid => if t ∈ s.handling ∧ pid ∈ s.zombies then some (s.wait t pid) else none
  | .waitFailed t =>
    if t ∈ s.handling ∧ s.running = [] ∧ s.zombies = [] then
      some { s with handling := s.handling.erase t }
    else none

/-- Nothing is left to be done. -/
def AtRest (s : ChildSignals τ) : Prop := s.pending = false ∧ s.handling = []

end ChildSignals

end MicroserviceCommon.ProcessLauncher
