import Mathlib.Logic.Function.Basic

/-!
# The commands of `CommunicationGatewayFacade`

A request of a network, of the journal or of the configuration becomes a command in the queue
`m_arrivedCommands`, and the service takes the commands out.

* Each call holds `m_mutexCommand` from its beginning to its end.
* The factory of the service makes the commands. It returns null for what it does not know.
-/

namespace MicroserviceCommon

/-- `m_arrivedCommands` -/
structure CommandQueue (γ : Type*) where
  arrivedCommands : List γ := []
  deriving DecidableEq, Repr

namespace CommandQueue

variable {ρ γ : Type*}

def callbackNetworkRequest (createCommand : ρ → Option γ) (q : CommandQueue γ) (request : ρ) :
    CommandQueue γ :=
  match createCommand request with
  | some command => { arrivedCommands := q.arrivedCommands ++ [command] }
  | none => q

def isCommandAvailable (q : CommandQueue γ) : Bool := !q.arrivedCommands.isEmpty

/-- `none` is the `front` of an empty queue, which is undefined. -/
def nextIncomingCommand (q : CommandQueue γ) : Option (γ × CommandQueue γ) :=
  match q.arrivedCommands with
  | [] => none
  | command :: commands => some (command, { arrivedCommands := commands })

/-- What `init` does before it opens connections. -/
def init (createCommand : ρ → Option γ) (requestsFromWAL requestsFromConfig : List ρ) :
    CommandQueue γ :=
  let fromWAL := requestsFromWAL.foldl (callbackNetworkRequest createCommand) {}
  requestsFromConfig.foldl (callbackNetworkRequest createCommand) fromWAL

theorem arrivedCommands_callback (createCommand : ρ → Option γ) (q : CommandQueue γ)
    (request : ρ) : (q.callbackNetworkRequest createCommand request).arrivedCommands =
      q.arrivedCommands ++ (createCommand request).toList := by
  rw [callbackNetworkRequest]
  cases createCommand request with
  | none => exact (List.append_nil _).symm
  | some command => rfl

theorem arrivedCommands_foldl (createCommand : ρ → Option γ) :
    ∀ (requests : List ρ) (q : CommandQueue γ),
      (requests.foldl (callbackNetworkRequest createCommand) q).arrivedCommands =
        q.arrivedCommands ++ requests.filterMap createCommand
  | [], q => (List.append_nil _).symm
  | request :: requests, q => by
    rw [List.foldl_cons, arrivedCommands_foldl createCommand requests, arrivedCommands_callback,
      List.append_assoc]
    refine congrArg _ ?_
    rw [List.filterMap_cons]
    cases createCommand request <;> rfl

/-- **The commands of the journal come first.** -/
theorem arrivedCommands_init (createCommand : ρ → Option γ)
    (requestsFromWAL requestsFromConfig : List ρ) :
    (init createCommand requestsFromWAL requestsFromConfig).arrivedCommands =
      (requestsFromWAL ++ requestsFromConfig).filterMap createCommand := by
  rw [init, arrivedCommands_foldl, arrivedCommands_foldl, List.filterMap_append]
  rfl

theorem nextIncomingCommand_eq_some {q q' : CommandQueue γ} {command : γ}
    (h : q.nextIncomingCommand = some (command, q')) :
    q.arrivedCommands = command :: q'.arrivedCommands := by
  rw [nextIncomingCommand] at h
  split at h
  · cases h
  · next heq =>
    cases h
    exact heq

end CommandQueue

/-! ## Threads that take commands -/

/-- Threads that ask `isCommandAvailable` before they call `nextIncomingCommand`.
`available` are the threads that were told so and have not called yet. -/
structure CommandThreads (ι γ : Type*) where
  queue : CommandQueue γ := {}
  available : ι → Bool := fun _ => false
  created : List γ := []
  taken : List γ := []
  undefined : Bool := false

/-- A request arrives with what the factory makes of it. -/
inductive CommandAction (ι γ : Type*) where
  | arrive (command : Option γ)
  | check (i : ι)
  | take (i : ι)
  deriving DecidableEq, Repr

namespace CommandThreads

variable {ι γ : Type*} [DecidableEq ι]

def step (s : CommandThreads ι γ) : CommandAction ι γ → Option (CommandThreads ι γ)
  | .arrive command =>
    some { s with
      queue := s.queue.callbackNetworkRequest id command
      created := s.created ++ command.toList }
  | .check i =>
    some { s with available := Function.update s.available i s.queue.isCommandAvailable }
  | .take i =>
    if s.available i then
      match s.queue.nextIncomingCommand with
      | some (command, queue) =>
        some { s with
          queue := queue
          available := Function.update s.available i false
          taken := s.taken ++ [command] }
      | none => some { s with undefined := true }
    else none

end CommandThreads

end MicroserviceCommon
