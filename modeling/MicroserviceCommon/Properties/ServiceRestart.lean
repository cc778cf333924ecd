import MicroserviceCommon.Communication.GatewayCommands
import MicroserviceCommon.Properties.JournalRefinement

/-!
# What a service does again after a crash

The database outlives the process. A start asks the logger for the interrupted operations, and the
gateway makes commands of them before it makes commands of anything else.

* `ServiceLife` — a service that crashes and starts any number of times
* `restart_repeats_open_operations` — the commands of every life
-/

namespace MicroserviceCommon

open Infra

/-- `queue` is `none` while the service does not run. `journal` is the abstract journal of all
lives, `recovered` what was open in it at the last start, when the journal was on, and `others` are
the requests that came from the configuration and from networks since. -/
structure ServiceLife (ρ γ : Type*) where
  logger : WriteAheadLogger := WriteAheadLogger.inited false
  queue : Option (CommandQueue γ) := none
  journal : Journal := {}
  recovered : List (String × String) := []
  others : List ρ := []
  taken : List γ := []

inductive ServiceAction (ρ : Type*) where
  | start (active : Bool) (requestsFromConfig : List ρ)
  | call (c : JournalCall)
  | arrive (request : ρ)
  | take
  | crash

namespace ServiceLife

variable {ρ γ : Type*} (requestFromWAL : AEnvironmentRequest → ρ) (createCommand : ρ → Option γ)

/-- `WriteAheadLogger::init`, `getInterruptedOperations` and `CommunicationGatewayFacade::init`. The
`cleanJournal` of a start with the journal off is one of the calls. -/
def start (s : ServiceLife ρ γ) (active : Bool) (requestsFromConfig : List ρ) :
    Option (ServiceLife ρ γ) :=
  let logger := { s.logger with active := active }
  logger.getInterruptedOperations.map fun operations =>
    { s with
      logger := logger
      queue := some (CommandQueue.init createCommand (operations.map requestFromWAL)
        requestsFromConfig)
      recovered := if active then s.journal.operations else []
      others := requestsFromConfig
      taken := [] }

def step (s : ServiceLife ρ γ) : ServiceAction ρ → Option (ServiceLife ρ γ)
  | .start active requestsFromConfig =>
    if s.queue.isNone then s.start requestFromWAL createCommand active requestsFromConfig else none
  | .call c =>
    if s.queue.isSome then
      (s.logger.call c).map fun logger =>
        { s with logger := logger, journal := s.journal.call s.logger.active c }
    else none
  | .arrive request =>
    s.queue.map fun queue =>
      { s with
        queue := some (queue.callbackNetworkRequest createCommand request)
        others := s.others ++ [request] }
  | .take =>
    s.queue.bind fun queue => queue.nextIncomingCommand.map fun r =>
      { s with queue := some r.2, taken := s.taken ++ [r.1] }
  | .crash => s.queue.map fun _ => { s with queue := none }

/-- The request that repeats an operation. -/
def repeated (operation : String × String) : ρ :=
  requestFromWAL { incomingMessage := operation.2 }

/-- What was open at the start comes first, and everything else in its order. -/
def TakesInOrder (s : ServiceLife ρ γ) : Prop :=
  ∀ queue, s.queue = some queue → s.taken ++ queue.arrivedCommands =
    (s.recovered.map (repeated requestFromWAL) ++ s.others).filterMap createCommand

structure Inv (s : ServiceLife ρ γ) : Prop where
  journal : Represents s.logger.persistService s.journal
  order : s.TakesInOrder requestFromWAL createCommand

variable {requestFromWAL createCommand} {s s' : ServiceLife ρ γ}

/-- **A start finds what is open in the journal.** -/
theorem Inv.start (h : Inv requestFromWAL createCommand s) {active : Bool}
    {requestsFromConfig : List ρ}
    (hs : s.start requestFromWAL createCommand active requestsFromConfig = some s') :
    Inv requestFromWAL createCommand s' := by
  have hjournal : Represents ({ s.logger with active := active } : WriteAheadLogger).persistService
    s.journal := h.journal
  rw [ServiceLife.start, hjournal.readsJournal.interrupted] at hs
  obtain rfl := Option.some.inj hs
  refine ⟨h.journal, fun queue hqueue => ?_⟩
  obtain rfl := Option.some.inj hqueue
  rw [List.nil_append, CommandQueue.arrivedCommands_init]
  cases active
  · rfl
  · simp only [if_true, List.map_map]
    rfl

theorem Inv.step {a : ServiceAction ρ} (h : Inv requestFromWAL createCommand s)
    (hs : s.step requestFromWAL createCommand a = some s') :
    Inv requestFromWAL createCommand s' := by
  cases a with
  | start active requestsFromConfig =>
    obtain ⟨_, hs⟩ := Option.ite_none_right_eq_some.mp hs
    exact h.start hs
  | call c =>
    obtain ⟨_, hs⟩ := Option.ite_none_right_eq_some.mp hs
    obtain ⟨logger, hlogger, rfl⟩ := Option.map_eq_some_iff.mp hs
    obtain ⟨w, hw, _, hrepresents⟩ := h.journal.call c
    rw [hlogger] at hw
    obtain rfl := Option.some.inj hw
    exact ⟨hrepresents, h.order⟩
  | arrive request =>
    obtain ⟨queue, hqueue, rfl⟩ := Option.map_eq_some_iff.mp hs
    refine ⟨h.journal, fun q hq => ?_⟩
    obtain rfl := Option.some.inj hq
    have hlast : [request].filterMap createCommand = (createCommand request).toList := by
      cases hc : createCommand request <;> simp [hc]
    rw [CommandQueue.arrivedCommands_callback, ← List.append_assoc, h.order queue hqueue, ← hlast,
      ← List.filterMap_append, List.append_assoc]
  | take =>
    obtain ⟨queue, hqueue, hs⟩ := Option.bind_eq_some_iff.mp hs
    obtain ⟨⟨command, rest⟩, hnext, rfl⟩ := Option.map_eq_some_iff.mp hs
    refine ⟨h.journal, fun q hq => ?_⟩
    obtain rfl := Option.some.inj hq
    rw [List.append_assoc, List.singleton_append,
      ← CommandQueue.nextIncomingCommand_eq_some hnext]
    exact h.order queue hqueue
  | crash =>
    obtain ⟨_, _, rfl⟩ := Option.map_eq_some_iff.mp hs
    exact ⟨h.journal, fun q hq => by cases hq⟩

/--
**A crash loses no open operation.**

The service crashes at any moment and starts again, with the journal on or off. The commands that
it takes in a life and those that wait are, in this order, those of the operations that were opened
in earlier lives and not closed, of the configuration and of the networks. A start with the journal
off repeats no operation, and an inactive logger reads no operation, process or registration. An
active one reads the journal.
-/
theorem restart_repeats_open_operations (requestFromWAL : AEnvironmentRequest → ρ)
    (createCommand : ρ → Option γ) (as : List (ServiceAction ρ)) :
    AlwaysState (step requestFromWAL createCommand)
      (fun s => ReadsJournal s.logger s.journal ∧ s.TakesInOrder requestFromWAL createCommand)
      ({} : ServiceLife ρ γ) as := by
  refine (alwaysState_of_alwaysStep (C := fun _ _ => True) (Inv requestFromWAL createCommand)
    (fun _ _ _ h _ hs => h.step hs) as {} ⟨represents_empty, fun q hq => by cases hq⟩
    alwaysStep_trivial).mono fun s h => ⟨h.journal.readsJournal, h.order⟩

end ServiceLife

end MicroserviceCommon
