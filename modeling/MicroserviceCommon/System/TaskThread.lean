import MicroserviceCommon.System.MultitaskService

/-!
# The pass over the clients

A pass of `threadTaskProcessing` or `threadDumpToDatabase` calls its clients one by one and holds
the mutex of the clients in between. `MultitaskService` takes a pass as one section; here a client
is a step, and another one is its return.
-/

namespace MicroserviceCommon.ThreadedMultitaskService

/-- What a client and the one who registered it can see of the thread. -/
inductive TaskEvent (κ : Type*) where
  /-- `addRunnableClient` inserts the client, before it returns the id -/
  | added (id : TRunnableClientId) (client : κ)
  /-- `removeRunnableClient` erases the client, before it returns true -/
  | removed (id : TRunnableClientId)
  | passBegun
  /-- `runInThreadService` is called -/
  | called (id : TRunnableClientId) (client : κ)
  | returned (id : TRunnableClientId) (client : κ)
  | passEnded
  deriving DecidableEq, Repr

inductive TaskPhase (κ : Type*) where
  | loopHead
  | waiting
  | wokenUp
  | isClientExists
  /-- about to lock the mutex for a pass -/
  | loop
  /-- between two clients, with the others of the map -/
  | pass (todo : List (TRunnableClientId × κ))
  | inClient (id : TRunnableClientId) (client : κ) (todo : List (TRunnableClientId × κ))
  /-- a client waits for the mutex its own thread has locked -/
  | stuck
  | exited
  deriving DecidableEq, Repr

def TaskPhase.locksClients {κ : Type*} : TaskPhase κ → Bool
  | .pass _ | .inClient _ _ _ | .stuck => true
  | .loopHead | .waiting | .wokenUp | .isClientExists | .loop | .exited => false

structure TaskThread (κ : Type*) where
  data : TaskClients κ
  phase : TaskPhase κ := .loopHead
  log : List (TaskEvent κ) := []
  deriving DecidableEq, Repr

/-- `call` and `shutdown` are those of other threads. -/
inductive TaskAction (κ : Type*) where
  | call (c : RunnableTaskCall κ)
  | shutdown
  /-- the thread goes on, outside of a pass -/
  | work
  /-- the next client of a pass. The map is not ordered. -/
  | callClient (place : Nat)
  | returnClient
  /-- the client calls a function of the service that locks the clients -/
  | callBack
  | endPass
  deriving DecidableEq, Repr

namespace TaskThread

variable {κ : Type*}

/-- Who adds a client or removes one waits for the end of a pass. An overflow of the generator is
not defined. -/
def call (s : TaskThread κ) : RunnableTaskCall κ → Option (TaskThread κ)
  | .addRunnableClient none => some s
  | .addRunnableClient (some client) =>
    if s.phase.locksClients || s.data.clientIdGenerator == Int32.maxValue then none
    else
      let r := s.data.addRunnableClient (some client)
      some { s with data := r.1, log := s.log ++ [.added r.2 client] }
  | .removeRunnableClient id =>
    if id ≤ invalidClientId then some s
    else if s.phase.locksClients then none
    else
      let r := s.data.removeRunnableClient id
      some { s with data := r.1, log := if r.2 then s.log ++ [.removed id] else s.log }

/-- Up to the lock of the next pass. -/
def work (s : TaskThread κ) : Option (TaskThread κ) :=
  match s.phase with
  | .loopHead => some { s with phase := if s.data.shutdownCalled then .exited else .waiting }
  | .waiting =>
    if s.data.isClientExists || s.data.shutdownCalled then some { s with phase := .wokenUp }
    else none
  | .wokenUp =>
    some { s with phase := if s.data.shutdownCalled then .exited else .isClientExists }
  | .isClientExists =>
    some { s with phase := if s.data.isClientExists then .loop else .loopHead }
  | .loop => some { s with phase := .pass s.data.clients, log := s.log ++ [.passBegun] }
  | .pass _ | .inClient _ _ _ | .stuck | .exited => none

def step (s : TaskThread κ) : TaskAction κ → Option (TaskThread κ)
  | .call c => s.call c
  | .shutdown => some { s with data := { s.data with shutdownCalled := true } }
  | .work => s.work
  | .callClient place =>
    match s.phase with
    | .pass todo => todo[place]?.map fun entry =>
        { s with
          phase := .inClient entry.1 entry.2 (todo.eraseIdx place)
          log := s.log ++ [.called entry.1 entry.2] }
    | _ => none
  | .returnClient =>
    match s.phase with
    | .inClient id client todo =>
      some { s with phase := .pass todo, log := s.log ++ [.returned id client] }
    | _ => none
  | .callBack =>
    match s.phase with
    | .inClient _ _ _ => some { s with phase := .stuck }
    | _ => none
  | .endPass =>
    match s.phase with
    | .pass [] =>
      some { s with
        phase := if s.data.isClientExists then .loop else .loopHead
        log := s.log ++ [.passEnded] }
    | _ => none

end TaskThread

end MicroserviceCommon.ThreadedMultitaskService
