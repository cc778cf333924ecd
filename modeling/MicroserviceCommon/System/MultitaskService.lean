import MicroserviceCommon.Infra.ConditionVariable

/-!
# `threaded_multitask_service`

A `RunnableTask` and the `ThreadedMultitaskService` each have clients and a thread that runs them
over and over. The thread waits while there are none.

What a client does in `runInThreadService` is left out.
-/

namespace MicroserviceCommon.ThreadedMultitaskService

open Infra

abbrev TRunnableClientId := Int32

def invalidClientId : TRunnableClientId := -1

/-- The clients `κ` of a thread. `m_taskClients` or `m_clientsForDumpToDatabase`, with the id
generator and the flag next to it. -/
structure TaskClients (κ : Type*) where
  clients : List (TRunnableClientId × κ) := []
  clientIdGenerator : TRunnableClientId := 0
  shutdownCalled : Bool := false
  deriving DecidableEq, Repr

namespace TaskClients

variable {κ : Type*}

def isClientExists (s : TaskClients κ) : Bool := !s.clients.isEmpty

/-- Both `addRunnableClient`. `none` is a null pointer. `insert` keeps the client of a used id. -/
def addRunnableClient (s : TaskClients κ) : Option κ → TaskClients κ × TRunnableClientId
  | none => (s, invalidClientId)
  | some client =>
    let clientId := s.clientIdGenerator + 1
    ({ s with
      clientIdGenerator := clientId
      clients :=
        if s.clients.any fun entry => entry.1 == clientId then s.clients
        else s.clients ++ [(clientId, client)] }, clientId)

/-- Both functions that remove a client. -/
def removeRunnableClient (s : TaskClients κ) (id : TRunnableClientId) : TaskClients κ × Bool :=
  if id ≤ invalidClientId then (s, false)
  else ({ s with clients := s.clients.filter fun entry => entry.1 != id },
    s.clients.any fun entry => entry.1 == id)

end TaskClients

/-- The sections of the loop behind the wait. -/
inductive TaskSection where
  | isClientExists
  /-- `runInThreadService` of every client, and whether there are clients -/
  | runClients
  deriving DecidableEq, Repr

/-- Both thread functions. -/
def taskLoop {κ : Type*} (s : TaskClients κ) : TaskClients κ × Option TaskSection :=
  (s, if s.isClientExists then some .runClients else none)

/-! ## `RunnableTask` -/

inductive RunnableTaskCall (κ : Type*) where
  | addRunnableClient (client : Option κ)
  | removeRunnableClient (id : TRunnableClientId)
  deriving DecidableEq, Repr

namespace RunnableTask

variable {κ : Type*}

/-- Nothing initialises `m_shutdownCalled` and `m_clientIdGenerator`. -/
def init (clientIdGenerator : TRunnableClientId) (shutdownCalled : Bool) : TaskClients κ :=
  { clientIdGenerator := clientIdGenerator, shutdownCalled := shutdownCalled }

/-- Nothing sets `m_shutdownCalled`. -/
def threadTaskProcessing (κ τ : Type*) :
    WaitProgram (TaskClients κ) TaskSection Unit τ (RunnableTaskCall κ) where
  found s := s.isClientExists
  flag s := s.shutdownCalled
  entry := .isClientExists
  body _ _ s := some (taskLoop s)
  call _ c s := match c with
    | .addRunnableClient client => some (s.addRunnableClient client).1
    | .removeRunnableClient id => some (s.removeRunnableClient id).1
  notifies c := match c with
    | .addRunnableClient (some _) => true
    | .addRunnableClient none | .removeRunnableClient _ => false

end RunnableTask

/-! ## The service -/

inductive ServiceCall (κ : Type*) where
  | addRunnableClient (client : Option κ)
  | removeDumpToDatabaseClient (id : TRunnableClientId)
  | shutdown
  deriving DecidableEq, Repr

/-- `shutdown` raises the flag and joins the thread. No call notifies. -/
def threadDumpToDatabase (κ τ : Type*) :
    WaitProgram (TaskClients κ) TaskSection Unit τ (ServiceCall κ) where
  found s := s.isClientExists
  flag s := s.shutdownCalled
  entry := .isClientExists
  body _ _ s := some (taskLoop s)
  call _ c s := match c with
    | .addRunnableClient client => some (s.addRunnableClient client).1
    | .removeDumpToDatabaseClient id => some (s.removeRunnableClient id).1
    | .shutdown => some { s with shutdownCalled := true }
  notifies _ := false

end MicroserviceCommon.ThreadedMultitaskService
