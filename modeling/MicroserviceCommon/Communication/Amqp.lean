import MicroserviceCommon.Infra.UnorderedMap
import MicroserviceCommon.Communication.NetworkInterface

/-!
# `AmqpClient`

The part of the client that pairs replies with requests. One map holds the responses to
asynchronous requests, from the moment they were sent. `poll` decides by this map
whether a message is a response or a request from the other side.

The sending functions run on other threads than `poll`. Their effects on the client are functions
of their own here, so that they can be interleaved.
-/

namespace MicroserviceCommon

open Infra

/-- What `poll` takes from an `amqp_envelope_t`. -/
structure Envelope where
  correlationId : TCorrelationId
  replyTo : String
  body : String
  deriving DecidableEq, Repr

/-- The data that `AmqpRequest` adds. The route is not needed here. -/
structure AmqpRequest extends AEnvironmentRequest where
  replyTo : String := ""
  deriving DecidableEq, Repr

/-- An observer is known by a number. -/
structure AmqpClient where
  connId : TConnectionId := 0
  deliveredMessageExpirationSec : Int32 := 30
  observers : List Nat := []
  readyResponsesToAsyncMessages : UnorderedMap TCorrelationId String := UnorderedMap.empty
  refusedMessages : List TCorrelationId := []
  syncRequestPerformed : Bool := false
  syncRequestCorrelationId : TCorrelationId := ""

/-- The client after `poll`, whether it woke a blocked call, and the calls of
`callbackNetworkRequest`. -/
structure PollResult where
  client : AmqpClient
  notified : Bool := false
  callbacks : List (Nat × AmqpRequest) := []

namespace AmqpClient

def addObserver (c : AmqpClient) (observer : Nat) : AmqpClient :=
  { c with observers := c.observers ++ [observer] }

/-! ## Receiving -/

/-- The request that is made of a message from the other side. -/
def incomingRequest (c : AmqpClient) (envelope : Envelope) : AmqpRequest where
  connectionId := c.connId
  incomingMessage := envelope.body
  correlationId := envelope.correlationId
  replyTo := envelope.replyTo

/-- `none` is a time-out or an error of `amqp_consume_message`. -/
def poll (c : AmqpClient) : Option Envelope → PollResult
  | none => { client := c }
  | some envelope =>
    let corrId := envelope.correlationId
    if (c.readyResponsesToAsyncMessages corrId).isSome then
      -- a response to a request of this client
      if corrId ∉ c.refusedMessages then
        { client := { c with
            readyResponsesToAsyncMessages :=
              c.readyResponsesToAsyncMessages.assign corrId envelope.body }
          notified := c.syncRequestPerformed && corrId == c.syncRequestCorrelationId }
      else
        { client := { c with refusedMessages := c.refusedMessages.filter (· ≠ corrId) } }
    else
      -- initiative from the other side
      { client := c
        callbacks := c.observers.map fun observer => (observer, c.incomingRequest envelope) }

/-! ## Asynchronous requests -/

/-- The last statement of `sendPackageAsync`, after a publish that succeeded. -/
def registerAsync (c : AmqpClient) (corrId : TCorrelationId) : AmqpClient :=
  { c with readyResponsesToAsyncMessages := c.readyResponsesToAsyncMessages.insert corrId "" }

def checkResponseReadyness (c : AmqpClient) (corrId : TCorrelationId) : Bool :=
  (c.readyResponsesToAsyncMessages corrId).any (· ≠ "")

/-- `none` is the failed `assert`. -/
def getAsyncResponse (c : AmqpClient) (corrId : TCorrelationId) : Option (String × AmqpClient) :=
  (c.readyResponsesToAsyncMessages corrId).map fun out =>
    (out, { c with
      readyResponsesToAsyncMessages := c.readyResponsesToAsyncMessages.erase corrId })

/-! ## Blocked requests -/

/-- `sendPackageBlocked` up to the publish. -/
def beginBlocked (c : AmqpClient) (corrId : TCorrelationId) : AmqpClient :=
  { c with syncRequestPerformed := true, syncRequestCorrelationId := corrId }

/-- The predicate that `sendPackageBlocked` waits for. -/
def blockedResponseArrived (c : AmqpClient) (corrId : TCorrelationId) : Bool :=
  (c.readyResponsesToAsyncMessages corrId).isSome

/-- `sendPackageBlocked` after the wait: the returned response and the client. -/
def endBlocked (c : AmqpClient) (corrId : TCorrelationId) : String × AmqpClient :=
  ((c.readyResponsesToAsyncMessages corrId).getD "",
    { c with
      readyResponsesToAsyncMessages := c.readyResponsesToAsyncMessages.erase corrId
      syncRequestPerformed := false
      syncRequestCorrelationId := "" })

end AmqpClient

namespace AmqpRequest

/-- A request that is too old is given up. Its correlation id goes to the refused ones. -/
def checkResponseReadyness (now : Int64) (c : AmqpClient) (r : AmqpRequest) :
    AmqpClient × AmqpRequest × Bool :=
  if now - r.requestTimeMillisec > (c.deliveredMessageExpirationSec * 1000).toInt64 then
    ({ c with refusedMessages := c.refusedMessages.insert r.correlationId },
      { r with timeouted := true, correlationId := "" }, false)
  else (c, r, c.checkResponseReadyness r.correlationId)

def getAsyncResponse (c : AmqpClient) (r : AmqpRequest) :
    Option (String × AmqpClient × AmqpRequest) :=
  (c.getAsyncResponse r.correlationId).map fun (out, c) => (out, c, { r with correlationId := "" })

end AmqpRequest

/-! ## What `poll` does -/

section Poll

variable {c : AmqpClient} {envelope : Envelope}

/-- A message whose id is in the map never reaches an observer. -/
theorem poll_callbacks_of_isSome
    (h : (c.readyResponsesToAsyncMessages envelope.correlationId).isSome) :
    (c.poll (some envelope)).callbacks = [] := by
  simp only [AmqpClient.poll, h, if_true]
  split <;> rfl

/-- **A message whose id is in the map and not refused is stored.** -/
theorem poll_ready_of_isSome
    (h : (c.readyResponsesToAsyncMessages envelope.correlationId).isSome)
    (hrefused : envelope.correlationId ∉ c.refusedMessages) :
    (c.poll (some envelope)).client.readyResponsesToAsyncMessages =
      c.readyResponsesToAsyncMessages.assign envelope.correlationId envelope.body := by
  simp only [AmqpClient.poll, h, if_true, if_pos hrefused]

/-- **A message whose id is not in the map goes to every observer.** -/
theorem poll_of_none (h : c.readyResponsesToAsyncMessages envelope.correlationId = none) :
    c.poll (some envelope) =
      { client := c
        callbacks := c.observers.map fun observer => (observer, c.incomingRequest envelope) } := by
  simp [AmqpClient.poll, h]

/-- `poll` adds no key and removes none. -/
theorem poll_isSome (envelope? : Option Envelope) (k : TCorrelationId) :
    ((c.poll envelope?).client.readyResponsesToAsyncMessages k).isSome ↔
      (c.readyResponsesToAsyncMessages k).isSome := by
  cases envelope? with
  | none => rfl
  | some envelope =>
    simp only [AmqpClient.poll]
    split
    · next h =>
      split
      · rw [UnorderedMap.isSome_assign]
        refine or_iff_right_of_imp ?_
        rintro rfl
        exact h
      · rfl
    · rfl

theorem poll_refused_subset (envelope? : Option Envelope) :
    (c.poll envelope?).client.refusedMessages ⊆ c.refusedMessages := by
  cases envelope? with
  | none => exact List.Subset.refl _
  | some envelope =>
    simp only [AmqpClient.poll]
    split
    · split
      · exact List.Subset.refl _
      · exact List.filter_sublist.subset
    · exact List.Subset.refl _

/-- Every callback is about the message. -/
theorem poll_callbacks_correlationId {callback : Nat × AmqpRequest}
    (h : callback ∈ (c.poll (some envelope)).callbacks) :
    callback.2.correlationId = envelope.correlationId := by
  cases hready : c.readyResponsesToAsyncMessages envelope.correlationId with
  | some v =>
    rw [poll_callbacks_of_isSome (by rw [hready]; rfl)] at h
    exact absurd h List.not_mem_nil
  | none =>
    rw [poll_of_none hready] at h
    obtain ⟨observer, _, rfl⟩ := List.mem_map.mp h
    rfl

end Poll

/-! ## The keys of the map -/

theorem isSome_registerAsync (c : AmqpClient) (corrId k : TCorrelationId) :
    ((c.registerAsync corrId).readyResponsesToAsyncMessages k).isSome ↔
      k = corrId ∨ (c.readyResponsesToAsyncMessages k).isSome :=
  UnorderedMap.isSome_insert ..

theorem isSome_endBlocked (c : AmqpClient) (corrId k : TCorrelationId) :
    ((c.endBlocked corrId).2.readyResponsesToAsyncMessages k).isSome ↔
      k ≠ corrId ∧ (c.readyResponsesToAsyncMessages k).isSome :=
  UnorderedMap.isSome_erase ..

/-- Collecting a response removes its key and nothing else. -/
theorem getAsyncResponse_eq_some {c c' : AmqpClient} {corrId : TCorrelationId} {out : String}
    (h : c.getAsyncResponse corrId = some (out, c')) :
    c' = { c with
      readyResponsesToAsyncMessages := c.readyResponsesToAsyncMessages.erase corrId } := by
  obtain ⟨_, _, h⟩ := Option.map_eq_some_iff.mp h
  exact (Prod.mk.inj h).2.symm

end MicroserviceCommon
