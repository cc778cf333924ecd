import MicroserviceCommon.Infra.UnorderedMap
import MicroserviceCommon.Communication.CommunicationGateway
import MicroserviceCommon.Communication.Framing

/-!
# `WebsocketServer`

The callbacks of the websocket server, and a server with its clients and its gateway as one system.

A connection is known by a number, which is also its handle. `hostPort` gives for a connection the
`get_uri()->get_host_port()` of its handshake. The buffer for what goes out is taken to be large
enough, and the logging is left out.
-/

namespace MicroserviceCommon

open Infra

/-- Only a binary message gets the handle. -/
structure WebsocketServerRequest extends FramedRequest where
  connectHandler : Option Nat := none
  deriving DecidableEq, Repr

/-- A call of `callbackConnectionEstablished`. -/
structure PresenceCall where
  observer : Nat
  established : Bool
  connId : TConnectionId
  deriving DecidableEq, Repr

structure WebsocketServer where
  connId : TConnectionId := 0
  observers : List Nat := []
  connectionEstablished : Bool := false
  connectionsIds : UnorderedMap String TConnectionId := UnorderedMap.empty
  handleOfFirstConnection : Option Nat := none

namespace WebsocketServer

variable (s : WebsocketServer)

def addObserver (observer : Nat) : WebsocketServer :=
  { s with observers := s.observers ++ [observer] }

/-- All observers are told. -/
def presenceCalls (established : Bool) : List PresenceCall :=
  s.observers.map fun observer =>
    { observer := observer, established := established, connId := s.connId }

/-- `id` is what `generateConnectionId` returned. `insert` keeps an id that is there. -/
def callbackOnOpenHandle (handler : Nat) (hostPort : String) (id : TConnectionId) :
    WebsocketServer × List PresenceCall :=
  ({ s with
      connectionsIds := s.connectionsIds.insert hostPort id
      connectionEstablished := true
      handleOfFirstConnection := some handler },
    s.presenceCalls true)

/-- The handler is only printed. -/
def callbackOnCloseHandle : WebsocketServer × List PresenceCall :=
  ({ s with connectionEstablished := false }, s.presenceCalls false)

def callbackOnFail : WebsocketServer × List PresenceCall :=
  ({ s with connectionEstablished := false }, s.presenceCalls false)

/-- What the iterator gives. It is dereferenced for a binary message only. -/
def foundId (hostPort : String) (opcode : Opcode) : Option TConnectionId :=
  if opcode = .binary then s.connectionsIds hostPort else some 0

/-- The request that is made of a message, if any. The outer `none` is the exception of `assign`, or
the iterator at the end of the map. -/
def incomingRequest (handler : Nat) (hostPort : String) (opcode : Opcode) (payload : Buffer) :
    Option (Option WebsocketServerRequest) :=
  (s.foundId hostPort opcode).bind fun connectionId =>
    match (MicroserviceCommon.callbackIncomingMessage connectionId opcode payload).value with
    | .request r =>
      some (some
        { toFramedRequest := r, connectHandler := if opcode = .binary then some handler else none })
    | .response _ | .ignored => some none
    | .lengthError => none

/-- The calls of `callbackNetworkRequest`. -/
def callbackIncomingMessage (handler : Nat) (hostPort : String) (opcode : Opcode)
    (payload : Buffer) : Option (List (Nat × WebsocketServerRequest)) :=
  (s.incomingRequest handler hostPort opcode payload).map fun request =>
    match request with
    | none => []
    | some r => s.observers.map fun observer => (observer, r)

/-- The header of a new request is the default one. -/
def getRequestInstance : WebsocketServerRequest :=
  { incomingMessage := [], connectHandler := s.handleOfFirstConnection }

end WebsocketServer

/-- The frames that are sent, each with its connection. The exception of a connection that is not
open is caught. -/
def WebsocketServerRequest.setOutcomingMessage (s : WebsocketServer) (opened : List Nat)
    (r : WebsocketServerRequest) (msg : List UInt8) (padding : Vector UInt8 7) :
    List (Nat × List UInt8) :=
  if s.connectionEstablished then
    (r.connectHandler.filter (· ∈ opened)).toList.map fun handler =>
      (handler, sendAsyncRequest { header := r.header, msg := msg } padding)
  else []

/-! ## The calls for a message -/

/-- A binary message becomes a request with the id that was found, or its length is refused. A text
message becomes a request without an id. -/
theorem callbackIncomingMessage_value (connectionId : TConnectionId) (opcode : Opcode)
    (payload : Buffer) :
    opcode = .other ∧ (callbackIncomingMessage connectionId opcode payload).value = .ignored ∨
    opcode = .binary ∧
      (callbackIncomingMessage connectionId opcode payload).value = .lengthError ∨
    ∃ r, (callbackIncomingMessage connectionId opcode payload).value = .request r ∧
      (opcode = .binary ∧ r.connectionId = connectionId ∨
        opcode = .text ∧ r.connectionId = 0) := by
  cases opcode with
  | binary =>
    refine Or.inr ?_
    rw [callbackIncomingMessage, Traced.value_bind]
    split
    · exact Or.inl ⟨rfl, rfl⟩
    · exact Or.inr ⟨_, rfl, Or.inl ⟨rfl, rfl⟩⟩
  | text => exact Or.inr (Or.inr ⟨_, rfl, Or.inr ⟨rfl, rfl⟩⟩)
  | other => exact Or.inl ⟨rfl, rfl⟩

namespace WebsocketServer

variable {s : WebsocketServer} {handler : Nat} {hostPort : String} {opcode : Opcode}
  {payload : Buffer}

theorem incomingRequest_eq_some {request : Option WebsocketServerRequest}
    (h : s.incomingRequest handler hostPort opcode payload = some request) :
    opcode = .other ∧ request = none ∨ ∃ r, request = some r ∧
      (opcode = .binary ∧ s.connectionsIds hostPort = some r.connectionId ∨
        opcode = .text ∧ r.connectionId = 0) := by
  obtain ⟨connectionId, hid, hrequest⟩ := Option.bind_eq_some_iff.mp h
  rcases callbackIncomingMessage_value connectionId opcode payload with
    ⟨rfl, hvalue⟩ | ⟨rfl, hvalue⟩ | ⟨r, hvalue, hr⟩
  · rw [hvalue] at hrequest
    exact Or.inl ⟨rfl, (Option.some.inj hrequest).symm⟩
  · rw [hvalue] at hrequest
    cases hrequest
  · rw [hvalue] at hrequest
    refine Or.inr ⟨_, (Option.some.inj hrequest).symm, hr.imp_left ?_⟩
    rintro ⟨rfl, hfound⟩
    exact ⟨rfl, hid.trans (congrArg some hfound.symm)⟩

/-- **Every observer is called with one request, unless the kind of the message is unknown.** -/
theorem callbackIncomingMessage_eq_some {calls : List (Nat × WebsocketServerRequest)}
    (h : s.callbackIncomingMessage handler hostPort opcode payload = some calls) :
    opcode = .other ∧ calls = [] ∨ ∃ r : WebsocketServerRequest,
      calls = s.observers.map (fun observer => (observer, r)) ∧
        (opcode = .binary ∧ s.connectionsIds hostPort = some r.connectionId ∨
          opcode = .text ∧ r.connectionId = 0) := by
  obtain ⟨request, hrequest, rfl⟩ := Option.map_eq_some_iff.mp h
  rcases incomingRequest_eq_some hrequest with ⟨hother, rfl⟩ | ⟨r, rfl, hr⟩
  · exact Or.inl ⟨hother, rfl⟩
  · exact Or.inr ⟨r, rfl, hr⟩

end WebsocketServer

/-! ## A server and its clients -/

/-- A request in the hands of an observer, with the message it came from. -/
structure DeliveredRequest where
  observer : Nat
  connection : Nat
  opcode : Opcode
  request : WebsocketServerRequest
  deriving DecidableEq, Repr

/-- The requests of the calls for one message. -/
def deliveredRequests (connection : Nat) (opcode : Opcode)
    (calls : List (Nat × WebsocketServerRequest)) : List DeliveredRequest :=
  calls.map fun (observer, request) =>
    { observer := observer, connection := connection, opcode := opcode, request := request }

/-- `opened` are the open connections, the earliest first. `successions` are the pairs of a closed
connection and one that was opened later. -/
structure WebsocketSystem where
  gateway : CommunicationGatewayFacade
  server : WebsocketServer
  opened : List Nat := []
  closed : List Nat := []
  failed : List Nat := []
  successions : List (Nat × Nat) := []
  delivered : List DeliveredRequest := []
  presence : List PresenceCall := []

inductive WebsocketEvent where
  | open (connection : Nat)
  | close (connection : Nat)
  | fail (connection : Nat)
  | message (connection : Nat) (opcode : Opcode) (payload : Buffer)
  | gateway (op : GatewayOp)

namespace WebsocketSystem

/-- The connection did not have an event before. -/
def Fresh (s : WebsocketSystem) (connection : Nat) : Prop :=
  connection ∉ s.opened ∧ connection ∉ s.closed ∧ connection ∉ s.failed

instance (s : WebsocketSystem) (connection : Nat) : Decidable (s.Fresh connection) :=
  inferInstanceAs (Decidable (_ ∧ _ ∧ _))

/-- A connection is opened or fails once, and has messages and a close only while it is open. -/
def step (hostPort : Nat → String) (s : WebsocketSystem) : WebsocketEvent → Option WebsocketSystem
  | .open c =>
    if s.Fresh c then
      s.gateway.getConnectionId.map fun (id, gateway) =>
        let (server, calls) := s.server.callbackOnOpenHandle c (hostPort c) id
        { s with
          gateway := gateway
          server := server
          opened := s.opened ++ [c]
          successions := s.successions ++ s.closed.map fun before => (before, c)
          presence := s.presence ++ calls }
    else none
  | .close c =>
    if c ∈ s.opened then
      let (server, calls) := s.server.callbackOnCloseHandle
      some { s with
        server := server
        opened := s.opened.erase c
        closed := s.closed ++ [c]
        presence := s.presence ++ calls }
    else none
  | .fail c =>
    if s.Fresh c then
      let (server, calls) := s.server.callbackOnFail
      some { s with
        server := server
        failed := s.failed ++ [c]
        presence := s.presence ++ calls }
    else none
  | .message c opcode payload =>
    if c ∈ s.opened then
      (s.server.callbackIncomingMessage c (hostPort c) opcode payload).map fun calls =>
        { s with delivered := s.delivered ++ deliveredRequests c opcode calls }
    else none
  | .gateway op => (s.gateway.step op).map fun gateway => { s with gateway := gateway }

/-! ### What a step leaves -/

variable {hostPort : Nat → String} {s s' : WebsocketSystem} {c : Nat}

theorem step_open (h : s.step hostPort (.open c) = some s') :
    s.Fresh c ∧ ∃ id gateway, s.gateway.getConnectionId = some (id, gateway) ∧
      s' = { s with
        gateway := gateway
        server := (s.server.callbackOnOpenHandle c (hostPort c) id).1
        opened := s.opened ++ [c]
        successions := s.successions ++ s.closed.map fun before => (before, c)
        presence := s.presence ++ s.server.presenceCalls true } := by
  rw [step] at h
  split at h
  · next hfresh =>
    obtain ⟨⟨id, gateway⟩, hid, rfl⟩ := Option.map_eq_some_iff.mp h
    exact ⟨hfresh, id, gateway, hid, rfl⟩
  · cases h

theorem step_close (h : s.step hostPort (.close c) = some s') :
    c ∈ s.opened ∧ s' = { s with
      server := s.server.callbackOnCloseHandle.1
      opened := s.opened.erase c
      closed := s.closed ++ [c]
      presence := s.presence ++ s.server.presenceCalls false } := by
  rw [step] at h
  split at h
  · next hopened =>
    cases h
    exact ⟨hopened, rfl⟩
  · cases h

theorem step_fail (h : s.step hostPort (.fail c) = some s') :
    s.Fresh c ∧ s' = { s with
      server := s.server.callbackOnFail.1
      failed := s.failed ++ [c]
      presence := s.presence ++ s.server.presenceCalls false } := by
  rw [step] at h
  split at h
  · next hfresh =>
    cases h
    exact ⟨hfresh, rfl⟩
  · cases h

theorem step_message {opcode : Opcode} {payload : Buffer}
    (h : s.step hostPort (.message c opcode payload) = some s') :
    c ∈ s.opened ∧ ∃ calls,
      s.server.callbackIncomingMessage c (hostPort c) opcode payload = some calls ∧
      s' = { s with delivered := s.delivered ++ deliveredRequests c opcode calls } := by
  rw [step] at h
  split at h
  · next hopened =>
    obtain ⟨calls, hcalls, rfl⟩ := Option.map_eq_some_iff.mp h
    exact ⟨hopened, calls, hcalls, rfl⟩
  · cases h

theorem step_gateway {op : GatewayOp} (h : s.step hostPort (.gateway op) = some s') :
    ∃ gateway, s.gateway.step op = some gateway ∧ s' = { s with gateway := gateway } := by
  obtain ⟨gateway, hop, rfl⟩ := Option.map_eq_some_iff.mp h
  exact ⟨gateway, hop, rfl⟩

end WebsocketSystem

end MicroserviceCommon
