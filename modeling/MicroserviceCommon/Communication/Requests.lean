import MicroserviceCommon.Infra.Bson
import MicroserviceCommon.Infra.Substring
import MicroserviceCommon.Communication.Amqp
import MicroserviceCommon.Communication.WebsocketServer

/-!
# Requests and their responses

The requests that the transports hand to the gateway, and `ICommandExternal::sendResponse`. It calls
two virtual functions of a request. A class that does not override one of them has the function of
`AEnvironmentRequest`.

The logging is left out, and the C++ objects behind a request are known by numbers.
-/

namespace MicroserviceCommon

open Infra

/-! ## Results -/

/-- Why a call does not return. `notImplemented` is the `assert( false )` of `AEnvironmentRequest`,
`foreignObject` a `static_cast` to another class than that of the object. -/
inductive Failure where
  | assertion | notImplemented | nullDereference | outOfRange | foreignObject
  deriving DecidableEq, Repr

/-- Where a message is sent. -/
inductive Peer where
  | amqp (exchangeName routingName : String)
  | http (connection : Nat)
  | websocket (connection : Nat)
  | shell (socketDscr : Int32)
  deriving DecidableEq, Repr

/-- A message that was handed to a transport, whatever comes of it: over AMQP one call of
`amqp_basic_publish`. The correlation id, the reply-to and the expiration are properties of AMQP. -/
structure Transmission where
  peer : Peer
  body : String
  correlationId : String := ""
  replyTo : String := ""
  expiration : String := ""
  deriving DecidableEq, Repr

/-- The object behind the `void *` of `setUserData`. -/
inductive UserObject where
  | route (parameters : SAmqpRouteParameters)
  | httpCode (code : Int32)
  deriving DecidableEq, Repr

/-- What the calls out of the program give: the clock, `generateUniqueId` and whether
`amqp_basic_publish` succeeds. -/
structure SendEnvironment where
  now : Int64
  uniqueId : TCorrelationId
  published : Bool := true
  deriving DecidableEq, Repr

/-! ## AMQP -/

namespace AmqpClient

def replyToDelimeter : Char := '%'

/-- The flag that it returns is not looked at. `published` tells whether `amqp_basic_publish`
succeeded, which is called in either case. -/
def sendPackageAsync (published : Bool) (c : AmqpClient)
    (msg corrId exchangeName routingName replyTo : String) :
    Except Failure (AmqpClient × List Transmission) :=
  if msg = "" ∨ corrId = "" ∨ exchangeName = "" ∨ routingName = "" then .error .assertion
  else
    .ok (if published then c.registerAsync corrId else c,
      [{ peer := .amqp (cStr exchangeName) (cStr routingName)
         body := msg
         correlationId := cStr corrId
         replyTo := cStr replyTo
         expiration := toString (c.deliveredMessageExpirationSec * 1000).toInt }])

end AmqpClient

structure RoutedAmqpRequest extends AmqpRequest where
  routingTarget : Option SAmqpRouteParameters := none
  deriving DecidableEq, Repr

namespace RoutedAmqpRequest

def setUserData (r : RoutedAmqpRequest) : Option UserObject → Except Failure RoutedAmqpRequest
  | none => .ok { r with routingTarget := none }
  | some (.route parameters) => .ok { r with routingTarget := some parameters }
  | some (.httpCode _) => .error .foreignObject

/-- The exchange and the routing key that a replier takes out of the reply-to. The successor of
`npos` is 0. -/
def replyAddress (replyTo : String) : Option (String × String) :=
  match findChar replyTo AmqpClient.replyToDelimeter with
  | some i => do
    let ep ← substr replyTo 0 i
    let rk ← substr replyTo (i + 1) (replyTo.length - i)
    return (ep, rk)
  | none => do
    let ep ← substr replyTo 0 replyTo.length
    let rk ← substr replyTo 0 (replyTo.length + 1)
    return (ep, rk)

/-- A request without a correlation id is taken for one of this side. -/
def sendMessageAsync (env : SendEnvironment) (c : AmqpClient) (r : RoutedAmqpRequest)
    (msg : String) : Except Failure (AmqpClient × List Transmission) :=
  if r.correlationId = "" then
    match r.routingTarget with
    | none => .error .nullDereference
    | some route =>
      let replyTo := route.predatorExchangePointName ++
        String.singleton AmqpClient.replyToDelimeter ++ route.predatorRoutingKeyName
      c.sendPackageAsync env.published msg env.uniqueId route.targetExchangePointName
        route.targetRoutingKeyName replyTo
  else
    match replyAddress r.replyTo with
    | none => .error .outOfRange
    | some (ep, rk) => c.sendPackageAsync env.published msg r.correlationId ep rk "i_am_replier"

end RoutedAmqpRequest

/-! ## The other transports -/

/-- `httpCode` is not initialised. -/
structure WebserverRequest extends AEnvironmentRequest where
  mongooseConnection : Nat
  incomingQueryString : String
  httpCode : Int32
  deriving DecidableEq, Repr

/-- The pointer is dereferenced whatever it is. -/
def WebserverRequest.setUserData (r : WebserverRequest) :
    Option UserObject → Except Failure WebserverRequest
  | none => .error .nullDereference
  | some (.httpCode code) => .ok { r with httpCode := code }
  | some (.route _) => .error .foreignObject

structure ShellRequest extends AEnvironmentRequest where
  clientSocketDscr : Int32 := 0
  clientModeInitiative : Bool := false
  deriving DecidableEq, Repr

/-- A request of one of the four classes. -/
inductive GatewayRequest where
  | amqp (r : RoutedAmqpRequest)
  | webserver (r : WebserverRequest)
  | websocket (r : WebsocketServerRequest)
  | shell (r : ShellRequest)
  deriving DecidableEq, Repr

namespace GatewayRequest

/-- `WebsocketServerRequest` and `ShellRequest` inherit a function that does nothing. -/
def setUserData (data : Option UserObject) : GatewayRequest → Except Failure GatewayRequest
  | amqp r => (r.setUserData data).map amqp
  | webserver r => (r.setUserData data).map webserver
  | websocket r => .ok (websocket r)
  | shell r => .ok (shell r)

/-- Only `AmqpRequest` overrides it. -/
def sendMessageAsync (env : SendEnvironment) (c : AmqpClient) (msg : String) :
    GatewayRequest → Except Failure (AmqpClient × List Transmission)
  | amqp r => r.sendMessageAsync env c msg
  | webserver _ | websocket _ | shell _ => .error .notImplemented

end GatewayRequest

/-- `m_request` is set. The client is the one of the AMQP requests. -/
def ICommandExternal.sendResponse (env : SendEnvironment) (c : AmqpClient)
    (request : GatewayRequest) (outcomingMessage : String) (userData : Option UserObject := none) :
    Except Failure (AmqpClient × List Transmission) := do
  let request ← request.setUserData userData
  request.sendMessageAsync env c outcomingMessage

/-! ## What reaches the gateway -/

/-- The parts of an `http_message` that are read. -/
structure HttpMessage where
  method : String
  uri : String
  queryString : String
  body : String
  deriving DecidableEq, Repr

/-- Something that a transport receives. `memory` is what `httpCode` held. -/
inductive Arrival where
  | amqp (envelope : Envelope)
  | http (connection : Nat) (message : HttpMessage) (memory : Int32)
  | websocket (connection : Nat) (hostPort : String) (opcode : Opcode) (payload : Buffer)
  | shell (socketDscr : Int32) (message : String)

/-- The calls of `callbackNetworkRequest` for an envelope. -/
def AmqpClient.networkRequests (c : AmqpClient) (envelope : Envelope) :
    List (Nat × GatewayRequest) :=
  (c.poll (some envelope)).callbacks.map fun (observer, r) =>
    (observer, .amqp { toAmqpRequest := r })

/-- `commandConvertor` is a null pointer or an implementation of `getCommandFromHTTPRequest`. -/
structure WebServer where
  connId : TConnectionId := 0
  observers : List Nat := []
  commandConvertor : Option (HttpMessage → String) := none

namespace WebServer

def addObserver (w : WebServer) (observer : Nat) : WebServer :=
  { w with observers := w.observers ++ [observer] }

/-- `none` is the convertor that is a null pointer. -/
def incomingRequest (w : WebServer) (connection : Nat) (message : HttpMessage) (memory : Int32) :
    Option WebserverRequest :=
  w.commandConvertor.map fun getCommandFromHTTPRequest =>
    { connectionId := w.connId
      incomingMessage := getCommandFromHTTPRequest message
      mongooseConnection := connection
      incomingQueryString := message.queryString
      httpCode := memory }

def networkRequests (w : WebServer) (connection : Nat) (message : HttpMessage) (memory : Int32) :
    List (Nat × GatewayRequest) :=
  match w.incomingRequest connection message memory with
  | none => []
  | some r => w.observers.map fun observer => (observer, .webserver r)

end WebServer

/-- A message that does not return is no call. -/
def WebsocketServer.networkRequests (s : WebsocketServer) (connection : Nat) (hostPort : String)
    (opcode : Opcode) (payload : Buffer) : List (Nat × GatewayRequest) :=
  ((s.callbackIncomingMessage connection hostPort opcode payload).getD []).map
    fun (observer, r) => (observer, .websocket r)

/-- The server side, which reads without a size. -/
structure Shell where
  connId : TConnectionId := 0
  observers : List Nat := []
  deriving DecidableEq, Repr

namespace Shell

def addObserver (s : Shell) (observer : Nat) : Shell :=
  { s with observers := s.observers ++ [observer] }

/-- The loop ends at the first entry that it erases. -/
def removeObserver (s : Shell) (observer : Nat) : Shell :=
  { s with observers := s.observers.erase observer }

def incomingRequest (s : Shell) (socketDscr : Int32) (message : String) : ShellRequest where
  connectionId := s.connId
  incomingMessage := message
  clientSocketDscr := socketDscr

/-- Nothing was read when the message is empty. -/
def networkRequests (s : Shell) (socketDscr : Int32) (message : String) :
    List (Nat × GatewayRequest) :=
  if message = "" then []
  else s.observers.map fun observer => (observer, .shell (s.incomingRequest socketDscr message))

end Shell

/-- The transports of a gateway. -/
structure Transports where
  amqpClient : AmqpClient := {}
  webServer : WebServer := {}
  websocketServer : WebsocketServer := {}
  shell : Shell := {}

/-- The calls of `callbackNetworkRequest`. -/
def Transports.callbacks (t : Transports) : Arrival → List (Nat × GatewayRequest)
  | .amqp envelope => t.amqpClient.networkRequests envelope
  | .http connection message memory => t.webServer.networkRequests connection message memory
  | .websocket connection hostPort opcode payload =>
    t.websocketServer.networkRequests connection hostPort opcode payload
  | .shell socketDscr message => t.shell.networkRequests socketDscr message

/-! ## The address of a reply -/

open RoutedAmqpRequest AmqpClient

/-- **A replier takes the two sides of the first delimiter.** -/
theorem replyAddress_of_isDivision {replyTo ep rk : String}
    (h : IsDivision replyTo replyToDelimeter ep rk) : replyAddress replyTo = some (ep, rk) := by
  have hlength := length_of_isDivision h
  rw [replyAddress, findChar_of_isDivision h]
  show (substr replyTo 0 ep.length).bind _ = _
  rw [substr_before h, Option.bind_some]
  show (substr replyTo (ep.length + 1) (replyTo.length - ep.length)).bind _ = _
  rw [substr_behind h (by omega)]
  rfl

/-- **Without a delimiter the whole reply-to stands for both.** -/
theorem replyAddress_of_not_mem {replyTo : String} (h : replyToDelimeter ∉ replyTo.toList) :
    replyAddress replyTo = some (replyTo, replyTo) := by
  rw [replyAddress, findChar_of_not_mem h]
  show (substr replyTo 0 replyTo.length).bind _ = _
  rw [substr_all (le_refl _), Option.bind_some]
  show (substr replyTo 0 (replyTo.length + 1)).bind _ = _
  rw [substr_all (Nat.le_succ _)]
  rfl

end MicroserviceCommon
