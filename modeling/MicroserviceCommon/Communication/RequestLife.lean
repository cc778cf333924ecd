import MicroserviceCommon.Communication.Requests

/-!
# The life of an AMQP request object

One `AmqpRequest` of a requester is used for one request after the other. Beside the object stands
what happened to the request that was sent last.
-/

namespace MicroserviceCommon

namespace AEnvironmentRequest

def isTimeouted (r : AEnvironmentRequest) : Bool := r.timeouted

def isPerforming (r : AEnvironmentRequest) : Bool := r.correlationId != ""

end AEnvironmentRequest

/-- `sendMessageAsync` with the object that it leaves. A requester writes down the time and the
id. -/
def RoutedAmqpRequest.performAsync (env : SendEnvironment) (c : AmqpClient)
    (r : RoutedAmqpRequest) (msg : String) : Except Failure (AmqpClient × RoutedAmqpRequest) :=
  (r.sendMessageAsync env c msg).map fun (c, _) =>
    (c, if r.correlationId = "" then
        { r with requestTimeMillisec := env.now, correlationId := env.uniqueId }
      else r)

/-- What became of the latest request. It times out at a check that comes too late. -/
inductive RequestFate where
  | unsent
  | outstanding (corrId : TCorrelationId) (sentAt : Int64)
  | collected
  | timedOut
  deriving DecidableEq, Repr

namespace RequestFate

def isOutstanding : RequestFate → Bool
  | outstanding _ _ => true
  | unsent | collected | timedOut => false

/-- More milliseconds have passed than the expiration has. -/
def expired (expirationSec : Int32) (sentAt now : Int64) : Bool :=
  decide (expirationSec.toInt * 1000 < now.toInt - sentAt.toInt)

/-- The id of an outstanding request that a check at this time gives up. -/
def givenUp (expirationSec : Int32) (now : Int64) : RequestFate → Option TCorrelationId
  | outstanding corrId sentAt => if expired expirationSec sentAt now then some corrId else none
  | unsent | collected | timedOut => none

end RequestFate

/-- The object, its client and the history. `ready` is the answer of the last check, and
`timedOutIds` are the ids of the requests that have timed out. -/
structure RequestLife where
  client : AmqpClient := {}
  request : RoutedAmqpRequest := {}
  ready : Bool := false
  latest : RequestFate := .unsent
  timedOutIds : List TCorrelationId := []

/-- The calls on the object, and the messages that its client polls. -/
inductive LifeAction where
  | sendMessageAsync (env : SendEnvironment) (msg : String)
  | checkResponseReadyness (now : Int64)
  | getAsyncResponse
  | poll (envelope : Option Envelope)
  deriving DecidableEq, Repr

namespace RequestLife

def checkResponseReadyness (s : RequestLife) (now : Int64) : RequestLife :=
  let (client, request, ready) := s.request.toAmqpRequest.checkResponseReadyness now s.client
  let givenUp := s.latest.givenUp s.client.deliveredMessageExpirationSec now
  { client := client
    request := { s.request with toAmqpRequest := request }
    ready := ready
    latest := if givenUp.isSome then .timedOut else s.latest
    timedOutIds := s.timedOutIds ++ givenUp.toList }

/-- `getAsyncResponse` is called after readiness was reported. `none` is a failed `assert`. -/
def step (s : RequestLife) : LifeAction → Option RequestLife
  | .sendMessageAsync env msg =>
    match s.request.performAsync env s.client msg with
    | .error _ => none
    | .ok (client, request) =>
      some { s with
        client := client
        request := request
        ready := false
        latest := .outstanding env.uniqueId env.now }
  | .checkResponseReadyness now => some (s.checkResponseReadyness now)
  | .getAsyncResponse =>
    if s.ready then
      (s.request.toAmqpRequest.getAsyncResponse s.client).map fun (_, client, request) =>
        { s with
          client := client
          request := { s.request with toAmqpRequest := request }
          ready := false
          latest := .collected }
    else none
  | .poll envelope => some { s with client := (s.client.poll envelope).client }

/-- A new object of a controller with this route. -/
def start (connId : TConnectionId) (expirationSec : Int32) (route : SAmqpRouteParameters) :
    RequestLife where
  client := { connId := connId, deliveredMessageExpirationSec := expirationSec }
  request := { routingTarget := some route }

end RequestLife

end MicroserviceCommon
