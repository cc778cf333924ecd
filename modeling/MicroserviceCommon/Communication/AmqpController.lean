import MicroserviceCommon.Communication.Requests

/-!
# `AmqpController`

The check of a route and its declaration at the broker, and the blocked call of `AmqpRequest`, which
composes the same reply-to as `sendMessageAsync`.
-/

namespace MicroserviceCommon

open Infra

namespace AmqpClient

/-- `sendPackageBlocked` up to the wait: the client and what was published. -/
def sendPackageBlocked (c : AmqpClient) (msg corrId exchangeName routingName replyTo : String) :
    AmqpClient × Transmission :=
  (c.beginBlocked corrId,
    { peer := .amqp (cStr exchangeName) (cStr routingName)
      body := msg
      correlationId := cStr corrId
      replyTo := cStr replyTo
      expiration := toString (c.deliveredMessageExpirationSec * 1000).toInt })

end AmqpClient

/-- The blocked mode. The response is taken by `endBlocked`. -/
def RoutedAmqpRequest.setOutcomingMessage (env : SendEnvironment) (c : AmqpClient)
    (r : RoutedAmqpRequest) (msg : String) : Except Failure (AmqpClient × Transmission) :=
  match r.routingTarget with
  | none => .error .nullDereference
  | some route =>
    let replyTo := route.predatorExchangePointName ++
      String.singleton AmqpClient.replyToDelimeter ++ route.predatorRoutingKeyName
    .ok (c.sendPackageBlocked msg env.uniqueId route.targetExchangePointName
      route.targetRoutingKeyName replyTo)

/-- What the client answers to the declarations, and its `m_lastError` when it refuses one. -/
structure RouteDeclarations where
  createExchangePoint : String → Except String Unit
  createMailbox : String → String → String → Except String Unit

namespace AmqpController

inductive RouteError where
  | prohibitedDelimeter
  | client (lastError : String)
  deriving DecidableEq, Repr

/-- `m_state.lastError` -/
def RouteError.lastError : RouteError → String
  | prohibitedDelimeter =>
    "symbol [" ++ String.singleton AmqpClient.replyToDelimeter ++ "] is prohibited in amqp routes"
  | client lastError => lastError

/-- `_name.find( AmqpClient::REPLY_TO_DELIMETER ) != string::npos` -/
def hasDelimeter (name : String) : Bool :=
  (findChar name AmqpClient.replyToDelimeter).isSome

/-- The same name is asked six times. -/
def configureRoute (client : RouteDeclarations) (route : SAmqpRouteParameters) :
    Except RouteError Unit := do
  if hasDelimeter route.predatorExchangePointName
      && hasDelimeter route.predatorExchangePointName
      && hasDelimeter route.predatorExchangePointName
      && hasDelimeter route.predatorExchangePointName
      && hasDelimeter route.predatorExchangePointName
      && hasDelimeter route.predatorExchangePointName then
    throw .prohibitedDelimeter
  (client.createExchangePoint route.predatorExchangePointName).mapError .client
  (client.createMailbox route.predatorExchangePointName route.predatorQueueName
    route.predatorRoutingKeyName).mapError .client
  if route.targetExchangePointName ≠ "" then
    (client.createExchangePoint route.targetExchangePointName).mapError .client

/-- A request of the controller has the route that the controller was inited with. -/
def getRequestInstance (route : SAmqpRouteParameters) : RoutedAmqpRequest where
  routingTarget := some route

end AmqpController

end MicroserviceCommon
