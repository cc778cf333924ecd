import Mathlib.Logic.Function.Basic
import MicroserviceCommon.Communication.AmqpController
import MicroserviceCommon.Infra.Broker
import MicroserviceCommon.Infra.Run

/-!
# Services on one broker

Any number of services, each with an `AmqpClient`, its mailboxes and the requests of its
`AmqpController`s. A request goes through the broker to the mailboxes of its target, and the answer
to the mailboxes of the route it came from. The broker is a parameter.

* A package is published and registered in two steps. `m_muSendAsync` is held between them.
* A generated correlation id was never generated before.
* The consumers acknowledge nothing (`no_ack` of `createMailbox`), so no message is delivered again.
* A publish that fails leaves no trace.

`questions`, `handed` and `answers` are the history of the network.
-/

namespace MicroserviceCommon

open Infra

/-! ## Topologies -/

namespace SAmqpRouteParameters

/-- Where the route receives. -/
def address (r : SAmqpRouteParameters) : String × String :=
  (r.predatorExchangePointName, r.predatorRoutingKeyName)

/-- Where the route sends, as the names reach the broker. -/
def target (r : SAmqpRouteParameters) : String × String :=
  (cStr r.targetExchangePointName, cStr r.targetRoutingKeyName)

/-- The names that `configureRoute` and C strings carry unchanged. -/
structure Readable (r : SAmqpRouteParameters) : Prop where
  delimeter : AmqpClient.replyToDelimeter ∉ r.predatorExchangePointName.toList
  exchange : NulFree r.predatorExchangePointName
  queue : NulFree r.predatorQueueName
  routingKey : NulFree r.predatorRoutingKeyName

end SAmqpRouteParameters

/-- The reply-to of an answer. -/
def replyToDummy : String := "i_am_replier"

/-- The routes of the services `π`. No two services share a mailbox, none sends to itself, and none
receives where the answer to an answer would go. -/
structure Topology (π : Type*) where
  routes : π → List SAmqpRouteParameters
  readable : ∀ p, ∀ r ∈ routes p, r.Readable
  queue_owner : ∀ p, ∀ r ∈ routes p, ∀ q, ∀ r' ∈ routes q,
    r.predatorQueueName = r'.predatorQueueName → p = q
  address_owner : ∀ p, ∀ r ∈ routes p, ∀ q, ∀ r' ∈ routes q, r.address = r'.address →
    p = q ∧ r.predatorQueueName = r'.predatorQueueName
  target_foreign : ∀ p, ∀ r ∈ routes p, ∀ r' ∈ routes p, r.target ≠ r'.address
  dummy_unused : ∀ p, ∀ r ∈ routes p, r.address ≠ (replyToDummy, replyToDummy)

/-- The service receives what is sent to this address. -/
def Topology.Owns {π : Type*} (t : Topology π) (p : π) (address : String × String) : Prop :=
  ∃ r ∈ t.routes p, r.address = address

/-! ## States -/

/-- A message with the exchange and the routing key it was published with. `answer` is true for the
package of a replier. -/
structure Letter (π : Type*) extends Envelope where
  exchange : String
  routingKey : String
  sender : π
  answer : Bool
  deriving DecidableEq

structure Question (π : Type*) where
  asker : π
  route : SAmqpRouteParameters
  correlationId : TCorrelationId
  body : String
  deriving DecidableEq

/-- A request that the observers of a service got, and the letter it was made of. -/
structure Handed (π : Type*) where
  receiver : π
  request : AmqpRequest
  letter : Letter π
  deriving DecidableEq

structure Answer (π : Type*) where
  replier : π
  correlationId : TCorrelationId
  body : String
  deriving DecidableEq

/-- `sending` holds `m_muSendAsync` of the service between publish and registration. -/
structure AmqpNetwork {π : Type*} (B : Broker String (Letter π)) where
  broker : B.State := B.start
  consumers : π → List String := fun _ => []
  client : π → AmqpClient
  sending : π → Option TCorrelationId := fun _ => none
  questions : List (Question π) := []
  handed : List (Handed π) := []
  answers : List (Answer π) := []

inductive NetworkAction (π : Type*) where
  | createMailbox (p : π) (route : SAmqpRouteParameters)
  | ask (p : π) (route : SAmqpRouteParameters) (uniqueId : TCorrelationId) (msg : String)
  | answer (h : Handed π) (msg : String)
  | register (p : π)
  | poll (p : π) (queue : String)
  | check (p : π) (request : AmqpRequest) (now : Int64)
  | collect (p : π) (request : AmqpRequest)
  | expire (i : Nat)

namespace AmqpNetwork

variable {π : Type*} [DecidableEq π] {B : Broker String (Letter π)}

/-! ## Steps -/

def setClient (s : AmqpNetwork B) (p : π) (c : AmqpClient) : AmqpNetwork B :=
  { s with client := Function.update s.client p c }

/-- `createMailbox` of `configureRoute`: the queue is bound and consumed. -/
def createMailbox (s : AmqpNetwork B) (p : π) (route : SAmqpRouteParameters) : AmqpNetwork B :=
  { s with
    broker := B.bind s.broker
      { exchange := cStr route.predatorExchangePointName
        routingKey := cStr route.predatorRoutingKeyName
        queue := cStr route.predatorQueueName }
    consumers := Function.update s.consumers p (s.consumers p ++ [cStr route.predatorQueueName]) }

def publish (s : AmqpNetwork B) (letter : Letter π) : AmqpNetwork B :=
  { s with broker := B.publish s.broker letter.exchange letter.routingKey letter }

def post (s : AmqpNetwork B) (p : π) (answer : Bool) (t : Transmission) : AmqpNetwork B :=
  match t.peer with
  | .amqp exchange routingKey =>
    s.publish
      { correlationId := t.correlationId
        replyTo := t.replyTo
        body := t.body
        exchange := exchange
        routingKey := routingKey
        sender := p
        answer := answer }
  | .http _ | .websocket _ | .shell _ => s

/-- What one package leaves at the broker. The client is registered later. -/
def send (s : AmqpNetwork B) (p : π) (answer : Bool) (uniqueId : TCorrelationId)
    (r : RoutedAmqpRequest) (msg : String) : Option (AmqpNetwork B) :=
  match r.sendMessageAsync { now := 0, uniqueId := uniqueId } (s.client p) msg with
  | .error _ => none
  | .ok (_, transmissions) => some (transmissions.foldl (fun s t => s.post p answer t) s)

def ask (s : AmqpNetwork B) (p : π) (route : SAmqpRouteParameters) (uniqueId : TCorrelationId)
    (msg : String) : Option (AmqpNetwork B) :=
  (s.send p false uniqueId (AmqpController.getRequestInstance route) msg).map fun s =>
    { s with
      sending := Function.update s.sending p (some uniqueId)
      questions := s.questions ++
        [{ asker := p, route := route, correlationId := uniqueId, body := msg }] }

/-- A request that was handed out is answered. -/
def answer (s : AmqpNetwork B) (h : Handed π) (msg : String) : Option (AmqpNetwork B) :=
  (s.send h.receiver true "" { toAmqpRequest := h.request } msg).map fun s =>
    { s with
      sending := Function.update s.sending h.receiver (some h.request.correlationId)
      answers := s.answers ++
        [{ replier := h.receiver, correlationId := h.request.correlationId, body := msg }] }

def register (s : AmqpNetwork B) (p : π) (corrId : TCorrelationId) : AmqpNetwork B :=
  { s.setClient p ((s.client p).registerAsync corrId) with
    sending := Function.update s.sending p none }

/-- The broker handed over the letter. All observers get the same request. -/
def consume (s : AmqpNetwork B) (p : π) (letter : Letter π) (broker : B.State) : AmqpNetwork B :=
  let result := (s.client p).poll (some letter.toEnvelope)
  { s.setClient p result.client with
    broker := broker
    handed :=
      match result.callbacks with
      | [] => s.handed
      | callback :: _ =>
        s.handed ++ [{ receiver := p, request := callback.2, letter := letter }] }

def step (t : Topology π) (s : AmqpNetwork B) : NetworkAction π → Option (AmqpNetwork B)
  | .createMailbox p route =>
    if route ∈ t.routes p then some (s.createMailbox p route) else none
  | .ask p route uniqueId msg =>
    if route ∈ t.routes p ∧ s.sending p = none ∧ NulFree uniqueId ∧
        uniqueId ∉ s.questions.map (·.correlationId) then
      s.ask p route uniqueId msg
    else none
  | .answer h msg => if h ∈ s.handed ∧ s.sending h.receiver = none then s.answer h msg else none
  | .register p => (s.sending p).map (s.register p)
  | .poll p queue =>
    if queue ∈ s.consumers p then
      match B.get s.broker queue with
      | none => some s
      | some (letter, broker) => some (s.consume p letter broker)
    else none
  | .check p request now =>
    some (s.setClient p (request.checkResponseReadyness now (s.client p)).1)
  | .collect p request =>
    (request.getAsyncResponse (s.client p)).map fun result => s.setClient p result.2.1
  | .expire i => some { s with broker := B.expire s.broker i }

/-- The settings and the observers are free, nothing was sent yet. -/
def start (B : Broker String (Letter π)) (connId : π → TConnectionId)
    (deliveredMessageExpirationSec : π → Int32) (observers : π → List Nat) : AmqpNetwork B where
  client p :=
    { connId := connId p
      deliveredMessageExpirationSec := deliveredMessageExpirationSec p
      observers := observers p }

end AmqpNetwork

end MicroserviceCommon
