import MicroserviceCommon.Communication.Requests

/-!
# `INetworkProvider`

The providers and their observers. `addObserver` is pure virtual, `removeObserver` has an empty
body that a class may override.
-/

namespace MicroserviceCommon

open Infra

/-- A controller and a splitter pass the calls on to the object that they were inited with. -/
inductive NetworkProvider where
  | amqpClient (c : AmqpClient)
  | amqpController (client : AmqpClient)
  | networkSplitter (realCommunicator : NetworkProvider)
  | webServer (w : WebServer)
  | websocketServer (s : WebsocketServer)
  | shell (s : Shell)

namespace NetworkProvider

def addObserver (observer : Nat) : NetworkProvider → NetworkProvider
  | amqpClient c => amqpClient (c.addObserver observer)
  | amqpController client => amqpController (client.addObserver observer)
  | networkSplitter real => networkSplitter (addObserver observer real)
  | webServer w => webServer (w.addObserver observer)
  | websocketServer s => websocketServer (s.addObserver observer)
  | shell s => shell (s.addObserver observer)

/-- Only `Shell` overrides the function with one that does something. -/
def removeObserver (observer : Nat) : NetworkProvider → NetworkProvider
  | shell s => shell (s.removeObserver observer)
  | networkSplitter real => networkSplitter (removeObserver observer real)
  | amqpClient c => amqpClient c
  | amqpController client => amqpController client
  | webServer w => webServer w
  | websocketServer s => websocketServer s

/-- The calls of `callbackNetworkRequest`. Nothing arrives by another transport. -/
def callbacks (arrival : Arrival) : NetworkProvider → List (Nat × GatewayRequest)
  | amqpClient c | amqpController c =>
    match arrival with
    | .amqp envelope => c.networkRequests envelope
    | _ => []
  | networkSplitter real => callbacks arrival real
  | webServer w =>
    match arrival with
    | .http connection message memory => w.networkRequests connection message memory
    | _ => []
  | websocketServer s =>
    match arrival with
    | .websocket connection hostPort opcode payload =>
      s.networkRequests connection hostPort opcode payload
    | _ => []
  | shell s =>
    match arrival with
    | .shell socketDscr message => s.networkRequests socketDscr message
    | _ => []

/-- The request that is made of what arrives. -/
def request? (arrival : Arrival) : NetworkProvider → Option GatewayRequest
  | amqpClient c | amqpController c =>
    match arrival with
    | .amqp envelope =>
      if (c.readyResponsesToAsyncMessages envelope.correlationId).isSome then none
      else some (.amqp { toAmqpRequest := c.incomingRequest envelope })
    | _ => none
  | networkSplitter real => request? arrival real
  | webServer w =>
    match arrival with
    | .http connection message memory =>
      (w.incomingRequest connection message memory).map .webserver
    | _ => none
  | websocketServer s =>
    match arrival with
    | .websocket connection hostPort opcode payload =>
      (s.incomingRequest connection hostPort opcode payload).join.map .websocket
    | _ => none
  | shell s =>
    match arrival with
    | .shell socketDscr message =>
      if message = "" then none else some (.shell (s.incomingRequest socketDscr message))
    | _ => none

/-! ## The list of the observers -/

/-- The list that the calls end up at. -/
def observers : NetworkProvider → List Nat
  | amqpClient c | amqpController c => c.observers
  | networkSplitter real => observers real
  | webServer w => w.observers
  | websocketServer s => s.observers
  | shell s => s.observers

/-- The calls end up at a class with a `removeObserver` of its own. -/
def Removes : NetworkProvider → Prop
  | shell _ => True
  | networkSplitter real => Removes real
  | amqpClient _ | amqpController _ | webServer _ | websocketServer _ => False

instance decidableRemoves : ∀ p : NetworkProvider, Decidable p.Removes
  | shell _ => isTrue trivial
  | networkSplitter real => decidableRemoves real
  | amqpClient _ | amqpController _ | webServer _ | websocketServer _ => isFalse id

/-- The provider with another list. -/
def withObservers (observers : List Nat) : NetworkProvider → NetworkProvider
  | amqpClient c => amqpClient { c with observers := observers }
  | amqpController client => amqpController { client with observers := observers }
  | networkSplitter real => networkSplitter (withObservers observers real)
  | webServer w => webServer { w with observers := observers }
  | websocketServer s => websocketServer { s with observers := observers }
  | shell s => shell { s with observers := observers }

variable {p : NetworkProvider}

@[simp] theorem observers_withObservers (l : List Nat) : (p.withObservers l).observers = l := by
  induction p with
  | networkSplitter real ih => exact ih
  | amqpClient c | amqpController c | webServer w | websocketServer s | shell s => rfl

@[simp] theorem removes_withObservers (l : List Nat) : (p.withObservers l).Removes ↔ p.Removes := by
  induction p with
  | networkSplitter real ih => exact ih
  | amqpClient c | amqpController c | webServer w | websocketServer s | shell s => rfl

theorem addObserver_eq (o : Nat) : p.addObserver o = p.withObservers (p.observers ++ [o]) := by
  induction p with
  | networkSplitter real ih => exact congrArg networkSplitter ih
  | amqpClient c | amqpController c | webServer w | websocketServer s | shell s => rfl

/-- **An observer is removed once, where removing is implemented.** -/
theorem removeObserver_eq (o : Nat) :
    p.removeObserver o =
      p.withObservers (if p.Removes then p.observers.erase o else p.observers) := by
  induction p with
  | networkSplitter real ih => exact congrArg networkSplitter ih
  | amqpClient c | amqpController c | webServer w | websocketServer s | shell s => rfl

@[simp] theorem request?_withObservers (arrival : Arrival) (l : List Nat) :
    (p.withObservers l).request? arrival = p.request? arrival := by
  induction p with
  | networkSplitter real ih => exact ih
  | amqpClient c | amqpController c | webServer w | websocketServer s | shell s => rfl

/-- **Every entry of the list gets the request.** -/
theorem callbacks_of_request {arrival : Arrival} {r : GatewayRequest}
    (h : p.request? arrival = some r) : p.callbacks arrival = p.observers.map (·, r) := by
  induction p with
  | networkSplitter real ih => exact ih h
  | amqpClient c | amqpController c =>
    cases arrival with
    | amqp envelope =>
      rw [request?] at h
      split at h
      · cases h
      · next hready =>
        cases h
        rw [Option.not_isSome_iff_eq_none] at hready
        show (c.poll (some envelope)).callbacks.map _ = c.observers.map _
        rw [poll_of_none hready, List.map_map]
        rfl
    | http _ _ _ | websocket _ _ _ _ | shell _ _ => cases h
  | webServer w =>
    cases arrival with
    | http connection message memory =>
      obtain ⟨request, hrequest, rfl⟩ := Option.map_eq_some_iff.mp h
      show w.networkRequests connection message memory = _
      rw [WebServer.networkRequests, hrequest]
      rfl
    | amqp _ | websocket _ _ _ _ | shell _ _ => cases h
  | websocketServer s =>
    cases arrival with
    | websocket connection hostPort opcode payload =>
      obtain ⟨request, hrequest, rfl⟩ := Option.map_eq_some_iff.mp h
      rw [Option.join_eq_some_iff] at hrequest
      show s.networkRequests connection hostPort opcode payload = _
      rw [WebsocketServer.networkRequests, WebsocketServer.callbackIncomingMessage, hrequest]
      show (s.observers.map _).map _ = s.observers.map _
      rw [List.map_map]
      rfl
    | amqp _ | http _ _ _ | shell _ _ => cases h
  | shell s =>
    cases arrival with
    | shell socketDscr message =>
      rw [request?] at h
      split at h
      · cases h
      · next hmessage =>
        cases h
        exact if_neg hmessage
    | amqp _ | http _ _ _ | websocket _ _ _ _ => cases h

end NetworkProvider

end MicroserviceCommon
