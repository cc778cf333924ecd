import MicroserviceCommon.Communication.Framing

/-!
# The service bus of objrepr

`ObjreprListener` objects that are subscribed to one object. A service message goes to all of them
with its content type, the sender included.
-/

namespace MicroserviceCommon

open Infra

/-- A listener after `init`, which connects the callback of its mode. -/
structure ObjreprEndpoint extends ObjreprListener where
  serverMode : Bool := true
  observers : List Nat := []
  incomingMessageData : List UInt8 := []
  responseCatched : Bool := false

structure ServiceMessage where
  contentType : ContentType
  bytes : List UInt8
  deriving DecidableEq, Repr

/-- An endpoint after a message, and its calls of `callbackNetworkRequest`. -/
structure Reception where
  endpoint : ObjreprEndpoint
  calls : List (Nat × FramedRequest) := []

namespace ObjreprEndpoint

/-- `setOutcomingMessage` of a request of this endpoint. Both modes go the same way. -/
def setOutcomingMessage (e : ObjreprEndpoint) (header : SHeader) (msg : List UInt8)
    (padding : Vector UInt8 7) : ServiceMessage where
  contentType := .server
  bytes :=
    if e.withPackageHeader then sendAsyncRequest { header := header, msg := msg } padding else msg

/-- `beyond` is what lies behind the string that the endpoint received. -/
def delivery (e : ObjreprEndpoint) (message : ServiceMessage) (beyond : Nat → UInt8) : Delivery :=
  let payload : Buffer := { bytes := message.bytes, beyond := beyond }
  if e.serverMode then (e.callbackFromObjreprServerMode message.contentType payload).value
  else (e.callbackFromObjreprClientMode message.contentType payload).value

/-- A response is kept for the call that waits. `none` is the exception of `assign`. -/
def receive (e : ObjreprEndpoint) (message : ServiceMessage) (beyond : Nat → UInt8) :
    Option Reception :=
  match e.delivery message beyond with
  | .request r =>
    some { endpoint := e, calls := e.observers.map fun observer => (observer, r) }
  | .response m => some { endpoint := { e with incomingMessageData := m, responseCatched := true } }
  | .ignored => some { endpoint := e }
  | .lengthError => none

end ObjreprEndpoint

end MicroserviceCommon
