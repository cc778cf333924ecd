import MicroserviceCommon.Common.Types
import MicroserviceCommon.Infra.Buffer
import MicroserviceCommon.Communication.NetworkInterface

/-!
# `SNetworkPackage` on the wire

`WebsocketServer` and `ObjreprListener` send a package as the bytes of its header object and the
message. The receiving callbacks read the header at the start of the payload. They take the message
from `data() + sizeof(SHeader)`, with the length `size() - 1`.

The machine is little-endian. A payload is a `std::string`, so its size is at most `max_size()`.
-/

namespace MicroserviceCommon

open Infra

/-- `sizeof( SNetworkPackage::SHeader )`: a `bool`, seven bytes of padding, a `uint64_t` -/
def sizeofHeader : Nat := 16

/-- `std::string::max_size()` -/
def maxSize : Nat := 2 ^ 62 - 1

structure SNetworkPackage where
  header : SHeader := {}
  msg : List UInt8
  deriving DecidableEq, Repr

/-! ## Sending -/

/-- The header object. Nobody writes its padding. -/
def SHeader.objectBytes (h : SHeader) (padding : Vector UInt8 7) : List UInt8 :=
  h.clientInitiative.toUInt8 :: (padding.toList ++ leBytes 8 h.asyncRequestId.toNat)

/-- What `sendAsyncRequest` hands to the transport, from a buffer that is large enough. -/
def sendAsyncRequest (package : SNetworkPackage) (padding : Vector UInt8 7) : List UInt8 :=
  package.header.objectBytes padding ++ package.msg

/-! ## Receiving -/

/-- `WebsocketServerRequest` or `ObjreprListenerRequest`, as far as a callback fills it. -/
structure FramedRequest where
  connectionId : TConnectionId := 0
  sensorId : TSensorId := 0
  header : SHeader := {}
  incomingMessage : List UInt8
  deriving DecidableEq, Repr

/-- What comes of a payload. A request goes to every observer, a response to the waiting call.
`lengthError` is the `std::length_error` of `assign`. -/
inductive Delivery where
  | request (request : FramedRequest)
  | response (message : List UInt8)
  | ignored
  | lengthError
  deriving DecidableEq, Repr

/-- The copy `m_header = package->header`. -/
def readHeader (payload : Buffer) : Traced SHeader := do
  let clientInitiative ← payload.read 0
  let asyncRequestId ← payload.readSlice 8 8
  pure
    { clientInitiative := clientInitiative ≠ 0
      asyncRequestId := UInt64.ofNat (leValue asyncRequestId) }

/-- `assign( data() + sizeof(SHeader), size() - 1 )` -/
def assignMessage (payload : Buffer) : Traced (Option (List UInt8)) :=
  let count := (UInt64.ofNat payload.size - 1).toNat
  if count ≤ maxSize then some <$> payload.readSlice sizeofHeader count else pure none

inductive Opcode where
  | binary | text | other
  deriving DecidableEq, Repr

/-- `connectionId` is the one found for the connection. Only binary messages get it. -/
def callbackIncomingMessage (connectionId : TConnectionId) (opcode : Opcode) (payload : Buffer) :
    Traced Delivery :=
  match opcode with
  | .binary => do
    match ← assignMessage payload with
    | none => pure .lengthError
    | some message =>
      let header ← readHeader payload
      pure (.request
        { connectionId := connectionId, header := header, incomingMessage := message })
  | .text => do
    let message ← payload.readSlice 0 payload.size
    pure (.request { incomingMessage := message })
  | .other => pure .ignored

/-- The content type of a service message. -/
inductive ContentType where
  | server | client | other
  deriving DecidableEq, Repr

structure ObjreprListener where
  connId : TConnectionId := 0
  withPackageHeader : Bool := false
  listenedObjectId : TSensorId := 0
  deriving DecidableEq, Repr

namespace ObjreprListener

def callbackFromObjreprServerMode (l : ObjreprListener) (contentType : ContentType)
    (payload : Buffer) : Traced Delivery :=
  if contentType ≠ .client then pure .ignored
  else if payload.size = 0 then pure .ignored
  else if l.withPackageHeader then do
    match ← assignMessage payload with
    | none => pure .lengthError
    | some message =>
      let header ← readHeader payload
      pure (.request
        { connectionId := l.connId
          sensorId := l.listenedObjectId
          header := header
          incomingMessage := message })
  else do
    let message ← payload.readSlice 0 payload.size
    pure (.request
      { connectionId := l.connId, sensorId := l.listenedObjectId, incomingMessage := message })

/-- A header with the client's initiative comes back with a response. -/
def callbackFromObjreprClientMode (l : ObjreprListener) (contentType : ContentType)
    (payload : Buffer) : Traced Delivery :=
  if contentType ≠ .server then pure .ignored
  else if payload.size = 0 then pure .ignored
  else if l.withPackageHeader then do
    let clientInitiative ← payload.read 0
    -- server initiative, otherwise a response from the server
    if clientInitiative = 0 then
      match ← assignMessage payload with
      | none => pure .lengthError
      | some message =>
        let header ← readHeader payload
        pure (.request
          { connectionId := l.connId
            sensorId := l.listenedObjectId
            header := header
            incomingMessage := message })
    else
      match ← assignMessage payload with
      | none => pure .lengthError
      | some message => pure (.response message)
  else do
    let message ← payload.readSlice 0 payload.size
    pure (.response message)

end ObjreprListener

/-! ## The header and the message of a payload -/

@[simp] theorem length_objectBytes (h : SHeader) (padding : Vector UInt8 7) :
    (h.objectBytes padding).length = sizeofHeader := by
  simp [SHeader.objectBytes, sizeofHeader]

section Sent

variable {package : SNetworkPackage} {padding : Vector UInt8 7} {payload : Buffer}

theorem size_of_sent (h : payload.bytes = sendAsyncRequest package padding) :
    payload.size = sizeofHeader + package.msg.length := by
  rw [Buffer.size, h, sendAsyncRequest, List.length_append, length_objectBytes]

/-- **The header is read back.** -/
theorem readHeader_of_sent (h : payload.bytes = sendAsyncRequest package padding) :
    (readHeader payload).value = package.header := by
  have hsize := size_of_sent h
  rw [sizeofHeader] at hsize
  obtain ⟨⟨clientInitiative, asyncRequestId⟩, msg⟩ := package
  -- the two members are read where the header object has them, the padding is skipped
  have hinitiative : payload.byteAt 0 = clientInitiative.toUInt8 := by
    rw [Buffer.byteAt, h]
    rfl
  have hid : payload.slice 8 8 = leBytes 8 asyncRequestId.toNat := by
    rw [Buffer.slice_of_le (by omega), h, sendAsyncRequest, SHeader.objectBytes, List.cons_append,
      List.append_assoc, List.drop_succ_cons, List.drop_left' (by simp), List.take_left' (by simp)]
  have hvalue : leValue (leBytes 8 asyncRequestId.toNat) = asyncRequestId.toNat :=
    leValue_leBytes (by simpa using asyncRequestId.toNat_lt)
  have hflag : decide (clientInitiative.toUInt8 ≠ 0) = clientInitiative := by
    cases clientInitiative <;> decide
  simp only [readHeader, Traced.value_bind, Traced.value_pure, Buffer.read_value,
    Buffer.readSlice_value, hinitiative, hid, hvalue, hflag, UInt64.ofNat_toNat]

end Sent

section Received

variable {payload : Buffer}

/-- An empty payload asks for the largest possible length. -/
theorem assignMessage_of_empty (h : payload.size = 0) : assignMessage payload = pure none := by
  rw [assignMessage, h]
  exact if_neg (by decide)

/-- **One byte less than the payload is taken, from behind the header.** -/
theorem assignMessage_of_pos (hpos : 0 < payload.size) (hmax : payload.size ≤ maxSize) :
    assignMessage payload = some <$> payload.readSlice sizeofHeader (payload.size - 1) := by
  have hcount : (UInt64.ofNat payload.size - 1).toNat = payload.size - 1 := by
    rw [maxSize] at hmax
    have hlt : payload.size < 2 ^ 64 := by omega
    rw [UInt64.toNat_sub, UInt64.toNat_ofNat_of_lt' hlt, UInt64.toNat_one]
    omega
  rw [assignMessage, hcount]
  exact if_pos (by omega)

/-- The message and the header, in the order of the callbacks. -/
def framedOffsets (payload : Buffer) : List Nat :=
  List.range' sizeofHeader (payload.size - 1) ++ (readHeader payload).offsets

/-- The request of a payload with a header. -/
def framedRequest (payload : Buffer) (connectionId : TConnectionId) (sensorId : TSensorId) :
    FramedRequest where
  connectionId := connectionId
  sensorId := sensorId
  header := (readHeader payload).value
  incomingMessage := payload.slice sizeofHeader (payload.size - 1)

theorem callbackIncomingMessage_binary (hpos : 0 < payload.size) (hmax : payload.size ≤ maxSize)
    (connectionId : TConnectionId) :
    callbackIncomingMessage connectionId .binary payload =
      { value := .request (framedRequest payload connectionId 0)
        offsets := framedOffsets payload } := by
  ext1 <;>
    simp [callbackIncomingMessage, assignMessage_of_pos hpos hmax, framedRequest, framedOffsets]

theorem callbackFromObjreprServerMode_framed (hpos : 0 < payload.size)
    (hmax : payload.size ≤ maxSize) (connId : TConnectionId) (id : TSensorId) :
    ObjreprListener.callbackFromObjreprServerMode ⟨connId, true, id⟩ .client payload =
      { value := .request (framedRequest payload connId id)
        offsets := framedOffsets payload } := by
  have hne : payload.size ≠ 0 := by omega
  ext1 <;> simp [ObjreprListener.callbackFromObjreprServerMode, hne,
    assignMessage_of_pos hpos hmax, framedRequest, framedOffsets]

theorem callbackFromObjreprClientMode_framed (hpos : 0 < payload.size)
    (hmax : payload.size ≤ maxSize) (connId : TConnectionId) (id : TSensorId) :
    ObjreprListener.callbackFromObjreprClientMode ⟨connId, true, id⟩ .server payload =
      if payload.byteAt 0 = 0 then
        { value := .request (framedRequest payload connId id)
          offsets := 0 :: framedOffsets payload }
      else
        { value := .response (payload.slice sizeofHeader (payload.size - 1))
          offsets := 0 :: List.range' sizeofHeader (payload.size - 1) } := by
  have hne : payload.size ≠ 0 := by omega
  by_cases hz : payload.byteAt 0 = 0
  · ext1 <;> simp [ObjreprListener.callbackFromObjreprClientMode, hne, hz,
      assignMessage_of_pos hpos hmax, framedRequest, framedOffsets]
  · ext1 <;> simp [ObjreprListener.callbackFromObjreprClientMode, hne, hz,
      assignMessage_of_pos hpos hmax]

end Received

end MicroserviceCommon
