import MicroserviceCommon.Communication.Framing

/-!
# The buffer for outcoming packages

`WebsocketServer` and `ObjreprListener` copy the header and the message of a package into
`m_outcomingBuffer`, which grows with the messages. The bytes that go out are those of
`sendAsyncRequest` in the module of the framing, as long as the buffer holds them.
-/

namespace MicroserviceCommon

/-- `OUTCOMING_BUFFER_SIZE`, the same in both files -/
def outcomingBufferSizeStart : Int32 := 4096

/-- `overflowed`: a value has left the type of `m_outcomingBufferSize`. -/
structure OutcomingBuffer where
  outcomingBufferSize : Int32 := outcomingBufferSizeStart
  /-- the length of the array -/
  allocated : Nat := 4096
  overflowed : Bool := false
  deriving DecidableEq, Repr

/-- A `memcpy` into the buffer. -/
structure BufferCopy where
  offset : Nat
  count : Nat
  deriving DecidableEq, Repr

/-- An `int` converted to `size_t`. -/
def sizeOfInt (x : Int32) : Nat := (x.toInt % 2 ^ 64).toNat

/-- An `int` has this value. -/
def FitsInt (x : Int) : Prop := -2 ^ 31 ≤ x ∧ x < 2 ^ 31

instance (x : Int) : Decidable (FitsInt x) := inferInstanceAs (Decidable (_ ∧ _))

namespace OutcomingBuffer

/-- The result of an operation of `int`s, and what it should be. -/
def computed (b : OutcomingBuffer) (value : Int) : OutcomingBuffer :=
  { b with overflowed := b.overflowed || !decide (FitsInt value) }

/-- The doubled buffer. -/
def grow (b : OutcomingBuffer) : OutcomingBuffer :=
  { b.computed (b.outcomingBufferSize.toInt * 2) with
    outcomingBufferSize := b.outcomingBufferSize * 2
    allocated := sizeOfInt (b.outcomingBufferSize * 2) }

/-- The growing in front of the copies. All three functions have it. -/
def adjust (b : OutcomingBuffer) (msgSize : Nat) : OutcomingBuffer :=
  let b := b.computed (b.outcomingBufferSize.toInt + 1)
  if msgSize > sizeOfInt (b.outcomingBufferSize + 1) then b.grow else b

/-- The header and the message behind it. -/
def copies (msgSize : Nat) : List BufferCopy :=
  [{ offset := 0, count := sizeofHeader }, { offset := sizeofHeader, count := msgSize }]

/-- The buffer after a package, and what was copied into it. -/
def put (b : OutcomingBuffer) (package : SNetworkPackage) : OutcomingBuffer × List BufferCopy :=
  (b.adjust package.msg.length, copies package.msg.length)

/-- `WebsocketServer::sendAsyncRequest` -/
def websocketServerSendAsyncRequest (b : OutcomingBuffer) (package : SNetworkPackage) :=
  b.put package

/-- `ObjreprListener::sendAsyncRequest` -/
def objreprListenerSendAsyncRequest (b : OutcomingBuffer) (package : SNetworkPackage) :=
  b.put package

/-- `ObjreprListener::sendBlockedRequest` -/
def objreprListenerSendBlockedRequest (b : OutcomingBuffer) (package : SNetworkPackage) :=
  b.put package

end OutcomingBuffer

/-- The calls on one object. -/
inductive OutcomingCall where
  | websocketServerSendAsyncRequest (package : SNetworkPackage)
  | objreprListenerSendAsyncRequest (package : SNetworkPackage)
  | objreprListenerSendBlockedRequest (package : SNetworkPackage)
  deriving DecidableEq, Repr

namespace OutcomingBuffer

def send (b : OutcomingBuffer) : OutcomingCall → OutcomingBuffer × List BufferCopy
  | .websocketServerSendAsyncRequest package => b.websocketServerSendAsyncRequest package
  | .objreprListenerSendAsyncRequest package => b.objreprListenerSendAsyncRequest package
  | .objreprListenerSendBlockedRequest package => b.objreprListenerSendBlockedRequest package

def step (b : OutcomingBuffer) (call : OutcomingCall) : Option OutcomingBuffer :=
  some (b.send call).1

end OutcomingBuffer

/-- The message of the package. -/
def OutcomingCall.msg : OutcomingCall → List UInt8
  | websocketServerSendAsyncRequest package | objreprListenerSendAsyncRequest package
  | objreprListenerSendBlockedRequest package => package.msg

end MicroserviceCommon
