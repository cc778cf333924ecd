import MicroserviceCommon.Infra.Buffer
import MicroserviceCommon.Infra.Stream

/-!
# `Shell` messages with a size

In the mode `WITH_SIZE` a message goes through a stream socket as an `int` and its bytes.
`receiveWithSize` waits for the answer to a request. The thread of
`threadAsyncClientModeRequestsWithSize` hands every message to the observers.

The answers of `select` and `recv` are arguments. The machine is little-endian. It is assumed that
the stack of the thread holds every `buf` that has a size. In the thread of
`threadAsyncClientModeRequestsWithSize` such a size is at most 10 MiB, and `receiveWithSize` sets
no limit.
-/

namespace MicroserviceCommon

open Infra

namespace Shell

/-! ## Sending -/

def intBytes (v : Int32) : List UInt8 := leBytes 4 v.toUInt32.toNat

/-- An `int` that was 0 before these bytes were stored at its start. -/
def intOfBytes (bytes : List UInt8) : Int32 := (UInt32.ofNat (leValue bytes)).toInt32

/-- The bytes of both `send` calls. The size is narrowed to `int`. -/
def sendWithSize (msg : List UInt8) : List UInt8 :=
  let messageSize := Int32.ofNat msg.length
  intBytes messageSize ++ msg

/-! ## The synchronous receiver -/

structure ReceiveAnswers where
  size : RecvAnswer
  payload : RecvAnswer
  deriving DecidableEq, Repr

/-- The message and what is left in the stream. Nobody looks at the count of the first `recv`.
`none` is an array of negative size, or the `std::length_error` of a failed `recv`. -/
def receiveWithSize (stream : List UInt8) (answers : ReceiveAnswers) :
    Option (List UInt8 × List UInt8) :=
  (recv stream 4 answers.size).bind fun size =>
    let messageSize := (intOfBytes size.bytes).toInt
    if messageSize < 0 then none
    else
      (recv size.rest messageSize.toNat answers.payload).bind fun payload =>
        if payload.count < 0 then none
        else some (payload.bytes, payload.rest)

/-- A caller of `receiveWithSize`, with what the calls returned. -/
@[ext] structure SyncClient where
  stream : List UInt8
  returned : List (List UInt8) := []
  deriving DecidableEq, Repr

def SyncClient.receive (s : SyncClient) (answers : ReceiveAnswers) : Option SyncClient :=
  (receiveWithSize s.stream answers).map fun r =>
    { stream := r.2, returned := s.returned ++ [r.1] }

/-! ## The asynchronous receiver -/

/-- How the thread stands. An exception that leaves the thread function is `terminated`,
an array of negative size is `undefined`. -/
inductive ThreadStatus where
  | running | returned | terminated | undefined
  deriving DecidableEq, Repr

/-- `delivered` is what the observers were called with. -/
structure ClientThread where
  stream : List UInt8
  delivered : List (List UInt8) := []
  connectionEstablished : Bool := true
  status : ThreadStatus := .running
  deriving DecidableEq, Repr

/-- What the socket answers during one turn of the loop, and what the stack holds. -/
structure Turn where
  sizeSelect : SelectAnswer
  sizeRecv : RecvAnswer := .failed
  payloadSelect : SelectAnswer := .timeout
  payloadRecvs : List RecvAnswer := []
  memory : Nat → UInt8 := fun _ => 0

/-- The limit of the source, which it calls 10 Kb. -/
def maxMessageSize : Nat := 1024 * 1024 * 10

/-- The variables of the loop that reads a payload. -/
structure PayloadLoop where
  readedBytesCount : Int := 0
  buf : Buffer
  fromServer : List UInt8 := []
  stream : List UInt8

/-- One pass of the loop: `temp` has the bytes counted so far, not those of this `recv`.
`none` is the `std::length_error` of a negative count. -/
def PayloadLoop.append (l : PayloadLoop) (r : Received UInt8) : Option PayloadLoop :=
  let readedBytesCount := l.readedBytesCount + r.count
  let buf := l.buf.overwrite r.bytes
  if readedBytesCount < 0 then none
  else
    let temp := buf.slice 0 readedBytesCount.toNat
    some { readedBytesCount, buf, fromServer := l.fromServer ++ temp, stream := r.rest }

/-- The loop. The outer `none` is a loop that has not ended, the inner one a `std::length_error`. -/
def readPayload (messageSize : Int) : List RecvAnswer → PayloadLoop → Option (Option PayloadLoop)
  | [], l => if l.readedBytesCount < messageSize then none else some (some l)
  | answer :: answers, l =>
    if l.readedBytesCount < messageSize then
      (recv l.stream l.buf.size answer).bind fun r =>
        match l.append r with
        | none => some none
        | some l => readPayload messageSize answers l
    else some (some l)

namespace ClientThread

/-- The `return` after a failed call. -/
def exit (s : ClientThread) : ClientThread :=
  { s with connectionEstablished := false, status := .returned }

def receivePayload (s : ClientThread) (t : Turn) (messageSize : Int) : Option ClientThread :=
  if messageSize < 0 then some { s with status := .undefined }
  else
    (readPayload messageSize t.payloadRecvs
      { buf := Buffer.uninitialised messageSize.toNat t.memory, stream := s.stream }).map fun
      | none => { s with status := .terminated }
      | some l =>
        if l.readedBytesCount < 0 then { s with stream := l.stream }.exit
        else { s with stream := l.stream, delivered := s.delivered ++ [l.fromServer] }

/-- One turn of the loop. A turn that has read a size and then finds no payload ends,
and the next turn takes what comes for a size. -/
def threadAsyncClientModeRequestsWithSize (s : ClientThread) (t : Turn) : Option ClientThread :=
  if s.status ≠ .running then none
  else
    match t.sizeSelect with
    | .failed => some s.exit
    | .timeout => some s
    | .ready =>
      (recv s.stream 4 t.sizeRecv).bind fun size =>
        if size.count = -1 then some s.exit
        else
          let s := { s with stream := size.rest }
          let messageSize := (intOfBytes size.bytes).toInt
          if messageSize > maxMessageSize then some s
          else
            match t.payloadSelect with
            | .failed => some s.exit
            | .timeout => some s
            | .ready => s.receivePayload t messageSize

end ClientThread

end Shell

end MicroserviceCommon
