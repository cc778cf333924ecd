import MicroserviceCommon.Communication.Shell
import MicroserviceCommon.Infra.Run

/-!
# The asynchronous receiver and any peer

`threadAsyncClientModeRequestsWithSize` of `Shell`, on a stream that ends. The peer may close the
connection anywhere, and the loop that reads a payload may then take any number of `recv` calls.

`PayloadRead.step` is one pass of that loop, with the length that the constructor of `temp` gets.
-/

namespace MicroserviceCommon

open Infra

namespace Shell

/-- What the socket answers during one turn, for as many calls as the payload takes. -/
structure PeerTurn where
  sizeSelect : SelectAnswer
  sizeRecv : RecvAnswer := .failed
  payloadSelect : SelectAnswer := .timeout
  payloadRecvs : Nat → RecvAnswer := fun _ => .failed
  memory : Nat → UInt8 := fun _ => 0

/-! ## The loop that reads a payload -/

/-- An `int` as the `size_t` of the constructor `string( const char *, size_t )`. -/
def sizeOfInt (count : Int) : Nat := (count % 2 ^ 64).toNat

/-- The loop between two passes, with the length of every `temp` that was constructed.
`thrown` is the `std::length_error`. -/
structure PayloadRead where
  ending : StreamEnd
  messageSize : Int
  loop : PayloadLoop
  temps : List Nat := []
  thrown : Bool := false

namespace PayloadRead

/-- The loop at `char buf[ messageSize ]`. -/
def start (ending : StreamEnd) (messageSize : Int) (memory : Nat → UInt8) (stream : List UInt8) :
    PayloadRead where
  ending := ending
  messageSize := messageSize
  loop := { buf := Buffer.uninitialised messageSize.toNat memory, stream := stream }

def isOver (p : PayloadRead) : Bool :=
  p.thrown || decide (p.messageSize ≤ p.loop.readedBytesCount)

/-- One pass. `none` is a loop that is over, or a socket that cannot answer so. -/
def step (p : PayloadRead) (answer : RecvAnswer) : Option PayloadRead :=
  if p.isOver then none
  else
    (recvEnding p.ending p.loop.stream p.loop.buf.size answer).map fun r =>
      let temps := p.temps ++ [sizeOfInt (p.loop.readedBytesCount + r.count)]
      match p.loop.append r with
      | none => { p with temps := temps, thrown := true }
      | some loop => { p with temps := temps, loop := loop }

/-- The string is handed out. -/
def delivers (p : PayloadRead) : Bool := !p.thrown && decide (0 ≤ p.loop.readedBytesCount)

end PayloadRead

/-! ## One turn -/

namespace ClientThread

/-- The turn up to the payload: it is over, or it has read a size. -/
def readSize (ending : StreamEnd) (s : ClientThread) (t : PeerTurn) :
    Option (ClientThread ⊕ ClientThread × Received UInt8) :=
  match t.sizeSelect with
  | .failed => some (.inl s.exit)
  | .timeout => some (.inl s)
  | .ready =>
    (recvEnding ending s.stream 4 t.sizeRecv).bind fun size =>
      if size.count = -1 then some (.inl s.exit)
      else
        let s := { s with stream := size.rest }
        let messageSize := (intOfBytes size.bytes).toInt
        if messageSize > maxMessageSize then some (.inl s)
        else
          match t.payloadSelect with
          | .failed => some (.inl s.exit)
          | .timeout => some (.inl s)
          | .ready => some (.inr (s, size))

/-- The loop of the payload that follows this size. -/
def startPayload (ending : StreamEnd) (s : ClientThread) (size : Received UInt8) (t : PeerTurn) :
    PayloadRead :=
  PayloadRead.start ending (intOfBytes size.bytes).toInt t.memory s.stream

/-- What follows the loop. -/
def finishPayload (s : ClientThread) (p : PayloadRead) : ClientThread :=
  if p.messageSize < 0 then { s with status := .undefined }
  else if p.thrown then { s with status := .terminated }
  else if p.delivers then
    { s with stream := p.loop.stream, delivered := s.delivered ++ [p.loop.fromServer] }
  else { s with stream := p.loop.stream }.exit

/-- The turn whose payload takes so many calls. -/
def turn (ending : StreamEnd) (s : ClientThread) (t : PeerTurn) (calls : Nat) :
    Option ClientThread :=
  if s.status ≠ .running then none
  else
    (s.readSize ending t).bind fun
      | .inl s => some s
      | .inr (s, size) =>
        (runFor PayloadRead.step (s.startPayload ending size t) t.payloadRecvs calls).bind fun p =>
          if p.isOver then some (s.finishPayload p) else none

end ClientThread

/-! ## Runs -/

/-- A peer with its stream, and the turns of the thread that reads from it. -/
structure Peer where
  stream : List UInt8
  ending : StreamEnd
  turns : Nat → PeerTurn

namespace Peer

variable (r : Peer)

/-- The thread comes to a turn when the turns before it end. -/
inductive Reaches : Nat → ClientThread → Prop
  | start : Reaches 0 { stream := r.stream }
  | turn {k : Nat} {s s' : ClientThread} {calls : Nat} :
    Reaches k s → s.turn r.ending (r.turns k) calls = some s' → Reaches (k + 1) s'

/-- The loop over a payload that the thread comes to in a turn, after a size. -/
def ReachesPayload (k : Nat) (size : Received UInt8) (p : PayloadRead) : Prop :=
  ∃ s s', r.Reaches k s ∧ s.status = .running ∧
    s.readSize r.ending (r.turns k) = some (.inr (s', size)) ∧
    p = s'.startPayload r.ending size (r.turns k)

/-- The socket goes on answering until the loop is over. -/
def Answers (p : PayloadRead) (answers : Nat → RecvAnswer) : Prop :=
  ∀ n p', runFor PayloadRead.step p answers n = some p' → p'.isOver = false →
    (p'.step (answers n)).isSome

end Peer

/-- A peer whose turns are those of a socket. -/
structure SocketPeer extends Peer where
  answers : ∀ k size p, toPeer.ReachesPayload k size p →
    Peer.Answers p (toPeer.turns k).payloadRecvs

end Shell

end MicroserviceCommon
