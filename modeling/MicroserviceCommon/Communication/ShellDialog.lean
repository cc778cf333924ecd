import MicroserviceCommon.Communication.Shell
import MicroserviceCommon.Communication.ShellServer

/-!
# `Shell` messages without a size

In the mode `WITHOUT_SIZE` a message goes through a stream socket as its bytes alone.

* `ShellDialog` — a client that waits for each response, and the server it is connected to. Each
  observer of the server may answer a request that it got, in the callback or later, with any text.
* `RawClient` — a client whose thread `threadAsyncClientModeRequests` hands on what comes in. The
  other end writes when it likes.

`handed`, `answers`, `asked`, `responses` and `written` are the history.
-/

namespace MicroserviceCommon

open Infra

namespace Shell

/-- The string is what was read. A failed `recv` gives an empty one. -/
def receiveWithoutSize (closed : Bool) (stream : List UInt8) (answer : RecvAnswer) :
    Option (Received UInt8) :=
  recvEnding (if closed then .closed else .failed) stream bytesCountReadFromSocket answer

end Shell

/-! ## A client that waits -/

structure ShellDialog where
  toServer : List UInt8 := []
  toClient : List UInt8 := []
  /-- requests that the observers got -/
  handed : List (List UInt8) := []
  /-- what the observers answered, with the number of the request -/
  answers : List (List UInt8 × Nat) := []
  waiting : Bool := false
  serverClosed : Bool := false
  connectionEstablished : Bool := true
  asked : List (List UInt8) := []
  responses : List (List UInt8) := []
  deriving DecidableEq, Repr

inductive DialogAction where
  /-- the client sends, and waits in `recv` from now on -/
  | request (msg : List UInt8)
  /-- `recv` of the server -/
  | read (answer : RecvAnswer)
  /-- an observer answers a request. The socket does not block, so `send` may take a part. -/
  | answer (number : Nat) (msg : List UInt8) (sent : Nat)
  | closeServer
  | receive (answer : RecvAnswer)
  deriving DecidableEq, Repr

namespace ShellDialog

/-- `setOutcomingMessage` of the client up to the `recv`. A `send` to a closed socket only logs. -/
def request (s : ShellDialog) (msg : List UInt8) : ShellDialog :=
  { s with
    toServer := if s.serverClosed then s.toServer else s.toServer ++ msg
    waiting := true
    asked := s.asked ++ [msg] }

/-- `runNetworkCallbacks` of the server. -/
def read (s : ShellDialog) (r : Received UInt8) : ShellDialog :=
  if r.count > 0 then { s with toServer := r.rest, handed := s.handed ++ [r.bytes] } else s

/-- `setOutcomingMessage` of a request that the server handed out. -/
def answer (s : ShellDialog) (number : Nat) (msg : List UInt8) (sent : Nat) : ShellDialog :=
  { s with
    toClient := s.toClient ++ msg.take sent
    answers := s.answers ++ [(msg, number)] }

def receive (s : ShellDialog) (r : Received UInt8) : ShellDialog :=
  { s with
    toClient := r.rest
    waiting := false
    connectionEstablished := s.connectionEstablished && decide (0 ≤ r.count)
    responses := s.responses ++ [r.bytes] }

def step (s : ShellDialog) : DialogAction → Option ShellDialog
  | .request msg => if s.waiting then none else some (s.request msg)
  | .read answer =>
    if s.serverClosed then none
    else (recv s.toServer bytesCountReadFromSocket answer).map s.read
  | .answer number msg sent =>
    if number < s.handed.length ∧ s.serverClosed = false then some (s.answer number msg sent)
    else none
  | .closeServer => some { s with serverClosed := true }
  | .receive answer =>
    if s.waiting then
      (Shell.receiveWithoutSize s.serverClosed s.toClient answer).map s.receive
    else none

end ShellDialog

/-! ## A client with a thread -/

structure RawClient extends Shell.ClientThread where
  peerClosed : Bool := false
  written : List UInt8 := []
  deriving DecidableEq, Repr

inductive RawClientAction where
  | write (bytes : List UInt8)
  | closePeer
  /-- one turn of `threadAsyncClientModeRequests` -/
  | turn (select : SelectAnswer) (answer : RecvAnswer)
  deriving DecidableEq, Repr

namespace RawClient

/-- The `return` after a failed call. -/
def exit (s : RawClient) : RawClient := { s with toClientThread := s.toClientThread.exit }

/-- What comes after `recv`. An empty message is handed on like any other. -/
def deliver (s : RawClient) (r : Received UInt8) : RawClient :=
  if r.count < 0 then s.exit
  else { s with stream := r.rest, delivered := s.delivered ++ [r.bytes] }

def threadAsyncClientModeRequests (s : RawClient) (select : SelectAnswer) (answer : RecvAnswer) :
    Option RawClient :=
  match select with
  | .failed => some s.exit
  | .timeout => some s
  | .ready => (Shell.receiveWithoutSize s.peerClosed s.stream answer).map s.deliver

def step (s : RawClient) : RawClientAction → Option RawClient
  | .write bytes =>
    if s.peerClosed then none
    else some { s with stream := s.stream ++ bytes, written := s.written ++ bytes }
  | .closePeer => some { s with peerClosed := true }
  | .turn select answer =>
    if s.status = .running then s.threadAsyncClientModeRequests select answer else none

/-- A client that is connected. -/
def start : RawClient where
  stream := []

end RawClient

end MicroserviceCommon
