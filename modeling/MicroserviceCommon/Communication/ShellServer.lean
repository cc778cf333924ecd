import Mathlib.Logic.Function.Basic
import MicroserviceCommon.Infra.Run
import MicroserviceCommon.Infra.Stream

/-!
# The server of `Shell`

A server takes its clients one after the other. `runNetworkCallbacks` accepts a client or reads from
the one it has, and a request is answered on the descriptor it came from, now or later.

* The kernel gives an accepted client any number that is free. Other parts of the process open and
  close files as well.
* `accept` and the `recv` after it are two steps. A poll that finds nothing is no step.
* A client that hangs up closes its socket. A `send` to it fails with `EPIPE`, and `SIGPIPE` is
  ignored.
* A `send` hands over a prefix of the message or fails.

`connected`, `accepted`, `closed`, `written`, `requests` and `replies` are the history of the
server.
-/

namespace MicroserviceCommon

open Infra

/-- `BYTES_COUNT_READ_FROM_SOCKET` -/
def bytesCountReadFromSocket : Nat := 1024 * 100

/-- What a descriptor of the process stands for. -/
inductive OpenFile (κ : Type*) where
  | connection (client : κ)
  | other
  deriving DecidableEq, Repr

/-- A request that the observers got. `sender` wrote the message. -/
structure ServedRequest (κ : Type*) where
  clientSocketDscr : Nat
  incomingMessage : List UInt8
  sender : κ
  deriving DecidableEq, Repr

/-- `recipient` is what the bytes of `message` were handed to, and `none` when the `send` failed. -/
structure ServedReply (κ : Type*) where
  request : ServedRequest κ
  message : List UInt8
  recipient : Option (OpenFile κ)
  deriving DecidableEq, Repr

/-- `reading` is the descriptor that was accepted and is read next, in the same call. -/
structure ShellServer (κ : Type*) where
  clientSocketDscr : Nat := 0
  reading : Option Nat := none
  files : Nat → Option (OpenFile κ)
  backlog : List κ := []
  unread : κ → List UInt8 := fun _ => []
  hungUp : κ → Bool := fun _ => false
  connected : List κ := []
  accepted : List κ := []
  closed : List κ := []
  written : κ → List UInt8 := fun _ => []
  requests : List (ServedRequest κ) := []
  replies : List (ServedReply κ) := []

inductive ServerAction (κ : Type*) where
  | connect (client : κ)
  | write (client : κ) (bytes : List UInt8)
  | hangUp (client : κ)
  | openFile (descriptor : Nat)
  | closeFile (descriptor : Nat)
  | accept (descriptor : Nat)
  | read (answer : RecvAnswer)
  | setOutcomingMessage (request : ServedRequest κ) (msg : List UInt8) (sent : Option Nat)
  deriving DecidableEq, Repr

namespace ShellServer

variable {κ : Type*} [DecidableEq κ]

/-- A client of the backlog gets a descriptor. -/
def accept (s : ShellServer κ) (descriptor : Nat) (client : κ) (backlog : List κ) :
    ShellServer κ :=
  { s with
    clientSocketDscr := descriptor
    reading := some descriptor
    files := Function.update s.files descriptor (some (.connection client))
    backlog := backlog
    accepted := s.accepted ++ [client] }

/-- The descriptor of the `recv` call. -/
def readDescriptor (s : ShellServer κ) : Option Nat :=
  match s.reading with
  | some descriptor => some descriptor
  | none => if s.clientSocketDscr = 0 then none else some s.clientSocketDscr

def ending (s : ShellServer κ) (client : κ) : StreamEnd :=
  if s.hungUp client then .closed else .failed

/-- The message goes to the observers. -/
def deliver (s : ShellServer κ) (descriptor : Nat) (client : κ) (r : Received UInt8) :
    ShellServer κ :=
  { s with
    reading := none
    unread := Function.update s.unread client r.rest
    requests := s.requests ++ [{
      clientSocketDscr := descriptor, incomingMessage := r.bytes, sender := client }] }

/-- The descriptor of `m_clientSocketDscr` is closed. -/
def dropClient (s : ShellServer κ) (client : κ) : ShellServer κ :=
  { s with
    clientSocketDscr := 0
    reading := none
    files := Function.update s.files s.clientSocketDscr none
    closed := s.closed ++ [client] }

/-- What `runNetworkCallbacks` does after `recv`. -/
def read (s : ShellServer κ) (descriptor : Nat) (client : κ) (r : Received UInt8) :
    ShellServer κ :=
  if r.count > 0 then s.deliver descriptor client r
  else if r.count = -1 then { s with reading := none }
  else s.dropClient client

/-- What a `send` on the descriptor can be handed to. -/
def writable (s : ShellServer κ) (descriptor : Nat) : Option (OpenFile κ) :=
  match s.files descriptor with
  | some (.connection client) => if s.hungUp client then none else some (.connection client)
  | some .other => some .other
  | none => none

/-- `sendWithoutSize` only logs an error. `sent` is `none` when the `send` fails anyway, as with a
full socket. -/
def setOutcomingMessage (s : ShellServer κ) (request : ServedRequest κ) (msg : List UInt8)
    (sent : Option Nat) : ShellServer κ :=
  { s with
    replies := s.replies ++ [
      match sent, s.writable request.clientSocketDscr with
      | some count, some file =>
        { request := request, message := msg.take count, recipient := some file }
      | _, _ => { request := request, message := [], recipient := none }] }

/-- Who answers on the descriptor 0 fails an `assert`. -/
def step (s : ShellServer κ) : ServerAction κ → Option (ShellServer κ)
  | .connect client =>
    if client ∈ s.connected then none
    else some { s with backlog := s.backlog ++ [client], connected := s.connected ++ [client] }
  | .write client bytes =>
    if client ∈ s.connected ∧ s.hungUp client = false then
      some { s with
        unread := Function.update s.unread client (s.unread client ++ bytes)
        written := Function.update s.written client (s.written client ++ bytes) }
    else none
  | .hangUp client => some { s with hungUp := Function.update s.hungUp client true }
  | .openFile descriptor =>
    if s.files descriptor = none then
      some { s with files := Function.update s.files descriptor (some .other) }
    else none
  | .closeFile descriptor =>
    if s.files descriptor = some .other then
      some { s with files := Function.update s.files descriptor none }
    else none
  | .accept descriptor =>
    match s.backlog with
    | client :: backlog =>
      if s.reading = none ∧ s.clientSocketDscr = 0 ∧ s.files descriptor = none then
        some (s.accept descriptor client backlog)
      else none
    | [] => none
  | .read answer =>
    match s.readDescriptor with
    | none => none
    | some descriptor =>
      match s.files descriptor with
      | some (.connection client) =>
        (recvEnding (s.ending client) (s.unread client) bytesCountReadFromSocket answer).map
          (s.read descriptor client)
      | some .other | none => none
  | .setOutcomingMessage request msg sent =>
    if request ∈ s.requests ∧ request.clientSocketDscr > 0 then
      some (s.setOutcomingMessage request msg sent)
    else none

/-- A server that listens, in a process that has some files open. -/
def start (occupied : Nat → Bool) : ShellServer κ where
  files descriptor := if occupied descriptor then some .other else none

end ShellServer

end MicroserviceCommon
