import Mathlib.Logic.Function.Basic
import MicroserviceCommon.Communication.GatewayCommands
import MicroserviceCommon.Communication.Requests
import MicroserviceCommon.Infra.Run

/-!
# A service behind `WebServer`

The thread of the networks takes requests from the HTTP connections and gives them to the gateway.
The thread of the service takes the commands out of the gateway and executes them. A command
answers with `setOutcomingMessage`, at most once.

* `setOutcomingMessage` writes from the thread of the service, but a mongoose manager is for one
  thread. The model is for answers that are written while the thread of the networks is outside of
  `mg_mgr_poll`, so an answer is one step. Writes beside `mg_mgr_poll` are a race.
* mongoose keeps a connection open after an answer. It may close it at any time, and a new
  connection can get the address of one that was freed.
* The bytes of an answer go to the connection that is at the address of the request. What is
  written at a freed address reaches nobody.
* A character is a byte. A message has less than 2^31 of them, as `vsnprintf` prints no more.

`connected`, `sent`, `requests`, `lost` and `replies` are the history.
-/

namespace MicroserviceCommon

open Infra

/-! ## The text of an answer -/

/-- `mg_status_message`. `MG_ENABLE_EXTRA_ERRORS_DESC` is off. -/
def mgStatusMessage (statusCode : Int32) : String :=
  match statusCode.toInt with
  | 206 => "Partial Content"
  | 301 => "Moved"
  | 302 => "Found"
  | 400 => "Bad Request"
  | 401 => "Unauthorized"
  | 403 => "Forbidden"
  | 404 => "Not Found"
  | 416 => "Requested Range Not Satisfiable"
  | 418 => "I'm a teapot"
  | 500 => "Internal Server Error"
  | 502 => "Bad Gateway"
  | 503 => "Service Unavailable"
  | _ => "OK"

def crlf : String := "\r\n"

/-- `mg_send_response_line` -/
def mgSendResponseLine (statusCode : Int32) (extraHeaders : String) : String :=
  "HTTP/1.1 " ++ toString statusCode.toInt ++ " " ++ mgStatusMessage statusCode ++ crlf ++
    "Server: Mongoose/6.7" ++ crlf ++ extraHeaders ++ crlf

/-- `mg_send_head` -/
def mgSendHead (statusCode : Int32) (contentLength : Nat) (extraHeaders : String) : String :=
  mgSendResponseLine statusCode extraHeaders ++
    "Content-Length: " ++ toString contentLength ++ crlf ++ crlf

/-- `%.*s` stops at a NUL byte, and a negative precision is as if there was none. -/
def mgPrintMessage (precision : Int32) (msg : String) : String :=
  if precision < 0 then cStr msg
  else String.ofList ((cStr msg).toList.take precision.toInt.toNat)

/-- What the connection gets. -/
def WebserverRequest.setOutcomingMessage (r : WebserverRequest) (msg : String) : String :=
  mgSendHead r.httpCode msg.length "Content-Type: application/json" ++
    mgPrintMessage (Int32.ofNat msg.length) msg

/-! ## The service -/

/-- A request that the gateway got. `sender` is the connection it came over, and `number` counts
the requests of this connection. -/
structure HttpRequest (κ : Type*) where
  request : WebserverRequest
  isHead : Bool
  sender : κ
  number : Nat
  deriving DecidableEq, Repr

/-- `request` has the code that was sent. -/
structure HttpReply (κ : Type*) where
  command : HttpRequest κ
  request : WebserverRequest
  message : String
  deriving DecidableEq, Repr

/-- The bytes of the answer. -/
def HttpReply.text {κ : Type*} (r : HttpReply κ) : List Char :=
  (r.request.setOutcomingMessage r.message).toList

structure HttpService (κ : Type*) where
  server : WebServer
  connections : Nat → Option κ := fun _ => none
  commands : CommandQueue (HttpRequest κ) := {}
  executing : Option (HttpRequest κ) := none
  connected : List κ := []
  sent : κ → List Char := fun _ => []
  requests : List (HttpRequest κ) := []
  lost : List (HttpRequest κ) := []
  replies : List (HttpReply κ) := []

inductive HttpServiceAction (κ : Type*) where
  | accept (connection : Nat) (client : κ)
  | request (connection : Nat) (message : HttpMessage) (memory : Int32)
  | close (connection : Nat)
  | nextIncomingCommand
  /-- outside of `mg_mgr_poll`; without a code for `setUserData` the memory is sent -/
  | setOutcomingMessage (code : Option Int32) (msg : String)
  /-- the command ends without an answer -/
  | finish
  deriving DecidableEq, Repr

/-- The request that `setOutcomingMessage` is called on. -/
def WebserverRequest.withCode (r : WebserverRequest) :
    Option Int32 → Except Failure WebserverRequest
  | none => .ok r
  | some code => r.setUserData (some (.httpCode code))

namespace HttpService

variable {κ : Type*} [DecidableEq κ]

def requestsOf (s : HttpService κ) (client : κ) : List (HttpRequest κ) :=
  s.requests.filter fun r => r.sender = client

def newRequest (s : HttpService κ) (client : κ) (message : HttpMessage)
    (request : WebserverRequest) : HttpRequest κ where
  request := request
  isHead := message.method = "HEAD"
  sender := client
  number := (s.requestsOf client).length

/-- The factory of the service makes a command of what it knows. -/
def arrive (knows : WebserverRequest → Bool) (s : HttpService κ) (r : HttpRequest κ) :
    HttpService κ :=
  { s with
    commands := s.commands.callbackNetworkRequest
      (fun r => if knows r.request then some r else none) r
    requests := s.requests ++ [r]
    lost := if knows r.request then s.lost else s.lost ++ [r] }

/-- The bytes go to the connection at the address. -/
def send (s : HttpService κ) (connection : Nat) (bytes : List Char) : κ → List Char :=
  match s.connections connection with
  | some client => Function.update s.sent client (s.sent client ++ bytes)
  | none => s.sent

def answer (s : HttpService κ) (r : HttpReply κ) : HttpService κ :=
  { s with
    executing := none
    sent := s.send r.request.mongooseConnection r.text
    replies := s.replies ++ [r] }

def step (knows : WebserverRequest → Bool) (s : HttpService κ) :
    HttpServiceAction κ → Option (HttpService κ)
  | .accept connection client =>
    if s.connections connection = none ∧ client ∉ s.connected then
      some { s with
        connections := Function.update s.connections connection (some client)
        connected := s.connected ++ [client] }
    else none
  | .request connection message memory =>
    (s.connections connection).bind fun client =>
      (s.server.incomingRequest connection message memory).map fun request =>
        s.arrive knows (s.newRequest client message request)
  | .close connection =>
    if (s.connections connection).isSome then
      some { s with connections := Function.update s.connections connection none }
    else none
  | .nextIncomingCommand =>
    if s.executing = none then
      s.commands.nextIncomingCommand.map fun (command, commands) =>
        { s with executing := some command, commands := commands }
    else none
  | .setOutcomingMessage code msg =>
    s.executing.bind fun command =>
      match command.request.withCode code with
      | .ok request =>
        if msg.length < 2 ^ 31 then
          some (s.answer { command := command, request := request, message := msg })
        else none
      | .error _ => none
  | .finish =>
    s.executing.map fun command =>
      { s with executing := none, lost := s.lost ++ [command] }

end HttpService

end MicroserviceCommon
