import MicroserviceCommon.Communication.ObjreprBus

/-!
# Objrepr service-bus direction

A message of a client should be taken by every server and by no client, and a message of a server by
every client and by no server. But every message is sent with the content type of a server.

* `directed_iff` — a message is directed exactly when its sender is in server mode and no client
  expects a header
* `message_of_client_misdirected` — one server and one client
-/

namespace MicroserviceCommon

open Infra

namespace ObjreprEndpoint

/-- In server mode the observers get exactly the message, in client mode it becomes the response. -/
def Accepts (e : ObjreprEndpoint) (message : ServiceMessage) (beyond : Nat → UInt8)
    (msg : List UInt8) : Prop :=
  if e.serverMode then
    ∃ r, e.delivery message beyond = .request r ∧ r.incomingMessage = msg ∧
      e.receive message beyond =
        some { endpoint := e, calls := e.observers.map fun observer => (observer, r) }
  else
    e.delivery message beyond = .response msg ∧
      e.receive message beyond =
        some { endpoint := { e with incomingMessageData := msg, responseCatched := true } }

/-- Nothing is called and nothing is kept. -/
def Ignores (e : ObjreprEndpoint) (message : ServiceMessage) (beyond : Nat → UInt8) : Prop :=
  e.delivery message beyond = .ignored ∧ e.receive message beyond = some { endpoint := e }

/-- The endpoints of the other mode accept the message, and those of the same mode ignore it. -/
def Directed (endpoints : List ObjreprEndpoint) (memory : ObjreprEndpoint → Nat → UInt8)
    (serverMode : Bool) (message : ServiceMessage) (msg : List UInt8) : Prop :=
  ∀ e ∈ endpoints, if e.serverMode = serverMode then e.Ignores message (memory e)
    else e.Accepts message (memory e) msg

variable {e : ObjreprEndpoint} {msg : List UInt8} {beyond : Nat → UInt8}

/-! ## Receiving a message of a server -/

theorem ignores_of_delivery {message : ServiceMessage} (h : e.delivery message beyond = .ignored) :
    e.Ignores message beyond := by
  refine ⟨h, ?_⟩
  rw [receive, h]

/-- **A server ignores the content type of a server.** -/
theorem ignores_of_serverMode (h : e.serverMode = true) :
    e.Ignores ⟨.server, msg⟩ beyond := by
  refine ignores_of_delivery ?_
  rw [delivery, if_pos h]
  rfl

/-- **A client without a header takes it as it is.** -/
theorem delivery_of_clientMode (h : e.serverMode = false) (hheader : e.withPackageHeader = false)
    (hmsg : msg ≠ []) : e.delivery ⟨.server, msg⟩ beyond = .response msg := by
  have hsize : ({ bytes := msg, beyond := beyond } : Buffer).size ≠ 0 := fun hz =>
    hmsg (List.length_eq_zero_iff.mp hz)
  rw [delivery, if_neg (by rw [h]; exact Bool.false_ne_true)]
  rw [ObjreprListener.callbackFromObjreprClientMode, if_neg (fun hne => hne rfl), if_neg hsize,
    if_neg (by rw [hheader]; exact Bool.false_ne_true)]
  show Delivery.response (Buffer.slice _ 0 _) = _
  rw [Buffer.slice_of_le (by omega), List.drop_zero]
  exact congrArg _ (List.take_length)

theorem accepts_of_clientMode (h : e.serverMode = false) (hheader : e.withPackageHeader = false)
    (hmsg : msg ≠ []) : e.Accepts ⟨.server, msg⟩ beyond msg := by
  have hdelivery : e.delivery ⟨.server, msg⟩ beyond = .response msg :=
    delivery_of_clientMode h hheader hmsg
  rw [Accepts, if_neg (by rw [h]; exact Bool.false_ne_true)]
  refine ⟨hdelivery, ?_⟩
  rw [receive, hdelivery]

/-- What is assigned has another length than the payload. -/
theorem assignMessage_ne (hmsg : msg ≠ []) :
    (assignMessage { bytes := msg, beyond := beyond }).value ≠ some msg := by
  have hpos : 0 < msg.length := List.length_pos_of_ne_nil hmsg
  rw [assignMessage]
  split
  · intro heq
    have hlength := congrArg List.length (Option.some.inj heq)
    rw [Buffer.readSlice_value, Buffer.length_slice] at hlength
    have hcount : (UInt64.ofNat msg.length - 1).toNat = msg.length := hlength
    have hlt : msg.length < 2 ^ 64 := hcount ▸ (UInt64.ofNat msg.length - 1).toNat_lt
    rw [UInt64.toNat_sub, UInt64.toNat_ofNat_of_lt' hlt, UInt64.toNat_one] at hcount
    omega
  · exact fun h => by cases h

/-- **A client with a header does not take it as it is.** -/
theorem not_accepts_of_header (h : e.serverMode = false) (hheader : e.withPackageHeader = true)
    (hmsg : msg ≠ []) : ¬ e.Accepts ⟨.server, msg⟩ beyond msg := by
  have hsize : ({ bytes := msg, beyond := beyond } : Buffer).size ≠ 0 := fun hz =>
    hmsg (List.length_eq_zero_iff.mp hz)
  rw [Accepts, if_neg (by rw [h]; exact Bool.false_ne_true)]
  rintro ⟨hdelivery, _⟩
  rw [delivery, if_neg (by rw [h]; exact Bool.false_ne_true)] at hdelivery
  rw [ObjreprListener.callbackFromObjreprClientMode, if_neg (fun hne => hne rfl), if_neg hsize,
    if_pos hheader, Traced.value_bind] at hdelivery
  split at hdelivery
  · -- the initiative of a server
    rw [Traced.value_bind] at hdelivery
    split at hdelivery <;> cases hdelivery
  · rw [Traced.value_bind] at hdelivery
    split at hdelivery
    · cases hdelivery
    · next m hassigned =>
      cases hdelivery
      exact assignMessage_ne hmsg hassigned

/-! ## A message on the bus -/

/-- The sender is subscribed too. -/
theorem not_directed_of_clientMode {endpoints : List ObjreprEndpoint}
    {memory : ObjreprEndpoint → Nat → UInt8} (he : e ∈ endpoints) (h : e.serverMode = false)
    (hheader : e.withPackageHeader = false) (hmsg : msg ≠ []) :
    ¬ Directed endpoints memory e.serverMode ⟨.server, msg⟩ msg := by
  intro hdirected
  have hself := hdirected e he
  rw [if_pos rfl] at hself
  have hignored := hself.1
  rw [delivery_of_clientMode h hheader hmsg] at hignored
  cases hignored

/--
**When a message goes the right way.**

Exactly when its sender is in server mode, and every endpoint in client mode is without a header.
-/
theorem directed_iff (endpoints : List ObjreprEndpoint) (memory : ObjreprEndpoint → Nat → UInt8)
    (sender : ObjreprEndpoint) (header : SHeader) (msg : List UInt8) (padding : Vector UInt8 7)
    (hsender : sender ∈ endpoints) (hheader : sender.withPackageHeader = false) (hmsg : msg ≠ []) :
    Directed endpoints memory sender.serverMode (sender.setOutcomingMessage header msg padding)
        msg ↔
      sender.serverMode = true ∧
        ∀ e ∈ endpoints, e.serverMode = false → e.withPackageHeader = false := by
  have hmessage : sender.setOutcomingMessage header msg padding = ⟨.server, msg⟩ := by
    rw [setOutcomingMessage, if_neg (by rw [hheader]; exact Bool.false_ne_true)]
  rw [hmessage]
  constructor
  · intro hdirected
    have hmode : sender.serverMode = true := by
      by_contra hclient
      exact not_directed_of_clientMode hsender (Bool.eq_false_iff.mpr hclient) hheader hmsg
        hdirected
    refine ⟨hmode, fun e he hclient => Bool.eq_false_iff.mpr fun hwith => ?_⟩
    have haccepts := hdirected e he
    rw [hclient, hmode, if_neg Bool.false_ne_true] at haccepts
    exact not_accepts_of_header hclient hwith hmsg haccepts
  · rintro ⟨hmode, hplain⟩ e he
    rw [hmode]
    split
    · next hserver => exact ignores_of_serverMode hserver
    · next hclient =>
      have hclient' := Bool.eq_false_iff.mpr hclient
      exact accepts_of_clientMode hclient' (hplain e he hclient') hmsg

/-- Two servers and a client. -/
theorem directed_of_server :
    Directed [{ serverMode := true }, { serverMode := true, connId := 1 },
        { serverMode := false, connId := 2 }] (fun _ _ => 0) true
      (setOutcomingMessage { serverMode := true } {} [112] (Vector.replicate 7 0)) [112] :=
  (directed_iff _ (fun _ _ => 0) { serverMode := true } {} [112] _ List.mem_cons_self rfl
    (by decide)).mpr (by decide)

/-- The server does not get the message of the client, which takes it for a response. -/
theorem message_of_client_misdirected :
    ∃ server client : ObjreprEndpoint, server.serverMode = true ∧ client.serverMode = false ∧
      server.delivery (client.setOutcomingMessage {} [112] (Vector.replicate 7 0)) (fun _ => 0) =
        .ignored ∧
      client.delivery (client.setOutcomingMessage {} [112] (Vector.replicate 7 0)) (fun _ => 0) =
        .response [112] ∧
      ¬ Directed [server, client] (fun _ _ => 0) client.serverMode
        (client.setOutcomingMessage {} [112] (Vector.replicate 7 0)) [112] := by
  refine ⟨{ serverMode := true }, { serverMode := false }, rfl, rfl, rfl, by decide, fun h => ?_⟩
  exact not_directed_of_clientMode (List.mem_cons_of_mem _ List.mem_cons_self) rfl rfl
    (List.cons_ne_nil _ _) h

end ObjreprEndpoint

end MicroserviceCommon
