import MicroserviceCommon.Properties.WebsocketPresence

/-!
# Websocket requests identify their connection

Two requests should have the same id exactly when they came over the same connection. The ids are
kept for the host and port of the handshake, which is that of the server for most clients, and they
are never removed. A text message gets no id.

* `requests_identified_iff` — right exactly while no such mix-up is delivered
* `requests_of_two_clients_alike` — two clients of `localhost:9000`
-/

namespace MicroserviceCommon

open Infra

namespace WebsocketSystem

/-- The id that the server has for a connection. -/
def idOf (hostPort : Nat → String) (s : WebsocketSystem) (connection : Nat) :
    Option TConnectionId :=
  s.server.connectionsIds (hostPort connection)

/-- Ids tell whether two requests came over the same connection, and they are not inherited. -/
structure RequestsIdentified (hostPort : Nat → String) (s : WebsocketSystem) : Prop where
  requests : ∀ d ∈ s.delivered, ∀ d' ∈ s.delivered,
    (d.request.connectionId = d'.request.connectionId ↔ d.connection = d'.connection)
  successions : ∀ p ∈ s.successions, s.idOf hostPort p.1 ≠ s.idOf hostPort p.2

/-- The ids of a message of connection `c` and of one that was delivered before are as they should
be. Two binary messages differ by host and port, two text messages never, and a text message always
differs from a binary one. -/
def ToldApart (hostPort : Nat → String) (c : Nat) (opcode : Opcode) (d : DeliveredRequest) : Prop :=
  match opcode, d.opcode with
  | .binary, .binary => hostPort c = hostPort d.connection → c = d.connection
  | .text, .text => c = d.connection
  | .binary, .text | .text, .binary => c ≠ d.connection
  | .other, _ | _, .other => True

instance (hostPort : Nat → String) (c : Nat) (opcode : Opcode) (d : DeliveredRequest) :
    Decidable (ToldApart hostPort c opcode d) := by
  unfold ToldApart
  split <;> infer_instance

/-- A new connection has a host and port that no closed one had, and a message is told apart from
all that were delivered. -/
def KeptApart (hostPort : Nat → String) (s : WebsocketSystem) : WebsocketEvent → Prop
  | .open c => ∀ before ∈ s.closed, hostPort before ≠ hostPort c
  | .message c opcode _ => ∀ d ∈ s.delivered, ToldApart hostPort c opcode d
  | .close _ | .fail _ | .gateway _ => True

instance (hostPort : Nat → String) (s : WebsocketSystem) :
    ∀ e, Decidable (s.KeptApart hostPort e)
  | .open c => inferInstanceAs (Decidable (∀ before ∈ s.closed, hostPort before ≠ hostPort c))
  | .message c opcode _ =>
    inferInstanceAs (Decidable (∀ d ∈ s.delivered, ToldApart hostPort c opcode d))
  | .close _ | .fail _ | .gateway _ => isTrue trivial

/-! ## The invariant -/

/-- The id that a message of a connection gets. -/
def Marked (hostPort : Nat → String) (s : WebsocketSystem) (c : Nat) (opcode : Opcode)
    (id : TConnectionId) : Prop :=
  opcode = .binary ∧ s.idOf hostPort c = some id ∨ opcode = .text ∧ id = 0

/-- The ids are positive and belong to one key each. Connections that were opened have one. -/
structure IdsKept (hostPort : Nat → String) (s : WebsocketSystem) : Prop where
  generator : 0 < s.gateway.connectionIdGenerator.toInt
  drawn : ∀ key id, s.server.connectionsIds key = some id →
    0 < id.toInt ∧ id.toInt < s.gateway.connectionIdGenerator.toInt
  injective : ∀ key key' id, s.server.connectionsIds key = some id →
    s.server.connectionsIds key' = some id → key = key'
  opened : ∀ c ∈ s.opened, (s.idOf hostPort c).isSome
  closed : ∀ c ∈ s.closed, (s.idOf hostPort c).isSome
  before : ∀ p ∈ s.successions, (s.idOf hostPort p.1).isSome
  delivered : ∀ d ∈ s.delivered, s.Marked hostPort d.connection d.opcode d.request.connectionId
  unobserved : s.server.observers = [] → s.delivered = []

variable {hostPort : Nat → String} {s s' : WebsocketSystem} {e : WebsocketEvent}

namespace IdsKept

theorem start {gateway : CommunicationGatewayFacade}
    (h : 0 < gateway.connectionIdGenerator.toInt) (connId : TConnectionId) (observers : List Nat) :
    IdsKept hostPort (start gateway connId observers) where
  generator := h
  drawn := fun _ _ hid => by cases hid
  injective := fun _ _ _ hid => by cases hid
  opened := fun _ hc => absurd hc List.not_mem_nil
  closed := fun _ hc => absurd hc List.not_mem_nil
  before := fun _ hp => absurd hp List.not_mem_nil
  delivered := fun _ hd => absurd hd List.not_mem_nil
  unobserved := fun _ => rfl

/-- **Connections with one id have one host and port.** -/
theorem hostPort_eq (h : IdsKept hostPort s) {c c' : Nat} (hc : (s.idOf hostPort c).isSome)
    (heq : s.idOf hostPort c = s.idOf hostPort c') : hostPort c = hostPort c' := by
  obtain ⟨id, hid⟩ := Option.isSome_iff_exists.mp hc
  exact h.injective _ _ id hid (heq.symm.trans hid)

theorem idOf_eq_iff (h : IdsKept hostPort s) {c c' : Nat} (hc : (s.idOf hostPort c).isSome) :
    s.idOf hostPort c = s.idOf hostPort c' ↔ hostPort c = hostPort c' :=
  ⟨h.hostPort_eq hc, fun heq => congrArg s.server.connectionsIds heq⟩

/-- **Two ids tell their connections apart exactly when the messages are told apart.** -/
theorem toldApart_iff (h : IdsKept hostPort s) {c : Nat} {opcode : Opcode} {id : TConnectionId}
    {d : DeliveredRequest} (hc : s.Marked hostPort c opcode id)
    (hd : s.Marked hostPort d.connection d.opcode d.request.connectionId) :
    (id = d.request.connectionId ↔ c = d.connection) ↔ ToldApart hostPort c opcode d := by
  have hzero : (0 : TConnectionId).toInt = 0 := by decide
  -- an id that was drawn is not the one of a text message
  have hne : ∀ {c' : Nat} {id' : TConnectionId}, s.idOf hostPort c' = some id' → id' ≠ 0 := by
    rintro c' id' hid rfl
    exact absurd hzero (ne_of_gt (h.drawn _ _ hid).1)
  unfold ToldApart
  rcases hc with ⟨rfl, hid⟩ | ⟨rfl, rfl⟩ <;> rcases hd with ⟨hopcode, hid'⟩ | ⟨hopcode, hid'⟩ <;>
    rw [hopcode]
  · have hsame : id = d.request.connectionId ↔ hostPort c = hostPort d.connection := by
      rw [← h.idOf_eq_iff (hid ▸ rfl), hid, hid', Option.some.injEq]
    rw [hsame]
    exact ⟨Iff.mp, fun himp => ⟨himp, congrArg hostPort⟩⟩
  · rw [hid', iff_false_left (hne hid)]
  · rw [iff_false_left (hne hid').symm]
  · rw [hid', iff_true_left rfl]

/-! ### Steps -/

/-- An open draws one id, and enters it unless the host and port has one. -/
theorem of_open (h : IdsKept hostPort s) {c : Nat} (hs : s.step hostPort (.open c) = some s') :
    IdsKept hostPort s' := by
  obtain ⟨_, id, gateway, hid, rfl⟩ := step_open hs
  obtain ⟨hdrawn, _, hnext⟩ := CommunicationGatewayFacade.getConnectionId_eq_some hid
  rw [hdrawn] at hnext
  have hgenerator := h.generator
  have hkept : ∀ {key : String} {id' : TConnectionId}, s.server.connectionsIds key = some id' →
      s.server.connectionsIds.insert (hostPort c) id key = some id' := fun hold =>
    UnorderedMap.insert_eq_some_iff.mpr (Or.inl hold)
  have hknown : ∀ {c' : Nat}, (s.idOf hostPort c').isSome →
      (s.server.connectionsIds.insert (hostPort c) id (hostPort c')).isSome := fun hold =>
    (UnorderedMap.isSome_insert ..).mpr (Or.inr hold)
  constructor
  case generator =>
    show 0 < gateway.connectionIdGenerator.toInt
    omega
  case drawn =>
    intro key id' hkey
    show 0 < id'.toInt ∧ id'.toInt < gateway.connectionIdGenerator.toInt
    rcases UnorderedMap.insert_eq_some_iff.mp hkey with hold | ⟨_, _, rfl⟩
    · have hbounds := h.drawn key id' hold
      omega
    · rw [hdrawn]
      omega
  case injective =>
    -- the new id is above all that were drawn before
    intro key key' id' hkey hkey'
    rcases UnorderedMap.insert_eq_some_iff.mp hkey with hold | ⟨_, rfl, rfl⟩ <;>
      rcases UnorderedMap.insert_eq_some_iff.mp hkey' with hold' | ⟨_, rfl, hnew⟩
    · exact h.injective key key' id' hold hold'
    · have hbounds := h.drawn key id' hold
      rw [← hnew, hdrawn] at hbounds
      omega
    · have hbounds := h.drawn key' id hold'
      rw [hdrawn] at hbounds
      omega
    · rfl
  case opened =>
    intro c' hc'
    rcases List.mem_append.mp hc' with hold | hnew
    · exact hknown (h.opened c' hold)
    · rw [List.mem_singleton.mp hnew]
      exact (UnorderedMap.isSome_insert ..).mpr (Or.inl rfl)
  case closed => exact fun c' hc' => hknown (h.closed c' hc')
  case before =>
    intro p hp
    rcases List.mem_append.mp hp with hold | hnew
    · exact hknown (h.before p hold)
    · obtain ⟨c', hc', rfl⟩ := List.mem_map.mp hnew
      exact hknown (h.closed c' hc')
  case delivered =>
    exact fun d hd => (h.delivered d hd).imp_left (And.imp_right hkept)
  case unobserved => exact h.unobserved

/-- What is delivered has the id of its connection. -/
theorem of_message (h : IdsKept hostPort s) {c : Nat} {opcode : Opcode} {payload : Buffer}
    (hs : s.step hostPort (.message c opcode payload) = some s') : IdsKept hostPort s' := by
  obtain ⟨_, calls, hcalls, rfl⟩ := step_message hs
  have hkind := WebsocketServer.callbackIncomingMessage_eq_some hcalls
  refine { h with delivered := ?_, unobserved := ?_ }
  · intro d hd
    rcases List.mem_append.mp hd with hold | hnew
    · exact h.delivered d hold
    · obtain ⟨call, hcall, rfl⟩ := List.mem_map.mp hnew
      rcases hkind with ⟨_, rfl⟩ | ⟨r, rfl, hmarked⟩
      · exact absurd hcall List.not_mem_nil
      · obtain ⟨observer, _, rfl⟩ := List.mem_map.mp hcall
        exact hmarked
  · intro hnone
    have hnocalls : calls = [] := by
      rcases hkind with ⟨_, rfl⟩ | ⟨r, rfl, _⟩
      · rfl
      · exact List.map_eq_nil_iff.mpr hnone
    show s.delivered ++ deliveredRequests c opcode calls = []
    rw [h.unobserved hnone, hnocalls]
    rfl

/-- **The ids are kept by every event.** -/
theorem step (h : IdsKept hostPort s) (hs : s.step hostPort e = some s') : IdsKept hostPort s' := by
  cases e with
  | «open» c => exact h.of_open hs
  | message c opcode payload => exact h.of_message hs
  | close c =>
    obtain ⟨hopened, rfl⟩ := step_close hs
    refine { h with opened := fun c' hc' => h.opened c' (List.mem_of_mem_erase hc'), closed := ?_ }
    intro c' hc'
    rcases List.mem_append.mp hc' with hold | hnew
    · exact h.closed c' hold
    · rw [List.mem_singleton.mp hnew]
      exact h.opened c hopened
  | fail c =>
    obtain ⟨_, rfl⟩ := step_fail hs
    exact { h with }
  | gateway op =>
    obtain ⟨gateway, hop, rfl⟩ := step_gateway hs
    have hle := (CommunicationGatewayFacade.draws_step hop).le
    refine { h with generator := h.generator.trans_le hle, drawn := fun key id hid => ?_ }
    exact (h.drawn key id hid).imp_right fun hlt => hlt.trans_le hle

end IdsKept

theorem toldApart_other (c : Nat) (d : DeliveredRequest) : ToldApart hostPort c .other d := by
  unfold ToldApart
  cases d.opcode <;> trivial

/-- **A new connection inherits no id exactly when its host and port are new.** -/
theorem requestsIdentified_open_iff (h : IdsKept hostPort s) (hr : RequestsIdentified hostPort s)
    {c : Nat} (hs : s.step hostPort (.open c) = some s') :
    RequestsIdentified hostPort s' ↔ s.KeptApart hostPort (.open c) := by
  have h' := h.step hs
  obtain ⟨_, id, gateway, _, rfl⟩ := step_open hs
  constructor
  · intro hr' before hbefore
    have hmem : (before, c) ∈ s.successions ++ s.closed.map fun before => (before, c) :=
      List.mem_append_right _ (List.mem_map_of_mem hbefore)
    exact (not_congr (h'.idOf_eq_iff (h'.before _ hmem))).mp (hr'.successions _ hmem)
  · intro hkept
    refine ⟨hr.requests, fun p hp => (not_congr (h'.idOf_eq_iff (h'.before p hp))).mpr ?_⟩
    rcases List.mem_append.mp hp with hold | hnew
    · exact (not_congr (h.idOf_eq_iff (h.before p hold))).mp (hr.successions p hold)
    · obtain ⟨before, hbefore, rfl⟩ := List.mem_map.mp hnew
      exact hkept before hbefore

/-- **A message keeps the ids right exactly when it is told apart from those before.** -/
theorem requestsIdentified_message_iff (h : IdsKept hostPort s)
    (hr : RequestsIdentified hostPort s) {c : Nat} {opcode : Opcode} {payload : Buffer}
    (hs : s.step hostPort (.message c opcode payload) = some s') :
    RequestsIdentified hostPort s' ↔ s.KeptApart hostPort (.message c opcode payload) := by
  obtain ⟨_, calls, hcalls, rfl⟩ := step_message hs
  rcases WebsocketServer.callbackIncomingMessage_eq_some hcalls with ⟨rfl, rfl⟩ | ⟨r, rfl, hmarked⟩
  · refine iff_of_true ⟨fun d hd d' hd' => ?_, hr.successions⟩ fun d _ => toldApart_other c d
    exact hr.requests d (by simpa [deliveredRequests] using hd) d'
      (by simpa [deliveredRequests] using hd')
  · have htold : ∀ d ∈ s.delivered,
        ((r.connectionId = d.request.connectionId ↔ c = d.connection) ↔
          ToldApart hostPort c opcode d) := fun d hd => h.toldApart_iff hmarked (h.delivered d hd)
    constructor
    · intro hr' d hd
      -- an observer has the request
      have hobserved : s.server.observers ≠ [] := fun hnone =>
        List.ne_nil_of_mem hd (h.unobserved hnone)
      obtain ⟨observer, hobserver⟩ := List.exists_mem_of_ne_nil _ hobserved
      refine (htold d hd).mp (hr'.requests
        { observer := observer, connection := c, opcode := opcode, request := r } ?_ d
        (List.mem_append_left _ hd))
      exact List.mem_append_right _ (List.mem_map_of_mem (List.mem_map_of_mem hobserver))
    · intro hkept
      have hnew : ∀ d ∈ deliveredRequests c opcode
          (s.server.observers.map fun observer => (observer, r)),
          d.request = r ∧ d.connection = c := by
        intro d hd
        obtain ⟨_, hcall, rfl⟩ := List.mem_map.mp hd
        obtain ⟨observer, _, rfl⟩ := List.mem_map.mp hcall
        exact ⟨rfl, rfl⟩
      refine ⟨fun d hd d' hd' => ?_, hr.successions⟩
      rcases List.mem_append.mp hd with hold | hd <;>
        rcases List.mem_append.mp hd' with hold' | hd'
      · exact hr.requests d hold d' hold'
      · rw [(hnew d' hd').1, (hnew d' hd').2, eq_comm, eq_comm (a := d.connection)]
        exact (htold d hold).mpr (hkept d hold)
      · rw [(hnew d hd).1, (hnew d hd).2]
        exact (htold d' hold').mpr (hkept d' hold')
      · rw [(hnew d hd).1, (hnew d hd).2, (hnew d' hd').1, (hnew d' hd').2]
        exact iff_of_true rfl rfl

/-- **Only events that keep requests apart lead to identified requests, and all of them do.** -/
theorem requestsIdentified_step_iff (h : IdsKept hostPort s) (hr : RequestsIdentified hostPort s)
    (hs : s.step hostPort e = some s') :
    RequestsIdentified hostPort s' ↔ s.KeptApart hostPort e := by
  cases e with
  | «open» c => exact requestsIdentified_open_iff h hr hs
  | message c opcode payload => exact requestsIdentified_message_iff h hr hs
  | close c =>
    obtain ⟨_, rfl⟩ := step_close hs
    exact iff_of_true ⟨hr.requests, hr.successions⟩ trivial
  | fail c =>
    obtain ⟨_, rfl⟩ := step_fail hs
    exact iff_of_true ⟨hr.requests, hr.successions⟩ trivial
  | gateway op =>
    obtain ⟨gateway, _, rfl⟩ := step_gateway hs
    exact iff_of_true ⟨hr.requests, hr.successions⟩ trivial

/--
**When requests identify their connections.**

The gateway has created the server. In every state of a run the ids are right, exactly when every
event keeps the requests and the connections apart.
-/
theorem requests_identified_iff (hostPort : Nat → String) (ops : List GatewayOp)
    (gateway : CommunicationGatewayFacade) (server : NetworkEntity) (id : TConnectionId)
    (observers : List Nat) (events : List WebsocketEvent)
    (hgateway : runAll CommunicationGatewayFacade.step {} ops = some gateway)
    (hserver : (server, id) ∈ gateway.created) :
    AlwaysState (step hostPort) (RequestsIdentified hostPort)
        (start gateway server.connId observers) events ↔
      AlwaysStep (step hostPort) (KeptApart hostPort)
        (start gateway server.connId observers) events := by
  have hpos := CommunicationGatewayFacade.generator_pos_of_created hgateway
    (List.ne_nil_of_mem hserver)
  refine alwaysState_iff_of_inv _
    (fun s => IdsKept hostPort s ∧ RequestsIdentified hostPort s) (fun _ h => h.2) ?_ ?_ events _
    ⟨IdsKept.start hpos server.connId observers, ?_⟩
  · rintro s e s' ⟨h, hr⟩ he hs
    exact ⟨h.step hs, (requestsIdentified_step_iff h hr hs).mpr he⟩
  · rintro s e s' ⟨h, hr⟩ hs hr'
    exact (requestsIdentified_step_iff h hr hs).mp hr'
  · exact ⟨fun _ hd => absurd hd List.not_mem_nil, fun _ hp => absurd hp List.not_mem_nil⟩

/-- A client sends the byte 1 behind a header. -/
def framedByte : Buffer where
  bytes := List.replicate 16 0 ++ [1]
  beyond := fun _ => 0

/-- The gateway has one websocket server. -/
def websocketGateway : CommunicationGatewayFacade :=
  (({} : CommunicationGatewayFacade).getNewWebsocketServerConnection true 0).getD {}

theorem requests_identified_of_two_ports :
    AlwaysState (step fun c => if c = 1 then "host:1" else "host:2")
      (RequestsIdentified fun c => if c = 1 then "host:1" else "host:2")
      (start websocketGateway 0 [5])
      [.open 1, .open 2, .message 1 .binary framedByte, .message 2 .binary framedByte] :=
  (requests_identified_iff _ [.getNewWebsocketServerConnection true 0] websocketGateway
    ⟨0, .websocketServer, 0⟩ 0 [5] _ rfl List.mem_cons_self).mpr (by decide)

/-- Two clients of one address send a binary message each. Both requests have the id that was drawn
for the first client. -/
theorem requests_of_two_clients_alike :
    ∃ s d d', runAll (step fun _ => "localhost:9000") (start websocketGateway 0 [5])
        [.open 1, .open 2, .message 1 .binary framedByte, .message 2 .binary framedByte] = some s ∧
      d ∈ s.delivered ∧ d' ∈ s.delivered ∧ d.connection = 1 ∧ d'.connection = 2 ∧
      d.request.connectionId = 1 ∧ d'.request.connectionId = 1 ∧
      ¬ AlwaysState (step fun _ => "localhost:9000") (RequestsIdentified fun _ => "localhost:9000")
        (start websocketGateway 0 [5])
        [.open 1, .open 2, .message 1 .binary framedByte, .message 2 .binary framedByte] := by
  refine ⟨_, _, _, rfl, List.mem_cons_self, List.mem_cons_of_mem _ List.mem_cons_self, rfl, rfl,
    rfl, rfl, fun h => ?_⟩
  have hsame := ((h.last rfl).requests _ List.mem_cons_self _
    (List.mem_cons_of_mem _ List.mem_cons_self)).mp rfl
  cases hsame

end WebsocketSystem

end MicroserviceCommon
