import MicroserviceCommon.Communication.WebsocketServer

/-!
# Websocket connection presence

A server should take a connection for established while at least one is open. But there is one flag
for all connections, and the handle of the first connection is overwritten by every later one.

* `connection_present_iff` — right exactly while there is never an open connection when another one
  is opened or fails
* `connection_of_other_client_lost` — two clients, one of which leaves
-/

namespace MicroserviceCommon

open Infra

namespace WebsocketSystem

/-- The flag says whether a connection is open, a request to an open connection is transmitted, and
the handle is that of the earliest open connection. -/
structure ConnectionPresent (s : WebsocketSystem) : Prop where
  established : s.server.connectionEstablished = true ↔ s.opened ≠ []
  transmits : ∀ c ∈ s.opened, ∀ r : WebsocketServerRequest, r.connectHandler = some c →
    ∀ msg padding, r.setOutcomingMessage s.server s.opened msg padding =
      [(c, sendAsyncRequest { header := r.header, msg := msg } padding)]
  first : ∀ c ∈ s.opened.head?, s.server.getRequestInstance.connectHandler = some c

/-- A connection is opened or fails only while no other one is open. -/
def OneAtATime (s : WebsocketSystem) : WebsocketEvent → Prop
  | .open _ | .fail _ => s.opened = []
  | .close _ | .message _ _ _ | .gateway _ => True

/-- A server that nobody has connected to. -/
def start (gateway : CommunicationGatewayFacade) (connId : TConnectionId) (observers : List Nat) :
    WebsocketSystem where
  gateway := gateway
  server := { connId := connId, observers := observers }

/-! ## The invariant -/

/-- At most one connection is open, and the flag and the handle are about it. -/
structure AtMostOne (s : WebsocketSystem) : Prop where
  length : s.opened.length ≤ 1
  established : s.server.connectionEstablished = true ↔ s.opened ≠ []
  handle : ∀ c ∈ s.opened, s.server.handleOfFirstConnection = some c

variable {hostPort : Nat → String} {s s' : WebsocketSystem} {e : WebsocketEvent}

theorem AtMostOne.start (gateway : CommunicationGatewayFacade) (connId : TConnectionId)
    (observers : List Nat) : AtMostOne (start gateway connId observers) where
  length := Nat.zero_le _
  established := iff_of_false Bool.false_ne_true fun h => h rfl
  handle := fun _ h => absurd h List.not_mem_nil

theorem transmits_of_established (h : s.server.connectionEstablished = true) {c : Nat}
    (hc : c ∈ s.opened) {r : WebsocketServerRequest} (hr : r.connectHandler = some c)
    (msg : List UInt8) (padding : Vector UInt8 7) :
    r.setOutcomingMessage s.server s.opened msg padding =
      [(c, sendAsyncRequest { header := r.header, msg := msg } padding)] := by
  have hhandler : r.connectHandler.filter (· ∈ s.opened) = some c := by
    rw [hr]
    exact Option.filter_some_pos (decide_eq_true hc)
  rw [WebsocketServerRequest.setOutcomingMessage, if_pos h, hhandler]
  rfl

theorem AtMostOne.present (h : AtMostOne s) : ConnectionPresent s where
  established := h.established
  transmits := fun _ hc _ hr msg padding =>
    transmits_of_established (h.established.mpr (List.ne_nil_of_mem hc)) hc hr msg padding
  first := fun c hc => h.handle c (List.mem_of_mem_head? hc)

/-! ## Steps -/

/-- **One connection at a time is always known.** -/
theorem AtMostOne.step (h : AtMostOne s) (he : s.OneAtATime e) (hs : s.step hostPort e = some s') :
    AtMostOne s' := by
  cases e with
  | «open» c =>
    obtain ⟨_, id, gateway, _, rfl⟩ := step_open hs
    have hnil : s.opened = [] := he
    refine ⟨?_, iff_of_true rfl (List.append_ne_nil_of_right_ne_nil _ (List.cons_ne_nil _ _)), ?_⟩
    · show (s.opened ++ [c]).length ≤ 1
      rw [hnil]
      exact le_refl 1
    · intro c' hc'
      have hmem : c' ∈ s.opened ++ [c] := hc'
      rw [hnil] at hmem
      rw [List.mem_singleton.mp hmem]
      rfl
  | close c =>
    obtain ⟨hopened, rfl⟩ := step_close hs
    -- the connection that closes was the only one
    have hone : s.opened = [c] := by
      obtain ⟨c', hc'⟩ := List.length_eq_one_iff.mp
        (le_antisymm h.length (List.length_pos_of_mem hopened))
      rw [hc'] at hopened ⊢
      rw [List.mem_singleton.mp hopened]
    have hnil : s.opened.erase c = [] := by
      rw [hone]
      exact List.erase_cons_head c []
    refine ⟨?_, iff_of_false Bool.false_ne_true fun hne => hne hnil, ?_⟩
    · show (s.opened.erase c).length ≤ 1
      rw [hnil]
      exact Nat.zero_le 1
    · intro c' hc'
      have hmem : c' ∈ s.opened.erase c := hc'
      rw [hnil] at hmem
      exact absurd hmem List.not_mem_nil
  | fail c =>
    obtain ⟨_, rfl⟩ := step_fail hs
    have hnil : s.opened = [] := he
    exact ⟨h.length, iff_of_false Bool.false_ne_true fun hne => hne hnil, h.handle⟩
  | message c opcode payload =>
    obtain ⟨_, calls, _, rfl⟩ := step_message hs
    exact ⟨h.length, h.established, h.handle⟩
  | gateway op =>
    obtain ⟨gateway, _, rfl⟩ := step_gateway hs
    exact ⟨h.length, h.established, h.handle⟩

/-- **A second open, or a fail beside an open connection, is seen at once.** -/
theorem ConnectionPresent.oneAtATime (h' : ConnectionPresent s')
    (hs : s.step hostPort e = some s') : s.OneAtATime e := by
  cases e with
  | «open» c =>
    obtain ⟨hfresh, id, gateway, _, rfl⟩ := step_open hs
    by_contra hne
    obtain ⟨c₀, cs, hcons⟩ := List.exists_cons_of_ne_nil hne
    have hhead : c₀ ∈ (s.opened ++ [c]).head? := by
      rw [hcons]
      rfl
    -- the earliest connection is another one than that of the handle
    have hfirst : some c = some c₀ := h'.first c₀ hhead
    refine hfresh.1 ?_
    rw [hcons, Option.some.inj hfirst]
    exact List.mem_cons_self
  | fail c =>
    obtain ⟨_, rfl⟩ := step_fail hs
    by_contra hne
    have hflag : false = true := h'.established.mpr hne
    cases hflag
  | close c | message c opcode payload | gateway op => trivial

/--
**When the presence of connections is known.**

In every state of a run, exactly when no connection is opened or fails while another one is open.
-/
theorem connection_present_iff (hostPort : Nat → String) (gateway : CommunicationGatewayFacade)
    (connId : TConnectionId) (observers : List Nat) (events : List WebsocketEvent) :
    AlwaysState (step hostPort) ConnectionPresent (start gateway connId observers) events ↔
      AlwaysStep (step hostPort) OneAtATime (start gateway connId observers) events :=
  alwaysState_iff_of_inv _ AtMostOne (fun _ h => h.present) (fun _ _ _ h he hs => h.step he hs)
    (fun _ _ _ _ hs h' => h'.oneAtATime hs) events _ (AtMostOne.start gateway connId observers)

/-- The first of two clients leaves. The second one is open and gets nothing any more. -/
theorem connection_of_other_client_lost :
    ∃ s, runAll (step fun _ => "host:80") (start {} 0 [1]) [.open 1, .open 2, .close 1] = some s ∧
      s.opened = [2] ∧ s.server.connectionEstablished = false ∧
      (∀ msg padding,
        s.server.getRequestInstance.setOutcomingMessage s.server s.opened msg padding = []) ∧
      ¬ AlwaysState (step fun _ => "host:80") ConnectionPresent (start {} 0 [1])
        [.open 1, .open 2, .close 1] := by
  refine ⟨_, rfl, rfl, rfl, fun _ _ => rfl, fun h => ?_⟩
  have hflag : false = true := (h.last rfl).established.mpr (List.cons_ne_nil 2 [])
  cases hflag

end WebsocketSystem

end MicroserviceCommon
