import MicroserviceCommon.Communication.Requests

/-!
# Every command can answer

A command answers by `sendResponse`, with no user data. `AmqpRequest` overrides both functions that
are called then, `WebserverRequest` overrides one of them and dereferences the null pointer, and the
other requests end in the `assert` of the base class.

* `commands_answer_iff` — a command answers exactly when its request came from AMQP, with a
  correlation id and with an exchange and a routing key in the reply-to
* `command_of_http_unanswered` — a request to the webserver
-/

namespace MicroserviceCommon

open Infra AmqpClient

/-- The peer a request came from. A reply-to has an address when there is a delimiter in it. -/
def GatewayRequest.IsPeer : GatewayRequest → Peer → Prop
  | amqp r, peer =>
    ∃ ep rk, IsDivision r.replyTo replyToDelimeter ep rk ∧ peer = .amqp ep rk
  | webserver r, peer => peer = .http r.mongooseConnection
  | websocket r, peer => ∃ connection ∈ r.connectHandler, peer = .websocket connection
  | shell r, peer => peer = .shell r.clientSocketDscr

/-- The response returns. It sends the message once to the peer of the request, or nothing when
there is none. -/
def Answers (env : SendEnvironment) (c : AmqpClient) (request : GatewayRequest) (msg : String) :
    Prop :=
  ∃ c' sent, ICommandExternal.sendResponse env c request msg = .ok (c', sent) ∧
    (∀ peer, request.IsPeer peer → ∃ t, sent = [t] ∧ t.peer = peer ∧ t.body = msg) ∧
    ((¬ ∃ peer, request.IsPeer peer) → sent = [])

/-- It came from AMQP, with a correlation id, and its reply-to names an exchange and a routing
key. -/
def Arrival.Answerable : Arrival → Prop
  | amqp envelope => envelope.correlationId ≠ "" ∧
    ∃ ep rk, IsDivision envelope.replyTo replyToDelimeter ep rk ∧ ep ≠ "" ∧ rk ≠ "" ∧
      NulFree ep ∧ NulFree rk
  | http _ _ _ | websocket _ _ _ _ | shell _ _ => False

/-! ## Sending -/

section Send

variable {env : SendEnvironment} {c : AmqpClient} {msg : String}

theorem sendPackageAsync_of_ne {corrId exchangeName routingName : String} (c : AmqpClient)
    (published : Bool) (replyTo : String) (hmsg : msg ≠ "") (hcorr : corrId ≠ "")
    (hexchange : exchangeName ≠ "") (hrouting : routingName ≠ "") :
    ∃ c' t, c.sendPackageAsync published msg corrId exchangeName routingName replyTo =
        .ok (c', [t]) ∧
      t.peer = .amqp (cStr exchangeName) (cStr routingName) ∧ t.body = msg := by
  refine ⟨_, _, if_neg ?_, rfl, rfl⟩
  rintro (h | h | h | h)
  · exact hmsg h
  · exact hcorr h
  · exact hexchange h
  · exact hrouting h

/-- With no user data the route of an AMQP request is lost. -/
theorem sendResponse_amqp (r : RoutedAmqpRequest) :
    ICommandExternal.sendResponse env c (.amqp r) msg =
      { r with routingTarget := none }.sendMessageAsync env c msg := rfl

/-- **A reply whose address is there is sent once.** -/
theorem sendResponse_of_address {r : RoutedAmqpRequest} {ep rk : String} (env : SendEnvironment)
    (c : AmqpClient) (hmsg : msg ≠ "") (hcorr : r.correlationId ≠ "")
    (haddress : RoutedAmqpRequest.replyAddress r.replyTo = some (ep, rk)) (hep : ep ≠ "")
    (hrk : rk ≠ "") :
    ∃ c' t, ICommandExternal.sendResponse env c (.amqp r) msg = .ok (c', [t]) ∧
      t.peer = .amqp (cStr ep) (cStr rk) ∧ t.body = msg := by
  obtain ⟨c', t, hsend, hpeer, hbody⟩ :=
    sendPackageAsync_of_ne c env.published "i_am_replier" hmsg hcorr hep hrk
  refine ⟨c', t, ?_, hpeer, hbody⟩
  rw [sendResponse_amqp, RoutedAmqpRequest.sendMessageAsync, if_neg hcorr, haddress]
  exact hsend

theorem sendResponse_of_address_empty {r : RoutedAmqpRequest} {ep rk : String}
    (hcorr : r.correlationId ≠ "") (haddress : RoutedAmqpRequest.replyAddress r.replyTo =
      some (ep, rk)) (h : ep = "" ∨ rk = "") :
    ICommandExternal.sendResponse env c (.amqp r) msg = .error .assertion := by
  rw [sendResponse_amqp, RoutedAmqpRequest.sendMessageAsync, if_neg hcorr, haddress]
  exact if_pos (Or.inr (Or.inr h))

/-- A request without a correlation id goes the way of the requester, which has no route. -/
theorem sendResponse_of_no_correlationId {r : RoutedAmqpRequest} (h : r.correlationId = "") :
    ICommandExternal.sendResponse env c (.amqp r) msg = .error .nullDereference := by
  rw [sendResponse_amqp, RoutedAmqpRequest.sendMessageAsync, if_pos h]

end Send

/-! ## Requests of AMQP -/

section Amqp

variable {env : SendEnvironment} {c : AmqpClient} {msg : String} {r : RoutedAmqpRequest}

/-- With an address in the reply-to. -/
theorem answers_amqp_of_isDivision {ep rk : String} (hmsg : msg ≠ "") (hcorr : r.correlationId ≠ "")
    (h : IsDivision r.replyTo replyToDelimeter ep rk) :
    Answers env c (.amqp r) msg ↔ ep ≠ "" ∧ rk ≠ "" ∧ NulFree ep ∧ NulFree rk := by
  have haddress := replyAddress_of_isDivision h
  constructor
  · rintro ⟨c', sent, hsend, hpeer, _⟩
    by_cases hempty : ep = "" ∨ rk = ""
    · rw [sendResponse_of_address_empty hcorr haddress hempty] at hsend
      cases hsend
    · obtain ⟨hep, hrk⟩ := not_or.mp hempty
      obtain ⟨c₁, t₁, hsend₁, hpeer₁, _⟩ :=
        sendResponse_of_address env c hmsg hcorr haddress hep hrk
      rw [hsend₁] at hsend
      cases hsend
      obtain ⟨t, ht, hpeer, _⟩ := hpeer _ ⟨ep, rk, h, rfl⟩
      cases ht
      rw [hpeer₁, Peer.amqp.injEq] at hpeer
      exact ⟨hep, hrk, cStr_eq_self_iff.mp hpeer.1, cStr_eq_self_iff.mp hpeer.2⟩
  · rintro ⟨hep, hrk, hepfree, hrkfree⟩
    obtain ⟨c', t, hsend, hpeer, hbody⟩ :=
      sendResponse_of_address env c hmsg hcorr haddress hep hrk
    rw [cStr_of_nulFree hepfree, cStr_of_nulFree hrkfree] at hpeer
    refine ⟨c', [t], hsend, ?_, fun hno => absurd ⟨_, ep, rk, h, rfl⟩ hno⟩
    rintro _ ⟨ep', rk', h', rfl⟩
    obtain ⟨rfl, rfl⟩ := h.unique h'
    exact ⟨t, rfl, hpeer, hbody⟩

/-- Without an address something is sent all the same, or the `assert` fails. -/
theorem not_answers_amqp_of_not_mem (hmsg : msg ≠ "") (hcorr : r.correlationId ≠ "")
    (h : replyToDelimeter ∉ r.replyTo.toList) : ¬ Answers env c (.amqp r) msg := by
  have haddress := replyAddress_of_not_mem h
  rintro ⟨c', sent, hsend, _, hnone⟩
  by_cases hempty : r.replyTo = ""
  · rw [sendResponse_of_address_empty hcorr haddress (Or.inl hempty)] at hsend
    cases hsend
  · obtain ⟨c₁, t, hsend₁, _, _⟩ :=
      sendResponse_of_address env c hmsg hcorr haddress hempty hempty
    rw [hsend₁] at hsend
    cases hsend
    have hnopeer : ¬ ∃ peer, GatewayRequest.IsPeer (.amqp r) peer := by
      rintro ⟨_, ep, rk, hdivision, _⟩
      exact h hdivision.mem
    cases hnone hnopeer

theorem answers_amqp_iff (hmsg : msg ≠ "") :
    Answers env c (.amqp r) msg ↔ r.correlationId ≠ "" ∧
      ∃ ep rk, IsDivision r.replyTo replyToDelimeter ep rk ∧ ep ≠ "" ∧ rk ≠ "" ∧
        NulFree ep ∧ NulFree rk := by
  by_cases hcorr : r.correlationId = ""
  · refine iff_of_false ?_ fun h => h.1 hcorr
    rintro ⟨c', sent, hsend, _⟩
    rw [sendResponse_of_no_correlationId hcorr] at hsend
    cases hsend
  · by_cases hmem : replyToDelimeter ∈ r.replyTo.toList
    · obtain ⟨ep, rk, h⟩ := exists_isDivision hmem
      rw [answers_amqp_of_isDivision hmsg hcorr h]
      constructor
      · exact fun hgood => ⟨hcorr, ep, rk, h, hgood⟩
      · rintro ⟨_, ep', rk', h', hgood⟩
        obtain ⟨rfl, rfl⟩ := h.unique h'
        exact hgood
    · refine iff_of_false (not_answers_amqp_of_not_mem hmsg hcorr hmem) ?_
      rintro ⟨_, ep, rk, h, _⟩
      exact hmem h.mem

end Amqp

/-! ## Requests of the other transports -/

/-- **No request of another transport is answered.** -/
theorem not_answers_of_not_amqp {env : SendEnvironment} {c : AmqpClient} {msg : String}
    {request : GatewayRequest} (h : ∀ r, request ≠ .amqp r) : ¬ Answers env c request msg := by
  rintro ⟨c', sent, hsend, _⟩
  cases request with
  | amqp r => exact h r rfl
  | webserver r => cases hsend
  | websocket r => cases hsend
  | shell r => cases hsend

/-! ## Arrivals -/

/--
**When a command can answer.**

A request that reached an observer is answered exactly when it is answerable, whatever the client
has sent in the meantime.
-/
theorem commands_answer_iff (t : Transports) (arrival : Arrival) (observer : Nat)
    (request : GatewayRequest) (env : SendEnvironment) (c : AmqpClient) (msg : String)
    (hreached : (observer, request) ∈ t.callbacks arrival) (hmsg : msg ≠ "") :
    Answers env c request msg ↔ arrival.Answerable := by
  cases arrival with
  | amqp envelope =>
    obtain ⟨callback, hcallback, heq⟩ := List.mem_map.mp hreached
    cases heq
    cases hready : t.amqpClient.readyResponsesToAsyncMessages envelope.correlationId with
    | some v =>
      rw [poll_callbacks_of_isSome (by rw [hready]; rfl)] at hcallback
      exact absurd hcallback List.not_mem_nil
    | none =>
      rw [poll_of_none hready] at hcallback
      obtain ⟨_, _, rfl⟩ := List.mem_map.mp hcallback
      exact answers_amqp_iff hmsg
  | http connection message memory =>
    refine iff_of_false (not_answers_of_not_amqp ?_) id
    rintro r rfl
    simp only [Transports.callbacks, WebServer.networkRequests] at hreached
    split at hreached
    · cases hreached
    · obtain ⟨_, _, heq⟩ := List.mem_map.mp hreached
      cases heq
  | websocket connection hostPort opcode payload =>
    refine iff_of_false (not_answers_of_not_amqp ?_) id
    rintro r rfl
    obtain ⟨_, _, heq⟩ := List.mem_map.mp hreached
    cases heq
  | shell socketDscr message =>
    refine iff_of_false (not_answers_of_not_amqp ?_) id
    rintro r rfl
    simp only [Transports.callbacks, Shell.networkRequests] at hreached
    split at hreached
    · cases hreached
    · obtain ⟨_, _, heq⟩ := List.mem_map.mp hreached
      cases heq

/-- A request of another service, which expects the reply at `exchange%key`. -/
def addressedEnvelope : Envelope where
  correlationId := "id"
  replyTo := "exchange%key"
  body := "{}"

theorem commands_answer_addressed :
    Answers { now := 0, uniqueId := "new" } {}
      (.amqp { toAmqpRequest := AmqpClient.incomingRequest {} addressedEnvelope }) "ok" := by
  refine (commands_answer_iff { amqpClient := { observers := [1] } } (.amqp addressedEnvelope) 1
    _ _ _ "ok" ?_ (by decide)).mpr ?_
  · exact List.mem_cons_self
  · exact ⟨by decide, "exchange", "key", ⟨by decide, by decide⟩, by decide, by decide, by decide,
      by decide⟩

/-- A request to the webserver reaches the gateway, and its answer dereferences a null pointer. -/
theorem command_of_http_unanswered :
    ∃ (t : Transports) (request : GatewayRequest),
      (1, request) ∈ t.callbacks (.http 7 ⟨"GET", "/", "", ""⟩ 0) ∧
        ICommandExternal.sendResponse { now := 0, uniqueId := "new" } {} request "ok" =
          .error .nullDereference ∧
        ¬ Answers { now := 0, uniqueId := "new" } {} request "ok" := by
  refine ⟨{ webServer := { observers := [1], commandConvertor := some fun _ => "ping" } },
    _, List.mem_cons_self, rfl, not_answers_of_not_amqp ?_⟩
  rintro r h
  cases h

end MicroserviceCommon
