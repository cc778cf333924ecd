import MicroserviceCommon.Communication.AmqpController

/-!
# The reply goes to the address of the requester

A requester joins the names of its own exchange and routing key, and a replier takes them apart at
the first delimiter. `configureRoute` looks for it in the exchange only, and that is enough.

* `configureRoute_prohibits_iff` — which routes are prohibited
* `reply_to_requester` — the replier sends to exactly the names of the route
-/

namespace MicroserviceCommon

open Infra AmqpClient

namespace AmqpController

/-! ## The check -/

theorem hasDelimeter_iff {name : String} :
    hasDelimeter name = true ↔ replyToDelimeter ∈ name.toList := by
  unfold hasDelimeter
  constructor
  · intro h
    by_contra hmem
    rw [findChar_of_not_mem hmem] at h
    cases h
  · intro h
    obtain ⟨left, right, hdivision⟩ := exists_isDivision h
    rw [findChar_of_isDivision hdivision]
    rfl

/-- **Only a delimiter in the exchange is prohibited.** -/
theorem configureRoute_prohibits_iff (client : RouteDeclarations) (route : SAmqpRouteParameters) :
    configureRoute client route = .error .prohibitedDelimeter ↔
      replyToDelimeter ∈ route.predatorExchangePointName.toList := by
  rw [← hasDelimeter_iff]
  unfold configureRoute
  cases hdelimeter : hasDelimeter route.predatorExchangePointName with
  | true => exact ⟨fun _ => rfl, fun _ => rfl⟩
  | false =>
    -- the other errors are those of the client
    refine ⟨fun h => ?_, fun h => absurd h (by decide)⟩
    cases hexchange : client.createExchangePoint route.predatorExchangePointName with
    | error lastError =>
      rw [hexchange] at h
      cases h
    | ok _ =>
      cases hmailbox : client.createMailbox route.predatorExchangePointName
          route.predatorQueueName route.predatorRoutingKeyName with
      | error lastError =>
        rw [hexchange, hmailbox] at h
        cases h
      | ok _ =>
        rw [hexchange, hmailbox] at h
        by_cases hempty : route.targetExchangePointName = ""
        · rw [if_neg (not_not.mpr hempty)] at h
          cases h
        · rw [if_pos hempty] at h
          cases htarget : client.createExchangePoint route.targetExchangePointName with
          | error lastError =>
            rw [htarget] at h
            cases h
          | ok _ =>
            rw [htarget] at h
            cases h

end AmqpController

/-! ## Composed and taken apart -/

/-- A request with this route has published the message, in one of the two modes. -/
inductive Requests (route : SAmqpRouteParameters) : Transmission → Prop where
  | sendMessageAsync {env : SendEnvironment} {c c' : AmqpClient} {r : RoutedAmqpRequest}
      {msg : String} {t : Transmission} (hroute : r.routingTarget = some route)
      (hnew : r.correlationId = "") (h : r.sendMessageAsync env c msg = .ok (c', [t])) :
      Requests route t
  | setOutcomingMessage {env : SendEnvironment} {c c' : AmqpClient} {r : RoutedAmqpRequest}
      {msg : String} {t : Transmission} (hroute : r.routingTarget = some route)
      (h : r.setOutcomingMessage env c msg = .ok (c', t)) : Requests route t

variable {route : SAmqpRouteParameters} {t : Transmission}

/-- Both modes compose the same reply-to. -/
theorem Requests.replyTo (h : Requests route t) :
    t.replyTo = cStr (route.predatorExchangePointName ++ String.singleton replyToDelimeter ++
      route.predatorRoutingKeyName) := by
  cases h with
  | sendMessageAsync hroute hnew h =>
    rw [RoutedAmqpRequest.sendMessageAsync, if_pos hnew, hroute] at h
    dsimp only at h
    unfold sendPackageAsync at h
    split at h
    · cases h
    · cases h
      rfl
  | setOutcomingMessage hroute h =>
    rw [RoutedAmqpRequest.setOutcomingMessage, hroute] at h
    cases h
    rfl

/-- Joined without a NUL there is none. -/
theorem nulFree_join {left right : String} {c : Char} (hleft : NulFree left)
    (hright : NulFree right) (hc : c ≠ '\x00') :
    NulFree (left ++ String.singleton c ++ right) := by
  unfold NulFree at *
  rw [String.toList_append, String.toList_append, String.toList_singleton, List.mem_append,
    List.mem_append, List.mem_singleton]
  rintro ((h | h) | h)
  · exact hleft h
  · exact hc h.symm
  · exact hright h

/-- The reply-to of a route that is not prohibited is divided between the two names. -/
theorem Requests.isDivision (h : Requests route t)
    (hroute : replyToDelimeter ∉ route.predatorExchangePointName.toList)
    (hep : NulFree route.predatorExchangePointName) (hrk : NulFree route.predatorRoutingKeyName) :
    IsDivision t.replyTo replyToDelimeter route.predatorExchangePointName
      route.predatorRoutingKeyName := by
  refine ⟨?_, hroute⟩
  rw [h.replyTo]
  exact cStr_of_nulFree (nulFree_join hep hrk (by decide))

/--
**The replier sends to exactly the names of the requester.**

The routing key may have delimiters in it, because the exchange has none.
-/
theorem reply_to_requester (client : RouteDeclarations) (route : SAmqpRouteParameters)
    (hroute : AmqpController.configureRoute client route ≠
      .error AmqpController.RouteError.prohibitedDelimeter)
    (hep : NulFree route.predatorExchangePointName) (hrk : NulFree route.predatorRoutingKeyName)
    (t : Transmission) (ht : Requests route t) (c : AmqpClient) (envelope : Envelope)
    (hcarried : envelope.replyTo = t.replyTo) (hcorrId : envelope.correlationId ≠ "")
    (env : SendEnvironment) (msg : String) :
    let replier : RoutedAmqpRequest := { toAmqpRequest := c.incomingRequest envelope }
    RoutedAmqpRequest.replyAddress replier.replyTo =
        some (route.predatorExchangePointName, route.predatorRoutingKeyName) ∧
      replier.sendMessageAsync env c msg =
        c.sendPackageAsync env.published msg envelope.correlationId
          route.predatorExchangePointName route.predatorRoutingKeyName "i_am_replier" := by
  intro replier
  have hdivision := ht.isDivision
    (fun h => hroute ((AmqpController.configureRoute_prohibits_iff client route).mpr h)) hep hrk
  have haddress : RoutedAmqpRequest.replyAddress replier.replyTo =
      some (route.predatorExchangePointName, route.predatorRoutingKeyName) := by
    rw [← hcarried] at hdivision
    exact replyAddress_of_isDivision hdivision
  have hreplier : ¬ replier.correlationId = "" := hcorrId
  refine ⟨haddress, ?_⟩
  rw [RoutedAmqpRequest.sendMessageAsync, if_neg hreplier, haddress]
  rfl

/-- A routing key with delimiters. -/
def busRoute : SAmqpRouteParameters where
  predatorExchangePointName := "players"
  predatorRoutingKeyName := "%a%%b"
  targetExchangePointName := "recorders"
  targetRoutingKeyName := "all"

/-- The request of `busRoute` with the message `hello`, as it was published. -/
def busTransmission : Transmission where
  peer := .amqp "recorders" "all"
  body := "hello"
  correlationId := "42"
  replyTo := "players%%a%%b"
  expiration := "30000"

theorem busTransmission_requests : Requests busRoute busTransmission :=
  @Requests.sendMessageAsync busRoute { now := 0, uniqueId := "42" } {} _
    (AmqpController.getRequestInstance busRoute) "hello" busTransmission rfl rfl rfl

theorem busRoute_reply :
    RoutedAmqpRequest.replyAddress "players%%a%%b" = some ("players", "%a%%b") ∧
      RoutedAmqpRequest.sendMessageAsync { now := 0, uniqueId := "43" } {}
          { correlationId := "42", replyTo := "players%%a%%b", incomingMessage := "hello" } "done" =
        sendPackageAsync true {} "done" "42" "players" "%a%%b" "i_am_replier" :=
  reply_to_requester
    { createExchangePoint := fun _ => .ok (), createMailbox := fun _ _ _ => .ok () } busRoute
    (fun h => absurd ((AmqpController.configureRoute_prohibits_iff _ _).mp h) (by decide))
    (by decide) (by decide) busTransmission busTransmission_requests {}
    { correlationId := "42", replyTo := "players%%a%%b", body := "hello" } rfl (by decide)
    { now := 0, uniqueId := "43" } "done"

end MicroserviceCommon
