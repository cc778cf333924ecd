import MicroserviceCommon.Infra.Run
import MicroserviceCommon.Communication.RequestLife

/-!
# The life of an AMQP request object

The flag of a time-out is never taken back, and a check looks at the time also when there is no
request.

* `lifeCycle_iff` — the object tells the fate of its latest request exactly while idle objects are
  not checked late, nothing is sent after a time-out, and the clock is compared without overflow
-/

namespace MicroserviceCommon

open Infra

namespace RequestLife

variable {s s' : RequestLife}

/-- The object and the refused ids tell the truth. -/
structure TellsFate (s : RequestLife) : Prop where
  performing : s.request.isPerforming = s.latest.isOutstanding
  timeouted : s.request.isTimeouted = true ↔ s.latest = .timedOut
  refused : ∀ corrId ∈ s.client.refusedMessages, corrId ≠ "" ∧ corrId ∈ s.timedOutIds

/-- The check of an idle object changes neither the object nor the client. -/
def IdleUnchanged (s : RequestLife) : LifeAction → Prop
  | .checkResponseReadyness now => s.latest.isOutstanding = false →
      (s.checkResponseReadyness now).request = s.request ∧
        (s.checkResponseReadyness now).client = s.client
  | .sendMessageAsync _ _ | .getAsyncResponse | .poll _ => True

/-- The comparison of `checkResponseReadyness`. -/
def IsLate (s : RequestLife) (now : Int64) : Prop :=
  now - s.request.requestTimeMillisec > (s.client.deliveredMessageExpirationSec * 1000).toInt64

instance (s : RequestLife) (now : Int64) : Decidable (s.IsLate now) :=
  inferInstanceAs (Decidable (_ < _))

/-- The same comparison of the numbers. -/
def IsExpired (s : RequestLife) (now : Int64) : Prop :=
  RequestFate.expired s.client.deliveredMessageExpirationSec s.request.requestTimeMillisec now =
    true

instance (s : RequestLife) (now : Int64) : Decidable (s.IsExpired now) :=
  inferInstanceAs (Decidable (_ = _))

/-- An idle object is not checked late, and the time of a request is compared without overflow. -/
def CheckedInTime (s : RequestLife) (now : Int64) : Prop :=
  if s.request.isPerforming then s.IsLate now ↔ s.IsExpired now else ¬ s.IsLate now

/-- Besides, nothing is sent through an object that has timed out. -/
def UsedInTime (s : RequestLife) : LifeAction → Prop
  | .sendMessageAsync _ _ => s.request.isTimeouted = false
  | .checkResponseReadyness now => s.CheckedInTime now
  | .getAsyncResponse | .poll _ => True

/-! ## The invariant -/

/-- The object holds the id and the time of the outstanding request. -/
structure LifeInv (s : RequestLife) : Prop extends s.TellsFate where
  requester : s.request.replyTo = ""
  outstanding : ∀ corrId sentAt, s.latest = .outstanding corrId sentAt →
    s.request.correlationId = corrId ∧ s.request.requestTimeMillisec = sentAt
  unregistered : s.client.readyResponsesToAsyncMessages "" = none
  ready : s.ready = true → s.request.isPerforming = true

theorem isPerforming_iff {r : AEnvironmentRequest} :
    r.isPerforming = true ↔ r.correlationId ≠ "" := by
  unfold AEnvironmentRequest.isPerforming
  exact bne_iff_ne

theorem lifeInv_start (connId : TConnectionId) (expirationSec : Int32)
    (route : SAmqpRouteParameters) : (start connId expirationSec route).LifeInv where
  performing := rfl
  timeouted := ⟨fun h => (nomatch h), fun h => (nomatch h)⟩
  refused _ h := absurd h List.not_mem_nil
  requester := rfl
  outstanding _ _ h := nomatch h
  unregistered := rfl
  ready h := nomatch h

/-! ## Sending -/

theorem sendPackageAsync_eq_ok {c c' : AmqpClient} {published : Bool} {ts : List Transmission}
    {msg corrId exchangeName routingName replyTo : String}
    (h : c.sendPackageAsync published msg corrId exchangeName routingName replyTo = .ok (c', ts)) :
    corrId ≠ "" ∧ exchangeName ≠ "" ∧ c'.refusedMessages = c.refusedMessages ∧
      c'.readyResponsesToAsyncMessages "" = c.readyResponsesToAsyncMessages "" := by
  unfold AmqpClient.sendPackageAsync at h
  split at h
  · cases h
  · next hfull =>
    rw [not_or, not_or, not_or] at hfull
    rw [Except.ok.injEq, Prod.mk.injEq] at h
    refine ⟨hfull.2.1, hfull.2.2.1, ?_⟩
    rw [← h.1]
    split
    · exact ⟨rfl, if_neg (Ne.symm hfull.2.1)⟩
    · exact ⟨rfl, rfl⟩

/-- A request that is performing is taken for a reply without an address, and an `assert` fails. -/
theorem sendMessageAsync_eq_ok {r : RoutedAmqpRequest} (hrequester : r.replyTo = "")
    {env : SendEnvironment} {c c' : AmqpClient} {msg : String} {ts : List Transmission}
    (h : r.sendMessageAsync env c msg = .ok (c', ts)) :
    r.correlationId = "" ∧ env.uniqueId ≠ "" ∧ c'.refusedMessages = c.refusedMessages ∧
      c'.readyResponsesToAsyncMessages "" = c.readyResponsesToAsyncMessages "" := by
  unfold RoutedAmqpRequest.sendMessageAsync at h
  split at h
  · next hidle =>
    split at h
    · cases h
    · obtain ⟨hid, _, hclient⟩ := sendPackageAsync_eq_ok h
      exact ⟨hidle, hid, hclient⟩
  · have haddress : RoutedAmqpRequest.replyAddress r.replyTo = some ("", "") := by
      rw [hrequester]
      exact replyAddress_of_not_mem List.not_mem_nil
    rw [haddress] at h
    exact absurd rfl (sendPackageAsync_eq_ok h).2.1

/-- What a send leaves. -/
theorem step_send (h : s.LifeInv) {env : SendEnvironment} {msg : String}
    (hs : s.step (.sendMessageAsync env msg) = some s') :
    env.uniqueId ≠ "" ∧ ∃ client, client.refusedMessages = s.client.refusedMessages ∧
      client.readyResponsesToAsyncMessages "" = s.client.readyResponsesToAsyncMessages "" ∧
      s' = { s with
        client := client
        request := { s.request with
          requestTimeMillisec := env.now, correlationId := env.uniqueId }
        ready := false
        latest := .outstanding env.uniqueId env.now } := by
  rw [step, RoutedAmqpRequest.performAsync] at hs
  cases hsend : s.request.sendMessageAsync env s.client msg with
  | error failure =>
    rw [hsend] at hs
    cases hs
  | ok result =>
    obtain ⟨hidle, hid, hrefused, hnone⟩ := sendMessageAsync_eq_ok h.requester hsend
    rw [hsend, if_pos hidle] at hs
    cases hs
    exact ⟨hid, _, hrefused, hnone, rfl⟩

theorem lifeInv_send (h : s.LifeInv) {env : SendEnvironment} {msg : String}
    (hc : s.request.isTimeouted = false) (hs : s.step (.sendMessageAsync env msg) = some s') :
    s'.LifeInv := by
  obtain ⟨hid, client, hrefused, hnone, rfl⟩ := step_send h hs
  refine ⟨⟨isPerforming_iff.mpr hid, ⟨fun htimeouted => ?_, fun htimedOut => (nomatch htimedOut)⟩,
    ?_⟩, h.requester, ?_, hnone.trans h.unregistered, fun hready => (nomatch hready)⟩
  · have hraised : false = true := hc.symm.trans htimeouted
    cases hraised
  · intro corrId hin
    exact h.refused corrId (hrefused ▸ hin)
  · intro corrId sentAt houtstanding
    cases houtstanding
    exact ⟨rfl, rfl⟩

/-! ## Checks -/

theorem check_of_late {now : Int64} (h : s.IsLate now) :
    s.request.toAmqpRequest.checkResponseReadyness now s.client =
      ({ s.client with
          refusedMessages := s.client.refusedMessages.insert s.request.correlationId },
        { s.request.toAmqpRequest with timeouted := true, correlationId := "" }, false) :=
  if_pos h

theorem check_of_not_late {now : Int64} (h : ¬ s.IsLate now) :
    s.request.toAmqpRequest.checkResponseReadyness now s.client =
      (s.client, s.request.toAmqpRequest,
        s.client.checkResponseReadyness s.request.correlationId) :=
  if_neg h

/-- The request that the check gives up is the one that the object holds. -/
theorem givenUp_eq (h : s.LifeInv) (now : Int64) :
    s.latest.givenUp s.client.deliveredMessageExpirationSec now =
      if s.request.isPerforming = true ∧ s.IsExpired now then some s.request.correlationId
      else none := by
  rw [h.performing]
  cases hlatest : s.latest with
  | outstanding corrId sentAt =>
    obtain ⟨rfl, rfl⟩ := h.outstanding corrId sentAt hlatest
    exact if_congr (and_iff_right rfl).symm rfl rfl
  | unsent | collected | timedOut => exact (if_neg fun hc => nomatch hc.1).symm

theorem checkResponseReadyness_keeps (h : s.LifeInv) {now : Int64} (hlate : ¬ s.IsLate now)
    (hexpired : s.request.isPerforming = true → ¬ s.IsExpired now) :
    s.checkResponseReadyness now =
      { s with ready := s.client.checkResponseReadyness s.request.correlationId } := by
  unfold checkResponseReadyness
  rw [check_of_not_late hlate, givenUp_eq h, if_neg fun hc => hexpired hc.1 hc.2]
  simp

/-- A late check of a request that is expired. -/
theorem checkResponseReadyness_givesUp (h : s.LifeInv) {now : Int64} (hlate : s.IsLate now)
    (hperforming : s.request.isPerforming = true) (hexpired : s.IsExpired now) :
    s.checkResponseReadyness now =
      { client := { s.client with
          refusedMessages := s.client.refusedMessages.insert s.request.correlationId }
        request := { s.request with timeouted := true, correlationId := "" }
        ready := false
        latest := .timedOut
        timedOutIds := s.timedOutIds ++ [s.request.correlationId] } := by
  unfold checkResponseReadyness
  rw [check_of_late hlate, givenUp_eq h, if_pos ⟨hperforming, hexpired⟩]
  rfl

theorem lifeInv_givesUp (h : s.LifeInv) {now : Int64} (hlate : s.IsLate now)
    (hperforming : s.request.isPerforming = true) (hexpired : s.IsExpired now) :
    (s.checkResponseReadyness now).LifeInv := by
  rw [checkResponseReadyness_givesUp h hlate hperforming hexpired]
  refine ⟨⟨rfl, ⟨fun _ => rfl, fun _ => rfl⟩, fun corrId hin => ?_⟩, h.requester,
    fun _ _ houtstanding => (nomatch houtstanding), h.unregistered,
    fun hready => (nomatch hready)⟩
  rcases List.mem_insert_iff.mp hin with rfl | hold
  · exact ⟨isPerforming_iff.mp hperforming, List.mem_append_right _ (List.mem_singleton_self _)⟩
  · exact ⟨(h.refused corrId hold).1, List.mem_append_left _ (h.refused corrId hold).2⟩

/-- The empty id is never ready. -/
theorem lifeInv_keeps (h : s.LifeInv) :
    { s with ready := s.client.checkResponseReadyness s.request.correlationId }.LifeInv := by
  refine ⟨⟨h.performing, h.timeouted, h.refused⟩, h.requester, h.outstanding, h.unregistered,
    fun hready => isPerforming_iff.mpr fun hidle => ?_⟩
  have hnone : s.client.checkResponseReadyness s.request.correlationId = false := by
    rw [hidle, AmqpClient.checkResponseReadyness, h.unregistered]
    rfl
  have hraised : false = true := hnone.symm.trans hready
  cases hraised

theorem lifeInv_check (h : s.LifeInv) {now : Int64}
    (hc : s.CheckedInTime now) : (s.checkResponseReadyness now).LifeInv := by
  unfold CheckedInTime at hc
  split at hc
  · next hperforming =>
    by_cases hlate : s.IsLate now
    · exact lifeInv_givesUp h hlate hperforming (hc.mp hlate)
    · rw [checkResponseReadyness_keeps h hlate fun _ hexpired => hlate (hc.mpr hexpired)]
      exact lifeInv_keeps h
  · next hidle =>
    rw [checkResponseReadyness_keeps h hc fun hperforming => absurd hperforming hidle]
    exact lifeInv_keeps h

/-- Checks that go wrong: an idle object gives up the empty id, and a request that is compared
wrongly is given up too early, or too late. -/
theorem checkedInTime_of_tellsFate (h : s.LifeInv) {now : Int64}
    (h' : (s.checkResponseReadyness now).TellsFate) : s.CheckedInTime now := by
  unfold CheckedInTime
  by_cases hlate : s.IsLate now
  · have hrefused : s.request.correlationId ∈
        (s.checkResponseReadyness now).client.refusedMessages := by
      unfold checkResponseReadyness
      rw [check_of_late hlate]
      exact List.mem_insert_self
    have hperforming : s.request.isPerforming = true :=
      isPerforming_iff.mpr (h'.refused _ hrefused).1
    rw [if_pos hperforming, iff_true_left hlate]
    by_contra hexpired
    have hfate := h'.performing
    unfold checkResponseReadyness at hfate
    rw [check_of_late hlate, givenUp_eq h, if_neg fun hc => hexpired hc.2] at hfate
    have hidle : s.latest.isOutstanding = false := hfate.symm
    rw [h.performing, hidle] at hperforming
    cases hperforming
  · split
    · next hperforming =>
      rw [iff_false_left hlate]
      intro hexpired
      have hfate := h'.performing
      unfold checkResponseReadyness at hfate
      rw [check_of_not_late hlate, givenUp_eq h, if_pos ⟨hperforming, hexpired⟩] at hfate
      have hidle : s.request.isPerforming = false := hfate
      rw [hperforming] at hidle
      cases hidle
    · exact hlate

/-! ## The other calls -/

theorem lifeInv_getAsyncResponse (h : s.LifeInv) (hs : s.step .getAsyncResponse = some s') :
    s'.LifeInv := by
  obtain ⟨hready, hs⟩ := Option.ite_none_right_eq_some.mp hs
  obtain ⟨⟨out, client, request⟩, hget, rfl⟩ := Option.map_eq_some_iff.mp hs
  obtain ⟨⟨out', client'⟩, hclient, hresult⟩ := Option.map_eq_some_iff.mp hget
  cases hresult
  rw [getAsyncResponse_eq_some hclient]
  refine ⟨⟨rfl, ⟨fun htimeouted => ?_, fun htimedOut => (nomatch htimedOut)⟩, h.refused⟩,
    h.requester, fun _ _ houtstanding => (nomatch houtstanding), ?_,
    fun hready => (nomatch hready)⟩
  · -- the request was performing, so it had not timed out
    have houtstanding := h.ready hready
    rw [h.performing, h.timeouted.mp htimeouted] at houtstanding
    cases houtstanding
  · unfold UnorderedMap.erase
    dsimp only
    rw [h.unregistered]
    exact ite_self _

theorem lifeInv_poll (h : s.LifeInv) (envelope : Option Envelope) :
    { s with client := (s.client.poll envelope).client }.LifeInv where
  performing := h.performing
  timeouted := h.timeouted
  refused corrId hin := h.refused corrId (poll_refused_subset envelope hin)
  requester := h.requester
  outstanding := h.outstanding
  unregistered := by
    rw [← Option.not_isSome_iff_eq_none, poll_isSome, h.unregistered]
    decide
  ready := h.ready

theorem lifeInv_step {a : LifeAction} (h : s.LifeInv) (hc : s.UsedInTime a)
    (hs : s.step a = some s') : s'.LifeInv := by
  cases a with
  | sendMessageAsync env msg => exact lifeInv_send h hc hs
  | checkResponseReadyness now =>
    cases hs
    exact lifeInv_check h hc
  | getAsyncResponse => exact lifeInv_getAsyncResponse h hs
  | poll envelope =>
    cases hs
    exact lifeInv_poll h envelope

theorem usedInTime_of_tellsFate {a : LifeAction} (h : s.LifeInv) (hs : s.step a = some s')
    (h' : s'.TellsFate) : s.UsedInTime a := by
  cases a with
  | sendMessageAsync env msg =>
    obtain ⟨_, client, _, _, rfl⟩ := step_send h hs
    -- the new request has not timed out, and the flag is the old one
    refine Bool.eq_false_of_not_eq_true fun htimeouted => ?_
    have hlatest := h'.timeouted.mp htimeouted
    cases hlatest
  | checkResponseReadyness now =>
    cases hs
    exact checkedInTime_of_tellsFate h h'
  | getAsyncResponse | poll _ => exact trivial

theorem idleUnchanged_of_usedInTime {a : LifeAction} (h : s.LifeInv) (hc : s.UsedInTime a) :
    s.IdleUnchanged a := by
  cases a with
  | checkResponseReadyness now =>
    intro hidle
    rw [← h.performing] at hidle
    have hlate : ¬ s.IsLate now := by
      unfold UsedInTime CheckedInTime at hc
      rw [hidle] at hc
      exact hc
    rw [checkResponseReadyness_keeps h hlate fun hperforming => ?_]
    · exact ⟨rfl, rfl⟩
    · rw [hidle] at hperforming
      cases hperforming
  | sendMessageAsync _ _ | getAsyncResponse | poll _ => exact trivial

/--
**The object tells the fate of its latest request exactly while it is used in time.**

A late check of an object without a request raises the flag and refuses the empty id, and after a
time-out the next request has the flag of the old one.
-/
theorem lifeCycle_iff (connId : TConnectionId) (expirationSec : Int32)
    (route : SAmqpRouteParameters) (actions : List LifeAction) :
    AlwaysState step TellsFate (start connId expirationSec route) actions ∧
        AlwaysStep step IdleUnchanged (start connId expirationSec route) actions ↔
      AlwaysStep step UsedInTime (start connId expirationSec route) actions :=
  alwaysStep_iff_of_inv step LifeInv (fun _ h => h.toTellsFate)
    (fun _ _ _ h hc hs => lifeInv_step h hc hs)
    (fun _ _ _ h hs _ h' => usedInTime_of_tellsFate h hs h')
    (fun _ _ _ h _ hc => idleUnchanged_of_usedInTime h hc) actions _
    (lifeInv_start connId expirationSec route)

/-- A new object is checked a minute after the epoch of the clock. -/
theorem idle_check_times_out :
    ¬ (AlwaysState step TellsFate (start 1 30 {}) [.checkResponseReadyness 60000] ∧
      AlwaysStep step IdleUnchanged (start 1 30 {}) [.checkResponseReadyness 60000]) := by
  rintro ⟨hstates, _⟩
  have hfate := (hstates.2 _ rfl).timeouted
  exact absurd (hfate.mp (by decide)) (by decide)

end RequestLife

end MicroserviceCommon
