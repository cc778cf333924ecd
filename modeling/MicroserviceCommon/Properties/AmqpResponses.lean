import MicroserviceCommon.Communication.AmqpSystem

/-!
# Responses over AMQP

A reply is a response when its correlation id is in the map. An asynchronous request enters the
map after its publish, a blocked one never does.

* `responses_stored_iff` — replies to asynchronous requests are stored, exactly when none is polled
  between publish and registration
* `response_handed_to_observer` — a fast reply
* `blocked_returns_reply_iff` — blocked calls return their replies, exactly when these are empty
  and nobody observes
* `blocked_returns_nothing` — an ordinary reply
-/

namespace MicroserviceCommon

open Infra

namespace AmqpSystem

variable {s : AmqpSystem}

/-! ## Asynchronous requests -/

/-- The request was sent, and its response was neither collected nor given up. -/
def AwaitsResponse (s : AmqpSystem) (corrId : TCorrelationId) : Prop :=
  s.phase corrId = .published ∨ s.phase corrId = .registered

/-- A polled message of an awaited request becomes its response. No observer gets it. -/
def StoresResponses (s : AmqpSystem) : AmqpStep → Prop
  | .poll => ∀ e ∈ s.received.head?, s.AwaitsResponse e.correlationId →
      (s.client.poll (some e)).client.readyResponsesToAsyncMessages e.correlationId =
        some e.body ∧ (s.client.poll (some e)).callbacks = []
  | _ => True

/-- No message is polled while its request is published and not registered yet. -/
def PollsRegistered (s : AmqpSystem) : AmqpStep → Prop
  | .poll => ∀ e ∈ s.received.head?, s.phase e.correlationId ≠ .published
  | _ => True

/-- **The response of a registered request is stored, also over an earlier one.** -/
theorem poll_of_registered (h : s.Inv) {e : Envelope} (he : s.phase e.correlationId = .registered) :
    (s.client.poll (some e)).client.readyResponsesToAsyncMessages e.correlationId =
      some e.body ∧ (s.client.poll (some e)).callbacks = [] := by
  obtain ⟨hsome, hrefused⟩ := h.registered e.correlationId he
  refine ⟨?_, poll_callbacks_of_isSome hsome⟩
  rw [poll_ready_of_isSome hsome hrefused, UnorderedMap.assign_self]

/-- **A response that comes before the registration is a request to the observers.** -/
theorem poll_of_published (h : s.Inv) {e : Envelope} (he : s.phase e.correlationId = .published) :
    s.client.poll (some e) =
      { client := s.client
        callbacks := s.client.observers.map fun observer =>
          (observer, s.client.incomingRequest e) } :=
  poll_of_none (Option.not_isSome_iff_eq_none.mp (h.published e.correlationId he).2.1)

theorem storesResponses_iff (h : s.Inv) (a : AmqpStep) :
    s.StoresResponses a ↔ s.PollsRegistered a := by
  cases a with
  | poll =>
    constructor
    · intro hstores e he hpub
      -- the client is unchanged, so the id would have been in the map before
      have hready := (hstores e he (Or.inl hpub)).1
      rw [poll_of_published h hpub] at hready
      exact (h.published e.correlationId hpub).2.1 (Option.isSome_of_eq_some hready)
    · rintro hpolls e he (hpub | hreg)
      · exact absurd hpub (hpolls e he)
      · exact poll_of_registered h hreg
  | _ => rfl

/--
**Replies to asynchronous requests are stored exactly when none is polled between publish and
registration.**

Any number of requests, replies by observers, blocked calls and messages may be interleaved.
-/
theorem responses_stored_iff (connId : TConnectionId) (expirationSec : Int32)
    (observers : List Nat) (as : List AmqpStep) :
    AlwaysStep step StoresResponses (initial connId expirationSec observers) as ↔
      AlwaysStep step PollsRegistered (initial connId expirationSec observers) as :=
  alwaysStep_congr (fun _ _ _ h hs => inv_step h hs) (fun _ a _ h _ => storesResponses_iff h a)
    as _ (inv_initial connId expirationSec observers)

/-- The reply is there before the sending thread comes to the map. -/
theorem response_handed_to_observer :
    ¬ AlwaysStep step StoresResponses (initial 1 30 [7])
      [.publish "c" 0 true, .deliver ⟨"c", "", "ok"⟩, .poll] := by
  intro h
  have hpoll := (((h _ rfl).2 _ rfl).2 _ rfl).1 ⟨"c", "", "ok"⟩ rfl (Or.inl rfl)
  exact absurd hpoll.2 (by decide)

/-! ## Blocked requests -/

/-- What `sendPackageBlocked` returns in its last step. -/
def blockedResult (s : AmqpSystem) : AmqpStep → Option String
  | .publishBlocked false => some ""
  | .endBlocked _ => s.blocked.map fun b => (s.client.endBlocked b.correlationId).1
  | _ => none

/-- A call returns the body of the consumed reply, which no observer got, else nothing. -/
def ReturnsReply (s : AmqpSystem) (a : AmqpStep) : Prop :=
  ∀ b ∈ s.blocked, ∀ response ∈ s.blockedResult a,
    (b.replies = [] → response = "") ∧ ∀ r ∈ b.replies, response = r.body ∧ r.callbacks = []

/-- Every reply to the call is empty, and nobody observed the client when it came. -/
def RepliesEmptyUnobserved (s : AmqpSystem) : AmqpStep → Prop
  | .endBlocked _ => ∀ b ∈ s.blocked, ∀ r ∈ b.replies, r.body = "" ∧ r.observers = []
  | _ => True

/-- **The wait finds nothing as long as no observer answered the reply.** -/
theorem endBlocked_of_unhanded {b : BlockedCall} (h : s.BlockedInv b) (hu : b.Unhanded) :
    (s.client.endBlocked b.correlationId).1 = "" := by
  rw [AmqpClient.endBlocked, Option.not_isSome_iff_eq_none.mp (h.unhanded hu).1, Option.getD_none]

theorem returnsReply_endBlocked_iff {b : BlockedCall} (h : s.BlockedInv b) :
    ((b.replies = [] → (s.client.endBlocked b.correlationId).1 = "") ∧
        ∀ r ∈ b.replies, (s.client.endBlocked b.correlationId).1 = r.body ∧ r.callbacks = []) ↔
      ∀ r ∈ b.replies, r.body = "" ∧ r.observers = [] := by
  constructor
  · rintro ⟨_, hreplies⟩ r hr
    have hu : b.Unhanded := fun r hr => (hreplies r hr).2
    refine ⟨?_, h.observers.mp hu r hr⟩
    rw [← (hreplies r hr).1, endBlocked_of_unhanded h hu]
  · intro hempty
    have hu : b.Unhanded := h.observers.mpr fun r hr => (hempty r hr).2
    rw [endBlocked_of_unhanded h hu]
    exact ⟨fun _ => rfl, fun r hr => ⟨(hempty r hr).1.symm, hu r hr⟩⟩

theorem returnsReply_iff (h : s.Inv) {a : AmqpStep} {s' : AmqpSystem} (hs : s.step a = some s') :
    s.ReturnsReply a ↔ s.RepliesEmptyUnobserved a := by
  cases a with
  | endBlocked timedOut =>
    refine forall₂_congr fun b hb => ?_
    rw [Option.mem_def] at hb
    simp only [blockedResult, hb, Option.map_some, Option.mem_some_iff, forall_eq']
    exact returnsReply_endBlocked_iff (h.blocked b hb)
  | publishBlocked ok =>
    refine iff_of_true ?_ trivial
    rintro b hb response hres
    cases ok with
    | true => cases hres
    | false =>
      cases hres
      rw [Option.mem_def] at hb
      obtain ⟨b', hb', hunpub, _⟩ := stepsTo_of_step hs
      rw [hb] at hb'
      cases hb'
      have hnil := ((h.blocked b hb).unpublished hunpub).1
      exact ⟨fun _ => rfl, fun r hr => absurd (hnil ▸ hr) List.not_mem_nil⟩
  | _ => exact iff_of_true (fun _ _ _ hres => by cases hres) trivial

/--
**Blocked calls return their replies exactly when these are empty and nobody observes.**

The id of a blocked call is never put into the map. So the reply goes to the observers, and the
call ends with its time-out.
-/
theorem blocked_returns_reply_iff (connId : TConnectionId) (expirationSec : Int32)
    (observers : List Nat) (as : List AmqpStep) :
    AlwaysStep step ReturnsReply (initial connId expirationSec observers) as ↔
      AlwaysStep step RepliesEmptyUnobserved (initial connId expirationSec observers) as :=
  alwaysStep_congr (fun _ _ _ h hs => inv_step h hs) (fun _ _ _ h hs => returnsReply_iff h hs)
    as _ (inv_initial connId expirationSec observers)

/-- The reply is polled in time, nobody observes, and the call returns `""`. -/
theorem blocked_returns_nothing :
    ¬ AlwaysStep step ReturnsReply (initial 1 30 [])
      [.beginBlocked "c", .publishBlocked true, .deliver ⟨"c", "", "ok"⟩, .poll,
        .endBlocked true] := by
  intro h
  have hend := (((((h _ rfl).2 _ rfl).2 _ rfl).2 _ rfl).2 _ rfl).1
  exact absurd ((hend _ rfl "" rfl).2 ⟨"ok", [], []⟩ (by decide)).1 (by decide)

end AmqpSystem

end MicroserviceCommon
