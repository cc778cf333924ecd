import MicroserviceCommon.Communication.AmqpSystem

/-!
# The bookkeeping of the AMQP client drains

A request that times out leaves its id in `m_refusedMessages`, until a late response takes it from
there. Its key in `m_readyResponsesToAsyncMessages` stays in either case. A reply puts the id of the
other side's request into the same map, and `poll` then takes that id for one of its own.

* `bookkeeping_drains_iff` — when every request is done and no message is in flight, both containers
  are empty exactly when no request timed out and no reply left a key that nobody removes
* `bookkeeping_leaks` — a time-out, and a single reply
-/

namespace MicroserviceCommon

open Infra

namespace AmqpSystem

variable {s s' : AmqpSystem} {c : TCorrelationId}

/-! ## What is left when all is done -/

/-- Every request was collected or reported as timed out, and nothing is in flight. -/
structure Settled (s : AmqpSystem) : Prop where
  done : ∀ c, s.phase c = .unknown ∨ s.phase c = .collected ∨ s.phase c = .timedOut
  received : s.received = []
  sending : s.sending = none
  blocked : s.blocked = none

/-- `m_readyResponsesToAsyncMessages` and `m_refusedMessages` are empty. -/
def Drained (s : AmqpSystem) : Prop :=
  s.client.readyResponsesToAsyncMessages = UnorderedMap.empty ∧ s.client.refusedMessages = []

/-- Somebody will remove the key `c`: the collection of a request that waits for its response, or
the end of the blocked call. -/
def WillRemove (s : AmqpSystem) (c : TCorrelationId) : Prop :=
  s.phase c = .registered ∨ ∃ b, s.blocked = some b ∧ b.correlationId = c

/-- A check does not come after the expiration. A sent message gets a key of a request of this
client that is not done, or of the blocked call. -/
def Removable (s : AmqpSystem) : AmqpStep → Prop
  | .check c now => now - s.sentAt c ≤ (s.client.deliveredMessageExpirationSec * 1000).toInt64
  | .register => ∀ c, s.sending = some c → s.phase c = .published ∨ s.WillRemove c
  | _ => True

/-- Nothing is refused, and whatever is in the map will be removed. -/
structure Tidy (s : AmqpSystem) : Prop where
  refused : s.client.refusedMessages = []
  ready : ∀ c, (s.client.readyResponsesToAsyncMessages c).isSome → s.WillRemove c

/-- The id is in one of the containers, and nobody is left to remove it. -/
structure Stuck (s : AmqpSystem) (c : TCorrelationId) : Prop where
  seen : c ∈ s.seen
  unpublished : s.phase c ≠ .published
  unregistered : s.phase c ≠ .registered
  unblocked : ∀ b, s.blocked = some b → b.correlationId ≠ c
  kept : (s.client.readyResponsesToAsyncMessages c).isSome ∨ c ∈ s.client.refusedMessages

theorem Tidy.drained (h : s.Tidy) (hs : s.Settled) : s.Drained := by
  refine ⟨funext fun c => Option.not_isSome_iff_eq_none.mp fun hready => ?_, h.refused⟩
  rcases h.ready c hready with hreg | ⟨b, hb, _⟩
  · rcases hs.done c with hp | hp | hp <;> rw [hp] at hreg <;> cases hreg
  · rw [hs.blocked] at hb
    cases hb

theorem Stuck.not_drained (h : s.Stuck c) : ¬ s.Drained := by
  rintro ⟨hready, hrefused⟩
  rcases h.kept with hkept | hkept
  · rw [hready] at hkept
    cases hkept
  · rw [hrefused] at hkept
    cases hkept

/-! ## Checks -/

theorem check_of_inTime {now : Int64}
    (h : now - s.sentAt c ≤ (s.client.deliveredMessageExpirationSec * 1000).toInt64) :
    s.check c now = s := by
  have hlimit : ¬ now - (s.request c).requestTimeMillisec >
      (s.client.deliveredMessageExpirationSec * 1000).toInt64 := Int64.not_lt.mpr h
  unfold check AmqpRequest.checkResponseReadyness
  simp only [if_neg hlimit]
  rfl

theorem check_of_expired {now : Int64}
    (h : ¬ now - s.sentAt c ≤ (s.client.deliveredMessageExpirationSec * 1000).toInt64) :
    s.check c now = { s with
      client := { s.client with refusedMessages := s.client.refusedMessages.insert c }
      phase := Function.update s.phase c .timedOut } := by
  have hlimit : now - (s.request c).requestTimeMillisec >
      (s.client.deliveredMessageExpirationSec * 1000).toInt64 := Int64.not_le.mp h
  unfold check AmqpRequest.checkResponseReadyness
  simp only [if_pos hlimit]
  rfl

/-! ## Tidy states -/

theorem WillRemove.of_eq (h : s.WillRemove c) (hphase : s'.phase c = s.phase c)
    (hblocked : s'.blocked = s.blocked) : s'.WillRemove c := by
  unfold WillRemove
  rw [hphase, hblocked]
  exact h

theorem Tidy.publish (ht : s.Tidy) (h : s.Inv) (hc : c ∉ s.seen) (now : Int64) (ok : Bool) :
    (s.publish c now ok).Tidy where
  refused := ht.refused
  ready q hq := by
    have hne : q ≠ c := by
      rintro rfl
      exact hc (h.ready_seen q hq)
    refine (ht.ready q hq).of_eq ?_ rfl
    rw [phase_publish, if_neg hne]

theorem Tidy.register (ht : s.Tidy) (hc : s.phase c = .published ∨ s.WillRemove c) :
    (s.register c).Tidy where
  refused := ht.refused
  ready q hq := by
    -- a key that is to be removed stays so
    have hkeep : s.WillRemove q → (s.register c).WillRemove q := by
      rintro (hreg | hblocked)
      · refine Or.inl ?_
        rw [phase_register, if_neg fun hand => ?_]
        · exact hreg
        · rw [hreg] at hand
          cases hand.2
      · exact Or.inr hblocked
    rcases (isSome_registerAsync s.client c q).mp hq with rfl | hold
    · rcases hc with hpub | hc
      · refine Or.inl ?_
        rw [phase_register, if_pos ⟨rfl, hpub⟩]
      · exact hkeep hc
    · exact hkeep (ht.ready q hold)

theorem correlationId_noteReply (b : BlockedCall) (observers : List Nat) (e : Envelope)
    (callbacks : List (Nat × AmqpRequest)) :
    (noteReply b observers e callbacks).correlationId = b.correlationId := by
  unfold noteReply
  split <;> rfl

theorem Tidy.consume (ht : s.Tidy) (e : Envelope) (rest : List Envelope) :
    (s.consume e rest).Tidy where
  refused := List.eq_nil_iff_forall_not_mem.mpr fun q hq => by
    have hold := poll_refused_subset (some e) hq
    rw [ht.refused] at hold
    exact absurd hold List.not_mem_nil
  ready q hq := by
    rcases ht.ready q ((poll_isSome (some e) q).mp hq) with hreg | ⟨b, hb, hid⟩
    · exact Or.inl hreg
    · have hsame := correlationId_noteReply b s.client.observers e
        (s.client.poll (some e)).callbacks
      refine Or.inr ⟨_, ?_, hsame.trans hid⟩
      show s.blocked.map _ = some _
      rw [hb]
      rfl

theorem Tidy.collect (ht : s.Tidy) (hs : s.collect c = some s') : s'.Tidy := by
  obtain rfl := collect_eq_some hs
  refine ⟨ht.refused, fun q hq => ?_⟩
  obtain ⟨hne, hready⟩ := (UnorderedMap.isSome_erase _ c q).mp hq
  exact (ht.ready q hready).of_eq (Function.update_of_ne hne _ _) rfl

theorem Tidy.beginBlocked (ht : s.Tidy) (hb : s.blocked = none) : (s.beginBlocked c).Tidy where
  refused := ht.refused
  ready q hq := by
    rcases ht.ready q hq with hreg | ⟨b, hb', _⟩
    · exact Or.inl hreg
    · rw [hb] at hb'
      cases hb'

/-- A failed publish leaves no key, because nobody can have answered the call. -/
theorem Tidy.publishBlocked (ht : s.Tidy) (h : s.Inv) {b : BlockedCall} (hb : s.blocked = some b)
    (hp : b.published = false) (ok : Bool) :
    Tidy { s with blocked := if ok then some { b with published := true } else none } where
  refused := ht.refused
  ready q hq := by
    rcases ht.ready q hq with hreg | ⟨b', hb', hid⟩
    · exact Or.inl hreg
    · rw [hb] at hb'
      cases hb'
      cases ok with
      | true => exact Or.inr ⟨_, rfl, hid⟩
      | false =>
        have hnil := ((h.blocked b hb).unpublished hp).1
        have hunhanded : b.Unhanded := by
          intro r hr
          rw [hnil] at hr
          cases hr
        exact absurd (hid ▸ hq) ((h.blocked b hb).unhanded hunhanded).1

theorem Tidy.endBlocked (ht : s.Tidy) {b : BlockedCall} (hb : s.blocked = some b) :
    (s.endBlocked b).Tidy where
  refused := ht.refused
  ready q hq := by
    obtain ⟨hne, hready⟩ := (isSome_endBlocked s.client b.correlationId q).mp hq
    rcases ht.ready q hready with hreg | ⟨b', hb', hid⟩
    · exact Or.inl hreg
    · rw [hb] at hb'
      cases hb'
      exact absurd hid.symm hne

/-- **What is put into the containers by a removable step will be removed.** -/
theorem Tidy.step (ht : s.Tidy) (h : s.Inv) {a : AmqpStep} (ha : s.Removable a)
    (hs : s.step a = some s') : s'.Tidy := by
  have hs := stepsTo_of_step hs
  cases a with
  | publish c now ok =>
    obtain ⟨⟨hc, _⟩, rfl⟩ := hs
    exact ht.publish h hc now ok
  | publishReply c ok =>
    obtain ⟨_, rfl⟩ := hs
    exact ⟨ht.refused, ht.ready⟩
  | register =>
    obtain ⟨c, hsend, rfl⟩ := hs
    exact ht.register (ha c hsend)
  | deliver e =>
    obtain ⟨_, rfl⟩ := hs
    exact ⟨ht.refused, ht.ready⟩
  | poll =>
    rcases hs with ⟨_, rfl⟩ | ⟨e, rest, _, rfl⟩
    · exact ht
    · exact ht.consume e rest
  | check c now =>
    obtain ⟨_, rfl⟩ := hs
    rw [check_of_inTime ha]
    exact ht
  | collect c => exact ht.collect hs.2
  | beginBlocked c =>
    obtain ⟨⟨_, hb⟩, rfl⟩ := hs
    exact ht.beginBlocked hb
  | publishBlocked ok =>
    obtain ⟨b, hb, hp, rfl⟩ := hs
    exact ht.publishBlocked h hb hp ok
  | endBlocked timedOut =>
    obtain ⟨b, hb, rfl⟩ := hs
    exact ht.endBlocked hb
  | addObserver observer =>
    obtain rfl := hs
    exact ⟨ht.refused, ht.ready⟩

/-! ## Stuck ids -/

/-- The request keeps its phase, its id stays in the container, and no blocked call gets the id. -/
theorem Stuck.of_eq (h : s.Stuck c) (hseen : c ∈ s'.seen) (hphase : s'.phase c = s.phase c)
    (hunblocked : ∀ b, s'.blocked = some b → b.correlationId ≠ c)
    (hready : (s.client.readyResponsesToAsyncMessages c).isSome →
      (s'.client.readyResponsesToAsyncMessages c).isSome)
    (hrefused : s'.client.refusedMessages = s.client.refusedMessages) : s'.Stuck c where
  seen := hseen
  unpublished := hphase ▸ h.unpublished
  unregistered := hphase ▸ h.unregistered
  unblocked := hunblocked
  kept := by
    rw [hrefused]
    exact h.kept.imp_left hready

theorem Stuck.check (h : s.Stuck c) {q : TCorrelationId} (now : Int64) :
    (s.check q now).Stuck c := by
  rcases check_eq (s := s) (c := q) now with heq | heq
  · rw [heq]
    exact h
  · rw [heq]
    have hphase : ∀ p : RequestPhase, p ≠ .timedOut → s.phase c ≠ p →
        Function.update s.phase q .timedOut c ≠ p := by
      intro p hp hne
      rw [Function.update_apply]
      split
      · exact Ne.symm hp
      · exact hne
    exact { seen := h.seen
            unpublished := hphase _ (by decide) h.unpublished
            unregistered := hphase _ (by decide) h.unregistered
            unblocked := h.unblocked
            kept := h.kept.imp_right fun hmem => List.mem_insert_of_mem hmem }

/-- The poll that takes an id from the refused ones leaves its key. -/
theorem Stuck.consume (h : s.Stuck c) (e : Envelope) (rest : List Envelope) :
    (s.consume e rest).Stuck c where
  seen := h.seen
  unpublished := h.unpublished
  unregistered := h.unregistered
  unblocked := by
    intro b' hb'
    obtain ⟨b, hb, rfl⟩ := Option.map_eq_some_iff.mp hb'
    rw [correlationId_noteReply]
    exact h.unblocked b hb
  kept := by
    by_cases hready : (s.client.readyResponsesToAsyncMessages c).isSome
    · exact Or.inl ((poll_isSome (some e) c).mpr hready)
    · -- a message that is refused has a key
      refine Or.inr ?_
      have hmem := h.kept.resolve_left hready
      show c ∈ (s.client.poll (some e)).client.refusedMessages
      simp only [AmqpClient.poll]
      split
      · next hkey =>
        split
        · exact hmem
        · refine List.mem_filter.mpr ⟨hmem, ?_⟩
          refine decide_eq_true fun heq => hready ?_
          rw [heq]
          exact hkey
      · exact hmem

/-- **No step removes a stuck id.** -/
theorem Stuck.step (h : s.Stuck c) {a : AmqpStep} (hs : s.step a = some s') : s'.Stuck c := by
  have hs := stepsTo_of_step hs
  -- an id that is new is another one
  have hfresh : ∀ q, q ∉ s.seen → c ≠ q := fun q hq heq => hq (heq ▸ h.seen)
  cases a with
  | publish q now ok =>
    obtain ⟨⟨hq, _⟩, rfl⟩ := hs
    refine h.of_eq (List.mem_cons_of_mem q h.seen) ?_ h.unblocked id rfl
    rw [phase_publish, if_neg (hfresh q hq)]
  | publishReply q ok =>
    obtain ⟨_, rfl⟩ := hs
    exact h.of_eq h.seen rfl h.unblocked id rfl
  | register =>
    obtain ⟨q, _, rfl⟩ := hs
    refine h.of_eq h.seen ?_ h.unblocked (fun hready => ?_) rfl
    · rw [phase_register, if_neg fun hand => h.unpublished hand.2]
    · exact (isSome_registerAsync s.client q c).mpr (Or.inr hready)
  | deliver e =>
    obtain ⟨_, rfl⟩ := hs
    exact h.of_eq (List.mem_cons_of_mem _ h.seen) rfl h.unblocked id rfl
  | poll =>
    rcases hs with ⟨_, rfl⟩ | ⟨e, rest, _, rfl⟩
    · exact h
    · exact h.consume e rest
  | check q now =>
    obtain ⟨_, rfl⟩ := hs
    exact h.check now
  | collect q =>
    obtain ⟨hreg, hs⟩ := hs
    obtain rfl := collect_eq_some hs
    have hne : c ≠ q := fun heq => h.unregistered (heq ▸ hreg)
    refine h.of_eq h.seen (Function.update_of_ne hne ..) h.unblocked (fun hready => ?_) rfl
    exact (UnorderedMap.isSome_erase _ q c).mpr ⟨hne, hready⟩
  | beginBlocked q =>
    obtain ⟨⟨hq, _⟩, rfl⟩ := hs
    refine h.of_eq (List.mem_cons_of_mem q h.seen) rfl ?_ id rfl
    rintro b ⟨⟩
    exact Ne.symm (hfresh q hq)
  | publishBlocked ok =>
    obtain ⟨b, hb, _, rfl⟩ := hs
    refine h.of_eq h.seen rfl ?_ id rfl
    cases ok with
    | false => rintro _ ⟨⟩
    | true =>
      rintro _ ⟨⟩
      exact h.unblocked b hb
  | endBlocked timedOut =>
    obtain ⟨b, hb, rfl⟩ := hs
    refine h.of_eq h.seen rfl ?_ (fun hready => ?_) rfl
    · rintro _ ⟨⟩
    · exact (isSome_endBlocked s.client b.correlationId c).mpr ⟨Ne.symm (h.unblocked b hb), hready⟩
  | addObserver observer =>
    obtain rfl := hs
    exact h.of_eq h.seen rfl h.unblocked id rfl

/-- A request that times out is stuck. -/
theorem Inv.stuck_of_check (h : s.Inv) {now : Int64}
    (hc : s.phase c = .registered ∨ s.phase c = .failed)
    (htime : ¬ now - s.sentAt c ≤ (s.client.deliveredMessageExpirationSec * 1000).toInt64) :
    (s.check c now).Stuck c := by
  have hknown : s.phase c ≠ .unknown := by
    rcases hc with hc | hc <;> rw [hc] <;> decide
  rw [check_of_expired htime]
  have hphase : Function.update s.phase c .timedOut c = .timedOut := Function.update_self ..
  exact { seen := h.phase_seen c hknown
          unpublished := fun hp => by cases hphase.symm.trans hp
          unregistered := fun hp => by cases hphase.symm.trans hp
          unblocked := by
            rintro b hb rfl
            exact hknown (h.blocked b hb).unknown
          kept := Or.inr (List.mem_insert_self ..) }

/-- A key that nobody is going to remove is stuck. -/
theorem Inv.stuck_of_register (h : s.Inv) (hsend : s.sending = some c)
    (hpub : s.phase c ≠ .published) (hremove : ¬ s.WillRemove c) : (s.register c).Stuck c := by
  have hphase : (s.register c).phase c = s.phase c := by
    rw [phase_register, if_neg fun hand => hpub hand.2]
  exact { seen := h.sending_seen c hsend
          unpublished := hphase ▸ hpub
          unregistered := hphase ▸ fun hreg => hremove (Or.inl hreg)
          unblocked := fun b hb hid => hremove (Or.inr ⟨b, hb, hid⟩)
          kept := Or.inl ((isSome_registerAsync s.client c c).mpr (Or.inl rfl)) }

/-- **Any other step leaves an id stuck.** -/
theorem Inv.stuck_of_not_removable (h : s.Inv) {a : AmqpStep} (ha : ¬ s.Removable a)
    (hs : s.step a = some s') : ∃ c, s'.Stuck c := by
  have hs := stepsTo_of_step hs
  cases a with
  | check c now =>
    obtain ⟨hc, rfl⟩ := hs
    exact ⟨c, h.stuck_of_check hc ha⟩
  | register =>
    obtain ⟨c, hsend, rfl⟩ := hs
    have hbad : ¬(s.phase c = .published ∨ s.WillRemove c) := by
      intro hgood
      refine ha fun q hq => ?_
      rw [hsend] at hq
      cases hq
      exact hgood
    exact ⟨c, h.stuck_of_register hsend (fun hpub => hbad (Or.inl hpub))
      fun hremove => hbad (Or.inr hremove)⟩
  | _ => exact absurd trivial ha

/-! ## Whole runs -/

theorem tidy_initial (connId : TConnectionId) (expirationSec : Int32) (observers : List Nat) :
    (initial connId expirationSec observers).Tidy where
  refused := rfl
  ready := fun _ h => by cases h

/--
**When the bookkeeping drains.**

In a state where every request of the client is done and no message is in flight, both containers
are empty exactly when no check on the way came after the expiration, and every message sent got
the key of a request that was not done or of the blocked call in progress.
-/
theorem bookkeeping_drains_iff (connId : TConnectionId) (expirationSec : Int32)
    (observers : List Nat) (as : List AmqpStep) (s : AmqpSystem)
    (hrun : runAll step (initial connId expirationSec observers) as = some s) (hs : s.Settled) :
    s.Drained ↔ AlwaysStep step Removable (initial connId expirationSec observers) as := by
  have hend := alwaysStep_or_of_runAll Inv Tidy (fun s => ∃ c, s.Stuck c)
    (fun _ _ _ h hstep => inv_step h hstep) (fun _ _ _ h ht ha hstep => ht.step h ha hstep)
    (fun _ _ _ _ hstuck hstep => hstuck.imp fun _ hc => hc.step hstep)
    (fun _ _ _ h ha hstep => h.stuck_of_not_removable ha hstep) as _ s
    (inv_initial connId expirationSec observers) (tidy_initial connId expirationSec observers) hrun
  rcases hend with ⟨hall, htidy⟩ | ⟨hnot, c, hstuck⟩
  · exact iff_of_true (htidy.drained hs) hall
  · exact iff_of_false hstuck.not_drained hnot

/-- Only ids that were seen have to be looked at. -/
theorem settled_of_runAll (connId : TConnectionId) (expirationSec : Int32) (observers : List Nat)
    (as : List AmqpStep) (hrun : runAll step (initial connId expirationSec observers) as = some s)
    (hdone : ∀ c ∈ s.seen, s.phase c = .unknown ∨ s.phase c = .collected ∨ s.phase c = .timedOut)
    (hreceived : s.received = []) (hsending : s.sending = none) (hblocked : s.blocked = none) :
    s.Settled := by
  refine ⟨fun c => ?_, hreceived, hsending, hblocked⟩
  have hinv : s.Inv := of_runAll Inv (fun _ _ _ h hstep => inv_step h hstep)
    (inv_initial connId expirationSec observers) hrun
  by_cases hc : s.phase c = .unknown
  · exact Or.inl hc
  · exact hdone c (hinv.phase_seen c hc)

/-- A request whose response is collected before the time-out. -/
def collectedRun : List AmqpStep :=
  [.publish "c" 0 true, .register, .deliver ⟨"c", "", "ok"⟩, .poll, .check "c" 5, .collect "c"]

theorem bookkeeping_drains_collected :
    ∃ s, runAll step (initial 1 30 []) collectedRun = some s ∧ s.Drained := by
  refine ⟨_, rfl, (bookkeeping_drains_iff 1 30 [] collectedRun _ rfl ?_).mpr ?_⟩
  · exact settled_of_runAll 1 30 [] collectedRun rfl (by decide) rfl rfl rfl
  · rintro _ ⟨⟩
    refine ⟨trivial, ?_⟩
    rintro _ ⟨⟩
    refine ⟨?_, ?_⟩
    · rintro _ ⟨⟩
      exact Or.inl rfl
    · rintro _ ⟨⟩
      refine ⟨trivial, ?_⟩
      rintro _ ⟨⟩
      refine ⟨trivial, ?_⟩
      rintro _ ⟨⟩
      refine ⟨show (5 : Int64) - 0 ≤ ((30 : Int32) * 1000).toInt64 by decide, ?_⟩
      rintro _ ⟨⟩
      exact ⟨trivial, trivial⟩

/-- A request that timed out before its response came. -/
def lateRun : List AmqpStep :=
  [.publish "c" 0 true, .register, .check "c" 30001, .deliver ⟨"c", "", "ok"⟩, .poll]

/-- A reply to a request of the other side. -/
def replyRun : List AmqpStep :=
  [.deliver ⟨"d", "ep@rk", "ok"⟩, .poll, .publishReply "d" true, .register]

/-- Both runs leave a key in the map. -/
theorem bookkeeping_leaks :
    (∃ s, runAll step (initial 1 30 []) lateRun = some s ∧ s.Settled ∧ ¬ s.Drained) ∧
      ∃ s, runAll step (initial 1 30 [7]) replyRun = some s ∧ s.Settled ∧ ¬ s.Drained := by
  refine ⟨⟨_, rfl, ?_, fun h => ?_⟩, ⟨_, rfl, ?_, fun h => ?_⟩⟩
  · exact settled_of_runAll 1 30 [] lateRun rfl (by decide) rfl rfl rfl
  · exact absurd (congrFun h.1 "c") (by decide)
  · exact settled_of_runAll 1 30 [7] replyRun rfl (by decide) rfl rfl rfl
  · exact absurd (congrFun h.1 "d") (by decide)

end AmqpSystem

end MicroserviceCommon
