import Mathlib.Logic.Function.Basic
import MicroserviceCommon.Infra.Run

/-!
# Waiting on a condition variable

One thread runs `while( ! flag ){ wait( lock, [ found || flag ] ); if( flag ) break; … }`. Others
change the data and call `notify_one`. The mutex that goes with the wait guards nothing, so a
notification is lost that comes after the predicate was found false and before the thread blocks.

The sections of the thread, the block, a change and its notification are steps of their own.
A blocked thread also wakes up by itself.

* `announced_iff_awakens` — a thread that sleeps, or is bound to, on a true predicate is announced a
  notification, exactly when no wake-up is lost however far the thread goes on
* `awakens_iff` — no wake-up of a run is lost exactly when its changes and notifications are in time
* `exits_of_flag`, `not_exits_of_inv` — whether a thread leaves its loop when it goes on alone
-/

namespace Infra

/-- The waiting thread and the calls of the threads `τ`. -/
structure WaitProgram (σ β ω τ χ : Type*) where
  /-- the part of the predicate that is read under the lock of the data -/
  found : σ → Bool
  /-- the flag that ends the loop, the last thing the predicate reads -/
  flag : σ → Bool
  /-- the first section after the wait -/
  entry : β
  /-- a section, and the one after it. `none` leads back to the wait. -/
  body : ω → β → σ → Option (σ × Option β)
  /-- a change of the data by a thread -/
  call : τ → χ → σ → Option σ
  /-- whether `notify_one` follows the change -/
  notifies : χ → Bool

inductive WaitPhase (β : Type*) where
  | loopHead
  | readsFound
  | readsFlag
  /-- the predicate was false -/
  | blocking
  | blocked
  | wokenUp
  | body (b : β)
  | exited
  deriving DecidableEq, Repr

/-- `notifying` are the threads between a change and its notification. -/
structure WaitSystem (σ β τ : Type*) where
  data : σ
  phase : WaitPhase β := .loopHead
  notifying : τ → Bool := fun _ => false

inductive WaitAction (ω τ χ : Type*) where
  | work (input : ω)
  | wakeUp
  | call (t : τ) (c : χ)
  | notify (t : τ)
  deriving DecidableEq, Repr

namespace WaitProgram

variable {σ β ω τ χ : Type*} (p : WaitProgram σ β ω τ χ)

def predicate (d : σ) : Bool := p.found d || p.flag d

/-- The next step of the thread that waits. -/
def work (s : WaitSystem σ β τ) (input : ω) : Option (WaitSystem σ β τ) :=
  match s.phase with
  | .loopHead => some { s with phase := if p.flag s.data then .exited else .readsFound }
  | .readsFound => some { s with phase := if p.found s.data then .wokenUp else .readsFlag }
  | .readsFlag => some { s with phase := if p.flag s.data then .wokenUp else .blocking }
  | .blocking => some { s with phase := .blocked }
  | .blocked => none
  | .wokenUp => some { s with phase := if p.flag s.data then .exited else .body p.entry }
  | .body b => (p.body input b s.data).map fun r =>
      { s with data := r.1, phase := r.2.elim .loopHead .body }
  | .exited => none

/-- Where a notification leaves the thread. -/
def wake (phase : WaitPhase β) : WaitPhase β :=
  match phase with
  | .blocked => .readsFound
  | _ => phase

/-- The thread is blocked on a true predicate, and nobody will notify it. -/
def LostWakeup (s : WaitSystem σ β τ) : Prop :=
  s.phase = .blocked ∧ p.predicate s.data = true ∧ ∀ t, s.notifying t = false

/-- The thread is blocked, or will be whatever is done to the predicate now. -/
def asleep (phase : WaitPhase β) (d : σ) : Bool :=
  match phase with
  | .readsFlag => !p.flag d
  | .blocking | .blocked => true
  | _ => false

/-- Some thread is yet to notify a thread that sleeps on a true predicate. -/
def Announced (s : WaitSystem σ β τ) : Prop :=
  p.asleep s.phase s.data = true → p.predicate s.data = true → ∃ t, s.notifying t = true

/-- A notification does not come before the block, unless another one is to come or the predicate
is false again. A change without a notification does not make the predicate true in the sleep. -/
def InTime (s : WaitSystem σ β τ) : WaitAction ω τ χ → Prop
  | .notify t => s.phase ≠ .blocked → p.asleep s.phase s.data = true →
      p.predicate s.data = true → ∃ t', t' ≠ t ∧ s.notifying t' = true
  | .call t c => p.notifies c = false → ∀ d, p.call t c s.data = some d →
      p.asleep s.phase d = true → p.predicate d = true → ∃ t', s.notifying t' = true
  | .work _ | .wakeUp => True

section Sleep

variable {p} {s s' : WaitSystem σ β τ}

/-- At the start the thread has not looked at its predicate. -/
theorem announced_start (d : σ) : p.Announced { data := d } := fun ha => nomatch ha

/-- The thread itself never goes to sleep on a true predicate. -/
theorem Announced.work (h : p.Announced s) {input : ω} (hs : p.work s input = some s') :
    p.Announced s' := by
  unfold WaitProgram.work at hs
  split at hs
  · cases hs
    split <;> exact fun ha => nomatch ha
  · cases hs
    split
    · exact fun ha => nomatch ha
    · next hfound =>
      -- the first half was false, so the flag alone could make the predicate true
      intro ha hp
      rw [predicate, Bool.eq_false_iff.mpr hfound, Bool.false_or] at hp
      rw [asleep, hp] at ha
      cases ha
  · next hphase =>
    cases hs
    split
    · exact fun ha => nomatch ha
    · next hflag =>
      intro _ hp
      refine h ?_ hp
      rw [hphase, asleep, Bool.eq_false_iff.mpr hflag]
      rfl
  · next hphase =>
    cases hs
    exact fun _ hp => h (by rw [hphase]; rfl) hp
  · cases hs
  · cases hs
    split <;> exact fun ha => nomatch ha
  · obtain ⟨⟨d, b⟩, _, rfl⟩ := Option.map_eq_some_iff.mp hs
    cases b <;> exact fun ha => nomatch ha
  · cases hs

theorem notifying_work {input : ω} (hs : p.work s input = some s') :
    s'.notifying = s.notifying := by
  unfold WaitProgram.work at hs
  split at hs
  case h_7 =>
    obtain ⟨r, _, rfl⟩ := Option.map_eq_some_iff.mp hs
    rfl
  all_goals cases hs <;> rfl

end Sleep

variable [DecidableEq τ]

/-- A thread notifies before it calls again. -/
def step (s : WaitSystem σ β τ) : WaitAction ω τ χ → Option (WaitSystem σ β τ)
  | .work input => p.work s input
  | .wakeUp => if s.phase matches .blocked then some { s with phase := wake s.phase } else none
  | .call t c =>
    if s.notifying t then none
    else (p.call t c s.data).map fun d =>
      { s with data := d, notifying := Function.update s.notifying t (p.notifies c) }
  | .notify t =>
    if s.notifying t then
      some { s with phase := wake s.phase, notifying := Function.update s.notifying t false }
    else none

/-- No wake-up is lost now, nor when the thread goes on alone. -/
def Awakens (s : WaitSystem σ β τ) : Prop :=
  ∀ inputs : List ω, AlwaysState p.step (fun s => ¬ p.LostWakeup s) s (inputs.map .work)

section Rules

variable {p} {s s' : WaitSystem σ β τ}

theorem Awakens.not_lostWakeup (h : p.Awakens s) : ¬ p.LostWakeup s := h []

/-- The others that are to notify are still to do so. -/
theorem exists_notifying_update (notifying : τ → Bool) (t : τ) :
    (∃ t', Function.update notifying t false t' = true) ↔ ∃ t', t' ≠ t ∧ notifying t' = true := by
  refine exists_congr fun t' => ?_
  by_cases ht' : t' = t
  · subst ht'
    simp
  · simp [ht']

omit [DecidableEq τ] in
/-- A thread that was woken up is not asleep, and any other one is where it was. -/
theorem announced_wake_iff (notifying : τ → Bool) :
    p.Announced { s with phase := wake s.phase, notifying := notifying } ↔
      (s.phase ≠ .blocked → p.asleep s.phase s.data = true → p.predicate s.data = true →
        ∃ t, notifying t = true) := by
  by_cases hblocked : s.phase = .blocked
  · refine iff_of_true (fun ha => ?_) fun hne => absurd hblocked hne
    simp only [hblocked, wake, asleep] at ha
    cases ha
  · have hwake : wake s.phase = s.phase := by
      unfold wake
      split
      · next hb => exact absurd hb hblocked
      · rfl
    rw [hwake]
    exact ⟨fun hann _ => hann, fun hin => hin hblocked⟩

/-- A call that is followed by a notification is always in time. -/
theorem inTime_call_iff {t : τ} {c : χ} {d : σ} (ht : s.notifying t = false)
    (hd : p.call t c s.data = some d) :
    p.InTime s (.call t c) ↔ p.Announced
      { s with data := d, notifying := Function.update s.notifying t (p.notifies c) } := by
  cases hc : p.notifies c with
  | true =>
    refine iff_of_true (fun hn => ?_) fun _ _ => ⟨t, Function.update_self ..⟩
    rw [hc] at hn
    cases hn
  | false =>
    -- nobody else stops or begins to notify
    have hsame : Function.update s.notifying t false = s.notifying := by
      rw [← ht]
      exact Function.update_eq_self t s.notifying
    rw [hsame]
    constructor
    · exact fun hin => hin hc d hd
    · intro hann _ d' hd'
      rw [hd] at hd'
      cases hd'
      exact hann

/-- **One step keeps the announcement exactly when it is in time.** -/
theorem inTime_iff_announced (h : p.Announced s) {a : WaitAction ω τ χ}
    (hs : p.step s a = some s') : p.InTime s a ↔ p.Announced s' := by
  cases a with
  | work input => exact iff_of_true trivial (h.work hs)
  | wakeUp =>
    obtain ⟨hphase, hs⟩ := Option.ite_none_right_eq_some.mp hs
    cases hs
    refine iff_of_true trivial ((announced_wake_iff s.notifying).mpr fun hne => ?_)
    split at hphase
    · next hblocked => exact absurd hblocked hne
    · cases hphase
  | call t c =>
    obtain ⟨ht, hs⟩ := Option.ite_none_left_eq_some.mp hs
    obtain ⟨d, hd, rfl⟩ := Option.map_eq_some_iff.mp hs
    exact inTime_call_iff (Bool.eq_false_iff.mpr ht) hd
  | notify t =>
    obtain ⟨_, hs⟩ := Option.ite_none_right_eq_some.mp hs
    cases hs
    rw [announced_wake_iff, exists_notifying_update]
    exact Iff.rfl

/-! ## The thread alone -/

/-- What is announced stays so while the thread goes on alone. -/
theorem Announced.awakens (h : p.Announced s) : p.Awakens s := by
  intro inputs
  have hwork : AlwaysStep p.step (fun _ a => ∃ input, a = .work input) s (inputs.map .work) := by
    clear h
    induction inputs generalizing s with
    | nil => trivial
    | cons input inputs ih => exact fun s' _ => ⟨⟨input, rfl⟩, ih⟩
  have hrun : AlwaysState p.step p.Announced s (inputs.map .work) := by
    refine alwaysState_of_alwaysStep p.Announced ?_ _ s h hwork
    rintro s _ s' h ⟨input, rfl⟩ hs
    exact h.work hs
  refine hrun.mono ?_
  rintro s hann ⟨hphase, hp, hnone⟩
  obtain ⟨t, ht⟩ := hann (by rw [hphase]; rfl) hp
  rw [hnone t] at ht
  cases ht

/-- A thread that sleeps without an announcement is two steps from a lost wake-up at most. -/
theorem Awakens.announced [Nonempty ω] (h : p.Awakens s) : p.Announced s := by
  intro ha hp
  obtain ⟨input⟩ := ‹Nonempty ω›
  by_contra hsome
  have hnone : ∀ t, s.notifying t = false := fun t =>
    Bool.eq_false_iff.mpr fun ht => hsome ⟨t, ht⟩
  cases hphase : s.phase with
  | blocked => exact h [] ⟨hphase, hp, hnone⟩
  | blocking =>
    have hwork : p.step s (.work input) = some { s with phase := .blocked } := by
      rw [step, work, hphase]
    exact (h [input]).2 _ hwork ⟨rfl, hp, hnone⟩
  | readsFlag =>
    have hflag : p.flag s.data = false := by
      rw [hphase] at ha
      exact Bool.not_eq_true' _ ▸ ha
    have hwork : p.step s (.work input) = some { s with phase := .blocking } := by
      rw [step, work, hphase]
      show some { s with phase := if p.flag s.data = true then _ else _ } = _
      rw [hflag, if_neg Bool.false_ne_true]
    exact ((h [input, input]).2 _ hwork).2 { s with phase := .blocked } rfl ⟨rfl, hp, hnone⟩
  | _ => rw [hphase] at ha; cases ha

/-- **What is announced now decides whether the thread can oversleep.** -/
theorem announced_iff_awakens [Nonempty ω] : p.Announced s ↔ p.Awakens s :=
  ⟨Announced.awakens, Awakens.announced⟩

/--
**No wake-up of a run is lost exactly when its changes and notifications are in time.**

`C` is what being in time comes to in the states that satisfy `J`, which every step keeps.
-/
theorem awakens_iff [Nonempty ω] {C : WaitSystem σ β τ → WaitAction ω τ χ → Prop}
    (J : WaitSystem σ β τ → Prop) (hJ : ∀ s a s', J s → p.step s a = some s' → J s')
    (hC : ∀ s a s', J s → p.Announced s → p.step s a = some s' → (C s a ↔ p.InTime s a))
    (as : List (WaitAction ω τ χ)) (s : WaitSystem σ β τ) (hs : J s) (hann : p.Announced s) :
    AlwaysState p.step p.Awakens s as ↔ AlwaysStep p.step C s as :=
  alwaysState_iff_of_inv p.step (fun s => J s ∧ p.Announced s) (P := p.Awakens) (C := C)
    (fun _ h => announced_iff_awakens.mp h.2)
    (fun s a s' h hc hstep => ⟨hJ s a s' h.1 hstep,
      (inTime_iff_announced h.2 hstep).mp ((hC s a s' h.1 h.2 hstep).mp hc)⟩)
    (fun s a s' h hstep hp => (hC s a s' h.1 h.2 hstep).mpr
      ((inTime_iff_announced h.2 hstep).mpr (announced_iff_awakens.mpr hp)))
    as s ⟨hs, hann⟩

/-! ## Programs whose other calls are quiet -/

/-- The call leaves the flag and makes nothing found. -/
def QuietCall (p : WaitProgram σ β ω τ χ) (t : τ) (c : χ) : Prop :=
  ∀ d d', p.call t c d = some d' →
    p.flag d' = p.flag d ∧ (p.found d' = true → p.found d = true)

def Quiet (p : WaitProgram σ β ω τ χ) : Prop :=
  ∀ t c, p.notifies c = false → p.QuietCall t c

/-- What `InTime` says about notifications. -/
def NotifiesInTime (p : WaitProgram σ β ω τ χ) (s : WaitSystem σ β τ) : WaitAction ω τ χ → Prop
  | .notify t => s.phase ≠ .blocked → p.asleep s.phase s.data = true →
      p.predicate s.data = true → ∃ t', t' ≠ t ∧ s.notifying t' = true
  | .work _ | .wakeUp | .call _ _ => True

omit [DecidableEq τ] in
/-- A quiet call in the sleep changes nothing for the worse. -/
theorem QuietCall.inTime {t : τ} {c : χ} (hquiet : p.QuietCall t c) (h : p.Announced s) :
    p.InTime s (.call t c) := by
  intro _ d hd ha hp
  obtain ⟨hflag, hfound⟩ := hquiet s.data d hd
  have hasleep : p.asleep s.phase s.data = true := by
    cases hphase : s.phase with
    | readsFlag =>
      rw [hphase] at ha
      show (!p.flag s.data) = true
      rw [← hflag]
      exact ha
    | _ => rw [hphase] at ha; exact ha
  have hpred : p.predicate s.data = true := by
    rw [predicate, Bool.or_eq_true] at hp ⊢
    exact hp.imp hfound fun hd => hflag ▸ hd
  exact h hasleep hpred

/-- **Quiet programs lose a wake-up only by a notification that comes too early.** -/
theorem awakens_iff_of_quiet [Nonempty ω] (hquiet : Quiet p) (as : List (WaitAction ω τ χ))
    (d : σ) :
    AlwaysState p.step p.Awakens { data := d } as ↔
      AlwaysStep p.step p.NotifiesInTime { data := d } as := by
  refine awakens_iff (fun _ => True) (fun _ _ _ _ _ => trivial) ?_ as _ trivial (announced_start d)
  intro s a s' _ h _
  cases a with
  | work input => exact Iff.rfl
  | wakeUp => exact Iff.rfl
  | call t c =>
    refine iff_of_true trivial ?_
    cases hc : p.notifies c with
    | true => exact fun hn => absurd (hn.symm.trans hc) Bool.false_ne_true
    | false => exact (hquiet t c hc).inTime h
  | notify t => exact Iff.rfl

/-! ## Programs that never notify -/

theorem notifying_of_silent (hsilent : ∀ c, p.notifies c = false) {a : WaitAction ω τ χ}
    (h : ∀ t, s.notifying t = false) (hs : p.step s a = some s') : ∀ t, s'.notifying t = false := by
  cases a with
  | work input =>
    intro t
    rw [notifying_work hs]
    exact h t
  | wakeUp =>
    rw [step] at hs
    split at hs
    · cases hs
      exact h
    · cases hs
  | call t c =>
    rw [step, h t, if_neg Bool.false_ne_true] at hs
    obtain ⟨d, _, rfl⟩ := Option.map_eq_some_iff.mp hs
    intro t'
    show Function.update s.notifying t (p.notifies c) t' = false
    rw [hsilent c]
    by_cases ht' : t' = t
    · subst ht'
      exact Function.update_self ..
    · rw [Function.update_of_ne ht']
      exact h t'
  | notify t =>
    rw [step, h t, if_neg Bool.false_ne_true] at hs
    cases hs

omit [DecidableEq τ] in
/-- A silent call that makes the predicate true must not meet a thread that sleeps. -/
theorem inTime_iff_of_silent (h : ∀ t, s.notifying t = false) {t : τ} {c : χ} {d : σ}
    (hc : p.notifies c = false) (hd : p.call t c s.data = some d) (hp : p.predicate d = true) :
    p.InTime s (.call t c) ↔ p.asleep s.phase d = false := by
  constructor
  · intro hin
    refine Bool.eq_false_iff.mpr fun ha => ?_
    obtain ⟨t', ht'⟩ := hin hc d hd ha hp
    rw [h t'] at ht'
    cases ht'
  · intro ha _ d' hd' ha' _
    rw [hd] at hd'
    cases hd'
    rw [ha] at ha'
    cases ha'

/-! ## Leaving the loop -/

/-- Alone, the thread comes to the end of its loop. -/
def Exits (p : WaitProgram σ β ω τ χ) (s : WaitSystem σ β τ) : Prop :=
  ∃ (inputs : List ω) (s' : WaitSystem σ β τ),
    runAll p.step s (inputs.map .work) = some s' ∧ s'.phase = .exited

/-- The thread is neither on its way into the block nor behind the wait. -/
def isOutside : WaitPhase β → Bool
  | .loopHead | .readsFound | .readsFlag | .wokenUp | .exited => true
  | .blocking | .blocked | .body _ => false

theorem exits_of_exited (h : s.phase = .exited) : p.Exits s := ⟨[], s, rfl, h⟩

theorem exits_of_work (input : ω) (s' : WaitSystem σ β τ) (hs : p.work s input = some s')
    (h : p.Exits s') : p.Exits s := by
  obtain ⟨inputs, s₁, hrun, hphase⟩ := h
  refine ⟨input :: inputs, s₁, ?_, hphase⟩
  rw [List.map_cons, runAll, step, hs]
  exact hrun

theorem exits_of_wokenUp [Nonempty ω] (hflag : p.flag s.data = true) (hphase : s.phase = .wokenUp) :
    p.Exits s := by
  obtain ⟨input⟩ := ‹Nonempty ω›
  refine exits_of_work input { s with phase := .exited } ?_ (exits_of_exited rfl)
  rw [work, hphase]
  dsimp only
  rw [if_pos hflag]

theorem exits_of_readsFlag [Nonempty ω] (hflag : p.flag s.data = true)
    (hphase : s.phase = .readsFlag) : p.Exits s := by
  obtain ⟨input⟩ := ‹Nonempty ω›
  refine exits_of_work input { s with phase := .wokenUp } ?_ (exits_of_wokenUp hflag rfl)
  rw [work, hphase]
  dsimp only
  rw [if_pos hflag]

/-- **A thread outside of the block and of the body leaves once the flag is up.** -/
theorem exits_of_flag [Nonempty ω] (hflag : p.flag s.data = true)
    (houtside : isOutside s.phase = true) : p.Exits s := by
  obtain ⟨input⟩ := ‹Nonempty ω›
  cases hphase : s.phase with
  | loopHead =>
    refine exits_of_work input { s with phase := .exited } ?_ (exits_of_exited rfl)
    rw [work, hphase]
    dsimp only
    rw [if_pos hflag]
  | readsFound =>
    -- the predicate is true, by its first half or by the flag
    refine exits_of_work input { s with phase := if p.found s.data then .wokenUp else .readsFlag }
      ?_ ?_
    · rw [work, hphase]
    · split
      · exact exits_of_wokenUp hflag rfl
      · exact exits_of_readsFlag hflag rfl
  | readsFlag => exact exits_of_readsFlag hflag hphase
  | wokenUp => exact exits_of_wokenUp hflag hphase
  | exited => exact exits_of_exited hphase
  | blocking | blocked | body _ => rw [hphase] at houtside; cases houtside

/-- A thread that stays where it is never leaves. -/
theorem not_exits_of_inv (Inv : WaitSystem σ β τ → Prop)
    (hexited : ∀ s, Inv s → s.phase ≠ .exited)
    (hwork : ∀ s input s', Inv s → p.work s input = some s' → Inv s') (hs : Inv s) :
    ¬ p.Exits s := by
  rintro ⟨inputs, s', hrun, hphase⟩
  induction inputs generalizing s with
  | nil =>
    cases hrun
    exact hexited _ hs hphase
  | cons input inputs ih =>
    obtain ⟨s₁, h₁, h₂⟩ := Option.bind_eq_some_iff.mp hrun
    exact ih (hwork s input s₁ hs h₁) h₂

end Rules

end WaitProgram

end Infra
