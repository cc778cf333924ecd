import MicroserviceCommon.Infra.Run
import MicroserviceCommon.Infra.Semaphore
import MicroserviceCommon.System.ProcessLauncher

/-!
# A lock is held by one process while every process takes it once

`releaseLock` posts the semaphore and leaves the name in `m_processLocks`. A later `getLock`
finds the name and returns true without waiting, and a second `releaseLock` posts again.

* `getLock_token_iff` — semaphore and holders stay in balance exactly when every call is paired,
  and then at most one process holds the lock
-/

namespace MicroserviceCommon.ProcessLauncher

open Infra

variable {π : Type*} {lockName : String}

namespace LockSystem

@[simp] theorem lock_setLock (s : LockSystem π) (l : Lock π) :
    (s.setLock lockName l).lock lockName = l := Function.update_self ..

theorem lock_setLock_of_ne {name : String} (h : lockName ≠ name) (s : LockSystem π) (l : Lock π) :
    (s.setLock name l).lock lockName = s.lock lockName := Function.update_of_ne h ..

/-- A holder has the lock in its map, and whatever is in a map or waited for was created. -/
structure Consistent (lockName : String) (s : LockSystem π) : Prop where
  cached : ∀ p, (s.lock lockName).acquired p = true → (s.lock lockName).processLocks p = true
  created : ∀ p, (s.lock lockName).processLocks p = true → (s.lock lockName).semaphore.isSome
  waits : ∀ p, s.waiting p = some lockName →
    (s.lock lockName).processLocks p = false ∧ (s.lock lockName).semaphore.isSome

/-- The token of a lock. A semaphore that is not there yet will have the value 1. -/
def Balanced (lockName : String) (s : LockSystem π) : Prop :=
  Token ((s.lock lockName).semaphore.getD 1) (s.lock lockName).acquired

/-- Nobody locks again or releases what he has already released, and no wait is interrupted. -/
def Paired (lockName : String) (s : LockSystem π) : LockAction π → Prop
  | .getLock p name _ _ | .releaseLock p name => name = lockName →
    (s.lock lockName).processLocks p = true → (s.lock lockName).acquired p = true
  | .semWait p interrupted => s.waiting p = some lockName → interrupted = false

theorem consistent_start (created : Bool) :
    Consistent lockName (start created : LockSystem π) := by
  constructor
  all_goals
    intro p h
    cases h

theorem balanced_start (created : Bool) : Balanced lockName (start created : LockSystem π) := by
  cases created with
  | false => exact Token.init
  | true => exact Token.init

/-! ## What a step does to one lock -/

variable [DecidableEq π]

/-- The effects that a step can have on a lock. -/
inductive Effect (lockName : String) (s s' : LockSystem π) (a : LockAction π) : Prop
  /-- nothing but, maybe, the creation of the semaphore -/
  | quiet (semaphore : Option Nat) (hpaired : Paired lockName s a)
      (hlock : s'.lock lockName = { s.lock lockName with semaphore := semaphore })
      (hvalue : semaphore.getD 1 = (s.lock lockName).semaphore.getD 1)
      (hcreated : (s.lock lockName).semaphore.isSome → semaphore.isSome)
      (hwaiting : ∀ q, s'.waiting q = some lockName → s.waiting q = some lockName ∨
        (s.lock lockName).processLocks q = false ∧ semaphore.isSome)
  /-- `getLock` finds the name in the map -/
  | again (p : π) (hcached : (s.lock lockName).processLocks p = true)
      (hpaired : Paired lockName s a ↔ (s.lock lockName).acquired p = true)
      (hlock : s'.lock lockName = { s.lock lockName with
        acquired := Function.update (s.lock lockName).acquired p true })
      (hwaiting : s'.waiting = s.waiting)
  /-- `sem_wait` returns -/
  | enter (p : π) (value : Nat) (hpaired : Paired lockName s a)
      (hvalue : (s.lock lockName).semaphore = some (value + 1))
      (hlock : s'.lock lockName = { s.lock lockName with semaphore := some value }.enter p)
      (hwaiting : s'.waiting = Function.update s.waiting p none)
  /-- `sem_wait` fails -/
  | interrupted (p : π) (hpaired : ¬Paired lockName s a) (hwaits : s.waiting p = some lockName)
      (hlock : s'.lock lockName = (s.lock lockName).enter p)
      (hwaiting : s'.waiting = Function.update s.waiting p none)
  | release (p : π) (hcached : (s.lock lockName).processLocks p = true)
      (hpaired : Paired lockName s a ↔ (s.lock lockName).acquired p = true)
      (hlock : s'.lock lockName = (s.lock lockName).release p)
      (hwaiting : s'.waiting = s.waiting)

variable {s s' : LockSystem π} {a : LockAction π}

/-- A step that leaves the lock alone. -/
theorem Effect.of_frame (hpaired : Paired lockName s a) (hlock : s'.lock lockName = s.lock lockName)
    (hwaiting : ∀ q, s'.waiting q = some lockName → s.waiting q = some lockName) :
    Effect lockName s s' a :=
  Effect.quiet (s.lock lockName).semaphore hpaired hlock rfl id fun q h => Or.inl (hwaiting q h)

theorem update_waiting {p q : π} {waiting : π → Option String}
    (h : Function.update waiting p none q = some lockName) : q ≠ p ∧ waiting q = some lockName := by
  by_cases hqp : q = p
  · rw [hqp, Function.update_self] at h
    cases h
  · rw [Function.update_of_ne hqp] at h
    exact ⟨hqp, h⟩

/-- An opened semaphore has its old value, or 1 if it is new. -/
theorem semOpen_eq_some {createLock opened : Bool} {semaphore : Option Nat} {value : Nat}
    (h : semOpen createLock opened semaphore = some value) : value = semaphore.getD 1 := by
  unfold semOpen at h
  split at h
  · split at h
    · exact (Option.some.inj h).symm
    · rw [h, Option.getD_some]
  · cases h

theorem effect_getLock (p : π) (name : String) (createLock opened : Bool) :
    Effect lockName s (s.getLock p name createLock opened)
      (.getLock p name createLock opened) := by
  unfold getLock
  by_cases hname : name = lockName
  · subst hname
    dsimp only
    split
    · next hcached =>
      refine Effect.again p hcached ?_ (lock_setLock _ _) rfl
      exact ⟨fun h => h rfl hcached, fun h _ _ => h⟩
    · next hcached =>
      have hpaired : Paired name s (.getLock p name createLock opened) := fun _ hc =>
        absurd hc hcached
      split
      · exact Effect.of_frame hpaired rfl fun _ h => h
      · next value hopen =>
        refine Effect.quiet (some value) hpaired (lock_setLock _ _) (semOpen_eq_some hopen)
          (fun _ => rfl) fun q hq => ?_
        dsimp only at hq
        by_cases hqp : q = p
        · rw [hqp]
          exact Or.inr ⟨Bool.eq_false_iff.mpr hcached, rfl⟩
        · rw [Function.update_of_ne hqp] at hq
          exact Or.inl hq
  · have hpaired : Paired lockName s (.getLock p name createLock opened) := fun h =>
      absurd h hname
    have hne : lockName ≠ name := fun h => hname h.symm
    dsimp only
    split
    · exact Effect.of_frame hpaired (lock_setLock_of_ne hne _ _) fun _ h => h
    · split
      · exact Effect.of_frame hpaired rfl fun _ h => h
      · refine Effect.of_frame hpaired (lock_setLock_of_ne hne _ _) fun q hq => ?_
        dsimp only at hq
        by_cases hqp : q = p
        · rw [hqp, Function.update_self] at hq
          exact absurd (Option.some.inj hq) hname
        · rw [Function.update_of_ne hqp] at hq
          exact hq

theorem effect_semWait {p : π} {interrupted : Bool} (h : s.semWait p interrupted = some s') :
    Effect lockName s s' (.semWait p interrupted) := by
  unfold semWait at h
  split at h
  · cases h
  · next name hwaits =>
    dsimp only at h
    by_cases hname : name = lockName
    · subst hname
      split at h
      · next hint =>
        cases h
        refine Effect.interrupted p (fun hc => ?_) hwaits (lock_setLock _ _) rfl
        rw [hc hwaits] at hint
        cases hint
      · next hint =>
        split at h
        · next value hvalue =>
          cases h
          refine Effect.enter p value ?_ hvalue (lock_setLock _ _) rfl
          exact fun _ => Bool.eq_false_iff.mpr hint
        · cases h
    · have hne : lockName ≠ name := fun hc => hname hc.symm
      have hpaired : Paired lockName s (.semWait p interrupted) := by
        intro hc
        rw [hwaits] at hc
        exact absurd (Option.some.inj hc) hname
      have hwaiting : ∀ q, Function.update s.waiting p none q = some lockName →
          s.waiting q = some lockName := fun _ hq => (update_waiting hq).2
      split at h
      · cases h
        exact Effect.of_frame hpaired (lock_setLock_of_ne hne _ _) hwaiting
      · split at h
        · cases h
          exact Effect.of_frame hpaired (lock_setLock_of_ne hne _ _) hwaiting
        · cases h

theorem effect_releaseLock (p : π) (name : String) :
    Effect lockName s (s.releaseLock p name) (.releaseLock p name) := by
  unfold releaseLock
  dsimp only
  by_cases hname : name = lockName
  · subst hname
    split
    · next hcached =>
      refine Effect.release p hcached ?_ (lock_setLock _ _) rfl
      exact ⟨fun h => h rfl hcached, fun h _ _ => h⟩
    · next hcached =>
      exact Effect.of_frame (fun _ hc => absurd hc hcached) rfl fun _ h => h
  · have hpaired : Paired lockName s (.releaseLock p name) := fun h => absurd h hname
    have hne : lockName ≠ name := fun h => hname h.symm
    split
    · exact Effect.of_frame hpaired (lock_setLock_of_ne hne _ _) fun _ h => h
    · exact Effect.of_frame hpaired rfl fun _ h => h

theorem effect_step (lockName : String) (h : s.step a = some s') : Effect lockName s s' a := by
  cases a with
  | getLock p name createLock opened =>
    rw [step] at h
    split at h
    · cases h
    · cases h
      exact effect_getLock p name createLock opened
  | semWait p interrupted => exact effect_semWait h
  | releaseLock p name =>
    rw [step] at h
    split at h
    · cases h
    · cases h
      exact effect_releaseLock p name

/-! ## Consistency -/

theorem update_true {p q : π} {f : π → Bool} (h : Function.update f p true q = true) :
    q = p ∨ f q = true := by
  by_cases hqp : q = p
  · exact Or.inl hqp
  · rw [Function.update_of_ne hqp] at h
    exact Or.inr h

theorem Consistent.enter {p : π} (semaphore : Option Nat) (h : Consistent lockName s)
    (hsome : semaphore.isSome)
    (hlock : s'.lock lockName = { s.lock lockName with semaphore := semaphore }.enter p)
    (hwaiting : s'.waiting = Function.update s.waiting p none) : Consistent lockName s' where
  cached q hq := by
    rw [hlock] at hq ⊢
    by_cases hqp : q = p
    · rw [hqp]
      exact Function.update_self ..
    · rw [Lock.acquired_enter, Function.update_of_ne hqp] at hq
      rw [Lock.processLocks_enter, Function.update_of_ne hqp]
      exact h.cached q hq
  created q _ := by
    rw [hlock]
    exact hsome
  waits q hq := by
    rw [hwaiting] at hq
    obtain ⟨hqp, hq⟩ := update_waiting hq
    rw [hlock]
    refine ⟨?_, hsome⟩
    rw [Lock.processLocks_enter, Function.update_of_ne hqp]
    exact (h.waits q hq).1

theorem Consistent.step (h : Consistent lockName s) (hs : s.step a = some s') :
    Consistent lockName s' := by
  cases effect_step lockName hs with
  | quiet semaphore _ hlock _ hcreated hwaiting =>
    constructor
    · rw [hlock]
      exact h.cached
    · rw [hlock]
      exact fun q hq => hcreated (h.created q hq)
    · intro q hq
      rw [hlock]
      rcases hwaiting q hq with hold | hnew
      · exact ⟨(h.waits q hold).1, hcreated (h.waits q hold).2⟩
      · exact hnew
  | again p hcached _ hlock hwaiting =>
    constructor
    · intro q hq
      rw [hlock] at hq ⊢
      rcases update_true hq with rfl | hq
      · exact hcached
      · exact h.cached q hq
    · rw [hlock]
      exact h.created
    · rw [hlock, hwaiting]
      exact h.waits
  | enter p value _ _ hlock hwaiting => exact h.enter _ rfl hlock hwaiting
  | interrupted p _ hwaits hlock hwaiting =>
    exact h.enter _ (h.waits p hwaits).2 hlock hwaiting
  | release p _ _ hlock hwaiting =>
    have hsome : ((s.lock lockName).release p).semaphore.isSome =
        (s.lock lockName).semaphore.isSome := by
      rw [Lock.semaphore_release, Option.isSome_map]
    constructor
    · intro q hq
      rw [hlock] at hq ⊢
      by_cases hqp : q = p
      · rw [hqp, Lock.acquired_release, Function.update_self] at hq
        cases hq
      · rw [Lock.acquired_release, Function.update_of_ne hqp] at hq
        exact h.cached q hq
    · rw [hlock, hsome]
      exact h.created
    · rw [hlock, hwaiting, hsome]
      exact h.waits

/-! ## The token -/

theorem semPost_of_le_one {value : Nat} (h : value ≤ 1) : semPost value = value + 1 := by
  have hne : value ≠ semValueMax := by
    rw [semValueMax]
    omega
  exact if_neg hne

theorem Balanced.step (h : Balanced lockName s) (hs : s.step a = some s')
    (hc : Consistent lockName s) (hpaired : Paired lockName s a) : Balanced lockName s' := by
  unfold Balanced at h ⊢
  cases effect_step lockName hs with
  | quiet semaphore _ hlock hvalue _ _ =>
    rw [hlock, hvalue]
    exact h
  | again p _ hiff hlock _ =>
    have hp := hiff.mp hpaired
    rw [hlock]
    dsimp only
    rw [← hp, Function.update_eq_self]
    exact h
  | enter p value _ hvalue hlock _ =>
    rw [hvalue] at h
    rw [hlock]
    exact h.take p
  | interrupted p hnot _ _ _ => exact absurd hpaired hnot
  | release p hcached hiff hlock _ =>
    have hp := hiff.mp hpaired
    obtain ⟨value, hvalue⟩ := Option.isSome_iff_exists.mp (hc.created p hcached)
    rw [hvalue] at h
    have hpost : semPost value = value + 1 := semPost_of_le_one h.le_one
    rw [hlock, Lock.semaphore_release, hvalue, Option.map_some, hpost]
    exact h.give hp

/-- A step after which the token is still one was paired. -/
theorem Balanced.paired (h : Balanced lockName s) (hs : s.step a = some s')
    (hc : Consistent lockName s) (h' : Balanced lockName s') : Paired lockName s a := by
  unfold Balanced at h h'
  cases effect_step lockName hs with
  | quiet _ hpaired => exact hpaired
  | again p _ hiff hlock _ =>
    refine hiff.mpr ?_
    by_contra hp
    rw [hlock] at h'
    exact h.not_enter (Bool.eq_false_iff.mpr hp) h'
  | enter p _ hpaired => exact hpaired
  | interrupted p _ hwaits hlock _ =>
    have hp : (s.lock lockName).acquired p = false := by
      rw [Bool.eq_false_iff]
      intro hp
      have hcached := hc.cached p hp
      rw [(hc.waits p hwaits).1] at hcached
      cases hcached
    rw [hlock] at h'
    exact absurd h' (h.not_enter hp)
  | release p hcached hiff hlock _ =>
    refine hiff.mpr ?_
    by_contra hp
    obtain ⟨value, hvalue⟩ := Option.isSome_iff_exists.mp (hc.created p hcached)
    rw [hvalue] at h
    have hpost : semPost value = value + 1 := semPost_of_le_one h.le_one
    have hfalse : (s.lock lockName).acquired p = false := Bool.eq_false_iff.mpr hp
    rw [hlock, Lock.semaphore_release, hvalue, Option.map_some, hpost, Lock.acquired_release,
      ← hfalse, Function.update_eq_self] at h'
    exact h.not_post h'

end LockSystem

open LockSystem

variable [DecidableEq π]

/--
**Semaphore and holders stay in balance exactly when every call is paired.**

Then at most one process is between a `getLock` that returned true and its `releaseLock`.
-/
theorem getLock_token_iff (lockName : String) (created : Bool) (actions : List (LockAction π)) :
    (AlwaysState step (Balanced lockName) (start created) actions ↔
        AlwaysStep step (Paired lockName) (start created) actions) ∧
      (AlwaysStep step (Paired lockName) (start created) actions →
        AlwaysState step (fun s => Exclusive (s.lock lockName).acquired) (start created)
          actions) := by
  have hiff := alwaysState_iff_of_inv (step (π := π))
    (fun s => Consistent lockName s ∧ Balanced lockName s) (P := Balanced lockName)
    (C := Paired lockName) (fun _ h => h.2)
    (fun _ _ _ h hc hs => ⟨h.1.step hs, h.2.step hs h.1 hc⟩)
    (fun _ _ _ h hs h' => h.2.paired hs h.1 h') actions (start created)
    ⟨consistent_start created, balanced_start created⟩
  refine ⟨hiff, fun hpaired => ?_⟩
  exact (hiff.mpr hpaired).mono fun s h => Token.exclusive h

/-- Process 0 releases the lock, process 1 gets it, and process 0 gets it again. -/
theorem getLock_twice :
    ∃ s, runAll LockSystem.step (LockSystem.start false)
        [.getLock 0 "lock" true true, .semWait 0 false, .releaseLock 0 "lock",
         .getLock 1 "lock" true true, .semWait 1 false, .getLock 0 "lock" true true] = some s ∧
      (s.lock "lock").acquired 0 = true ∧ (s.lock "lock").acquired 1 = true :=
  ⟨_, rfl, rfl, rfl⟩

end MicroserviceCommon.ProcessLauncher
