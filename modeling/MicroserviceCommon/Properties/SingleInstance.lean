import MicroserviceCommon.Infra.Run
import MicroserviceCommon.Infra.Semaphore
import MicroserviceCommon.System.InstanceLock

/-!
# A single instance and its pid file

At most one process should get past `isApplicationInstanceUnique`, and the file should hold its pid
from then on. The lock does the first. For the second the file would have to stay as it is, but a
process truncates it before it asks for the lock.

* `single_instance_iff` — the holder of the lock is the only instance and keeps its pid in the file,
  exactly when nobody starts after the pid was written, `flock` fails with `EWOULDBLOCK` only and
  the stream gets the pid
* `single_instance_truncated` — a second start empties the file
-/

namespace MicroserviceCommon.SystemEnvironmentFacade

open Infra

variable {π : Type*}

namespace LockFile

/-- At most one instance passed, and the file has the pid of the one that wrote it. -/
structure SingleInstance (pid : π → TPid) (s : LockFile π) : Prop where
  single : Exclusive fun p => (s.phase p).passed
  pidFile : ∀ p, s.phase p = .pidWritten → s.content = pidText (pid p)

/-- An instance that passed has the lock, and the file has the pid of the one that wrote it. -/
structure LockedInstance (pid : π → TPid) (s : LockFile π) : Prop where
  locked : ∀ p, (s.phase p).passed = true → s.holder = some p
  pidFile : ∀ p, s.phase p = .pidWritten → s.content = pidText (pid p)

/-- Nobody opens the lock file once a pid is in it, `flock` has no other error than `EWOULDBLOCK`,
and the stream gets the pid of the process. -/
def Respects (pid : π → TPid) (s : LockFile π) : LockFileAction π → Prop
  | .openLockFile _ => ∀ q, s.phase q ≠ .pidWritten
  | .flock _ failed => failed = false
  | .flushPidFile p text => text = pidText (pid p)
  | .openPidFile _ _ | .terminate _ => True

variable {pid : π → TPid} {s s' : LockFile π} {a : LockFileAction π}

theorem LockedInstance.singleInstance (h : LockedInstance pid s) : SingleInstance pid s where
  single := fun p q hp hq => Option.some.inj ((h.locked p hp).symm.trans (h.locked q hq))
  pidFile := h.pidFile

/-- The invariant: the lock has a running owner, and a stream is opened on an empty file. -/
structure Consistent (s : LockFile π) : Prop where
  owner : ∀ p, s.holder = some p → (s.phase p).passed = true
  truncated : ∀ p, s.phase p = .pidFileOpen → s.content = ""

theorem pidText_ne_empty (pid : TPid) : pidText pid ≠ "" := by
  unfold pidText
  cases pid.toInt with
  | ofNat n => exact Nat.repr_ne_empty
  | negSucc n => simp [toString, Int.repr]

theorem overwrite_empty (text : String) : overwrite text "" = text := by
  simp [overwrite]

theorem lockedInstance_start (content : String) : LockedInstance pid (start content) where
  locked := fun _ h => by cases h
  pidFile := fun _ h => by cases h

theorem consistent_start (content : String) : Consistent (start content : LockFile π) where
  owner := fun _ h => by cases h
  truncated := fun _ h => by cases h

/-! ## Steps -/

/-- What the law and the invariant say of one process. -/
structure Instance (pid : π → TPid) (s : LockFile π) (q : π) : Prop where
  locked : (s.phase q).passed = true → s.holder = some q
  pidFile : s.phase q = .pidWritten → s.content = pidText (pid q)
  owner : s.holder = some q → (s.phase q).passed = true
  truncated : s.phase q = .pidFileOpen → s.content = ""

theorem instance_iff : LockedInstance pid s ∧ Consistent s ↔ ∀ q, Instance pid s q := by
  constructor
  · rintro ⟨h, hc⟩ q
    exact ⟨h.locked q, h.pidFile q, hc.owner q, hc.truncated q⟩
  · intro h
    exact ⟨⟨fun q => (h q).locked, fun q => (h q).pidFile⟩,
      ⟨fun q => (h q).owner, fun q => (h q).truncated⟩⟩

/-- A process that did not pass needs nothing of the lock or the file. -/
theorem Instance.of_not_passed {q : π} (hphase : (s.phase q).passed = false)
    (hholder : s.holder ≠ some q) : Instance pid s q where
  locked := fun h => by rw [hphase] at h; cases h
  pidFile := fun h => by rw [h] at hphase; cases hphase
  owner := fun h => absurd h hholder
  truncated := fun h => by rw [h] at hphase; cases hphase

theorem Instance.holder_ne {q : π} (h : Instance pid s q) (hphase : (s.phase q).passed = false) :
    s.holder ≠ some q := by
  intro hholder
  rw [h.owner hholder] at hphase
  cases hphase

/-- Beside a process that passed there is no other. -/
theorem not_passed_of_ne {p q : π} (h : ∀ q, Instance pid s q) (hp : (s.phase p).passed = true)
    (hq : q ≠ p) : (s.phase q).passed = false := by
  rw [Bool.eq_false_iff]
  intro hpassed
  exact hq (Option.some.inj (((h q).locked hpassed).symm.trans ((h p).locked hp)))

section Steps

variable [DecidableEq π] {p q : π} {phase : InstancePhase}

theorem phase_setPhase_self : (s.setPhase p phase).phase p = phase := Function.update_self ..

theorem phase_setPhase_of_ne (h : q ≠ p) : (s.setPhase p phase).phase q = s.phase q :=
  Function.update_of_ne h ..

theorem Instance.openLockFile (h : ∀ q, Instance pid s q) (hp : s.phase p = .absent)
    (hfree : ∀ q, s.phase q ≠ .pidWritten) (q : π) : Instance pid (s.openLockFile p) q := by
  by_cases hq : q = p
  · subst hq
    have hphase : (s.openLockFile q).phase q = .opened := phase_setPhase_self
    exact of_not_passed (by rw [hphase]; rfl) ((h q).holder_ne (by rw [hp]; rfl))
  · have hphase : (s.openLockFile p).phase q = s.phase q := phase_setPhase_of_ne hq
    constructor
    · rw [hphase]
      exact (h q).locked
    · rw [hphase]
      exact fun hw => absurd hw (hfree q)
    · rw [hphase]
      exact (h q).owner
    · exact fun _ => rfl

/-- A process that gets the lock was alone, and one that does not is rejected. -/
theorem Instance.flock (h : ∀ q, Instance pid s q) (hp : s.phase p = .opened) (q : π) :
    Instance pid (s.flock p false) q := by
  rw [LockFile.flock, if_neg Bool.false_ne_true]
  cases hholder : s.holder with
  | some r =>
    show Instance pid (s.setPhase p .rejected) q
    by_cases hq : q = p
    · subst hq
      exact of_not_passed (by rw [phase_setPhase_self]; rfl)
        ((h q).holder_ne (by rw [hp]; rfl))
    · have hphase : (s.setPhase p .rejected).phase q = s.phase q := phase_setPhase_of_ne hq
      exact ⟨by rw [hphase]; exact (h q).locked, by rw [hphase]; exact (h q).pidFile,
        by rw [hphase]; exact (h q).owner, by rw [hphase]; exact (h q).truncated⟩
  | none =>
    have hfree : ∀ q, (s.phase q).passed = false := fun q => by
      rw [Bool.eq_false_iff]
      intro hpassed
      have hheld := (h q).locked hpassed
      rw [hholder] at hheld
      cases hheld
    show Instance pid ({ s with holder := some p }.setPhase p .unique) q
    by_cases hq : q = p
    · subst hq
      refine ⟨fun _ => rfl, fun hw => ?_, fun _ => by rw [phase_setPhase_self]; rfl, fun hw => ?_⟩
      · rw [phase_setPhase_self] at hw
        cases hw
      · rw [phase_setPhase_self] at hw
        cases hw
    · refine of_not_passed ?_ fun he => hq (Option.some.inj he).symm
      rw [phase_setPhase_of_ne hq]
      exact hfree q

/-- An instance alone with its stream. -/
theorem Instance.of_alone (h : ∀ q, Instance pid s q) (s' : LockFile π) (phase : InstancePhase)
    (hp : (s.phase p).passed = true) (hphase : s'.phase = Function.update s.phase p phase)
    (hholder : s'.holder = s.holder) (hpassed : phase.passed = true)
    (hfile : phase = .pidWritten → s'.content = pidText (pid p))
    (hempty : phase = .pidFileOpen → s'.content = "") (q : π) : Instance pid s' q := by
  by_cases hq : q = p
  · subst hq
    have hself : s'.phase q = phase := by rw [hphase, Function.update_self]
    exact ⟨fun _ => hholder.trans ((h q).locked hp), by rw [hself]; exact hfile,
      fun _ => by rw [hself]; exact hpassed, by rw [hself]; exact hempty⟩
  · have hother := not_passed_of_ne h hp hq
    refine of_not_passed ?_ ?_
    · rw [hphase, Function.update_of_ne hq]
      exact hother
    · rw [hholder]
      exact (h q).holder_ne hother

theorem Instance.openPidFile (h : ∀ q, Instance pid s q) (hp : s.phase p = .unique)
    (isOpen : Bool) (q : π) : Instance pid (s.openPidFile p isOpen) q := by
  have hpassed : (s.phase p).passed = true := by rw [hp]; rfl
  cases isOpen with
  | true =>
    exact of_alone h (s.openPidFile p true) .pidFileOpen hpassed rfl rfl rfl
      (fun hc => by cases hc) (fun _ => rfl) q
  | false =>
    exact of_alone h (s.openPidFile p false) .noPidFile hpassed rfl rfl rfl
      (fun hc => by cases hc) (fun hc => by cases hc) q

/-- The stream was opened on an empty file, so the file has the text afterwards. -/
theorem content_flushPidFile (h : Instance pid s p) (hp : s.phase p = .pidFileOpen)
    (text : String) : (s.flushPidFile p text).content = text := by
  show overwrite text s.content = text
  rw [h.truncated hp, overwrite_empty]

theorem Instance.flushPidFile (h : ∀ q, Instance pid s q) (hp : s.phase p = .pidFileOpen)
    (q : π) : Instance pid (s.flushPidFile p (pidText (pid p))) q :=
  of_alone h (s.flushPidFile p (pidText (pid p))) .pidWritten (by rw [hp]; rfl) rfl rfl rfl
    (fun _ => content_flushPidFile (h p) hp _) (fun hc => by cases hc) q

theorem Instance.terminate (h : ∀ q, Instance pid s q) (p q : π) :
    Instance pid (s.terminate p) q := by
  by_cases hq : q = p
  · subst hq
    have hphase : (s.terminate q).phase q = .absent := phase_setPhase_self
    refine of_not_passed (by rw [hphase]; rfl) ?_
    show (if s.holder = some q then none else s.holder) ≠ some q
    split
    · exact Option.some_ne_none q |>.symm
    · next hne => exact hne
  · have hphase : (s.terminate p).phase q = s.phase q := phase_setPhase_of_ne hq
    have hholder : (s.terminate p).holder = some q ↔ s.holder = some q := by
      show (if s.holder = some p then none else s.holder) = some q ↔ _
      split
      · next he =>
        rw [he]
        exact iff_of_false (Option.some_ne_none q).symm fun hc => hq (Option.some.inj hc).symm
      · exact Iff.rfl
    exact ⟨by rw [hphase, hholder]; exact (h q).locked, by rw [hphase]; exact (h q).pidFile,
      by rw [hphase, hholder]; exact (h q).owner, by rw [hphase]; exact (h q).truncated⟩

/-- The steps that respect the file keep the invariant. -/
theorem instance_step (h : ∀ q, Instance pid s q) (ha : Respects pid s a)
    (hs : s.step a = some s') : ∀ q, Instance pid s' q := by
  cases a with
  | openLockFile p =>
    obtain ⟨hp, hs⟩ := Option.ite_none_right_eq_some.mp hs
    cases hs
    exact Instance.openLockFile h hp ha
  | flock p failed =>
    obtain ⟨hp, hs⟩ := Option.ite_none_right_eq_some.mp hs
    cases hs
    rw [show failed = false from ha]
    exact Instance.flock h hp
  | openPidFile p isOpen =>
    obtain ⟨hp, hs⟩ := Option.ite_none_right_eq_some.mp hs
    cases hs
    exact Instance.openPidFile h hp isOpen
  | flushPidFile p text =>
    obtain ⟨hp, hs⟩ := Option.ite_none_right_eq_some.mp hs
    cases hs
    rw [show text = pidText (pid p) from ha]
    exact Instance.flushPidFile h hp
  | terminate p =>
    obtain ⟨hp, hs⟩ := Option.ite_none_left_eq_some.mp hs
    cases hs
    exact Instance.terminate h p

/-- A step after which the law holds respected the file. -/
theorem respects_of_locked (h : ∀ q, Instance pid s q) (hs : s.step a = some s')
    (h' : LockedInstance pid s') : Respects pid s a := by
  cases a with
  | openLockFile p =>
    obtain ⟨hp, hs⟩ := Option.ite_none_right_eq_some.mp hs
    cases hs
    intro q hw
    have hq : q ≠ p := by
      rintro rfl
      rw [hp] at hw
      cases hw
    have hphase : (s.openLockFile p).phase q = s.phase q := phase_setPhase_of_ne hq
    exact pidText_ne_empty _ (h'.pidFile q (hphase.trans hw)).symm
  | flock p failed =>
    obtain ⟨hp, hs⟩ := Option.ite_none_right_eq_some.mp hs
    cases hs
    cases failed with
    | false => exact rfl
    | true =>
      have hself : (s.flock p true).phase p = .unique := phase_setPhase_self
      have hheld : s.holder = some p := h'.locked p (by rw [hself]; rfl)
      exact absurd hheld ((h p).holder_ne (by rw [hp]; rfl))
  | openPidFile p isOpen => exact trivial
  | flushPidFile p text =>
    obtain ⟨hp, hs⟩ := Option.ite_none_right_eq_some.mp hs
    cases hs
    have hself : (s.flushPidFile p text).phase p = .pidWritten := phase_setPhase_self
    rw [← content_flushPidFile (h p) hp text]
    exact h'.pidFile p hself
  | terminate p => exact trivial

/--
**The owner of the lock is the only instance and keeps its pid in the file, exactly when every step
respects the file.**

Then at most one instance passed, and the file has its pid once it was written.
-/
theorem single_instance_iff (pid : π → TPid) (content : String)
    (actions : List (LockFileAction π)) :
    (AlwaysState step (LockedInstance pid) (start content) actions ↔
        AlwaysStep step (Respects pid) (start content) actions) ∧
      (AlwaysStep step (Respects pid) (start content) actions →
        AlwaysState step (SingleInstance pid) (start content) actions) := by
  have hiff := alwaysState_iff_of_inv (step (π := π)) (fun s => ∀ q, Instance pid s q)
    (P := LockedInstance pid) (C := Respects pid)
    (fun _ h => (instance_iff.mpr h).1)
    (fun _ _ _ h ha hs => instance_step h ha hs)
    (fun _ _ _ h hs h' => respects_of_locked h hs h') actions (start content)
    (instance_iff.mp ⟨lockedInstance_start content, consistent_start content⟩)
  exact ⟨hiff, fun h => (hiff.mpr h).mono fun _ hs => hs.singleInstance⟩

end Steps

/-- Process 0 runs with its pid in the file. Process 1 is rejected, but the file is empty. -/
theorem single_instance_truncated :
    ∃ s, runAll step (start "" : LockFile Nat)
        [.openLockFile 0, .flock 0 false, .openPidFile 0 true, .flushPidFile 0 (pidText 1000),
         .openLockFile 1, .flock 1 false] = some s ∧
      s.phase 0 = .pidWritten ∧ s.phase 1 = .rejected ∧ s.content = "" ∧
      ¬ SingleInstance (fun _ => 1000) s := by
  refine ⟨_, rfl, rfl, rfl, rfl, fun h => ?_⟩
  exact pidText_ne_empty 1000 (h.pidFile 0 rfl).symm

end LockFile

end MicroserviceCommon.SystemEnvironmentFacade
