import MicroserviceCommon.Infra.Run
import MicroserviceCommon.System.ProcessHandles

/-!
# Signals reach only own children

A handle is in `m_handles` before its process exists, with the pid 0. A signal to the pid 0 goes to
the whole process group of the program. After a failed `fork` the handle stays: it refuses a retry
as a duplicate, the monitoring takes it for a running process, and `shutdown` kills through it.

* `own_children_iff` — every signal goes to the process that was forked through its handle, and a
  failed launch leaves no handle, exactly when no `fork` fails and no `shutdown` meets a launch
* `own_children_failed_fork` — a failed `fork`, the refused retry and the signal of the `shutdown`
-/

namespace MicroserviceCommon.ProcessLauncher

open Infra

variable {τ : Type*}

namespace HandleSystem

/-- Every signal that was sent through a handle went to the process that was forked through it. -/
def OwnChildrenOnly (s : HandleSystem τ) : Prop :=
  ∀ sent ∈ s.signals, sent.pid > 0 ∧ (s.objects sent.handle).forkedPid = some sent.pid

/-- The handle of a launch is not in `m_handles` once its `fork` failed. -/
def ForgetsFailed [DecidableEq τ] (s : HandleSystem τ) : HandleAction τ → Prop
  | .fork t forkRt => forkRt < 0 → ∀ i s', s.phase t = .pushed i →
    s.step (.fork t forkRt) = some s' → i ∉ s'.handles
  | _ => True

/-- `fork` succeeds, and at the shutdown nobody is between the push of a handle and its `setRole`.
-/
def Undisturbed (s : HandleSystem τ) : HandleAction τ → Prop
  | .fork _ forkRt => ¬ forkRt < 0
  | .shutdown => s.shutdown = false → ∀ t, (s.phase t).handle? = none
  | _ => True

/-- A handle has the pid 0 exactly while its launch goes on. -/
structure Consistent (s : HandleSystem τ) : Prop where
  own : s.OwnChildrenOnly
  pids : ∀ i, s.pidOf i = 0 ∧ (s.objects i).returned = false ∨
    s.pidOf i > 0 ∧ (s.objects i).forkedPid = some (s.pidOf i)
  notDied : ∀ i, (s.objects i).died = false
  unused : ∀ i, s.next ≤ i → (s.objects i).forkedPid = none
  listed : ∀ i ∈ s.handles, i < s.next
  inFlight : ∀ t i, (s.phase t).handle? = some i → s.pidOf i = 0 ∧ i ∈ s.handles
  launching : ∀ i ∈ s.handles, s.pidOf i = 0 → ∃ t, (s.phase t).handle? = some i
  pushed : ∀ t i, s.phase t = .pushed i → (s.objects i).forkedPid = none
  forked : ∀ t i pid, s.phase t = .forked i pid →
    pid > 0 ∧ (s.objects i).forkedPid = some pid
  distinct : ∀ t t' i, (s.phase t).handle? = some i → (s.phase t').handle? = some i → t = t'

namespace Consistent

variable {s s' : HandleSystem τ} {t : τ} {i : Nat}

theorem start : Consistent (HandleSystem.start : HandleSystem τ) where
  own := fun _ h => absurd h List.not_mem_nil
  pids := fun _ => Or.inl ⟨rfl, rfl⟩
  notDied := fun _ => rfl
  unused := fun _ _ => rfl
  listed := fun _ h => absurd h List.not_mem_nil
  inFlight := fun _ _ h => by cases h
  launching := fun _ h => absurd h List.not_mem_nil
  pushed := fun _ _ h => by cases h
  forked := fun _ _ _ h => by cases h
  distinct := fun _ _ _ h => by cases h

theorem lt_next (h : Consistent s) (ht : (s.phase t).handle? = some i) : i < s.next :=
  h.listed i (h.inFlight t i ht).2

/-- A handle that was signalled had a process. -/
theorem handle_lt_next (h : Consistent s) {sent : HandleSignal} (hsent : sent ∈ s.signals) :
    sent.handle < s.next := by
  by_contra hle
  have hnone := h.unused sent.handle (Nat.le_of_not_lt hle)
  rw [(h.own sent hsent).2] at hnone
  cases hnone

/-! ## Sections that send nothing -/

/-- A pass that takes handles away, but none that is being launched. -/
theorem of_handles (h : Consistent s) (handles : List Nat) (hsub : ∀ i ∈ handles, i ∈ s.handles)
    (hkeep : ∀ i ∈ s.handles, s.pidOf i = 0 → i ∈ handles) :
    Consistent { s with handles := handles } where
  own := h.own
  pids := h.pids
  notDied := h.notDied
  unused := h.unused
  listed := fun i hi => h.listed i (hsub i hi)
  inFlight := fun t i ht =>
    ⟨(h.inFlight t i ht).1, hkeep i (h.inFlight t i ht).2 (h.inFlight t i ht).1⟩
  launching := fun i hi => h.launching i (hsub i hi)
  pushed := h.pushed
  forked := h.forked
  distinct := h.distinct

theorem monitor (h : Consistent s) (gone : List TPid) : Consistent (s.monitor gone) := by
  refine h.of_handles _ (fun i hi => (List.mem_filter.mp hi).1) fun i hi hzero => ?_
  refine List.mem_filter.mpr ⟨hi, ?_⟩
  rw [Bool.not_eq_true', List.any_eq_false]
  intro d hd hsame
  -- the pid 0 is never gone
  have hrunning := (List.mem_filter.mp hd).2
  have hzero' : (s.objects d).childPid = 0 := (eq_of_beq hsame).trans hzero
  rw [ProcessHandle.isRunning, hzero'] at hrunning
  cases hrunning

/-! ## Signals -/

/-- More signals to processes of their own handles. -/
theorem of_signals (h : Consistent s) (sent : List HandleSignal)
    (hsent : ∀ x ∈ sent, x.pid > 0 ∧ (s.objects x.handle).forkedPid = some x.pid) :
    Consistent { s with signals := s.signals ++ sent } where
  own := fun x hx => (List.mem_append.mp hx).elim (h.own x) (hsent x)
  pids := h.pids
  notDied := h.notDied
  unused := h.unused
  listed := h.listed
  inFlight := h.inFlight
  launching := h.launching
  pushed := h.pushed
  forked := h.forked
  distinct := h.distinct

theorem signalChild (h : Consistent s) {handle : Nat}
    (hreturned : (s.objects handle).returned = true) (signal : Int32) :
    Consistent (s.signalChild handle signal) := by
  have hpid : s.pidOf handle > 0 := by
    rcases h.pids handle with ⟨_, hno⟩ | ⟨hpos, _⟩
    · rw [hreturned] at hno
      cases hno
    · exact hpos
  unfold HandleSystem.signalChild
  split
  · exact h
  · next i hfind =>
    have hsame : s.pidOf i = s.pidOf handle :=
      eq_of_beq (List.find?_some (p := fun i => s.pidOf i == s.pidOf handle) hfind)
    have hforked : (s.objects i).forkedPid = some (s.pidOf i) := by
      rcases h.pids i with ⟨hzero, _⟩ | ⟨_, hforked⟩
      · rw [← hsame, hzero] at hpid
        exact absurd hpid (by decide)
      · exact hforked
    refine (h.of_signals _ fun x hx => ?_).of_handles _ (fun j hj => List.mem_of_mem_eraseP hj)
      fun j hj hzero => ?_
    · rw [List.mem_singleton.mp hx]
      exact ⟨hsame ▸ hpid, hforked⟩
    · refine (List.mem_eraseP_of_neg ?_).mpr hj
      have hzero' : s.pidOf j = 0 := hzero
      rw [beq_iff_eq, hzero']
      rintro hc
      rw [← hc] at hpid
      exact absurd hpid (by decide)

/-- The invariant does not see a deletion. -/
theorem of_objects (h : Consistent s) {objects : Nat → HandleObject} (shutdown : Bool)
    (hsame : ∀ i, ∃ deleted, objects i = { s.objects i with deleted := deleted }) :
    Consistent { s with objects := objects, shutdown := shutdown } := by
  have hpid : ∀ i, (objects i).childPid = s.pidOf i := fun i => by
    obtain ⟨deleted, hi⟩ := hsame i
    rw [hi]
    rfl
  have hforked : ∀ i, (objects i).forkedPid = (s.objects i).forkedPid := fun i => by
    obtain ⟨deleted, hi⟩ := hsame i
    rw [hi]
  constructor
  · intro x hx
    show _ ∧ (objects x.handle).forkedPid = _
    rw [hforked]
    exact h.own x hx
  · intro i
    show (objects i).childPid = 0 ∧ (objects i).returned = false ∨
      (objects i).childPid > 0 ∧ (objects i).forkedPid = some (objects i).childPid
    rw [hpid, hforked]
    obtain ⟨deleted, hi⟩ := hsame i
    rw [hi]
    exact h.pids i
  · intro i
    obtain ⟨deleted, hi⟩ := hsame i
    show (objects i).died = false
    rw [hi]
    exact h.notDied i
  · intro i hi
    exact (hforked i).trans (h.unused i hi)
  · exact h.listed
  · intro t i ht
    exact ⟨(hpid i).trans (h.inFlight t i ht).1, (h.inFlight t i ht).2⟩
  · intro i hi hzero
    exact h.launching i hi ((hpid i).symm.trans hzero)
  · intro t i ht
    exact (hforked i).trans (h.pushed t i ht)
  · intro t i pid ht
    exact ⟨(h.forked t i pid ht).1, (hforked i).trans (h.forked t i pid ht).2⟩
  · exact h.distinct

/-- At a shutdown without launches every handle has its process. -/
theorem runShutdown (h : Consistent s)
    (hquiet : s.shutdown = false → ∀ t, (s.phase t).handle? = none) :
    Consistent s.runShutdown := by
  unfold HandleSystem.runShutdown
  split
  · exact h
  · next hrun =>
    have hnone := hquiet (Bool.eq_false_iff.mpr hrun)
    have hpid : ∀ i ∈ s.handles, s.pidOf i ≠ 0 := by
      intro i hi hzero
      obtain ⟨t, ht⟩ := h.launching i hi hzero
      rw [hnone t] at ht
      cases ht
    have hsignals := h.of_signals ((s.handles.filter fun i => !(s.objects i).died).map
        fun i => { pid := s.pidOf i, signal := sigkill, handle := i }) <| by
      intro x hx
      obtain ⟨i, hi, rfl⟩ := List.mem_map.mp hx
      rcases h.pids i with ⟨hzero, _⟩ | hown
      · exact absurd hzero (hpid i (List.mem_filter.mp hi).1)
      · exact hown
    have hhandles := hsignals.of_handles [] (fun i hi => absurd hi List.not_mem_nil)
      fun i hi hzero => absurd hzero (hpid i hi)
    refine hhandles.of_objects true fun i => ?_
    show ∃ deleted, (if i ∈ s.handles then { s.objects i with deleted := true }
      else s.objects i) = { s.objects i with deleted := deleted }
    split
    · exact ⟨true, rfl⟩
    · exact ⟨(s.objects i).deleted, rfl⟩

/-! ## Steps of `launch` -/

/-- A thread that has a handle is the only one that has it. -/
theorem alone (h : Consistent s) (ht : (s.phase t).handle? = some i) :
    ∀ t', t' ≠ t → (s.phase t').handle? ≠ some i :=
  fun t' hne ht' => hne (h.distinct t' t i ht' ht)

/-- The handle of a launch is listed already. -/
theorem mem_handles_iff (h : Consistent s) (ht : (s.phase t).handle? = some i) (j : Nat) :
    j ∈ s.handles ↔ j ∈ s.handles ∨ j = i :=
  (or_iff_left_of_imp fun hj => hj ▸ (h.inFlight t i ht).2).symm

/-- A handle is the one with the new object or an untouched one. -/
theorem objects_setObject (i : Nat) (object : HandleObject) (j : Nat) :
    j = i ∧ (s.setObject i object).objects j = object ∨
      j ≠ i ∧ (s.setObject i object).objects j = s.objects j := by
  by_cases hj : j = i
  · exact Or.inl ⟨hj, hj ▸ Function.update_self ..⟩
  · exact Or.inr ⟨hj, Function.update_of_ne hj ..⟩

section Launch

variable [DecidableEq τ] {phase : LaunchPhase}

theorem phase_setPhase_self : (s.setPhase t phase).phase t = phase := Function.update_self ..

theorem phase_setPhase_of_ne {t' : τ} (h : t' ≠ t) :
    (s.setPhase t phase).phase t' = s.phase t' := Function.update_of_ne h ..

/-- A thread that has a handle is the one with the new phase and `i`, or an untouched one. -/
theorem handle_setPhase {i : Nat} (halone : ∀ t', t' ≠ t → (s.phase t').handle? ≠ some i)
    (hafter : ∀ j, phase.handle? = some j → j = i) {t' : τ} {j : Nat}
    (ht' : ((s.setPhase t phase).phase t').handle? = some j) :
    t' = t ∧ j = i ∧ (s.setPhase t phase).phase t' = phase ∨
      t' ≠ t ∧ j ≠ i ∧ (s.setPhase t phase).phase t' = s.phase t' := by
  by_cases hsame : t' = t
  · have hphase : (s.setPhase t phase).phase t' = phase := hsame ▸ phase_setPhase_self
    rw [hphase] at ht'
    exact Or.inl ⟨hsame, hafter j ht', hphase⟩
  · have hphase : (s.setPhase t phase).phase t' = s.phase t' := phase_setPhase_of_ne hsame
    rw [hphase] at ht'
    exact Or.inr ⟨hsame, fun hj => halone t' hsame (hj ▸ ht'), hphase⟩

/-- A thread that launches nothing before and after. -/
theorem setPhase (h : Consistent s) (hbefore : (s.phase t).handle? = none)
    (hafter : phase.handle? = none) : Consistent (s.setPhase t phase) := by
  have hhandle : ∀ t', ((s.setPhase t phase).phase t').handle? = (s.phase t').handle? := by
    intro t'
    by_cases ht : t' = t
    · rw [ht, phase_setPhase_self, hafter, hbefore]
    · rw [phase_setPhase_of_ne ht]
  have hphase : ∀ t' i, ((s.setPhase t phase).phase t').handle? = some i →
      (s.setPhase t phase).phase t' = s.phase t' := by
    intro t' i hi
    by_cases ht : t' = t
    · rw [ht, phase_setPhase_self, hafter] at hi
      cases hi
    · exact phase_setPhase_of_ne ht
  constructor
  · exact h.own
  · exact h.pids
  · exact h.notDied
  · exact h.unused
  · exact h.listed
  · intro t' i hi
    exact h.inFlight t' i ((hhandle t').symm.trans hi)
  · intro i hi hzero
    obtain ⟨t', ht'⟩ := h.launching i hi hzero
    exact ⟨t', (hhandle t').trans ht'⟩
  · intro t' i hi
    refine h.pushed t' i ((hphase t' i ?_).symm.trans hi)
    rw [hi]
    rfl
  · intro t' i pid hi
    refine h.forked t' i pid ((hphase t' i ?_).symm.trans hi)
    rw [hi]
    rfl
  · intro t₁ t₂ i h₁ h₂
    exact h.distinct t₁ t₂ i ((hhandle t₁).symm.trans h₁) ((hhandle t₂).symm.trans h₂)

/--
**One section of a launch.**

The thread gets a new phase and its handle `i` a new object. The handle may be a new one. No other
thread has it.
-/
theorem of_launch (h : Consistent s) {object : HandleObject} {handles : List Nat} {next : Nat}
    (hnext : s.next ≤ next) (hi : i < next) (hmem : ∀ j, j ∈ handles ↔ j ∈ s.handles ∨ j = i)
    (hbefore : ∀ j, (s.phase t).handle? = some j → j = i)
    (halone : ∀ t', t' ≠ t → (s.phase t').handle? ≠ some i)
    (hsent : ∀ x ∈ s.signals, x.handle = i → object.forkedPid = (s.objects i).forkedPid)
    (hpid : object.childPid = 0 ∧ object.returned = false ∨
      object.childPid > 0 ∧ object.forkedPid = some object.childPid)
    (hdied : object.died = false)
    (hafter : ∀ j, phase.handle? = some j → j = i ∧ object.childPid = 0)
    (hlaunching : object.childPid = 0 → phase.handle? = some i)
    (hpushed : ∀ j, phase = .pushed j → object.forkedPid = none)
    (hforked : ∀ j pid, phase = .forked j pid → pid > 0 ∧ object.forkedPid = some pid) :
    Consistent (({ s with next := next, handles := handles }.setObject i object).setPhase t
      phase) := by
  set s' := ({ s with next := next, handles := handles }.setObject i object).setPhase t phase
  have hobjects : ∀ j, j = i ∧ s'.objects j = object ∨ j ≠ i ∧ s'.objects j = s.objects j :=
    objects_setObject i object
  have hthreads : ∀ t' j, (s'.phase t').handle? = some j →
      t' = t ∧ j = i ∧ s'.phase t' = phase ∧ s'.objects j = object ∨
      t' ≠ t ∧ j ≠ i ∧ s'.phase t' = s.phase t' ∧ s'.objects j = s.objects j := by
    intro t' j ht'
    rcases handle_setPhase (s := s) halone (fun j hj => (hafter j hj).1) ht' with
      ⟨hsame, hj, hphase⟩ | ⟨hsame, hj, hphase⟩
    · exact Or.inl ⟨hsame, hj, hphase, hj ▸ Function.update_self ..⟩
    · exact Or.inr ⟨hsame, hj, hphase, Function.update_of_ne hj ..⟩
  constructor
  · intro x hx
    rcases hobjects x.handle with ⟨hj, hobject⟩ | ⟨_, hobject⟩
    · have hown := h.own x hx
      rw [hobject, hsent x hx hj, ← hj]
      exact hown
    · rw [hobject]
      exact h.own x hx
  · intro j
    unfold pidOf
    rcases hobjects j with ⟨_, hobject⟩ | ⟨_, hobject⟩ <;> rw [hobject]
    · exact hpid
    · exact h.pids j
  · intro j
    rcases hobjects j with ⟨_, hobject⟩ | ⟨_, hobject⟩ <;> rw [hobject]
    · exact hdied
    · exact h.notDied j
  · intro j hj
    have hj : next ≤ j := hj
    rcases hobjects j with ⟨heq, _⟩ | ⟨_, hobject⟩
    · omega
    · rw [hobject]
      exact h.unused j (Nat.le_trans hnext hj)
  · intro j hj
    rcases (hmem j).mp hj with hj | rfl
    · exact Nat.lt_of_lt_of_le (h.listed j hj) hnext
    · exact hi
  · intro t' j ht'
    unfold pidOf
    rcases hthreads t' j ht' with ⟨_, hj, hphase, hobject⟩ | ⟨_, _, hphase, hobject⟩ <;>
      rw [hphase] at ht' <;> rw [hobject]
    · exact ⟨(hafter j ht').2, (hmem j).mpr (Or.inr hj)⟩
    · exact ⟨(h.inFlight t' j ht').1, (hmem j).mpr (Or.inl (h.inFlight t' j ht').2)⟩
  · intro j hj hzero
    unfold pidOf at hzero
    rcases hobjects j with ⟨rfl, hobject⟩ | ⟨hji, hobject⟩ <;> rw [hobject] at hzero
    · have hself : s'.phase t = phase := phase_setPhase_self
      exact ⟨t, hself ▸ hlaunching hzero⟩
    · obtain ⟨t', ht'⟩ := h.launching j (((hmem j).mp hj).resolve_right hji) hzero
      have hne : t' ≠ t := fun heq => hji (hbefore j (heq ▸ ht'))
      have hother : s'.phase t' = s.phase t' := phase_setPhase_of_ne hne
      exact ⟨t', hother ▸ ht'⟩
  · intro t' j ht'
    have hthread := hthreads t' j (by rw [ht']; rfl)
    rcases hthread with ⟨_, _, hphase, hobject⟩ | ⟨_, _, hphase, hobject⟩ <;>
      rw [hphase] at ht' <;> rw [hobject]
    · exact hpushed j ht'
    · exact h.pushed t' j ht'
  · intro t' j pid ht'
    have hthread := hthreads t' j (by rw [ht']; rfl)
    rcases hthread with ⟨_, _, hphase, hobject⟩ | ⟨_, _, hphase, hobject⟩ <;>
      rw [hphase] at ht' <;> rw [hobject]
    · exact hforked j pid ht'
    · exact h.forked t' j pid ht'
  · intro t₁ t₂ j h₁ h₂
    rcases hthreads t₁ j h₁ with ⟨ht₁, hj, _⟩ | ⟨_, hj, hphase₁, _⟩ <;>
      rcases hthreads t₂ j h₂ with ⟨ht₂, hj', _⟩ | ⟨_, hj', hphase₂, _⟩
    · rw [ht₁, ht₂]
    · exact absurd hj hj'
    · exact absurd hj' hj
    · exact h.distinct t₁ t₂ j (hphase₁ ▸ h₁) (hphase₂ ▸ h₂)

/-- The new handle has the next index and no process. -/
theorem pushHandle (h : Consistent s) {call : LaunchCall} (ht : s.phase t = .checked call) :
    Consistent (s.pushHandle t call) := by
  refine h.of_launch (Nat.le_succ _) (Nat.lt_succ_self _) (fun j => ?_) ?_ ?_ ?_
    (Or.inl ⟨rfl, rfl⟩) rfl ?_ (fun _ => rfl) (fun _ _ => rfl) ?_
  · rw [List.mem_append, List.mem_singleton]
  · intro j hj
    rw [ht] at hj
    cases hj
  · exact fun t' _ ht' => absurd (h.lt_next ht') (Nat.lt_irrefl _)
  · exact fun x hx hnext => absurd (h.handle_lt_next hx) (by omega)
  · rintro j ⟨⟩
    exact ⟨rfl, rfl⟩
  · rintro j pid ⟨⟩

/-- The handle of the launch gets its process, and nothing was sent through it before. -/
theorem fork (h : Consistent s) (ht : s.phase t = .pushed i) {forkRt : TPid} (hpos : forkRt > 0) :
    Consistent (s.fork t i forkRt) := by
  have hhandle : (s.phase t).handle? = some i := by rw [ht]; rfl
  have hzero := (h.inFlight t i hhandle).1
  rw [HandleSystem.fork, if_neg (Int32.lt_asymm hpos)]
  refine h.of_launch (Nat.le_refl _) (h.lt_next hhandle) (h.mem_handles_iff hhandle) ?_
    (h.alone hhandle) ?_ (Or.inl ⟨hzero, ?_⟩) (h.notDied i) ?_ (fun _ => rfl) ?_ ?_
  · exact fun j hj => Option.some.inj (hj.symm.trans hhandle)
  · intro x hx he
    have hforked := (h.own x hx).2
    rw [he, h.pushed t i ht] at hforked
    cases hforked
  · rcases h.pids i with ⟨_, hno⟩ | ⟨hpid, _⟩
    · exact hno
    · rw [hzero] at hpid
      exact absurd hpid (by decide)
  · rintro j ⟨⟩
    exact ⟨rfl, hzero⟩
  · rintro j ⟨⟩
  · rintro j pid ⟨⟩
    exact ⟨hpos, rfl⟩

/-- The handle gets the pid that `fork` returned, and the launch is over. -/
theorem setRole (h : Consistent s) {forkRt : TPid} (ht : s.phase t = .forked i forkRt) :
    Consistent (s.setRole t i forkRt) := by
  have hhandle : (s.phase t).handle? = some i := by rw [ht]; rfl
  obtain ⟨hpos, hforked⟩ := h.forked t i forkRt ht
  refine h.of_launch (Nat.le_refl _) (h.lt_next hhandle) (h.mem_handles_iff hhandle) ?_
    (h.alone hhandle) (fun _ _ _ => rfl) (Or.inr ⟨hpos, hforked⟩) (h.notDied i) ?_ ?_ ?_ ?_
  · exact fun j hj => Option.some.inj (hj.symm.trans hhandle)
  · rintro j ⟨⟩
  · intro hzero
    have hzero : forkRt = 0 := hzero
    rw [hzero] at hpos
    exact absurd hpos (by decide)
  · rintro j ⟨⟩
  · rintro j pid ⟨⟩

/-! ## Runs -/

theorem step (h : Consistent s) {a : HandleAction τ} (ha : s.Undisturbed a)
    (hs : s.step a = some s') : Consistent s' := by
  have hs := stepsTo_of_step hs
  cases a with
  | checkDuplicate t call =>
    obtain ⟨ht, rfl⟩ := hs
    unfold HandleSystem.checkDuplicate
    split
    · exact h
    · exact h.setPhase (by rw [ht]; rfl) rfl
  | pushHandle t =>
    obtain ⟨call, ht, rfl⟩ := hs
    exact h.pushHandle ht
  | fork t forkRt =>
    obtain ⟨i, ht, hne, rfl⟩ := hs
    exact h.fork ht (Int32.lt_of_le_of_ne (Int32.not_lt.mp ha) (Ne.symm hne))
  | setRole t =>
    obtain ⟨i, forkRt, ht, rfl⟩ := hs
    exact h.setRole ht
  | kill handle signal | close handle signal =>
    obtain ⟨hreturned, rfl⟩ := hs
    exact h.signalChild hreturned signal
  | monitor gone =>
    obtain rfl := hs
    exact h.monitor gone
  | shutdown =>
    obtain rfl := hs
    exact h.runShutdown ha

/-- After a step that broke nothing there was nothing to break it. -/
theorem undisturbed (h : Consistent s) {a : HandleAction τ} (hs : s.step a = some s')
    (hforgets : s.ForgetsFailed a) (hown : s'.OwnChildrenOnly) : s.Undisturbed a := by
  cases a with
  | fork t forkRt =>
    intro hneg
    obtain ⟨i, ht, _, rfl⟩ := stepsTo_of_step hs
    refine hforgets hneg i _ ht hs ?_
    rw [HandleSystem.fork, if_pos hneg]
    exact (h.inFlight t i (by rw [ht]; rfl)).2
  | shutdown =>
    intro hrun t
    by_contra hlaunch
    obtain ⟨i, hi⟩ := Option.ne_none_iff_exists'.mp hlaunch
    obtain ⟨hzero, hmem⟩ := h.inFlight t i hi
    cases hs
    have hsent : { pid := s.pidOf i, signal := sigkill, handle := i } ∈ s.runShutdown.signals := by
      rw [HandleSystem.runShutdown, hrun, if_neg Bool.false_ne_true]
      refine List.mem_append_right _ (List.mem_map.mpr ⟨i, List.mem_filter.mpr ⟨hmem, ?_⟩, rfl⟩)
      rw [h.notDied i]
      rfl
    have hpos := (hown _ hsent).1
    have hpos : s.pidOf i > 0 := hpos
    rw [hzero] at hpos
    exact absurd hpos (by decide)
  | checkDuplicate t call => exact trivial
  | pushHandle t => exact trivial
  | setRole t => exact trivial
  | kill handle signal => exact trivial
  | close handle signal => exact trivial
  | monitor gone => exact trivial

end Launch

end Consistent

/-- **Signals reach only own children, and failed launches leave no handle, exactly when no `fork`
fails and no `shutdown` meets a launch.** -/
theorem own_children_iff [DecidableEq τ] (actions : List (HandleAction τ)) :
    AlwaysState step OwnChildrenOnly (start : HandleSystem τ) actions ∧
        AlwaysStep step ForgetsFailed start actions ↔
      AlwaysStep step Undisturbed start actions :=
  alwaysStep_iff_of_inv step Consistent (fun _ h => h.own)
    (fun _ _ _ h ha hs => h.step ha hs)
    (fun _ _ _ h hs hforgets hown => h.undisturbed hs hforgets hown)
    (fun s a _ _ _ ha => by
      cases a with
      | fork t forkRt => exact fun hneg => absurd hneg ha
      | _ => exact trivial)
    actions start Consistent.start

/-- A launch without arguments. -/
def workerCall : LaunchCall where
  program := "worker"
  args := []

/-- The `fork` of a launch fails. The same launch is refused afterwards, and the shutdown kills the
process group. -/
theorem own_children_failed_fork :
    ∃ s s', runAll step (start : HandleSystem Nat)
        [.checkDuplicate 0 workerCall, .pushHandle 0, .fork 0 (-1)] = some s ∧
      s.handles = [0] ∧ s.isDuplicate workerCall = true ∧
      s.step .shutdown = some s' ∧ s'.signals = [{ pid := 0, signal := sigkill, handle := 0 }] ∧
      ¬ (AlwaysState step OwnChildrenOnly (start : HandleSystem Nat)
          [.checkDuplicate 0 workerCall, .pushHandle 0, .fork 0 (-1), .shutdown] ∧
        AlwaysStep step ForgetsFailed (start : HandleSystem Nat)
          [.checkDuplicate 0 workerCall, .pushHandle 0, .fork 0 (-1), .shutdown]) := by
  refine ⟨_, _, rfl, rfl, by decide, rfl, rfl, fun h => ?_⟩
  have hlast := AlwaysState.last h.1 rfl
  exact absurd (hlast _ (List.mem_singleton_self _)).1 (by decide)

end HandleSystem

end MicroserviceCommon.ProcessLauncher
