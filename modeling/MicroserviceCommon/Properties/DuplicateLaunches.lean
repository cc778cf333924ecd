import Mathlib.Logic.Nontrivial.Basic
import MicroserviceCommon.Infra.Run
import MicroserviceCommon.System.ProcessHandles

/-!
# Launches of one program

`launch` looks for a handle with the same program and arguments and adds its own handle later, with
`m_muHandlesLock` released in between. A handle whose `fork` failed stays among the others.

* `launches_unique_iff` — no program runs twice, as long as one thread launches
* `failed_fork_blocks` — a program whose `fork` failed is refused until the shutdown
-/

namespace MicroserviceCommon.ProcessLauncher

open Infra

variable {τ : Type*}

namespace HandleSystem

variable {s s' : HandleSystem τ} {t : τ} {i : Nat}

/-- What `launch` compares. -/
def launchKey (s : HandleSystem τ) (i : Nat) : String × List String :=
  ((s.objects i).settings.program, (s.objects i).settings.args)

/-- No two handles have the same program and arguments. -/
def NoDuplicates (s : HandleSystem τ) : Prop := (s.handles.map s.launchKey).Nodup

theorem isDuplicate_iff (s : HandleSystem τ) (call : LaunchCall) :
    s.isDuplicate call = true ↔ (call.program, call.args) ∈ s.handles.map s.launchKey := by
  simp only [isDuplicate, List.any_eq_true, Bool.and_eq_true, beq_iff_eq, List.mem_map, launchKey,
    Prod.mk.injEq]

/-! ## Handles that stay and handles that go -/

/-- The settings of the handles. -/
theorem launchKey_setObject [DecidableEq τ] {object : HandleObject}
    (h : object.settings = (s.objects i).settings) (j : Nat) :
    (s.setObject i object).launchKey j = s.launchKey j := by
  rw [launchKey, launchKey, setObject]
  by_cases hj : j = i
  · subst hj
    simp only [Function.update_self, h]
  · simp only [Function.update_of_ne hj]

theorem signalChild_handles (s : HandleSystem τ) (handle : Nat) (signal : Int32) :
    (s.signalChild handle signal).handles.Sublist s.handles := by
  unfold signalChild
  split
  · exact List.Sublist.refl _
  · exact List.eraseP_sublist

theorem signalChild_rest (s : HandleSystem τ) (handle : Nat) (signal : Int32) :
    (s.signalChild handle signal).objects = s.objects ∧
      (s.signalChild handle signal).next = s.next ∧
      (s.signalChild handle signal).phase = s.phase := by
  unfold signalChild
  split <;> exact ⟨rfl, rfl, rfl⟩

theorem runShutdown_handles (s : HandleSystem τ) :
    s.runShutdown.handles.Sublist s.handles := by
  unfold runShutdown
  split
  · exact List.Sublist.refl _
  · exact List.nil_sublist _

theorem runShutdown_rest (s : HandleSystem τ) :
    (∀ j, s.runShutdown.launchKey j = s.launchKey j) ∧ s.runShutdown.next = s.next ∧
      s.runShutdown.phase = s.phase := by
  unfold runShutdown
  split
  · exact ⟨fun _ => rfl, rfl, rfl⟩
  · refine ⟨fun j => ?_, rfl, rfl⟩
    simp only [launchKey]
    split <;> rfl

/-! ## One thread -/

/-- A launch that has looked finds no duplicate when it adds its handle. -/
structure Unique (s : HandleSystem τ) : Prop where
  noDuplicates : s.NoDuplicates
  listed : ∀ i ∈ s.handles, i < s.next
  looked : ∀ t call, s.phase t = .checked call → s.isDuplicate call = false

theorem unique_start : Unique (start : HandleSystem τ) where
  noDuplicates := List.nodup_nil
  listed i h := absurd h List.not_mem_nil
  looked t call h := by cases h

/-- Handles may go, and no thread comes from its look. -/
theorem Unique.of_sublist (h : Unique s) (hsub : s'.handles.Sublist s.handles)
    (hkey : ∀ j, s'.launchKey j = s.launchKey j) (hnext : s'.next = s.next)
    (hphase : ∀ t call, s'.phase t = .checked call → s.phase t = .checked call) : Unique s' := by
  have hsame : s'.launchKey = s.launchKey := funext hkey
  refine ⟨?_, fun i hi => hnext ▸ h.listed i (hsub.subset hi), fun t call ht => ?_⟩
  · rw [NoDuplicates, hsame]
    exact h.noDuplicates.sublist (hsub.map _)
  · have hlooked := h.looked t call (hphase t call ht)
    rw [← Bool.not_eq_true, isDuplicate_iff] at hlooked ⊢
    rw [hsame]
    exact fun hmem => hlooked ((hsub.map _).subset hmem)

section Launch

variable [DecidableEq τ]

theorem phase_setPhase {phase : LaunchPhase} {t' : τ} :
    (s.setPhase t phase).phase t' = if t' = t then phase else s.phase t' :=
  Function.update_apply ..

/-- **The handle of the only launching thread is new.** -/
theorem Unique.pushHandle [Subsingleton τ] (h : Unique s) {call : LaunchCall}
    (ht : s.phase t = .checked call) : Unique (s.pushHandle t call) := by
  have hkey : ∀ j, (s.pushHandle t call).launchKey j =
      if j = s.next then (call.program, call.args) else s.launchKey j := by
    intro j
    simp only [launchKey, HandleSystem.pushHandle, setPhase, setObject, Function.update_apply]
    split <;> rfl
  have hold : ∀ j ∈ s.handles, (s.pushHandle t call).launchKey j = s.launchKey j := by
    intro j hj
    rw [hkey, if_neg (Nat.ne_of_lt (h.listed j hj))]
  have hlooked := h.looked t call ht
  rw [← Bool.not_eq_true, isDuplicate_iff] at hlooked
  refine ⟨?_, fun i hi => ?_, fun t' call' ht' => ?_⟩
  · have hkeys : (s.pushHandle t call).handles.map (s.pushHandle t call).launchKey =
        s.handles.map s.launchKey ++ [(call.program, call.args)] := by
      have hnew : (s.pushHandle t call).launchKey s.next = (call.program, call.args) := by
        rw [hkey, if_pos rfl]
      rw [← hnew, ← List.map_congr_left hold]
      exact List.map_append ..
    rw [NoDuplicates, hkeys, ← List.concat_eq_append, List.nodup_concat]
    exact ⟨hlooked, h.noDuplicates⟩
  · rcases List.mem_append.mp hi with hi | hi
    · exact Nat.lt_succ_of_lt (h.listed i hi)
    · exact List.mem_singleton.mp hi ▸ Nat.lt_succ_self _
  · obtain rfl := Subsingleton.elim t' t
    rw [HandleSystem.pushHandle, phase_setPhase, if_pos rfl] at ht'
    cases ht'

/-- A thread that goes on without a look of its own. -/
theorem checked_of_setPhase {phase : LaunchPhase} (hphase : ∀ call, phase ≠ .checked call)
    {t' : τ} {call : LaunchCall} (h : (s.setPhase t phase).phase t' = .checked call) :
    s.phase t' = .checked call := by
  rw [phase_setPhase] at h
  split at h
  · exact absurd h (hphase call)
  · exact h

/-- The launch asks for the check, if it is a launch. -/
def Checks : HandleAction τ → Prop
  | .checkDuplicate _ call => call.checkForDuplicate = true
  | _ => True

theorem Unique.step [Subsingleton τ] {a : HandleAction τ} (h : Unique s) (ha : Checks a)
    (hs : s.step a = some s') : Unique s' := by
  have hs := stepsTo_of_step hs
  cases a with
  | checkDuplicate t call =>
    obtain ⟨_, rfl⟩ := hs
    unfold HandleSystem.checkDuplicate
    have hcheck : call.checkForDuplicate = true := ha
    rw [hcheck, Bool.true_and]
    split
    · exact h
    · next hnew =>
      refine ⟨h.noDuplicates, h.listed, fun t' call' ht' => ?_⟩
      obtain rfl := Subsingleton.elim t' t
      rw [phase_setPhase, if_pos rfl] at ht'
      cases ht'
      exact Bool.not_eq_true _ ▸ hnew
  | pushHandle t =>
    obtain ⟨call, ht, rfl⟩ := hs
    exact h.pushHandle ht
  | fork t forkRt =>
    obtain ⟨i, _, _, rfl⟩ := hs
    unfold HandleSystem.fork
    split
    · exact h.of_sublist (List.Sublist.refl _) (fun _ => rfl) rfl
        fun t' call ht' => checked_of_setPhase (fun _ hc => by cases hc) ht'
    · exact h.of_sublist (List.Sublist.refl _) (launchKey_setObject rfl) rfl
        fun t' call ht' => checked_of_setPhase (fun _ hc => by cases hc) ht'
  | setRole t =>
    obtain ⟨i, forkRt, _, rfl⟩ := hs
    exact h.of_sublist (List.Sublist.refl _) (launchKey_setObject rfl) rfl
      fun t' call ht' => checked_of_setPhase (fun _ hc => by cases hc) ht'
  | kill handle signal | close handle signal =>
    obtain ⟨_, rfl⟩ := hs
    obtain ⟨hobjects, hnext, hphase⟩ := s.signalChild_rest handle signal
    refine h.of_sublist (s.signalChild_handles handle signal) (fun j => ?_) hnext
      fun t' call ht' => by rwa [hphase] at ht'
    rw [launchKey, hobjects]
    rfl
  | monitor gone =>
    obtain rfl := hs
    exact h.of_sublist List.filter_sublist (fun _ => rfl) rfl fun _ _ ht' => ht'
  | shutdown =>
    obtain rfl := hs
    obtain ⟨hkey, hnext, hphase⟩ := s.runShutdown_rest
    exact h.of_sublist s.runShutdown_handles hkey hnext fun t' call ht' => by rwa [hphase] at ht'

/-- Two threads that look before either of them adds its handle. -/
theorem exists_duplicates {t' : τ} (hne : t ≠ t') (call : LaunchCall) :
    ∃ s, runAll step (start : HandleSystem τ) [.checkDuplicate t call, .checkDuplicate t' call,
      .pushHandle t, .pushHandle t'] = some s ∧ ¬ s.NoDuplicates := by
  simp [runAll, step, start, checkDuplicate, isDuplicate, setPhase, pushHandle, setObject,
    NoDuplicates, launchKey, Function.update_of_ne hne, Function.update_of_ne hne.symm]

/--
**No program is launched twice, as long as one thread launches.**

In all runs whose launches check for duplicates, with kills, monitoring passes, failed forks and
the shutdown at any time, no two handles have the same program and arguments, exactly when at most
one thread calls `launch`.
-/
theorem launches_unique_iff :
    (∀ as : List (HandleAction τ), (∀ a ∈ as, Checks a) →
      AlwaysState step NoDuplicates (start : HandleSystem τ) as) ↔ Subsingleton τ := by
  constructor
  · intro h
    rw [← not_nontrivial_iff_subsingleton]
    rintro ⟨t, t', hne⟩
    obtain ⟨s, hs, hduplicates⟩ := exists_duplicates hne { program := "", args := [] }
    refine hduplicates ((h _ fun a ha => ?_).last hs)
    simp only [List.mem_cons, List.not_mem_nil, or_false] at ha
    rcases ha with rfl | rfl | rfl | rfl <;> trivial
  · intro _ as has
    have hsteps : AlwaysStep step (fun _ a => Checks a) (start : HandleSystem τ) as :=
      alwaysStep_of_forall has
    exact (alwaysState_of_alwaysStep Unique (fun _ _ _ h ha hs => h.step ha hs) as _ unique_start
      hsteps).mono fun _ h => h.noDuplicates

end Launch

/-! ## A launch that failed -/

/-- Before the shutdown a handle without a pid is in `m_handles`, and no signal goes through it. -/
structure Launching (s : HandleSystem τ) : Prop where
  inFlight : ∀ t i, (s.phase t).handle? = some i → i ∈ s.handles ∧ s.pidOf i = 0
  distinct : ∀ t t' i, (s.phase t).handle? = some i → (s.phase t').handle? = some i → t = t'
  returned : ∀ i, (s.objects i).returned = true → s.pidOf i ≠ 0
  forked : ∀ t i forkRt, s.phase t = .forked i forkRt → forkRt ≠ 0
  listed : ∀ i ∈ s.handles, i < s.next

/-- The handle of a launch that is over and has no process. -/
structure Abandoned (s : HandleSystem τ) (i : Nat) (key : String × List String) : Prop where
  listed : i ∈ s.handles
  pid : s.pidOf i = 0
  key : s.launchKey i = key
  ended : ∀ t, (s.phase t).handle? ≠ some i

/-- What the steps before the shutdown keep. -/
structure Keeps (s s' : HandleSystem τ) : Prop where
  launching : Launching s'
  abandoned : ∀ i key, s.Abandoned i key → s'.Abandoned i key

/-- Handles with a process may go. -/
theorem Launching.of_handles (h : Launching s) {handles : List Nat} {signals : List HandleSignal}
    (hsub : handles ⊆ s.handles) (hkeep : ∀ i ∈ s.handles, s.pidOf i = 0 → i ∈ handles) :
    Keeps s { s with handles := handles, signals := signals } where
  launching :=
    { inFlight := fun t i ht => by
        obtain ⟨hmem, hzero⟩ := h.inFlight t i ht
        exact ⟨hkeep i hmem hzero, hzero⟩
      distinct := h.distinct
      returned := h.returned
      forked := h.forked
      listed := fun i hi => h.listed i (hsub hi) }
  abandoned i key ha := ⟨hkeep i ha.listed ha.pid, ha.pid, ha.key, ha.ended⟩

theorem Launching.monitor (h : Launching s) (gone : List TPid) : Keeps s (s.monitor gone) := by
  refine h.of_handles (List.filter_subset_self _) fun i hi hzero => List.mem_filter.mpr ⟨hi, ?_⟩
  rw [Bool.not_eq_true', List.any_eq_false]
  intro d hd hsame
  have hrunning := (List.mem_filter.mp hd).2
  have hzero' : (s.objects d).childPid = 0 := (eq_of_beq hsame).trans hzero
  rw [ProcessHandle.isRunning, hzero'] at hrunning
  cases hrunning

theorem Launching.refl (h : Launching s) : Keeps s s := ⟨h, fun _ _ => id⟩

theorem Launching.signalChild (h : Launching s) {handle : Nat}
    (hreturned : (s.objects handle).returned = true) (signal : Int32) :
    Keeps s (s.signalChild handle signal) := by
  have hpid := h.returned handle hreturned
  unfold HandleSystem.signalChild
  split
  · exact h.refl
  · refine h.of_handles (fun j hj => List.mem_of_mem_eraseP hj) fun j hj hzero => ?_
    refine (List.mem_eraseP_of_neg ?_).mpr hj
    rw [beq_iff_eq, hzero]
    exact fun he => hpid he.symm

section Failed

variable [DecidableEq τ]

/-- A thread that has no handle any more. -/
theorem Launching.setPhase (h : Launching s) {phase : LaunchPhase}
    (hphase : phase.handle? = none) : Keeps s (s.setPhase t phase) := by
  have hold : ∀ t' i, ((s.setPhase t phase).phase t').handle? = some i →
      (s.setPhase t phase).phase t' = s.phase t' := by
    intro t' i ht'
    rw [phase_setPhase] at ht' ⊢
    split at ht'
    · rw [hphase] at ht'
      cases ht'
    · next hne => rw [if_neg hne]
  constructor
  · refine ⟨fun t' i ht' => ?_, fun t₁ t₂ i h₁ h₂ => ?_, h.returned, fun t' i forkRt ht' => ?_,
      h.listed⟩
    · rw [hold t' i ht'] at ht'
      exact h.inFlight t' i ht'
    · rw [hold t₁ i h₁] at h₁
      rw [hold t₂ i h₂] at h₂
      exact h.distinct t₁ t₂ i h₁ h₂
    · have hhandle : ((s.setPhase t phase).phase t').handle? = some i := by
        rw [ht']
        rfl
      rw [hold t' i hhandle] at ht'
      exact h.forked t' i forkRt ht'
  · intro i key ha
    refine ⟨ha.listed, ha.pid, ha.key, fun t' ht' => ?_⟩
    rw [hold t' i ht'] at ht'
    exact ha.ended t' ht'

/-- **One section of a launch**, in which the thread has the handle `i` before or after. -/
theorem Launching.of_launch (h : Launching s) {phase : LaunchPhase} {object : HandleObject}
    {handles : List Nat} {next : Nat} (hnext : s.next ≤ next) (hi : i < next)
    (hmem : ∀ j, j ∈ handles ↔ j ∈ s.handles ∨ j = i)
    (halone : ∀ t', t' ≠ t → (s.phase t').handle? ≠ some i)
    (hown : i ∈ s.handles → (s.phase t).handle? = some i)
    (hafter : ∀ j, phase.handle? = some j → j = i ∧ object.childPid = 0)
    (hreturned : object.returned = true → object.childPid ≠ 0)
    (hforked : ∀ j forkRt, phase = .forked j forkRt → forkRt ≠ 0) :
    Keeps s (({ s with next := next, handles := handles }.setObject i object).setPhase t
      phase) := by
  set s' := ({ s with next := next, handles := handles }.setObject i object).setPhase t phase
  have hphase : ∀ t', s'.phase t' = if t' = t then phase else s.phase t' :=
    fun t' => Function.update_apply ..
  have hobject : ∀ j, s'.objects j = if j = i then object else s.objects j :=
    fun j => Function.update_apply ..
  have hother : ∀ t' j, t' ≠ t → (s.phase t').handle? = some j → j ≠ i := fun t' j hne ht' hj =>
    halone t' hne (hj ▸ ht')
  constructor
  · constructor
    · intro t' j ht'
      rw [hphase] at ht'
      rw [pidOf, hobject]
      split at ht'
      · obtain ⟨rfl, hzero⟩ := hafter j ht'
        rw [if_pos rfl]
        exact ⟨(hmem j).mpr (Or.inr rfl), hzero⟩
      · next hne =>
        rw [if_neg (hother t' j hne ht')]
        obtain ⟨hlisted, hzero⟩ := h.inFlight t' j ht'
        exact ⟨(hmem j).mpr (Or.inl hlisted), hzero⟩
    · intro t₁ t₂ j h₁ h₂
      rw [hphase] at h₁ h₂
      split at h₁ <;> split at h₂
      · next h₁' h₂' => rw [h₁', h₂']
      · next hne => exact absurd (hafter j h₁).1 (hother t₂ j hne h₂)
      · next hne _ => exact absurd (hafter j h₂).1 (hother t₁ j hne h₁)
      · exact h.distinct t₁ t₂ j h₁ h₂
    · intro j hj
      rw [hobject] at hj
      rw [pidOf, hobject]
      split at hj
      · next heq =>
        rw [if_pos heq]
        exact hreturned hj
      · next hne =>
        rw [if_neg hne]
        exact h.returned j hj
    · intro t' j forkRt ht'
      rw [hphase] at ht'
      split at ht'
      · exact hforked j forkRt ht'
      · exact h.forked t' j forkRt ht'
    · intro j hj
      rcases (hmem j).mp hj with hj | rfl
      · exact Nat.lt_of_lt_of_le (h.listed j hj) hnext
      · exact hi
  · intro j key ha
    have hne : j ≠ i := by
      rintro rfl
      exact ha.ended t (hown ha.listed)
    refine ⟨(hmem j).mpr (Or.inl ha.listed), ?_, ?_, fun t' ht' => ?_⟩
    · rw [pidOf, hobject, if_neg hne]
      exact ha.pid
    · rw [launchKey, hobject, if_neg hne]
      exact ha.key
    · rw [hphase] at ht'
      split at ht'
      · exact hne (hafter j ht').1
      · exact ha.ended t' ht'

theorem Launching.step {a : HandleAction τ} (h : Launching s) (ha : a ≠ .shutdown)
    (hs : s.step a = some s') : Keeps s s' := by
  have hs := stepsTo_of_step hs
  cases a with
  | checkDuplicate t call =>
    obtain ⟨_, rfl⟩ := hs
    unfold HandleSystem.checkDuplicate
    split
    · exact h.refl
    · exact h.setPhase rfl
  | pushHandle t =>
    obtain ⟨call, ht, rfl⟩ := hs
    refine h.of_launch (Nat.le_succ _) (Nat.lt_succ_self _) (fun j => ?_) ?_ ?_ ?_ nofun
      (fun _ _ hc => by cases hc)
    · rw [List.mem_append, List.mem_singleton]
    · exact fun t' _ ht' => absurd (h.listed _ (h.inFlight t' _ ht').1) (Nat.lt_irrefl _)
    · exact fun hmem => absurd (h.listed _ hmem) (Nat.lt_irrefl _)
    · rintro j ⟨⟩
      exact ⟨rfl, rfl⟩
  | fork t forkRt =>
    obtain ⟨i, ht, hne, rfl⟩ := hs
    have hhandle : (s.phase t).handle? = some i := by rw [ht]; rfl
    obtain ⟨hmem, hzero⟩ := h.inFlight t i hhandle
    unfold HandleSystem.fork
    split
    · exact h.setPhase rfl
    · refine h.of_launch (Nat.le_refl _) (h.listed i hmem) (fun j => ?_)
        (fun t' hne' ht' => hne' (h.distinct t' t i ht' hhandle)) (fun _ => hhandle) ?_
        (fun hreturned => h.returned i hreturned) ?_
      · exact (or_iff_left_of_imp fun hj => hj ▸ hmem).symm
      · rintro j ⟨⟩
        exact ⟨rfl, hzero⟩
      · rintro j forkRt ⟨⟩
        exact hne
  | setRole t =>
    obtain ⟨i, forkRt, ht, rfl⟩ := hs
    have hhandle : (s.phase t).handle? = some i := by rw [ht]; rfl
    obtain ⟨hmem, _⟩ := h.inFlight t i hhandle
    refine h.of_launch (Nat.le_refl _) (h.listed i hmem) (fun j => ?_)
      (fun t' hne' ht' => hne' (h.distinct t' t i ht' hhandle)) (fun _ => hhandle) nofun
      (fun _ => h.forked t i forkRt ht) (fun _ _ hc => by cases hc)
    exact (or_iff_left_of_imp fun hj => hj ▸ hmem).symm
  | kill handle signal | close handle signal =>
    obtain ⟨hreturned, rfl⟩ := hs
    exact h.signalChild hreturned signal
  | monitor gone =>
    obtain rfl := hs
    exact h.monitor gone
  | shutdown => exact absurd rfl ha

omit [DecidableEq τ] in
theorem launching_start : Launching (start : HandleSystem τ) where
  inFlight t i h := by cases h
  distinct t t' i h := by cases h
  returned i h := by cases h
  forked t i forkRt h := by cases h
  listed i h := absurd h List.not_mem_nil

/-- A launch of an abandoned program changes nothing and returns `nullptr`. -/
theorem Abandoned.checkDuplicate {call : LaunchCall}
    (h : s.Abandoned i (call.program, call.args)) (hcheck : call.checkForDuplicate = true) :
    s.checkDuplicate t call = s := by
  rw [HandleSystem.checkDuplicate, hcheck, Bool.true_and, if_pos]
  rw [isDuplicate_iff, ← h.key]
  exact List.mem_map_of_mem h.listed

/--
**A program whose `fork` failed is refused until the shutdown.**

The handle of a failed launch stays in `m_handles`, whatever is launched, killed, closed and
monitored afterwards, and every launch of its program and arguments that checks for duplicates
returns at once.
-/
theorem failed_fork_blocks {as bs : List (HandleAction τ)} {forkRt : TPid}
    (has : .shutdown ∉ as) (hbs : .shutdown ∉ bs) (hs : runAll step start as = some s)
    (ht : s.phase t = .pushed i) (hfail : forkRt < 0) :
    AlwaysState step (fun s' => i ∈ s'.handles ∧ ∀ t' call, call.checkForDuplicate = true →
      (call.program, call.args) = s.launchKey i → s'.checkDuplicate t' call = s')
      (s.fork t i forkRt) bs := by
  have hsteps : ∀ {cs : List (HandleAction τ)} {x}, .shutdown ∉ cs →
      AlwaysStep step (fun _ a => a ≠ .shutdown) x cs := fun hcs =>
    alwaysStep_of_forall fun a ha heq => hcs (heq ▸ ha)
  have hlaunching : Launching s := (alwaysState_of_alwaysStep Launching
    (fun _ _ _ h ha hs => (h.step ha hs).launching) as _ launching_start (hsteps has)).last hs
  have hhandle : (s.phase t).handle? = some i := by rw [ht]; rfl
  obtain ⟨hmem, hzero⟩ := hlaunching.inFlight t i hhandle
  rw [fork, if_pos hfail]
  have habandoned : (s.setPhase t .idle).Abandoned i (s.launchKey i) := by
    refine ⟨hmem, hzero, rfl, fun t' ht' => ?_⟩
    rw [phase_setPhase] at ht'
    split at ht'
    · cases ht'
    · next hne => exact hne (hlaunching.distinct t' t i ht' hhandle)
  refine (alwaysState_of_alwaysStep
    (fun s' => Launching s' ∧ s'.Abandoned i (s.launchKey i)) (fun x a x' hx ha hstep => ?_) bs _
    ⟨(hlaunching.setPhase rfl).launching, habandoned⟩ (hsteps hbs)).mono fun x hx =>
      ⟨hx.2.listed, fun t' call hcheck hkey => (hkey ▸ hx.2).checkDuplicate hcheck⟩
  exact ⟨(hx.1.step ha hstep).launching, (hx.1.step ha hstep).abandoned _ _ hx.2⟩

end Failed

def recorderLaunch : LaunchCall := { program := "recorder", args := ["--camera=1"] }

def recorderActions : List (HandleAction Unit) :=
  [.checkDuplicate () recorderLaunch, .pushHandle ()]

/-- The recorder before its `fork`. -/
def recorderPushed : HandleSystem Unit :=
  (start.checkDuplicate () recorderLaunch).pushHandle () recorderLaunch

theorem failed_recorder_blocks :
    AlwaysState step (fun s' => 0 ∈ s'.handles ∧ ∀ t' call, call.checkForDuplicate = true →
      (call.program, call.args) = recorderPushed.launchKey 0 → s'.checkDuplicate t' call = s')
      (recorderPushed.fork () 0 (-1)) [.monitor [], .checkDuplicate () recorderLaunch] :=
  failed_fork_blocks (show .shutdown ∉ recorderActions by simp [recorderActions]) (by simp)
    (show runAll step start recorderActions = some recorderPushed from rfl) rfl (by decide)

end HandleSystem

end MicroserviceCommon.ProcessLauncher
