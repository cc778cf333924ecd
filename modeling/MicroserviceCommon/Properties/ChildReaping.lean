import Mathlib.Data.List.Nodup
import MicroserviceCommon.Infra.Run
import MicroserviceCommon.System.ChildSignals

/-!
# Children that are waited for

* `length_zombies` — the children that nobody waits for are the exits that found the signal pending
* `mem_monitor_iff` — a monitoring pass removes the handles of the children that were waited for
* `exits_noticed_iff` — when every exit is noticed in the end
* `stopped_child_blocks` — while no child exits, a thread that takes the signal stays in the handler
-/

namespace MicroserviceCommon.ProcessLauncher

open Infra

namespace ChildSignals

variable {τ : Type*}

/-! ## The pids -/

/-- Every exited child is a zombie or was waited for, and all pids are different. -/
structure PidsInv (s : ChildSignals τ) : Prop where
  perm : (s.zombies ++ s.reaped).Perm s.exited
  nodup : (s.running ++ s.exited).Nodup
  pos : ∀ pid ∈ s.running ++ s.exited, 0 < pid

theorem pidsInv_start : PidsInv ({} : ChildSignals τ) where
  perm := List.Perm.nil
  nodup := List.nodup_nil
  pos := fun _ h => absurd h List.not_mem_nil

variable [DecidableEq τ] {s s' : ChildSignals τ} {a : ChildAction τ}

theorem perm_exit {running exited : List TPid} {pid : TPid} (h : pid ∈ running) :
    (running.erase pid ++ (exited ++ [pid])).Perm (running ++ exited) := by
  have hrunning : (pid :: running.erase pid).Perm running := (List.perm_cons_erase h).symm
  refine List.Perm.trans ?_ (hrunning.append_right exited)
  rw [← List.append_assoc]
  exact List.perm_append_singleton pid _

theorem PidsInv.step (h : PidsInv s) (hs : s.step a = some s') : PidsInv s' := by
  cases a with
  | fork pid =>
    obtain ⟨⟨hpos, hrunning, hexited⟩, hs⟩ := Option.ite_none_right_eq_some.mp hs
    cases hs
    have hperm : (s.running ++ [pid] ++ s.exited).Perm (pid :: (s.running ++ s.exited)) := by
      rw [List.append_assoc]
      exact List.perm_middle
    refine ⟨h.perm, hperm.nodup_iff.mpr (List.nodup_cons.mpr ⟨?_, h.nodup⟩), fun p hp => ?_⟩
    · simp [hrunning, hexited]
    · rcases List.mem_cons.mp (hperm.mem_iff.mp hp) with rfl | hp
      · exact hpos
      · exact h.pos p hp
  | exit pid =>
    obtain ⟨hmem, hs⟩ := Option.ite_none_right_eq_some.mp hs
    cases hs
    have hpids : (s.running.erase pid ++ (s.exited ++ [pid])).Perm (s.running ++ s.exited) :=
      perm_exit hmem
    refine ⟨?_, hpids.nodup_iff.mpr h.nodup, fun p hp => h.pos p (hpids.mem_iff.mp hp)⟩
    show (s.zombies ++ [pid] ++ s.reaped).Perm (s.exited ++ [pid])
    rw [List.append_assoc]
    refine List.perm_middle.trans ?_
    exact (h.perm.cons pid).trans (List.perm_append_singleton pid s.exited).symm
  | stop pid =>
    obtain ⟨_, hs⟩ := Option.ite_none_right_eq_some.mp hs
    cases hs
    exact ⟨h.perm, h.nodup, h.pos⟩
  | deliver t =>
    obtain ⟨_, hs⟩ := Option.ite_none_right_eq_some.mp hs
    cases hs
    exact ⟨h.perm, h.nodup, h.pos⟩
  | wait t pid =>
    obtain ⟨⟨_, hzombie⟩, hs⟩ := Option.ite_none_right_eq_some.mp hs
    cases hs
    refine ⟨?_, h.nodup, h.pos⟩
    exact (perm_exit hzombie).trans h.perm
  | waitFailed t =>
    obtain ⟨_, hs⟩ := Option.ite_none_right_eq_some.mp hs
    cases hs
    exact ⟨h.perm, h.nodup, h.pos⟩

/-! ## The count of the zombies -/

/-- No child is stopped or continued. -/
def IsNoStop : ChildAction τ → Prop
  | .stop _ => False
  | .fork _ | .exit _ | .deliver _ | .wait _ _ | .waitFailed _ => True

instance (a : ChildAction τ) : Decidable (IsNoStop a) := by
  cases a <;> unfold IsNoStop <;> infer_instance

/-- The signal was not pending when the child exited. -/
def ExitApart (s : ChildSignals τ) : ChildAction τ → Prop
  | .exit _ => s.pending = false
  | .fork _ | .stop _ | .deliver _ | .wait _ _ | .waitFailed _ => True

instance (s : ChildSignals τ) (a : ChildAction τ) : Decidable (s.ExitApart a) := by
  cases a <;> unfold ExitApart <;> infer_instance

/-- A zombie is waited for by a thread in the handler, is announced by the pending signal, or its
exit was not announced. -/
def Counted (s : ChildSignals τ) : Prop :=
  s.zombies.length = s.coalesced + s.handling.length + s.pending.toNat

theorem Counted.step (h : Counted s) (hstop : IsNoStop a) (hs : s.step a = some s') :
    Counted s' := by
  unfold Counted at h ⊢
  cases a with
  | fork pid =>
    obtain ⟨_, hs⟩ := Option.ite_none_right_eq_some.mp hs
    cases hs
    exact h
  | exit pid =>
    obtain ⟨_, hs⟩ := Option.ite_none_right_eq_some.mp hs
    cases hs
    cases hp : s.pending <;> simp [exit, hp] at h ⊢ <;> omega
  | stop pid => exact hstop.elim
  | deliver t =>
    obtain ⟨⟨hp, _⟩, hs⟩ := Option.ite_none_right_eq_some.mp hs
    cases hs
    simp [hp] at h ⊢
    omega
  | wait t pid =>
    obtain ⟨⟨ht, hzombie⟩, hs⟩ := Option.ite_none_right_eq_some.mp hs
    cases hs
    have hpos := List.length_pos_of_mem hzombie
    have hpos' := List.length_pos_of_mem ht
    simp only [wait, List.length_erase_of_mem hzombie, List.length_erase_of_mem ht]
    omega
  | waitFailed t =>
    -- a thread in the handler has a zombie to wait for
    obtain ⟨⟨ht, _, hzombies⟩, _⟩ := Option.ite_none_right_eq_some.mp hs
    have hpos := List.length_pos_of_mem ht
    rw [hzombies, List.length_nil] at h
    omega

/-- **At rest the zombies are the exits that found the signal pending.** -/
theorem length_zombies {actions : List (ChildAction τ)} (hstop : ∀ a ∈ actions, IsNoStop a)
    (hs : runAll step {} actions = some s) (hrest : s.AtRest) : s.zombies.length = s.coalesced := by
  have hrun : AlwaysState step Counted ({} : ChildSignals τ) actions :=
    alwaysState_of_alwaysStep Counted (fun _ _ _ h hc hstep => h.step hc hstep) actions {} rfl
      (alwaysStep_of_forall hstop)
  have hcounted : Counted s := hrun.last hs
  unfold Counted at hcounted
  rw [hrest.1, hrest.2] at hcounted
  exact hcounted

theorem coalesced_step (hs : s.step a = some s') : s.coalesced ≤ s'.coalesced ∧
    (s'.coalesced = s.coalesced ↔ s.ExitApart a) := by
  cases a with
  | exit pid =>
    obtain ⟨_, hs⟩ := Option.ite_none_right_eq_some.mp hs
    cases hs
    cases hp : s.pending <;> simp [exit, ExitApart, hp]
  | fork _ | stop _ | deliver _ | wait _ _ | waitFailed _ =>
    obtain ⟨_, hs⟩ := Option.ite_none_right_eq_some.mp hs
    cases hs
    exact ⟨Nat.le_refl _, iff_of_true rfl trivial⟩

/-- **No exit coalesced exactly when all came apart.** -/
theorem coalesced_run : ∀ {actions : List (ChildAction τ)} {s s' : ChildSignals τ},
    runAll step s actions = some s' → s.coalesced ≤ s'.coalesced ∧
      (s'.coalesced = s.coalesced ↔ AlwaysStep step ExitApart s actions)
  | [], s, s', hs => by
    cases hs
    exact ⟨Nat.le_refl _, iff_of_true rfl trivial⟩
  | a :: actions, s, s', hs => by
    obtain ⟨s₁, hs₁, hs'⟩ := Option.bind_eq_some_iff.mp hs
    obtain ⟨hle, hstep⟩ := coalesced_step hs₁
    obtain ⟨hle', hrun⟩ := coalesced_run hs'
    refine ⟨hle.trans hle', ?_⟩
    constructor
    · intro heq s₂ hs₂
      rw [hs₁] at hs₂
      cases hs₂
      exact ⟨hstep.mp (by omega), hrun.mp (by omega)⟩
    · intro hall
      obtain ⟨hapart, hrest⟩ := hall s₁ hs₁
      rw [hrun.mpr hrest, hstep.mpr hapart]

/-! ## The monitoring pass -/

/-- **A pass removes the handles of the children that were waited for.** -/
theorem mem_monitor_iff {κ : Type*} {launcher : HandleSystem κ} {gone : List TPid} {i : Nat}
    (hi : i ∈ launcher.handles) (hpid : launcher.pidOf i ≠ 0) :
    i ∈ (launcher.monitor gone).handles ↔ launcher.pidOf i ∉ gone := by
  have hdied : ∀ d, (!(launcher.objects d).isRunning gone) = true ↔
      launcher.pidOf d ≠ 0 ∧ launcher.pidOf d ∈ gone := by
    intro d
    simp [ProcessHandle.isRunning, HandleSystem.pidOf]
  have hmonitor : i ∈ (launcher.monitor gone).handles ↔
      ∀ d ∈ launcher.handles, launcher.pidOf d ≠ 0 ∧ launcher.pidOf d ∈ gone →
        launcher.pidOf d ≠ launcher.pidOf i := by
    simp only [HandleSystem.monitor, List.mem_filter, hi, true_and, Bool.not_eq_true',
      List.any_eq_false, hdied, beq_iff_eq, and_imp]
  rw [hmonitor]
  constructor
  · exact fun hkept hgone => hkept i hi ⟨hpid, hgone⟩ rfl
  · intro hgone d _ hd heq
    exact hgone (heq ▸ hd.2)

/-- A handle of the pid. -/
def handleOf (pid : TPid) : HandleSystem Unit where
  objects := fun _ => { settings := { program := "", args := [] }, childPid := pid }
  next := 1
  handles := [0]
  phase := fun _ => .idle

/-- A pass removes the handle of every child that has exited. -/
def AllNoticed (s : ChildSignals τ) : Prop :=
  ∀ launcher : HandleSystem Unit, ∀ i ∈ launcher.handles, launcher.pidOf i ∈ s.exited →
    i ∉ (launcher.monitor s.reaped).handles

omit [DecidableEq τ] in
theorem allNoticed_iff (h : PidsInv s) : s.AllNoticed ↔ s.zombies = [] := by
  have hnodup : (s.zombies ++ s.reaped).Nodup :=
    h.perm.nodup_iff.mpr (List.Nodup.of_append_right h.nodup)
  have hpos : ∀ pid, pid ∈ s.exited → pid ≠ 0 := by
    rintro pid hpid rfl
    exact absurd (h.pos 0 (List.mem_append_right _ hpid)) (by decide)
  constructor
  · intro hall
    refine List.eq_nil_iff_forall_not_mem.mpr fun pid hzombie => ?_
    have hexited : pid ∈ s.exited := h.perm.mem_iff.mp (List.mem_append_left _ hzombie)
    have hhandle : (handleOf pid).pidOf 0 ≠ 0 := hpos pid hexited
    refine hall (handleOf pid) 0 List.mem_cons_self hexited ?_
    refine (mem_monitor_iff List.mem_cons_self hhandle).mpr fun hreaped => ?_
    exact List.disjoint_of_nodup_append hnodup hzombie hreaped
  · intro hzombies launcher i hi hexited
    have hreaped : launcher.pidOf i ∈ s.reaped := by
      have hmem := h.perm.mem_iff.mpr hexited
      rwa [hzombies, List.nil_append] at hmem
    exact fun hkept => (mem_monitor_iff hi (hpos _ hexited)).mp hkept hreaped

/--
**When every exit is noticed.**

No child is stopped or continued, and at the end no signal is pending and no thread is in the
handler. Then a monitoring pass removes all handles of exited children exactly when no child exited
while the signal of another one was pending.
-/
theorem exits_noticed_iff {actions : List (ChildAction τ)} (hstop : ∀ a ∈ actions, IsNoStop a)
    (hs : runAll step {} actions = some s) (hrest : s.AtRest) :
    s.AllNoticed ↔ AlwaysStep step ExitApart {} actions := by
  have hpids : PidsInv s := of_runAll PidsInv (fun _ _ _ h hstep => h.step hstep) pidsInv_start hs
  rw [allNoticed_iff hpids, ← List.length_eq_zero_iff, length_zombies hstop hs hrest]
  exact (coalesced_run hs).2

/-- Two children exit before the signal of the first one is taken. -/
theorem two_exits_noticed_iff :
    AllNoticed ({ zombies := [8], reaped := [7], exited := [7, 8], coalesced := 1 } :
        ChildSignals Unit) ↔
      AlwaysStep step ExitApart ({} : ChildSignals Unit)
        [.fork 7, .fork 8, .exit 7, .exit 8, .deliver (), .wait () 7] :=
  exits_noticed_iff (by decide) rfl ⟨rfl, rfl⟩

/-- One of them is never noticed. -/
example : ¬ AlwaysStep step ExitApart ({} : ChildSignals Unit)
    [.fork 7, .fork 8, .exit 7, .exit 8, .deliver (), .wait () 7] := by decide

/-! ## Children that are stopped -/

def IsNoExit : ChildAction τ → Prop
  | .exit _ => False
  | .fork _ | .stop _ | .deliver _ | .wait _ _ | .waitFailed _ => True

instance (a : ChildAction τ) : Decidable (IsNoExit a) := by
  cases a <;> unfold IsNoExit <;> infer_instance

/-- The threads that enter the handler. -/
def delivered : ChildAction τ → Option τ
  | .deliver t => some t
  | .fork _ | .exit _ | .stop _ | .wait _ _ | .waitFailed _ => none

/-- `wait` blocks in every handler. -/
structure Blocks (s : ChildSignals τ) : Prop where
  zombies : s.zombies = []
  running : s.running ≠ []

/-- **A thread can enter the handler, but not leave it.** -/
theorem Blocks.step (h : Blocks s) (hexit : IsNoExit a) (hs : s.step a = some s') :
    Blocks s' ∧ s'.handling = s.handling ++ (delivered a).toList := by
  cases a with
  | fork pid =>
    obtain ⟨_, hs⟩ := Option.ite_none_right_eq_some.mp hs
    cases hs
    exact ⟨⟨h.zombies, by simp⟩, (List.append_nil _).symm⟩
  | exit pid => exact hexit.elim
  | stop pid =>
    obtain ⟨_, hs⟩ := Option.ite_none_right_eq_some.mp hs
    cases hs
    exact ⟨⟨h.zombies, h.running⟩, (List.append_nil _).symm⟩
  | deliver t =>
    obtain ⟨_, hs⟩ := Option.ite_none_right_eq_some.mp hs
    cases hs
    exact ⟨⟨h.zombies, h.running⟩, rfl⟩
  | wait t pid =>
    obtain ⟨⟨_, hzombie⟩, _⟩ := Option.ite_none_right_eq_some.mp hs
    rw [h.zombies] at hzombie
    exact absurd hzombie List.not_mem_nil
  | waitFailed t =>
    obtain ⟨⟨_, hnone, _⟩, _⟩ := Option.ite_none_right_eq_some.mp hs
    exact absurd hnone h.running

/--
**A stopped child takes a thread.**

While a child runs and none exits, all threads that take a signal stay in the handler.
-/
theorem stopped_child_blocks : ∀ {actions : List (ChildAction τ)} {s s' : ChildSignals τ},
    Blocks s → (∀ a ∈ actions, IsNoExit a) → runAll step s actions = some s' →
      s'.handling = s.handling ++ actions.filterMap delivered
  | [], s, s', _, _, hs => by
    cases hs
    exact (List.append_nil _).symm
  | a :: actions, s, s', h, hexit, hs => by
    obtain ⟨s₁, hs₁, hs'⟩ := Option.bind_eq_some_iff.mp hs
    obtain ⟨h₁, hhandling⟩ := h.step (hexit a List.mem_cons_self) hs₁
    have hrest := stopped_child_blocks h₁ (fun b hb => hexit b (List.mem_cons_of_mem _ hb)) hs'
    rw [hrest, hhandling, List.append_assoc]
    cases hd : delivered a <;> simp [hd]

/-- A child is stopped and continued, and two threads take the signals. -/
theorem stopped_child_blocks_two :
    ({ running := [7, 8], handling := [0, 1] } : ChildSignals (Fin 2)).handling =
      ({ running := [7] } : ChildSignals (Fin 2)).handling ++
        List.filterMap delivered [.stop 7, .deliver 0, .fork 8, .stop 7, .deliver 1] :=
  stopped_child_blocks ⟨rfl, List.cons_ne_nil _ _⟩ (by decide) rfl

end ChildSignals

end MicroserviceCommon.ProcessLauncher
