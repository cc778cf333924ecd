import Mathlib.Data.List.ProdSigma
import Mathlib.Data.List.Sort
import MicroserviceCommon.Infra.Run
import MicroserviceCommon.System.CrashNotification

/-!
# Whose crash is reported

The monitor reports the handles that do not run and removes the handles with the pid of one of them.
These are the same handles as long as no two handles with one pid get different answers.

* `reported_iff` — right exactly in the runs whose passes get one answer for each pid
-/

namespace MicroserviceCommon.ProcessLauncher

open Infra

namespace CrashMonitor

variable {ι ω : Type*} {childPid : ι → TPid} {order : ObserverSort ω} {s s' : CrashMonitor ι ω}
  {isRunning : ι → Bool}

/-- Every handle that a pass removed was reported once to each observer that was registered, and to
no other. -/
def ReportedOnce [DecidableEq ι] [DecidableEq ω] (s : CrashMonitor ι ω) : Prop :=
  ∀ e ∈ s.removed, ∀ o, s.callbacks.count (e.1, o) = if o ∈ e.2 then 1 else 0

/-- What a pass promises beside the reports. -/
structure PassLaw (childPid : ι → TPid) (order : ObserverSort ω) (s : CrashMonitor ι ω)
    (isRunning : ι → Bool) : Prop where
  running : ∀ h ∈ s.handles, isRunning h = true → h ∈ (s.monitor childPid isRunning).handles
  remaining : (s.monitor childPid isRunning).handles.Sublist s.handles
  priorities : (s.notifications isRunning).Pairwise fun c c' =>
    c.1 = c'.1 → order.priority c.2 ≤ order.priority c'.2

def Law (childPid : ι → TPid) (order : ObserverSort ω) (s : CrashMonitor ι ω) :
    CrashAction ι ω → Prop
  | .monitor isRunning => s.PassLaw childPid order isRunning
  | .launch _ | .addObserver _ | .removeObserver _ => True

/-- Handles with one pid get one answer. -/
def SameAnswers (childPid : ι → TPid) (s : CrashMonitor ι ω) : CrashAction ι ω → Prop
  | .monitor isRunning => ∀ h ∈ s.handles, ∀ h' ∈ s.handles, childPid h = childPid h' →
      isRunning h = isRunning h'
  | .launch _ | .addObserver _ | .removeObserver _ => True

/-! ## The observers -/

/-- The list has the registered observers once, in the order of their priority. -/
structure ListsObservers (order : ObserverSort ω) (s : CrashMonitor ι ω) : Prop where
  mem : ∀ o, o ∈ s.observers ↔ o ∈ s.registered
  nodup : s.observers.Nodup
  sorted : s.observers.Pairwise fun a b => order.priority a ≤ order.priority b

theorem ListsObservers.addObserver [DecidableEq ω] (h : s.ListsObservers order) (observer : ω) :
    (s.addObserver order observer).ListsObservers order := by
  unfold CrashMonitor.addObserver
  split
  · exact h
  · next hnew =>
    have hperm := order.perm (s.observers ++ [observer])
    refine ⟨fun o => ?_, hperm.nodup_iff.mpr ?_, order.sorted _⟩
    · rw [hperm.mem_iff, List.mem_append, List.mem_singleton, h.mem, Finset.mem_insert]
      exact Or.comm
    · exact List.nodup_append.mpr ⟨h.nodup, List.nodup_singleton _, fun o ho o' ho' hsame =>
        hnew (List.mem_singleton.mp ho' ▸ hsame ▸ ho)⟩

theorem ListsObservers.removeObserver [DecidableEq ω] (h : s.ListsObservers order) (observer : ω) :
    (s.removeObserver observer).ListsObservers order where
  mem o := by
    unfold CrashMonitor.removeObserver
    rw [h.nodup.mem_erase_iff, Finset.mem_erase, h.mem]
  nodup := h.nodup.erase _
  sorted := h.sorted.sublist List.erase_sublist

/-! ## One pass -/

theorem mem_diedProcesses {h : ι} :
    h ∈ s.diedProcesses isRunning ↔ h ∈ s.handles ∧ isRunning h = false := by
  unfold diedProcesses
  rw [List.mem_filter, Bool.not_eq_true']

theorem processDied_iff {h : ι} : s.processDied childPid isRunning h = true ↔
    ∃ d ∈ s.handles, isRunning d = false ∧ childPid d = childPid h := by
  unfold processDied
  simp only [List.any_eq_true, mem_diedProcesses, beq_iff_eq, and_assoc]

theorem mem_notifications {h : ι} {o : ω} : (h, o) ∈ s.notifications isRunning ↔
    (h ∈ s.handles ∧ isRunning h = false) ∧ o ∈ s.observers := by
  rw [← mem_diedProcesses]
  exact List.pair_mem_product

/-- One answer for each pid: exactly the handles that do not run are removed. -/
theorem processDied_of_sameAnswers (h : s.SameAnswers childPid (.monitor isRunning)) {p : ι}
    (hp : p ∈ s.handles) : s.processDied childPid isRunning p = !isRunning p := by
  rw [Bool.eq_iff_iff, processDied_iff, Bool.not_eq_true']
  constructor
  · rintro ⟨d, hd, hdead, hpid⟩
    rw [← h d hd p hp hpid]
    exact hdead
  · exact fun hdead => ⟨p, hp, hdead, rfl⟩

theorem sameAnswers_of_passLaw (h : s.PassLaw childPid order isRunning) :
    s.SameAnswers childPid (.monitor isRunning) := by
  -- a running handle with the pid of a dead one would be removed
  have hkept : ∀ d ∈ s.handles, ∀ p ∈ s.handles, childPid d = childPid p →
      isRunning d = false → isRunning p = false := by
    intro d hd p hp hpid hdead
    by_contra hrun
    have hstays := h.running p hp (Bool.eq_true_of_not_eq_false hrun)
    unfold monitor at hstays
    rw [List.mem_filter, processDied_iff.mpr ⟨d, hd, hdead, hpid⟩] at hstays
    exact absurd hstays.2 (by decide)
  intro d hd p hp hpid
  cases hdead : isRunning d with
  | false => exact (hkept d hd p hp hpid hdead).symm
  | true =>
    cases hdead' : isRunning p with
    | false => rw [hkept p hp d hd hpid.symm hdead'] at hdead; exact hdead.symm
    | true => rfl

/-- The handles that a pass removes. -/
theorem mem_removed_monitor {e : ι × Finset ω} :
    e ∈ (s.monitor childPid isRunning).removed ↔ e ∈ s.removed ∨
      e.1 ∈ s.handles ∧ s.processDied childPid isRunning e.1 = true ∧ e.2 = s.registered := by
  unfold monitor
  rw [List.mem_append, List.mem_map]
  refine or_congr_right ⟨?_, ?_⟩
  · rintro ⟨p, hp, rfl⟩
    rw [List.mem_filter] at hp
    exact ⟨hp.1, hp.2, rfl⟩
  · rintro ⟨hp, hdied, hreg⟩
    exact ⟨e.1, List.mem_filter.mpr ⟨hp, hdied⟩, by rw [← hreg]⟩

theorem mem_map_removed_monitor {h : ι} :
    h ∈ (s.monitor childPid isRunning).removed.map Prod.fst ↔ h ∈ s.removed.map Prod.fst ∨
      h ∈ s.handles ∧ s.processDied childPid isRunning h = true := by
  simp only [List.mem_map, mem_removed_monitor]
  constructor
  · rintro ⟨e, he | ⟨hp, hdied, _⟩, rfl⟩
    · exact Or.inl ⟨e, he, rfl⟩
    · exact Or.inr ⟨hp, hdied⟩
  · rintro (⟨e, he, rfl⟩ | ⟨hp, hdied⟩)
    · exact ⟨e, Or.inl he, rfl⟩
    · exact ⟨(h, s.registered), Or.inr ⟨hp, hdied, rfl⟩, rfl⟩

/-! ## The invariant -/

section Invariant

variable [DecidableEq ι] [DecidableEq ω]

/-- A handle in the list was not removed, and only removed handles were reported. -/
structure CrashInv (order : ObserverSort ω) (s : CrashMonitor ι ω) : Prop where
  observers : s.ListsObservers order
  nodup : s.handles.Nodup
  fresh : ∀ h ∈ s.handles, h ∉ s.removed.map Prod.fst
  callbacks : ∀ c ∈ s.callbacks, c.1 ∈ s.removed.map Prod.fst
  reported : s.ReportedOnce

theorem passLaw_of_sameAnswers (hinv : s.CrashInv order)
    (h : s.SameAnswers childPid (.monitor isRunning)) : s.PassLaw childPid order isRunning where
  running p hp hrun := by
    unfold monitor
    rw [List.mem_filter, processDied_of_sameAnswers h hp, hrun]
    exact ⟨hp, rfl⟩
  remaining := List.filter_sublist
  priorities := by
    unfold notifications
    rw [List.pairwise_flatMap]
    constructor
    · intro z _
      rw [List.pairwise_map]
      refine hinv.observers.sorted.imp ?_
      intro a b hle _
      exact hle
    · -- two zombies are two handles
      refine (hinv.nodup.filter _).imp fun {z z'} hne c hc c' hc' hsame => absurd hsame ?_
      obtain ⟨o, _, rfl⟩ := List.mem_map.mp hc
      obtain ⟨o', _, rfl⟩ := List.mem_map.mp hc'
      exact hne

theorem count_notifications (hinv : s.CrashInv order) (h : ι) (o : ω) :
    (s.notifications isRunning).count (h, o) =
      if (h ∈ s.handles ∧ isRunning h = false) ∧ o ∈ s.registered then 1 else 0 := by
  have hnodup : (s.notifications isRunning).Nodup :=
    (hinv.nodup.filter _).product hinv.observers.nodup
  rw [hnodup.count]
  exact if_congr (mem_notifications.trans (and_congr_right fun _ => hinv.observers.mem o)) rfl rfl

theorem crashInv_monitor (hinv : s.CrashInv order)
    (h : s.SameAnswers childPid (.monitor isRunning)) :
    (s.monitor childPid isRunning).CrashInv order where
  observers := ⟨hinv.observers.mem, hinv.observers.nodup, hinv.observers.sorted⟩
  nodup := hinv.nodup.filter _
  fresh p hp := by
    obtain ⟨hmem, hstays⟩ := List.mem_filter.mp hp
    rw [mem_map_removed_monitor]
    rintro (hold | ⟨_, hdied⟩)
    · exact hinv.fresh p hmem hold
    · rw [hdied] at hstays
      exact absurd hstays (by decide)
  callbacks c hc := by
    rw [mem_map_removed_monitor]
    rcases List.mem_append.mp hc with hold | hnew
    · exact Or.inl (hinv.callbacks c hold)
    · obtain ⟨⟨hmem, hdead⟩, _⟩ := mem_notifications.mp hnew
      exact Or.inr ⟨hmem, processDied_iff.mpr ⟨c.1, hmem, hdead, rfl⟩⟩
  reported e he o := by
    have hsplit : (s.monitor childPid isRunning).callbacks.count (e.1, o) =
        s.callbacks.count (e.1, o) + (s.notifications isRunning).count (e.1, o) :=
      List.count_append
    rw [hsplit, count_notifications hinv]
    rcases mem_removed_monitor.mp he with hold | ⟨hmem, hdied, hreg⟩
    · -- a handle that is gone already is not reported again
      have hgone : e.1 ∉ s.handles := fun hmem => hinv.fresh _ hmem (List.mem_map_of_mem hold)
      rw [hinv.reported e hold o, if_neg (c := _ ∧ _) fun hc => hgone hc.1.1, Nat.add_zero]
    · have hfirst : s.callbacks.count (e.1, o) = 0 :=
        List.count_eq_zero.mpr fun hc => hinv.fresh _ hmem (hinv.callbacks _ hc)
      rw [processDied_of_sameAnswers h hmem, Bool.not_eq_true'] at hdied
      rw [hfirst, Nat.zero_add, hreg]
      exact if_congr (and_iff_right ⟨hmem, hdied⟩) rfl rfl

theorem crashInv_step {a : CrashAction ι ω} (hinv : s.CrashInv order)
    (h : s.SameAnswers childPid a) (hs : s.step childPid order a = some s') :
    s'.CrashInv order := by
  cases a with
  | launch handle =>
    obtain ⟨hnew, hs⟩ := Option.ite_none_left_eq_some.mp hs
    cases hs
    rw [not_or] at hnew
    refine ⟨⟨hinv.observers.mem, hinv.observers.nodup, hinv.observers.sorted⟩, ?_, fun p hp => ?_,
      hinv.callbacks, hinv.reported⟩
    · exact List.nodup_append.mpr ⟨hinv.nodup, List.nodup_singleton _, fun p hp p' hp' hsame =>
        hnew.1 (List.mem_singleton.mp hp' ▸ hsame ▸ hp)⟩
    · rcases List.mem_append.mp hp with hold | hlast
      · exact hinv.fresh p hold
      · rw [List.mem_singleton.mp hlast]
        exact hnew.2
  | addObserver observer =>
    obtain ⟨o, _, rfl⟩ := Option.map_eq_some_iff.mp hs
    have hlists := hinv.observers.addObserver o
    unfold CrashMonitor.addObserver at hlists ⊢
    split
    · exact hinv
    · next hnew =>
      rw [if_neg hnew] at hlists
      exact ⟨hlists, hinv.nodup, hinv.fresh, hinv.callbacks, hinv.reported⟩
  | removeObserver observer =>
    cases hs
    exact ⟨hinv.observers.removeObserver observer, hinv.nodup, hinv.fresh, hinv.callbacks,
      hinv.reported⟩
  | monitor isRunning =>
    cases hs
    exact crashInv_monitor hinv h

theorem crashInv_start : ({} : CrashMonitor ι ω).CrashInv order where
  observers := ⟨fun o => by simp, List.nodup_nil, List.Pairwise.nil⟩
  nodup := List.nodup_nil
  fresh _ h := absurd h List.not_mem_nil
  callbacks _ h := absurd h List.not_mem_nil
  reported _ h := absurd h List.not_mem_nil

/--
**The monitor reports what it removes exactly when handles with one pid get one answer.**

Otherwise a handle that runs is removed with the dead one, and nobody is told.
-/
theorem reported_iff (childPid : ι → TPid) (order : ObserverSort ω)
    (actions : List (CrashAction ι ω)) :
    AlwaysState (step childPid order) ReportedOnce {} actions ∧
        AlwaysStep (step childPid order) (Law childPid order) {} actions ↔
      AlwaysStep (step childPid order) (SameAnswers childPid) {} actions := by
  refine alwaysStep_iff_of_inv (step childPid order) (CrashInv order) (fun s h => h.reported)
    (fun s a s' hinv h hs => crashInv_step hinv h hs) (fun s a s' hinv hs hlaw _ => ?_)
    (fun s a s' hinv hs h => ?_) actions {} crashInv_start
  · cases a with
    | monitor isRunning => exact sameAnswers_of_passLaw hlaw
    | launch _ | addObserver _ | removeObserver _ => exact trivial
  · cases a with
    | monitor isRunning => exact passLaw_of_sameAnswers hinv h
    | launch _ | addObserver _ | removeObserver _ => exact trivial

end Invariant

/-- Handles are numbers, observers their priorities. -/
def byPriority : ObserverSort Int32 where
  priority := id
  sort l := l.insertionSort (· ≤ ·)
  perm l := List.perm_insertionSort _ l
  sorted l := List.pairwise_insertionSort _ l

/-- The pid 7 of a dead child is given to another one between the two questions of a pass. -/
def reusedPidRun : List (CrashAction Nat Int32) :=
  [.addObserver (some 0), .launch 1, .launch 2, .monitor fun h => h == 2]

theorem reusedPidRun_unreported :
    ¬ (AlwaysState (step (fun _ => 7) byPriority) ReportedOnce {} reusedPidRun ∧
      AlwaysStep (step (fun _ => 7) byPriority) (Law (fun _ => 7) byPriority) {}
        reusedPidRun) := by
  rintro ⟨_, hlaw⟩
  have hpass := ((((hlaw _ rfl).2 _ rfl).2 _ rfl).2 _ rfl).1
  exact absurd (sameAnswers_of_passLaw hpass 1 (by decide) 2 (by decide) rfl) (by decide)

end CrashMonitor

end MicroserviceCommon.ProcessLauncher
