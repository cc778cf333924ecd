import Mathlib.Data.List.Nodup
import Mathlib.Data.List.Perm.Subperm
import MicroserviceCommon.Properties.DuplicateLaunches
import MicroserviceCommon.System.ChildPipes

/-!
# What becomes of the pipes of the children

* `output_complete_iff` — the log has all that a child wrote exactly when its pipe was empty when
  its handle was removed
* `output_truncated` — a child that ends with more than one read in its pipe is never logged to the
  end
* `read_ends_stay_open` — each launch with output costs a descriptor for good
* `shutdown_spares_iff` — the shutdown closes a file of another part of the program exactly when
  that has the number of a write end that is closed already
-/

namespace MicroserviceCommon.ProcessLauncher

open Infra

/-! ## The output -/

namespace ChildOutput

variable {s s' : ChildOutput}

/-- Nothing is logged twice or in another order. -/
def Conserved (s : ChildOutput) : Prop := s.logged ++ s.pipe = s.written

/-- The log of a handle that was removed has all of the output. -/
def Complete (s : ChildOutput) : Prop := s.registered = false → s.logged = s.written

/-- A handle is removed only while its pipe is empty, and nothing is written afterwards. -/
def Drained (s : ChildOutput) : ChildOutputAction → Prop
  | .write bytes => s.registered = false → bytes = []
  | .checkRunning => s.isRunning = false → s.pipe = []
  | .forget => s.pipe = []
  | .exit | .readOutput _ => True

structure Inv (s : ChildOutput) : Prop where
  conserved : s.Conserved
  inPass : s.inPass = true → s.registered = true

theorem Inv.step {a : ChildOutputAction} (h : s.Inv) (hs : s.step a = some s') : s'.Inv := by
  obtain ⟨hconserved, hpass⟩ := h
  rw [Conserved] at hconserved
  cases a with
  | write bytes =>
    obtain rfl := Option.some.inj hs
    exact ⟨by rw [Conserved, ← hconserved, List.append_assoc], hpass⟩
  | exit =>
    obtain rfl := Option.some.inj hs
    exact ⟨hconserved, hpass⟩
  | readOutput ready =>
    obtain ⟨hc, hs⟩ := Option.ite_none_right_eq_some.mp hs
    obtain rfl := Option.some.inj hs
    refine ⟨?_, fun _ => (Bool.and_eq_true_iff.mp hc).1⟩
    cases ready with
    | true => simp [Conserved, isMessageFromChildStdoutExist, hconserved]
    | false => exact hconserved
  | checkRunning =>
    obtain ⟨_, hs⟩ := Option.ite_none_right_eq_some.mp hs
    obtain rfl := Option.some.inj hs
    exact ⟨hconserved, fun hc => by cases hc⟩
  | forget =>
    obtain ⟨hc, hs⟩ := Option.ite_none_right_eq_some.mp hs
    obtain rfl := Option.some.inj hs
    simp only [Bool.and_eq_true, Bool.not_eq_true'] at hc
    exact ⟨hconserved, fun hp => by rw [hc.2] at hp; cases hp⟩

theorem inv_start : Inv {} := ⟨rfl, fun hc => by cases hc⟩

/-- What is not logged is in the pipe. -/
theorem Inv.complete_iff (h : s.Inv) : s.logged = s.written ↔ s.pipe = [] := by
  rw [← h.conserved, List.self_eq_append_right]

/-- The pipe of a handle that was removed is empty. -/
def Emptied (s : ChildOutput) : Prop := s.registered = false → s.pipe = []

theorem emptied_iff {a : ChildOutputAction} (h : s.Emptied) (hs : s.step a = some s') :
    s'.Emptied ↔ s.Drained a := by
  cases a with
  | write bytes =>
    obtain rfl := Option.some.inj hs
    refine forall_congr' fun hr => ?_
    rw [h hr, List.nil_append]
  | exit =>
    obtain rfl := Option.some.inj hs
    exact iff_of_true h trivial
  | readOutput ready =>
    obtain ⟨hc, hs⟩ := Option.ite_none_right_eq_some.mp hs
    obtain rfl := Option.some.inj hs
    refine iff_of_true (fun hr => ?_) trivial
    have hregistered : s.registered = true := (Bool.and_eq_true_iff.mp hc).1
    rw [isMessageFromChildStdoutExist, hregistered] at hr
    cases hr
  | checkRunning =>
    obtain ⟨_, hs⟩ := Option.ite_none_right_eq_some.mp hs
    obtain rfl := Option.some.inj hs
    exact Iff.rfl
  | forget =>
    obtain ⟨_, hs⟩ := Option.ite_none_right_eq_some.mp hs
    obtain rfl := Option.some.inj hs
    exact ⟨fun he => he rfl, fun he _ => he⟩

/--
**When the log of a child is complete.**

In every state of a run the log of a removed handle has all that the child wrote, exactly when the
pipe was empty at each removal and nothing is written after it.
-/
theorem output_complete_iff (actions : List ChildOutputAction) :
    AlwaysState step Complete {} actions ↔ AlwaysStep step Drained {} actions := by
  refine alwaysState_iff_of_inv step (fun s => s.Inv ∧ s.Emptied)
    (fun s h hr => h.1.complete_iff.mpr (h.2 hr)) ?_ ?_ actions {}
    ⟨inv_start, fun hc => by cases hc⟩
  · intro s a s' h hc hs
    exact ⟨h.1.step hs, (emptied_iff h.2 hs).mpr hc⟩
  · intro s a s' h hs hcomplete
    exact (emptied_iff h.2 hs).mp fun hr => (h.1.step hs).complete_iff.mp (hcomplete hr)

/-! ## More than one read -/

/-- Without a process at most one more pass reads, and at most its buffer. `n` bytes were logged and
`m` written before. -/
structure Ending (n m : Nat) (s : ChildOutput) : Prop where
  isRunning : s.isRunning = false
  written : m ≤ s.written.length
  logged : s.logged.length ≤ n + bytesCountReadFromPipe
  unread : s.registered = true → s.inPass = false → s.logged.length ≤ n
  inPass : s.inPass = true → s.registered = true

theorem Ending.step {n m : Nat} {a : ChildOutputAction} (h : s.Ending n m)
    (hs : s.step a = some s') : s'.Ending n m := by
  cases a with
  | write bytes =>
    obtain rfl := Option.some.inj hs
    refine ⟨h.isRunning, ?_, h.logged, h.unread, h.inPass⟩
    rw [List.length_append]
    exact Nat.le_add_right_of_le h.written
  | exit =>
    obtain rfl := Option.some.inj hs
    exact ⟨rfl, h.written, h.logged, h.unread, h.inPass⟩
  | readOutput ready =>
    obtain ⟨hc, hs⟩ := Option.ite_none_right_eq_some.mp hs
    obtain rfl := Option.some.inj hs
    simp only [Bool.and_eq_true, Bool.not_eq_true'] at hc
    have hlogged := h.unread hc.1 hc.2
    refine ⟨h.isRunning, h.written, ?_, fun _ hp => (by cases hp), fun _ => hc.1⟩
    cases ready with
    | true =>
      have htake := List.length_take_le bytesCountReadFromPipe s.pipe
      simp only [isMessageFromChildStdoutExist, if_true, List.length_append]
      omega
    | false => exact h.logged
  | checkRunning =>
    obtain ⟨_, hs⟩ := Option.ite_none_right_eq_some.mp hs
    obtain rfl := Option.some.inj hs
    refine ⟨h.isRunning, h.written, h.logged, fun hr => ?_, fun hp => by cases hp⟩
    rw [h.isRunning] at hr
    cases hr
  | forget =>
    obtain ⟨hc, hs⟩ := Option.ite_none_right_eq_some.mp hs
    obtain rfl := Option.some.inj hs
    simp only [Bool.and_eq_true, Bool.not_eq_true'] at hc
    refine ⟨h.isRunning, h.written, h.logged, fun hr => (by cases hr), fun hp => ?_⟩
    rw [hc.2] at hp
    cases hp

/--
**A child that ends with more than one read in its pipe is never logged to the end.**

However the run goes on, the log stays short of what the child wrote.
-/
theorem output_truncated {before : List ChildOutputAction} (hs : runAll step {} before = some s)
    (hgone : s.isRunning = false) (hpipe : bytesCountReadFromPipe < s.pipe.length)
    (after : List ChildOutputAction) :
    AlwaysState step (fun s' => s'.logged.length < s'.written.length) s after := by
  have hinv : s.Inv := of_runAll Inv (fun _ _ _ h hs => h.step hs) inv_start hs
  have hlength : s.logged.length + s.pipe.length = s.written.length := by
    rw [← List.length_append, hinv.conserved]
  have hending : s.Ending s.logged.length s.written.length :=
    ⟨hgone, Nat.le_refl _, Nat.le_add_right _ _, fun _ _ => Nat.le_refl _, hinv.inPass⟩
  refine (alwaysState_of_alwaysStep (C := fun _ _ => True) (Ending _ _)
    (fun _ _ _ h _ hs => h.step hs) after s hending alwaysStep_trivial).mono fun s' h => ?_
  have hlogged := h.logged
  have hwritten := h.written
  omega

/-- One byte too many. -/
theorem output_truncated_by_one : AlwaysState step (fun s' => s'.logged.length < s'.written.length)
    { pipe := List.replicate 10241 0, isRunning := false, written := List.replicate 10241 0 }
    [.readOutput true, .checkRunning] :=
  output_truncated (show runAll step {} [.write (List.replicate 10241 0), .exit] = some _ from rfl)
    rfl (by rw [List.nil_append, List.length_replicate]; decide) _

end ChildOutput

/-! ## The descriptors -/

namespace PipeSystem

variable {τ : Type*} {s s' : PipeSystem τ} {limit : Nat}

/-- The read ends are open, and so is the write end of a child whose launch is not over. -/
structure Inv (limit : Nat) (s : PipeSystem τ) : Prop where
  running : s.launcher.shutdown = false
  launching : s.launcher.Launching
  made : ∀ p ∈ s.pipes, p.handle < s.launcher.next
  distinct : (s.pipes.map HandlePipe.handle).Nodup
  inLimit : ∀ p ∈ s.pipes, p.readEnd < limit
  readEnds : ∀ p ∈ s.pipes, s.files p.readEnd = some (.readEnd p.handle)
  writeEnds : ∀ t, ∀ p ∈ s.pipes, (s.launcher.phase t).handle? = some p.handle →
    s.files p.writeEnd = some (.writeEnd p.handle)

theorem inv_start (limit : Nat) (occupied : Nat → Bool) :
    Inv limit (start occupied : PipeSystem τ) where
  running := rfl
  launching := HandleSystem.launching_start
  made _ hp := absurd hp List.not_mem_nil
  distinct := List.nodup_nil
  inLimit _ hp := absurd hp List.not_mem_nil
  readEnds _ hp := absurd hp List.not_mem_nil
  writeEnds _ _ hp := absurd hp List.not_mem_nil

/-- Each pipe has a number of its own, below the limit. -/
theorem Inv.length_pipes_le (h : s.Inv limit) : s.pipes.length ≤ limit := by
  have hnodup : (s.pipes.map HandlePipe.readEnd).Nodup := by
    refine List.pairwise_map.mpr ((List.pairwise_map.mp h.distinct).imp_of_mem ?_)
    intro p q hp hq hne heq
    have hopen := h.readEnds p hp
    rw [heq, h.readEnds q hq, Option.some.injEq, FileOwner.readEnd.injEq] at hopen
    exact hne hopen.symm
  have hsub : s.pipes.map HandlePipe.readEnd ⊆ List.range limit := by
    intro n hn
    obtain ⟨p, hp, rfl⟩ := List.mem_map.mp hn
    exact List.mem_range.mpr (h.inLimit p hp)
  simpa using (List.subperm_of_subset hnodup hsub).length_le

theorem pipeOf_eq_some {handle : Nat} {p : HandlePipe} (h : s.pipeOf handle = some p) :
    p ∈ s.pipes ∧ p.handle = handle :=
  ⟨List.mem_of_find?_eq_some h,
    eq_of_beq (List.find?_some (p := fun p : HandlePipe => p.handle == handle) h)⟩

/-- A step that opens and closes nothing, and gives no thread a handle. -/
theorem Inv.of_launcher (h : s.Inv limit) {launcher : HandleSystem τ}
    (hrunning : launcher.shutdown = false) (hl : launcher.Launching)
    (hnext : s.launcher.next ≤ launcher.next)
    (hphase : ∀ t i, (launcher.phase t).handle? = some i → i < s.launcher.next →
      (s.launcher.phase t).handle? = some i) :
    Inv limit { s with launcher := launcher } :=
  { h with
    running := hrunning
    launching := hl
    made := fun p hp => Nat.lt_of_lt_of_le (h.made p hp) hnext
    writeEnds := fun t p hp ht => h.writeEnds t p hp (hphase t _ ht (h.made p hp)) }

/-- The files of other parts of the program come and go. -/
theorem Inv.of_update (h : s.Inv limit) {number : Nat} {owner : Option FileOwner}
    (hfree : s.files number = none ∨ s.files number = some .other) :
    Inv limit { s with files := Function.update s.files number owner } := by
  have hother : ∀ n o, s.files n = some o → o ≠ .other → n ≠ number := by
    rintro n o hn ho rfl
    rcases hfree with hfree | hfree
    · rw [hn] at hfree
      cases hfree
    · exact ho (Option.some.inj (hn.symm.trans hfree))
  refine { h with readEnds := fun p hp => ?_, writeEnds := fun t p hp ht => ?_ }
  · have hopen := h.readEnds p hp
    rw [← hopen]
    exact Function.update_of_ne (hother _ _ hopen (fun hc => by cases hc)) ..
  · have hopen := h.writeEnds t p hp ht
    rw [← hopen]
    exact Function.update_of_ne (hother _ _ hopen (fun hc => by cases hc)) ..

/-- The handle that is made gets the pipe. -/
theorem Inv.openPipe (h : s.Inv limit) {launcher : HandleSystem τ}
    (hrunning : launcher.shutdown = false) (hl : launcher.Launching)
    (hnext : launcher.next = s.launcher.next + 1)
    (hphase : ∀ t i, (launcher.phase t).handle? = some i → i < s.launcher.next →
      (s.launcher.phase t).handle? = some i) {readEnd writeEnd : Nat}
    (hs : s.openPipe limit readEnd writeEnd launcher = some s') : s'.Inv limit := by
  obtain ⟨⟨hread, _, hne, hfreeRead, hfreeWrite⟩, hs⟩ := Option.ite_none_right_eq_some.mp hs
  obtain rfl := Option.some.inj hs
  have hold : ∀ n o, s.files n = some o → Function.update (Function.update s.files readEnd
      (some (.readEnd s.launcher.next))) writeEnd (some (.writeEnd s.launcher.next)) n =
        some o := by
    intro n o hn
    have hr : n ≠ readEnd := by
      rintro rfl
      rw [hn] at hfreeRead
      cases hfreeRead
    have hw : n ≠ writeEnd := by
      rintro rfl
      rw [hn] at hfreeWrite
      cases hfreeWrite
    rw [Function.update_of_ne hw, Function.update_of_ne hr, hn]
  constructor
  · exact hrunning
  · exact hl
  · intro p hp
    rw [hnext]
    rcases List.mem_append.mp hp with hp | hp
    · exact Nat.lt_succ_of_lt (h.made p hp)
    · rw [List.mem_singleton.mp hp]
      exact Nat.lt_succ_self _
  · rw [List.map_append, List.map_singleton, ← List.concat_eq_append, List.nodup_concat]
    refine ⟨fun hmem => ?_, h.distinct⟩
    obtain ⟨p, hp, heq⟩ := List.mem_map.mp hmem
    exact absurd (heq ▸ h.made p hp) (Nat.lt_irrefl _)
  · intro p hp
    rcases List.mem_append.mp hp with hp | hp
    · exact h.inLimit p hp
    · rw [List.mem_singleton.mp hp]
      exact hread
  · intro p hp
    rcases List.mem_append.mp hp with hp | hp
    · exact hold _ _ (h.readEnds p hp)
    · rw [List.mem_singleton.mp hp]
      simp only [Function.update_of_ne hne, Function.update_self]
  · intro t p hp ht
    rcases List.mem_append.mp hp with hp | hp
    · exact hold _ _ (h.writeEnds t p hp (hphase t _ ht (h.made p hp)))
    · rw [List.mem_singleton.mp hp]
      simp only [Function.update_self]

/-- The thread that closes the write end is the only one that has it. -/
theorem Inv.closeWriteEnd (h : s.Inv limit) {t : τ} {i : Nat} {launcher : HandleSystem τ}
    (ht : (s.launcher.phase t).handle? = some i) (hrunning : launcher.shutdown = false)
    (hl : launcher.Launching) (hnext : s.launcher.next ≤ launcher.next)
    (hphase : ∀ t' j, (launcher.phase t').handle? = some j → t' ≠ t ∧
      (s.launcher.phase t').handle? = some j) :
    Inv limit { s with launcher := launcher, files := s.closeWriteEnd i } := by
  have hbase : Inv limit { s with launcher := launcher } :=
    h.of_launcher hrunning hl hnext fun t' j ht' _ => (hphase t' j ht').2
  unfold PipeSystem.closeWriteEnd
  split
  · next p hp =>
    obtain ⟨hmem, rfl⟩ := pipeOf_eq_some hp
    have hopen := h.writeEnds t p hmem ht
    refine { hbase with readEnds := fun q hq => ?_, writeEnds := fun t' q hq ht' => ?_ }
    · have hq' := h.readEnds q hq
      have hne : q.readEnd ≠ p.writeEnd := by
        intro heq
        rw [heq, hopen] at hq'
        cases hq'
      exact (Function.update_of_ne hne ..).trans hq'
    · obtain ⟨hother, ht'⟩ := hphase t' _ ht'
      have hq' := h.writeEnds t' q hq ht'
      have hne : q.writeEnd ≠ p.writeEnd := by
        intro heq
        rw [heq, hopen, Option.some.injEq, FileOwner.writeEnd.injEq] at hq'
        exact hother (h.launching.distinct t' t p.handle (hq' ▸ ht') ht)
      exact (Function.update_of_ne hne ..).trans hq'
  · exact hbase

section Launch

variable [DecidableEq τ]

/-- Which threads have a handle after a step, and where new handles begin. -/
theorem frame {s s' : HandleSystem τ} {a : HandleAction τ} (ha : a ≠ .shutdown)
    (hs : s.step a = some s') : s'.shutdown = s.shutdown ∧ s.next ≤ s'.next ∧
      ∀ t i, (s'.phase t).handle? = some i → i < s.next → (s.phase t).handle? = some i := by
  have hsame : ∀ t phase,
      (∀ i, phase.handle? = some i → i < s.next → (s.phase t).handle? = some i) →
      ∀ t' i, (Function.update s.phase t phase t').handle? = some i → i < s.next →
        (s.phase t').handle? = some i := by
    intro t phase h t' i ht' hi
    rw [Function.update_apply] at ht'
    split at ht'
    · next heq =>
      subst heq
      exact h i ht' hi
    · exact ht'
  have hs := HandleSystem.stepsTo_of_step hs
  cases a with
  | checkDuplicate t call =>
    obtain ⟨_, rfl⟩ := hs
    unfold HandleSystem.checkDuplicate
    split
    · exact ⟨rfl, Nat.le_refl _, fun _ _ ht _ => ht⟩
    · exact ⟨rfl, Nat.le_refl _, hsame t _ fun _ hc => by cases hc⟩
  | pushHandle t =>
    obtain ⟨call, _, rfl⟩ := hs
    refine ⟨rfl, Nat.le_succ _, hsame t (.pushed s.next) fun i hi hlt => ?_⟩
    cases hi
    exact absurd hlt (Nat.lt_irrefl _)
  | fork t forkRt =>
    obtain ⟨i, ht, _, rfl⟩ := hs
    unfold HandleSystem.fork
    split
    · exact ⟨rfl, Nat.le_refl _, hsame t _ fun _ hc => by cases hc⟩
    · refine ⟨rfl, Nat.le_refl _, hsame t (.forked i forkRt) fun j hj _ => ?_⟩
      rw [ht]
      exact hj
  | setRole t =>
    obtain ⟨i, forkRt, _, rfl⟩ := hs
    exact ⟨rfl, Nat.le_refl _, hsame t .idle fun _ hc => by cases hc⟩
  | kill handle signal | close handle signal =>
    obtain ⟨_, rfl⟩ := hs
    obtain ⟨_, hnext, hphase⟩ := HandleSystem.signalChild_rest s handle signal
    rw [hnext, hphase]
    refine ⟨?_, Nat.le_refl _, fun _ _ ht _ => ht⟩
    unfold HandleSystem.signalChild
    split <;> rfl
  | monitor gone =>
    obtain rfl := hs
    exact ⟨rfl, Nat.le_refl _, fun _ _ ht _ => ht⟩
  | shutdown => exact absurd rfl ha

def IsShutdown : PipeAction τ → Prop
  | .launcher .shutdown _ _ => True
  | _ => False

theorem Inv.step {a : PipeAction τ} (h : s.Inv limit) (ha : ¬ IsShutdown a)
    (hs : s.step limit a = some s') : s'.Inv limit := by
  cases a with
  | launcher a readEnd writeEnd =>
    obtain ⟨launcher, hlauncher, hs⟩ := Option.bind_eq_some_iff.mp hs
    have hne : a ≠ .shutdown := by
      rintro rfl
      exact ha trivial
    have hl := (h.launching.step hne hlauncher).launching
    obtain ⟨hshutdown, hnext, hphase⟩ := frame hne hlauncher
    have hrunning := hshutdown.trans h.running
    cases a with
    | pushHandle t =>
      rw [PipeSystem.follow] at hs
      obtain ⟨call, ht, hpushed⟩ := HandleSystem.stepsTo_of_step hlauncher
      rw [ht] at hs
      simp only at hs
      split at hs
      · exact h.openPipe hrunning hl (by rw [hpushed]; rfl) hphase hs
      · obtain rfl := Option.some.inj hs
        exact h.of_launcher hrunning hl hnext hphase
    | setRole t =>
      obtain ⟨i, forkRt, ht, hset⟩ := HandleSystem.stepsTo_of_step hlauncher
      simp only [PipeSystem.follow, ht] at hs
      obtain rfl := Option.some.inj hs
      refine h.closeWriteEnd (t := t) (by rw [ht]; rfl) hrunning hl hnext fun t' j ht' => ?_
      rw [hset, HandleSystem.setRole, HandleSystem.phase_setPhase] at ht'
      split at ht'
      · cases ht'
      · next hne => exact ⟨hne, ht'⟩
    | shutdown => exact absurd rfl hne
    | _ =>
      obtain rfl := Option.some.inj hs
      exact h.of_launcher hrunning hl hnext hphase
  | openFile number =>
    obtain ⟨hc, hs⟩ := Option.ite_none_right_eq_some.mp hs
    obtain rfl := Option.some.inj hs
    exact h.of_update (Or.inl hc.2)
  | closeFile number =>
    obtain ⟨hc, hs⟩ := Option.ite_none_right_eq_some.mp hs
    obtain rfl := Option.some.inj hs
    exact h.of_update (Or.inr hc)

/--
**Each launch with output costs a descriptor for good.**

Until the shutdown the read end of every pipe stays open, whatever children were killed, closed or
found dead. So the program cannot launch more children with output, in all its life, than there are
descriptors.
-/
theorem read_ends_stay_open (limit : Nat) (occupied : Nat → Bool) (actions : List (PipeAction τ))
    (h : AlwaysStep (step limit) (fun _ a => ¬ IsShutdown a) (start occupied) actions) :
    AlwaysState (step limit) (fun s => (∀ p ∈ s.pipes,
      s.files p.readEnd = some (.readEnd p.handle)) ∧ s.pipes.length ≤ limit)
      (start occupied) actions :=
  (alwaysState_of_alwaysStep (Inv limit) (fun _ _ _ h ha hs => h.step ha hs) actions _
    (inv_start limit occupied) h).mono fun _ h => ⟨h.readEnds, h.length_pipes_le⟩

/-- The recorder, and a file that another part of the program opens. -/
def recorderPipe : List (PipeAction Unit) :=
  [.launcher (.checkDuplicate () HandleSystem.recorderLaunch) 0 0, .launcher (.pushHandle ()) 3 4,
    .launcher (.fork () 70) 0 0, .launcher (.setRole ()) 0 0, .openFile 4]

theorem recorderPipe_no_shutdown :
    AlwaysStep (step 8) (fun _ a => ¬ IsShutdown a) (start fun n => decide (n < 3))
      recorderPipe := by
  refine alwaysStep_of_forall fun a ha => ?_
  simp only [recorderPipe, List.mem_cons, List.not_mem_nil, or_false] at ha
  rcases ha with rfl | rfl | rfl | rfl | rfl <;> exact id

theorem recorderPipe_stays_open : AlwaysState (step 8) (fun s => (∀ p ∈ s.pipes,
    s.files p.readEnd = some (.readEnd p.handle)) ∧ s.pipes.length ≤ 8)
    (start fun n => decide (n < 3)) recorderPipe :=
  read_ends_stay_open 8 _ _ recorderPipe_no_shutdown

/-! ## The shutdown -/

theorem closeFile_eq_some {files : Nat → Option FileOwner} {number n : Nat} {o : FileOwner} :
    closeFile files number n = some o ↔ files n = some o ∧ n ≠ number := by
  rw [closeFile, Function.update_apply]
  split
  · next heq => simp [heq]
  · next hne => simp [hne]

omit [DecidableEq τ] in
/-- What is left open by the destructors. -/
theorem foldl_closePipe_eq_some {n : Nat} {o : FileOwner} : ∀ {handles : List Nat}
    {files : Nat → Option FileOwner}, handles.foldl s.closePipe files n = some o ↔
      files n = some o ∧ ∀ i ∈ handles, ∀ p, s.pipeOf i = some p →
        n ≠ p.readEnd ∧ n ≠ p.writeEnd
  | [], files => by simp
  | i :: handles, files => by
    rw [List.foldl_cons, foldl_closePipe_eq_some, List.forall_mem_cons, ← and_assoc]
    refine and_congr_left fun _ => ?_
    cases hp : s.pipeOf i with
    | some p => simp only [closePipe, hp, closeFile_eq_some, and_assoc, Option.some.injEq,
        forall_eq']
    | none => simp [closePipe, hp]

/--
**When the shutdown closes a file of another part of the program.**

After any run before it, the shutdown leaves all of them open exactly when none has the number of
the write end of a child that is still in `m_handles`.
-/
theorem shutdown_spares_iff {occupied : Nat → Bool} {actions : List (PipeAction τ)}
    (h : AlwaysStep (step limit) (fun _ a => ¬ IsShutdown a) (start occupied) actions)
    (hs : runAll (step limit) (start occupied) actions = some s) (readEnd writeEnd : Nat)
    (hs' : s.step limit (.launcher .shutdown readEnd writeEnd) = some s') :
    (∀ n, s.files n = some .other → s'.files n = some .other) ↔
      ∀ i ∈ s.launcher.handles, ∀ p, s.pipeOf i = some p → s.files p.writeEnd ≠ some .other := by
  have hinv : s.Inv limit := (alwaysState_of_alwaysStep (Inv limit)
    (fun _ _ _ h ha hs => h.step ha hs) actions _ (inv_start limit occupied) h).last hs
  obtain rfl := Option.some.inj hs'
  simp only [hinv.running, Bool.false_eq_true, if_false, foldl_closePipe_eq_some]
  constructor
  · intro hspares i hi p hp hother
    exact ((hspares _ hother).2 i hi p hp).2 rfl
  · intro hnumbers n hn
    refine ⟨hn, fun i hi p hp => ⟨?_, ?_⟩⟩
    · rintro rfl
      have hopen := hinv.readEnds p (pipeOf_eq_some hp).1
      rw [hn] at hopen
      cases hopen
    · rintro rfl
      exact hnumbers i hi p hp hn

/-- The recorder's handle closes the number 4 for the second time. -/
theorem recorderPipe_shutdown : ∃ s s',
    runAll (step 8) (start fun n => decide (n < 3)) recorderPipe = some s ∧
      s.step 8 (.launcher .shutdown 0 0) = some s' ∧
      ¬ ∀ n, s.files n = some .other → s'.files n = some .other := by
  refine ⟨_, _, rfl, rfl, ?_⟩
  rw [shutdown_spares_iff recorderPipe_no_shutdown rfl 0 0 rfl]
  exact fun h => h 0 (by decide) ⟨0, 3, 4⟩ (by decide) (by decide)

end Launch

end PipeSystem

end MicroserviceCommon.ProcessLauncher
