import MicroserviceCommon.Properties.LostWakeups

/-!
# A service with clients is not shut down

The inner loop of `threadDumpToDatabase` asks for clients only, and the wait is not notified of a
shutdown.

* `shutdown_leaves_iff` — the thread leaves exactly when the flag is raised outside of the block and
  of the loop over the clients, or while there are none and none is added
-/

namespace MicroserviceCommon.ThreadedMultitaskService

open Infra

variable {κ τ : Type*}

abbrev ServiceState (κ τ : Type*) := WaitSystem (TaskClients κ) TaskSection τ

/-- After the flag was raised the thread ends, whatever clients there are. -/
def Leaves [DecidableEq τ] (s : ServiceState κ τ) : Prop :=
  s.data.shutdownCalled = true → (threadDumpToDatabase κ τ).Exits s

/-- After the flag was raised no pass over the clients is begun. -/
def NoFurtherPass (s : ServiceState κ τ) : WaitAction Unit τ (ServiceCall κ) → Prop
  | .work input => s.data.shutdownCalled = true → ∀ s',
      (threadDumpToDatabase κ τ).work s input = some s' → s'.phase ≠ .body .runClients
  | .wakeUp | .call _ _ | .notify _ => True

/-- The thread is in the loop over the clients, or goes there. -/
def isInLoop : WaitPhase TaskSection → Bool
  | .body _ => true
  | .loopHead | .readsFound | .readsFlag | .blocking | .blocked | .wokenUp | .exited => false

/-- The thread is not at the block, nor in the loop with clients. -/
structure MayShutDown (s : ServiceState κ τ) : Prop where
  not_blocking : s.phase ≠ .blocking
  not_blocked : s.phase ≠ .blocked
  loop : isInLoop s.phase = true → s.data.isClientExists = false

/-- The flag is raised at a good time, and no client is added behind it to the loop. -/
def RaisedInTime (s : ServiceState κ τ) : WaitAction Unit τ (ServiceCall κ) → Prop
  | .call _ .shutdown => MayShutDown s
  | .call _ (.addRunnableClient (some _)) =>
      s.data.shutdownCalled = true → isInLoop s.phase = false
  | _ => True

variable {s s' : ServiceState κ τ}

/-! ## The thread under the flag -/

theorem mayShutDown_of_isOutside (h : WaitProgram.isOutside s.phase = true) : MayShutDown s := by
  constructor
  · intro hphase
    rw [hphase] at h
    cases h
  · intro hphase
    rw [hphase] at h
    cases h
  · intro hloop
    cases hphase : s.phase with
    | body b => rw [hphase] at h; cases h
    | _ => rw [hphase] at hloop; cases hloop

/-- One step, and the thread is out of the loop over the clients. -/
theorem work_of_mayShutDown (hflag : s.data.shutdownCalled = true) (h : MayShutDown s)
    {input : Unit} (hs : (threadDumpToDatabase κ τ).work s input = some s') :
    WaitProgram.isOutside s'.phase = true ∧ s'.data = s.data := by
  unfold WaitProgram.work at hs
  cases hphase : s.phase with
  | loopHead =>
    rw [hphase] at hs
    cases hs
    exact ⟨congrArg WaitProgram.isOutside (if_pos hflag), rfl⟩
  | readsFound =>
    rw [hphase] at hs
    cases hs
    refine ⟨?_, rfl⟩
    dsimp only
    split <;> rfl
  | readsFlag =>
    rw [hphase] at hs
    cases hs
    exact ⟨congrArg WaitProgram.isOutside (if_pos hflag), rfl⟩
  | blocking => exact absurd hphase h.not_blocking
  | wokenUp =>
    rw [hphase] at hs
    cases hs
    exact ⟨congrArg WaitProgram.isOutside (if_pos hflag), rfl⟩
  | body b =>
    -- without clients both sections lead back to the head of the outer loop
    have hnone := h.loop (by rw [hphase]; rfl)
    rw [hphase] at hs
    obtain ⟨r, hr, rfl⟩ := Option.map_eq_some_iff.mp hs
    cases hr
    refine ⟨?_, rfl⟩
    rw [taskLoop, hnone]
    rfl
  | blocked | exited => rw [hphase] at hs; cases hs

/-- The thread reads only. -/
theorem data_work {input : Unit} (hs : (threadDumpToDatabase κ τ).work s input = some s') :
    s'.data = s.data := by
  unfold WaitProgram.work at hs
  split at hs
  case h_7 =>
    obtain ⟨r, hr, rfl⟩ := Option.map_eq_some_iff.mp hs
    cases hr
    rfl
  all_goals cases hs <;> rfl

/-- A notification moves a blocked thread only. -/
theorem mayShutDown_wake (h : MayShutDown s) (notifying : τ → Bool) :
    MayShutDown { s with phase := WaitProgram.wake s.phase, notifying := notifying } := by
  have hwake : WaitProgram.wake s.phase = s.phase := by
    unfold WaitProgram.wake
    split
    · next hblocked => exact absurd hblocked h.not_blocked
    · rfl
  rw [hwake]
  exact ⟨h.not_blocking, h.not_blocked, h.loop⟩

/-- **From such a state the thread begins no pass.** -/
theorem noFurtherPass (h : s.data.shutdownCalled = true → MayShutDown s)
    (a : WaitAction Unit τ (ServiceCall κ)) : NoFurtherPass s a := by
  cases a with
  | work input =>
    intro hflag s' hs hphase
    have houtside := (work_of_mayShutDown hflag (h hflag) hs).1
    rw [hphase] at houtside
    cases houtside
  | wakeUp | call _ _ | notify _ => exact trivial

variable [DecidableEq τ]

theorem exits_of_mayShutDown (hflag : s.data.shutdownCalled = true) (h : MayShutDown s) :
    (threadDumpToDatabase κ τ).Exits s := by
  cases hphase : s.phase with
  | body b =>
    have hwork : (threadDumpToDatabase κ τ).work s () =
        some { s with phase := (taskLoop s.data).2.elim .loopHead .body } := by
      rw [WaitProgram.work, hphase]
      rfl
    obtain ⟨houtside, hdata⟩ := work_of_mayShutDown hflag h hwork
    exact WaitProgram.exits_of_work () _ hwork (WaitProgram.exits_of_flag hflag houtside)
  | blocking => exact absurd hphase h.not_blocking
  | blocked => exact absurd hphase h.not_blocked
  | _ => exact WaitProgram.exits_of_flag hflag (by rw [hphase]; rfl)

/-- A blocked thread stays blocked. -/
theorem not_exits_of_blocked (h : s.phase = .blocking ∨ s.phase = .blocked) :
    ¬ (threadDumpToDatabase κ τ).Exits s := by
  refine WaitProgram.not_exits_of_inv (fun s => s.phase = .blocking ∨ s.phase = .blocked)
    (fun s h hexited => ?_) (fun s input s' h hs => ?_) h
  · rw [hexited] at h
    rcases h with h | h <;> cases h
  · rcases h with hphase | hphase
    · rw [WaitProgram.work, hphase] at hs
      cases hs
      exact Or.inr rfl
    · rw [WaitProgram.work, hphase] at hs
      cases hs

/-- A thread with clients passes over them for ever. -/
theorem not_exits_of_clients (hloop : isInLoop s.phase = true)
    (hclients : s.data.isClientExists = true) : ¬ (threadDumpToDatabase κ τ).Exits s := by
  refine WaitProgram.not_exits_of_inv
    (fun s => isInLoop s.phase = true ∧ s.data.isClientExists = true)
    (fun s h hexited => ?_) (fun s input s' h hs => ?_) ⟨hloop, hclients⟩
  · rw [hexited] at h
    cases h.1
  · cases hphase : s.phase with
    | body b =>
      rw [WaitProgram.work, hphase] at hs
      obtain ⟨r, hr, rfl⟩ := Option.map_eq_some_iff.mp hs
      cases hr
      refine ⟨?_, h.2⟩
      rw [taskLoop, h.2]
      rfl
    | _ => rw [hphase] at h; cases h.1

/-- **Under the flag the thread leaves exactly from such a state.** -/
theorem leaves_iff : Leaves s ↔ (s.data.shutdownCalled = true → MayShutDown s) := by
  refine imp_congr_right fun hflag => ⟨fun h => ⟨fun hphase => ?_, fun hphase => ?_,
    fun hloop => ?_⟩, exits_of_mayShutDown hflag⟩
  · exact not_exits_of_blocked (Or.inl hphase) h
  · exact not_exits_of_blocked (Or.inr hphase) h
  · exact Bool.eq_false_of_not_eq_true fun hclients => not_exits_of_clients hloop hclients h

/-! ## Runs -/

/-- The thread and the quiet calls keep what `Leaves` says. -/
theorem mayShutDown_call {t : τ} {c : ServiceCall κ}
    (h : s.data.shutdownCalled = true → MayShutDown s) (hc : RaisedInTime s (.call t c))
    (hs : (threadDumpToDatabase κ τ).step s (.call t c) = some s') :
    s'.data.shutdownCalled = true → MayShutDown s' := by
  obtain ⟨_, hs⟩ := Option.ite_none_left_eq_some.mp hs
  obtain ⟨d, hd, rfl⟩ := Option.map_eq_some_iff.mp hs
  cases c with
  | addRunnableClient client =>
    cases client with
    | none =>
      cases hd
      exact fun hflag => ⟨(h hflag).not_blocking, (h hflag).not_blocked, (h hflag).loop⟩
    | some client =>
      cases hd
      exact fun hflag => ⟨(h hflag).not_blocking, (h hflag).not_blocked,
        fun hloop => absurd (hc hflag) (Bool.not_eq_false _ ▸ hloop)⟩
  | removeDumpToDatabaseClient id =>
    cases hd
    intro hflag
    have hbefore : s.data.shutdownCalled = true := by
      rw [← s.data.shutdownCalled_removeRunnableClient id]
      exact hflag
    refine ⟨(h hbefore).not_blocking, (h hbefore).not_blocked, fun hloop => ?_⟩
    refine Bool.eq_false_of_not_eq_true fun hclients => ?_
    have hsome := s.data.isClientExists_of_removeRunnableClient hclients
    rw [(h hbefore).loop hloop] at hsome
    cases hsome
  | shutdown =>
    cases hd
    exact fun _ => ⟨hc.not_blocking, hc.not_blocked, hc.loop⟩

theorem mayShutDown_step {a : WaitAction Unit τ (ServiceCall κ)}
    (h : s.data.shutdownCalled = true → MayShutDown s) (hc : RaisedInTime s a)
    (hs : (threadDumpToDatabase κ τ).step s a = some s') :
    s'.data.shutdownCalled = true → MayShutDown s' := by
  cases a with
  | work input =>
    intro hflag
    rw [data_work hs] at hflag
    exact mayShutDown_of_isOutside (work_of_mayShutDown hflag (h hflag) hs).1
  | wakeUp =>
    obtain ⟨_, hs⟩ := Option.ite_none_right_eq_some.mp hs
    cases hs
    exact fun hflag => mayShutDown_wake (h hflag) s.notifying
  | call t c => exact mayShutDown_call h hc hs
  | notify t =>
    obtain ⟨_, hs⟩ := Option.ite_none_right_eq_some.mp hs
    cases hs
    exact fun hflag => mayShutDown_wake (h hflag) _

theorem raisedInTime_of_leaves {a : WaitAction Unit τ (ServiceCall κ)}
    (hs : (threadDumpToDatabase κ τ).step s a = some s') (h' : Leaves s') : RaisedInTime s a := by
  cases a with
  | call t c =>
    obtain ⟨_, hs⟩ := Option.ite_none_left_eq_some.mp hs
    obtain ⟨d, hd, rfl⟩ := Option.map_eq_some_iff.mp hs
    cases c with
    | addRunnableClient client =>
      cases client with
      | none => exact trivial
      | some client =>
        cases hd
        intro hflag
        -- the new client keeps the thread in the loop
        refine Bool.eq_false_of_not_eq_true fun hloop => ?_
        have hnone := (leaves_iff.mp h' hflag).loop hloop
        rw [s.data.isClientExists_addRunnableClient client] at hnone
        cases hnone
    | removeDumpToDatabaseClient id => exact trivial
    | shutdown =>
      cases hd
      have hmay := leaves_iff.mp h' rfl
      exact ⟨hmay.not_blocking, hmay.not_blocked, hmay.loop⟩
  | work _ | wakeUp | notify _ => exact trivial

/--
**The shutdown gets through exactly when the flag is raised in time.**

In every state after that the thread ends if it goes on alone, and it begins no pass over the
clients.
-/
theorem shutdown_leaves_iff (actions : List (WaitAction Unit τ (ServiceCall κ))) :
    AlwaysState (threadDumpToDatabase κ τ).step Leaves { data := {} } actions ∧
        AlwaysStep (threadDumpToDatabase κ τ).step NoFurtherPass { data := {} } actions ↔
      AlwaysStep (threadDumpToDatabase κ τ).step RaisedInTime { data := {} } actions :=
  alwaysStep_iff_of_inv (threadDumpToDatabase κ τ).step
    (fun s => s.data.shutdownCalled = true → MayShutDown s) (fun _ h => leaves_iff.mpr h)
    (fun _ _ _ h hc hs => mayShutDown_step h hc hs)
    (fun _ _ _ _ hs _ h' => raisedInTime_of_leaves hs h')
    (fun _ a _ h _ _ => noFurtherPass h a) actions { data := {} } fun hflag => (nomatch hflag)

/-- The thread has come to the loop over the one client when the flag is raised. -/
def busyRun : List (WaitAction Unit Unit (ServiceCall Unit)) :=
  [.call () (.addRunnableClient (some ())), .work (), .work (), .work (), .work (),
    .call () .shutdown, .work ()]

theorem busyRun_passes :
    ¬ (AlwaysState (threadDumpToDatabase Unit Unit).step Leaves { data := {} } busyRun ∧
      AlwaysStep (threadDumpToDatabase Unit Unit).step NoFurtherPass { data := {} } busyRun) := by
  rintro ⟨_, hlaw⟩
  have hlast := (((((((hlaw _ rfl).2 _ rfl).2 _ rfl).2 _ rfl).2 _ rfl).2 _ rfl).2 _ rfl).1
  exact hlast rfl _ rfl rfl

end MicroserviceCommon.ThreadedMultitaskService
