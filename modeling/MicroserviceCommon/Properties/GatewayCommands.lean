import Mathlib.Logic.Nontrivial.Basic
import MicroserviceCommon.Communication.GatewayCommands
import MicroserviceCommon.Infra.Run

/-!
# Who may take commands

`isCommandAvailable` and `nextIncomingCommand` lock the queue one after the other, so what the first
says may be over before the second is called.

* `commands_taken_iff` — the answer of the first is good for one thread only
-/

namespace MicroserviceCommon

open Infra

namespace CommandThreads

variable {ι γ : Type*} [DecidableEq ι] {s s' : CommandThreads ι γ}

/-- Every command is taken once, in the order it was made, and `front` finds one. -/
def Served (s : CommandThreads ι γ) : Prop :=
  s.undefined = false ∧ s.taken ++ s.queue.arrivedCommands = s.created

/-- A thread that was told that there is a command will find one. -/
structure Inv (s : CommandThreads ι γ) : Prop where
  served : s.Served
  available : ∀ i, s.available i = true → s.queue.isCommandAvailable = true

theorem isCommandAvailable_callback {q : CommandQueue γ} (command : Option γ)
    (h : q.isCommandAvailable = true) :
    (q.callbackNetworkRequest id command).isCommandAvailable = true := by
  cases command with
  | none => exact h
  | some command => simp [CommandQueue.callbackNetworkRequest, CommandQueue.isCommandAvailable]

/-- Only one thread asks and takes. -/
theorem Inv.step [Subsingleton ι] {a : CommandAction ι γ} (h : Inv s)
    (hs : s.step a = some s') : Inv s' := by
  obtain ⟨hundefined, horder⟩ := h.served
  cases a with
  | arrive command =>
    obtain rfl := Option.some.inj hs
    refine ⟨⟨hundefined, ?_⟩, fun i hi => isCommandAvailable_callback command (h.available i hi)⟩
    simp only [CommandQueue.arrivedCommands_callback, id_eq]
    rw [← List.append_assoc, horder]
  | check i =>
    obtain rfl := Option.some.inj hs
    refine ⟨h.served, fun j hj => ?_⟩
    obtain rfl := Subsingleton.elim j i
    simpa only [Function.update_self] using hj
  | take i =>
    obtain ⟨havailable, hs⟩ := Option.ite_none_right_eq_some.mp hs
    have hsome := h.available i havailable
    split at hs
    · next command queue hnext =>
      obtain rfl := Option.some.inj hs
      refine ⟨⟨hundefined, ?_⟩, fun j hj => ?_⟩
      · rw [← horder, CommandQueue.nextIncomingCommand_eq_some hnext]
        simp
      · obtain rfl := Subsingleton.elim j i
        simp only [Function.update_self] at hj
        cases hj
    · next hnone =>
      rw [CommandQueue.nextIncomingCommand] at hnone
      split at hnone
      · next hempty => simp [CommandQueue.isCommandAvailable, hempty] at hsome
      · cases hnone

/-- One command, and two threads that are told so. -/
theorem exists_undefined [Inhabited γ] {i j : ι} (h : i ≠ j) :
    ∃ s, runAll step ({} : CommandThreads ι γ)
      [.arrive (some default), .check i, .check j, .take i, .take j] = some s ∧
        s.undefined = true := by
  simp [runAll, step, CommandQueue.callbackNetworkRequest, CommandQueue.isCommandAvailable,
    CommandQueue.nextIncomingCommand, Function.update_of_ne h, Function.update_of_ne h.symm]

/--
**One thread may take commands.**

Requests may come from any number of threads. Every command is taken once, in the order it was
made, and `front` is never called on an empty queue, in all runs, exactly when at most one thread
takes commands.
-/
theorem commands_taken_iff [Inhabited γ] :
    (∀ as : List (CommandAction ι γ), AlwaysState step Served {} as) ↔ Subsingleton ι := by
  constructor
  · intro h
    rw [← not_nontrivial_iff_subsingleton]
    rintro ⟨i, j, hne⟩
    obtain ⟨s, hs, hundefined⟩ := exists_undefined (γ := γ) hne
    have hserved := (h _).last hs
    rw [hserved.1] at hundefined
    cases hundefined
  · intro _ as
    refine (alwaysState_of_alwaysStep (C := fun _ _ => True) Inv (fun _ _ _ h _ hs => h.step hs) as
      {} ⟨⟨rfl, rfl⟩, fun i hi => ?_⟩ alwaysStep_trivial).mono fun _ h => h.served
    cases hi

end CommandThreads

end MicroserviceCommon
