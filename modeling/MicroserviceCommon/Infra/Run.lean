import Mathlib.Logic.Basic

/-!
# Runs of a partial step function

A program is a state type `σ`, an action type `α` and `step : σ → α → Option σ`.
`none` means that the action does not return: the process aborted, or the action is not enabled.
A run is the list of actions, and it ends early at the first `none`.

* `AlwaysState` — a property of every state the run reaches
* `AlwaysStep` — a property of every step the run takes, judged on the state before it
* `runFor` — the beginning of a run that has no end
* `peak` — the greatest value a run reaches

`alwaysStep_iff_of_inv`, `alwaysState_iff_of_inv` and `alwaysStep_congr` are the rules the laws
over runs are proved by.
They turn one fact about a single step into an equivalence about whole runs.
-/

namespace Infra

variable {σ α : Type*}

/-- `P` holds in every state of the run, the first and the last included. -/
def AlwaysState (step : σ → α → Option σ) (P : σ → Prop) : σ → List α → Prop
  | s, [] => P s
  | s, a :: as => P s ∧ ∀ s', step s a = some s' → AlwaysState step P s' as

/-- `C` holds of every step the run takes. A step that does not return is not taken. -/
def AlwaysStep (step : σ → α → Option σ) (C : σ → α → Prop) : σ → List α → Prop
  | _, [] => True
  | s, a :: as => ∀ s', step s a = some s' → C s a ∧ AlwaysStep step C s' as

instance decidableAlwaysStep {step : σ → α → Option σ} {C : σ → α → Prop}
    [∀ s a, Decidable (C s a)] : ∀ (s : σ) (as : List α), Decidable (AlwaysStep step C s as)
  | _, [] => isTrue trivial
  | s, a :: as =>
    match h : step s a with
    | none => isTrue fun s' hs => by rw [h] at hs; cases hs
    | some s₁ =>
      have : Decidable (AlwaysStep step C s₁ as) := decidableAlwaysStep s₁ as
      decidable_of_iff (C s a ∧ AlwaysStep step C s₁ as)
        ⟨fun hc s' hs => by rw [h] at hs; cases hs; exact hc, fun hc => hc s₁ h⟩

/-- The state after the whole run, when every step of it returns. -/
def runAll (step : σ → α → Option σ) : σ → List α → Option σ
  | s, [] => some s
  | s, a :: as => (step s a).bind fun s' => runAll step s' as

theorem runAll_append (step : σ → α → Option σ) (s : σ) (as bs : List α) :
    runAll step s (as ++ bs) = (runAll step s as).bind fun s' => runAll step s' bs := by
  induction as generalizing s with
  | nil => rfl
  | cons a as ih =>
    rw [List.cons_append, runAll, runAll, Option.bind_assoc]
    exact congrArg _ (funext fun s' => ih s')

/-- The greatest value of `f` in the states of the run. -/
def peak (step : σ → α → Option σ) (f : σ → Nat) : σ → List α → Nat
  | s, [] => f s
  | s, a :: as => max (f s) ((step s a).elim 0 fun s' => peak step f s' as)

/-- The state after the first `n` actions of an endless sequence. -/
def runFor (step : σ → α → Option σ) (s : σ) (actions : Nat → α) : Nat → Option σ
  | 0 => some s
  | n + 1 => (runFor step s actions n).bind fun s' => step s' (actions n)

/-- The first action apart. -/
theorem runFor_succ' (step : σ → α → Option σ) (s : σ) (actions : Nat → α) (n : Nat) :
    runFor step s actions (n + 1) =
      (step s (actions 0)).bind fun s' => runFor step s' (fun i => actions (i + 1)) n := by
  induction n with
  | zero =>
    rw [runFor, runFor, Option.bind_some]
    cases step s (actions 0) <;> rfl
  | succ n ih =>
    rw [runFor, ih, Option.bind_assoc]
    rfl

section Rules

variable {step : σ → α → Option σ} {Inv P : σ → Prop} {C L : σ → α → Prop}

theorem AlwaysState.head {s : σ} : ∀ {as : List α}, AlwaysState step P s as → P s
  | [], h => h
  | _ :: _, h => h.1

theorem alwaysStep_trivial : ∀ {as : List α} {s : σ}, AlwaysStep step (fun _ _ => True) s as
  | [], _ => trivial
  | _ :: _, _ => fun _ _ => ⟨trivial, alwaysStep_trivial⟩

theorem alwaysStep_of_forall {P : α → Prop} : ∀ {as : List α} {s : σ}, (∀ a ∈ as, P a) →
    AlwaysStep step (fun _ a => P a) s as
  | [], _, _ => trivial
  | a :: _, _, h => fun _ _ => ⟨h a List.mem_cons_self,
      alwaysStep_of_forall fun b hb => h b (List.mem_cons_of_mem _ hb)⟩

theorem alwaysStep_and : ∀ {as : List α} {s : σ}, AlwaysStep step (fun s a => L s a ∧ C s a) s as ↔
    AlwaysStep step L s as ∧ AlwaysStep step C s as
  | [], _ => (and_self_iff (a := True)).symm
  | _ :: _, _ => by
    refine ⟨fun h => ⟨fun s' hs => ?_, fun s' hs => ?_⟩, fun h s' hs => ?_⟩
    · exact ⟨(h s' hs).1.1, (alwaysStep_and.mp (h s' hs).2).1⟩
    · exact ⟨(h s' hs).1.2, (alwaysStep_and.mp (h s' hs).2).2⟩
    · exact ⟨⟨(h.1 s' hs).1, (h.2 s' hs).1⟩, alwaysStep_and.mpr ⟨(h.1 s' hs).2, (h.2 s' hs).2⟩⟩

/-- An invariant of the steps that meet `C` holds along every run whose steps meet `C`. -/
theorem alwaysState_of_alwaysStep (Inv : σ → Prop)
    (hstep : ∀ s a s', Inv s → C s a → step s a = some s' → Inv s') :
    ∀ (as : List α) (s : σ), Inv s → AlwaysStep step C s as → AlwaysState step Inv s as
  | [], _, h, _ => h
  | _ :: as, s, h, hc => ⟨h, fun s' hs =>
      alwaysState_of_alwaysStep Inv hstep as s' (hstep s _ s' h (hc s' hs).1 hs) (hc s' hs).2⟩

theorem AlwaysState.mono {Q : σ → Prop} (h : ∀ s, P s → Q s) :
    ∀ {as : List α} {s : σ}, AlwaysState step P s as → AlwaysState step Q s as
  | [], _, hp => h _ hp
  | _ :: _, _, hp => ⟨h _ hp.1, fun s' hs => AlwaysState.mono h (hp.2 s' hs)⟩

/--
**One step decides whole runs.**

`Inv` is kept by the steps that meet `C`. Under `Inv` a step meets `C` exactly when
the law `L` holds of it and `P` holds in the state after it.
Then a run obeys `L` and `P` throughout exactly when all its steps meet `C`.
-/
theorem alwaysStep_iff_of_inv (step : σ → α → Option σ) (Inv : σ → Prop)
    (hp : ∀ s, Inv s → P s)
    (hinv : ∀ s a s', Inv s → C s a → step s a = some s' → Inv s')
    (hiff : ∀ s a s', Inv s → step s a = some s' → L s a → P s' → C s a)
    (hlaw : ∀ s a s', Inv s → step s a = some s' → C s a → L s a) :
    ∀ (as : List α) (s : σ), Inv s →
      (AlwaysState step P s as ∧ AlwaysStep step L s as ↔ AlwaysStep step C s as) := by
  intro as
  induction as with
  | nil => exact fun s h => ⟨fun _ => trivial, fun _ => ⟨hp s h, trivial⟩⟩
  | cons a as ih =>
    intro s h
    constructor
    · rintro ⟨⟨_, hstates⟩, hsteps⟩ s' hs
      -- the state after the step satisfies `P`, because the rest of the run starts there
      have hc : C s a := hiff s a s' h hs (hsteps s' hs).1 (hstates s' hs).head
      exact ⟨hc, (ih s' (hinv s a s' h hc hs)).mp ⟨hstates s' hs, (hsteps s' hs).2⟩⟩
    · intro hc
      refine ⟨⟨hp s h, fun s' hs => ?_⟩, fun s' hs => ?_⟩
      · exact ((ih s' (hinv s a s' h (hc s' hs).1 hs)).mpr (hc s' hs).2).1
      · exact ⟨hlaw s a s' h hs (hc s' hs).1,
          ((ih s' (hinv s a s' h (hc s' hs).1 hs)).mpr (hc s' hs).2).2⟩

/--
**One step decides the states of whole runs.**

`Inv` implies `P` and is kept by the steps that meet `C`. Only these lead to a state with `P`.
-/
theorem alwaysState_iff_of_inv (step : σ → α → Option σ) (Inv : σ → Prop)
    (hp : ∀ s, Inv s → P s)
    (hinv : ∀ s a s', Inv s → C s a → step s a = some s' → Inv s')
    (honly : ∀ s a s', Inv s → step s a = some s' → P s' → C s a) (as : List α) (s : σ)
    (h : Inv s) : AlwaysState step P s as ↔ AlwaysStep step C s as := by
  have hiff := alwaysStep_iff_of_inv (L := fun _ _ => True) step Inv hp hinv
    (fun s a s' h hs _ hp => honly s a s' h hs hp) (fun _ _ _ _ _ _ => trivial) as s h
  rwa [and_iff_left alwaysStep_trivial] at hiff

/-- **Laws that agree on the steps from invariant states agree on runs.** -/
theorem alwaysStep_congr (hinv : ∀ s a s', Inv s → step s a = some s' → Inv s')
    (h : ∀ s a s', Inv s → step s a = some s' → (L s a ↔ C s a)) :
    ∀ (as : List α) (s : σ), Inv s → (AlwaysStep step L s as ↔ AlwaysStep step C s as)
  | [], _, _ => Iff.rfl
  | _ :: as, s, hs => forall_congr' fun s' => imp_congr_right fun hstep =>
      and_congr (h s _ s' hs hstep) (alwaysStep_congr hinv h as s' (hinv s _ s' hs hstep))

/-- Properties of all reached states hold in the last one. -/
theorem AlwaysState.last :
    ∀ {as : List α} {s s' : σ}, AlwaysState step P s as → runAll step s as = some s' → P s'
  | [], _, _, h, hs => Option.some.inj hs ▸ h
  | a :: as, s, s', h, hs => by
    rw [runAll, Option.bind_eq_some_iff] at hs
    obtain ⟨s₁, h₁, h₂⟩ := hs
    exact AlwaysState.last (h.2 s₁ h₁) h₂

/-- What holds along a run holds along the rest of it. -/
theorem AlwaysState.of_append {bs : List α} :
    ∀ {as : List α} {s s' : σ}, AlwaysState step P s (as ++ bs) → runAll step s as = some s' →
      AlwaysState step P s' bs
  | [], _, _, h, hs => Option.some.inj hs ▸ h
  | a :: as, s, s', h, hs => by
    rw [runAll, Option.bind_eq_some_iff] at hs
    obtain ⟨s₁, h₁, h₂⟩ := hs
    exact AlwaysState.of_append (h.2 s₁ h₁) h₂

/-- What every step keeps holds at the end of the run. -/
theorem of_runAll (P : σ → Prop) (hstep : ∀ s a s', P s → step s a = some s' → P s') :
    ∀ {as : List α} {s s' : σ}, P s → runAll step s as = some s' → P s'
  | [], _, _, h, hs => Option.some.inj hs ▸ h
  | a :: as, s, s', h, hs => by
    rw [runAll, Option.bind_eq_some_iff] at hs
    obtain ⟨s₁, h₁, h₂⟩ := hs
    exact of_runAll P hstep (hstep s a s₁ h h₁) h₂

/-- **Every run of a machine whose steps all return simulates the run of a simpler one.** -/
theorem runAll_simulates {τ : Type*} {next : τ → α → τ} (R : σ → τ → Prop)
    (h : ∀ s t a, R s t → ∃ s', step s a = some s' ∧ R s' (next t a)) :
    ∀ (as : List α) {s : σ} {t : τ}, R s t →
      ∃ s', runAll step s as = some s' ∧ R s' (as.foldl next t)
  | [], s, _, hr => ⟨s, rfl, hr⟩
  | a :: as, s, t, hr => by
    obtain ⟨s₁, h₁, hr₁⟩ := h s t a hr
    obtain ⟨s', h', hr'⟩ := runAll_simulates R h as hr₁
    exact ⟨s', by rw [runAll, h₁]; exact h', hr'⟩

/-- **A size that follows every rise of `f` and no fall is the peak of `f`.** -/
theorem size_eq_peak (size f : σ → Nat) (h : ∀ s a s', step s a = some s' →
    size s' = max (size s) (f s')) : ∀ {as : List α} {s s' : σ}, f s ≤ size s →
      runAll step s as = some s' → size s' = max (size s) (peak step f s as)
  | [], s, s', hf, hs => by
    obtain rfl := Option.some.inj hs
    exact (Nat.max_eq_left hf).symm
  | a :: as, s, s', hf, hs => by
    rw [runAll, Option.bind_eq_some_iff] at hs
    obtain ⟨s₁, h₁, h₂⟩ := hs
    have hsize := h s a s₁ h₁
    have hpeak : f s₁ ≤ peak step f s₁ as := by
      cases as with
      | nil => exact Nat.le_refl _
      | cons b bs => exact Nat.le_max_left _ _
    rw [size_eq_peak size f h (by omega) h₂, peak, h₁, Option.elim_some]
    omega

/--
**What one bad step leaves behind stays.**

`Good` is kept by the steps that meet `C`. Any other step leads to a `Bad` state, and no step leads
out of these. Then the end of a run tells whether all its steps met `C`.
-/
theorem alwaysStep_or_of_runAll (Inv Good Bad : σ → Prop)
    (hinv : ∀ s a s', Inv s → step s a = some s' → Inv s')
    (hgood : ∀ s a s', Inv s → Good s → C s a → step s a = some s' → Good s')
    (hbad : ∀ s a s', Inv s → Bad s → step s a = some s' → Bad s')
    (hleave : ∀ s a s', Inv s → ¬ C s a → step s a = some s' → Bad s') :
    ∀ (as : List α) (s s' : σ), Inv s → Good s → runAll step s as = some s' →
      AlwaysStep step C s as ∧ Good s' ∨ ¬ AlwaysStep step C s as ∧ Bad s' := by
  intro as
  induction as with
  | nil =>
    rintro s s' _ hg hs
    cases hs
    exact Or.inl ⟨trivial, hg⟩
  | cons a as ih =>
    intro s s' h hg hs
    rw [runAll, Option.bind_eq_some_iff] at hs
    obtain ⟨s₁, h₁, h₂⟩ := hs
    by_cases hc : C s a
    · refine (ih s₁ s' (hinv s a s₁ h h₁) (hgood s a s₁ h hg hc h₁) h₂).imp ?_ ?_
      · rintro ⟨hrest, hend⟩
        refine ⟨fun s₂ hs₂ => ?_, hend⟩
        rw [h₁] at hs₂
        cases hs₂
        exact ⟨hc, hrest⟩
      · rintro ⟨hrest, hend⟩
        exact ⟨fun hall => hrest (hall s₁ h₁).2, hend⟩
    · refine Or.inr ⟨fun hall => hc (hall s₁ h₁).1, ?_⟩
      have hboth : Inv s' ∧ Bad s' := of_runAll (fun s => Inv s ∧ Bad s)
        (fun s a s' hs hstep => ⟨hinv s a s' hs.1 hstep, hbad s a s' hs.1 hs.2 hstep⟩)
        ⟨hinv s a s₁ h h₁, hleave s a s₁ h hc h₁⟩ h₂
      exact hboth.2

end Rules

end Infra
