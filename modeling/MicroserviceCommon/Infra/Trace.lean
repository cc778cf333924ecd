import Mathlib.Data.List.Induction

/-!
# Traces

A trace is the list of the events of a run. Two relations between two events `a` and `b`:

* `Pending` — `a` happened and `b` has not happened since
* `Separated` — between any two occurrences of `a` there is one of `b`
* `Before` — a property of what comes before each `a`
* `NeverAfter` — no `b` comes after an `a`
* `Blocks` — a property of what comes before and inside of each block from an `a` to the next `b`

A trace grows at its end, so the lemmas say what one more event or one more block of events changes.
-/

namespace Infra.Trace

variable {ε : Type*} {a b e : ε} {t u : List ε}

def Pending (a b : ε) (t : List ε) : Prop := ∃ pre post, t = pre ++ a :: post ∧ b ∉ post

def Separated (a b : ε) (t : List ε) : Prop :=
  ∀ pre mid post, t = pre ++ a :: mid ++ a :: post → b ∈ mid

def Before (a : ε) (P : List ε → Prop) (t : List ε) : Prop :=
  ∀ pre post, t = pre ++ a :: post → P pre

def NeverAfter (a b : ε) (t : List ε) : Prop := ∀ pre post, t = pre ++ a :: post → b ∉ post

def Blocks (a b : ε) (P : List ε → List ε → Prop) (t : List ε) : Prop :=
  ∀ pre mid post, t = pre ++ a :: (mid ++ b :: post) → a ∉ mid → b ∉ mid → P pre mid

theorem not_pending_nil : ¬ Pending a b [] := by
  rintro ⟨pre, post, h, _⟩
  simp at h

theorem separated_nil : Separated a b [] := by
  intro pre mid post h
  simp at h

/-! ## One more event -/

theorem pending_concat : Pending a b (t ++ [e]) ↔ e = a ∨ Pending a b t ∧ e ≠ b := by
  constructor
  · rintro ⟨pre, post, h, hb⟩
    rcases List.eq_nil_or_concat post with rfl | ⟨post, x, rfl⟩
    · exact Or.inl (List.append_inj_right' h rfl |> List.singleton_inj.mp)
    · rw [List.concat_eq_append] at h hb
      rw [← List.cons_append, ← List.append_assoc] at h
      obtain ⟨rfl, hx⟩ := List.append_inj' h rfl
      cases hx
      rw [List.mem_append, not_or] at hb
      exact Or.inr ⟨⟨pre, post, rfl, hb.1⟩, fun he => hb.2 (he ▸ List.mem_singleton_self _)⟩
  · rintro (rfl | ⟨⟨pre, post, rfl, hb⟩, he⟩)
    · exact ⟨t, [], rfl, List.not_mem_nil⟩
    · refine ⟨pre, post ++ [e], by simp, ?_⟩
      rw [List.mem_append, not_or]
      exact ⟨hb, fun h => he (List.mem_singleton.mp h).symm⟩

/-- Only an `a` that is pending may not be repeated. -/
theorem separated_concat :
    Separated a b (t ++ [e]) ↔ Separated a b t ∧ (e = a → ¬ Pending a b t) := by
  constructor
  · intro h
    constructor
    · rintro pre mid post rfl
      exact h pre mid (post ++ [e]) (by simp)
    · rintro rfl ⟨pre, post, rfl, hb⟩
      exact hb (h pre post [] rfl)
  · rintro ⟨h, he⟩ pre mid post heq
    rcases List.eq_nil_or_concat post with rfl | ⟨post, x, rfl⟩
    · -- the second occurrence is the new event
      obtain ⟨rfl, hx⟩ := List.append_inj' heq rfl
      by_contra hb
      exact he (List.singleton_inj.mp hx) ⟨pre, mid, rfl, hb⟩
    · rw [List.concat_eq_append, ← List.cons_append, ← List.append_assoc] at heq
      exact h pre mid post (List.append_inj' heq rfl).1

theorem concat_eq_split {pre post : List ε} : t ++ [e] = pre ++ a :: post ↔
    (t = pre ∧ e = a ∧ post = []) ∨ ∃ post', post = post' ++ [e] ∧ t = pre ++ a :: post' := by
  constructor
  · intro h
    rcases List.eq_nil_or_concat post with rfl | ⟨post', x, rfl⟩
    · obtain ⟨rfl, hx⟩ := List.append_inj' h rfl
      exact Or.inl ⟨rfl, List.singleton_inj.mp hx, rfl⟩
    · rw [List.concat_eq_append, ← List.cons_append, ← List.append_assoc] at h
      obtain ⟨rfl, hx⟩ := List.append_inj' h rfl
      cases hx
      exact Or.inr ⟨post', List.concat_eq_append, rfl⟩
  · rintro (⟨rfl, rfl, rfl⟩ | ⟨post', rfl, rfl⟩)
    · rfl
    · simp

theorem before_concat {P : List ε → Prop} :
    Before a P (t ++ [e]) ↔ Before a P t ∧ (e = a → P t) := by
  constructor
  · intro h
    refine ⟨fun pre post ht => h pre (post ++ [e]) (by simp [ht]), ?_⟩
    rintro rfl
    exact h t [] rfl
  · rintro ⟨h, he⟩ pre post ht
    rcases concat_eq_split.mp ht with ⟨rfl, ha, rfl⟩ | ⟨post', rfl, ht'⟩
    · exact he ha
    · exact h pre post' ht'

theorem neverAfter_concat : NeverAfter a b (t ++ [e]) ↔ NeverAfter a b t ∧ (e = b → a ∉ t) := by
  constructor
  · intro h
    refine ⟨fun pre post ht hb => h pre (post ++ [e]) (by simp [ht])
      (List.mem_append_left _ hb), ?_⟩
    rintro rfl ha
    obtain ⟨pre, post, rfl⟩ := List.append_of_mem ha
    exact h pre (post ++ [e]) (by simp) (by simp)
  · rintro ⟨h, he⟩ pre post ht hb
    rcases concat_eq_split.mp ht with ⟨rfl, ha, rfl⟩ | ⟨post', rfl, rfl⟩
    · cases hb
    · rcases List.mem_append.mp hb with hb | hb
      · exact h pre post' rfl hb
      · exact he (List.mem_singleton.mp hb).symm (by simp)

theorem blocks_concat {P : List ε → List ε → Prop} : Blocks a b P (t ++ [e]) ↔ Blocks a b P t ∧
    (e = b → ∀ pre mid, t = pre ++ a :: mid → a ∉ mid → b ∉ mid → P pre mid) := by
  constructor
  · intro h
    refine ⟨fun pre mid post ht => h pre mid (post ++ [e]) (by simp [ht]), ?_⟩
    rintro rfl pre mid ht
    exact h pre mid [] (by simp [ht])
  · rintro ⟨h, he⟩ pre mid post ht ha hb
    have hsplit : t ++ [e] = (pre ++ a :: mid) ++ b :: post := by simp [ht]
    rcases concat_eq_split.mp hsplit with ⟨rfl, heb, rfl⟩ | ⟨post', rfl, rfl⟩
    · exact he heb pre mid rfl ha hb
    · exact h pre mid post' (by simp) ha hb

/-- The last `a` of a trace is at one place. -/
theorem split_unique {pre pre' mid mid' : List ε} (h : pre ++ a :: mid = pre' ++ a :: mid')
    (hm : a ∉ mid) (hm' : a ∉ mid') : pre = pre' ∧ mid = mid' := by
  rcases List.append_eq_append_iff.mp h with ⟨u, rfl, hu⟩ | ⟨u, rfl, hu⟩ <;> cases u with
  | nil => exact ⟨by simp, by simpa [eq_comm] using hu⟩
  | cons x u =>
    rw [List.cons_append, List.cons.injEq] at hu
    obtain ⟨rfl, rfl⟩ := hu
    simp at hm hm'

/-! ## One more block -/

/-- A block without `a` settles a pending `a` exactly by an occurrence of `b`. -/
theorem pending_append_of_not_mem (ha : a ∉ u) :
    Pending a b (t ++ u) ↔ Pending a b t ∧ b ∉ u := by
  induction u using List.reverseRecOn with
  | nil => simp
  | append_singleton u e ih =>
    rw [List.mem_append, List.mem_singleton, not_or] at ha
    rw [← List.append_assoc, pending_concat, ih ha.1, List.mem_append, List.mem_singleton, not_or]
    constructor
    · rintro (he | ⟨⟨ht, hu⟩, he⟩)
      · exact absurd he.symm ha.2
      · exact ⟨ht, hu, Ne.symm he⟩
    · rintro ⟨ht, hu, he⟩
      exact Or.inr ⟨⟨ht, hu⟩, Ne.symm he⟩

theorem separated_append_of_not_mem (ha : a ∉ u) :
    Separated a b (t ++ u) ↔ Separated a b t := by
  induction u using List.reverseRecOn with
  | nil => simp
  | append_singleton u e ih =>
    rw [List.mem_append, List.mem_singleton, not_or] at ha
    rw [← List.append_assoc, separated_concat, ih ha.1]
    exact and_iff_left fun he => absurd he.symm ha.2

theorem pending_append (hb : b ∉ u) : Pending a b (t ++ u) ↔ Pending a b t ∨ a ∈ u := by
  induction u using List.reverseRecOn with
  | nil => simp
  | append_singleton u e ih =>
    rw [List.mem_append, List.mem_singleton, not_or] at hb
    rw [← List.append_assoc, pending_concat, ih hb.1, List.mem_append, List.mem_singleton,
      and_iff_left (Ne.symm hb.2), or_comm, or_assoc, @eq_comm _ e]

/-- **A block of distinct events repeats no pending `a`.** -/
theorem separated_append (hb : b ∉ u) (hu : u.Nodup) :
    Separated a b (t ++ u) ↔ Separated a b t ∧ (a ∈ u → ¬ Pending a b t) := by
  induction u using List.reverseRecOn with
  | nil => simp
  | append_singleton u e ih =>
    rw [List.mem_append, List.mem_singleton, not_or] at hb
    rw [List.nodup_append] at hu
    have he : e ∉ u := fun h => hu.2.2 e h e (List.mem_singleton_self e) rfl
    rw [← List.append_assoc, separated_concat, ih hb.1 hu.1, pending_append hb.1, List.mem_append,
      List.mem_singleton]
    constructor
    · rintro ⟨⟨ht, hmem⟩, hpend⟩
      refine ⟨ht, ?_⟩
      rintro (h | rfl)
      · exact hmem h
      · exact fun hp => hpend rfl (Or.inl hp)
    · rintro ⟨ht, hmem⟩
      refine ⟨⟨ht, fun h => hmem (Or.inl h)⟩, ?_⟩
      rintro rfl (hp | h)
      · exact hmem (Or.inr rfl) hp
      · exact he h

end Infra.Trace
