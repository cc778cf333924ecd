import Mathlib.Data.List.Nodup
import Mathlib.Data.List.SplitBy
import Mathlib.Order.Basic

/-!
# Runs of equal keys

A loop that compares each record with the one before it sees the runs of equal keys.
Where the records are sorted by their keys, a run has all records of its key.

* `runs` — the runs of a list
* `eq_groups` — parts that share no keys are the groups of their keys
* `runs_eq_groups` — the runs of a sorted list are the groups of its keys
-/

namespace Infra

variable {α κ ο : Type*} [DecidableEq κ] {key : α → κ} {l : List α}

def runs (key : α → κ) (l : List α) : List (List α) := l.splitBy fun a b => key a == key b

@[simp] theorem flatten_runs (key : α → κ) (l : List α) : (runs key l).flatten = l :=
  List.flatten_splitBy _ l

theorem ne_nil_of_mem_runs {g : List α} (h : g ∈ runs key l) : g ≠ [] :=
  List.ne_nil_of_mem_splitBy h

theorem key_eq_of_mem_runs {g : List α} (h : g ∈ runs key l) {a b : α} (ha : a ∈ g) (hb : b ∈ g) :
    key a = key b := by
  have hchain : g.IsChain fun a b => key a = key b :=
    (List.isChain_of_mem_splitBy h).imp fun _ _ hab => eq_of_beq hab
  have : Trans (fun a b => key a = key b) (fun a b => key a = key b) fun a b => key a = key b :=
    ⟨Eq.trans⟩
  have : Std.Symm fun a b => key a = key b := ⟨fun _ _ => Eq.symm⟩
  by_cases hab : a = b
  · rw [hab]
  · exact (List.isChain_iff_pairwise.mp hchain).forall ha hb hab

/-- A run ends where the key changes. -/
theorem isChain_runs (key : α → κ) (l : List α) :
    (runs key l).IsChain fun g g' => ∀ a ∈ g, ∀ b ∈ g', key a ≠ key b := by
  refine List.IsChain.imp_of_mem_imp (fun g g' hg hg' h a ha b hb => ?_)
    (List.isChain_getLast_head_splitBy _ l)
  obtain ⟨hne, hne', hlast⟩ := h
  rw [key_eq_of_mem_runs hg ha (List.getLast_mem hne),
    key_eq_of_mem_runs hg' hb (List.head_mem hne')]
  exact beq_eq_false_iff_ne.mp hlast

/-- **Parts that share no keys are the groups of their keys.** -/
theorem eq_groups : ∀ {parts : List (List α)}, (∀ g ∈ parts, g ≠ []) →
    (∀ g ∈ parts, ∀ a ∈ g, ∀ b ∈ g, key a = key b) →
    parts.Pairwise (fun g g' => ∀ a ∈ g, ∀ b ∈ g', key a ≠ key b) →
    ∃ keys : List κ, keys.Nodup ∧ (∀ k, k ∈ keys ↔ ∃ a ∈ parts.flatten, key a = k) ∧
      parts = keys.map fun k => parts.flatten.filter fun a => key a == k
  | [], _, _, _ => ⟨[], List.nodup_nil, by simp, rfl⟩
  | g :: parts, hne, hkey, hpairs => by
    obtain ⟨hfirst, hpairs⟩ := List.pairwise_cons.mp hpairs
    obtain ⟨keys, hnodup, hmem, hparts⟩ := eq_groups
      (fun g' hg' => hne g' (List.mem_cons_of_mem _ hg'))
      (fun g' hg' => hkey g' (List.mem_cons_of_mem _ hg')) hpairs
    obtain ⟨a, ha⟩ := List.exists_mem_of_ne_nil g (hne g List.mem_cons_self)
    have hg : ∀ b ∈ g, key b = key a := fun b hb => hkey g List.mem_cons_self b hb a ha
    have hrest : ∀ b ∈ parts.flatten, key b ≠ key a := by
      intro b hb
      obtain ⟨g', hg', hb⟩ := List.mem_flatten.mp hb
      exact (hfirst g' hg' a ha b hb).symm
    refine ⟨key a :: keys, List.nodup_cons.mpr ⟨fun hk => ?_, hnodup⟩, fun k => ?_, ?_⟩
    · obtain ⟨b, hb, hkb⟩ := (hmem (key a)).mp hk
      exact hrest b hb hkb
    · rw [List.mem_cons, hmem, List.flatten_cons]
      constructor
      · rintro (rfl | ⟨b, hb, hk⟩)
        · exact ⟨a, List.mem_append_left _ ha, rfl⟩
        · exact ⟨b, List.mem_append_right _ hb, hk⟩
      · rintro ⟨b, hb, rfl⟩
        rcases List.mem_append.mp hb with hb | hb
        · exact Or.inl (hg b hb)
        · exact Or.inr ⟨b, hb, rfl⟩
    · rw [List.map_cons, List.flatten_cons, List.filter_append,
        List.filter_eq_self.mpr fun b hb => beq_iff_eq.mpr (hg b hb),
        List.filter_eq_nil_iff.mpr fun b hb hk => hrest b hb (eq_of_beq hk), List.append_nil]
      refine congrArg (g :: ·) (hparts.trans (List.map_congr_left fun k hk => ?_))
      -- a key of the other parts is not that of `g`
      have hnone : g.filter (fun b => key b == k) = [] := by
        refine List.filter_eq_nil_iff.mpr fun b hb hkb => ?_
        obtain ⟨x, hx, hkx⟩ := (hmem k).mp hk
        exact hrest x hx (hkx.trans ((eq_of_beq hkb).symm.trans (hg b hb)))
      rw [List.filter_append, hnone, List.nil_append]

theorem isChain_and {R S : α → α → Prop} : ∀ {l : List α}, l.IsChain R → l.IsChain S →
    l.IsChain fun a b => R a b ∧ S a b
  | [], _, _ => List.isChain_nil
  | a :: l, h, h' => by
    obtain ⟨hhead, h⟩ := List.isChain_cons.mp h
    obtain ⟨hhead', h'⟩ := List.isChain_cons.mp h'
    exact List.isChain_cons.mpr ⟨fun b hb => ⟨hhead b hb, hhead' b hb⟩, isChain_and h h'⟩

/-- **The runs of a sorted list are the groups of its keys**, whatever the keys are sorted by. -/
theorem runs_eq_groups [PartialOrder ο] {rank : κ → ο} (hrank : Function.Injective rank)
    (hsorted : l.Pairwise fun a b => rank (key b) ≤ rank (key a)) :
    ∃ keys : List κ, keys.Nodup ∧ (∀ k, k ∈ keys ↔ ∃ a ∈ l, key a = k) ∧
      runs key l = keys.map fun k => l.filter fun a => key a == k := by
  let Before (g g' : List α) : Prop :=
    g' ≠ [] ∧ ∀ a ∈ g, ∀ b ∈ g', rank (key b) < rank (key a)
  have : Trans Before Before Before := by
    refine ⟨fun {g g' g''} h h' => ⟨h'.1, fun a ha c hc => ?_⟩⟩
    obtain ⟨b, hb⟩ := List.exists_mem_of_ne_nil g' h.1
    exact (h'.2 b hb c hc).trans (h.2 a ha b hb)
  have hle : (runs key l).Pairwise fun g g' => ∀ a ∈ g, ∀ b ∈ g', rank (key b) ≤ rank (key a) :=
    (List.pairwise_flatten.mp (by rwa [flatten_runs])).2
  have hchain : (runs key l).IsChain Before := by
    refine List.IsChain.imp_of_mem_imp (fun g g' _ hg' h => ⟨ne_nil_of_mem_runs hg', ?_⟩)
      (isChain_and (isChain_runs key l) hle.isChain)
    exact fun a ha b hb => (h.2 a ha b hb).lt_of_ne fun he => h.1 a ha b hb (hrank he.symm)
  have hgroups := eq_groups (fun _ => ne_nil_of_mem_runs)
    (fun g hg a ha b hb => key_eq_of_mem_runs hg ha hb)
    ((List.isChain_iff_pairwise.mp hchain).imp fun h a ha b hb he =>
      (h.2 a ha b hb).ne (congrArg rank he.symm))
  rwa [flatten_runs] at hgroups

end Infra
