import Mathlib.Data.List.Nodup

/-!
# Numbered lists

The elements of a list are numbered from 0 on. Some are handled in their order, and some are lost.

* `Numbered.mem_iff_of_prefix` — what is in a prefix is told by the number
* `Numbered.concat_prefix_iff` — an element continues a prefix when its number does
* `Numbered.concat_prefix_iff_of_lost` — it does when nothing before it was lost
-/

namespace Infra

variable {α : Type*} {number : α → Nat} {all before behind lost : List α} {x y : α}

def Numbered (number : α → Nat) (all : List α) : Prop := all.map number = List.range all.length

namespace Numbered

theorem nil : Numbered number [] := rfl

theorem concat (h : Numbered number all) (hx : number x = all.length) :
    Numbered number (all ++ [x]) := by
  rw [Numbered, List.map_append, h, List.length_append, List.length_singleton, List.range_succ,
    List.map_singleton, hx]

theorem pairwise (h : Numbered number all) : all.Pairwise fun x y => number x < number y := by
  have hrange : (all.map number).Pairwise (· < ·) := by
    rw [h]
    exact List.pairwise_lt_range
  exact List.pairwise_map.mp hrange

theorem number_getElem (h : Numbered number all) (i : Nat) (hi : i < all.length) :
    number all[i] = i := by
  have hget := List.getElem_of_eq h (i := i) (by rwa [List.length_map])
  rwa [List.getElem_map, List.getElem_range] at hget

theorem number_lt (h : Numbered number all) (hx : x ∈ all) : number x < all.length := by
  obtain ⟨i, hi, rfl⟩ := List.getElem_of_mem hx
  rwa [h.number_getElem i hi]

theorem getElem?_number (h : Numbered number all) (hx : x ∈ all) :
    all[number x]? = some x := by
  obtain ⟨i, hi, rfl⟩ := List.getElem_of_mem hx
  rw [h.number_getElem i hi, List.getElem?_eq_getElem hi]

theorem inj (h : Numbered number all) (hx : x ∈ all) (hy : y ∈ all)
    (heq : number x = number y) : x = y := by
  refine Option.some.inj ?_
  rw [← h.getElem?_number hx, heq, h.getElem?_number hy]

theorem of_prefix (h : Numbered number all) (hbefore : before <+: all) :
    Numbered number before := by
  obtain ⟨rest, rfl⟩ := hbefore
  rw [Numbered, List.map_append, List.length_append, List.range_add] at h
  exact List.append_inj_left h (by rw [List.length_map, List.length_range])

/-- **What is in a prefix is told by the number.** -/
theorem mem_iff_of_prefix (h : Numbered number all) (hbefore : before <+: all) (hx : x ∈ all) :
    x ∈ before ↔ number x < before.length := by
  have hnumbered := h.of_prefix hbefore
  constructor
  · exact hnumbered.number_lt
  · intro hlt
    have hmem := List.getElem_mem hlt
    have hnumber := hnumbered.number_getElem _ hlt
    rwa [h.inj (hbefore.subset hmem) hx hnumber] at hmem

/-- **An element continues a prefix when its number does.** -/
theorem concat_prefix_iff (h : Numbered number all) (hbefore : before <+: all) (hx : x ∈ all) :
    before ++ [x] <+: all ↔ number x = before.length := by
  constructor
  · intro hfirst
    have hlast := (h.of_prefix hfirst).number_getElem before.length (by simp)
    rwa [List.getElem_concat_length rfl] at hlast
  · intro hnumber
    have hget := h.getElem?_number hx
    rw [hnumber] at hget
    have htake : before = all.take before.length := List.prefix_iff_eq_take.mp hbefore
    have hnext : before ++ [x] = all.take (before.length + 1) := by
      rw [List.take_add_one, hget, ← htake]
      rfl
    rw [hnext]
    exact List.take_prefix _ _

/--
**An element continues a prefix when nothing before it was lost.**

The prefix, the element and what is behind it are in their order, and the rest is lost.
-/
theorem concat_prefix_iff_of_lost (h : Numbered number all) (hbefore : before <+: all)
    (hx : x ∈ all)
    (horder : (before ++ x :: behind).Pairwise fun y z => number y < number z)
    (hcover : ∀ y ∈ all, y ∈ before ++ x :: behind ∨ y ∈ lost)
    (hlost : ∀ y ∈ lost, y ∈ all ∧ y ∉ before ++ x :: behind) :
    before ++ [x] <+: all ↔ ∀ y ∈ lost, number x < number y := by
  obtain ⟨-, hbehind, hcross⟩ := List.pairwise_append.mp horder
  have hle : before.length ≤ number x := by
    refine Nat.not_lt.mp fun hlt => ?_
    have hmem := (h.mem_iff_of_prefix hbefore hx).mpr hlt
    exact Nat.lt_irrefl _ (hcross x hmem x List.mem_cons_self)
  rw [h.concat_prefix_iff hbefore hx]
  constructor
  · intro hnext y hy
    obtain ⟨hall, hnot⟩ := hlost y hy
    have hnotBefore : ¬ number y < before.length := fun hlt =>
      hnot (List.mem_append_left _ ((h.mem_iff_of_prefix hbefore hall).mpr hlt))
    have hne : number x ≠ number y := fun heq =>
      hnot (h.inj hx hall heq ▸ List.mem_append_right _ List.mem_cons_self)
    omega
  · intro hlater
    by_contra hne
    -- the element that has the next number was neither handled nor lost
    have hlt : before.length < all.length := by
      have hlength := h.number_lt hx
      omega
    have hnumber := h.number_getElem _ hlt
    rcases hcover _ (List.getElem_mem hlt) with htaken | hmem
    · rcases List.mem_append.mp htaken with hmem | hmem
      · have hbelow := (h.mem_iff_of_prefix hbefore (List.getElem_mem hlt)).mp hmem
        omega
      · rcases List.mem_cons.mp hmem with heq | hmem
        · rw [heq] at hnumber
          omega
        · have habove := (List.pairwise_cons.mp hbehind).1 _ hmem
          omega
    · have habove := hlater _ hmem
      omega

end Numbered

end Infra
