import MicroserviceCommon.Infra.Semaphore

/-!
# Marks of what is taken

Things are handed out to clients. A mark on a thing says that some client holds it.

* `Reserved.free_iff` — for who does not hold a thing, no mark means that nobody else holds it
* `Reserved.take`, `Reserved.give` — marking on the way out and clearing on the way back keeps the
  marks right and the holders apart, as long as only unmarked things are taken
-/

namespace Infra

variable {κ ι : Type*}

/-- The marks are right, and no thing has two holders. -/
structure Reserved (marked : ι → Bool) (held : κ → ι → Bool) : Prop where
  exclusive : ∀ i, Exclusive fun c => held c i
  marked_iff : ∀ i, marked i = true ↔ ∃ c, held c i = true

namespace Reserved

variable {marked : ι → Bool} {held : κ → ι → Bool} {c : κ} {i : ι}

theorem init : Reserved (fun _ : ι => false) fun (_ : κ) _ => false where
  exclusive := fun _ _ _ h _ => by cases h
  marked_iff := fun _ => by simp

theorem free_iff (h : Reserved marked held) (hc : held c i = false) :
    marked i = false ↔ ∀ c', c' ≠ c → held c' i = false := by
  constructor
  · intro hfree c' _
    refine Bool.eq_false_iff.mpr fun hheld => ?_
    rw [(h.marked_iff i).mpr ⟨c', hheld⟩] at hfree
    cases hfree
  · intro hothers
    refine Bool.eq_false_iff.mpr fun hmarked => ?_
    obtain ⟨c', hheld⟩ := (h.marked_iff i).mp hmarked
    have hne : c' ≠ c := by
      rintro rfl
      rw [hc] at hheld
      cases hheld
    rw [hothers c' hne] at hheld
    cases hheld

variable [DecidableEq κ] [DecidableEq ι]

/-- One client starts or stops to hold one thing. -/
def setHeld (held : κ → ι → Bool) (c : κ) (i : ι) (b : Bool) : κ → ι → Bool :=
  fun c' j => if c' = c ∧ j = i then b else held c' j

theorem setHeld_self (held : κ → ι → Bool) (c : κ) (i : ι) (b : Bool) :
    setHeld held c i b c i = b := if_pos ⟨rfl, rfl⟩

theorem setHeld_of_ne {c' : κ} {j : ι} (b : Bool) (h : ¬(c' = c ∧ j = i)) :
    setHeld held c i b c' j = held c' j := if_neg h

/-- What is still held after one thing was given back. -/
theorem held_of_setHeld {c' : κ} {j : ι} (h : setHeld held c i false c' j = true) :
    ¬(c' = c ∧ j = i) ∧ held c' j = true := by
  unfold setHeld at h
  split at h
  · cases h
  · next hne => exact ⟨hne, h⟩

/-- Nobody held the thing before. -/
theorem take (h : Reserved marked held) (hfree : marked i = false) :
    Reserved (Function.update marked i true) (setHeld held c i true) := by
  have hnobody : ∀ c', held c' i = false := fun c' => Bool.eq_false_iff.mpr fun hheld => by
    rw [(h.marked_iff i).mpr ⟨c', hheld⟩] at hfree
    cases hfree
  constructor
  · intro j p q hp hq
    by_cases hj : j = i
    · subst hj
      simp only [setHeld, hnobody, and_true, Bool.if_false_right, Bool.and_true,
        decide_eq_true_eq] at hp hq
      rw [hp, hq]
    · simp only [setHeld, hj, and_false, if_false] at hp hq
      exact h.exclusive j p q hp hq
  · intro j
    by_cases hj : j = i
    · subst hj
      rw [Function.update_self]
      exact iff_of_true rfl ⟨c, setHeld_self held c j true⟩
    · rw [Function.update_of_ne hj, h.marked_iff j]
      simp only [setHeld, hj, and_false, if_false]

/-- Its only holder gives it back. -/
theorem give (h : Reserved marked held) (hheld : held c i = true) :
    Reserved (Function.update marked i false) (setHeld held c i false) := by
  constructor
  · intro j p q hp hq
    exact h.exclusive j p q (held_of_setHeld hp).2 (held_of_setHeld hq).2
  · intro j
    by_cases hj : j = i
    · subst hj
      rw [Function.update_self]
      refine iff_of_false Bool.false_ne_true ?_
      rintro ⟨c', hc'⟩
      obtain ⟨hne, hheld'⟩ := held_of_setHeld hc'
      exact hne ⟨h.exclusive j c' c hheld' hheld, rfl⟩
    · rw [Function.update_of_ne hj, h.marked_iff j]
      simp only [setHeld, hj, and_false, if_false]

end Reserved

end Infra
