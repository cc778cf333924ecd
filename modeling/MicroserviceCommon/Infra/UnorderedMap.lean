import Mathlib.Logic.Basic
import Mathlib.Data.List.Nodup

/-!
# Maps whose insert keeps what is there

A map is the function of its lookups. `insert` is that of `std::unordered_map`:
it does nothing on a key that is present.

* `insertAll_apply` — after inserting a list, the first entry of a key counts,
  and old entries before it
* `lookup_eq_some_iff` — with unique keys, a lookup in a list is membership
-/

namespace Infra

abbrev UnorderedMap (κ ν : Type*) := κ → Option ν

namespace UnorderedMap

variable {κ ν : Type*} [DecidableEq κ]

def empty : UnorderedMap κ ν := fun _ => none

def insert (m : UnorderedMap κ ν) (k : κ) (v : ν) : UnorderedMap κ ν :=
  fun q => if q = k then (m k).or (some v) else m q

/-- `m[ k ] = v` -/
def assign (m : UnorderedMap κ ν) (k : κ) (v : ν) : UnorderedMap κ ν :=
  fun q => if q = k then some v else m q

def erase (m : UnorderedMap κ ν) (k : κ) : UnorderedMap κ ν :=
  fun q => if q = k then none else m q

def insertAll (m : UnorderedMap κ ν) (entries : List (κ × ν)) : UnorderedMap κ ν :=
  entries.foldl (fun m e => m.insert e.1 e.2) m

theorem insert_apply (m : UnorderedMap κ ν) (k : κ) (v : ν) (q : κ) :
    m.insert k v q = (m q).or (if q = k then some v else none) := by
  unfold insert
  split
  · next h => rw [h]
  · rw [Option.or_none]

theorem isSome_insert (m : UnorderedMap κ ν) (k : κ) (v : ν) (q : κ) :
    (m.insert k v q).isSome ↔ q = k ∨ (m q).isSome := by
  rw [insert_apply]
  by_cases h : q = k <;> simp [h]

theorem insert_eq_some_iff {m : UnorderedMap κ ν} {k q : κ} {v w : ν} :
    m.insert k v q = some w ↔ m q = some w ∨ m q = none ∧ q = k ∧ v = w := by
  rw [insert_apply, Option.or_eq_some_iff]
  by_cases h : q = k <;> simp [h]

theorem assign_self (m : UnorderedMap κ ν) (k : κ) (v : ν) : m.assign k v k = some v :=
  if_pos rfl

theorem isSome_assign (m : UnorderedMap κ ν) (k : κ) (v : ν) (q : κ) :
    (m.assign k v q).isSome ↔ q = k ∨ (m q).isSome := by
  unfold assign
  by_cases h : q = k <;> simp [h]

theorem isSome_erase (m : UnorderedMap κ ν) (k q : κ) :
    (m.erase k q).isSome ↔ q ≠ k ∧ (m q).isSome := by
  unfold erase
  by_cases h : q = k <;> simp [h]

theorem lookup_cons (e : κ × ν) (entries : List (κ × ν)) (k : κ) :
    (e :: entries).lookup k = if k = e.1 then some e.2 else entries.lookup k := by
  rw [List.lookup_cons]
  by_cases h : k = e.1
  · rw [if_pos h, beq_iff_eq.mpr h]
  · rw [if_neg h, beq_eq_false_iff_ne.mpr h]

theorem insertAll_apply (entries : List (κ × ν)) (m : UnorderedMap κ ν) (q : κ) :
    m.insertAll entries q = (m q).or (entries.lookup q) := by
  induction entries generalizing m with
  | nil => exact (Option.or_none).symm
  | cons e entries ih =>
    rw [insertAll, List.foldl_cons, ← insertAll, ih, insert_apply, lookup_cons, Option.or_assoc]
    split
    · rw [Option.some_or]
    · rw [Option.none_or]

/-- **With unique keys a lookup in the list is membership.** -/
theorem lookup_eq_some_iff : ∀ {entries : List (κ × ν)}, (entries.map Prod.fst).Nodup →
    ∀ {k : κ} {v : ν}, entries.lookup k = some v ↔ (k, v) ∈ entries
  | [], _, _, _ => by simp
  | e :: entries, hnd, k, v => by
    rw [List.map_cons, List.nodup_cons] at hnd
    rw [lookup_cons, List.mem_cons]
    split
    · next h =>
      rw [Option.some.injEq]
      constructor
      · rintro rfl
        exact Or.inl (Prod.ext h rfl)
      · rintro (he | hm)
        · rw [← he]
        · exact absurd (List.mem_map_of_mem (f := Prod.fst) hm) (h ▸ hnd.1)
    · next h =>
      rw [lookup_eq_some_iff hnd.2]
      exact (or_iff_right fun he => h (congrArg Prod.fst he)).symm

end UnorderedMap

end Infra
