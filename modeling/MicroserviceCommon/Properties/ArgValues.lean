import MicroserviceCommon.Infra.UnorderedMap
import MicroserviceCommon.System.ProcessHandles

/-!
# An argument is found by its text

`findArgValue` takes the first argument that has the key anywhere in its text. This can be the
argument of a longer key, or one with the key in its value.

* `findArgValue_eq` — what is returned is the value of the first argument with the text in it
* `arg_value_iff` — this is the value of the key exactly when that argument has the key, or by
  chance the same value
* `longer_key_found` — the key `b` behind the key `ab`
-/

namespace MicroserviceCommon

open Infra

/-- An argument `key=value`. -/
def argText (pair : String × String) : String := pair.1 ++ String.singleton '=' ++ pair.2

/-- A handle with arguments of this form. -/
structure KeyValueHandle extends ProcessHandle where
  pairs : List (String × String)
  args_eq : settings.args = pairs.map argText
  keys_noEquals : ∀ pair ∈ pairs, '=' ∉ pair.1.toList
  keys_nodup : (pairs.map Prod.fst).Nodup

/-- The text is somewhere in the argument. -/
def HasText (text : String) (pair : String × String) : Prop :=
  text.toList <:+: (argText pair).toList

instance (text : String) (pair : String × String) : Decidable (HasText text pair) :=
  inferInstanceAs (Decidable (_ <:+: _))

theorem hasText_own (key value : String) : HasText key (key, value) := by
  refine List.IsPrefix.isInfix ⟨'=' :: value.toList, ?_⟩
  simp [argText]

namespace KeyValueHandle

variable (h : KeyValueHandle)

/-- The value of the key, empty without such an argument. -/
def valueOf (argKey : String) : String := (h.pairs.lookup argKey).getD ""

/-- The first argument with the key in its text is the one of the key, or it has the value of the
key by chance. -/
def FirstIsOwn (argKey : String) : Prop :=
  ∀ before pair after, h.pairs = before ++ pair :: after → (∀ p ∈ before, ¬ HasText argKey p) →
    HasText argKey pair → pair.1 = argKey ∨ pair.2 = h.valueOf argKey

variable {h} {argKey : String}

/-! ## What is returned -/

theorem cutBySimbol_argText {pair : String × String} (hpair : pair ∈ h.pairs) :
    cutBySimbol '=' (argText pair) = some pair :=
  cutBySimbol_of_isDivision ⟨rfl, h.keys_noEquals pair hpair⟩

theorem find_args : h.settings.args.find? (fun argStr => argKey.toList <:+: argStr.toList) =
    (h.pairs.find? fun pair => HasText argKey pair).map argText := by
  rw [h.args_eq, List.find?_map]
  rfl

/-- **The value of the first argument with the text in it.** -/
theorem findArgValue_eq :
    h.findArgValue argKey = some (((h.pairs.find? fun pair => HasText argKey pair).map
      Prod.snd).getD "") := by
  unfold ProcessHandle.findArgValue
  rw [find_args]
  cases hfind : h.pairs.find? fun pair => HasText argKey pair with
  | none => rfl
  | some pair =>
    have hcut := cutBySimbol_argText (List.mem_of_find?_eq_some hfind)
    simp only [Option.map_some, hcut, Option.getD_some]

/-! ## What should be returned -/

theorem valueOf_of_mem {value : String} (hmem : (argKey, value) ∈ h.pairs) :
    h.valueOf argKey = value := by
  rw [valueOf, (UnorderedMap.lookup_eq_some_iff h.keys_nodup).mpr hmem, Option.getD_some]

/-- A key is in the text of its own argument. -/
theorem valueOf_of_not_hasText (hnone : ∀ pair ∈ h.pairs, ¬ HasText argKey pair) :
    h.valueOf argKey = "" := by
  cases hlookup : h.pairs.lookup argKey with
  | none => rw [valueOf, hlookup, Option.getD_none]
  | some value =>
    have hmem := (UnorderedMap.lookup_eq_some_iff h.keys_nodup).mp hlookup
    exact absurd (hasText_own argKey value) (hnone _ hmem)

/--
**When the value of the key is found.**

Exactly when the first argument that has the key in its text is the argument of the key, or has its
value by chance, an empty one where no argument has the key.
-/
theorem arg_value_iff (h : KeyValueHandle) (argKey : String) :
    h.findArgValue argKey = some (h.valueOf argKey) ↔ h.FirstIsOwn argKey := by
  rw [findArgValue_eq, Option.some.injEq]
  cases hfind : h.pairs.find? fun pair => HasText argKey pair with
  | none =>
    have hnone : ∀ pair ∈ h.pairs, ¬ HasText argKey pair := by
      simpa using List.find?_eq_none.mp hfind
    refine iff_of_true (valueOf_of_not_hasText hnone).symm ?_
    intro before pair after hpairs _ htext
    exact absurd htext (hnone pair (by simp [hpairs]))
  | some pair =>
    obtain ⟨htext, before, after, hpairs, hbefore⟩ := List.find?_eq_some_iff_append.mp hfind
    simp only [Option.map_some, Option.getD_some]
    constructor
    · intro hvalue before' pair' after' hpairs' hbefore' htext'
      have hfind' : h.pairs.find? (fun pair => HasText argKey pair) = some pair' :=
        List.find?_eq_some_iff_append.mpr
          ⟨by simpa using htext', before', after', hpairs', by simpa using hbefore'⟩
      rw [hfind, Option.some.injEq] at hfind'
      exact Or.inr (hfind' ▸ hvalue)
    · intro hfirst
      rcases hfirst before pair after hpairs (by simpa using hbefore) (by simpa using htext) with
        hkey | hvalue
      · have hmem : (argKey, pair.2) ∈ h.pairs := by
          rw [← hkey, hpairs]
          simp
        exact (valueOf_of_mem hmem).symm
      · exact hvalue

/-- The arguments `ab=1` and `b=2`. -/
def longerKeyFirst : KeyValueHandle where
  settings := { program := "child", args := ["ab=1", "b=2"] }
  pairs := [("ab", "1"), ("b", "2")]
  args_eq := by decide
  keys_noEquals := by decide
  keys_nodup := by decide

/-- The value of `ab` is returned for `b`. -/
theorem longer_key_found :
    longerKeyFirst.findArgValue "b" = some "1" ∧
      longerKeyFirst.findArgValue "b" ≠ some (longerKeyFirst.valueOf "b") := by
  decide

end KeyValueHandle

end MicroserviceCommon
