import Mathlib.Logic.Function.Basic
import Mathlib.Data.List.Nodup

/-!
# Stores divided over named tables

Each key owns one table, given by a list of entries (key, name). `Partitioned` says that the entries
are a bijection and that the table of a key holds the content of that key.

* `Partitioned.update` — a change of one table is the same change of one content
* `Partitioned.add` — a new key gets a table that nobody owns
* `Partitioned.of_mem_iff` — only the set of entries counts
-/

namespace Infra

variable {κ ν δ : Type*}

structure Partitioned (entries : List (κ × ν)) (tables : ν → List δ) (content : κ → List δ) :
    Prop where
  keys : (entries.map Prod.fst).Nodup
  names : (entries.map Prod.snd).Nodup
  holds : ∀ e ∈ entries, tables e.2 = content e.1
  unnamed : ∀ t, t ∉ entries.map Prod.snd → tables t = []
  absent : ∀ k, k ∉ entries.map Prod.fst → content k = []

namespace Partitioned

variable {entries : List (κ × ν)} {tables : ν → List δ} {content : κ → List δ}

theorem nil : Partitioned ([] : List (κ × ν)) (fun _ => ([] : List δ)) fun _ => [] where
  keys := List.nodup_nil
  names := List.nodup_nil
  holds := fun _ h => absurd h List.not_mem_nil
  unnamed := fun _ _ => rfl
  absent := fun _ _ => rfl

/-- **What is done to one table shows to its key alone.** -/
theorem update [DecidableEq κ] [DecidableEq ν] (h : Partitioned entries tables content)
    {e : κ × ν} (he : e ∈ entries) (ds : List δ) :
    Partitioned entries (Function.update tables e.2 ds) (Function.update content e.1 ds) where
  keys := h.keys
  names := h.names
  holds := by
    intro x hx
    by_cases hxe : x = e
    · rw [hxe, Function.update_self, Function.update_self]
    · rw [Function.update_of_ne, Function.update_of_ne, h.holds x hx]
      · exact fun hk => hxe (List.inj_on_of_nodup_map h.keys hx he hk)
      · exact fun hn => hxe (List.inj_on_of_nodup_map h.names hx he hn)
  unnamed := by
    intro t ht
    rw [Function.update_of_ne, h.unnamed t ht]
    rintro rfl
    exact ht (List.mem_map_of_mem he)
  absent := by
    intro k hk
    rw [Function.update_of_ne, h.absent k hk]
    rintro rfl
    exact hk (List.mem_map_of_mem he)

/-- A key and a name that are both new have nothing in them. -/
theorem add (h : Partitioned entries tables content) {e : κ × ν}
    (hkey : e.1 ∉ entries.map Prod.fst) (hname : e.2 ∉ entries.map Prod.snd) :
    Partitioned (e :: entries) tables content where
  keys := List.nodup_cons.mpr ⟨hkey, h.keys⟩
  names := List.nodup_cons.mpr ⟨hname, h.names⟩
  holds := by
    intro x hx
    rcases List.mem_cons.mp hx with rfl | hx
    · rw [h.unnamed _ hname, h.absent _ hkey]
    · exact h.holds x hx
  unnamed := by
    intro t ht
    exact h.unnamed t fun hm => ht (List.mem_cons_of_mem _ hm)
  absent := by
    intro k hk
    exact h.absent k fun hm => hk (List.mem_cons_of_mem _ hm)

theorem of_perm (h : Partitioned entries tables content) {entries' : List (κ × ν)}
    (hperm : entries'.Perm entries) : Partitioned entries' tables content where
  keys := (hperm.map Prod.fst).nodup_iff.mpr h.keys
  names := (hperm.map Prod.snd).nodup_iff.mpr h.names
  holds := fun e he => h.holds e (hperm.mem_iff.mp he)
  unnamed := fun t ht => h.unnamed t fun hm => ht ((hperm.map Prod.snd).mem_iff.mpr hm)
  absent := fun k hk => h.absent k fun hm => hk ((hperm.map Prod.fst).mem_iff.mpr hm)

/-- Entries with unique keys are the same division when they are the same set. -/
theorem of_mem_iff (h : Partitioned entries tables content) {entries' : List (κ × ν)}
    (hkeys : (entries'.map Prod.fst).Nodup) (hmem : ∀ e, e ∈ entries' ↔ e ∈ entries) :
    Partitioned entries' tables content :=
  h.of_perm ((List.perm_ext_iff_of_nodup (List.Nodup.of_map _ hkeys)
    (List.Nodup.of_map _ h.keys)).mpr hmem)

end Partitioned

end Infra
