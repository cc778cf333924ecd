import Mathlib.Data.List.Dedup
import Mathlib.Data.List.Nodup
import Mathlib.Data.List.Sort

/-!
# Collections

A collection is the list of its records in the order in which they were inserted.
The operations are the usual ones of a document store, over records of any type.

* `insert` appends
* `find` and `remove` act on all matching records
* `updateFirst` changes the first matching record, the update without the multi flag
* `upsert` is `updateFirst`, or an insert when nothing matches
* `groupCount` groups by a key and counts each group

## Two ways to reason

* **Encodings.** When every record is `enc` of a value, the operations are those of the values
  (`find_map`, `remove_map`, `updateFirst_map`, `upsert_map`).
* **Keyed rows.** `put` is the upsert that overwrites the row of a key.
  While keys are unique, a list of rows is a finite map (`mem_put`, `nodup_put`, `Represents.put`).
-/

namespace Infra

/-- A loop whose body never fails is a map. -/
theorem mapM_eq_some_map {α β : Type} {f : α → Option β} {g : α → β} :
    ∀ {l : List α}, (∀ a ∈ l, f a = some (g a)) → l.mapM f = some (l.map g)
  | [], _ => rfl
  | a :: l, h => by
    rw [List.mapM_cons, h a List.mem_cons_self,
      mapM_eq_some_map fun x hx => h x (List.mem_cons_of_mem _ hx)]
    rfl

namespace Collection

variable {α β κ : Type*}

/-! ## Operations -/

def insert (c : List α) (d : α) : List α := c ++ [d]

def find (q : α → Bool) (c : List α) : List α := c.filter q

def remove (q : α → Bool) (c : List α) : List α := c.filter fun d => !q d

/-- Changes the first record that matches. -/
def updateFirst (q : α → Bool) (f : α → α) : List α → List α
  | [] => []
  | d :: c => if q d then f d :: c else d :: updateFirst q f c

/-- `new` is the record that is inserted when nothing matches. -/
def upsert (q : α → Bool) (f : α → α) (new : α) (c : List α) : List α :=
  if c.any q then updateFirst q f c else insert c new

/-- `$orderby` with `-1`. Records of one key stay in their order. -/
def orderDesc [LE κ] [DecidableLE κ] (key : α → κ) (c : List α) : List α :=
  c.insertionSort fun a b => key b ≤ key a

/-- The groups of a key with the number of records in each. The order of the groups is open. -/
def groupCount [DecidableEq κ] (key : α → κ) (c : List α) : List (κ × Nat) :=
  (c.map key).dedup.map fun k => (k, (c.map key).count k)

/-- The upsert that overwrites the row of a key. -/
def put [DecidableEq κ] (key : α → κ) (new : α) (c : List α) : List α :=
  upsert (fun d => key d == key new) (fun _ => new) new c

/-! ## Encoded records -/

section Encoded

variable {enc : α → β} {q : β → Bool} {p : α → Bool} {f : β → β} {g : α → α}

theorem find_map (hq : ∀ a, q (enc a) = p a) (l : List α) :
    find q (l.map enc) = (find p l).map enc := by
  rw [find, find, List.filter_map]
  exact congrArg _ (List.filter_congr fun a _ => hq a)

theorem remove_map (hq : ∀ a, q (enc a) = p a) (l : List α) :
    remove q (l.map enc) = (remove p l).map enc :=
  find_map (q := fun d => !q d) (p := fun a => !p a) (fun a => by rw [hq a]) l

theorem any_map (hq : ∀ a, q (enc a) = p a) (l : List α) : (l.map enc).any q = l.any p := by
  rw [List.any_map]
  exact congrArg l.any (funext hq)

theorem updateFirst_map (hq : ∀ a, q (enc a) = p a) (hf : ∀ a, f (enc a) = enc (g a)) :
    ∀ l : List α, updateFirst q f (l.map enc) = (updateFirst p g l).map enc
  | [] => rfl
  | a :: l => by
    rw [List.map_cons, updateFirst, updateFirst, hq]
    split
    · rw [hf, List.map_cons]
    · rw [updateFirst_map hq hf l, List.map_cons]

theorem upsert_map (hq : ∀ a, q (enc a) = p a) (hf : ∀ a, f (enc a) = enc (g a)) (new : α)
    (l : List α) : upsert q f (enc new) (l.map enc) = (upsert p g new l).map enc := by
  unfold upsert
  rw [any_map hq]
  split
  · exact updateFirst_map hq hf l
  · rw [insert, insert, List.map_append, List.map_singleton]

theorem put_map [DecidableEq κ] {key : β → κ} (enc : α → β) (new : α) (l : List α) :
    put key (enc new) (l.map enc) = (put (fun a => key (enc a)) new l).map enc :=
  upsert_map (q := fun b => key b == key (enc new)) (f := fun _ => enc new)
    (p := fun a => key (enc a) == key (enc new)) (g := fun _ => new) (fun _ => rfl) (fun _ => rfl)
    new l

/-- A call that changes nothing when it fails keeps its records encoded. -/
theorem exists_map_of_call (call : Bool → List β → List β) {c : List β}
    (hc : ∃ l : List α, c = l.map enc) (hfail : ∀ c, call false c = c)
    (hdone : ∀ l : List α, ∃ l' : List α, call true (l.map enc) = l'.map enc) (rt : Bool) :
    ∃ l : List α, call rt c = l.map enc := by
  obtain ⟨l, rfl⟩ := hc
  cases rt with
  | false => exact ⟨l, hfail _⟩
  | true => exact hdone l

theorem orderDesc_map [LE κ] [DecidableLE κ] {key : β → κ} (l : List α) :
    orderDesc key (l.map enc) = (orderDesc (fun a => key (enc a)) l).map enc :=
  (List.map_insertionSort (r := fun a b => key (enc b) ≤ key (enc a))
    (s := fun a b => key b ≤ key a) enc l fun _ _ _ _ => Iff.rfl).symm

end Encoded

/-- A removal by key, or of everything, on the decoded records. -/
theorem map_remove_key [DecidableEq κ] {enc : α → β} {key : α → κ} (keyOf : β → κ)
    (hkey : ∀ a, keyOf (enc a) = key a) (all : Bool) (k : κ) (l : List α) :
    (remove (fun a => all || key a == k) l).map enc =
      if all then [] else (l.map enc).filter fun b => keyOf b ≠ k := by
  cases all with
  | true => simp [remove]
  | false =>
    rw [if_neg Bool.false_ne_true, List.filter_map]
    refine congrArg (List.map enc) (List.filter_congr fun a _ => ?_)
    simp [hkey, beq_eq_decide]

/-! ## What the operations leave alone -/

theorem mem_remove {q : α → Bool} {c : List α} {d : α} : d ∈ remove q c ↔ d ∈ c ∧ q d = false := by
  rw [remove, List.mem_filter, Bool.not_eq_true']

theorem find_insert (q : α → Bool) (c : List α) (d : α) :
    find q (insert c d) = find q c ++ if q d then [d] else [] := by
  rw [find, insert, List.filter_append, List.filter_singleton]
  cases q d <;> rfl

/-- Removing what `r` matches does not show to a query that `r` does not meet. -/
theorem find_remove_of_disjoint {q r : α → Bool} (h : ∀ d, q d = true → r d = false) (c : List α) :
    find q (remove r c) = find q c := by
  rw [find, remove, List.filter_filter]
  refine List.filter_congr fun d _ => ?_
  cases hq : q d with
  | false => rfl
  | true => rw [h d hq]; rfl

/-- The same for encoded rows. -/
theorem find_map_remove {β : Type*} {enc : α → β} {q : β → Bool} {r : α → Bool}
    (h : ∀ d, q (enc d) = true → r d = false) (c : List α) :
    find q ((remove r c).map enc) = find q (c.map enc) := by
  rw [find_map (fun _ => rfl), find_map (fun _ => rfl), find_remove_of_disjoint h]

/-- An update shows to no query that meets neither the old record nor the new one. -/
theorem find_updateFirst_of_disjoint {q r : α → Bool} {f : α → α} : ∀ {c : List α},
    (∀ d ∈ c, r d = true → q d = false ∧ q (f d) = false) →
    find q (updateFirst r f c) = find q c
  | [], _ => rfl
  | d :: c, h => by
    rw [updateFirst]
    split
    · next hr =>
      obtain ⟨h1, h2⟩ := h d List.mem_cons_self hr
      rw [find, find, List.filter_cons, List.filter_cons, if_neg (by simp [h2]),
        if_neg (by simp [h1])]
    · have ih := find_updateFirst_of_disjoint (c := c) fun x hx => h x (List.mem_cons_of_mem _ hx)
      rw [find] at ih ⊢
      rw [List.filter_cons, ih, find, find, List.filter_cons]

/-- Two removals leave the same records exactly when they agree on every record. -/
theorem remove_inj {q r : α → Bool} {c : List α} :
    remove q c = remove r c ↔ ∀ d ∈ c, q d = r d := by
  constructor
  · intro h d hd
    have hmem : d ∈ c ∧ q d = false ↔ d ∈ c ∧ r d = false := by
      rw [← mem_remove, h, mem_remove]
    rw [and_congr_right_iff] at hmem
    rw [Bool.eq_iff_iff, ← not_iff_not, Bool.not_eq_true, Bool.not_eq_true]
    exact hmem hd
  · intro h
    exact List.filter_congr fun d hd => by rw [h d hd]

/-- A removal leaves as much as the removal of everything, or of nothing, exactly when it is that
one. -/
theorem map_remove_const_iff {β : Type*} {enc : α → β} {q : α → Bool} {b : Bool} {c : List α} :
    (remove q c).map enc = (remove (fun _ => b) c).map enc ↔ ∀ d ∈ c, q d = b := by
  constructor
  · intro h d hd
    have hlength := congrArg List.length h
    rw [List.length_map, List.length_map] at hlength
    cases b with
    | true =>
      have hnone : remove (fun _ => true) c = [] :=
        List.filter_eq_nil_iff.mpr fun _ _ h => by cases h
      rw [hnone, List.length_nil, List.length_eq_zero_iff] at hlength
      by_contra hq
      exact List.ne_nil_of_mem (mem_remove.mpr ⟨hd, Bool.eq_false_iff.mpr hq⟩) hlength
    | false =>
      have hall : remove (fun _ => false) c = c := List.filter_eq_self.mpr fun _ _ => rfl
      rw [hall, remove, List.length_filter_eq_length_iff] at hlength
      exact Bool.not_eq_true' _ ▸ hlength d hd
  · intro h
    rw [remove_inj.mpr h]

theorem remove_updateFirst {q : α → Bool} {f : α → α} (hf : ∀ d, q d = true → q (f d) = true) :
    ∀ c : List α, remove q (updateFirst q f c) = remove q c
  | [] => rfl
  | d :: c => by
    rw [updateFirst]
    split
    · next hd =>
      rw [remove, remove, List.filter_cons_of_neg (by simp [hf d hd]),
        List.filter_cons_of_neg (by simp [hd])]
    · have ih := remove_updateFirst hf c
      rw [remove, remove] at ih ⊢
      rw [List.filter_cons, ih, List.filter_cons]

/-- An upsert by a query leaves what the query does not match. -/
theorem remove_upsert {q : α → Bool} {f : α → α} {new : α}
    (hf : ∀ d, q d = true → q (f d) = true) (hnew : q new = true) (c : List α) :
    remove q (upsert q f new c) = remove q c := by
  unfold upsert
  split
  · exact remove_updateFirst hf c
  · rw [remove, insert, List.filter_append, List.filter_singleton, hnew]
    exact List.append_nil _

/-! ## Keyed rows -/

/-- Unique keys stay unique under any removal. -/
theorem nodup_remove {key : α → κ} {q : α → Bool} {c : List α} (h : (c.map key).Nodup) :
    ((remove q c).map key).Nodup :=
  h.sublist (List.filter_sublist.map key)

/-- The rows are a finite map from their keys to the values. -/
def Represents (key : α → κ) (value : α → β) (rows : List α) (m : κ → Option β) : Prop :=
  ∀ k v, m k = some v ↔ ∃ r ∈ rows, key r = k ∧ value r = v

theorem represents_nil (key : α → κ) (value : α → β) :
    Represents key value [] fun _ => none := by
  intro k v
  constructor
  · intro h
    cases h
  · rintro ⟨r, hr, _⟩
    cases hr

theorem Represents.isSome_iff {key : α → κ} {value : α → β} {rows : List α} {m : κ → Option β}
    (h : Represents key value rows m) (k : κ) : (m k).isSome ↔ k ∈ rows.map key := by
  rw [Option.isSome_iff_exists, List.mem_map]
  constructor
  · rintro ⟨v, hv⟩
    obtain ⟨r, hr, hk, _⟩ := (h k v).mp hv
    exact ⟨r, hr, hk⟩
  · rintro ⟨r, hr, hk⟩
    exact ⟨value r, (h k (value r)).mpr ⟨r, hr, hk, rfl⟩⟩

section Keyed

variable [DecidableEq κ] {key : α → κ} {new : α}

theorem any_key_iff {c : List α} {k : κ} :
    c.any (fun d => key d == k) = true ↔ k ∈ c.map key := by
  simp [List.any_eq_true, List.mem_map]

theorem map_key_updateFirst : ∀ c : List α,
    (updateFirst (fun d => key d == key new) (fun _ => new) c).map key = c.map key
  | [] => rfl
  | d :: c => by
    rw [updateFirst]
    split
    · next h => simp only [List.map_cons, eq_of_beq h]
    · rw [List.map_cons, List.map_cons, map_key_updateFirst c]

theorem map_key_put (c : List α) : (put key new c).map key =
    if key new ∈ c.map key then c.map key else c.map key ++ [key new] := by
  unfold put upsert
  by_cases h : key new ∈ c.map key
  · rw [if_pos (any_key_iff.mpr h), if_pos h, map_key_updateFirst]
  · rw [if_neg (fun hc => h (any_key_iff.mp hc)), if_neg h, insert, List.map_append]
    rfl

/-- Unique keys stay unique. -/
theorem nodup_put {c : List α} (h : (c.map key).Nodup) : ((put key new c).map key).Nodup := by
  rw [map_key_put]
  split
  · exact h
  · next hk => exact List.nodup_append.mpr ⟨h, List.nodup_singleton _, by
      intro a ha b hb heq
      rw [List.mem_singleton] at hb
      exact hk (hb ▸ heq ▸ ha)⟩

theorem mem_updateFirst_key : ∀ {c : List α}, (c.map key).Nodup → key new ∈ c.map key →
    ∀ d, d ∈ updateFirst (fun d => key d == key new) (fun _ => new) c ↔
      d = new ∨ d ∈ c ∧ key d ≠ key new
  | [], _, h, _ => by simp at h
  | e :: c, hn, h, d => by
    rw [List.map_cons, List.nodup_cons] at hn
    rw [updateFirst]
    split
    · next he =>
      have he : key e = key new := eq_of_beq he
      have hc : ∀ x ∈ c, key x ≠ key new := fun x hx hk =>
        hn.1 (by rw [he, ← hk]; exact List.mem_map_of_mem hx)
      simp only [List.mem_cons]
      constructor
      · rintro (hd | hd)
        · exact Or.inl hd
        · exact Or.inr ⟨Or.inr hd, hc d hd⟩
      · rintro (hd | ⟨rfl | hd, hk⟩)
        · exact Or.inl hd
        · exact absurd he hk
        · exact Or.inr hd
    · next he =>
      have he : key e ≠ key new := fun hk => he (by simp [hk])
      have hmem : key new ∈ c.map key := by
        rw [List.map_cons, List.mem_cons] at h
        exact h.resolve_left fun hk => he hk.symm
      rw [List.mem_cons, mem_updateFirst_key hn.2 hmem d]
      simp only [List.mem_cons]
      constructor
      · rintro (rfl | rfl | ⟨hd, hk⟩)
        · exact Or.inr ⟨Or.inl rfl, he⟩
        · exact Or.inl rfl
        · exact Or.inr ⟨Or.inr hd, hk⟩
      · rintro (hd | ⟨rfl | hd, hk⟩)
        · exact Or.inr (Or.inl hd)
        · exact Or.inl rfl
        · exact Or.inr (Or.inr ⟨hd, hk⟩)

/-- `put` leaves the rows of other keys in their order. -/
theorem remove_put (c : List α) :
    remove (fun d => key d == key new) (put key new c) = remove (fun d => key d == key new) c :=
  remove_upsert (q := fun d => key d == key new) (fun _ _ => beq_self_eq_true (key new))
    (beq_self_eq_true (key new)) c

/-- With unique keys, a key finds its row and nothing else. -/
theorem find_key : ∀ {c : List α} {d : α}, (c.map key).Nodup → d ∈ c →
    find (fun e => key e == key d) c = [d]
  | e :: c, d, h, hd => by
    rw [List.map_cons, List.nodup_cons] at h
    rcases List.mem_cons.mp hd with rfl | hd
    · have hrest : c.filter (fun e => key e == key d) = [] :=
        List.filter_eq_nil_iff.mpr fun x hx hk => h.1 (eq_of_beq hk ▸ List.mem_map_of_mem hx)
      rw [find, List.filter_cons, if_pos (beq_self_eq_true (key d)), hrest]
    · have hne : ¬ (key e == key d) = true := fun hk =>
        h.1 (eq_of_beq hk ▸ List.mem_map_of_mem hd)
      rw [find, List.filter_cons, if_neg hne]
      exact find_key h.2 hd

/-- **`put` overwrites the row of its key and leaves the other rows.** -/
theorem mem_put {c : List α} (h : (c.map key).Nodup) (d : α) :
    d ∈ put key new c ↔ d = new ∨ d ∈ c ∧ key d ≠ key new := by
  unfold put upsert
  by_cases hk : key new ∈ c.map key
  · rw [if_pos (any_key_iff.mpr hk)]
    exact mem_updateFirst_key h hk d
  · rw [if_neg (fun hc => hk (any_key_iff.mp hc)), insert, List.mem_append, List.mem_singleton]
    constructor
    · rintro (hd | hd)
      · exact Or.inr ⟨hd, fun he => hk (he ▸ List.mem_map_of_mem hd)⟩
      · exact Or.inl hd
    · rintro (hd | hd)
      · exact Or.inr hd
      · exact Or.inl hd.1

/-- After `put` the key finds the new row and nothing else. -/
theorem find_put {c : List α} (h : (c.map key).Nodup) :
    find (fun d => key d == key new) (put key new c) = [new] :=
  find_key (nodup_put h) ((mem_put h new).mpr (Or.inl rfl))

/-- A query that meets neither the row of the key nor the new row does not see `put`. -/
theorem find_put_of_disjoint {q : α → Bool} {c : List α} (hnew : q new = false)
    (hold : ∀ d ∈ c, key d = key new → q d = false) : find q (put key new c) = find q c := by
  unfold put upsert
  split
  · exact find_updateFirst_of_disjoint fun d hd hk => ⟨hold d hd (eq_of_beq hk), hnew⟩
  · rw [find_insert, hnew]
    exact List.append_nil _

/-- **`put` is the update of the map.** -/
theorem Represents.put {value : α → β} {rows : List α} {m : κ → Option β}
    (h : Represents key value rows m) (hkeys : (rows.map key).Nodup) (new : α) :
    Represents key value (put key new rows) (Function.update m (key new) (some (value new))) := by
  intro k v
  simp only [mem_put hkeys]
  by_cases hk : k = key new
  · rw [hk, Function.update_self, Option.some.injEq]
    constructor
    · exact fun hv => ⟨new, Or.inl rfl, rfl, hv⟩
    · rintro ⟨r, rfl | ⟨_, hne⟩, hr, hv⟩
      · exact hv
      · exact absurd hr hne
  · rw [Function.update_of_ne hk, h k v]
    constructor
    · rintro ⟨r, hr, hkr, hv⟩
      exact ⟨r, Or.inr ⟨hr, hkr ▸ hk⟩, hkr, hv⟩
    · rintro ⟨r, rfl | ⟨hr, _⟩, hkr, hv⟩
      · exact absurd hkr.symm hk
      · exact ⟨r, hr, hkr, hv⟩

/-- The keys that are counted once. -/
theorem mem_groupCount_one {c : List α} {k : κ} :
    (k, 1) ∈ groupCount key c ↔ c.countP (fun d => key d = k) = 1 := by
  have hcount : (c.map key).count k = c.countP fun d => key d = k := by
    rw [List.count_eq_countP, List.countP_map]
    exact List.countP_congr fun d _ => by simp
  unfold groupCount
  rw [List.mem_map, ← hcount]
  constructor
  · rintro ⟨x, _, hx⟩
    rw [Prod.mk.injEq] at hx
    rw [← hx.1]
    exact hx.2
  · intro h
    have hmem : k ∈ c.map key := List.count_pos_iff.mp (by omega)
    exact ⟨k, List.mem_dedup.mpr hmem, by rw [h]⟩

end Keyed

end Collection

end Infra
