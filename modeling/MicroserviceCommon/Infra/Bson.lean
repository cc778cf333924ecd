import MicroserviceCommon.Infra.Collection
import Mathlib.Data.List.TakeWhile

/-!
# BSON documents

The part of BSON and of the query language that typed records are stored with.

* `Bson` — the values, each with the width it was appended with
* `Doc` — the fields of a document in order
* `Query` — a filter document, as the predicate it denotes
* `iterInt32` … — the typed readers, which return a zero value on another type

A C string ends at its first NUL, so `cStr` stands where a `std::string` is passed by `c_str()`.
A character of a `String` stands for one byte of a `std::string`.
-/

namespace Infra

/-- The part of a string that `c_str()` shows to a C function. -/
def cStr (s : String) : String := String.ofList (s.toList.takeWhile (· ≠ '\x00'))

/-- No NUL byte inside. -/
def NulFree (s : String) : Prop := '\x00' ∉ s.toList

instance (s : String) : Decidable (NulFree s) := inferInstanceAs (Decidable (¬ _))

theorem cStr_of_nulFree {s : String} (h : NulFree s) : cStr s = s := by
  have hall : ∀ c ∈ s.toList, decide (c ≠ '\x00') = true := by
    intro c hc
    exact decide_eq_true fun he => h (he ▸ hc)
  rw [cStr, List.takeWhile_eq_self_iff.mpr hall, String.ofList_toList]

theorem nulFree_cStr (s : String) : NulFree (cStr s) := by
  rw [NulFree, cStr, String.toList_ofList]
  intro hmem
  simpa using List.mem_takeWhile_imp hmem

theorem cStr_eq_self_iff {s : String} : cStr s = s ↔ NulFree s :=
  ⟨fun h => h ▸ nulFree_cStr s, cStr_of_nulFree⟩

@[simp] theorem cStr_cStr (s : String) : cStr (cStr s) = cStr s :=
  cStr_of_nulFree (nulFree_cStr s)

/-- A double is kept as its 64 bits: the store copies it and never computes with it. -/
inductive Bson where
  | int32 (v : Int32)
  | int64 (v : Int64)
  | double (bits : UInt64)
  | bool (v : Bool)
  | utf8 (v : String)
  | utf8Array (vs : List String)
  deriving DecidableEq, Repr

namespace Bson

/-- The value of an integer, whatever its width. -/
def number? : Bson → Option Int
  | int32 v => some v.toInt
  | int64 v => some v.toInt
  | _ => none

/-- Integers are compared by value across widths, other values with their type. -/
def sameValue (a b : Bson) : Bool :=
  match a.number?, b.number? with
  | some x, some y => x == y
  | _, _ => a == b

/-- `$lte` on integers. Values that are no integers never match. -/
def atMost (a b : Bson) : Bool :=
  match a.number?, b.number? with
  | some x, some y => decide (x ≤ y)
  | _, _ => false

@[simp] theorem sameValue_int32 (a b : Int32) : sameValue (int32 a) (int32 b) = (a == b) := by
  rw [Bool.eq_iff_iff]
  simp [sameValue, number?, Int32.toInt_inj]

@[simp] theorem sameValue_int64 (a b : Int64) : sameValue (int64 a) (int64 b) = (a == b) := by
  rw [Bool.eq_iff_iff]
  simp [sameValue, number?, Int64.toInt_inj]

@[simp] theorem atMost_int64 (a b : Int64) : atMost (int64 a) (int64 b) = decide (a ≤ b) := by
  simp [atMost, number?, Int64.le_iff_toInt_le]

@[simp] theorem sameValue_utf8 (a b : String) : sameValue (utf8 a) (utf8 b) = (a == b) := by
  rw [Bool.eq_iff_iff]
  simp [sameValue, number?]

end Bson

/-! ## Documents -/

abbrev Doc := List (String × Bson)

namespace Doc

/-- The field names in order. -/
def keys (d : Doc) : List String := d.map Prod.fst

/-- `bson_iter_init_find`: the first field of that name. -/
def get? (d : Doc) (key : String) : Option Bson :=
  (d.find? fun f => f.1 == key).map Prod.snd

/-- One field of `$set`: overwrites the value in place, or appends the field. -/
def setField (d : Doc) (field : String × Bson) : Doc :=
  if d.any (fun f => f.1 == field.1) then
    d.map fun f => if f.1 == field.1 then field else f
  else d ++ [field]

/-- `$set` with all its fields. -/
def set (fields d : Doc) : Doc := fields.foldl setField d

theorem map_setField_of_not_mem {d : Doc} {f : String × Bson} (h : f.1 ∉ d.keys) :
    d.map (fun g => if g.1 == f.1 then f else g) = d := by
  rw [List.map_congr_left (g := id), List.map_id]
  intro g hg
  rw [if_neg]
  · rfl
  · intro he
    exact h (eq_of_beq he ▸ List.mem_map_of_mem hg)

/-- `setField` goes to the field of that name, wherever it stands. -/
theorem setField_append_cons {done rest : Doc} {old f : String × Bson} (hold : old.1 = f.1)
    (hdone : f.1 ∉ done.keys) (hrest : f.1 ∉ rest.keys) :
    setField (done ++ old :: rest) f = done ++ f :: rest := by
  unfold setField
  rw [if_pos (by simp [hold]), List.map_append, map_setField_of_not_mem hdone, List.map_cons,
    map_setField_of_not_mem hrest, if_pos (by simp [hold])]

theorem setField_of_not_mem {d : Doc} {f : String × Bson} (h : f.1 ∉ d.keys) :
    setField d f = d ++ [f] := by
  unfold setField
  rw [if_neg]
  simp only [List.any_eq_true, not_exists, not_and]
  intro g hg he
  exact h (eq_of_beq he ▸ List.mem_map_of_mem hg)

/-- The fields set so far stand in front, the names still to come behind them. -/
theorem foldl_setField : ∀ (fields done rest : Doc), (done ++ fields).keys.Nodup →
    rest.keys <+: fields.keys → fields.foldl setField (done ++ rest) = done ++ fields
  | [], done, rest, _, hpre => by
    have hrest : rest = [] := List.map_eq_nil_iff.mp (List.prefix_nil.mp hpre)
    rw [hrest]
    rfl
  | f :: fields, done, rest, hnd, hpre => by
    have hkeys : (done ++ [f] ++ fields).keys.Nodup := by simpa [keys] using hnd
    have hdone : f.1 ∉ done.keys := by
      intro hm
      rw [keys, List.map_append, List.nodup_append] at hnd
      exact hnd.2.2 _ hm _ (by simp) rfl
    have hfields : f.1 ∉ keys fields := by
      rw [keys, List.map_append, List.nodup_append, List.map_cons, List.nodup_cons] at hnd
      exact hnd.2.1.1
    rw [List.foldl_cons]
    cases rest with
    | nil =>
      -- nothing of the old document is left, the field is appended
      rw [List.append_nil, setField_of_not_mem hdone]
      simpa using foldl_setField fields (done ++ [f]) [] hkeys List.nil_prefix
    | cons old rest =>
      simp only [keys, List.map_cons, List.cons_prefix_cons] at hpre
      obtain ⟨hold, hpre⟩ := hpre
      rw [setField_append_cons hold hdone fun hm => hfields (hpre.subset hm)]
      simpa using foldl_setField fields (done ++ [f]) rest hkeys hpre

/-- **`$set` of every field of a document leaves exactly these fields.** -/
theorem set_of_keys {fields d : Doc} (hnd : fields.keys.Nodup) (hpre : d.keys <+: fields.keys) :
    set fields d = fields :=
  foldl_setField fields [] d hnd hpre

end Doc

def iterInt32 : Option Bson → Int32
  | some (.int32 v) => v
  | _ => 0

def iterInt64 : Option Bson → Int64
  | some (.int64 v) => v
  | _ => 0

def iterDouble : Option Bson → UInt64
  | some (.double bits) => bits
  | _ => 0

def iterBool : Option Bson → Bool
  | some (.bool v) => v
  | _ => false

def iterUtf8 : Option Bson → String
  | some (.utf8 v) => v
  | _ => ""

def iterUtf8Array : Option Bson → List String
  | some (.utf8Array vs) => vs
  | _ => []

/-! ## Queries -/

abbrev Query := Doc → Bool

namespace Query

/-- The empty filter document. -/
def all : Query := fun _ => true

/-- `{ key: v }`, also written `{ key: { $eq: v } }`. -/
def eq (key : String) (v : Bson) : Query := fun d => (d.get? key).any (·.sameValue v)

/-- `{ key: { $gte: v } }` -/
def gte (key : String) (v : Bson) : Query := fun d => (d.get? key).any (v.atMost ·)

/-- `{ key: { $lte: v } }` -/
def lte (key : String) (v : Bson) : Query := fun d => (d.get? key).any (·.atMost v)

/-- `{ key: { $in: vs } }`: every element counts, whatever keys the array gives them. -/
def isIn (key : String) (vs : List Bson) : Query :=
  fun d => vs.any fun v => eq key v d

/-- `$and` -/
def and (qs : List Query) : Query := fun d => qs.all (· d)

end Query

/-- An upsert by one field. The document it inserts starts from the field of the query. -/
def upsertBy (key : String) (v : Bson) (fields : Doc) (c : List Doc) : List Doc :=
  Collection.upsert (Query.eq key v) (Doc.set fields) (Doc.set fields [(key, v)]) c

/-- On encoded rows, `$set` of every field of the row is `put`. -/
theorem upsertBy_map {ρ κ : Type*} [DecidableEq κ] {enc : ρ → Doc} (key : ρ → κ) {field : String}
    {v : Bson} {fields : Doc} (new : ρ)
    (hq : ∀ r, Query.eq field v (enc r) = (key r == key new))
    (hset : ∀ r, Doc.set fields (enc r) = enc new)
    (hnew : Doc.set fields [(field, v)] = enc new) (rows : List ρ) :
    upsertBy field v fields (rows.map enc) = (Collection.put key new rows).map enc := by
  unfold upsertBy Collection.put
  rw [hnew]
  exact Collection.upsert_map hq hset new rows

/-! ## Values that occur once -/

/-- `$group` by a field with a count, then `$match` of the count 1. -/
def singleValues (field : String) (c : List Doc) : List (Option Bson) :=
  ((Collection.groupCount (fun d : Doc => d.get? field) c).filter fun g => g.2 == 1).map Prod.fst

theorem mem_singleValues {field : String} {c : List Doc} {v : Option Bson} :
    v ∈ singleValues field c ↔ c.countP (fun d => d.get? field = v) = 1 := by
  rw [← Collection.mem_groupCount_one, singleValues, List.mem_map]
  constructor
  · rintro ⟨⟨w, n⟩, hg, rfl⟩
    rw [List.mem_filter] at hg
    rw [show n = 1 from eq_of_beq hg.2] at hg
    exact hg.1
  · intro h
    exact ⟨(v, 1), List.mem_filter.mpr ⟨h, rfl⟩, rfl⟩

section Single

variable {ρ κ : Type*} [DecidableEq κ] {enc : ρ → Doc} {key : ρ → κ} {field : String}
  {val : κ → Bson} {dec : Option Bson → κ}

theorem mem_single_keys (hget : ∀ r, (enc r).get? field = some (val (key r)))
    (hdec : ∀ r, dec (some (val (key r))) = key r) (rows : List ρ) (k : κ) :
    k ∈ (singleValues field (rows.map enc)).map dec ↔ rows.countP (fun r => key r = k) = 1 := by
  have hinj : ∀ r s, (enc r).get? field = some (val (key s)) ↔ key r = key s := by
    intro r s
    rw [hget]
    constructor
    · intro h
      rw [← hdec r, h, hdec]
    · intro h
      rw [h]
  have hcount : ∀ s, (rows.map enc).countP (fun d => d.get? field = some (val (key s))) =
      rows.countP fun r => key r = key s := by
    intro s
    rw [List.countP_map]
    exact List.countP_congr fun r _ => by simp [hinj]
  rw [List.mem_map]
  constructor
  · rintro ⟨v, hv, rfl⟩
    rw [mem_singleValues] at hv
    obtain ⟨d, hd, hdv⟩ := List.countP_pos_iff.mp (hv ▸ Nat.one_pos)
    obtain ⟨r, _, rfl⟩ := List.mem_map.mp hd
    rw [decide_eq_true_eq, hget] at hdv
    rw [← hdv, hcount] at hv
    rw [← hdv, hdec]
    exact hv
  · intro h
    obtain ⟨r, _, hr⟩ := List.countP_pos_iff.mp (h ▸ Nat.one_pos)
    rw [decide_eq_true_eq] at hr
    subst hr
    exact ⟨some (val (key r)), mem_singleValues.mpr (by rw [hcount]; exact h), hdec r⟩

variable (key val dec) in
/-- **The two queries select the rows whose key occurs once.** -/
theorem find_isIn_single (hget : ∀ r, (enc r).get? field = some (val (key r)))
    (hdec : ∀ r, dec (some (val (key r))) = key r)
    (hval : ∀ r s, (val (key r)).sameValue (val (key s)) = (key r == key s)) (rows : List ρ) :
    Collection.find (Query.isIn field (((singleValues field (rows.map enc)).map dec).map val))
        (rows.map enc) =
      (rows.filter fun r => rows.countP (fun s => key s = key r) == 1).map enc := by
  refine Collection.find_map (fun r => ?_) rows
  rw [Bool.eq_iff_iff, beq_iff_eq, ← mem_single_keys hget hdec rows, Query.isIn,
    List.any_eq_true]
  simp only [Query.eq, hget, Option.any_some]
  constructor
  · rintro ⟨v, hv, he⟩
    obtain ⟨k, hk, rfl⟩ := List.mem_map.mp hv
    obtain ⟨s, _, hs⟩ := List.countP_pos_iff.mp
      ((mem_single_keys hget hdec rows k).mp hk ▸ Nat.one_pos)
    rw [decide_eq_true_eq] at hs
    subst hs
    rw [hval, beq_iff_eq] at he
    exact he ▸ hk
  · intro h
    exact ⟨_, List.mem_map_of_mem h, by rw [hval]; exact beq_self_eq_true _⟩

end Single

end Infra
