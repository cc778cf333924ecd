import MicroserviceCommon.Infra.Aggregate
import MicroserviceCommon.Infra.Run
import MicroserviceCommon.Storage.Description

/-!
# Session descriptions as a map

What the description collection is for: a finite map from (persistence set, session number)
to the ranges of the session. `SessionMap` is that map with the three operations it should have.

The code finds a description by its session number alone, in `isSessionExistInDescription` and in
the query of `updateSessionDescription`, although one collection serves all sets
and `deleteSessionDescription` does name the set.

* `descriptions_refine_map_iff` — a run behaves like the map exactly when no insert or update
  names a session number that another set holds
* `descriptions_not_map` — two sets with one session number break it
-/

namespace MicroserviceCommon

open Infra

/-! ## The map -/

/-- What a description says about its session. -/
structure SessionRanges where
  minLogicStep : TLogicStep
  maxLogicStep : TLogicStep
  minTimestampMillisec : Int64
  maxTimestampMillisec : Int64
  deriving DecidableEq, Repr

def SEventsSessionInfo.ranges (i : SEventsSessionInfo) : SessionRanges :=
  ⟨i.minLogicStep, i.maxLogicStep, i.minTimestampMillisec, i.maxTimestampMillisec⟩

inductive DescriptionOp where
  | insert (persId : TPersistenceSetId) (descr : SEventsSessionInfo)
  | update (persId : TPersistenceSetId) (descr : SEventsSessionInfo)
  | delete (persId : TPersistenceSetId) (num : TSessionNum)
  deriving DecidableEq, Repr

def DescriptionOp.persId : DescriptionOp → TPersistenceSetId
  | insert p _ | update p _ | delete p _ => p

abbrev SessionMap := TPersistenceSetId → TSessionNum → Option SessionRanges

namespace SessionMap

def empty : SessionMap := fun _ _ => none

def store (m : SessionMap) (p : TPersistenceSetId) (d : SEventsSessionInfo) : SessionMap :=
  fun q n => if q = p ∧ n = d.number then some d.ranges else m q n

/-- The number `ALL_SESSION_NUM` stands for all sessions of the set. -/
def erase (m : SessionMap) (p : TPersistenceSetId) (num : TSessionNum) : SessionMap :=
  fun q n => if q = p ∧ (num = allSessionNum ∨ n = num) then none else m q n

/-- An insert succeeds on an absent key, an update on a present one. -/
def exec (m : SessionMap) : DescriptionOp → SessionMap × Bool
  | .insert p d => if (m p d.number).isSome then (m, false) else (m.store p d, true)
  | .update p d => if (m p d.number).isSome then (m.store p d, true) else (m, false)
  | .delete p num => (m.erase p num, true)

end SessionMap

/-! ## The code next to the map -/

/-- The function of the source, its mongoc call succeeding. -/
def DescriptionOp.exec (t : List Doc) : DescriptionOp → List Doc × Bool
  | .insert p d => insertSessionDescription true t p d
  | .update p d => updateSessionDescription true t p d
  | .delete p num => (deleteSessionDescription true t p num, true)

/-- The collection beside the map it should be. -/
abbrev DescriptionState := List Doc × SessionMap

def DescriptionState.step (s : DescriptionState) (op : DescriptionOp) : Option DescriptionState :=
  some ((op.exec s.1).1, (s.2.exec op).1)

/-- `selectSessionDescriptions(p)` lists every session of `p` once, with its ranges in the map. -/
def ListsMap (s : DescriptionState) : Prop :=
  ∀ p, ((selectSessionDescriptions s.1 p).map (·.number)).Nodup ∧
    ∀ n r, (∃ i ∈ selectSessionDescriptions s.1 p, i.number = n ∧ i.ranges = r) ↔ s.2 p n = some r

/-- The operation succeeds exactly when that of the map does, and other sets do not notice it. -/
def ActsOnMap (s : DescriptionState) (op : DescriptionOp) : Prop :=
  (op.exec s.1).2 = (s.2.exec op).2 ∧
    ∀ q, q ≠ op.persId →
      selectSessionDescriptions (op.exec s.1).1 q = selectSessionDescriptions s.1 q

/-- No other persistence set holds the session number that is inserted or updated. -/
def NumberUnshared (s : DescriptionState) : DescriptionOp → Prop
  | .insert p d | .update p d =>
    ∀ q, q ≠ p → ∀ i ∈ selectSessionDescriptions s.1 q, i.number ≠ d.number
  | .delete _ _ => True

/-! ## The functions on rows -/

/-- The session number of a row, the key the code looks for. -/
def DescriptionRow.number (r : DescriptionRow) : TSessionNum := r.2.number

section Rows

variable {rows : List DescriptionRow} {p : TPersistenceSetId} {d : SEventsSessionInfo}

theorem selectSessionDescriptions_rows (rows : List DescriptionRow) (p : TPersistenceSetId) :
    selectSessionDescriptions (rows.map DescriptionRow.toDoc) p =
      (rows.filter (·.1 == p)).map fun r => r.2.stored := by
  rw [selectSessionDescriptions, Collection.find_map (p := fun r => r.1 == p)
    (fun r => query_persistence_toDoc r p), List.map_map]
  rfl

theorem mem_select_rows {i : SEventsSessionInfo} :
    i ∈ selectSessionDescriptions (rows.map DescriptionRow.toDoc) p ↔
      ∃ d, (p, d) ∈ rows ∧ d.stored = i := by
  rw [selectSessionDescriptions_rows]
  simp only [List.mem_map, List.mem_filter, beq_iff_eq]
  constructor
  · rintro ⟨r, ⟨hr, rfl⟩, hi⟩
    exact ⟨r.2, hr, hi⟩
  · rintro ⟨d, hd, hi⟩
    exact ⟨(p, d), ⟨hd, rfl⟩, hi⟩

/-- **The existence check sees the rows of every set.** -/
theorem isSessionExist_rows (num : TSessionNum) :
    isSessionExistInDescription (rows.map DescriptionRow.toDoc) num = true ↔
      num ∈ rows.map DescriptionRow.number := by
  rw [isSessionExistInDescription,
    Collection.find_map (p := fun r => DescriptionRow.number r == num)
    (fun r => query_session_toDoc r num)]
  simp [Collection.find, DescriptionRow.number]

/-- Without failures an insert or an update is `put` by session number, when it is let through. -/
theorem insert_rows : insertSessionDescription true (rows.map DescriptionRow.toDoc) p d =
    if d.number ∈ rows.map DescriptionRow.number then (rows.map DescriptionRow.toDoc, false)
    else ((Collection.put DescriptionRow.number (p, d) rows).map DescriptionRow.toDoc, true) := by
  unfold insertSessionDescription
  by_cases h : d.number ∈ rows.map DescriptionRow.number
  · rw [if_pos (isSessionExist_rows d.number |>.mpr h), if_pos h]
  · rw [if_neg (fun hc => h (isSessionExist_rows d.number |>.mp hc)), if_neg h, if_pos rfl]
    have hput : Collection.put DescriptionRow.number (p, d) rows = Collection.insert rows (p, d) :=
      if_neg fun hc => h (Collection.any_key_iff.mp hc)
    rw [hput, Collection.insert, Collection.insert, List.map_append]
    rfl

theorem update_rows : updateSessionDescription true (rows.map DescriptionRow.toDoc) p d =
    if d.number ∈ rows.map DescriptionRow.number then
      ((Collection.put DescriptionRow.number (p, d) rows).map DescriptionRow.toDoc, true)
    else (rows.map DescriptionRow.toDoc, false) := by
  unfold updateSessionDescription
  by_cases h : d.number ∈ rows.map DescriptionRow.number
  · rw [isSessionExist_rows d.number |>.mpr h, if_pos h]
    have hput : Collection.put DescriptionRow.number (p, d) rows =
        Collection.updateFirst (fun r => DescriptionRow.number r == d.number) (fun _ => (p, d))
          rows :=
      if_pos (Collection.any_key_iff.mpr h)
    rw [hput, ← Collection.updateFirst_map (p := fun r => DescriptionRow.number r == d.number)
      (fun r => query_session_toDoc r d.number) (fun r => set_descriptionDoc (p, d) r)]
    rfl
  · rw [if_neg h, if_pos]
    simp only [Bool.not_eq_true', Bool.eq_false_iff, ne_eq, isSessionExist_rows]
    exact h

theorem delete_rows (num : TSessionNum) :
    deleteSessionDescription true (rows.map DescriptionRow.toDoc) p num =
      (Collection.remove
        (fun r => r.1 == p && (num == allSessionNum || DescriptionRow.number r == num)) rows).map
          DescriptionRow.toDoc := by
  unfold deleteSessionDescription
  rw [if_pos rfl]
  refine Collection.remove_map (fun r => ?_) rows
  split
  · next h => simp [h]
  · next h => simp [Query.and, beq_eq_false_iff_ne.mpr h, DescriptionRow.number]

end Rows

/-! ## The invariant -/

/--
The rows behind a state that has behaved like the map so far.

Session numbers are unique in the whole collection, across sets:
the code lets nothing else in.
-/
structure MapRows (s : DescriptionState) (rows : List DescriptionRow) : Prop where
  docs : s.1 = rows.map DescriptionRow.toDoc
  numbers : (rows.map DescriptionRow.number).Nodup
  lookup : ∀ p n r, s.2 p n = some r ↔ ∃ d, (p, d) ∈ rows ∧ d.number = n ∧ d.ranges = r

namespace MapRows

variable {s : DescriptionState} {rows : List DescriptionRow} {p : TPersistenceSetId}
  {d : SEventsSessionInfo}

theorem empty : MapRows ([], SessionMap.empty) [] where
  docs := rfl
  numbers := List.nodup_nil
  lookup := fun p n r => by simp [SessionMap.empty]

theorem isSome_iff (h : MapRows s rows) {n : TSessionNum} :
    (s.2 p n).isSome = true ↔ ∃ d, (p, d) ∈ rows ∧ d.number = n := by
  rw [Option.isSome_iff_exists]
  constructor
  · rintro ⟨r, hr⟩
    obtain ⟨d, hd, hn, _⟩ := (h.lookup p n r).mp hr
    exact ⟨d, hd, hn⟩
  · rintro ⟨d, hd, hn⟩
    exact ⟨d.ranges, (h.lookup p n _).mpr ⟨d, hd, hn, rfl⟩⟩

/-- Such a collection lists the map. -/
theorem listsMap (h : MapRows s rows) : ListsMap s := by
  intro p
  rw [h.docs]
  constructor
  · rw [selectSessionDescriptions_rows, List.map_map]
    exact h.numbers.sublist (List.filter_sublist.map DescriptionRow.number)
  · intro n r
    rw [h.lookup]
    constructor
    · rintro ⟨i, hi, hn, hr⟩
      obtain ⟨d, hd, rfl⟩ := mem_select_rows.mp hi
      exact ⟨d, hd, hn, hr⟩
    · rintro ⟨d, hd, hn, hr⟩
      exact ⟨d.stored, mem_select_rows.mpr ⟨d, hd, rfl⟩, hn, hr⟩

/-- Under the condition, the check by number is the check by set and number. -/
theorem mem_numbers_iff (h : MapRows s rows)
    (hc : ∀ q, q ≠ p → ∀ i ∈ selectSessionDescriptions s.1 q, i.number ≠ d.number) :
    d.number ∈ rows.map DescriptionRow.number ↔ (s.2 p d.number).isSome = true := by
  rw [h.isSome_iff, List.mem_map]
  constructor
  · rintro ⟨⟨q, e⟩, hmem, hn⟩
    by_cases hq : q = p
    · exact ⟨e, hq ▸ hmem, hn⟩
    · refine absurd hn (hc q hq e.stored ?_)
      rw [h.docs]
      exact mem_select_rows.mpr ⟨e, hmem, rfl⟩
  · rintro ⟨e, hmem, hn⟩
    exact ⟨(p, e), hmem, hn⟩

/-- Under the condition, `put` by number is the map's `store`. -/
theorem put (h : MapRows s rows)
    (hc : ∀ q, q ≠ p → ∀ i ∈ selectSessionDescriptions s.1 q, i.number ≠ d.number) :
    MapRows ((Collection.put DescriptionRow.number (p, d) rows).map DescriptionRow.toDoc,
      s.2.store p d) (Collection.put DescriptionRow.number (p, d) rows) where
  docs := rfl
  numbers := Collection.nodup_put h.numbers
  lookup := by
    intro q n r
    simp only [SessionMap.store, Collection.mem_put h.numbers]
    split
    · next hqn =>
      obtain ⟨rfl, rfl⟩ := hqn
      constructor
      · intro hr
        exact ⟨d, Or.inl rfl, rfl, Option.some.inj hr⟩
      · rintro ⟨e, he | ⟨_, hne⟩, hn, hr⟩
        · cases he
          rw [hr]
        · exact absurd hn hne
    · next hqn =>
      rw [h.lookup]
      constructor
      · rintro ⟨e, he, hn, hr⟩
        refine ⟨e, Or.inr ⟨he, fun hk => ?_⟩, hn, hr⟩
        -- a row of the same number belongs to `p`, so it is the one that is overwritten
        by_cases hq : q = p
        · exact hqn ⟨hq, hn ▸ hk⟩
        · exact hc q hq e.stored (by rw [h.docs]; exact mem_select_rows.mpr ⟨e, he, rfl⟩) hk
      · rintro ⟨e, he | ⟨he, _⟩, hn, hr⟩
        · cases he
          exact absurd ⟨rfl, hn.symm⟩ hqn
        · exact ⟨e, he, hn, hr⟩

theorem delete (h : MapRows s rows) (num : TSessionNum) :
    MapRows (deleteSessionDescription true s.1 p num, s.2.erase p num)
      (Collection.remove
        (fun r => r.1 == p && (num == allSessionNum || DescriptionRow.number r == num)) rows) where
  docs := by
    show deleteSessionDescription true s.1 p num = _
    rw [h.docs, delete_rows]
  numbers := Collection.nodup_remove h.numbers
  lookup := by
    intro q n r
    simp only [SessionMap.erase, Collection.mem_remove, DescriptionRow.number,
      Bool.and_eq_false_iff, Bool.or_eq_false_iff, beq_eq_false_iff_ne]
    split
    · next hqn =>
      refine ⟨fun hr => by simp at hr, ?_⟩
      rintro ⟨e, ⟨_, hq | ⟨hall, hnum⟩⟩, hn, _⟩
      · exact absurd hqn.1 hq
      · rcases hqn.2 with h1 | h1
        · exact absurd h1 hall
        · exact absurd (hn.trans h1) hnum
    · next hqn =>
      rw [h.lookup]
      constructor
      · rintro ⟨e, he, hn, hr⟩
        refine ⟨e, ⟨he, ?_⟩, hn, hr⟩
        by_cases hq : q = p
        · exact Or.inr ⟨fun hall => hqn ⟨hq, Or.inl hall⟩,
            fun hk => hqn ⟨hq, Or.inr (hn.symm.trans hk)⟩⟩
        · exact Or.inl hq
      · rintro ⟨e, ⟨he, _⟩, hn, hr⟩
        exact ⟨e, he, hn, hr⟩

end MapRows

/-! ## One step -/

section Step

variable {s : DescriptionState} {rows : List DescriptionRow} {p : TPersistenceSetId}
  {d : SEventsSessionInfo}

/-- `put` on a set shows to no other set, when the overwritten row was not theirs. -/
theorem select_put_other (h : MapRows s rows)
    (hc : ∀ q, q ≠ p → ∀ i ∈ selectSessionDescriptions s.1 q, i.number ≠ d.number)
    {q : TPersistenceSetId} (hq : q ≠ p) :
    selectSessionDescriptions
        ((Collection.put DescriptionRow.number (p, d) rows).map DescriptionRow.toDoc) q =
      selectSessionDescriptions s.1 q := by
  rw [h.docs, selectSessionDescriptions_rows, selectSessionDescriptions_rows]
  refine congrArg _ (Collection.find_put_of_disjoint (beq_eq_false_iff_ne.mpr hq.symm) ?_)
  intro r hr hk
  rw [beq_eq_false_iff_ne]
  intro hrq
  refine hc q hq r.2.stored ?_ hk
  rw [h.docs]
  exact mem_select_rows.mpr ⟨r.2, hrq ▸ hr, rfl⟩

theorem select_delete_other (h : MapRows s rows) (num : TSessionNum) {q : TPersistenceSetId}
    (hq : q ≠ p) : selectSessionDescriptions (deleteSessionDescription true s.1 p num) q =
      selectSessionDescriptions s.1 q := by
  rw [h.docs, delete_rows, selectSessionDescriptions_rows, selectSessionDescriptions_rows]
  refine congrArg _ (Collection.find_remove_of_disjoint (fun r hr => ?_) rows)
  have hrq : r.1 = q := eq_of_beq hr
  rw [beq_eq_false_iff_ne.mpr (hrq ▸ hq), Bool.false_and]

/-- **A step that meets the condition keeps the invariant and acts as the map does.** -/
theorem actsOnMap_of_numberUnshared {op : DescriptionOp} (h : MapRows s rows)
    (hc : NumberUnshared s op) :
    ActsOnMap s op ∧ ∃ rows', MapRows ((op.exec s.1).1, (s.2.exec op).1) rows' := by
  cases op with
  | insert p d =>
    have hmem := h.mem_numbers_iff hc
    simp only [ActsOnMap, DescriptionOp.exec, SessionMap.exec, DescriptionOp.persId]
    by_cases hk : d.number ∈ rows.map DescriptionRow.number
    · rw [if_pos (hmem.mp hk), h.docs, insert_rows, if_pos hk]
      exact ⟨⟨rfl, fun _ _ => rfl⟩, rows, rfl, h.numbers, h.lookup⟩
    · rw [if_neg (fun hs => hk (hmem.mpr hs)), h.docs, insert_rows, if_neg hk, ← h.docs]
      exact ⟨⟨rfl, fun q hq => select_put_other h hc hq⟩, _, h.put hc⟩
  | update p d =>
    have hmem := h.mem_numbers_iff hc
    simp only [ActsOnMap, DescriptionOp.exec, SessionMap.exec, DescriptionOp.persId]
    by_cases hk : d.number ∈ rows.map DescriptionRow.number
    · rw [if_pos (hmem.mp hk), h.docs, update_rows, if_pos hk, ← h.docs]
      exact ⟨⟨rfl, fun q hq => select_put_other h hc hq⟩, _, h.put hc⟩
    · rw [if_neg (fun hs => hk (hmem.mpr hs)), h.docs, update_rows, if_neg hk]
      exact ⟨⟨rfl, fun _ _ => rfl⟩, rows, rfl, h.numbers, h.lookup⟩
  | delete p num => exact ⟨⟨rfl, fun q hq => select_delete_other h num hq⟩, _, h.delete num⟩

/-- The number of another set's session is absent from the map at `p`. -/
theorem isSome_eq_false_of_shared (h : MapRows s rows) {q : TPersistenceSetId} (hq : q ≠ p)
    {i : SEventsSessionInfo} (hi : i ∈ selectSessionDescriptions s.1 q)
    (hn : i.number = d.number) :
    d.number ∈ rows.map DescriptionRow.number ∧ (s.2 p d.number).isSome = false := by
  rw [h.docs] at hi
  obtain ⟨e, he, rfl⟩ := mem_select_rows.mp hi
  refine ⟨List.mem_map.mpr ⟨(q, e), he, hn⟩, ?_⟩
  rw [Bool.eq_false_iff, ne_eq, h.isSome_iff]
  rintro ⟨e', he', hn'⟩
  -- both rows carry the number, which is unique in the collection
  have hrow := List.inj_on_of_nodup_map h.numbers he he' (hn.trans hn'.symm)
  exact hq (congrArg Prod.fst hrow)

/-- A step that breaks the condition returns the wrong result. -/
theorem numberUnshared_of_actsOnMap {op : DescriptionOp} (h : MapRows s rows)
    (hl : ActsOnMap s op) : NumberUnshared s op := by
  have hret := hl.1
  cases op with
  | insert p d =>
    intro q hq i hi hn
    obtain ⟨hk, hs⟩ := isSome_eq_false_of_shared h hq hi hn
    simp [DescriptionOp.exec, SessionMap.exec, h.docs, insert_rows, hk, hs] at hret
  | update p d =>
    intro q hq i hi hn
    obtain ⟨hk, hs⟩ := isSome_eq_false_of_shared h hq hi hn
    simp [DescriptionOp.exec, SessionMap.exec, h.docs, update_rows, hk, hs] at hret
  | delete p num => trivial

end Step

/-! ## Whole runs -/

/--
**The descriptions are a map exactly while no session number is shared between sets.**

From the empty collection and for any operations on any sets: every state lists the map and every
operation succeeds and is local as the map's is, if and only if no insert or update of the run
names a session number that another set holds at that moment.
-/
theorem descriptions_refine_map_iff (ops : List DescriptionOp) :
    (AlwaysState DescriptionState.step ListsMap ([], SessionMap.empty) ops ∧
        AlwaysStep DescriptionState.step ActsOnMap ([], SessionMap.empty) ops) ↔
      AlwaysStep DescriptionState.step NumberUnshared ([], SessionMap.empty) ops := by
  refine alwaysStep_iff_of_inv DescriptionState.step (fun s => ∃ rows, MapRows s rows) ?_ ?_ ?_ ?_
    ops _ ⟨[], MapRows.empty⟩
  · rintro s ⟨rows, h⟩
    exact h.listsMap
  · rintro s op s' ⟨rows, h⟩ hc hs
    cases hs
    exact (actsOnMap_of_numberUnshared h hc).2
  · rintro s op s' ⟨rows, h⟩ _ hl _
    exact numberUnshared_of_actsOnMap h hl
  · rintro s op s' ⟨rows, h⟩ _ hc
    exact (actsOnMap_of_numberUnshared h hc).1

/--
Session 5 is recorded for set 1 and then for set 2. The map takes both,
the code refuses the description of set 2.
-/
theorem descriptions_not_map :
    ¬ (AlwaysState DescriptionState.step ListsMap ([], SessionMap.empty)
          [.insert 1 { number := 5 }, .insert 2 { number := 5 }] ∧
        AlwaysStep DescriptionState.step ActsOnMap ([], SessionMap.empty)
          [.insert 1 { number := 5 }, .insert 2 { number := 5 }]) := by
  rintro ⟨_, h⟩
  have hret := ((h _ rfl).2 _ rfl).1.1
  revert hret
  decide

end MicroserviceCommon
