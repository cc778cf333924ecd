import MicroserviceCommon.Infra.Partition
import MicroserviceCommon.Storage.Payload
import MicroserviceCommon.Properties.PayloadReferences

/-!
# Isolation of payload tables

What the payload of a persistence set is for: a list of records that only this set adds to
and only this set clears. The sets are kept apart by the names of their tables alone.

The names of two DSS sets that differ in `realData` are the same, and an update may take a name
that another set has or give a set another name.

* `payload_isolated` — every set reads what was written through it, also after a restart,
  in runs whose metadata writes keep names and ids in bijection and have a table reference
* `payload_shared` — real and simulated data of one mission end up in one table
-/

namespace MicroserviceCommon

open Infra
open DatabaseManagerBase

/-! ## Runs -/

/-- `written` are the records that each set wrote since it was last cleared. -/
structure PayloadState where
  manager : DatabaseManagerBase
  written : TPersistenceSetId → List SPersistenceTrajectory := fun _ => []

inductive PayloadOp where
  | init (index : Bool)
  | restart (index : Bool)
  | writeMetadata (rt : MetadataResults) (w : MetadataRecord)
  | writeTrajectory (rt : Bool) (persId : TPersistenceSetId) (data : List SPersistenceTrajectory)
  | deleteRange (rt : Bool) (filter : SPersistenceSetFilter)
  deriving DecidableEq, Repr

namespace PayloadState

def inited (databaseName : String) : PayloadState where
  manager := DatabaseManagerBase.inited databaseName

def step (s : PayloadState) : PayloadOp → Option PayloadState
  | .init index =>
    (s.manager.init true index s.manager.databaseName).map fun (m, _) => { s with manager := m }
  | .restart index =>
    (s.manager.restart true index s.manager.databaseName).map fun (m, _) => { s with manager := m }
  | .writeMetadata rt w => (w.write rt s.manager).map fun (m, _) => { s with manager := m }
  | .writeTrajectory rt persId data =>
    (s.manager.writeTrajectoryData rt persId data).map fun (m, ok) =>
      { manager := m
        written := if ok then Function.update s.written persId (s.written persId ++ data)
          else s.written }
  | .deleteRange rt filter =>
    (s.manager.deleteDataRange rt filter).map fun m =>
      { manager := m
        written := if rt then Function.update s.written filter.persistenceSetId []
          else s.written }

end PayloadState

/-- A whole-area read returns these records in some order, as far as they are stored. -/
def ReadsExactly (m : DatabaseManagerBase) (persId : TPersistenceSetId)
    (records : List SPersistenceTrajectory) : Prop :=
  ∀ (uninit : Nat → SPersistenceTrajectory) (filter : SPersistenceSetFilter),
    filter.persistenceSetId = persId → ¬ (filter.minLogicStep ≥ 0 ∧ filter.maxLogicStep ≥ 0) →
      ∃ out, m.readTrajectoryData uninit filter = some out ∧
        (out.map SPersistenceTrajectory.observed).Perm
          (records.map SPersistenceTrajectory.observed)

/-- Every stored set reads what it wrote, now and after a restart. -/
structure PayloadIsolated (s : PayloadState) : Prop where
  reads : ∀ d ∈ s.manager.db.persistenceMetadata,
    ReadsExactly s.manager (MetadataDoc.persistenceId d) (s.written (MetadataDoc.persistenceId d))
  restarted : ∃ m, s.manager.restart true true s.manager.databaseName = some (m, true) ∧
    ∀ d ∈ s.manager.db.persistenceMetadata,
      ReadsExactly m (MetadataDoc.persistenceId d) (s.written (MetadataDoc.persistenceId d))

/-- A metadata write that is stored has the id of a set exactly when it has the table name of
that set, and a creation is stored. -/
def KeepsTablesApart (s : PayloadState) : PayloadOp → Prop
  | .writeMetadata rt w =>
    (w.creates → rt.global = true) ∧
      (rt.global = true → ∀ name ∈ w.payloadTableName s.manager,
        ∀ d ∈ s.manager.db.persistenceMetadata,
          MetadataDoc.persistenceId d = w.descr.persistenceSetId ↔
            MetadataDoc.payloadTableName d = cStr name)
  | .init _ | .restart _ | .writeTrajectory _ _ _ | .deleteRange _ _ => True

instance (s : PayloadState) (op : PayloadOp) : Decidable (KeepsTablesApart s op) :=
  match op with
  | .writeMetadata _ _ => inferInstanceAs (Decidable (_ ∧ _))
  | .init _ | .restart _ | .writeTrajectory _ _ _ | .deleteRange _ _ =>
    inferInstanceAs (Decidable True)

/-- An update that is stored has the id of a set with a table reference. -/
def HasReference (s : PayloadState) : PayloadOp → Prop
  | .writeMetadata rt w => rt.global = true → ¬ w.creates →
      (s.manager.tablesByPersistenceId w.descr.persistenceSetId).isSome = true
  | .init _ | .restart _ | .writeTrajectory _ _ _ | .deleteRange _ _ => True

instance (s : PayloadState) (op : PayloadOp) : Decidable (HasReference s op) :=
  match op with
  | .writeMetadata _ _ => inferInstanceAs (Decidable (_ → _ → _))
  | .init _ | .restart _ | .writeTrajectory _ _ _ | .deleteRange _ _ =>
    inferInstanceAs (Decidable True)

/-- The references are read from the stored sets. -/
def PayloadOp.Opens : PayloadOp → Prop
  | .init _ | .restart _ => True
  | .writeMetadata _ _ | .writeTrajectory _ _ _ | .deleteRange _ _ => False

/-! ## The invariant -/

/-- The tables are divided over the stored sets, and every reference is to the table of its set. -/
structure Apart (s : PayloadState) (rows : List MetadataRow) : Prop where
  docs : s.manager.db.persistenceMetadata = rows.map MetadataRow.toDoc
  division : Partitioned (rows.map MetadataRow.entry) s.manager.db.payload
    fun p => (s.written p).map trajectoryDoc
  references : ∀ p t, s.manager.tablesByPersistenceId p = some t →
    (p, t) ∈ rows.map MetadataRow.entry

/-- Every stored set has a table reference. -/
def Referenced (s : PayloadState) : Prop :=
  ∀ d ∈ s.manager.db.persistenceMetadata,
    (s.manager.tablesByPersistenceId (MetadataDoc.persistenceId d)).isSome = true

namespace Apart

variable {s s' : PayloadState} {rows : List MetadataRow}

theorem inited (databaseName : String) : Apart (PayloadState.inited databaseName) [] where
  docs := rfl
  division := Partitioned.nil
  references := fun _ _ h => by cases h

theorem ids (h : Apart s rows) : (rows.map MetadataRow.persId).Nodup := by
  have hkeys := h.division.keys
  rw [List.map_map] at hkeys
  exact hkeys

theorem pos_of_mem_entry {p : TPersistenceSetId} {t : String}
    (h : (p, t) ∈ rows.map MetadataRow.entry) : p > 0 := by
  obtain ⟨r, _, hr⟩ := List.mem_map.mp h
  cases hr
  exact r.persId_pos

end Apart

/-- A table with these documents is read as these records. -/
theorem readsExactly_of_payload {m : DatabaseManagerBase} {p : TPersistenceSetId} {t : String}
    {records : List SPersistenceTrajectory} (hpos : p > 0)
    (href : m.tablesByPersistenceId p = some t)
    (hpayload : m.db.payload t = records.map trajectoryDoc) : ReadsExactly m p records := by
  rintro uninit filter rfl harea
  have hquery : trajectoryQuery filter = Query.all := by
    rw [trajectoryQuery, if_neg, if_neg harea]
    rintro ⟨he, hmin⟩
    exact harea ⟨hmin, he ▸ hmin⟩
  refine ⟨(records.map trajectoryDoc).mapIdx fun i doc => readTrajectory (uninit i) doc, ?_,
    List.Perm.of_eq ?_⟩
  · rw [readTrajectoryData, getPayloadTableRef, if_pos hpos, href, Option.map_some, hpayload,
      hquery]
    congr 2
    exact List.filter_eq_self.mpr fun _ _ => rfl
  · refine List.ext_getElem (by simp) fun i h₁ h₂ => ?_
    simp [observed_readTrajectory]

namespace Apart

variable {s s' : PayloadState} {rows : List MetadataRow}

theorem payload_eq (h : Apart s rows) {p : TPersistenceSetId} {t : String}
    (he : (p, t) ∈ rows.map MetadataRow.entry) :
    s.manager.db.payload t = (s.written p).map trajectoryDoc :=
  h.division.holds (p, t) he

theorem lookup_iff (h : Apart s rows) {p : TPersistenceSetId} {t : String} :
    UnorderedMap.insertAll UnorderedMap.empty (rows.map MetadataRow.entry) p = some t ↔
      (p, t) ∈ rows.map MetadataRow.entry := by
  rw [UnorderedMap.insertAll_apply, ← UnorderedMap.lookup_eq_some_iff h.division.keys]
  rfl

theorem payloadIsolated (h : Apart s rows) (hcomplete : Referenced s) : PayloadIsolated s where
  reads := by
    intro d hd
    obtain ⟨t, ht⟩ := Option.isSome_iff_exists.mp (hcomplete d hd)
    have he := h.references _ t ht
    exact readsExactly_of_payload (pos_of_mem_entry he) ht (h.payload_eq he)
  restarted := by
    refine ⟨_, (restart_rows h.docs).mpr ⟨rfl, rfl, Or.inl rfl⟩, fun d hd => ?_⟩
    rw [h.docs] at hd
    obtain ⟨r, hr, rfl⟩ := List.mem_map.mp hd
    have he : (r.persId, cStr r.payloadTableName) ∈ rows.map MetadataRow.entry :=
      List.mem_map_of_mem (f := MetadataRow.entry) hr
    exact readsExactly_of_payload r.persId_pos (h.lookup_iff.mpr he) (h.payload_eq he)

/-! ## Steps -/

theorem init (h : Apart s rows) {index : Bool} (hs : s.step (.init index) = some s') :
    Apart s' rows := by
  obtain ⟨⟨m, ok⟩, hinit, rfl⟩ := Option.map_eq_some_iff.mp hs
  obtain ⟨_, rfl, _⟩ := (init_rows h.docs).mp hinit
  refine ⟨h.docs, h.division, fun p t ht => ?_⟩
  change s.manager.tablesByPersistenceId.insertAll (rows.map MetadataRow.entry) p = some t at ht
  rw [UnorderedMap.insertAll_apply, Option.or_eq_some_iff] at ht
  rcases ht with ht | ⟨_, ht⟩
  · exact h.references p t ht
  · exact (UnorderedMap.lookup_eq_some_iff h.division.keys).mp ht

theorem restart (h : Apart s rows) {index : Bool} (hs : s.step (.restart index) = some s') :
    Apart s' rows := by
  obtain ⟨⟨m, ok⟩, hrestart, rfl⟩ := Option.map_eq_some_iff.mp hs
  obtain ⟨_, rfl, _⟩ := (restart_rows h.docs).mp hrestart
  exact ⟨h.docs, h.division, fun p t ht => h.lookup_iff.mp ht⟩

/-- The first row: nothing was written and no table has content. -/
theorem create (h : Apart s []) {m : DatabaseManagerBase} {rt : MetadataResults} {r : MetadataRow}
    (hw : MetadataWritten rt s.manager m [] invalidPersistenceId r) (hg : rt.global = true) :
    Apart { s with manager := m } [r] := by
  obtain ⟨_, htables, _⟩ := hw.create rfl
  refine ⟨?_, ?_, fun p t ht => ?_⟩
  · rw [hw.docs, if_pos hg]
    rfl
  · rw [hw.payload]
    exact h.division.add List.not_mem_nil List.not_mem_nil
  · rw [htables, UnorderedMap.insert_apply, Option.or_eq_some_iff] at ht
    rcases ht with ht | ⟨_, ht⟩
    · exact absurd (h.references p t ht) List.not_mem_nil
    · split at ht
      · next hp =>
        cases ht
        rw [hp]
        exact List.mem_singleton_self _
      · cases ht

/-- A row with a new id comes last. -/
theorem put_of_new {r : MetadataRow} (hnew : ∀ q ∈ rows, q.persId ≠ r.persId) :
    Collection.put MetadataRow.persId r rows = rows ++ [r] := by
  rw [Collection.put, Collection.upsert, if_neg, Collection.insert]
  rw [Collection.any_key_iff, List.mem_map]
  rintro ⟨q, hq, he⟩
  exact hnew q hq he

theorem update (h : Apart s rows) {m : DatabaseManagerBase} {rt : MetadataResults}
    {id : TPersistenceSetId} {r : MetadataRow} (hw : MetadataWritten rt s.manager m rows id r)
    (hid : id ≠ invalidPersistenceId)
    (happart : rt.global = true → ∀ q ∈ rows, q.persId = r.persId ↔
      cStr q.payloadTableName = cStr r.payloadTableName) :
    ∃ rows', Apart { s with manager := m } rows' := by
  obtain ⟨_, htables, _⟩ := hw.update hid
  cases hg : rt.global with
  | false =>
    refine ⟨rows, ?_, hw.payload ▸ h.division, htables ▸ h.references⟩
    rw [hw.docs, if_neg (by simp [hg])]
  | true =>
    have hiff := happart hg
    have hdocs := hw.docs
    rw [if_pos hg] at hdocs
    by_cases hex : ∃ q ∈ rows, q.persId = r.persId
    · -- the row of this id is overwritten and keeps its table
      obtain ⟨q, hq, hqr⟩ := hex
      have hmem := MetadataRow.mem_entry_put h.ids hq (Prod.ext hqr ((hiff q hq).mp hqr))
      refine ⟨_, hdocs, ?_, fun p t ht => ?_⟩
      · rw [hw.payload]
        refine h.division.of_mem_iff ?_ hmem
        rw [List.map_map]
        exact Collection.nodup_put h.ids
      · rw [htables] at ht
        exact (hmem _).mpr (h.references p t ht)
    · -- an update that stores its id for the first time, under a name that no set has
      have hnew : ∀ q ∈ rows, q.persId ≠ r.persId := fun q hq he => hex ⟨q, hq, he⟩
      rw [put_of_new hnew] at hdocs
      refine ⟨_, hdocs, ?_, fun p t ht => ?_⟩
      · rw [hw.payload, List.map_append]
        refine (h.division.add (e := r.entry) ?_ ?_).of_perm (List.perm_append_singleton _ _)
        · rw [List.map_map, List.mem_map]
          rintro ⟨q, hq, he⟩
          exact hnew q hq he
        · rw [List.map_map, List.mem_map]
          rintro ⟨q, hq, he⟩
          exact hnew q hq ((hiff q hq).mpr he)
      · rw [htables] at ht
        rw [List.map_append]
        exact List.mem_append_left _ (h.references p t ht)

/-- A change of the table of one set is a change of its records. -/
theorem setPayload (h : Apart s rows) {p : TPersistenceSetId} {t : String}
    (ht : s.manager.tablesByPersistenceId p = some t) (records : List SPersistenceTrajectory) :
    Apart
      { manager := s.manager.setPayload t (records.map trajectoryDoc)
        written := Function.update s.written p records } rows := by
  refine ⟨h.docs, ?_, h.references⟩
  have hdiv := h.division.update (h.references p t ht) (records.map trajectoryDoc)
  have hwritten : (fun q => (Function.update s.written p records q).map trajectoryDoc) =
      Function.update (fun q => (s.written q).map trajectoryDoc) p (records.map trajectoryDoc) :=
    Function.comp_update (List.map trajectoryDoc) s.written p records
  rw [hwritten]
  exact hdiv

theorem writeTrajectory (h : Apart s rows) {rt : Bool} {p : TPersistenceSetId}
    {data : List SPersistenceTrajectory} (hs : s.step (.writeTrajectory rt p data) = some s') :
    Apart s' rows := by
  obtain ⟨⟨m, ok⟩, hwrite, rfl⟩ := Option.map_eq_some_iff.mp hs
  obtain ⟨t, ht, he⟩ := Option.map_eq_some_iff.mp hwrite
  unfold getPayloadTableRef at ht
  split at ht
  · split at he
    · cases he
      rw [h.payload_eq (h.references p t ht), ← List.map_append]
      exact h.setPayload ht _
    · cases he
      exact h
  · cases ht

theorem deleteRange (h : Apart s rows) {rt : Bool} {filter : SPersistenceSetFilter}
    (hs : s.step (.deleteRange rt filter) = some s') : Apart s' rows := by
  obtain ⟨m, hdel, rfl⟩ := Option.map_eq_some_iff.mp hs
  obtain ⟨t, ht, rfl⟩ := Option.map_eq_some_iff.mp hdel
  unfold getPayloadTableRef at ht
  split at ht
  · cases rt with
    | false => exact h
    | true =>
      have hnil : Collection.remove Query.all (s.manager.db.payload t) = [] :=
        List.filter_eq_nil_iff.mpr fun _ _ => by simp [Query.all]
      simp only [if_true, hnil]
      exact h.setPayload ht []
  · cases ht

end Apart

theorem apart_step {s s' : PayloadState} {op : PayloadOp} (h : ∃ rows, Apart s rows)
    (hkeep : KeepsTablesApart s op) (hs : s.step op = some s') : ∃ rows, Apart s' rows := by
  obtain ⟨rows, h⟩ := h
  cases op with
  | init index => exact ⟨rows, h.init hs⟩
  | restart index => exact ⟨rows, h.restart hs⟩
  | writeTrajectory rt persId data => exact ⟨rows, h.writeTrajectory hs⟩
  | deleteRange rt filter => exact ⟨rows, h.deleteRange hs⟩
  | writeMetadata rt w =>
    obtain ⟨⟨m, id⟩, hwrite, rfl⟩ := Option.map_eq_some_iff.mp hs
    obtain ⟨r, _, hname, hw⟩ := MetadataRecord.write_spec h.docs hwrite
    obtain ⟨hstored, hbij⟩ := hkeep
    by_cases hc : w.creates
    · rw [show w.descr.persistenceSetId = invalidPersistenceId from hc] at hw
      obtain ⟨rfl, _⟩ := hw.create rfl
      exact ⟨[r], h.create hw (hstored hc)⟩
    · refine h.update hw hc fun hg q hq => ?_
      have hiff := hbij hg _ hname q.toDoc (by rw [h.docs]; exact List.mem_map_of_mem hq)
      rwa [persistenceId_toDoc, payloadTableName_toDoc, ← (hw.update hc).1] at hiff

/-! ## References -/

/-- What is read at an opening. -/
theorem Apart.referenced_of_opens {s s' : PayloadState} {op : PayloadOp} {rows : List MetadataRow}
    (h : Apart s rows) (hopens : op.Opens) (hs : s.step op = some s') : Referenced s' := by
  have hentry : ∀ r ∈ rows, (r.persId, cStr r.payloadTableName) ∈ rows.map MetadataRow.entry :=
    fun r hr => List.mem_map_of_mem (f := MetadataRow.entry) hr
  intro d hd
  cases op with
  | init index =>
    obtain ⟨⟨m, ok⟩, hinit, rfl⟩ := Option.map_eq_some_iff.mp hs
    obtain ⟨_, rfl, _⟩ := (init_rows h.docs).mp hinit
    obtain ⟨r, hr, rfl⟩ := List.mem_map.mp (h.docs ▸ hd)
    have hlookup := (UnorderedMap.lookup_eq_some_iff h.division.keys).mpr (hentry r hr)
    change (s.manager.tablesByPersistenceId.insertAll (rows.map MetadataRow.entry)
      r.persId).isSome = true
    rw [UnorderedMap.insertAll_apply, Option.isSome_or, hlookup, Option.isSome_some, Bool.or_true]
  | restart index =>
    obtain ⟨⟨m, ok⟩, hrestart, rfl⟩ := Option.map_eq_some_iff.mp hs
    obtain ⟨_, rfl, _⟩ := (restart_rows h.docs).mp hrestart
    obtain ⟨r, hr, rfl⟩ := List.mem_map.mp (h.docs ▸ hd)
    exact Option.isSome_iff_exists.mpr ⟨_, h.lookup_iff.mpr (hentry r hr)⟩
  | writeMetadata rt w => cases hopens
  | writeTrajectory rt persId data => cases hopens
  | deleteRange rt filter => cases hopens

/-- **A reference is lost by no step, and a stored update has one.** -/
theorem Apart.referenced_step {s s' : PayloadState} {op : PayloadOp} {rows : List MetadataRow}
    (h : Apart s rows) (href : Referenced s) (hhas : HasReference s op)
    (hs : s.step op = some s') : Referenced s' := by
  cases op with
  | init index => exact h.referenced_of_opens (show PayloadOp.Opens (.init index) from trivial) hs
  | restart index =>
    exact h.referenced_of_opens (show PayloadOp.Opens (.restart index) from trivial) hs
  | writeTrajectory rt persId data =>
    obtain ⟨⟨m, ok⟩, hwrite, rfl⟩ := Option.map_eq_some_iff.mp hs
    obtain ⟨t, _, he⟩ := Option.map_eq_some_iff.mp hwrite
    split at he <;> cases he <;> exact href
  | deleteRange rt filter =>
    obtain ⟨m, hdel, rfl⟩ := Option.map_eq_some_iff.mp hs
    obtain ⟨t, _, rfl⟩ := Option.map_eq_some_iff.mp hdel
    cases rt <;> exact href
  | writeMetadata rt w =>
    obtain ⟨⟨m, id⟩, hwrite, rfl⟩ := Option.map_eq_some_iff.mp hs
    obtain ⟨r, _, _, hw⟩ := MetadataRecord.write_spec h.docs hwrite
    intro d (hd : d ∈ m.db.persistenceMetadata)
    change (m.tablesByPersistenceId (MetadataDoc.persistenceId d)).isSome = true
    rw [hw.docs] at hd
    obtain ⟨q, hq, rfl⟩ := List.mem_map.mp hd
    rw [persistenceId_toDoc]
    have hold : ∀ q ∈ rows, (s.manager.tablesByPersistenceId q.persId).isSome = true :=
      fun q hq => href q.toDoc (h.docs ▸ List.mem_map_of_mem hq)
    by_cases hc : w.creates
    · obtain ⟨rfl, htables, _⟩ := hw.create hc
      cases hg : rt.global with
      | false =>
        rw [hg] at hq
        exact absurd hq List.not_mem_nil
      | true =>
        rw [hg] at hq
        obtain rfl := List.mem_singleton.mp hq
        rw [htables, UnorderedMap.insert_apply, Option.isSome_or, if_pos rfl, Option.isSome_some,
          Bool.or_true]
    · obtain ⟨hid, htables, _⟩ := hw.update hc
      rw [htables]
      cases hg : rt.global with
      | false =>
        rw [hg] at hq
        exact hold q hq
      | true =>
        rw [hg, if_pos rfl, Collection.mem_put h.ids] at hq
        rcases hq with rfl | ⟨hq, _⟩
        · exact hid ▸ hhas hg hc
        · exact hold q hq

/-- A record of object 7 in session 1. -/
def trajectoryAt (logicTime : TLogicStep) : SPersistenceTrajectory where
  ctxId := 1
  missionId := 1
  objId := 7
  state := .active
  sessionNum := 1
  logicTime := logicTime
  astroTimeMillisec := 1000
  latDeg := 0
  lonDeg := 0
  height := 0
  yawDeg := 0

/-- A set without a reference cannot be read. -/
theorem hasReference_of_isolated {s s' : PayloadState} {op : PayloadOp} {rows : List MetadataRow}
    (h : Apart s rows) (hs : s.step op = some s') (hisolated : PayloadIsolated s') :
    HasReference s op := by
  cases op with
  | writeMetadata rt w =>
    intro hg hc
    obtain ⟨⟨m, id⟩, hwrite, rfl⟩ := Option.map_eq_some_iff.mp hs
    obtain ⟨r, _, _, hw⟩ := MetadataRecord.write_spec h.docs hwrite
    obtain ⟨hid, htables, _⟩ := hw.update hc
    have hstored : r.toDoc ∈ m.db.persistenceMetadata := by
      rw [hw.docs, if_pos hg]
      exact List.mem_map_of_mem ((Collection.mem_put h.ids r).mpr (Or.inl rfl))
    have hall : ¬ (allLogicSteps ≥ 0 ∧ allLogicSteps ≥ 0) := by decide
    obtain ⟨out, hread, _⟩ := hisolated.reads r.toDoc hstored (fun _ => trajectoryAt 0)
      { persistenceSetId := r.persId, minLogicStep := allLogicSteps
        maxLogicStep := allLogicSteps } rfl hall
    obtain ⟨t, ht, _⟩ := Option.map_eq_some_iff.mp hread
    unfold getPayloadTableRef at ht
    split at ht
    · rw [htables, hid] at ht
      exact Option.isSome_iff_exists.mpr ⟨t, ht⟩
    · cases ht
  | init index => trivial
  | restart index => trivial
  | writeTrajectory rt persId data => trivial
  | deleteRange rt filter => trivial

/-- **Every set is read after an opening**, when the metadata writes kept the tables apart. -/
theorem apart_of_opened {databaseName : String} {earlier : List PayloadOp} {opening : PayloadOp}
    {s : PayloadState} (hopens : opening.Opens)
    (hearlier : AlwaysStep PayloadState.step KeepsTablesApart (PayloadState.inited databaseName)
      (earlier ++ [opening]))
    (hs : runAll PayloadState.step (PayloadState.inited databaseName) (earlier ++ [opening]) =
      some s) : (∃ rows, Apart s rows) ∧ Referenced s := by
  have halways : AlwaysState PayloadState.step (fun s => ∃ rows, Apart s rows)
      (PayloadState.inited databaseName) (earlier ++ [opening]) :=
    alwaysState_of_alwaysStep _ (fun _ _ _ h hkeep hs => apart_step h hkeep hs) _ _
      ⟨[], Apart.inited databaseName⟩ hearlier
  refine ⟨halways.last hs, ?_⟩
  rw [runAll_append, Option.bind_eq_some_iff] at hs
  obtain ⟨s₁, h₁, h₂⟩ := hs
  obtain ⟨s₂, hstep, hend⟩ := Option.bind_eq_some_iff.mp h₂
  obtain rfl := Option.some.inj hend
  obtain ⟨rows, h⟩ := (halways.of_append h₁).head
  exact h.referenced_of_opens hopens hstep

/--
**Every set reads what was written through it, along every run whose metadata writes keep the tables
apart and have a reference.**

The database holds what earlier programs stored, whose metadata writes kept the tables apart. The
references are read at the opening. An update of an id without one stores a set that cannot be read.
-/
theorem payload_isolated (databaseName : String) (earlier : List PayloadOp) (opening : PayloadOp)
    (hopens : opening.Opens) (s : PayloadState)
    (hearlier : AlwaysStep PayloadState.step KeepsTablesApart (PayloadState.inited databaseName)
      (earlier ++ [opening]))
    (hs : runAll PayloadState.step (PayloadState.inited databaseName) (earlier ++ [opening]) =
      some s)
    (ops : List PayloadOp) (hops : AlwaysStep PayloadState.step KeepsTablesApart s ops) :
    AlwaysState PayloadState.step PayloadIsolated s ops ↔
      AlwaysStep PayloadState.step HasReference s ops := by
  obtain ⟨happart, href⟩ := apart_of_opened hopens hearlier hs
  have hiff := alwaysStep_iff_of_inv (P := PayloadIsolated) (L := KeepsTablesApart)
    (C := fun s op => KeepsTablesApart s op ∧ HasReference s op) PayloadState.step
    (fun s => (∃ rows, Apart s rows) ∧ Referenced s)
    (fun s h => h.1.choose_spec.payloadIsolated h.2)
    (fun s op s' h hc hs => ⟨apart_step h.1 hc.1 hs, h.1.choose_spec.referenced_step h.2 hc.2 hs⟩)
    (fun s op s' h hs hkeep hisolated =>
      ⟨hkeep, hasReference_of_isolated h.1.choose_spec hs hisolated⟩)
    (fun s op s' _ _ hc => hc.1) ops s ⟨happart, href⟩
  rwa [and_iff_left hops, alwaysStep_and, and_iff_right hops] at hiff

/-- Two raw sets of different missions. -/
def twoMissions : List PayloadOp :=
  [.writeMetadata {} (rawRecord (-1) 1), .writeMetadata {} (rawRecord 2 2)]

/-- Both sets are written in turn, and one is updated and cleared. -/
theorem payload_isolated_two_missions :
    ∃ s, runAll PayloadState.step (PayloadState.inited "video") (twoMissions ++ [.init true]) =
        some s ∧
      AlwaysState PayloadState.step PayloadIsolated s
        [.writeTrajectory true 1 [trajectoryAt 1], .writeTrajectory true 2 [trajectoryAt 2],
          .writeMetadata {} (rawRecord 2 2), .restart true,
          .deleteRange true { persistenceSetId := 2 }] := by
  obtain ⟨s, hs⟩ : ∃ s, runAll PayloadState.step (PayloadState.inited "video")
      (twoMissions ++ [.init true]) = some s := Option.isSome_iff_exists.mp (by decide)
  refine ⟨s, hs, (payload_isolated "video" twoMissions (.init true) trivial s (by decide) hs _
    ?_).mpr ?_⟩
  all_goals
    obtain rfl : s = (runAll PayloadState.step (PayloadState.inited "video")
      (twoMissions ++ [.init true])).get (by decide) := by simp [hs]
    decide

/-- A record of the mission 1 of context 1 from the simulator. -/
def dssRecord (persistenceSetId : TPersistenceSetId) (realData : Bool) : MetadataRecord :=
  .dss
    { persistenceSetId := persistenceSetId, contextId := 1, missionId := 1
      timeStepIntervalMillisec := 1000, lastRecordedSession := 1
      sourceType := .dss, dataType := .trajectory, realData := realData }

/-- Real and simulated data of one mission. -/
def realAndSimulated : List PayloadOp :=
  [.writeMetadata {} (dssRecord (-1) true), .writeMetadata {} (dssRecord 2 false)]

/-- The set 1 of real data reads what was written to the set 2 of simulated data. -/
theorem payload_shared :
    ∃ s, runAll PayloadState.step (PayloadState.inited "video")
        (realAndSimulated ++ [.init true]) = some s ∧ Referenced s ∧
      ¬ AlwaysState PayloadState.step PayloadIsolated s
        [.writeTrajectory true 2 [trajectoryAt 1]] := by
  have hlast : ((runAll PayloadState.step (PayloadState.inited "video")
      (realAndSimulated ++ [.init true])).bind fun s =>
        PayloadState.step s (.writeTrajectory true 2 [trajectoryAt 1])).map
        (fun s => (s.manager.db.persistenceMetadata.any fun d => MetadataDoc.persistenceId d == 1,
          s.written 1,
          (s.manager.readTrajectoryData (fun _ => trajectoryAt 0)
            { persistenceSetId := 1, minLogicStep := allLogicSteps }).map List.length)) =
      some (true, [], some 1) := by
    decide
  obtain ⟨s', hrun, hvalues⟩ := Option.map_eq_some_iff.mp hlast
  obtain ⟨s, hs, hstep⟩ := Option.bind_eq_some_iff.mp hrun
  have hall : (runAll PayloadState.step (PayloadState.inited "video")
      (realAndSimulated ++ [.init true])).all (fun s => s.manager.db.persistenceMetadata.all
        fun d => (s.manager.tablesByPersistenceId (MetadataDoc.persistenceId d)).isSome) =
      true := by
    decide
  rw [hs, Option.all_some, List.all_eq_true] at hall
  refine ⟨s, hs, hall, fun h => ?_⟩
  simp only [Prod.mk.injEq, List.any_eq_true, beq_iff_eq] at hvalues
  obtain ⟨⟨d, hd, hid⟩, hwritten, hlength⟩ := hvalues
  obtain ⟨out, hread, hperm⟩ := (h.2 s' hstep).reads d hd (fun _ => trajectoryAt 0)
    { persistenceSetId := 1, minLogicStep := allLogicSteps } hid.symm (by decide)
  rw [hid, hwritten] at hperm
  rw [hread, Option.map_some, Option.some.injEq] at hlength
  have hzero := hperm.length_eq
  rw [List.length_map, hlength] at hzero
  cases hzero

end MicroserviceCommon
