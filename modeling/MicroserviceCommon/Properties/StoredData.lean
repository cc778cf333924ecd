import MicroserviceCommon.Properties.PayloadReferences
import MicroserviceCommon.Properties.SessionMap
import MicroserviceCommon.Storage.SessionScan

/-!
# Runs over all collections

Everything a program can write to and delete from the storage, one call after the other.

* `stored_of_run` — every collection holds documents of its own kind in every state of a run,
  and the two maps of the program name the same tables
-/

namespace MicroserviceCommon

open Infra

/-- The database name stays the one of the first `init`. -/
inductive StorageOp where
  | init (index : Bool)
  | restart (index : Bool)
  | writeMetadata (rt : MetadataResults) (w : MetadataRecord)
  | deleteMetadataById (rt : Bool) (id : TPersistenceSetId)
  | deleteMetadataByContext (rt : Bool) (ctxId : TContextId)
  | writeTrajectory (rt : Bool) (persId : TPersistenceSetId) (data : List SPersistenceTrajectory)
  | deleteRange (rt : Bool) (filter : SPersistenceSetFilter)
  | insertDescription (rt : Bool) (persId : TPersistenceSetId) (descr : SEventsSessionInfo)
  | updateDescription (rt : Bool) (persId : TPersistenceSetId) (descr : SEventsSessionInfo)
  | deleteDescription (rt : Bool) (persId : TPersistenceSetId) (num : TSessionNum)
  deriving DecidableEq, Repr

namespace DatabaseManagerBase

/-- The manager after a change of the metadata and its specific tables. -/
def setDatabase (s : DatabaseManagerBase) (db : Database) : DatabaseManagerBase :=
  { s with db := db }

def storageStep (s : DatabaseManagerBase) : StorageOp → Option DatabaseManagerBase
  | .init index => (s.init true index s.databaseName).map (·.1)
  | .restart index => (s.restart true index s.databaseName).map (·.1)
  | .writeMetadata rt w => (w.write rt s).map (·.1)
  | .deleteMetadataById rt id => (deletePersistenceSetMetadataById rt s.db id).map s.setDatabase
  | .deleteMetadataByContext rt ctxId =>
    (deletePersistenceSetMetadataByContext rt s.db ctxId).map s.setDatabase
  | .writeTrajectory rt persId data => (s.writeTrajectoryData rt persId data).map (·.1)
  | .deleteRange rt filter => s.deleteDataRange rt filter
  | .insertDescription rt persId descr =>
    some (s.setDescriptions
      (insertSessionDescription rt s.db.persistenceDescription persId descr).1)
  | .updateDescription rt persId descr =>
    some (s.setDescriptions
      (updateSessionDescription rt s.db.persistenceDescription persId descr).1)
  | .deleteDescription rt persId num =>
    some (s.setDescriptions (deleteSessionDescription rt s.db.persistenceDescription persId num))

/-- Every collection holds documents of its own kind, a persistence id has one metadata document,
and both maps name the same table. -/
structure Stored (s : DatabaseManagerBase) : Prop where
  metadata : ∃ rows : List MetadataRow,
    s.db.persistenceMetadata = rows.map MetadataRow.toDoc ∧ (rows.map MetadataRow.persId).Nodup
  descriptions : ∃ rows : List DescriptionRow,
    s.db.persistenceDescription = rows.map DescriptionRow.toDoc
  payload : ∀ t, ∃ rows : List SPersistenceTrajectory, s.db.payload t = rows.map trajectoryDoc
  named : ∀ p, s.tablesByPersistenceId p = (s.tableNameByPersistenceId p).map cStr

namespace Stored

variable {s s' : DatabaseManagerBase}

theorem inited (databaseName : String) : Stored (inited databaseName) where
  metadata := ⟨[], rfl, List.nodup_nil⟩
  descriptions := ⟨[], rfl⟩
  payload := fun _ => ⟨[], rfl⟩
  named := fun _ => rfl

/-! ### References -/

/-- A stored table name has no NUL inside, so its handle has the same name. -/
theorem map_cStr_lookup (rows : List MetadataRow) (p : TPersistenceSetId) :
    ((rows.map MetadataRow.entry).lookup p).map cStr = (rows.map MetadataRow.entry).lookup p := by
  induction rows with
  | nil => rfl
  | cons r rows ih =>
    rw [List.map_cons, UnorderedMap.lookup_cons]
    split
    · exact congrArg some (cStr_cStr _)
    · exact ih

theorem insertReferences (h : Stored s) (rows : List MetadataRow) :
    Stored (s.insertReferences rows) := by
  refine ⟨h.metadata, h.descriptions, h.payload, fun p => ?_⟩
  show s.tablesByPersistenceId.insertAll _ p = (s.tableNameByPersistenceId.insertAll _ p).map cStr
  rw [UnorderedMap.insertAll_apply, UnorderedMap.insertAll_apply, h.named p]
  cases s.tableNameByPersistenceId p with
  | some name => rfl
  | none => exact (map_cStr_lookup rows p).symm

theorem init (h : Stored s) {index : Bool} (hs : s.storageStep (.init index) = some s') :
    Stored s' := by
  obtain ⟨rows, hdocs, _⟩ := h.metadata
  obtain ⟨⟨m, ok⟩, hinit, rfl⟩ := Option.map_eq_some_iff.mp hs
  obtain ⟨_, rfl, _⟩ := (init_rows hdocs).mp hinit
  exact h.insertReferences rows

theorem restart (h : Stored s) {index : Bool} (hs : s.storageStep (.restart index) = some s') :
    Stored s' := by
  obtain ⟨rows, hdocs, _⟩ := h.metadata
  obtain ⟨⟨m, ok⟩, hrestart, rfl⟩ := Option.map_eq_some_iff.mp hs
  obtain ⟨_, rfl, _⟩ := (restart_rows hdocs).mp hrestart
  have hfresh : Stored s.fresh := ⟨h.metadata, h.descriptions, h.payload, fun _ => rfl⟩
  exact hfresh.insertReferences rows

/-! ### Metadata -/

theorem writePersistenceMetadataGlobal_descriptions {rt : Bool} {db db' : Database}
    {persId : TPersistenceSetId} {payloadTableName : String} {descr : SPersistenceMetadataDescr}
    (h : writePersistenceMetadataGlobal rt db persId payloadTableName descr = some db') :
    db'.persistenceDescription = db.persistenceDescription := by
  unfold writePersistenceMetadataGlobal at h
  split at h
  · obtain ⟨dataType, _, rfl⟩ := Option.map_eq_some_iff.mp h
    cases rt <;> rfl
  · cases h

theorem writePersistenceSet_descriptions {rt : MetadataResults} {invalid id : TPersistenceSetId}
    {payloadTableName : String} {descr : SPersistenceMetadataDescr}
    {writeSpecific : Database → Database}
    (hspecific : ∀ db, (writeSpecific db).persistenceDescription = db.persistenceDescription)
    (h : s.writePersistenceSet rt invalid payloadTableName descr writeSpecific = some (s', id)) :
    s'.db.persistenceDescription = s.db.persistenceDescription := by
  unfold DatabaseManagerBase.writePersistenceSet at h
  split at h
  · simp only [isPersistenceMetadataValid, Option.bind_eq_bind, Option.bind_eq_some_iff,
      Option.map_eq_some_iff] at h
    obtain ⟨_, ⟨_, _, rfl⟩, h⟩ := h
    rw [if_pos rfl, Option.bind_eq_some_iff] at h
    obtain ⟨db, hglobal, h⟩ := h
    cases h
    rw [← writePersistenceMetadataGlobal_descriptions hglobal]
    exact hspecific db
  · simp only [Option.bind_eq_bind, Option.bind_eq_some_iff] at h
    obtain ⟨persId, _, db, hglobal, s₁, href, h⟩ := h
    cases h
    unfold DatabaseManagerBase.createPayloadTableRef at href
    split at href
    · cases href
      rw [← writePersistenceMetadataGlobal_descriptions hglobal]
      exact hspecific db
    · cases href

/-- A write of metadata leaves the descriptions. -/
theorem write_descriptions {rt : MetadataResults} {w : MetadataRecord} {id : TPersistenceSetId}
    (h : w.write rt s = some (s', id)) :
    s'.db.persistenceDescription = s.db.persistenceDescription := by
  cases w with
  | video m =>
    obtain ⟨name, _, h⟩ := Option.bind_eq_some_iff.mp h
    exact writePersistenceSet_descriptions
      (fun db => by cases hs : rt.specific <;> simp [writePersistenceFromVideo]) h
  | dss m =>
    obtain ⟨name, _, h⟩ := Option.bind_eq_some_iff.mp h
    exact writePersistenceSet_descriptions
      (fun db => by cases hs : rt.specific <;> simp [writePersistenceFromDSS]) h
  | raw m =>
    obtain ⟨name, _, h⟩ := Option.bind_eq_some_iff.mp h
    exact writePersistenceSet_descriptions (fun _ => rfl) h

/-- A creation enters the same table in both maps, an update enters nothing. -/
theorem named_of_written (h : Stored s) {rt : MetadataResults} {rows : List MetadataRow}
    {id : TPersistenceSetId} {r : MetadataRow} (hw : MetadataWritten rt s s' rows id r) :
    ∀ p, s'.tablesByPersistenceId p = (s'.tableNameByPersistenceId p).map cStr := by
  intro p
  by_cases hid : id = invalidPersistenceId
  · obtain ⟨_, htables, hnames⟩ := hw.create hid
    rw [htables, hnames, UnorderedMap.insert_apply, UnorderedMap.insert_apply, h.named p]
    cases s.tableNameByPersistenceId p with
    | some name => rfl
    | none =>
      rw [Option.map_none, Option.none_or, Option.none_or]
      split <;> rfl
  · obtain ⟨_, htables, hnames⟩ := hw.update hid
    rw [htables, hnames]
    exact h.named p

theorem writeMetadata (h : Stored s) {rt : MetadataResults} {w : MetadataRecord}
    (hs : s.storageStep (.writeMetadata rt w) = some s') : Stored s' := by
  obtain ⟨rows, hdocs, hids⟩ := h.metadata
  obtain ⟨⟨m, id⟩, hwrite, rfl⟩ := Option.map_eq_some_iff.mp hs
  obtain ⟨r, _, _, hw⟩ := MetadataRecord.write_spec hdocs hwrite
  refine ⟨⟨_, hw.docs, ?_⟩, ?_, ?_, h.named_of_written hw⟩
  · split
    · exact Collection.nodup_put hids
    · exact hids
  · rw [write_descriptions hwrite]
    exact h.descriptions
  · rw [hw.payload]
    exact h.payload

/-- Metadata rows can be taken out. -/
theorem deleteMetadata (h : Stored s) {rt : Bool} {q : MetadataRow → Bool}
    {rows : List MetadataRow} (hids : (rows.map MetadataRow.persId).Nodup) :
    Stored (s.setDatabase
      { s.db with
        persistenceMetadata := (if rt then Collection.remove q rows else rows).map
          MetadataRow.toDoc }) := by
  refine ⟨⟨_, rfl, ?_⟩, h.descriptions, h.payload, h.named⟩
  split
  · exact Collection.nodup_remove hids
  · exact hids

theorem deleteMetadataById (h : Stored s) {rt : Bool} {id : TPersistenceSetId}
    (hs : s.storageStep (.deleteMetadataById rt id) = some s') : Stored s' := by
  obtain ⟨rows, hdocs, hids⟩ := h.metadata
  obtain ⟨db, hdel, rfl⟩ := Option.map_eq_some_iff.mp hs
  rw [deleteById_eq hdocs hdel]
  exact h.deleteMetadata hids

theorem deleteMetadataByContext (h : Stored s) {rt : Bool} {ctxId : TContextId}
    (hs : s.storageStep (.deleteMetadataByContext rt ctxId) = some s') : Stored s' := by
  obtain ⟨rows, hdocs, hids⟩ := h.metadata
  obtain ⟨db, hdel, rfl⟩ := Option.map_eq_some_iff.mp hs
  rw [deleteByContext_eq hdocs hdel]
  exact h.deleteMetadata hids

/-! ### Payload -/

/-- A table can be given any records. -/
theorem setPayload (h : Stored s) (t : String) (rows : List SPersistenceTrajectory) :
    Stored (s.setPayload t (rows.map trajectoryDoc)) := by
  refine ⟨h.metadata, h.descriptions, fun t' => ?_, h.named⟩
  by_cases ht : t' = t
  · exact ⟨rows, by rw [ht]; exact Function.update_self ..⟩
  · obtain ⟨rows', hrows'⟩ := h.payload t'
    exact ⟨rows', (Function.update_of_ne ht ..).trans hrows'⟩

theorem writeTrajectory (h : Stored s) {rt : Bool} {p : TPersistenceSetId}
    {data : List SPersistenceTrajectory}
    (hs : s.storageStep (.writeTrajectory rt p data) = some s') : Stored s' := by
  obtain ⟨⟨m, ok⟩, hwrite, rfl⟩ := Option.map_eq_some_iff.mp hs
  obtain ⟨t, _, he⟩ := Option.map_eq_some_iff.mp hwrite
  split at he
  · cases he
    obtain ⟨rows, hrows⟩ := h.payload t
    rw [hrows, ← List.map_append]
    exact h.setPayload t _
  · cases he
    exact h

theorem deleteRange (h : Stored s) {rt : Bool} {filter : SPersistenceSetFilter}
    (hs : s.storageStep (.deleteRange rt filter) = some s') : Stored s' := by
  obtain ⟨t, _, rfl⟩ := Option.map_eq_some_iff.mp hs
  split
  · obtain ⟨rows, hrows⟩ := h.payload t
    have hnil : Collection.remove Query.all (s.db.payload t) = ([].map trajectoryDoc) :=
      List.filter_eq_nil_iff.mpr fun _ _ => by simp [Query.all]
    rw [hnil]
    exact h.setPayload t []
  · exact h

/-! ### Descriptions -/

theorem setDescriptions (h : Stored s) {docs : List Doc}
    (hdocs : ∃ rows : List DescriptionRow, docs = rows.map DescriptionRow.toDoc) :
    Stored (s.setDescriptions docs) :=
  ⟨h.metadata, hdocs, h.payload, h.named⟩

theorem insertDescription (h : Stored s) {rt : Bool} {p : TPersistenceSetId}
    {d : SEventsSessionInfo} (hs : s.storageStep (.insertDescription rt p d) = some s') :
    Stored s' := by
  cases hs
  refine h.setDescriptions (Collection.exists_map_of_call
    (fun rt c => (insertSessionDescription rt c p d).1) h.descriptions (fun c => ?_)
    (fun rows => ?_) rt)
  · unfold insertSessionDescription
    split <;> rfl
  · rw [insert_rows]
    split <;> exact ⟨_, rfl⟩

theorem updateDescription (h : Stored s) {rt : Bool} {p : TPersistenceSetId}
    {d : SEventsSessionInfo} (hs : s.storageStep (.updateDescription rt p d) = some s') :
    Stored s' := by
  cases hs
  refine h.setDescriptions (Collection.exists_map_of_call
    (fun rt c => (updateSessionDescription rt c p d).1) h.descriptions (fun c => ?_)
    (fun rows => ?_) rt)
  · unfold updateSessionDescription
    split <;> rfl
  · rw [update_rows]
    split <;> exact ⟨_, rfl⟩

theorem deleteDescription (h : Stored s) {rt : Bool} {p : TPersistenceSetId} {num : TSessionNum}
    (hs : s.storageStep (.deleteDescription rt p num) = some s') : Stored s' := by
  cases hs
  exact h.setDescriptions (Collection.exists_map_of_call
    (fun rt c => deleteSessionDescription rt c p num) h.descriptions (fun _ => rfl)
    (fun rows => ⟨_, delete_rows ..⟩) rt)

end Stored

theorem stored_step {s s' : DatabaseManagerBase} {op : StorageOp} (h : Stored s)
    (hs : s.storageStep op = some s') : Stored s' := by
  cases op with
  | init index => exact h.init hs
  | restart index => exact h.restart hs
  | writeMetadata rt w => exact h.writeMetadata hs
  | deleteMetadataById rt id => exact h.deleteMetadataById hs
  | deleteMetadataByContext rt ctxId => exact h.deleteMetadataByContext hs
  | writeTrajectory rt persId data => exact h.writeTrajectory hs
  | deleteRange rt filter => exact h.deleteRange hs
  | insertDescription rt persId descr => exact h.insertDescription hs
  | updateDescription rt persId descr => exact h.updateDescription hs
  | deleteDescription rt persId num => exact h.deleteDescription hs

/-- **Every state of a run holds documents of their kinds under agreeing maps.** -/
theorem stored_of_run (databaseName : String) (ops : List StorageOp) :
    AlwaysState storageStep Stored (inited databaseName) ops :=
  alwaysState_of_alwaysStep Stored (fun _ _ _ h _ hs => stored_step h hs) ops _
    (Stored.inited databaseName) alwaysStep_trivial

end DatabaseManagerBase

end MicroserviceCommon
