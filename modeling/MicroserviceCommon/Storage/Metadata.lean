import MicroserviceCommon.Infra.UnorderedMap
import MicroserviceCommon.Storage.Database
import MicroserviceCommon.Common.Types
import MicroserviceCommon.Common.Vars

/-!
# Metadata of persistence sets

The metadata half of `DatabaseManagerBase`, with the two maps from persistence ids to payload
tables.

A persistence set has one document in `persistence_set_metadata`, by an upsert. The document names
the payload table, and the maps remember that name for the run of the program.

`none` is a failed `assert` or an index outside a vector.
-/

namespace MicroserviceCommon

open Infra
open MongoFields

/-- `m_tablesByPersistenceId` holds the name of the collection that the handle stands for. -/
structure DatabaseManagerBase where
  db : Database := {}
  databaseName : String := ""
  tablesByPersistenceId : UnorderedMap TPersistenceSetId String := UnorderedMap.empty
  tableNameByPersistenceId : UnorderedMap TPersistenceSetId String := UnorderedMap.empty

/-- Which calls to the database succeed: the global upsert, the specific upsert, the index. -/
structure MetadataResults where
  global : Bool := true
  specific : Bool := true
  index : Bool := true
  deriving DecidableEq, Repr

namespace DatabaseManagerBase

def tableNamePrefix (s : DatabaseManagerBase) : String := s.databaseName ++ "_"

/-! ## Payload table references -/

/-- A failed `createIndex` ends in `assert( rt )`. -/
def createPayloadTableRef (rt : Bool) (s : DatabaseManagerBase) (persId : TPersistenceSetId)
    (tableName : String) : Option DatabaseManagerBase :=
  if rt then
    some { s with
      tablesByPersistenceId := s.tablesByPersistenceId.insert persId (cStr tableName)
      tableNameByPersistenceId := s.tableNameByPersistenceId.insert persId tableName }
  else none

def initPayloadTableReferences (rt : Bool) (s : DatabaseManagerBase) : Option DatabaseManagerBase :=
  (Collection.find Query.all s.db.persistenceMetadata).foldlM
    (fun s doc => do
      let _ ← convertPersistenceTypeFromStr (iterUtf8 (doc.get? PersistenceSetMetadata.sourceType))
      let persId := iterInt64 (doc.get? PersistenceSetMetadata.persistenceId)
      let payloadTableName := iterUtf8 (doc.get? PersistenceSetMetadata.payloadTableName)
      createPayloadTableRef rt s persId payloadTableName) s

/-- `connected`: the URI and the client could be created. -/
def init (connected rt : Bool) (databaseName : String) (s : DatabaseManagerBase) :
    Option (DatabaseManagerBase × Bool) :=
  let s := { s with databaseName := databaseName }
  if !connected then some (s, false)
  else (initPayloadTableReferences rt s).map (·, true)

/-- `destroyInstance` and a new instance: the database stays. -/
def restart (connected rt : Bool) (databaseName : String) (s : DatabaseManagerBase) :
    Option (DatabaseManagerBase × Bool) :=
  init connected rt databaseName { db := s.db }

end DatabaseManagerBase

/-! ## Reading metadata -/

/-- The raw record that a metadata document is read into. The two readers differ in the session
and the data type. -/
def readRawMetadata (doc : Doc) (lastRecordedSession : TSessionNum)
    (persType : EPersistenceSourceType) (dataType : EPersistenceDataType) :
    SPersistenceMetadataRaw where
  persistenceSetId := iterInt64 (doc.get? PersistenceSetMetadata.persistenceId)
  contextId := (iterInt32 (doc.get? PersistenceSetMetadata.ctxId)).toUInt32
  missionId := (iterInt32 (doc.get? PersistenceSetMetadata.missionId)).toUInt32
  timeStepIntervalMillisec := iterInt64 (doc.get? PersistenceSetMetadata.updateStepMillisec)
  lastRecordedSession := lastRecordedSession
  sourceType := persType
  dataType := dataType

/-- The variables of the loop that groups metadata by context. The index is an `int`, but 2^31
entries of `out`, of three vectors each, take more than 128 GiB. -/
structure ContextGrouping where
  out : List SPersistenceMetadata := []
  currentCtxId : TContextId := 0
  currentStoreIdx : Int := -1

namespace ContextGrouping

/-- A new context opens a new entry of `out`. -/
def enter (g : ContextGrouping) (ctxId : TContextId) : ContextGrouping :=
  if ctxId ≠ g.currentCtxId then
    { out := g.out ++ [{}], currentCtxId := ctxId, currentStoreIdx := g.currentStoreIdx + 1 }
  else g

/-- `out[ currentStoreIdx ]` gets one more raw record. -/
def addRaw (g : ContextGrouping) (raw : SPersistenceMetadataRaw) : Option ContextGrouping :=
  if 0 ≤ g.currentStoreIdx ∧ g.currentStoreIdx < g.out.length then
    some { g with
      out := g.out.modify g.currentStoreIdx.toNat fun m =>
        { m with persistenceFromRaw := m.persistenceFromRaw ++ [raw] } }
  else none

/-- Only records of the autonomous recorder are read. The other cases are empty in the source. -/
def step (g : ContextGrouping) (doc : Doc) : Option ContextGrouping := do
  let persType ←
    convertPersistenceTypeFromStr (iterUtf8 (doc.get? PersistenceSetMetadata.sourceType))
  let dataType ← convertDataTypeFromStr (iterUtf8 (doc.get? PersistenceSetMetadata.dataType))
  let ctxId := (iterInt32 (doc.get? PersistenceSetMetadata.ctxId)).toUInt32
  let sessionNum := iterInt32 (doc.get? PersistenceSetMetadata.lastSessionId)
  let g := g.enter ctxId
  match persType with
  | .autonomousRecorder => g.addRaw (readRawMetadata doc sessionNum persType dataType)
  | .videoServer | .dss | .undefined => some g

end ContextGrouping

/-- `getPersistenceSetMetadata( TContextId )` -/
def getPersistenceSetMetadataByContext (t : List Doc) (ctxId : TContextId) :
    Option (List SPersistenceMetadata) :=
  let docs :=
    if ctxId = allContextId then
      Collection.orderDesc (fun d : Doc => iterInt32 (d.get? PersistenceSetMetadata.ctxId)) t
    else Collection.find (Query.eq PersistenceSetMetadata.ctxId (.int32 ctxId.toInt32)) t
  (docs.foldlM ContextGrouping.step {}).map (·.out)

/--
`getPersistenceSetMetadata( TPersistenceSetId )`

The query has the id as `int32`, the session is read as `int64`, and `dataType` is never set:
`uninit` is what the memory held.
-/
def getPersistenceSetMetadataById (uninit : EPersistenceDataType) (t : List Doc)
    (persId : TPersistenceSetId) : Option SPersistenceMetadata :=
  (Collection.find (Query.eq PersistenceSetMetadata.persistenceId (.int32 persId.toInt32)) t).foldlM
    (fun out doc => do
      let persType ←
        convertPersistenceTypeFromStr (iterUtf8 (doc.get? PersistenceSetMetadata.sourceType))
      let sessionNum := (iterInt64 (doc.get? PersistenceSetMetadata.lastSessionId)).toInt32
      match persType with
      | .autonomousRecorder =>
        return { out with
          persistenceFromRaw :=
            out.persistenceFromRaw ++ [readRawMetadata doc sessionNum persType uninit] }
      | .videoServer | .dss | .undefined => return out) {}

/-- What was found is never compared with the new record. -/
def isPersistenceMetadataValid (t : List Doc) (persId : TPersistenceSetId)
    (_meta : SPersistenceMetadataDescr) : Option Bool :=
  (getPersistenceSetMetadataById .undefined t persId).map fun _ => true

def createNewPersistenceId (t : List Doc) : Option TPersistenceSetId :=
  (getPersistenceSetMetadataByContext t allContextId).map fun metadatas =>
    if !metadatas.isEmpty then invalidPersistenceId else 1

/-! ## Writing metadata -/

/-- The `$set` of `writePersistenceMetadataGlobal`. -/
def metadataFields (persId : TPersistenceSetId) (payloadTableName : String)
    (descr : SPersistenceMetadataDescr) (dataType : String) : Doc :=
  [(PersistenceSetMetadata.persistenceId, .int64 persId),
   (PersistenceSetMetadata.ctxId, .int32 descr.contextId.toInt32),
   (PersistenceSetMetadata.missionId, .int32 descr.missionId.toInt32),
   (PersistenceSetMetadata.lastSessionId, .int32 descr.lastRecordedSession),
   (PersistenceSetMetadata.updateStepMillisec, .int64 descr.timeStepIntervalMillisec),
   (PersistenceSetMetadata.sourceType, .utf8 (convertPersistenceTypeToStr descr.sourceType)),
   (PersistenceSetMetadata.dataType, .utf8 dataType),
   (PersistenceSetMetadata.payloadTableName, .utf8 (cStr payloadTableName))]

def writePersistenceMetadataGlobal (rt : Bool) (db : Database) (persId : TPersistenceSetId)
    (payloadTableName : String) (descr : SPersistenceMetadataDescr) : Option Database :=
  if descr.contextId > 0 ∧ descr.lastRecordedSession > 0 ∧ descr.timeStepIntervalMillisec > 0 ∧
      persId > 0 ∧ descr.sourceType ≠ .undefined then
    (convertDataTypeToStr descr.dataType).map fun dataType =>
      if rt then
        { db with
          persistenceMetadata := upsertBy PersistenceSetMetadata.persistenceId (.int64 persId)
            (metadataFields persId payloadTableName descr dataType) db.persistenceMetadata }
      else db
  else none

/-- The id is that of the record, also when the set was just created under another one. -/
def writePersistenceFromVideo (rt : Bool) (db : Database) (m : SPersistenceMetadataVideo) :
    Database :=
  if rt then
    { db with
      persistenceFromVideo := upsertBy PersistenceSetMetadata.persistenceId
        (.int64 m.persistenceSetId)
        [(PersistenceSetMetadata.persistenceId, .int64 m.persistenceSetId),
         (PersistenceSetMetadataVideo.sensorId, .int64 m.recordedFromSensorId.toInt64)]
        db.persistenceFromVideo }
  else db

def writePersistenceFromDSS (rt : Bool) (db : Database) (m : SPersistenceMetadataDSS) : Database :=
  if rt then
    { db with
      persistenceFromDSS := upsertBy PersistenceSetMetadata.persistenceId
        (.int64 m.persistenceSetId)
        [(PersistenceSetMetadata.persistenceId, .int64 m.persistenceSetId),
         (PersistenceSetMetadataDss.real, .bool m.realData)]
        db.persistenceFromDSS }
  else db

def writePersistenceFromRaw (db : Database) (_m : SPersistenceMetadataRaw) : Database := db

namespace DatabaseManagerBase

/-- The body that the three overloads of `writePersistenceSetMetadata` share. -/
def writePersistenceSet (rt : MetadataResults) (s : DatabaseManagerBase)
    (invalid : TPersistenceSetId) (payloadTableName : String) (descr : SPersistenceMetadataDescr)
    (writeSpecific : Database → Database) : Option (DatabaseManagerBase × TPersistenceSetId) :=
  if descr.persistenceSetId ≠ invalid then do
    if ← isPersistenceMetadataValid s.db.persistenceMetadata descr.persistenceSetId descr then
      let db ← writePersistenceMetadataGlobal rt.global s.db descr.persistenceSetId payloadTableName
        descr
      return ({ s with db := writeSpecific db }, descr.persistenceSetId)
    else return (s, invalidPersistenceId)
  else do
    let persId ← createNewPersistenceId s.db.persistenceMetadata
    let db ← writePersistenceMetadataGlobal rt.global s.db persId payloadTableName descr
    -- only a new set gets a reference
    let s ← createPayloadTableRef rt.index { s with db := writeSpecific db } persId payloadTableName
    return (s, persId)

def videoTableName (s : DatabaseManagerBase) (m : SPersistenceMetadataVideo) : Option String :=
  (convertDataTypeToStr m.dataType).map fun dataType =>
    s.tableNamePrefix ++ "video_" ++ dataType ++ "_" ++ "sensor" ++ toString m.recordedFromSensorId

/-- The line with `_real` and `_simula` is a statement of its own and adds nothing. -/
def dssTableName (s : DatabaseManagerBase) (m : SPersistenceMetadataDSS) : Option String :=
  (convertDataTypeToStr m.dataType).map fun dataType =>
    s.tableNamePrefix ++ "dss_" ++ dataType ++ "_" ++ "ctx" ++ toString m.contextId ++
      "_mission" ++ toString m.missionId

def rawTableName (s : DatabaseManagerBase) (m : SPersistenceMetadataRaw) : Option String :=
  (convertDataTypeToStr m.dataType).map fun dataType =>
    s.tableNamePrefix ++ "raw_" ++ dataType ++ "_" ++ "ctx" ++ toString m.contextId ++
      "_mission" ++ toString m.missionId

def writePersistenceSetMetadataVideo (rt : MetadataResults) (s : DatabaseManagerBase)
    (m : SPersistenceMetadataVideo) : Option (DatabaseManagerBase × TPersistenceSetId) :=
  (s.videoTableName m).bind fun payloadTableName =>
    s.writePersistenceSet rt invalidPersistenceId payloadTableName m.toSPersistenceMetadataDescr
      fun db => writePersistenceFromVideo rt.specific db m

def writePersistenceSetMetadataDSS (rt : MetadataResults) (s : DatabaseManagerBase)
    (m : SPersistenceMetadataDSS) : Option (DatabaseManagerBase × TPersistenceSetId) :=
  (s.dssTableName m).bind fun payloadTableName =>
    s.writePersistenceSet rt invalidPersistenceId payloadTableName m.toSPersistenceMetadataDescr
      fun db => writePersistenceFromDSS rt.specific db m

def writePersistenceSetMetadataRaw (rt : MetadataResults) (s : DatabaseManagerBase)
    (m : SPersistenceMetadataRaw) : Option (DatabaseManagerBase × TPersistenceSetId) :=
  (s.rawTableName m).bind fun payloadTableName =>
    s.writePersistenceSet rt invalidPersId payloadTableName m.toSPersistenceMetadataDescr
      fun db => writePersistenceFromRaw db m

end DatabaseManagerBase

/-! ## Deleting metadata -/

def deletePersistenceFromRaw (db : Database) (_persId : TPersistenceSetId) : Database := db

def deletePersistenceFromDSS (db : Database) (_persId : TPersistenceSetId) : Database := db

def deletePersistenceFromVideo (db : Database) (_persId : TPersistenceSetId) : Database := db

/-- `deletePersistenceSetMetadata( TPersistenceSetId )` -/
def deletePersistenceSetMetadataById (rt : Bool) (db : Database) (id : TPersistenceSetId) :
    Option Database :=
  (getPersistenceSetMetadataById .undefined db.persistenceMetadata id).bind fun metadata =>
    (if !metadata.persistenceFromDSS.isEmpty then some (deletePersistenceFromDSS db id)
      else if !metadata.persistenceFromRaw.isEmpty then some (deletePersistenceFromRaw db id)
      else if !metadata.persistenceFromVideo.isEmpty then some (deletePersistenceFromVideo db id)
      else none).map fun db =>
        if rt then
          { db with
            persistenceMetadata := Collection.remove
              (Query.eq PersistenceSetMetadata.persistenceId (.int64 id)) db.persistenceMetadata }
        else db

/-- The loops over the type-specific tables of the found sets. -/
def deleteSpecific (db : Database) (m : SPersistenceMetadata) : Database :=
  let db :=
    m.persistenceFromDSS.foldl (fun db x => deletePersistenceFromDSS db x.persistenceSetId) db
  let db :=
    m.persistenceFromRaw.foldl (fun db x => deletePersistenceFromRaw db x.persistenceSetId) db
  m.persistenceFromVideo.foldl (fun db x => deletePersistenceFromVideo db x.persistenceSetId) db

/-- `deletePersistenceSetMetadata( TContextId )` -/
def deletePersistenceSetMetadataByContext (rt : Bool) (db : Database) (ctxId : TContextId) :
    Option Database :=
  (getPersistenceSetMetadataByContext db.persistenceMetadata ctxId).map fun metadatas =>
    let db := metadatas.foldl deleteSpecific db
    if rt then
      { db with
        persistenceMetadata := Collection.remove
          (Query.eq PersistenceSetMetadata.ctxId (.int32 ctxId.toInt32)) db.persistenceMetadata }
    else db

/-! ## The stored documents -/

/-- A row of the metadata collection, with what `writePersistenceMetadataGlobal` asserts. -/
structure MetadataRow where
  persId : TPersistenceSetId
  descr : SPersistenceMetadataDescr
  dataTypeName : String
  payloadTableName : String
  persId_pos : persId > 0
  contextId_ne_zero : descr.contextId ≠ 0
  dataType_eq : convertDataTypeToStr descr.dataType = some dataTypeName

namespace MetadataRow

def toDoc (r : MetadataRow) : Doc :=
  metadataFields r.persId r.payloadTableName r.descr r.dataTypeName

/-- The persistence id with the table name as it is stored. -/
def entry (r : MetadataRow) : TPersistenceSetId × String := (r.persId, cStr r.payloadTableName)

end MetadataRow

namespace MetadataDoc

def persistenceId (d : Doc) : TPersistenceSetId :=
  iterInt64 (d.get? PersistenceSetMetadata.persistenceId)

def payloadTableName (d : Doc) : String :=
  iterUtf8 (d.get? PersistenceSetMetadata.payloadTableName)

def contextId (d : Doc) : TContextId :=
  (iterInt32 (d.get? PersistenceSetMetadata.ctxId)).toUInt32

end MetadataDoc

section Rows

variable {rows : List MetadataRow}

@[simp] theorem persistenceId_toDoc (r : MetadataRow) :
    MetadataDoc.persistenceId r.toDoc = r.persId := rfl

@[simp] theorem payloadTableName_toDoc (r : MetadataRow) :
    MetadataDoc.payloadTableName r.toDoc = cStr r.payloadTableName := rfl

@[simp] theorem contextId_toDoc (r : MetadataRow) :
    MetadataDoc.contextId r.toDoc = r.descr.contextId :=
  UInt32.toUInt32_toInt32 _

@[simp] theorem sourceType_toDoc (r : MetadataRow) :
    convertPersistenceTypeFromStr (iterUtf8 (r.toDoc.get? PersistenceSetMetadata.sourceType)) =
      some r.descr.sourceType :=
  convertPersistenceTypeFromStr_toStr _

@[simp] theorem dataType_toDoc (r : MetadataRow) :
    convertDataTypeFromStr (iterUtf8 (r.toDoc.get? PersistenceSetMetadata.dataType)) =
      some r.descr.dataType :=
  convertDataTypeFromStr_of_toStr r.dataType_eq

@[simp] theorem query_persistenceId_toDoc (r : MetadataRow) (id : TPersistenceSetId) :
    Query.eq PersistenceSetMetadata.persistenceId (.int64 id) r.toDoc = (r.persId == id) :=
  Bson.sameValue_int64 _ _

@[simp] theorem query_ctxId_toDoc (r : MetadataRow) (ctxId : TContextId) :
    Query.eq PersistenceSetMetadata.ctxId (.int32 ctxId.toInt32) r.toDoc =
      (r.descr.contextId == ctxId) := by
  have h : Query.eq PersistenceSetMetadata.ctxId (.int32 ctxId.toInt32) r.toDoc =
      (r.descr.contextId.toInt32 == ctxId.toInt32) := Bson.sameValue_int32 _ _
  rw [h, Bool.eq_iff_iff, beq_iff_eq, beq_iff_eq]
  refine ⟨fun he => ?_, congrArg _⟩
  rw [← UInt32.toUInt32_toInt32 r.descr.contextId, he, UInt32.toUInt32_toInt32]

/-- The field names of a metadata document. -/
def metadataKeys : List String :=
  [PersistenceSetMetadata.persistenceId, PersistenceSetMetadata.ctxId,
    PersistenceSetMetadata.missionId, PersistenceSetMetadata.lastSessionId,
    PersistenceSetMetadata.updateStepMillisec, PersistenceSetMetadata.sourceType,
    PersistenceSetMetadata.dataType, PersistenceSetMetadata.payloadTableName]

/-- The upsert overwrites the row of its id. -/
theorem upsert_metadata_rows (rows : List MetadataRow) (r : MetadataRow) :
    upsertBy PersistenceSetMetadata.persistenceId (.int64 r.persId) r.toDoc
      (rows.map MetadataRow.toDoc) = (Collection.put MetadataRow.persId r rows).map
        MetadataRow.toDoc := by
  have hnd : (Doc.keys r.toDoc).Nodup := by
    rw [show Doc.keys r.toDoc = metadataKeys from rfl]
    decide
  refine upsertBy_map _ _ (fun q => query_persistenceId_toDoc q _) (fun q => ?_) ?_ rows
  · exact Doc.set_of_keys hnd List.prefix_rfl
  · exact Doc.set_of_keys hnd ⟨_, rfl⟩

/-! ### Writing -/

theorem writePersistenceMetadataGlobal_rows {rt : Bool} {db db' : Database}
    {persId : TPersistenceSetId} {payloadTableName : String} {descr : SPersistenceMetadataDescr}
    (hdb : db.persistenceMetadata = rows.map MetadataRow.toDoc)
    (h : writePersistenceMetadataGlobal rt db persId payloadTableName descr = some db') :
    persId > 0 ∧ ∃ r : MetadataRow, r.persId = persId ∧ r.payloadTableName = payloadTableName ∧
      r.descr = descr ∧
      db' = { db with
        persistenceMetadata :=
          (if rt then Collection.put MetadataRow.persId r rows else rows).map
            MetadataRow.toDoc } := by
  unfold writePersistenceMetadataGlobal at h
  split at h
  · next hvalid =>
    obtain ⟨hctx, _, _, hid, _⟩ := hvalid
    obtain ⟨dataType, hdata, rfl⟩ := Option.map_eq_some_iff.mp h
    have hne : descr.contextId ≠ 0 := by
      rintro hzero
      rw [hzero] at hctx
      exact absurd hctx (by decide)
    let r : MetadataRow := ⟨persId, descr, dataType, payloadTableName, hid, hne, hdata⟩
    refine ⟨hid, r, rfl, rfl, rfl, ?_⟩
    cases rt with
    | false =>
      rw [if_neg (by decide), if_neg (by decide), ← hdb]
    | true =>
      rw [if_pos rfl, if_pos rfl, hdb]
      exact congrArg (fun t => { db with persistenceMetadata := t }) (upsert_metadata_rows rows r)
  · cases h

/-! ### Grouping by context -/

theorem ContextGrouping.length_addRaw {g g' : ContextGrouping} {raw : SPersistenceMetadataRaw}
    (h : g.addRaw raw = some g') : g'.out.length = g.out.length := by
  unfold addRaw at h
  split at h
  · cases h
    exact List.length_modify ..
  · cases h

/-- Entries are only added. -/
theorem ContextGrouping.length_step {g g' : ContextGrouping} {r : MetadataRow}
    (h : g.step r.toDoc = some g') : (g.enter r.descr.contextId).out.length = g'.out.length := by
  have hctx : (iterInt32 (r.toDoc.get? PersistenceSetMetadata.ctxId)).toUInt32 =
      r.descr.contextId := contextId_toDoc r
  simp only [step, sourceType_toDoc, dataType_toDoc, hctx, Option.bind_eq_bind,
    Option.bind_some] at h
  split at h
  · exact (length_addRaw h).symm
  all_goals
    cases h
    rfl

theorem ContextGrouping.length_le_enter (g : ContextGrouping) (ctxId : TContextId) :
    g.out.length ≤ (g.enter ctxId).out.length := by
  unfold enter
  split
  · rw [List.length_append]
    exact Nat.le_add_right _ _
  · exact le_refl _

theorem ContextGrouping.length_le_foldlM : ∀ {rows : List MetadataRow} {g g' : ContextGrouping},
    (rows.map MetadataRow.toDoc).foldlM step g = some g' → g.out.length ≤ g'.out.length
  | [], g, g', h => by
    cases h
    exact le_refl _
  | r :: rows, g, g', h => by
    rw [List.map_cons, List.foldlM_cons, Option.bind_eq_bind, Option.bind_eq_some_iff] at h
    obtain ⟨g₁, h₁, h₂⟩ := h
    calc g.out.length ≤ (g.enter r.descr.contextId).out.length := length_le_enter ..
      _ = g₁.out.length := length_step h₁
      _ ≤ g'.out.length := length_le_foldlM h₂

/-- The first row opens an entry: its context is not zero. -/
theorem ContextGrouping.out_ne_nil {r : MetadataRow} {g : ContextGrouping}
    (h : ((r :: rows).map MetadataRow.toDoc).foldlM step {} = some g) : g.out ≠ [] := by
  rw [List.map_cons, List.foldlM_cons, Option.bind_eq_bind, Option.bind_eq_some_iff] at h
  obtain ⟨g₁, h₁, h₂⟩ := h
  have hlen := length_step h₁
  rw [enter, if_pos r.contextId_ne_zero] at hlen
  have hle := length_le_foldlM h₂
  intro hnil
  rw [hnil, ← hlen] at hle
  simp at hle

/-- Sorting rows sorts their documents. -/
theorem orderDesc_toDoc (rows : List MetadataRow) :
    ∃ sorted : List MetadataRow,
      Collection.orderDesc (fun d : Doc => iterInt32 (d.get? PersistenceSetMetadata.ctxId))
        (rows.map MetadataRow.toDoc) = sorted.map MetadataRow.toDoc ∧ sorted.Perm rows :=
  ⟨Collection.orderDesc
    (fun r : MetadataRow => iterInt32 (r.toDoc.get? PersistenceSetMetadata.ctxId)) rows,
    Collection.orderDesc_map rows, List.perm_insertionSort _ rows⟩

/-- **Every stored set is seen by the reader of all contexts.** -/
theorem getPersistenceSetMetadataByContext_all_ne_nil {r : MetadataRow}
    {metadatas : List SPersistenceMetadata}
    (h : getPersistenceSetMetadataByContext ((r :: rows).map MetadataRow.toDoc) allContextId =
      some metadatas) : metadatas ≠ [] := by
  obtain ⟨sorted, hsorted, hperm⟩ := orderDesc_toDoc (r :: rows)
  rw [getPersistenceSetMetadataByContext, if_pos rfl, hsorted] at h
  obtain ⟨g, hg, rfl⟩ := Option.map_eq_some_iff.mp h
  cases sorted with
  | nil => exact absurd hperm.symm.eq_nil (by simp)
  | cons q sorted => exact ContextGrouping.out_ne_nil hg

/-- The id of a new set is positive only while there is no set. -/
theorem createNewPersistenceId_rows {persId : TPersistenceSetId}
    (h : createNewPersistenceId (rows.map MetadataRow.toDoc) = some persId) (hpos : persId > 0) :
    persId = 1 ∧ rows = [] := by
  obtain ⟨metadatas, hm, hid⟩ := Option.map_eq_some_iff.mp h
  split at hid
  · rw [← hid] at hpos
    exact absurd hpos (by decide)
  · next hempty =>
    refine ⟨hid.symm, ?_⟩
    cases rows with
    | nil => rfl
    | cons r rows =>
      have hnil : metadatas = [] := by simpa using hempty
      exact absurd hnil (getPersistenceSetMetadataByContext_all_ne_nil hm)

/-! ### Payload table references -/

namespace DatabaseManagerBase

/-- The manager with the references of these rows inserted. -/
def insertReferences (s : DatabaseManagerBase) (rows : List MetadataRow) : DatabaseManagerBase :=
  { s with
    tablesByPersistenceId := s.tablesByPersistenceId.insertAll (rows.map MetadataRow.entry)
    tableNameByPersistenceId := s.tableNameByPersistenceId.insertAll (rows.map MetadataRow.entry) }

theorem foldlM_createPayloadTableRef (rt : Bool) : ∀ (rows : List MetadataRow)
    (s s' : DatabaseManagerBase),
    (rows.map MetadataRow.toDoc).foldlM (fun s doc => do
      let _ ← convertPersistenceTypeFromStr (iterUtf8 (doc.get? PersistenceSetMetadata.sourceType))
      let persId := iterInt64 (doc.get? PersistenceSetMetadata.persistenceId)
      let payloadTableName := iterUtf8 (doc.get? PersistenceSetMetadata.payloadTableName)
      createPayloadTableRef rt s persId payloadTableName) s = some s' ↔
        s' = s.insertReferences rows ∧ (rt = true ∨ rows = [])
  | [], s, s' => by
    rw [List.map_nil, List.foldlM_nil, or_iff_right_of_imp fun _ => rfl, and_iff_left rfl]
    exact Option.some_inj.trans eq_comm
  | r :: rows, s, s' => by
    rw [List.map_cons, List.foldlM_cons]
    simp only [sourceType_toDoc, Option.bind_eq_bind, Option.bind_some]
    cases rt with
    | false => simp [createPayloadTableRef]
    | true =>
      have hname : cStr (iterUtf8 (r.toDoc.get? PersistenceSetMetadata.payloadTableName)) =
          cStr r.payloadTableName := cStr_cStr _
      simp only [createPayloadTableRef, if_true, Option.bind_some, hname]
      -- the manager after the first document, written as the source's two inserts
      have ih := foldlM_createPayloadTableRef true rows
        { s with
          tablesByPersistenceId := s.tablesByPersistenceId.insert r.persId (cStr r.payloadTableName)
          tableNameByPersistenceId :=
            s.tableNameByPersistenceId.insert r.persId (cStr r.payloadTableName) } s'
      simp only [createPayloadTableRef, if_true, Option.bind_eq_bind] at ih
      simp only [true_or, and_true] at ih ⊢
      exact ih

theorem initPayloadTableReferences_rows {rt : Bool} {s s' : DatabaseManagerBase}
    (hdb : s.db.persistenceMetadata = rows.map MetadataRow.toDoc) :
    initPayloadTableReferences rt s = some s' ↔
      s' = s.insertReferences rows ∧ (rt = true ∨ rows = []) := by
  rw [initPayloadTableReferences, hdb,
    show Collection.find Query.all (rows.map MetadataRow.toDoc) = rows.map MetadataRow.toDoc from
      List.filter_eq_self.mpr fun _ _ => rfl]
  exact foldlM_createPayloadTableRef rt rows _ s'

/-- **`init` inserts the references of all rows.** -/
theorem init_rows {rt ok : Bool} {s s' : DatabaseManagerBase}
    (hdb : s.db.persistenceMetadata = rows.map MetadataRow.toDoc) :
    s.init true rt s.databaseName = some (s', ok) ↔
      ok = true ∧ s' = s.insertReferences rows ∧ (rt = true ∨ rows = []) := by
  rw [init, if_neg (by decide), Option.map_eq_some_iff]
  constructor
  · rintro ⟨s₁, hrefs, he⟩
    cases he
    exact ⟨rfl, (initPayloadTableReferences_rows hdb).mp hrefs⟩
  · rintro ⟨rfl, h⟩
    exact ⟨s', (initPayloadTableReferences_rows hdb).mpr h, rfl⟩

/-- What a new program knows. -/
def fresh (s : DatabaseManagerBase) : DatabaseManagerBase where
  db := s.db
  databaseName := s.databaseName

theorem restart_rows {rt ok : Bool} {s s' : DatabaseManagerBase}
    (hdb : s.db.persistenceMetadata = rows.map MetadataRow.toDoc) :
    s.restart true rt s.databaseName = some (s', ok) ↔
      ok = true ∧ s' = s.fresh.insertReferences rows ∧ (rt = true ∨ rows = []) :=
  init_rows (s := s.fresh) hdb

end DatabaseManagerBase

end Rows

end MicroserviceCommon
