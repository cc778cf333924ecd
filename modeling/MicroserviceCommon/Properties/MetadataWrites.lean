import MicroserviceCommon.Properties.ContextClearing

/-!
# What a metadata write does

`writePersistenceSetMetadata` on every state of a run: which calls return, what they return and
what they leave. The laws one would expect of it are compared with that.

An update is never refused. The validator compares nothing, so any id is accepted and moved to any
context. A creation counts the sets of all contexts and gives out an id only when there is none.

* `metadata_creations_fresh_iff` — a creation returns a fresh id exactly when nothing is stored
* `metadata_updates_validated_iff` — an update is treated as a validator should treat it exactly
  when it keeps the context of a stored set
-/

namespace MicroserviceCommon

open Infra
open MongoFields
open DatabaseManagerBase

variable {rows : List MetadataRow} {s s' : DatabaseManagerBase} {p : TPersistenceSetId}
  {w : MetadataRecord} {rt : MetadataResults}

/-! ## The write of a record of any kind -/

/-- What the assertions of a write ask of its record. -/
structure MetadataRecord.Accepted (w : MetadataRecord) : Prop where
  contextId : w.descr.contextId > 0
  lastRecordedSession : w.descr.lastRecordedSession > 0
  timeStep : w.descr.timeStepIntervalMillisec > 0
  sourceType : w.descr.sourceType ≠ .undefined
  dataType : w.descr.dataType ≠ .undefined

/-- The second upsert of a write. -/
def MetadataRecord.writeSpecific (rt : Bool) (db : Database) : MetadataRecord → Database
  | video m => writePersistenceFromVideo rt db m
  | dss m => writePersistenceFromDSS rt db m
  | raw m => writePersistenceFromRaw db m

theorem MetadataRecord.write_eq : w.write rt s =
    (w.payloadTableName s).bind fun payloadTableName =>
      s.writePersistenceSet rt invalidPersistenceId payloadTableName w.descr
        fun db => w.writeSpecific rt.specific db := by
  cases w <;> rfl

theorem convertDataTypeToStr_isSome {t : EPersistenceDataType} :
    (convertDataTypeToStr t).isSome ↔ t ≠ .undefined := by
  cases t <;> simp [convertDataTypeToStr]

theorem MetadataRecord.payloadTableName_isSome :
    (w.payloadTableName s).isSome ↔ w.descr.dataType ≠ .undefined := by
  rw [← convertDataTypeToStr_isSome]
  cases w <;> exact Bool.eq_iff_iff.mp Option.isSome_map

/-- The name of the data type follows from the record. -/
theorem MetadataRow.eq_of_data {q r : MetadataRow} (hid : q.persId = r.persId)
    (hdescr : q.descr = r.descr) (hname : q.payloadTableName = r.payloadTableName) : q = r := by
  have hdata : q.dataTypeName = r.dataTypeName :=
    Option.some.inj (q.dataType_eq.symm.trans (hdescr ▸ r.dataType_eq))
  cases q
  cases r
  simp_all

/-- The metadata collection after an upsert that may fail. -/
def putRow (rt : Bool) (r : MetadataRow) (rows : List MetadataRow) : List MetadataRow :=
  if rt then Collection.put MetadataRow.persId r rows else rows

/-- The database after both upserts of a write. -/
def MetadataRecord.written (rt : MetadataResults) (db : Database) (rows : List MetadataRow)
    (r : MetadataRow) (w : MetadataRecord) : Database :=
  w.writeSpecific rt.specific
    { db with persistenceMetadata := (putRow rt.global r rows).map MetadataRow.toDoc }

/-- The global upsert of an accepted record succeeds or fails, but it returns. -/
theorem writePersistenceMetadataGlobal_accepted {db : Database} (rt : Bool)
    (hdocs : db.persistenceMetadata = rows.map MetadataRow.toDoc) (h : w.Accepted) (hp : p > 0)
    (payloadTableName : String) :
    ∃ r : MetadataRow, r.persId = p ∧ r.descr = w.descr ∧ r.payloadTableName = payloadTableName ∧
      writePersistenceMetadataGlobal rt db p payloadTableName w.descr =
        some { db with persistenceMetadata := (putRow rt r rows).map MetadataRow.toDoc } := by
  obtain ⟨dataTypeName, hdata⟩ :=
    Option.isSome_iff_exists.mp (convertDataTypeToStr_isSome.mpr h.dataType)
  have hsome : ∃ db', writePersistenceMetadataGlobal rt db p payloadTableName w.descr =
      some db' := by
    unfold writePersistenceMetadataGlobal
    rw [if_pos ⟨h.contextId, h.lastRecordedSession, h.timeStep, hp, h.sourceType⟩, hdata]
    exact ⟨_, rfl⟩
  obtain ⟨db', hdb'⟩ := hsome
  obtain ⟨_, r, hr, hname, hdescr, rfl⟩ := writePersistenceMetadataGlobal_rows hdocs hdb'
  exact ⟨r, hr, hdescr, hname, hdb'⟩

/-- The assertions of the global upsert. -/
theorem asserted_of_writePersistenceMetadataGlobal {rt : Bool} {db db' : Database}
    {payloadTableName : String} {descr : SPersistenceMetadataDescr}
    (h : writePersistenceMetadataGlobal rt db p payloadTableName descr = some db') :
    descr.contextId > 0 ∧ descr.lastRecordedSession > 0 ∧ descr.timeStepIntervalMillisec > 0 ∧
      p > 0 ∧ descr.sourceType ≠ .undefined := by
  unfold writePersistenceMetadataGlobal at h
  split at h
  · next hasserted => exact hasserted
  · cases h

/-- The validator lets every update pass. -/
theorem isPersistenceMetadataValid_rows (rows : List MetadataRow) (p : TPersistenceSetId)
    (descr : SPersistenceMetadataDescr) :
    isPersistenceMetadataValid (rows.map MetadataRow.toDoc) p descr = some true := by
  obtain ⟨raws, hraws, _⟩ := getPersistenceSetMetadataById_rows .undefined rows p
  rw [isPersistenceMetadataValid, hraws]
  rfl

/-- Every document of a row is read, because its context is not zero. -/
def ContextGrouping.Entered (g : ContextGrouping) : Prop :=
  g.currentStoreIdx + 1 = g.out.length ∧ (g.currentCtxId ≠ 0 → g.out ≠ [])

theorem ContextGrouping.Entered.enter {g : ContextGrouping} (h : g.Entered) {ctxId : TContextId}
    (hctx : ctxId ≠ 0) : (g.enter ctxId).Entered ∧ (g.enter ctxId).out ≠ [] := by
  unfold ContextGrouping.enter
  split
  · refine ⟨⟨?_, fun _ => by simp⟩, by simp⟩
    show g.currentStoreIdx + 1 + 1 = ((g.out ++ [({} : SPersistenceMetadata)]).length : Int)
    rw [List.length_append, List.length_singleton, h.1]
    omega
  · next hsame =>
    rw [not_not] at hsame
    exact ⟨h, h.2 (hsame ▸ hctx)⟩

theorem ContextGrouping.Entered.addRaw {g : ContextGrouping} (h : g.Entered) (hne : g.out ≠ [])
    (raw : SPersistenceMetadataRaw) : ∃ g', g.addRaw raw = some g' ∧ g'.Entered := by
  have hpos : 0 < g.out.length := List.length_pos_iff.mpr hne
  have hidx := h.1
  unfold ContextGrouping.addRaw
  rw [if_pos ⟨by omega, by omega⟩]
  refine ⟨_, rfl, ?_, fun _ => ?_⟩
  · show g.currentStoreIdx + 1 = ((g.out.modify _ _).length : Int)
    rw [List.length_modify, hidx]
  · rw [← List.length_pos_iff, List.length_modify]
    exact hpos

theorem ContextGrouping.Entered.step {g : ContextGrouping} (h : g.Entered) (r : MetadataRow) :
    ∃ g', g.step r.toDoc = some g' ∧ g'.Entered := by
  have hctx : (iterInt32 (r.toDoc.get? PersistenceSetMetadata.ctxId)).toUInt32 =
      r.descr.contextId := contextId_toDoc r
  obtain ⟨hentered, hne⟩ := h.enter r.contextId_ne_zero
  simp only [ContextGrouping.step, sourceType_toDoc, dataType_toDoc, hctx, Option.bind_eq_bind,
    Option.bind_some]
  split
  · exact hentered.addRaw hne _
  all_goals exact ⟨_, rfl, hentered⟩

theorem ContextGrouping.Entered.foldlM : ∀ (rows : List MetadataRow) {g : ContextGrouping},
    g.Entered → ∃ g', (rows.map MetadataRow.toDoc).foldlM ContextGrouping.step g = some g'
  | [], g, _ => ⟨g, rfl⟩
  | r :: rows, g, h => by
    obtain ⟨g₁, hg₁, h₁⟩ := h.step r
    obtain ⟨g', hg'⟩ := foldlM rows h₁
    exact ⟨g', by rw [List.map_cons, List.foldlM_cons, hg₁]; exact hg'⟩

/-- The reader of all contexts never fails. -/
theorem getPersistenceSetMetadataByContext_all_some (rows : List MetadataRow) :
    ∃ metadatas, getPersistenceSetMetadataByContext (rows.map MetadataRow.toDoc) allContextId =
      some metadatas := by
  obtain ⟨sorted, hsorted, _⟩ := orderDesc_toDoc rows
  have hfirst : ContextGrouping.Entered {} := ⟨rfl, fun h => absurd rfl h⟩
  obtain ⟨g, hg⟩ := hfirst.foldlM sorted
  rw [getPersistenceSetMetadataByContext, if_pos rfl, hsorted, hg]
  exact ⟨g.out, rfl⟩

/-- **The next id is 1 when nothing is stored, and invalid otherwise.** -/
theorem createNewPersistenceId_eq (rows : List MetadataRow) :
    createNewPersistenceId (rows.map MetadataRow.toDoc) =
      some (if rows = [] then 1 else invalidPersistenceId) := by
  cases rows with
  | nil => decide
  | cons r rows =>
    obtain ⟨metadatas, hm⟩ := getPersistenceSetMetadataByContext_all_some (r :: rows)
    have hne := getPersistenceSetMetadataByContext_all_ne_nil hm
    rw [createNewPersistenceId, hm, Option.map_some, if_neg (List.cons_ne_nil r rows)]
    cases metadatas with
    | nil => exact absurd rfl hne
    | cons m metadatas => rfl

/-! ## When a write returns -/

/-- **An update returns exactly for an accepted record with a positive id**, and it returns that
id. -/
theorem write_update_iff (hdocs : s.db.persistenceMetadata = rows.map MetadataRow.toDoc)
    (hid : ¬ w.creates) : w.write rt s = some (s', p) ↔
      p = w.descr.persistenceSetId ∧ p > 0 ∧ w.Accepted ∧
        ∃ r : MetadataRow, r.persId = p ∧ r.descr = w.descr ∧
          w.payloadTableName s = some r.payloadTableName ∧
          s' = s.setDatabase (w.written rt s.db rows r) := by
  have hwrite : w.write rt s = (w.payloadTableName s).bind fun payloadTableName =>
      (writePersistenceMetadataGlobal rt.global s.db w.descr.persistenceSetId payloadTableName
        w.descr).map fun db =>
          (s.setDatabase (w.writeSpecific rt.specific db), w.descr.persistenceSetId) := by
    rw [MetadataRecord.write_eq]
    refine congrArg _ (funext fun payloadTableName => ?_)
    rw [writePersistenceSet, if_pos (show w.descr.persistenceSetId ≠ invalidPersistenceId from hid),
      hdocs, isPersistenceMetadataValid_rows]
    cases writePersistenceMetadataGlobal rt.global s.db w.descr.persistenceSetId payloadTableName
      w.descr <;> rfl
  rw [hwrite, Option.bind_eq_some_iff]
  constructor
  · rintro ⟨payloadTableName, hname, hglobal⟩
    obtain ⟨db, hdb, he⟩ := Option.map_eq_some_iff.mp hglobal
    cases he
    obtain ⟨hctx, hsession, hstep, hpos, hsource⟩ := asserted_of_writePersistenceMetadataGlobal hdb
    have haccepted : w.Accepted := ⟨hctx, hsession, hstep, hsource,
      MetadataRecord.payloadTableName_isSome.mp (Option.isSome_iff_exists.mpr ⟨_, hname⟩)⟩
    obtain ⟨_, r, hr, rfl, hdescr, rfl⟩ := writePersistenceMetadataGlobal_rows hdocs hdb
    exact ⟨rfl, hpos, haccepted, r, hr, hdescr, hname, rfl⟩
  · rintro ⟨rfl, hpos, haccepted, r, hr, hdescr, hname, rfl⟩
    refine ⟨r.payloadTableName, hname, ?_⟩
    obtain ⟨q, hq, hqdescr, hqname, hglobal⟩ :=
      writePersistenceMetadataGlobal_accepted rt.global hdocs haccepted hpos r.payloadTableName
    have hqr : q = r :=
      MetadataRow.eq_of_data (hq.trans hr.symm) (hqdescr.trans hdescr.symm) hqname
    rw [hglobal, hqr]
    rfl

/-- A creation that finds a stored set asks the assertions for a negative id. -/
theorem write_create_stored (hdocs : s.db.persistenceMetadata = rows.map MetadataRow.toDoc)
    (hc : w.creates) (hne : rows ≠ []) : w.write rt s = none := by
  rw [MetadataRecord.write_eq, Option.bind_eq_none_iff]
  intro payloadTableName _
  have hglobal : writePersistenceMetadataGlobal rt.global s.db invalidPersistenceId
      payloadTableName w.descr = none := by
    unfold writePersistenceMetadataGlobal
    rw [if_neg fun h => absurd h.2.2.2.1 (by decide)]
  rw [writePersistenceSet,
    if_neg (show ¬ w.descr.persistenceSetId ≠ invalidPersistenceId from not_not.mpr hc), hdocs,
    createNewPersistenceId_eq, if_neg hne, Option.bind_eq_bind, Option.bind_some, hglobal]
  rfl

/-- A creation in an empty collection writes under the id 1. -/
theorem write_create_empty
    (hdocs : s.db.persistenceMetadata = ([] : List MetadataRow).map MetadataRow.toDoc)
    (hc : w.creates) : w.write rt s = (w.payloadTableName s).bind fun payloadTableName =>
      (writePersistenceMetadataGlobal rt.global s.db 1 payloadTableName w.descr).bind fun db =>
        (createPayloadTableRef rt.index (s.setDatabase (w.writeSpecific rt.specific db)) 1
          payloadTableName).map fun s' => (s', 1) := by
  rw [MetadataRecord.write_eq]
  refine congrArg _ (funext fun payloadTableName => ?_)
  rw [writePersistenceSet,
    if_neg (show ¬ w.descr.persistenceSetId ≠ invalidPersistenceId from not_not.mpr hc), hdocs,
    createNewPersistenceId_eq, if_pos rfl, Option.bind_eq_bind, Option.bind_some]
  refine congrArg _ (funext fun db => ?_)
  show (createPayloadTableRef rt.index _ 1 payloadTableName).bind (fun s => some (s, 1)) = _
  rw [Option.map_eq_bind]
  rfl

/-- **A creation returns exactly for an accepted record in an empty collection**, when the index of
the payload table can be created, and it returns the id 1. -/
theorem write_create_iff (hdocs : s.db.persistenceMetadata = rows.map MetadataRow.toDoc)
    (hc : w.creates) : w.write rt s = some (s', p) ↔
      p = 1 ∧ rows = [] ∧ w.Accepted ∧ rt.index = true ∧
        ∃ r : MetadataRow, r.persId = 1 ∧ r.descr = w.descr ∧
          w.payloadTableName s = some r.payloadTableName ∧
          createPayloadTableRef true (s.setDatabase (w.written rt s.db [] r)) 1
            r.payloadTableName = some s' := by
  by_cases hrows : rows = []
  case neg =>
    rw [write_create_stored hdocs hc hrows]
    constructor
    · intro h
      cases h
    · rintro ⟨_, hnil, _⟩
      exact absurd hnil hrows
  subst hrows
  rw [write_create_empty hdocs hc, Option.bind_eq_some_iff]
  constructor
  · rintro ⟨payloadTableName, hname, h⟩
    obtain ⟨db, hdb, href⟩ := Option.bind_eq_some_iff.mp h
    obtain ⟨s₁, hs₁, he⟩ := Option.map_eq_some_iff.mp href
    cases he
    obtain ⟨hctx, hsession, hstep, _, hsource⟩ := asserted_of_writePersistenceMetadataGlobal hdb
    have haccepted : w.Accepted := ⟨hctx, hsession, hstep, hsource,
      MetadataRecord.payloadTableName_isSome.mp (Option.isSome_iff_exists.mpr ⟨_, hname⟩)⟩
    obtain ⟨_, r, hr, rfl, hdescr, rfl⟩ := writePersistenceMetadataGlobal_rows hdocs hdb
    have hindex : rt.index = true := by
      by_contra hno
      rw [createPayloadTableRef, if_neg hno] at hs₁
      cases hs₁
    rw [hindex] at hs₁
    exact ⟨rfl, rfl, haccepted, hindex, r, hr, hdescr, hname, hs₁⟩
  · rintro ⟨rfl, _, haccepted, hindex, r, hr, hdescr, hname, href⟩
    refine ⟨r.payloadTableName, hname, ?_⟩
    obtain ⟨q, hq, hqdescr, hqname, hglobal⟩ :=
      writePersistenceMetadataGlobal_accepted rt.global hdocs haccepted
        (show (1 : TPersistenceSetId) > 0 by decide) r.payloadTableName
    have hqr : q = r :=
      MetadataRow.eq_of_data (hq.trans hr.symm) (hqdescr.trans hdescr.symm) hqname
    rw [hglobal, hqr, hindex, Option.bind_some]
    exact Option.map_eq_some_iff.mpr ⟨s', href, rfl⟩

/-! ## Ids of new sets -/

/-- What a creation of an accepted record should do: it gives out a positive id that no document
carries, and returns it once the index is created. -/
def CreatesFresh (s : DatabaseManagerBase) (w : MetadataRecord) : Prop :=
  ∃ id, createNewPersistenceId s.db.persistenceMetadata = some id ∧ id > 0 ∧
    (∀ d ∈ s.db.persistenceMetadata, MetadataDoc.persistenceId d ≠ id) ∧
    ∀ rt : MetadataResults, rt.index = true → ∃ s', w.write rt s = some (s', id)

theorem createsFresh_iff (hdocs : s.db.persistenceMetadata = rows.map MetadataRow.toDoc)
    (hc : w.creates) (hw : w.Accepted) : CreatesFresh s w ↔ s.db.persistenceMetadata = [] := by
  rw [hdocs, List.map_eq_nil_iff]
  constructor
  · rintro ⟨id, hid, hpos, _⟩
    rw [hdocs] at hid
    exact (createNewPersistenceId_rows hid hpos).2
  · rintro rfl
    refine ⟨1, ?_, by decide, ?_, fun rt hindex => ?_⟩
    · rw [hdocs]
      exact createNewPersistenceId_eq []
    · rw [hdocs]
      intro d hd
      cases hd
    · obtain ⟨payloadTableName, hname⟩ := Option.isSome_iff_exists.mp
        ((MetadataRecord.payloadTableName_isSome (s := s)).mpr hw.dataType)
      obtain ⟨r, hr, hdescr, rfl, _⟩ := writePersistenceMetadataGlobal_accepted rt.global hdocs hw
        (show (1 : TPersistenceSetId) > 0 by decide) payloadTableName
      exact ⟨_, (write_create_iff hdocs hc).mpr
        ⟨rfl, rfl, hw, hindex, r, hr, hdescr, hname, rfl⟩⟩

/-- **In every state of a run the ids are distinct, and a creation gives out a fresh id exactly
when no set is stored.** -/
theorem metadata_creations_fresh_iff (databaseName : String) (ops : List StorageOp) :
    AlwaysState storageStep (fun s =>
      (s.db.persistenceMetadata.map MetadataDoc.persistenceId).Nodup ∧
      ∀ w : MetadataRecord, w.creates → w.Accepted →
        (CreatesFresh s w ↔ s.db.persistenceMetadata = [])) (inited databaseName) ops := by
  refine (stored_of_run databaseName ops).mono fun s h => ?_
  obtain ⟨rows, hdocs, hids⟩ := h.metadata
  refine ⟨?_, fun w hc hw => createsFresh_iff hdocs hc hw⟩
  rw [hdocs, List.map_map]
  exact hids

theorem accepted_rawRecord (persistenceSetId : TPersistenceSetId) (missionId : TMissionId) :
    (rawRecord persistenceSetId missionId).Accepted :=
  ⟨show (1 : TContextId) > 0 by decide, show (1 : TSessionNum) > 0 by decide,
    show (1000 : Int64) > 0 by decide, by simp [rawRecord, MetadataRecord.descr],
    by simp [rawRecord, MetadataRecord.descr]⟩

/-- The second of two creations gets the id -1 and fails the assertion on it. -/
theorem metadata_second_creation_fails :
    ∃ s, runAll storageStep (inited "video") [.writeMetadata {} (rawRecord (-1) 1)] = some s ∧
      (rawRecord (-1) 2).Accepted ∧ ¬ CreatesFresh s (rawRecord (-1) 2) ∧
      (rawRecord (-1) 2).write {} s = none := by
  have hlast : (runAll storageStep (inited "video")
      [.writeMetadata {} (rawRecord (-1) 1)]).map
        (fun s => (createNewPersistenceId s.db.persistenceMetadata,
          ((rawRecord (-1) 2).write {} s).isNone)) = some (some (-1), true) := by
    decide
  obtain ⟨s, hs, hvalues⟩ := Option.map_eq_some_iff.mp hlast
  rw [Prod.mk.injEq] at hvalues
  refine ⟨s, hs, accepted_rawRecord _ _, ?_, Option.isNone_iff_eq_none.mp hvalues.2⟩
  rintro ⟨id, hid, hpos, _⟩
  rw [hvalues.1, Option.some.injEq] at hid
  rw [← hid] at hpos
  exact absurd hpos (by decide)

/-! ## Specific documents -/

/-- A document of a type-specific collection: the id and one field. -/
def specificDoc {β : Type} (field : String) (enc : β → Bson) (e : TPersistenceSetId × β) : Doc :=
  [(PersistenceSetMetadata.persistenceId, .int64 e.1), (field, enc e.2)]

/-- The collection holds such documents, one for each id. -/
def SpecificRows {β : Type} (field : String) (enc : β → Bson) (docs : List Doc) : Prop :=
  ∃ rows : List (TPersistenceSetId × β),
    docs = rows.map (specificDoc field enc) ∧ (rows.map Prod.fst).Nodup

section Specific

variable {β : Type} {field : String} {enc : β → Bson} {docs : List Doc}

theorem persistenceId_specificDoc (e : TPersistenceSetId × β) :
    MetadataDoc.persistenceId (specificDoc field enc e) = e.1 := rfl

theorem upsertBy_specificDoc (hfield : field ≠ PersistenceSetMetadata.persistenceId)
    (e : TPersistenceSetId × β) (rows : List (TPersistenceSetId × β)) :
    upsertBy PersistenceSetMetadata.persistenceId (.int64 e.1) (specificDoc field enc e)
      (rows.map (specificDoc field enc)) =
        (Collection.put Prod.fst e rows).map (specificDoc field enc) := by
  have hnd : (Doc.keys (specificDoc field enc e)).Nodup := by
    simpa [specificDoc, Doc.keys] using hfield.symm
  have hquery : ∀ q : TPersistenceSetId × β,
      Query.eq PersistenceSetMetadata.persistenceId (.int64 e.1) (specificDoc field enc q) =
        (q.1 == e.1) := fun q => Bson.sameValue_int64 q.1 e.1
  refine upsertBy_map Prod.fst e hquery (fun q => ?_) ?_ rows
  · exact Doc.set_of_keys hnd List.prefix_rfl
  · exact Doc.set_of_keys hnd ⟨_, rfl⟩

theorem SpecificRows.nil : SpecificRows field enc [] := ⟨[], rfl, List.nodup_nil⟩

theorem SpecificRows.upsertBy (h : SpecificRows field enc docs)
    (hfield : field ≠ PersistenceSetMetadata.persistenceId) (e : TPersistenceSetId × β) :
    SpecificRows field enc (upsertBy PersistenceSetMetadata.persistenceId (.int64 e.1)
      (specificDoc field enc e) docs) := by
  obtain ⟨rows, rfl, hids⟩ := h
  exact ⟨_, upsertBy_specificDoc hfield e rows, Collection.nodup_put hids⟩

/-- The upsert of an id leaves the documents of other ids. -/
theorem SpecificRows.remove_upsertBy (h : SpecificRows field enc docs)
    (hfield : field ≠ PersistenceSetMetadata.persistenceId) (e : TPersistenceSetId × β) :
    Collection.remove (fun d => MetadataDoc.persistenceId d == e.1)
        (Infra.upsertBy PersistenceSetMetadata.persistenceId (.int64 e.1)
          (specificDoc field enc e) docs) =
      Collection.remove (fun d => MetadataDoc.persistenceId d == e.1) docs := by
  obtain ⟨rows, rfl, _⟩ := h
  have hid : ∀ q : TPersistenceSetId × β,
      (MetadataDoc.persistenceId (specificDoc field enc q) == e.1) = (q.1 == e.1) := fun _ => rfl
  rw [upsertBy_specificDoc hfield, Collection.remove_map hid, Collection.remove_map hid,
    Collection.remove_put]

end Specific

/-- The two type-specific collections of a state. -/
structure SpecificTyped (s : DatabaseManagerBase) : Prop where
  video : SpecificRows PersistenceSetMetadataVideo.sensorId
    (fun sensor : TSensorId => .int64 sensor.toInt64) s.db.persistenceFromVideo
  dss : SpecificRows PersistenceSetMetadataDss.real Bson.bool s.db.persistenceFromDSS

/-- The database that a write leaves. -/
theorem write_db (hdocs : s.db.persistenceMetadata = rows.map MetadataRow.toDoc)
    (h : w.write rt s = some (s', p)) :
    ∃ r : MetadataRow, r.persId = p ∧ r.descr = w.descr ∧ s'.db = w.written rt s.db rows r := by
  by_cases hc : w.creates
  · obtain ⟨rfl, rfl, _, _, r, hr, hdescr, _, href⟩ := (write_create_iff hdocs hc).mp h
    rw [createPayloadTableRef, if_pos rfl, Option.some.injEq] at href
    exact ⟨r, hr, hdescr, by rw [← href]; rfl⟩
  · obtain ⟨rfl, _, _, r, hr, hdescr, _, rfl⟩ := (write_update_iff hdocs hc).mp h
    exact ⟨r, hr, hdescr, rfl⟩

theorem sensorId_ne : PersistenceSetMetadataVideo.sensorId ≠ PersistenceSetMetadata.persistenceId :=
  by decide

theorem real_ne : PersistenceSetMetadataDss.real ≠ PersistenceSetMetadata.persistenceId := by
  decide

/-- Only the collection of its kind sees the second upsert of a write. -/
theorem SpecificTyped.write (h : SpecificTyped s)
    (hdocs : s.db.persistenceMetadata = rows.map MetadataRow.toDoc)
    (hs : w.write rt s = some (s', p)) : SpecificTyped s' := by
  obtain ⟨r, _, _, hdb⟩ := write_db hdocs hs
  cases w with
  | raw m => exact ⟨by rw [hdb]; exact h.video, by rw [hdb]; exact h.dss⟩
  | video m =>
    cases hrt : rt.specific with
    | false =>
      rw [MetadataRecord.written, hrt] at hdb
      exact ⟨by rw [hdb]; exact h.video, by rw [hdb]; exact h.dss⟩
    | true =>
      rw [MetadataRecord.written, hrt] at hdb
      exact ⟨by rw [hdb]; exact h.video.upsertBy sensorId_ne (m.persistenceSetId, _),
        by rw [hdb]; exact h.dss⟩
  | dss m =>
    cases hrt : rt.specific with
    | false =>
      rw [MetadataRecord.written, hrt] at hdb
      exact ⟨by rw [hdb]; exact h.video, by rw [hdb]; exact h.dss⟩
    | true =>
      rw [MetadataRecord.written, hrt] at hdb
      exact ⟨by rw [hdb]; exact h.video,
        by rw [hdb]; exact h.dss.upsertBy real_ne (m.persistenceSetId, _)⟩

/-- No other step touches the specific collections. -/
theorem storageStep_specific {op : StorageOp} (h : Stored s)
    (hop : ∀ rt w, op ≠ .writeMetadata rt w) (hs : s.storageStep op = some s') :
    s'.db.persistenceFromVideo = s.db.persistenceFromVideo ∧
      s'.db.persistenceFromDSS = s.db.persistenceFromDSS := by
  obtain ⟨rows, hdocs, _⟩ := h.metadata
  cases op with
  | init index =>
    obtain ⟨⟨m, ok⟩, hinit, rfl⟩ := Option.map_eq_some_iff.mp hs
    obtain ⟨_, rfl, _⟩ := (init_rows hdocs).mp hinit
    exact ⟨rfl, rfl⟩
  | restart index =>
    obtain ⟨⟨m, ok⟩, hrestart, rfl⟩ := Option.map_eq_some_iff.mp hs
    obtain ⟨_, rfl, _⟩ := (restart_rows hdocs).mp hrestart
    exact ⟨rfl, rfl⟩
  | writeMetadata rt w => exact absurd rfl (hop rt w)
  | deleteMetadataById rt id =>
    obtain ⟨db, hdel, rfl⟩ := Option.map_eq_some_iff.mp hs
    rw [deleteById_eq hdocs hdel]
    exact ⟨rfl, rfl⟩
  | deleteMetadataByContext rt ctxId =>
    obtain ⟨db, hdel, rfl⟩ := Option.map_eq_some_iff.mp hs
    rw [deleteByContext_eq hdocs hdel]
    exact ⟨rfl, rfl⟩
  | writeTrajectory rt persId data =>
    obtain ⟨⟨m, ok⟩, hwrite, rfl⟩ := Option.map_eq_some_iff.mp hs
    obtain ⟨t, _, he⟩ := Option.map_eq_some_iff.mp hwrite
    split at he <;> (cases he; exact ⟨rfl, rfl⟩)
  | deleteRange rt filter =>
    obtain ⟨t, _, rfl⟩ := Option.map_eq_some_iff.mp hs
    split <;> exact ⟨rfl, rfl⟩
  | insertDescription rt persId descr => cases hs; exact ⟨rfl, rfl⟩
  | updateDescription rt persId descr => cases hs; exact ⟨rfl, rfl⟩
  | deleteDescription rt persId num => cases hs; exact ⟨rfl, rfl⟩

theorem specificTyped_step {op : StorageOp} (h : Stored s) (hspecific : SpecificTyped s)
    (hs : s.storageStep op = some s') : SpecificTyped s' := by
  by_cases hop : ∃ rt w, op = .writeMetadata rt w
  · obtain ⟨rt, w, rfl⟩ := hop
    obtain ⟨rows, hdocs, _⟩ := h.metadata
    obtain ⟨⟨m, p⟩, hwrite, rfl⟩ := Option.map_eq_some_iff.mp hs
    exact hspecific.write hdocs hwrite
  · obtain ⟨hvideo, hdss⟩ := storageStep_specific h (fun rt w he => hop ⟨rt, w, he⟩) hs
    exact ⟨by rw [hvideo]; exact hspecific.video, by rw [hdss]; exact hspecific.dss⟩

/-- **Every state of a run has typed collections.** -/
theorem specificTyped_of_run (databaseName : String) (ops : List StorageOp) :
    AlwaysState storageStep (fun s => Stored s ∧ SpecificTyped s) (inited databaseName) ops :=
  alwaysState_of_alwaysStep _
    (fun _ _ _ h _ hs => ⟨stored_step h.1 hs, specificTyped_step h.1 h.2 hs⟩) ops _
    ⟨Stored.inited databaseName, SpecificRows.nil, SpecificRows.nil⟩ alwaysStep_trivial

/-! ## Validated updates -/

/-- Outside the documents of an id nothing changes. -/
structure OnlyDocumentsOf (id : TPersistenceSetId) (s s' : DatabaseManagerBase) : Prop where
  metadata : Collection.remove (fun d => MetadataDoc.persistenceId d == id)
      s'.db.persistenceMetadata =
    Collection.remove (fun d => MetadataDoc.persistenceId d == id) s.db.persistenceMetadata
  video : Collection.remove (fun d => MetadataDoc.persistenceId d == id)
      s'.db.persistenceFromVideo =
    Collection.remove (fun d => MetadataDoc.persistenceId d == id) s.db.persistenceFromVideo
  dss : Collection.remove (fun d => MetadataDoc.persistenceId d == id) s'.db.persistenceFromDSS =
    Collection.remove (fun d => MetadataDoc.persistenceId d == id) s.db.persistenceFromDSS
  rest : s' = { s with
    db := { s.db with
      persistenceMetadata := s'.db.persistenceMetadata
      persistenceFromVideo := s'.db.persistenceFromVideo
      persistenceFromDSS := s'.db.persistenceFromDSS } }

/-- The set of the record is stored, in the context of the record. -/
def MetadataRecord.Known (s : DatabaseManagerBase) (w : MetadataRecord) : Prop :=
  ∃ d ∈ s.db.persistenceMetadata, MetadataDoc.persistenceId d = w.descr.persistenceSetId ∧
    MetadataDoc.contextId d = w.descr.contextId

/-- What an update should do: it keeps to the documents of a known set, and refuses any other. -/
def Validated (rt : MetadataResults) (s : DatabaseManagerBase) (w : MetadataRecord) : Prop :=
  (w.Known s → ∃ s', w.write rt s = some (s', w.descr.persistenceSetId) ∧
    OnlyDocumentsOf w.descr.persistenceSetId s s') ∧
  (¬ w.Known s → w.write rt s = some (s, invalidPersistenceId))

/-- Both upserts of an update are keyed by the id of its record. -/
theorem onlyDocumentsOf_written (hspecific : SpecificTyped s)
    (hdocs : s.db.persistenceMetadata = rows.map MetadataRow.toDoc) {r : MetadataRow}
    (hr : r.persId = w.descr.persistenceSetId) :
    OnlyDocumentsOf w.descr.persistenceSetId s (s.setDatabase (w.written rt s.db rows r)) := by
  have hmeta : Collection.remove (fun d => MetadataDoc.persistenceId d == w.descr.persistenceSetId)
      ((putRow rt.global r rows).map MetadataRow.toDoc) =
    Collection.remove (fun d => MetadataDoc.persistenceId d == w.descr.persistenceSetId)
      s.db.persistenceMetadata := by
    have hid : ∀ q : MetadataRow, (MetadataDoc.persistenceId q.toDoc == w.descr.persistenceSetId) =
        (q.persId == r.persId) := fun q => by rw [persistenceId_toDoc, hr]
    rw [hdocs, Collection.remove_map hid, Collection.remove_map hid, putRow]
    split
    · rw [Collection.remove_put]
    · rfl
  cases w with
  | raw m => exact ⟨hmeta, rfl, rfl, rfl⟩
  | video m =>
    rw [MetadataRecord.written]
    cases rt.specific with
    | false => exact ⟨hmeta, rfl, rfl, rfl⟩
    | true =>
      exact ⟨hmeta, hspecific.video.remove_upsertBy sensorId_ne (m.persistenceSetId, _), rfl, rfl⟩
  | dss m =>
    rw [MetadataRecord.written]
    cases rt.specific with
    | false => exact ⟨hmeta, rfl, rfl, rfl⟩
    | true =>
      exact ⟨hmeta, rfl, hspecific.dss.remove_upsertBy real_ne (m.persistenceSetId, _), rfl⟩

theorem validated_iff (h : Stored s) (hspecific : SpecificTyped s) (hid : ¬ w.creates) :
    Validated rt s w ↔ w.Known s ∧ w.Accepted := by
  obtain ⟨rows, hdocs, _⟩ := h.metadata
  constructor
  · rintro ⟨hknown, hunknown⟩
    by_cases hw : w.Known s
    · obtain ⟨s', hwrite, _⟩ := hknown hw
      exact ⟨hw, ((write_update_iff hdocs hid).mp hwrite).2.2.1⟩
    · -- an id is returned only as it was given
      have hreturned := ((write_update_iff hdocs hid).mp (hunknown hw)).1
      exact absurd hreturned.symm hid
  · rintro ⟨hw, haccepted⟩
    refine ⟨fun _ => ?_, fun hno => absurd hw hno⟩
    obtain ⟨d, hd, hdid, _⟩ := hw
    rw [hdocs] at hd
    obtain ⟨q, _, rfl⟩ := List.mem_map.mp hd
    rw [persistenceId_toDoc] at hdid
    have hpos : w.descr.persistenceSetId > 0 := hdid ▸ q.persId_pos
    obtain ⟨payloadTableName, hname⟩ := Option.isSome_iff_exists.mp
      ((MetadataRecord.payloadTableName_isSome (s := s)).mpr haccepted.dataType)
    obtain ⟨r, hr, hdescr, rfl, _⟩ :=
      writePersistenceMetadataGlobal_accepted rt.global hdocs haccepted hpos payloadTableName
    exact ⟨_, (write_update_iff hdocs hid).mpr
      ⟨rfl, hpos, haccepted, r, hr, hdescr, hname, rfl⟩, onlyDocumentsOf_written hspecific hdocs hr⟩

/-- **In every state of a run an update is validated exactly when there was nothing to refuse**: its
set is stored with its context, and the record passes the assertions. -/
theorem metadata_updates_validated_iff (databaseName : String) (ops : List StorageOp) :
    AlwaysState storageStep (fun s => ∀ (rt : MetadataResults) (w : MetadataRecord), ¬ w.creates →
      (Validated rt s w ↔ w.Known s ∧ w.Accepted)) (inited databaseName) ops :=
  (specificTyped_of_run databaseName ops).mono fun _ h _ _ hid => validated_iff h.1 h.2 hid

/-- A record of a set that was never created. The update creates its document. -/
theorem metadata_update_unknown_accepted :
    ¬ Validated {} (inited "video") (rawRecord 7 1) := by
  intro h
  have hunknown : ¬ (rawRecord 7 1).Known (inited "video") := by
    rintro ⟨d, hd, _⟩
    cases hd
  have hreturned : ((rawRecord 7 1).write {} (inited "video")).map (·.2) = some 7 := by decide
  rw [h.2 hunknown] at hreturned
  exact absurd hreturned (by decide)

end MicroserviceCommon
