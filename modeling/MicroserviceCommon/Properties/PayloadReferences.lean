import MicroserviceCommon.Infra.Run
import MicroserviceCommon.Storage.Metadata

/-!
# Payload table references

The maps of a running program should say what the metadata documents say, so that a restart changes
nothing. A creation fills the maps. An update may rewrite the stored table name, and a deletion
removes the document, but neither touches the maps.

* `references_agree_iff` — the maps agree with the documents in every state of a run, exactly when
  creations are stored, updates keep the table name and deletions find nothing
* `references_stale_after_delete` — a created set is deleted
-/

namespace MicroserviceCommon

open Infra

/-! ## Writing a record of any kind -/

/-- The argument of one of the three overloads of `writePersistenceSetMetadata`. -/
inductive MetadataRecord where
  | video (m : SPersistenceMetadataVideo)
  | dss (m : SPersistenceMetadataDSS)
  | raw (m : SPersistenceMetadataRaw)
  deriving DecidableEq, Repr

namespace MetadataRecord

def descr : MetadataRecord → SPersistenceMetadataDescr
  | video m => m.toSPersistenceMetadataDescr
  | dss m => m.toSPersistenceMetadataDescr
  | raw m => m.toSPersistenceMetadataDescr

def payloadTableName (s : DatabaseManagerBase) : MetadataRecord → Option String
  | video m => s.videoTableName m
  | dss m => s.dssTableName m
  | raw m => s.rawTableName m

def write (rt : MetadataResults) (s : DatabaseManagerBase) :
    MetadataRecord → Option (DatabaseManagerBase × TPersistenceSetId)
  | video m => s.writePersistenceSetMetadataVideo rt m
  | dss m => s.writePersistenceSetMetadataDSS rt m
  | raw m => s.writePersistenceSetMetadataRaw rt m

/-- The record asks for a new persistence set. -/
def creates (w : MetadataRecord) : Prop := w.descr.persistenceSetId = invalidPersistenceId

instance (w : MetadataRecord) : Decidable w.creates := inferInstanceAs (Decidable (_ = _))

end MetadataRecord

/-- What a write of metadata did that returned. `r` is the row it wrote. -/
structure MetadataWritten (rt : MetadataResults) (s s' : DatabaseManagerBase)
    (rows : List MetadataRow) (persistenceSetId : TPersistenceSetId) (r : MetadataRow) : Prop where
  databaseName : s'.databaseName = s.databaseName
  payload : s'.db.payload = s.db.payload
  docs : s'.db.persistenceMetadata =
    (if rt.global then Collection.put MetadataRow.persId r rows else rows).map MetadataRow.toDoc
  update : persistenceSetId ≠ invalidPersistenceId → r.persId = persistenceSetId ∧
    s'.tablesByPersistenceId = s.tablesByPersistenceId ∧
    s'.tableNameByPersistenceId = s.tableNameByPersistenceId
  create : persistenceSetId = invalidPersistenceId → rows = [] ∧
    s'.tablesByPersistenceId = s.tablesByPersistenceId.insert r.persId (cStr r.payloadTableName) ∧
    s'.tableNameByPersistenceId = s.tableNameByPersistenceId.insert r.persId r.payloadTableName

section Write

variable {rt : MetadataResults} {s s' : DatabaseManagerBase} {rows : List MetadataRow}
  {id : TPersistenceSetId}

theorem writePersistenceSet_spec {payloadTableName : String} {descr : SPersistenceMetadataDescr}
    {writeSpecific : Database → Database}
    (hdb : s.db.persistenceMetadata = rows.map MetadataRow.toDoc)
    (hspecific : ∀ db, (writeSpecific db).persistenceMetadata = db.persistenceMetadata ∧
      (writeSpecific db).payload = db.payload)
    (h : s.writePersistenceSet rt invalidPersistenceId payloadTableName descr writeSpecific =
      some (s', id)) :
    ∃ r : MetadataRow, r.persId = id ∧ r.payloadTableName = payloadTableName ∧
      MetadataWritten rt s s' rows descr.persistenceSetId r := by
  unfold DatabaseManagerBase.writePersistenceSet at h
  split at h
  · next hid =>
    simp only [isPersistenceMetadataValid, Option.bind_eq_bind, Option.bind_eq_some_iff,
      Option.map_eq_some_iff] at h
    obtain ⟨_, ⟨_, _, rfl⟩, h⟩ := h
    rw [if_pos rfl, Option.bind_eq_some_iff] at h
    obtain ⟨db, hglobal, h⟩ := h
    cases h
    obtain ⟨_, r, hr, hname, _, rfl⟩ := writePersistenceMetadataGlobal_rows hdb hglobal
    exact ⟨r, hr, hname, rfl, (hspecific _).2, (hspecific _).1, fun _ => ⟨hr, rfl, rfl⟩,
      fun hc => absurd hc hid⟩
  · next hid =>
    simp only [Option.bind_eq_bind, Option.bind_eq_some_iff] at h
    obtain ⟨persId, hnew, db, hglobal, s₁, href, h⟩ := h
    cases h
    obtain ⟨hpos, r, hr, hname, _, rfl⟩ := writePersistenceMetadataGlobal_rows hdb hglobal
    rw [hdb] at hnew
    obtain ⟨_, hrows⟩ := createNewPersistenceId_rows hnew hpos
    unfold DatabaseManagerBase.createPayloadTableRef at href
    split at href
    · cases href
      refine ⟨r, hr, hname, rfl, (hspecific _).2, (hspecific _).1, fun hc => absurd hc hid,
        fun _ => ⟨hrows, ?_, ?_⟩⟩
      · rw [hr, hname]
      · rw [hr, hname]
    · cases href

/-- **A write of metadata either updates the row of an id or creates the only row.** -/
theorem MetadataRecord.write_spec {w : MetadataRecord}
    (hdb : s.db.persistenceMetadata = rows.map MetadataRow.toDoc)
    (h : w.write rt s = some (s', id)) :
    ∃ r : MetadataRow, r.persId = id ∧ w.payloadTableName s = some r.payloadTableName ∧
      MetadataWritten rt s s' rows w.descr.persistenceSetId r := by
  cases w with
  | video m =>
    obtain ⟨name, hname, h⟩ := Option.bind_eq_some_iff.mp h
    obtain ⟨r, hr, rfl, hw⟩ := writePersistenceSet_spec hdb (fun db => by
      cases hs : rt.specific <;> simp [writePersistenceFromVideo]) h
    exact ⟨r, hr, hname, hw⟩
  | dss m =>
    obtain ⟨name, hname, h⟩ := Option.bind_eq_some_iff.mp h
    obtain ⟨r, hr, rfl, hw⟩ := writePersistenceSet_spec hdb (fun db => by
      cases hs : rt.specific <;> simp [writePersistenceFromDSS]) h
    exact ⟨r, hr, hname, hw⟩
  | raw m =>
    obtain ⟨name, hname, h⟩ := Option.bind_eq_some_iff.mp h
    obtain ⟨r, hr, rfl, hw⟩ := writePersistenceSet_spec hdb (fun db => ⟨rfl, rfl⟩) h
    exact ⟨r, hr, hname, hw⟩

end Write

/-! ## Runs -/

/-- The database name stays the one of the first `init`. -/
inductive MetadataOp where
  | init (index : Bool)
  | restart (index : Bool)
  | write (rt : MetadataResults) (w : MetadataRecord)
  | deleteById (rt : Bool) (id : TPersistenceSetId)
  | deleteByContext (rt : Bool) (ctxId : TContextId)
  deriving DecidableEq, Repr

namespace DatabaseManagerBase

/-- A manager after its first `init`, on an empty database. -/
def inited (databaseName : String) : DatabaseManagerBase where
  databaseName := databaseName

def step (s : DatabaseManagerBase) : MetadataOp → Option DatabaseManagerBase
  | .init index => (s.init true index s.databaseName).map (·.1)
  | .restart index => (s.restart true index s.databaseName).map (·.1)
  | .write rt w => (w.write rt s).map (·.1)
  | .deleteById rt id =>
    (deletePersistenceSetMetadataById rt s.db id).map fun db => { s with db := db }
  | .deleteByContext rt ctxId =>
    (deletePersistenceSetMetadataByContext rt s.db ctxId).map fun db => { s with db := db }

/-- The maps say what the documents say, and a restart gives the same maps. -/
structure ReferencesAgree (s : DatabaseManagerBase) : Prop where
  mapped : ∀ d ∈ s.db.persistenceMetadata,
    s.tableNameByPersistenceId (MetadataDoc.persistenceId d) =
        some (MetadataDoc.payloadTableName d) ∧
      s.tablesByPersistenceId (MetadataDoc.persistenceId d) = some (MetadataDoc.payloadTableName d)
  stored : ∀ p, ((s.tableNameByPersistenceId p).isSome ∨ (s.tablesByPersistenceId p).isSome) →
    ∃ d ∈ s.db.persistenceMetadata, MetadataDoc.persistenceId d = p
  restarted : ∃ s', s.restart true true s.databaseName = some (s', true) ∧
    s'.tableNameByPersistenceId = s.tableNameByPersistenceId ∧
    s'.tablesByPersistenceId = s.tablesByPersistenceId

/-- A creation is stored under its whole name, an update that is stored has the stored table name,
and a deletion that happens finds nothing. -/
def KeepsReferences (s : DatabaseManagerBase) : MetadataOp → Prop
  | .init _ | .restart _ => True
  | .write rt w => ∀ name, w.payloadTableName s = some name →
    if w.creates then rt.global = true ∧ cStr name = name
    else rt.global = true → ∃ d ∈ s.db.persistenceMetadata,
      MetadataDoc.persistenceId d = w.descr.persistenceSetId ∧
        MetadataDoc.payloadTableName d = cStr name
  | .deleteById rt id =>
    rt = true → ∀ d ∈ s.db.persistenceMetadata, MetadataDoc.persistenceId d ≠ id
  | .deleteByContext rt ctxId =>
    rt = true → ∀ d ∈ s.db.persistenceMetadata, MetadataDoc.contextId d ≠ ctxId

/-! ## The invariant -/

end DatabaseManagerBase

/-- Overwriting a row by one with the same entry leaves the set of entries. -/
theorem MetadataRow.mem_entry_put {rows : List MetadataRow} {r q : MetadataRow}
    (hids : (rows.map MetadataRow.persId).Nodup) (hq : q ∈ rows) (he : q.entry = r.entry)
    (e : TPersistenceSetId × String) :
    e ∈ (Collection.put MetadataRow.persId r rows).map MetadataRow.entry ↔
      e ∈ rows.map MetadataRow.entry := by
  have hid : q.persId = r.persId := congrArg Prod.fst he
  rw [List.mem_map, List.mem_map]
  constructor
  · rintro ⟨x, hx, hxe⟩
    rcases (Collection.mem_put hids x).mp hx with rfl | ⟨hx, _⟩
    · exact ⟨q, hq, he.trans hxe⟩
    · exact ⟨x, hx, hxe⟩
  · rintro ⟨x, hx, hxe⟩
    by_cases hk : x.persId = r.persId
    · have hxq : x = q := List.inj_on_of_nodup_map hids hx hq (hk.trans hid.symm)
      refine ⟨r, (Collection.mem_put hids r).mpr (Or.inl rfl), ?_⟩
      rw [← he, ← hxq]
      exact hxe
    · exact ⟨x, (Collection.mem_put hids x).mpr (Or.inr ⟨hx, hk⟩), hxe⟩

namespace DatabaseManagerBase

/-- The documents are rows with unique ids, and both maps are the lookup in them. -/
structure Mapped (s : DatabaseManagerBase) (rows : List MetadataRow) : Prop where
  docs : s.db.persistenceMetadata = rows.map MetadataRow.toDoc
  ids : (rows.map MetadataRow.persId).Nodup
  names : s.tableNameByPersistenceId = fun p => (rows.map MetadataRow.entry).lookup p
  tables : s.tablesByPersistenceId = fun p => (rows.map MetadataRow.entry).lookup p

namespace Mapped

variable {s : DatabaseManagerBase} {rows : List MetadataRow}

theorem inited (databaseName : String) : Mapped (inited databaseName) [] :=
  ⟨rfl, List.nodup_nil, rfl, rfl⟩

theorem entries_nodup (h : Mapped s rows) : ((rows.map MetadataRow.entry).map Prod.fst).Nodup := by
  rw [List.map_map]
  exact h.ids

theorem lookup_iff (h : Mapped s rows) {p : TPersistenceSetId} {name : String} :
    (rows.map MetadataRow.entry).lookup p = some name ↔
      ∃ r ∈ rows, r.persId = p ∧ cStr r.payloadTableName = name := by
  rw [UnorderedMap.lookup_eq_some_iff h.entries_nodup, List.mem_map]
  simp only [MetadataRow.entry, Prod.mk.injEq]

/-- Inserting the references again changes nothing. -/
theorem insertReferences (h : Mapped s rows) : s.insertReferences rows = s := by
  have hsame : UnorderedMap.insertAll (fun p => (rows.map MetadataRow.entry).lookup p)
      (rows.map MetadataRow.entry) = fun p => (rows.map MetadataRow.entry).lookup p := by
    funext p
    rw [UnorderedMap.insertAll_apply, Option.or_self]
  rw [DatabaseManagerBase.insertReferences, h.names, h.tables, hsame]
  obtain ⟨db, databaseName, tables, names⟩ := s
  simp only [mk.injEq, true_and]
  exact ⟨h.tables.symm, h.names.symm⟩

/-- A new program builds the maps of the old one. -/
theorem insertReferences_fresh (h : Mapped s rows) :
    s.fresh.insertReferences rows = s := by
  have hfresh : UnorderedMap.insertAll UnorderedMap.empty (rows.map MetadataRow.entry) =
      fun p => (rows.map MetadataRow.entry).lookup p := by
    funext p
    rw [UnorderedMap.insertAll_apply]
    rfl
  rw [DatabaseManagerBase.insertReferences, fresh, hfresh]
  obtain ⟨db, databaseName, tables, names⟩ := s
  simp only [mk.injEq, true_and]
  exact ⟨h.tables.symm, h.names.symm⟩

theorem init (h : Mapped s rows) {index : Bool} {s' : DatabaseManagerBase}
    (hs : s.step (.init index) = some s') : s' = s := by
  obtain ⟨⟨s₁, ok⟩, hinit, rfl⟩ := Option.map_eq_some_iff.mp hs
  obtain ⟨_, hs₁, _⟩ := (init_rows h.docs).mp hinit
  exact hs₁.trans h.insertReferences

theorem restart (h : Mapped s rows) {index : Bool} {s' : DatabaseManagerBase}
    (hs : s.step (.restart index) = some s') : s' = s := by
  obtain ⟨⟨s₁, ok⟩, hrestart, rfl⟩ := Option.map_eq_some_iff.mp hs
  obtain ⟨_, hs₁, _⟩ := (restart_rows h.docs).mp hrestart
  exact hs₁.trans h.insertReferences_fresh

theorem referencesAgree (h : Mapped s rows) : s.ReferencesAgree where
  mapped := by
    rw [h.docs]
    intro d hd
    obtain ⟨r, hr, rfl⟩ := List.mem_map.mp hd
    have hlookup := h.lookup_iff.mpr ⟨r, hr, rfl, rfl⟩
    rw [persistenceId_toDoc, payloadTableName_toDoc, h.names, h.tables]
    exact ⟨hlookup, hlookup⟩
  stored := by
    intro p hp
    rw [h.names, h.tables, or_self, Option.isSome_iff_exists] at hp
    obtain ⟨name, hname⟩ := hp
    obtain ⟨r, hr, rfl, _⟩ := h.lookup_iff.mp hname
    rw [h.docs]
    exact ⟨_, List.mem_map_of_mem hr, rfl⟩
  restarted :=
    ⟨s, (restart_rows h.docs).mpr ⟨rfl, h.insertReferences_fresh.symm, Or.inl rfl⟩, rfl, rfl⟩

/-- Overwriting a row by one with the same entry leaves the lookups. -/
theorem lookup_put (h : Mapped s rows) {r q : MetadataRow} (hq : q ∈ rows)
    (he : q.entry = r.entry) :
    (fun p => ((Collection.put MetadataRow.persId r rows).map MetadataRow.entry).lookup p) =
      fun p => (rows.map MetadataRow.entry).lookup p := by
  have hnd : (((Collection.put MetadataRow.persId r rows).map MetadataRow.entry).map
      Prod.fst).Nodup := by
    rw [List.map_map]
    exact Collection.nodup_put h.ids
  funext p
  refine Option.ext fun name => ?_
  rw [UnorderedMap.lookup_eq_some_iff hnd, UnorderedMap.lookup_eq_some_iff h.entries_nodup,
    MetadataRow.mem_entry_put h.ids hq he]

/-! ### Creations and updates -/

variable {s' : DatabaseManagerBase} {rt : MetadataResults} {w : MetadataRecord} {r : MetadataRow}

theorem create (h : Mapped s []) (hw : MetadataWritten rt s s' [] invalidPersistenceId r)
    (hglobal : rt.global = true) (hname : cStr r.payloadTableName = r.payloadTableName) :
    Mapped s' [r] := by
  obtain ⟨_, htables, hnames⟩ := hw.create rfl
  have hinsert : UnorderedMap.insert (fun _ => none) r.persId (cStr r.payloadTableName) =
      fun p => ([r].map MetadataRow.entry).lookup p := by
    funext p
    rw [UnorderedMap.insert_apply, List.map_singleton, UnorderedMap.lookup_cons]
    rfl
  refine ⟨?_, List.nodup_singleton _, ?_, ?_⟩
  · rw [hw.docs, if_pos hglobal]
    rfl
  · rw [hnames, h.names, ← hinsert, hname]
    rfl
  · rw [htables, h.tables, ← hinsert]
    rfl

theorem update (h : Mapped s rows) {id : TPersistenceSetId}
    (hw : MetadataWritten rt s s' rows id r) (hid : id ≠ invalidPersistenceId)
    (hkeep : rt.global = true → ∃ q ∈ rows, q.entry = r.entry) : ∃ rows', Mapped s' rows' := by
  obtain ⟨_, htables, hnames⟩ := hw.update hid
  cases hg : rt.global with
  | false =>
    refine ⟨rows, ?_, h.ids, hnames.trans h.names, htables.trans h.tables⟩
    rw [hw.docs, if_neg (by simp [hg])]
  | true =>
    obtain ⟨q, hq, he⟩ := hkeep hg
    refine ⟨Collection.put MetadataRow.persId r rows, ?_, Collection.nodup_put h.ids, ?_, ?_⟩
    · rw [hw.docs, if_pos hg]
    · rw [hnames, h.names, h.lookup_put hq he]
    · rw [htables, h.tables, h.lookup_put hq he]

/-- A creation that leaves the maps right was stored under its whole name. -/
theorem stored_of_agree (h : Mapped s []) (hw : MetadataWritten rt s s' [] invalidPersistenceId r)
    (hs' : s'.ReferencesAgree) :
    rt.global = true ∧ cStr r.payloadTableName = r.payloadTableName := by
  obtain ⟨_, _, hnames⟩ := hw.create rfl
  have hlookup : s'.tableNameByPersistenceId r.persId = some r.payloadTableName := by
    rw [hnames, h.names, UnorderedMap.insert_apply, if_pos rfl]
    rfl
  obtain ⟨d, hd, hdr⟩ := hs'.stored r.persId (Or.inl (by rw [hlookup]; rfl))
  have hdocs := hw.docs
  cases hg : rt.global with
  | false =>
    rw [hg, if_neg (by decide)] at hdocs
    rw [hdocs] at hd
    exact absurd hd List.not_mem_nil
  | true =>
    -- the only document names the table up to the first NUL, the map names it whole
    refine ⟨rfl, ?_⟩
    rw [hg, if_pos rfl] at hdocs
    rw [hdocs] at hd
    have hmem := List.mem_singleton.mp hd
    obtain ⟨hname, _⟩ := hs'.mapped d (hdocs ▸ hd)
    rw [hdr, hlookup, hmem, Option.some.injEq] at hname
    exact hname.symm

/-- An update that leaves the maps right kept the entry of its row. -/
theorem kept_of_agree (h : Mapped s rows) {id : TPersistenceSetId}
    (hw : MetadataWritten rt s s' rows id r) (hid : id ≠ invalidPersistenceId)
    (hs' : s'.ReferencesAgree) (hg : rt.global = true) : ∃ q ∈ rows, q.entry = r.entry := by
  obtain ⟨_, _, hnames⟩ := hw.update hid
  have hmem : r.toDoc ∈ s'.db.persistenceMetadata := by
    rw [hw.docs, if_pos hg]
    exact List.mem_map_of_mem ((Collection.mem_put h.ids r).mpr (Or.inl rfl))
  obtain ⟨hname, _⟩ := hs'.mapped _ hmem
  rw [hnames, h.names, persistenceId_toDoc, payloadTableName_toDoc] at hname
  obtain ⟨q, hq, hqid, hqname⟩ := h.lookup_iff.mp hname
  exact ⟨q, hq, Prod.ext hqid hqname⟩

/-! ### Deletions -/

/-- A deletion that finds nothing changes nothing. -/
theorem delete (h : Mapped s rows) {q : MetadataRow → Bool} {rt : Bool} {db : Database}
    (hdb : db.persistenceMetadata =
      (if rt then Collection.remove q rows else rows).map MetadataRow.toDoc)
    (hnone : rt = true → ∀ r ∈ rows, q r = false) : Mapped { s with db := db } rows := by
  refine ⟨?_, h.ids, h.names, h.tables⟩
  rw [hdb]
  cases rt with
  | false => rfl
  | true =>
    rw [if_pos rfl, Collection.remove, List.filter_eq_self.mpr fun r hr => by
      rw [hnone rfl r hr]; rfl]

/-- A deletion that leaves the maps right found nothing. -/
theorem deleted_of_agree (h : Mapped s rows) {q : MetadataRow → Bool} {rt : Bool} {db : Database}
    (hdb : db.persistenceMetadata =
      (if rt then Collection.remove q rows else rows).map MetadataRow.toDoc)
    (hs' : ReferencesAgree { s with db := db }) (hrt : rt = true) : ∀ r ∈ rows, q r = false := by
  intro r hr
  have hlookup : s.tableNameByPersistenceId r.persId = some (cStr r.payloadTableName) := by
    rw [h.names]
    exact h.lookup_iff.mpr ⟨r, hr, rfl, rfl⟩
  obtain ⟨d, hd, hdr⟩ := hs'.stored r.persId (Or.inl (by rw [hlookup]; rfl))
  rw [hdb, if_pos hrt] at hd
  obtain ⟨x, hx, rfl⟩ := List.mem_map.mp hd
  obtain ⟨hxrows, hxq⟩ := Collection.mem_remove.mp hx
  rwa [List.inj_on_of_nodup_map h.ids hxrows hr hdr] at hxq

end Mapped

/-! ## Steps -/

/-- A deletion by id leaves everything but the metadata. -/
theorem deleteById_eq {rt : Bool} {db db' : Database} {rows : List MetadataRow}
    {id : TPersistenceSetId} (hdb : db.persistenceMetadata = rows.map MetadataRow.toDoc)
    (h : deletePersistenceSetMetadataById rt db id = some db') :
    db' = { db with
      persistenceMetadata := (if rt then Collection.remove (fun r => r.persId == id) rows
        else rows).map MetadataRow.toDoc } := by
  obtain ⟨metadata, _, h⟩ := Option.bind_eq_some_iff.mp h
  obtain ⟨db₁, hdb₁, rfl⟩ := Option.map_eq_some_iff.mp h
  have hsame : db₁ = db := by
    split at hdb₁
    · exact (Option.some.inj hdb₁).symm
    · split at hdb₁
      · exact (Option.some.inj hdb₁).symm
      · split at hdb₁
        · exact (Option.some.inj hdb₁).symm
        · cases hdb₁
  subst hsame
  cases rt with
  | true =>
    rw [if_pos rfl, if_pos rfl, hdb,
      Collection.remove_map (fun r => query_persistenceId_toDoc r id) rows]
  | false =>
    rw [if_neg (by decide), if_neg (by decide), ← hdb]

theorem deleteById_docs {rt : Bool} {db db' : Database} {rows : List MetadataRow}
    {id : TPersistenceSetId} (hdb : db.persistenceMetadata = rows.map MetadataRow.toDoc)
    (h : deletePersistenceSetMetadataById rt db id = some db') :
    db'.persistenceMetadata =
      (if rt then Collection.remove (fun r => r.persId == id) rows else rows).map
        MetadataRow.toDoc := by
  rw [deleteById_eq hdb h]

theorem deleteSpecific_eq (db : Database) (m : SPersistenceMetadata) :
    deleteSpecific db m = db := by
  simp only [deleteSpecific, deletePersistenceFromDSS, deletePersistenceFromRaw,
    deletePersistenceFromVideo, List.foldl_fixed]

/-- A deletion by context leaves everything but the metadata. -/
theorem deleteByContext_eq {rt : Bool} {db db' : Database} {rows : List MetadataRow}
    {ctxId : TContextId} (hdb : db.persistenceMetadata = rows.map MetadataRow.toDoc)
    (h : deletePersistenceSetMetadataByContext rt db ctxId = some db') :
    db' = { db with
      persistenceMetadata := (if rt then Collection.remove (fun r => r.descr.contextId == ctxId)
        rows else rows).map MetadataRow.toDoc } := by
  obtain ⟨metadatas, _, rfl⟩ := Option.map_eq_some_iff.mp h
  rw [List.foldl_fixed' (deleteSpecific_eq db)]
  cases rt with
  | true =>
    rw [if_pos rfl, if_pos rfl, hdb,
      Collection.remove_map (fun r => query_ctxId_toDoc r ctxId) rows]
  | false =>
    rw [if_neg (by decide), if_neg (by decide), ← hdb]

theorem deleteByContext_docs {rt : Bool} {db db' : Database} {rows : List MetadataRow}
    {ctxId : TContextId} (hdb : db.persistenceMetadata = rows.map MetadataRow.toDoc)
    (h : deletePersistenceSetMetadataByContext rt db ctxId = some db') :
    db'.persistenceMetadata =
      (if rt then Collection.remove (fun r => r.descr.contextId == ctxId) rows else rows).map
        MetadataRow.toDoc := by
  rw [deleteByContext_eq hdb h]

theorem mapped_step {s s' : DatabaseManagerBase} {op : MetadataOp} (h : ∃ rows, Mapped s rows)
    (hkeep : s.KeepsReferences op) (hs : s.step op = some s') : ∃ rows, Mapped s' rows := by
  obtain ⟨rows, h⟩ := h
  cases op with
  | init index => exact ⟨rows, h.init hs ▸ h⟩
  | restart index => exact ⟨rows, h.restart hs ▸ h⟩
  | write rt w =>
    obtain ⟨⟨s₁, id⟩, hwrite, rfl⟩ := Option.map_eq_some_iff.mp hs
    obtain ⟨r, _, hname, hw⟩ := MetadataRecord.write_spec h.docs hwrite
    have hk := hkeep _ hname
    by_cases hc : w.creates
    · rw [if_pos hc] at hk
      rw [show w.descr.persistenceSetId = invalidPersistenceId from hc] at hw
      obtain ⟨rfl, _⟩ := hw.create rfl
      exact ⟨[r], h.create hw hk.1 hk.2⟩
    · rw [if_neg hc, h.docs] at hk
      refine h.update hw hc fun hg => ?_
      obtain ⟨d, hd, hid, hdname⟩ := hk hg
      obtain ⟨q, hq, rfl⟩ := List.mem_map.mp hd
      exact ⟨q, hq, Prod.ext (hid.trans (hw.update hc).1.symm) hdname⟩
  | deleteById rt id =>
    obtain ⟨db, hdel, rfl⟩ := Option.map_eq_some_iff.mp hs
    refine ⟨rows, h.delete (deleteById_docs h.docs hdel) fun hrt r hr => ?_⟩
    have hne := hkeep hrt r.toDoc (by rw [h.docs]; exact List.mem_map_of_mem hr)
    exact beq_eq_false_iff_ne.mpr hne
  | deleteByContext rt ctxId =>
    obtain ⟨db, hdel, rfl⟩ := Option.map_eq_some_iff.mp hs
    refine ⟨rows, h.delete (deleteByContext_docs h.docs hdel) fun hrt r hr => ?_⟩
    have hne := hkeep hrt r.toDoc (by rw [h.docs]; exact List.mem_map_of_mem hr)
    rw [contextId_toDoc] at hne
    exact beq_eq_false_iff_ne.mpr hne

/-- A step after which the references agree kept them. -/
theorem keepsReferences_of_agree {s s' : DatabaseManagerBase} {op : MetadataOp}
    (h : ∃ rows, Mapped s rows) (hs : s.step op = some s') (hs' : s'.ReferencesAgree) :
    s.KeepsReferences op := by
  obtain ⟨rows, h⟩ := h
  cases op with
  | init index => trivial
  | restart index => trivial
  | write rt w =>
    obtain ⟨⟨s₁, id⟩, hwrite, rfl⟩ := Option.map_eq_some_iff.mp hs
    obtain ⟨r, _, hname, hw⟩ := MetadataRecord.write_spec h.docs hwrite
    intro name hn
    obtain rfl : r.payloadTableName = name := Option.some.inj (hname.symm.trans hn)
    by_cases hc : w.creates
    · rw [if_pos hc]
      rw [show w.descr.persistenceSetId = invalidPersistenceId from hc] at hw
      obtain ⟨rfl, _⟩ := hw.create rfl
      exact h.stored_of_agree hw hs'
    · rw [if_neg hc, h.docs]
      intro hg
      obtain ⟨q, hq, he⟩ := h.kept_of_agree hw hc hs' hg
      refine ⟨_, List.mem_map_of_mem hq, ?_, congrArg Prod.snd he⟩
      exact (congrArg Prod.fst he).trans (hw.update hc).1
  | deleteById rt id =>
    obtain ⟨db, hdel, rfl⟩ := Option.map_eq_some_iff.mp hs
    intro hrt d hd
    rw [h.docs] at hd
    obtain ⟨r, hr, rfl⟩ := List.mem_map.mp hd
    exact beq_eq_false_iff_ne.mp
      (h.deleted_of_agree (deleteById_docs h.docs hdel) hs' hrt r hr)
  | deleteByContext rt ctxId =>
    obtain ⟨db, hdel, rfl⟩ := Option.map_eq_some_iff.mp hs
    intro hrt d hd
    rw [h.docs] at hd
    obtain ⟨r, hr, rfl⟩ := List.mem_map.mp hd
    rw [contextId_toDoc]
    exact beq_eq_false_iff_ne.mp
      (h.deleted_of_agree (deleteByContext_docs h.docs hdel) hs' hrt r hr)

end DatabaseManagerBase

open DatabaseManagerBase

/--
**The maps agree with the documents along a run exactly when every step keeps the references.**

A step that does not return ends the run: the program aborted on an assertion.
-/
theorem references_agree_iff (databaseName : String) (ops : List MetadataOp) :
    AlwaysState DatabaseManagerBase.step ReferencesAgree (inited databaseName) ops ↔
      AlwaysStep DatabaseManagerBase.step KeepsReferences (inited databaseName) ops :=
  alwaysState_iff_of_inv DatabaseManagerBase.step (fun s => ∃ rows, Mapped s rows)
    (fun _ h => h.choose_spec.referencesAgree)
    (fun _ _ _ h hkeep hs => mapped_step h hkeep hs)
    (fun _ _ _ h hs hs' => keepsReferences_of_agree h hs hs')
    ops (inited databaseName) ⟨[], Mapped.inited databaseName⟩

/-- A raw record of context 1. -/
def rawRecord (persistenceSetId : TPersistenceSetId) (missionId : TMissionId) : MetadataRecord :=
  .raw
    { persistenceSetId := persistenceSetId, contextId := 1, missionId := missionId
      timeStepIntervalMillisec := 1000, lastRecordedSession := 1
      sourceType := .autonomousRecorder, dataType := .trajectory }

/-- The set that was created is deleted. Its id stays mapped. -/
theorem references_stale_after_delete :
    ¬ AlwaysState DatabaseManagerBase.step ReferencesAgree (inited "video")
      [.write {} (rawRecord (-1) 1), .deleteById true 1] := by
  intro h
  have hlast : (runAll DatabaseManagerBase.step (inited "video")
      [.write {} (rawRecord (-1) 1), .deleteById true 1]).map
        (fun s => (s.db.persistenceMetadata.length, (s.tableNameByPersistenceId 1).isSome)) =
      some (0, true) := by
    decide
  obtain ⟨s, hs, hvalues⟩ := Option.map_eq_some_iff.mp hlast
  simp only [Prod.mk.injEq, List.length_eq_zero_iff] at hvalues
  obtain ⟨d, hd, _⟩ := (h.last hs).stored 1 (Or.inl hvalues.2)
  rw [hvalues.1] at hd
  exact List.not_mem_nil hd

end MicroserviceCommon
