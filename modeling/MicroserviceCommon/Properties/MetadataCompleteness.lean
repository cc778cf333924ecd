import MicroserviceCommon.Properties.MetadataWrites

/-!
# Completeness of a metadata write

A successful `writePersistenceSetMetadata` should leave the whole set: its metadata document, the
document of its kind and the payload table reference.

The results of the two upserts are logged and dropped, so a failed one does not show. A creation
keys the document of the kind by the id of the record, which is the invalid one, and an update
makes no reference.

* `metadata_writes_complete_iff` — what must hold before a write for its success to be complete
-/

namespace MicroserviceCommon

open Infra
open MongoFields
open DatabaseManagerBase

variable {rows : List MetadataRow} {s s' : DatabaseManagerBase} {p : TPersistenceSetId}
  {w : MetadataRecord} {rt : MetadataResults}

/-! ## What is stored of a record -/

namespace MetadataDoc

/-- The fields of a metadata document, each with the type it was stored with. -/
def descr? (d : Doc) : Option SPersistenceMetadataDescr :=
  (convertPersistenceTypeFromStr (iterUtf8 (d.get? PersistenceSetMetadata.sourceType))).bind
    fun sourceType =>
      (convertDataTypeFromStr (iterUtf8 (d.get? PersistenceSetMetadata.dataType))).map
        fun dataType =>
          { persistenceSetId := persistenceId d
            contextId := contextId d
            missionId := (iterInt32 (d.get? PersistenceSetMetadata.missionId)).toUInt32
            timeStepIntervalMillisec :=
              iterInt64 (d.get? PersistenceSetMetadata.updateStepMillisec)
            lastRecordedSession := iterInt32 (d.get? PersistenceSetMetadata.lastSessionId)
            sourceType := sourceType
            dataType := dataType }

def sensorId (d : Doc) : TSensorId :=
  (iterInt64 (d.get? PersistenceSetMetadataVideo.sensorId)).toUInt64

def realData (d : Doc) : Bool := iterBool (d.get? PersistenceSetMetadataDss.real)

end MetadataDoc

/-- A stored row reads back as the record it was written from, under its id. -/
theorem descr?_toDoc (r : MetadataRow) :
    MetadataDoc.descr? r.toDoc = some { r.descr with persistenceSetId := r.persId } := by
  have hmission : (iterInt32 (r.toDoc.get? PersistenceSetMetadata.missionId)).toUInt32 =
      r.descr.missionId := UInt32.toUInt32_toInt32 _
  rw [MetadataDoc.descr?, sourceType_toDoc, Option.bind_some, dataType_toDoc, Option.map_some,
    persistenceId_toDoc, contextId_toDoc, hmission]
  rfl

/-- The documents of an id. -/
def ofId (p : TPersistenceSetId) (docs : List Doc) : List Doc :=
  Collection.find (fun d => MetadataDoc.persistenceId d == p) docs

namespace MetadataRecord

/-- One metadata document has the id, and it has the fields of the record. -/
def GlobalStored (db : Database) (p : TPersistenceSetId) (w : MetadataRecord) : Prop :=
  ∃ d, ofId p db.persistenceMetadata = [d] ∧
    MetadataDoc.descr? d = some { w.descr with persistenceSetId := p }

/-- One document of the kind has the id, and it has the field of the kind. A raw record has no such
document. -/
def SpecificStored (db : Database) (p : TPersistenceSetId) : MetadataRecord → Prop
  | video m => ∃ d, ofId p db.persistenceFromVideo = [d] ∧
    MetadataDoc.sensorId d = m.recordedFromSensorId
  | dss m => ∃ d, ofId p db.persistenceFromDSS = [d] ∧ MetadataDoc.realData d = m.realData
  | raw _ => True

/-- The set is there as a whole. -/
structure Complete (s : DatabaseManagerBase) (p : TPersistenceSetId) (w : MetadataRecord) :
    Prop where
  metadata : w.GlobalStored s.db p
  specific : w.SpecificStored s.db p
  reference : (s.tablesByPersistenceId p).isSome

/-- The id under which a record is stored: its own, or the only one that is given out. -/
def target (w : MetadataRecord) : TPersistenceSetId :=
  if w.creates then 1 else w.descr.persistenceSetId

/-- What a write needs, each part from its upsert or from what was stored before. The document of
the kind is written under the id of the record only, the reference for a new set only. -/
structure Completable (rt : MetadataResults) (s : DatabaseManagerBase) (w : MetadataRecord) :
    Prop where
  metadata : rt.global = true ∨ w.GlobalStored s.db w.target
  specific : rt.specific = true ∧ ¬ w.creates ∨ w.SpecificStored s.db w.target
  reference : w.creates ∨ (s.tablesByPersistenceId w.target).isSome

end MetadataRecord

/-! ## Each part of a write -/

theorem written_metadata {db : Database} {r : MetadataRow} :
    (w.written rt db rows r).persistenceMetadata =
      (putRow rt.global r rows).map MetadataRow.toDoc := by
  rw [MetadataRecord.written]
  cases w with
  | raw m => rfl
  | video m => cases rt.specific <;> rfl
  | dss m => cases rt.specific <;> rfl

/-- The global upsert stores the record, and a failed one leaves what was stored. -/
theorem globalStored_written (rt : MetadataResults)
    (hdocs : s.db.persistenceMetadata = rows.map MetadataRow.toDoc)
    (hids : (rows.map MetadataRow.persId).Nodup) {r : MetadataRow} (hdescr : r.descr = w.descr) :
    w.GlobalStored (w.written rt s.db rows r) r.persId ↔
      rt.global = true ∨ w.GlobalStored s.db r.persId := by
  unfold MetadataRecord.GlobalStored
  rw [written_metadata, putRow]
  cases rt.global with
  | false =>
    rw [if_neg Bool.false_ne_true, ← hdocs]
    exact (or_iff_right Bool.false_ne_true).symm
  | true =>
    rw [if_pos rfl]
    refine iff_of_true ⟨r.toDoc, ?_, ?_⟩ (Or.inl rfl)
    · rw [ofId, Collection.find_map (fun q => by rw [persistenceId_toDoc]),
        Collection.find_put hids]
      rfl
    · rw [descr?_toDoc, hdescr]

section Specific

variable {β : Type} {field : String} {enc : β → Bson} {docs : List Doc}

theorem SpecificRows.ofId_upsertBy_self (h : SpecificRows field enc docs)
    (hfield : field ≠ PersistenceSetMetadata.persistenceId) (e : TPersistenceSetId × β) :
    ofId e.1 (Infra.upsertBy PersistenceSetMetadata.persistenceId (.int64 e.1)
      (specificDoc field enc e) docs) = [specificDoc field enc e] := by
  obtain ⟨rows, rfl, hids⟩ := h
  rw [ofId, upsertBy_specificDoc hfield,
    Collection.find_map (fun q => by rw [persistenceId_specificDoc]), Collection.find_put hids]
  rfl

theorem SpecificRows.ofId_upsertBy_other (h : SpecificRows field enc docs)
    (hfield : field ≠ PersistenceSetMetadata.persistenceId) {e : TPersistenceSetId × β}
    (hp : e.1 ≠ p) :
    ofId p (Infra.upsertBy PersistenceSetMetadata.persistenceId (.int64 e.1)
      (specificDoc field enc e) docs) = ofId p docs := by
  obtain ⟨rows, rfl, _⟩ := h
  rw [ofId, ofId, upsertBy_specificDoc hfield,
    Collection.find_map (fun q => by rw [persistenceId_specificDoc]),
    Collection.find_map (fun q => by rw [persistenceId_specificDoc])]
  refine congrArg _ (Collection.find_put_of_disjoint (by simpa using hp) fun d _ hd => ?_)
  rw [hd]
  simpa using hp

end Specific

theorem sensorId_specificDoc (id : TPersistenceSetId) (sensor : TSensorId) :
    MetadataDoc.sensorId (specificDoc PersistenceSetMetadataVideo.sensorId
      (fun sensor : TSensorId => .int64 sensor.toInt64) (id, sensor)) = sensor :=
  UInt64.toUInt64_toInt64 sensor

/-- An update stores the document of the kind. -/
theorem specificStored_update (rt : MetadataResults) (rows : List MetadataRow)
    (h : SpecificTyped s) {r : MetadataRow} (hr : r.persId = w.descr.persistenceSetId) :
    w.SpecificStored (w.written rt s.db rows r) r.persId ↔
      rt.specific = true ∨ w.SpecificStored s.db r.persId := by
  cases w with
  | raw m => exact iff_of_true trivial (Or.inr trivial)
  | video m =>
    rw [MetadataRecord.written, hr]
    cases rt.specific with
    | false => exact (or_iff_right Bool.false_ne_true).symm
    | true =>
      refine iff_of_true ⟨_, h.video.ofId_upsertBy_self sensorId_ne (m.persistenceSetId, _), ?_⟩
        (Or.inl rfl)
      exact sensorId_specificDoc _ _
  | dss m =>
    rw [MetadataRecord.written, hr]
    cases rt.specific with
    | false => exact (or_iff_right Bool.false_ne_true).symm
    | true =>
      exact iff_of_true ⟨_, h.dss.ofId_upsertBy_self real_ne (m.persistenceSetId, _), rfl⟩
        (Or.inl rfl)

/-- A creation leaves the documents of the id it gives out. -/
theorem specificStored_create (rt : MetadataResults) (rows : List MetadataRow)
    (h : SpecificTyped s) (hc : w.creates) {r : MetadataRow} (hr : r.persId = 1) :
    w.SpecificStored (w.written rt s.db rows r) r.persId ↔ w.SpecificStored s.db r.persId := by
  have hne : w.descr.persistenceSetId ≠ r.persId := by
    rw [hr, show w.descr.persistenceSetId = invalidPersistenceId from hc]
    decide
  cases w with
  | raw m => exact Iff.rfl
  | video m =>
    rw [MetadataRecord.written]
    cases rt.specific with
    | false => exact Iff.rfl
    | true =>
      have hsame := h.video.ofId_upsertBy_other sensorId_ne
        (e := (m.persistenceSetId, m.recordedFromSensorId)) hne
      exact exists_congr fun d => and_congr_left fun _ => iff_of_eq (congrArg (· = [d]) hsame)
  | dss m =>
    rw [MetadataRecord.written]
    cases rt.specific with
    | false => exact Iff.rfl
    | true =>
      have hsame := h.dss.ofId_upsertBy_other real_ne (e := (m.persistenceSetId, m.realData)) hne
      exact exists_congr fun d => and_congr_left fun _ => iff_of_eq (congrArg (· = [d]) hsame)

/-! ## Every state of a run -/

theorem complete_iff (h : Stored s) (hspecific : SpecificTyped s)
    (hs : w.write rt s = some (s', p)) : w.Complete s' p ↔ w.Completable rt s := by
  obtain ⟨rows, hdocs, hids⟩ := h.metadata
  by_cases hc : w.creates
  · have htarget : w.target = 1 := if_pos hc
    obtain ⟨rfl, rfl, _, _, r, hr, hdescr, _, href⟩ := (write_create_iff hdocs hc).mp hs
    rw [createPayloadTableRef, if_pos rfl, Option.some.injEq] at href
    subst href
    have hglobal := globalStored_written rt hdocs hids hdescr
    have hspec := specificStored_create rt [] hspecific hc hr
    rw [hr] at hglobal hspec
    constructor
    · rintro ⟨hm, hsp, _⟩
      exact ⟨htarget ▸ hglobal.mp hm, Or.inr (htarget ▸ hspec.mp hsp), Or.inl hc⟩
    · rintro ⟨hm, hsp, _⟩
      rw [htarget] at hm hsp
      refine ⟨hglobal.mpr hm, hspec.mpr (hsp.resolve_left fun hno => hno.2 hc), ?_⟩
      exact (UnorderedMap.isSome_insert s.tablesByPersistenceId 1 (cStr r.payloadTableName) 1).mpr
        (Or.inl rfl)
  · have htarget : w.target = w.descr.persistenceSetId := if_neg hc
    obtain ⟨rfl, _, _, r, hr, hdescr, _, rfl⟩ := (write_update_iff hdocs hc).mp hs
    have hglobal := globalStored_written rt hdocs hids hdescr
    have hspec := specificStored_update rt rows hspecific hr
    rw [hr] at hglobal hspec
    constructor
    · rintro ⟨hm, hsp, href⟩
      refine ⟨htarget ▸ hglobal.mp hm, ?_, Or.inr (htarget ▸ href)⟩
      rw [htarget]
      exact (hspec.mp hsp).imp_left fun hrt => ⟨hrt, hc⟩
    · rintro ⟨hm, hsp, href⟩
      rw [htarget] at hm hsp href
      exact ⟨hglobal.mpr hm, hspec.mpr (hsp.imp_left And.left), href.resolve_left hc⟩

/-- **In every state of a run the success of a write is complete exactly when it is
`Completable`.** -/
theorem metadata_writes_complete_iff (databaseName : String) (ops : List StorageOp) :
    AlwaysState storageStep (fun s => ∀ (rt : MetadataResults) (w : MetadataRecord)
      (s' : DatabaseManagerBase) (p : TPersistenceSetId), w.write rt s = some (s', p) →
        p ≠ invalidPersistenceId → (w.Complete s' p ↔ w.Completable rt s))
      (inited databaseName) ops :=
  (specificTyped_of_run databaseName ops).mono fun _ h _ _ _ _ hs _ => complete_iff h.1 h.2 hs

/-- A video set is created, and every call to the database succeeds. The document of its kind has
the id -1. -/
theorem metadata_video_creation_incomplete :
    ∃ s' p, (videoRecord (-1)).write {} (inited "video") = some (s', p) ∧
      p ≠ invalidPersistenceId ∧ ¬ (videoRecord (-1)).Complete s' p := by
  have hlast : ((videoRecord (-1)).write {} (inited "video")).map
      (fun r => (r.2, (ofId r.2 r.1.db.persistenceFromVideo).length)) = some (1, 0) := by
    decide
  obtain ⟨⟨s', p⟩, hs, hvalues⟩ := Option.map_eq_some_iff.mp hlast
  rw [Prod.mk.injEq] at hvalues
  obtain ⟨hid, hlength⟩ : p = 1 ∧ (ofId p s'.db.persistenceFromVideo).length = 0 := hvalues
  refine ⟨s', p, hs, by rw [hid]; decide, ?_⟩
  rintro ⟨_, ⟨d, hd, _⟩, _⟩
  rw [hd] at hlength
  cases hlength

end MicroserviceCommon
