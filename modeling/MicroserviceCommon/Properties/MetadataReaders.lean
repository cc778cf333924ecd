import MicroserviceCommon.Properties.MetadataCompleteness

/-!
# The two metadata readers

A set of the autonomous recorder can be read by its context and by its id. Both should return what
was last written for it.

The session is stored as `int32`. The reader by context reads it so, the reader by id reads an
`int64` and gets 0, which the assertions of a write exclude.

* `metadata_contextReader_lastWritten` — the reader by context returns what was last written
* `metadata_readers_never_agree` — the reader by id never does
-/

namespace MicroserviceCommon

open Infra
open MongoFields
open DatabaseManagerBase

/-! ## Runs with a history -/

/-- A manager with what was last written for each id. A failed upsert writes nothing. -/
structure MetadataHistory where
  manager : DatabaseManagerBase
  lastWritten : TPersistenceSetId → Option SPersistenceMetadataDescr

/-- A write of metadata of the autonomous recorder. -/
structure RecorderWrite where
  rt : MetadataResults
  record : MetadataRecord
  isRecorder : record.descr.sourceType = .autonomousRecorder

namespace MetadataHistory

def inited (databaseName : String) : MetadataHistory where
  manager := DatabaseManagerBase.inited databaseName
  lastWritten := fun _ => none

/-- The history after the write of `w` that returned the manager and the id. -/
def next (s : MetadataHistory) (w : RecorderWrite) (m : DatabaseManagerBase)
    (p : TPersistenceSetId) : MetadataHistory where
  manager := m
  lastWritten :=
    if w.rt.global then
      Function.update s.lastWritten p (some { w.record.descr with persistenceSetId := p })
    else s.lastWritten

def step (s : MetadataHistory) (w : RecorderWrite) : Option MetadataHistory :=
  (w.record.write w.rt s.manager).map fun r => s.next w r.1 r.2

/-- The records of an id that the reader by context returns. -/
def readByContext (s : MetadataHistory) (p : TPersistenceSetId) (c : TContextId) :
    Option (List SPersistenceMetadataRaw) :=
  (getPersistenceSetMetadataByContext s.manager.db.persistenceMetadata c).map fun metadatas =>
    (metadatas.flatMap (·.persistenceFromRaw)).filter fun raw => raw.persistenceSetId == p

/-- The raw records that the reader by id returns. -/
def readById (uninit : EPersistenceDataType) (s : MetadataHistory) (p : TPersistenceSetId) :
    Option (List SPersistenceMetadataRaw) :=
  (getPersistenceSetMetadataById uninit s.manager.db.persistenceMetadata p).map
    (·.persistenceFromRaw)

/-- Both readers return the one record that was last written. -/
def ReadersAgree (uninit : EPersistenceDataType) (s : MetadataHistory) (p : TPersistenceSetId)
    (c : TContextId) : Prop :=
  ∃ raw, s.readById uninit p = some [raw] ∧ s.readByContext p c = some [raw] ∧
    s.lastWritten p = some raw.toSPersistenceMetadataDescr

/-! ## The invariant -/

/-- The rows are the last writes, and all of them passed the assertions. -/
structure Recorded (s : MetadataHistory) (rows : List MetadataRow) : Prop where
  docs : s.manager.db.persistenceMetadata = rows.map MetadataRow.toDoc
  ids : (rows.map MetadataRow.persId).Nodup
  last : ∀ r ∈ rows, s.lastWritten r.persId =
    some { r.descr with persistenceSetId := r.persId }
  recorder : ∀ r ∈ rows, r.isRecorder = true
  session : ∀ r ∈ rows, r.descr.lastRecordedSession > 0

variable {s s' : MetadataHistory} {rows : List MetadataRow} {w : RecorderWrite}

theorem Recorded.inited (databaseName : String) : Recorded (inited databaseName) [] where
  docs := rfl
  ids := List.nodup_nil
  last := fun _ hr => absurd hr List.not_mem_nil
  recorder := fun _ hr => absurd hr List.not_mem_nil
  session := fun _ hr => absurd hr List.not_mem_nil

theorem Recorded.step (h : Recorded s rows) (hs : s.step w = some s') :
    ∃ rows', Recorded s' rows' := by
  obtain ⟨⟨m, p⟩, hwrite, rfl⟩ := Option.map_eq_some_iff.mp hs
  obtain ⟨r, hr, hdescr, hdb⟩ := write_db h.docs hwrite
  have haccepted : w.record.Accepted := by
    by_cases hc : w.record.creates
    · exact ((write_create_iff h.docs hc).mp hwrite).2.2.1
    · exact ((write_update_iff h.docs hc).mp hwrite).2.2.1
  have hdocs : m.db.persistenceMetadata = (putRow w.rt.global r rows).map MetadataRow.toDoc := by
    rw [show m.db = _ from hdb, written_metadata]
  cases hrt : w.rt.global with
  | false =>
    refine ⟨rows, ?_, h.ids, ?_, h.recorder, h.session⟩
    · rw [putRow, hrt, if_neg Bool.false_ne_true] at hdocs
      exact hdocs
    · intro q hq
      rw [show (s.next w m p).lastWritten = s.lastWritten by rw [next, hrt]; rfl]
      exact h.last q hq
  | true =>
    rw [putRow, hrt, if_pos rfl] at hdocs
    have hlast : (s.next w m p).lastWritten = Function.update s.lastWritten p
        (some { w.record.descr with persistenceSetId := p }) := by
      rw [next, hrt]
      rfl
    refine ⟨_, hdocs, Collection.nodup_put h.ids, ?_, ?_, ?_⟩
    · intro q hq
      rw [hlast]
      rcases (Collection.mem_put h.ids q).mp hq with rfl | ⟨hq, hne⟩
      · rw [hr, hdescr, Function.update_self]
      · rw [Function.update_of_ne (by rw [← hr]; exact hne)]
        exact h.last q hq
    · intro q hq
      rcases (Collection.mem_put h.ids q).mp hq with rfl | ⟨hq, _⟩
      · rw [MetadataRow.isRecorder, hdescr]
        exact decide_eq_true w.isRecorder
      · exact h.recorder q hq
    · intro q hq
      rcases (Collection.mem_put h.ids q).mp hq with rfl | ⟨hq, _⟩
      · rw [hdescr]
        exact haccepted.lastRecordedSession
      · exact h.session q hq

theorem recorded_of_run (databaseName : String) (ws : List RecorderWrite) :
    AlwaysState step (fun s => ∃ rows, Recorded s rows) (inited databaseName) ws :=
  alwaysState_of_alwaysStep _ (fun _ _ _ h _ hs => h.choose_spec.step hs) ws _
    ⟨[], Recorded.inited databaseName⟩ alwaysStep_trivial

/-! ## The readers -/

/-- The reader by context reads every field as it was stored. -/
theorem toRaw_descr (r : MetadataRow) :
    r.toRaw.toSPersistenceMetadataDescr = { r.descr with persistenceSetId := r.persId } := by
  have hctx : (iterInt32 (r.toDoc.get? PersistenceSetMetadata.ctxId)).toUInt32 =
      r.descr.contextId := contextId_toDoc r
  have hmission : (iterInt32 (r.toDoc.get? PersistenceSetMetadata.missionId)).toUInt32 =
      r.descr.missionId := UInt32.toUInt32_toInt32 _
  rw [MetadataRow.toRaw, readRawMetadata, hctx, hmission]
  rfl

/-- The reader by id reads another width, and gets no session. -/
theorem toRawById_session (uninit : EPersistenceDataType) (r : MetadataRow) :
    (r.toRawById uninit).lastRecordedSession = 0 := rfl

/-- **The reader by context returns the one record that was last written.** -/
theorem Recorded.readByContext (h : Recorded s rows) {r : MetadataRow} (hr : r ∈ rows)
    (hc : r.descr.contextId ≠ allContextId) :
    s.readByContext r.persId r.descr.contextId = some [r.toRaw] ∧
      s.lastWritten r.persId = some r.toRaw.toSPersistenceMetadataDescr := by
  refine ⟨?_, by rw [toRaw_descr]; exact h.last r hr⟩
  obtain ⟨metadatas, hget, hm⟩ := getPersistenceSetMetadataByContext_eq rows hc
  have hmem : r ∈ recorderRows rows r.descr.contextId :=
    List.mem_filter.mpr ⟨List.mem_filter.mpr ⟨hr, beq_self_eq_true _⟩, h.recorder r hr⟩
  have hids : ((recorderRows rows r.descr.contextId).map MetadataRow.persId).Nodup :=
    h.ids.sublist ((List.filter_sublist.trans List.filter_sublist).map _)
  rw [MetadataHistory.readByContext, h.docs, hget, Option.map_some]
  rcases hm with ⟨_, hnil⟩ | rfl
  · rw [hnil] at hmem
    cases hmem
  · rw [List.flatMap_singleton]
    exact congrArg some ((Collection.find_map (fun _ => rfl) _).trans
      (congrArg _ (Collection.find_key hids hmem)))

/-- Every record of the reader by id has the session 0, and none was written with it. -/
theorem Recorded.not_readersAgree (h : Recorded s rows) {r : MetadataRow} (hr : r ∈ rows)
    (uninit : EPersistenceDataType) (c : TContextId) : ¬ ReadersAgree uninit s r.persId c := by
  rintro ⟨raw, hbyId, _, hlast⟩
  have hzero : raw.lastRecordedSession = 0 := by
    rw [readById, h.docs, getPersistenceSetMetadataById_eq, Option.map_some,
      Option.some.injEq] at hbyId
    have hraw : raw ∈ [raw] := List.mem_singleton_self raw
    rw [← hbyId, List.mem_flatMap] at hraw
    obtain ⟨q, _, hq⟩ := hraw
    split at hq
    · rw [List.mem_singleton.mp hq, toRawById_session]
    · cases hq
  have hsession := h.session r hr
  rw [h.last r hr, Option.some.injEq] at hlast
  have hsame : r.descr.lastRecordedSession = raw.lastRecordedSession := by
    rw [← hlast]
  rw [hsame, hzero] at hsession
  exact absurd hsession (by decide)

/-- **In every state of a run, whatever is stored is read back by its context.** -/
theorem metadata_contextReader_lastWritten (databaseName : String) (ws : List RecorderWrite) :
    AlwaysState step (fun s => ∀ d ∈ s.manager.db.persistenceMetadata,
      MetadataDoc.contextId d ≠ allContextId → ∃ raw,
        s.readByContext (MetadataDoc.persistenceId d) (MetadataDoc.contextId d) = some [raw] ∧
          s.lastWritten (MetadataDoc.persistenceId d) =
            some raw.toSPersistenceMetadataDescr) (inited databaseName) ws := by
  refine (recorded_of_run databaseName ws).mono fun s h d hd hc => ?_
  obtain ⟨rows, h⟩ := h
  rw [h.docs] at hd
  obtain ⟨r, hr, rfl⟩ := List.mem_map.mp hd
  rw [contextId_toDoc] at hc ⊢
  rw [persistenceId_toDoc]
  exact ⟨r.toRaw, h.readByContext hr hc⟩

/-- **In no state of a run do the readers agree on anything that is stored.** -/
theorem metadata_readers_never_agree (databaseName : String) (ws : List RecorderWrite) :
    AlwaysState step (fun s => ∀ (uninit : EPersistenceDataType),
      ∀ d ∈ s.manager.db.persistenceMetadata,
        ¬ ReadersAgree uninit s (MetadataDoc.persistenceId d) (MetadataDoc.contextId d))
      (inited databaseName) ws := by
  refine (recorded_of_run databaseName ws).mono fun s h uninit d hd => ?_
  obtain ⟨rows, h⟩ := h
  rw [h.docs] at hd
  obtain ⟨r, hr, rfl⟩ := List.mem_map.mp hd
  exact h.not_readersAgree hr uninit _

/-- One set, written with the session 1. The reader by id says 0. -/
theorem metadata_readers_differ :
    ∃ s, runAll step (inited "video") [⟨{}, rawRecord (-1) 1, rfl⟩] = some s ∧
      (∃ d ∈ s.manager.db.persistenceMetadata,
        MetadataDoc.persistenceId d = 1 ∧ MetadataDoc.contextId d = 1) ∧
      ¬ ReadersAgree .undefined s 1 1 := by
  have hlast : (runAll step (inited "video") [⟨{}, rawRecord (-1) 1, rfl⟩]).map
      (fun s => (s.manager.db.persistenceMetadata.any fun d =>
          MetadataDoc.persistenceId d == 1 && MetadataDoc.contextId d == 1,
        (s.readById .undefined 1).map (List.map (·.lastRecordedSession)),
        (s.readByContext 1 1).map (List.map (·.lastRecordedSession)))) =
      some (true, some [0], some [1]) := by
    decide
  obtain ⟨s, hs, hvalues⟩ := Option.map_eq_some_iff.mp hlast
  simp only [Prod.mk.injEq, List.any_eq_true, Bool.and_eq_true, beq_iff_eq] at hvalues
  obtain ⟨hd, hbyId, hbyContext⟩ := hvalues
  refine ⟨s, hs, hd, ?_⟩
  rintro ⟨raw, hraw, hraw', _⟩
  rw [hraw] at hbyId
  rw [hraw'] at hbyContext
  have hsame : some [raw.lastRecordedSession] = some [0] := hbyId
  rw [show some [raw.lastRecordedSession] = some [1] from hbyContext] at hsame
  exact absurd hsame (by decide)

end MetadataHistory

end MicroserviceCommon
