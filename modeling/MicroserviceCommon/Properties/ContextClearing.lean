import MicroserviceCommon.Properties.PayloadIsolation
import MicroserviceCommon.Properties.StoredData
import MicroserviceCommon.Storage.ContextDeletion

/-!
# Clearing a context

What the three deletions by context leave of a context, and what the deletion of one set leaves of
the set.

The readers of metadata list the sets of the autonomous recorder only, and the functions that
should delete the video and DSS records are empty. So the deletions pass over every other set.

* `contextClearing_iff` — when a context is cleared and a set deleted, in every state of a run
* `contextClearing_leaves_video` — a video set keeps its payload and cannot be deleted
-/

namespace MicroserviceCommon

open Infra
open MongoFields
open DatabaseManagerBase

variable {rows : List MetadataRow} {c : TContextId} {s s' : DatabaseManagerBase}

/-! ## The sets that the deletions see -/

/-- A set of the autonomous recorder. -/
def MetadataRow.isRecorder (r : MetadataRow) : Bool :=
  decide (r.descr.sourceType = .autonomousRecorder)

/-- The ids that `getPersistenceSetMetadata` returns for a context. -/
def recorderIds (rows : List MetadataRow) (c : TContextId) : List TPersistenceSetId :=
  ((rows.filter fun r => r.descr.contextId == c).filter MetadataRow.isRecorder).map
    MetadataRow.persId

/-- The raw record that the reader by context makes of a row. -/
def MetadataRow.toRaw (r : MetadataRow) : SPersistenceMetadataRaw :=
  readRawMetadata r.toDoc (iterInt32 (r.toDoc.get? PersistenceSetMetadata.lastSessionId))
    r.descr.sourceType r.descr.dataType

/-- The loop variables once the only context was entered. -/
def ContextGrouping.entered (c : TContextId) (raws : List SPersistenceMetadataRaw) :
    ContextGrouping where
  out := [{ persistenceFromRaw := raws }]
  currentCtxId := c
  currentStoreIdx := 0

theorem ContextGrouping.step_entered {r : MetadataRow} (h : r.descr.contextId = c)
    (raws : List SPersistenceMetadataRaw) : step (entered c raws) r.toDoc =
      some (entered c (raws ++ if r.isRecorder then [r.toRaw] else [])) := by
  have hctx : (iterInt32 (r.toDoc.get? PersistenceSetMetadata.ctxId)).toUInt32 = c := by
    rw [← h]
    exact contextId_toDoc r
  have henter : (entered c raws).enter c = entered c raws := if_neg (by simp [entered])
  simp only [step, sourceType_toDoc, dataType_toDoc, hctx, Option.bind_eq_bind,
    Option.bind_some, henter]
  unfold MetadataRow.isRecorder
  cases hsource : r.descr.sourceType with
  | autonomousRecorder =>
    have hraw : r.toRaw = readRawMetadata r.toDoc
        (iterInt32 (r.toDoc.get? PersistenceSetMetadata.lastSessionId)) .autonomousRecorder
        r.descr.dataType := by
      rw [MetadataRow.toRaw, hsource]
    rw [decide_eq_true rfl, if_pos rfl, hraw]
    rfl
  | videoServer => simp
  | dss => simp
  | undefined => simp

/-- The first row of a context, which is not zero, opens its entry. -/
theorem ContextGrouping.step_first {r : MetadataRow} (h : r.descr.contextId = c) :
    step {} r.toDoc = step (entered c []) r.toDoc := by
  have hctx : (iterInt32 (r.toDoc.get? PersistenceSetMetadata.ctxId)).toUInt32 = c := by
    rw [← h]
    exact contextId_toDoc r
  have hne : c ≠ 0 := h ▸ r.contextId_ne_zero
  have hfirst : enter {} c = entered c [] := if_pos hne
  have hsecond : (entered c []).enter c = entered c [] := if_neg (by simp [entered])
  simp only [step, hctx, hfirst, hsecond]

/-- Once the context is entered the reader collects its recorder rows. -/
theorem ContextGrouping.foldlM_entered : ∀ (rows : List MetadataRow)
    (raws : List SPersistenceMetadataRaw), (∀ r ∈ rows, r.descr.contextId = c) →
      (rows.map MetadataRow.toDoc).foldlM step (entered c raws) =
        some (entered c (raws ++ (rows.filter MetadataRow.isRecorder).map MetadataRow.toRaw))
  | [], raws, _ => by
    rw [List.filter_nil, List.map_nil, List.map_nil, List.append_nil]
    rfl
  | r :: rows, raws, h => by
    have ih := foldlM_entered rows (raws ++ if r.isRecorder then [r.toRaw] else [])
      fun q hq => h q (List.mem_cons_of_mem _ hq)
    rw [List.map_cons, List.foldlM_cons, step_entered (h r List.mem_cons_self),
      Option.bind_eq_bind, Option.bind_some, ih, List.append_assoc, List.filter_cons]
    cases r.isRecorder <;> rfl

/-- The recorder rows of a context. -/
def recorderRows (rows : List MetadataRow) (c : TContextId) : List MetadataRow :=
  (rows.filter fun r => r.descr.contextId == c).filter MetadataRow.isRecorder

/-- The reader by context returns nothing, or one entry with the recorder rows. -/
theorem getPersistenceSetMetadataByContext_eq (rows : List MetadataRow) (hc : c ≠ allContextId) :
    ∃ metadatas,
      getPersistenceSetMetadataByContext (rows.map MetadataRow.toDoc) c = some metadatas ∧
        (metadatas = [] ∧ recorderRows rows c = [] ∨
          metadatas = [{ persistenceFromRaw := (recorderRows rows c).map MetadataRow.toRaw }]) := by
  have hfind : Collection.find (Query.eq PersistenceSetMetadata.ctxId (.int32 c.toInt32))
      (rows.map MetadataRow.toDoc) =
        (rows.filter fun r => r.descr.contextId == c).map MetadataRow.toDoc :=
    Collection.find_map (fun r => query_ctxId_toDoc r c) rows
  rw [getPersistenceSetMetadataByContext, if_neg hc, hfind, recorderRows]
  have hmem : ∀ r ∈ rows.filter fun r => r.descr.contextId == c, r.descr.contextId = c :=
    fun r hr => eq_of_beq (List.mem_filter.mp hr).2
  generalize (rows.filter fun r => r.descr.contextId == c) = found at hmem
  cases found with
  | nil => exact ⟨[], rfl, Or.inl ⟨rfl, rfl⟩⟩
  | cons r found =>
    have hfirst := ContextGrouping.step_first (hmem r List.mem_cons_self)
    have hfold := ContextGrouping.foldlM_entered (r :: found) [] hmem
    rw [List.map_cons, List.foldlM_cons, ← hfirst, ← List.foldlM_cons, ← List.map_cons] at hfold
    exact ⟨_, by rw [hfold]; rfl, Or.inr rfl⟩

/-- **What the reader by context returns**: nothing, or one entry with the recorder rows. -/
theorem getPersistenceSetMetadataByContext_rows (rows : List MetadataRow) (hc : c ≠ allContextId) :
    ∃ metadatas,
      getPersistenceSetMetadataByContext (rows.map MetadataRow.toDoc) c = some metadatas ∧
        (metadatas = [] ∧ recorderIds rows c = [] ∨
          ∃ raws, metadatas = [{ persistenceFromRaw := raws }] ∧
            raws.map (·.persistenceSetId) = recorderIds rows c) := by
  obtain ⟨metadatas, hget, hm⟩ := getPersistenceSetMetadataByContext_eq rows hc
  refine ⟨metadatas, hget, hm.imp (fun h => ⟨h.1, ?_⟩) fun h => ⟨_, h, ?_⟩⟩
  · exact congrArg (List.map MetadataRow.persId) h.2
  · rw [List.map_map]
    rfl

/-! ## The deletions -/

theorem deleteTotalData_rows {rt : Bool}
    (hdocs : s.db.persistenceMetadata = rows.map MetadataRow.toDoc) (hc : c ≠ allContextId) :
    s.deleteTotalData rt c = (recorderIds rows c).foldlM
      (fun s id => s.deleteDataRange rt { persistenceSetId := id }) s := by
  obtain ⟨metadatas, hget, hcases⟩ := getPersistenceSetMetadataByContext_rows rows hc
  rw [deleteTotalData, hdocs, hget, Option.bind_some]
  rcases hcases with ⟨rfl, hids⟩ | ⟨raws, rfl, hids⟩
  · rw [hids]
    rfl
  · rw [← hids, List.foldlM_map, List.foldlM_cons]
    simp

theorem deleteSessionDescriptionByContext_rows {rt : Bool}
    (hdocs : s.db.persistenceMetadata = rows.map MetadataRow.toDoc) (hc : c ≠ allContextId) :
    s.deleteSessionDescriptionByContext rt c =
      some (s.setDescriptions ((recorderIds rows c).foldl
        (fun docs id => deleteSessionDescription rt docs id allSessionNum)
        s.db.persistenceDescription)) := by
  obtain ⟨metadatas, hget, hcases⟩ := getPersistenceSetMetadataByContext_rows rows hc
  rw [deleteSessionDescriptionByContext, hdocs, hget, Option.map_some]
  rcases hcases with ⟨rfl, hids⟩ | ⟨raws, rfl, hids⟩
  · rw [hids]
    rfl
  · rw [← hids, List.foldl_map]
    rfl

/-- One set after the other loses its descriptions. -/
theorem foldl_deleteSessionDescription : ∀ (ids : List TPersistenceSetId)
    (rows : List DescriptionRow),
    ids.foldl (fun docs id => deleteSessionDescription true docs id allSessionNum)
        (rows.map DescriptionRow.toDoc) =
      (Collection.remove (fun r => decide (r.1 ∈ ids)) rows).map DescriptionRow.toDoc
  | [], rows => by
    rw [List.foldl_nil, Collection.remove, List.filter_eq_self.mpr fun r _ => by simp]
  | id :: ids, rows => by
    rw [List.foldl_cons, delete_rows, foldl_deleteSessionDescription ids, Collection.remove,
      Collection.remove, Collection.remove, List.filter_filter]
    congr 1
    refine List.filter_congr fun r _ => ?_
    rw [Bool.eq_iff_iff]
    simp [and_comm]

/-- The payload without the tables of these sets. -/
def clearTables (s : DatabaseManagerBase) (ids : List TPersistenceSetId) : String → List Doc :=
  fun t => if ∃ id ∈ ids, s.getPayloadTableRef id = some t then [] else s.db.payload t

theorem clearTables_setPayload {id : TPersistenceSetId} {ids : List TPersistenceSetId} {t : String}
    (href : s.getPayloadTableRef id = some t) :
    clearTables (s.setPayload t []) ids = clearTables s (id :: ids) := by
  funext t'
  have href' : ∀ q, (s.setPayload t []).getPayloadTableRef q = s.getPayloadTableRef q :=
    fun _ => rfl
  simp only [clearTables, href', List.exists_mem_cons_iff, href, Option.some.injEq]
  by_cases ht : t = t'
  · rw [if_pos (Or.inl ht), ← ht]
    split
    · rfl
    · exact Function.update_self ..
  · simp only [ht, false_or]
    split
    · rfl
    · exact Function.update_of_ne (Ne.symm ht) ..

/-- One set after the other loses its payload, if all have a reference. -/
theorem foldlM_deleteDataRange : ∀ (ids : List TPersistenceSetId) (s s' : DatabaseManagerBase),
    ids.foldlM (fun s id => s.deleteDataRange true { persistenceSetId := id }) s = some s' ↔
      (∀ id ∈ ids, (s.getPayloadTableRef id).isSome) ∧
        s' = { s with db := { s.db with payload := clearTables s ids } }
  | [], s, s' => by
    have hpayload : clearTables s [] = s.db.payload := by
      funext t
      exact if_neg fun ⟨_, hid, _⟩ => List.not_mem_nil hid
    rw [List.foldlM_nil, hpayload]
    constructor
    · rintro h
      cases h
      exact ⟨fun _ hid => absurd hid List.not_mem_nil, rfl⟩
    · rintro ⟨_, rfl⟩
      rfl
  | id :: ids, s, s' => by
    rw [List.foldlM_cons, deleteDataRange]
    cases href : s.getPayloadTableRef id with
    | none =>
      refine iff_of_false (fun h => by cases h) ?_
      rintro ⟨hall, _⟩
      have hid := hall id List.mem_cons_self
      rw [href] at hid
      cases hid
    | some t =>
      have hnil : Collection.remove Query.all (s.db.payload t) = [] :=
        List.filter_eq_nil_iff.mpr fun _ _ => by simp [Query.all]
      rw [Option.map_some, if_pos rfl, hnil, Option.bind_eq_bind, Option.bind_some,
        foldlM_deleteDataRange ids, clearTables_setPayload href, List.forall_mem_cons]
      refine and_congr_left fun _ => ?_
      exact (and_iff_right (by rw [href]; rfl)).symm

/-- The deletion of the metadata of a context always returns. -/
theorem deleteByContext_some {rt : Bool} {db : Database}
    (hdocs : db.persistenceMetadata = rows.map MetadataRow.toDoc) (hc : c ≠ allContextId) :
    deletePersistenceSetMetadataByContext rt db c = some { db with
      persistenceMetadata := (if rt then Collection.remove (fun r => r.descr.contextId == c) rows
        else rows).map MetadataRow.toDoc } := by
  obtain ⟨metadatas, hget, _⟩ := getPersistenceSetMetadataByContext_rows rows hc
  have hsome : ∃ db', deletePersistenceSetMetadataByContext rt db c = some db' := by
    rw [deletePersistenceSetMetadataByContext, hdocs, hget]
    exact ⟨_, rfl⟩
  obtain ⟨db', hdb'⟩ := hsome
  rw [hdb', deleteByContext_eq hdocs hdb']

/-- The three deletions of a context, in the order of the test. -/
def DatabaseManagerBase.clearContext (s : DatabaseManagerBase) (ctxId : TContextId) :
    Option DatabaseManagerBase :=
  (s.deleteTotalData true ctxId).bind fun s =>
    (s.deleteSessionDescriptionByContext true ctxId).bind fun s =>
      (deletePersistenceSetMetadataByContext true s.db ctxId).map s.setDatabase

/-- The manager after the three deletions, when the metadata and the descriptions are these rows. -/
def DatabaseManagerBase.cleared (s : DatabaseManagerBase) (rows : List MetadataRow)
    (descriptions : List DescriptionRow) (c : TContextId) : DatabaseManagerBase :=
  s.setDatabase { s.db with
    payload := clearTables s (recorderIds rows c)
    persistenceDescription := (Collection.remove (fun r => decide (r.1 ∈ recorderIds rows c))
      descriptions).map DescriptionRow.toDoc
    persistenceMetadata := (Collection.remove (fun r => r.descr.contextId == c) rows).map
      MetadataRow.toDoc }

/-- **What the three deletions do together.** -/
theorem clearContext_rows {descriptions : List DescriptionRow}
    (hdocs : s.db.persistenceMetadata = rows.map MetadataRow.toDoc)
    (hdescr : s.db.persistenceDescription = descriptions.map DescriptionRow.toDoc)
    (hc : c ≠ allContextId) :
    s.clearContext c = some s' ↔
      (∀ id ∈ recorderIds rows c, (s.getPayloadTableRef id).isSome) ∧
        s' = s.cleared rows descriptions c := by
  rw [clearContext, deleteTotalData_rows hdocs hc, Option.bind_eq_some_iff]
  -- the two later deletions read the metadata that the first one leaves
  have hafter : ∀ s₁ : DatabaseManagerBase,
      s₁ = { s with db := { s.db with payload := clearTables s (recorderIds rows c) } } →
        ((s₁.deleteSessionDescriptionByContext true c).bind fun s₂ =>
          (deletePersistenceSetMetadataByContext true s₂.db c).map s₂.setDatabase) =
        some (s.cleared rows descriptions c) := by
    intro s₁ hs₁
    have hdocs₁ : s₁.db.persistenceMetadata = rows.map MetadataRow.toDoc := by
      rw [hs₁]
      exact hdocs
    have hdescr₁ : s₁.db.persistenceDescription = descriptions.map DescriptionRow.toDoc := by
      rw [hs₁]
      exact hdescr
    have hdocs₂ : ∀ docs, (s₁.setDescriptions docs).db.persistenceMetadata =
        rows.map MetadataRow.toDoc := fun _ => hdocs₁
    rw [deleteSessionDescriptionByContext_rows hdocs₁ hc, Option.bind_some, hdescr₁,
      foldl_deleteSessionDescription, deleteByContext_some (hdocs₂ _) hc, Option.map_some, hs₁]
    rfl
  constructor
  · rintro ⟨s₁, h₁, h₂⟩
    obtain ⟨hrefs, hs₁⟩ := (foldlM_deleteDataRange _ _ _).mp h₁
    rw [hafter s₁ hs₁, Option.some.injEq] at h₂
    exact ⟨hrefs, h₂.symm⟩
  · rintro ⟨hrefs, rfl⟩
    exact ⟨_, (foldlM_deleteDataRange _ _ _).mpr ⟨hrefs, rfl⟩, hafter _ rfl⟩

/-! ## What clearing a context should do -/

def MetadataDoc.sourceType (d : Doc) : Option EPersistenceSourceType :=
  convertPersistenceTypeFromStr (iterUtf8 (d.get? PersistenceSetMetadata.sourceType))

def DescriptionDoc.persistenceId (d : Doc) : TPersistenceSetId :=
  iterInt64 (d.get? PersistenceSetDescription.persistenceId)

/-- The persistence set belongs to the context. -/
def InContext (s : DatabaseManagerBase) (c : TContextId) (p : TPersistenceSetId) : Prop :=
  ∃ d ∈ s.db.persistenceMetadata, MetadataDoc.contextId d = c ∧ MetadataDoc.persistenceId d = p

/-- It does and is a set of the autonomous recorder. -/
def RecorderIn (s : DatabaseManagerBase) (c : TContextId) (p : TPersistenceSetId) : Prop :=
  ∃ d ∈ s.db.persistenceMetadata, MetadataDoc.contextId d = c ∧ MetadataDoc.persistenceId d = p ∧
    MetadataDoc.sourceType d = some .autonomousRecorder

/-- A table of a set of the context: by the name in its document, or by its reference. -/
def TableIn (s : DatabaseManagerBase) (c : TContextId) (t : String) : Prop :=
  ∃ d ∈ s.db.persistenceMetadata, MetadataDoc.contextId d = c ∧
    (MetadataDoc.payloadTableName d = t ∨
      s.tablesByPersistenceId (MetadataDoc.persistenceId d) = some t)

/-- Nothing of the context is left and nothing of other contexts is gone. Sets and tables are those
of the state `s` before. -/
structure ContextCleared (s s' : DatabaseManagerBase) (c : TContextId) : Prop where
  payload : ∀ t, TableIn s c t → s'.db.payload t = []
  descriptions : ∀ d ∈ s'.db.persistenceDescription,
    ¬ InContext s c (DescriptionDoc.persistenceId d)
  video : ∀ d ∈ s'.db.persistenceFromVideo, ¬ InContext s c (MetadataDoc.persistenceId d)
  dss : ∀ d ∈ s'.db.persistenceFromDSS, ¬ InContext s c (MetadataDoc.persistenceId d)
  metadata : ∀ d ∈ s'.db.persistenceMetadata, MetadataDoc.contextId d ≠ c
  otherPayload : ∀ t, (¬ TableIn s c t ∨ ∃ c', c' ≠ c ∧ TableIn s c' t) →
    s'.db.payload t = s.db.payload t
  otherDescriptions : ∀ p, ¬ InContext s c p →
    Collection.find (fun d => DescriptionDoc.persistenceId d == p) s'.db.persistenceDescription =
      Collection.find (fun d => DescriptionDoc.persistenceId d == p) s.db.persistenceDescription
  otherVideo : ∀ p, ¬ InContext s c p →
    Collection.find (fun d => MetadataDoc.persistenceId d == p) s'.db.persistenceFromVideo =
      Collection.find (fun d => MetadataDoc.persistenceId d == p) s.db.persistenceFromVideo
  otherDss : ∀ p, ¬ InContext s c p →
    Collection.find (fun d => MetadataDoc.persistenceId d == p) s'.db.persistenceFromDSS =
      Collection.find (fun d => MetadataDoc.persistenceId d == p) s.db.persistenceFromDSS
  otherMetadata : ∀ c', c' ≠ c →
    Collection.find (fun d => MetadataDoc.contextId d == c') s'.db.persistenceMetadata =
      Collection.find (fun d => MetadataDoc.contextId d == c') s.db.persistenceMetadata

/-- Only recorder sets of the context have data, each of them has a reference, and the tables they
refer to are no tables of other contexts. -/
structure Clearable (s : DatabaseManagerBase) (c : TContextId) : Prop where
  referenced : ∀ p, RecorderIn s c p → (s.tablesByPersistenceId p).isSome
  payload : ∀ t, TableIn s c t → s.db.payload t ≠ [] →
    ∃ p, RecorderIn s c p ∧ s.tablesByPersistenceId p = some t
  unshared : ∀ p t, RecorderIn s c p → s.tablesByPersistenceId p = some t → s.db.payload t ≠ [] →
    ∀ c', c' ≠ c → ¬ TableIn s c' t
  descriptions : ∀ d ∈ s.db.persistenceDescription,
    InContext s c (DescriptionDoc.persistenceId d) → RecorderIn s c (DescriptionDoc.persistenceId d)
  video : ∀ d ∈ s.db.persistenceFromVideo, ¬ InContext s c (MetadataDoc.persistenceId d)
  dss : ∀ d ∈ s.db.persistenceFromDSS, ¬ InContext s c (MetadataDoc.persistenceId d)

section Rows

variable {p : TPersistenceSetId} {t : String}

theorem recorderIn_rows (hdocs : s.db.persistenceMetadata = rows.map MetadataRow.toDoc) :
    RecorderIn s c p ↔ p ∈ recorderIds rows c := by
  have hsource : ∀ r : MetadataRow, MetadataDoc.sourceType r.toDoc = some r.descr.sourceType :=
    sourceType_toDoc
  rw [RecorderIn, hdocs, recorderIds, List.mem_map]
  constructor
  · rintro ⟨d, hd, hctx, hid, hsrc⟩
    obtain ⟨r, hr, rfl⟩ := List.mem_map.mp hd
    rw [contextId_toDoc] at hctx
    rw [hsource, Option.some.injEq] at hsrc
    refine ⟨r, List.mem_filter.mpr ⟨List.mem_filter.mpr ⟨hr, ?_⟩, decide_eq_true hsrc⟩, hid⟩
    exact beq_iff_eq.mpr hctx
  · rintro ⟨r, hr, hid⟩
    obtain ⟨hr, hsrc⟩ := List.mem_filter.mp hr
    obtain ⟨hr, hctx⟩ := List.mem_filter.mp hr
    refine ⟨r.toDoc, List.mem_map_of_mem hr, ?_, hid, ?_⟩
    · rw [contextId_toDoc]
      exact eq_of_beq hctx
    · rw [hsource, of_decide_eq_true hsrc]

theorem RecorderIn.inContext (h : RecorderIn s c p) : InContext s c p := by
  obtain ⟨d, hd, hctx, hid, _⟩ := h
  exact ⟨d, hd, hctx, hid⟩

theorem RecorderIn.tableIn (h : RecorderIn s c p) (ht : s.tablesByPersistenceId p = some t) :
    TableIn s c t := by
  obtain ⟨d, hd, hctx, rfl, _⟩ := h
  exact ⟨d, hd, hctx, Or.inr ht⟩

/-- Stored ids are positive, so the reference of a set is what the map says. -/
theorem getPayloadTableRef_recorder (hid : p ∈ recorderIds rows c) :
    s.getPayloadTableRef p = s.tablesByPersistenceId p := by
  obtain ⟨r, _, rfl⟩ := List.mem_map.mp hid
  exact if_pos r.persId_pos

/-- Clearing empties the tables that recorder sets refer to and leaves the others. -/
theorem clearTables_rows (hdocs : s.db.persistenceMetadata = rows.map MetadataRow.toDoc)
    (t : String) :
    (∃ p, RecorderIn s c p ∧ s.tablesByPersistenceId p = some t) ∧
        clearTables s (recorderIds rows c) t = [] ∨
      (¬ ∃ p, RecorderIn s c p ∧ s.tablesByPersistenceId p = some t) ∧
        clearTables s (recorderIds rows c) t = s.db.payload t := by
  have hiff : (∃ p ∈ recorderIds rows c, s.getPayloadTableRef p = some t) ↔
      ∃ p, RecorderIn s c p ∧ s.tablesByPersistenceId p = some t := by
    refine exists_congr fun p => ?_
    rw [recorderIn_rows hdocs]
    exact and_congr_right fun hp => by rw [getPayloadTableRef_recorder hp]
  by_cases h : ∃ p, RecorderIn s c p ∧ s.tablesByPersistenceId p = some t
  · exact Or.inl ⟨h, if_pos (hiff.mpr h)⟩
  · exact Or.inr ⟨h, if_neg (fun hc => h (hiff.mp hc))⟩

/-! ### From the condition to the result and back -/

theorem clearable_of_cleared (h : Stored s) (hc : c ≠ allContextId)
    (hs : s.clearContext c = some s') (hcleared : ContextCleared s s' c) : Clearable s c := by
  obtain ⟨rows, hdocs, _⟩ := h.metadata
  obtain ⟨descriptions, hdescr⟩ := h.descriptions
  obtain ⟨hrefs, rfl⟩ := (clearContext_rows hdocs hdescr hc).mp hs
  constructor
  · intro p hp
    have hp' := (recorderIn_rows hdocs).mp hp
    rw [← getPayloadTableRef_recorder hp']
    exact hrefs p hp'
  · intro t ht hne
    rcases clearTables_rows (c := c) hdocs t with ⟨hex, _⟩ | ⟨_, hsame⟩
    · exact hex
    · exact absurd (hsame.symm.trans (hcleared.payload t ht)) hne
  · intro p t hp ht hne c' hc' htable
    rcases clearTables_rows (c := c) hdocs t with ⟨_, hnil⟩ | ⟨hno, _⟩
    · have hsame := hcleared.otherPayload t (Or.inr ⟨c', hc', htable⟩)
      exact hne (hsame.symm.trans hnil)
    · exact hno ⟨p, hp, ht⟩
  · intro d hd hin
    rw [hdescr] at hd
    obtain ⟨r, hr, rfl⟩ := List.mem_map.mp hd
    by_contra hno
    rw [recorderIn_rows hdocs] at hno
    -- a description of a set that the deletion does not see is still there
    refine hcleared.descriptions r.toDoc (List.mem_map_of_mem ?_) hin
    exact Collection.mem_remove.mpr ⟨hr, decide_eq_false hno⟩
  · exact hcleared.video
  · exact hcleared.dss

theorem cleared_of_clearable (h : Stored s) (hc : c ≠ allContextId) (hclear : Clearable s c) :
    ∃ s', s.clearContext c = some s' ∧ ContextCleared s s' c := by
  obtain ⟨rows, hdocs, _⟩ := h.metadata
  obtain ⟨descriptions, hdescr⟩ := h.descriptions
  have hrefs : ∀ id ∈ recorderIds rows c, (s.getPayloadTableRef id).isSome := by
    intro id hid
    rw [getPayloadTableRef_recorder hid]
    exact hclear.referenced id ((recorderIn_rows hdocs).mpr hid)
  refine ⟨_, (clearContext_rows hdocs hdescr hc).mpr ⟨hrefs, rfl⟩, ?_⟩
  constructor
  · intro t ht
    rcases clearTables_rows (c := c) hdocs t with ⟨_, hnil⟩ | ⟨hno, hsame⟩
    · exact hnil
    · by_contra hne
      exact hno (hclear.payload t ht fun hnil => hne (hsame.trans hnil))
  · intro d hd hin
    obtain ⟨r, hr, rfl⟩ := List.mem_map.mp hd
    obtain ⟨hr, hno⟩ := Collection.mem_remove.mp hr
    have hrec := hclear.descriptions r.toDoc (by rw [hdescr]; exact List.mem_map_of_mem hr) hin
    exact of_decide_eq_false hno ((recorderIn_rows hdocs).mp hrec)
  · exact hclear.video
  · exact hclear.dss
  · intro d hd
    obtain ⟨r, hr, rfl⟩ := List.mem_map.mp hd
    rw [contextId_toDoc]
    exact beq_eq_false_iff_ne.mp (Collection.mem_remove.mp hr).2
  · intro t hother
    rcases clearTables_rows (c := c) hdocs t with ⟨⟨p, hp, ht⟩, hnil⟩ | ⟨_, hsame⟩
    · rcases hother with hno | ⟨c', hc', htable⟩
      · exact absurd (hp.tableIn ht) hno
      · by_contra hne
        exact hclear.unshared p t hp ht (fun he => hne (hnil.trans he.symm)) c' hc' htable
    · exact hsame
  · intro p hp
    rw [hdescr]
    refine Collection.find_map_remove (fun r hr => ?_) descriptions
    refine decide_eq_false fun hmem => hp ?_
    rw [← eq_of_beq hr]
    exact ((recorderIn_rows hdocs).mpr hmem).inContext
  · exact fun _ _ => rfl
  · exact fun _ _ => rfl
  · intro c' hc'
    rw [hdocs]
    refine Collection.find_map_remove (fun r hr => ?_) rows
    rw [contextId_toDoc] at hr
    rw [eq_of_beq hr]
    exact beq_eq_false_iff_ne.mpr hc'

/-! ## Deleting one set -/

/-- A loop over rows that appends raw records. -/
theorem foldlM_appendRaw {f : SPersistenceMetadata → Doc → Option SPersistenceMetadata}
    {raws : MetadataRow → List SPersistenceMetadataRaw}
    (hf : ∀ out r, f out r.toDoc =
      some { out with persistenceFromRaw := out.persistenceFromRaw ++ raws r }) :
    ∀ (rows : List MetadataRow) (out : SPersistenceMetadata),
      (rows.map MetadataRow.toDoc).foldlM f out =
        some { out with persistenceFromRaw := out.persistenceFromRaw ++ rows.flatMap raws }
  | [], out => by
    rw [List.flatMap_nil, List.append_nil]
    rfl
  | r :: rows, out => by
    rw [List.map_cons, List.foldlM_cons, hf, Option.bind_eq_bind, Option.bind_some,
      foldlM_appendRaw hf rows, List.flatMap_cons, List.append_assoc]

/-- The query by id compares the low 32 bits of the id with the whole stored id. -/
theorem query_truncated_toDoc (r : MetadataRow) (id : TPersistenceSetId) :
    Query.eq PersistenceSetMetadata.persistenceId (.int32 id.toInt32) r.toDoc =
      (r.persId.toInt == id.toInt32.toInt) := rfl

/-- The raw record that the reader by id makes of a row. -/
def MetadataRow.toRawById (uninit : EPersistenceDataType) (r : MetadataRow) :
    SPersistenceMetadataRaw :=
  readRawMetadata r.toDoc (iterInt64 (r.toDoc.get? PersistenceSetMetadata.lastSessionId)).toInt32
    r.descr.sourceType uninit

theorem getPersistenceSetMetadataById_eq (uninit : EPersistenceDataType)
    (rows : List MetadataRow) (id : TPersistenceSetId) :
    getPersistenceSetMetadataById uninit (rows.map MetadataRow.toDoc) id =
      some { persistenceFromRaw :=
        (rows.filter fun r => r.persId.toInt == id.toInt32.toInt).flatMap fun r =>
          if r.isRecorder then [r.toRawById uninit] else [] } := by
  rw [getPersistenceSetMetadataById, Collection.find_map (fun r => query_truncated_toDoc r id)]
  refine (foldlM_appendRaw (fun out r => ?_) _ {}).trans rfl
  simp only [sourceType_toDoc, Option.bind_eq_bind, Option.bind_some]
  split
  · next hsource =>
    have hrec : r.isRecorder = true := decide_eq_true hsource
    rw [if_pos hrec, MetadataRow.toRawById, hsource]
    rfl
  all_goals
    next hsource =>
    have hrec : ¬ r.isRecorder = true := by
      rw [MetadataRow.isRecorder, hsource]
      decide
    rw [if_neg hrec, List.append_nil]
    rfl

/-- **What the reader by id returns**: the recorder rows that its query finds. -/
theorem getPersistenceSetMetadataById_rows (uninit : EPersistenceDataType)
    (rows : List MetadataRow) (id : TPersistenceSetId) :
    ∃ raws, getPersistenceSetMetadataById uninit (rows.map MetadataRow.toDoc) id =
        some { persistenceFromRaw := raws } ∧
      (raws ≠ [] ↔ ∃ r ∈ rows, r.persId.toInt = id.toInt32.toInt ∧ r.isRecorder = true) := by
  refine ⟨_, getPersistenceSetMetadataById_eq uninit rows id, ?_⟩
  rw [ne_eq, List.flatMap_eq_nil_iff]
  constructor
  · intro hne
    by_contra hno
    refine hne fun r hr => if_neg fun hrec => hno ?_
    obtain ⟨hr, hid⟩ := List.mem_filter.mp hr
    exact ⟨r, hr, eq_of_beq hid, hrec⟩
  · rintro ⟨r, hr, hid, hrec⟩ hall
    have hnil := hall r (List.mem_filter.mpr ⟨hr, beq_iff_eq.mpr hid⟩)
    rw [if_pos hrec] at hnil
    cases hnil

theorem deleteById_rows {id : TPersistenceSetId} {db db' : Database}
    (hdocs : db.persistenceMetadata = rows.map MetadataRow.toDoc) :
    deletePersistenceSetMetadataById true db id = some db' ↔
      (∃ r ∈ rows, r.persId.toInt = id.toInt32.toInt ∧ r.isRecorder = true) ∧
        db' = { db with
          persistenceMetadata := (Collection.remove (fun r => r.persId == id) rows).map
            MetadataRow.toDoc } := by
  obtain ⟨raws, hget, hraws⟩ := getPersistenceSetMetadataById_rows .undefined rows id
  constructor
  · intro h
    refine ⟨hraws.mp ?_, deleteById_eq hdocs h⟩
    rintro rfl
    rw [deletePersistenceSetMetadataById, hdocs, hget] at h
    cases h
  · rintro ⟨hrec, rfl⟩
    have hne := hraws.mpr hrec
    have hsome : ∃ db', deletePersistenceSetMetadataById true db id = some db' := by
      rw [deletePersistenceSetMetadataById, hdocs, hget]
      cases raws with
      | nil => exact absurd rfl hne
      | cons raw raws => exact ⟨_, rfl⟩
    obtain ⟨db', hdb'⟩ := hsome
    rw [hdb', deleteById_eq hdocs hdb', if_pos rfl]

/-- The metadata of the set is gone, in all collections, and nothing else is. -/
structure SetDeleted (db db' : Database) (id : TPersistenceSetId) : Prop where
  metadata : ∀ d ∈ db'.persistenceMetadata, MetadataDoc.persistenceId d ≠ id
  video : ∀ d ∈ db'.persistenceFromVideo, MetadataDoc.persistenceId d ≠ id
  dss : ∀ d ∈ db'.persistenceFromDSS, MetadataDoc.persistenceId d ≠ id
  otherMetadata : ∀ p, p ≠ id →
    Collection.find (fun d => MetadataDoc.persistenceId d == p) db'.persistenceMetadata =
      Collection.find (fun d => MetadataDoc.persistenceId d == p) db.persistenceMetadata
  otherVideo : ∀ p, p ≠ id →
    Collection.find (fun d => MetadataDoc.persistenceId d == p) db'.persistenceFromVideo =
      Collection.find (fun d => MetadataDoc.persistenceId d == p) db.persistenceFromVideo
  otherDss : ∀ p, p ≠ id →
    Collection.find (fun d => MetadataDoc.persistenceId d == p) db'.persistenceFromDSS =
      Collection.find (fun d => MetadataDoc.persistenceId d == p) db.persistenceFromDSS
  payload : db'.payload = db.payload
  descriptions : db'.persistenceDescription = db.persistenceDescription

/-- The low 32 bits of the id are the id of a recorder set, and the set has no specific record. -/
structure Deletable (db : Database) (id : TPersistenceSetId) : Prop where
  found : ∃ d ∈ db.persistenceMetadata, (MetadataDoc.persistenceId d).toInt = id.toInt32.toInt ∧
    MetadataDoc.sourceType d = some .autonomousRecorder
  video : ∀ d ∈ db.persistenceFromVideo, MetadataDoc.persistenceId d ≠ id
  dss : ∀ d ∈ db.persistenceFromDSS, MetadataDoc.persistenceId d ≠ id

/-- **When a set is deleted**: the reader finds it, and it has no specific record. -/
theorem setDeleted_iff {db : Database} {id : TPersistenceSetId}
    (hdocs : db.persistenceMetadata = rows.map MetadataRow.toDoc) :
    (∃ db', deletePersistenceSetMetadataById true db id = some db' ∧ SetDeleted db db' id) ↔
      Deletable db id := by
  have hsource : ∀ r : MetadataRow, MetadataDoc.sourceType r.toDoc = some r.descr.sourceType :=
    sourceType_toDoc
  constructor
  · rintro ⟨db', hdel, hdeleted⟩
    obtain ⟨⟨r, hr, hid, hrec⟩, rfl⟩ := (deleteById_rows hdocs).mp hdel
    refine ⟨⟨r.toDoc, by rw [hdocs]; exact List.mem_map_of_mem hr, hid, ?_⟩, hdeleted.video,
      hdeleted.dss⟩
    rw [hsource, of_decide_eq_true hrec]
  · rintro ⟨⟨d, hd, hid, hsrc⟩, hvideo, hdss⟩
    rw [hdocs] at hd
    obtain ⟨r, hr, rfl⟩ := List.mem_map.mp hd
    rw [hsource, Option.some.injEq] at hsrc
    refine ⟨_, (deleteById_rows hdocs).mpr ⟨⟨r, hr, hid, decide_eq_true hsrc⟩, rfl⟩, ?_, hvideo,
      hdss, ?_, fun _ _ => rfl, fun _ _ => rfl, rfl, rfl⟩
    · intro d hd
      obtain ⟨q, hq, rfl⟩ := List.mem_map.mp hd
      exact beq_eq_false_iff_ne.mp (Collection.mem_remove.mp hq).2
    · intro p hp
      rw [hdocs]
      refine Collection.find_map_remove (fun q hq => ?_) rows
      rw [persistenceId_toDoc] at hq
      rw [eq_of_beq hq]
      exact beq_eq_false_iff_ne.mpr hp

end Rows

/-! ## Every state of a run -/

/-- **Clearing a context is complete and local exactly when the context is `Clearable`, and the
deletion of a set exactly when the set is `Deletable`.** -/
theorem contextClearing_iff (databaseName : String) (ops : List StorageOp) :
    AlwaysState storageStep (fun s =>
      (∀ c, c ≠ allContextId →
        ((∃ s', s.clearContext c = some s' ∧ ContextCleared s s' c) ↔ Clearable s c)) ∧
      ∀ id, (∃ db', deletePersistenceSetMetadataById true s.db id = some db' ∧
        SetDeleted s.db db' id) ↔ Deletable s.db id) (inited databaseName) ops := by
  refine (stored_of_run databaseName ops).mono fun s h => ⟨fun c hc => ⟨?_, ?_⟩, fun id => ?_⟩
  · rintro ⟨s', hs, hcleared⟩
    exact clearable_of_cleared h hc hs hcleared
  · exact cleared_of_clearable h hc
  · obtain ⟨rows, hdocs, _⟩ := h.metadata
    exact setDeleted_iff hdocs

/-- A video record of sensor 5 in the context 1. -/
def videoRecord (persistenceSetId : TPersistenceSetId) : MetadataRecord :=
  .video
    { persistenceSetId := persistenceSetId, contextId := 1, missionId := 1
      timeStepIntervalMillisec := 1000, lastRecordedSession := 1
      sourceType := .videoServer, dataType := .trajectory, recordedFromSensorId := 5 }

/-- A video set with one record. Clearing its context keeps the record, and deleting the set fails
its assertion. -/
theorem contextClearing_leaves_video :
    ∃ s, runAll storageStep (inited "video")
        [.writeMetadata {} (videoRecord (-1)), .writeTrajectory true 1 [trajectoryAt 1]] = some s ∧
      (¬ ∃ s', s.clearContext 1 = some s' ∧ ContextCleared s s' 1) ∧
      (∃ d ∈ s.db.persistenceMetadata, MetadataDoc.persistenceId d = 1) ∧
      deletePersistenceSetMetadataById true s.db 1 = none := by
  have hlast : (runAll storageStep (inited "video")
      [.writeMetadata {} (videoRecord (-1)), .writeTrajectory true 1 [trajectoryAt 1]]).map
        (fun s => (s.db.persistenceMetadata.any fun d =>
            MetadataDoc.persistenceId d == 1 && MetadataDoc.contextId d == 1,
          s.tablesByPersistenceId 1,
          (s.clearContext 1).map fun s' => (s'.db.payload "video_video_traj_sensor5").length,
          (deletePersistenceSetMetadataById true s.db 1).isNone)) =
      some (true, some "video_video_traj_sensor5", some 1, true) := by
    decide
  obtain ⟨s, hs, hvalues⟩ := Option.map_eq_some_iff.mp hlast
  simp only [Prod.mk.injEq, List.any_eq_true, Bool.and_eq_true, beq_iff_eq] at hvalues
  obtain ⟨⟨d, hd, hid, hctx⟩, href, hlength, hnone⟩ := hvalues
  refine ⟨s, hs, ?_, ⟨d, hd, hid⟩, Option.isNone_iff_eq_none.mp hnone⟩
  rintro ⟨s', hs', hcleared⟩
  have hnil := hcleared.payload "video_video_traj_sensor5"
    ⟨d, hd, hctx, Or.inr (by rw [hid]; exact href)⟩
  rw [hs', Option.map_some, hnil] at hlength
  cases hlength

end MicroserviceCommon
