import Mathlib.Data.List.Perm.Basic
import MicroserviceCommon.Infra.KeyRuns
import MicroserviceCommon.Properties.MetadataReaders

/-!
# Metadata by context

`getPersistenceSetMetadata` makes the entries of all contexts in one pass. It opens an entry
whenever the context differs from that of the record before, so a context has one entry only
because the cursor is sorted by the stored `int32`, and no context is 0.

* `readCursor_rows` — whatever the order, the entries are the runs of equal contexts
* `metadata_grouped_by_context` — in the order of the query they are the contexts
-/

namespace MicroserviceCommon

open Infra
open MongoFields

/-! ## The loop over the cursor -/

/-- The loop that both queries of `getPersistenceSetMetadata( TContextId )` end in. -/
def readCursor (cursor : List Doc) : Option (List SPersistenceMetadata) :=
  (cursor.foldlM ContextGrouping.step {}).map (·.out)

/-- The entry that the loop makes of the records of one context. -/
def rawEntry (rows : List MetadataRow) : SPersistenceMetadata where
  persistenceFromRaw := rows.map MetadataRow.toRaw

namespace ContextGrouping

variable {c : TContextId} {g : ContextGrouping} {rows : List MetadataRow}

/-- `currentStoreIdx` is the last index of `out`. -/
def AtLast (g : ContextGrouping) : Prop := g.currentStoreIdx = (g.out.length : Int) - 1

/-- The loop after some records of `c`, which follow the finished entries. -/
def within (out : List SPersistenceMetadata) (c : TContextId) (rows : List MetadataRow) :
    ContextGrouping where
  out := out ++ [rawEntry rows]
  currentCtxId := c
  currentStoreIdx := out.length

theorem atLast_within (out : List SPersistenceMetadata) (c : TContextId)
    (rows : List MetadataRow) : (within out c rows).AtLast := by
  simp [AtLast, within]

theorem step_recorder {r : MetadataRow} (hr : r.isRecorder = true) (g : ContextGrouping) :
    step g r.toDoc = (g.enter r.descr.contextId).addRaw r.toRaw := by
  have hctx : (iterInt32 (r.toDoc.get? PersistenceSetMetadata.ctxId)).toUInt32 =
      r.descr.contextId := contextId_toDoc r
  have hsource : r.descr.sourceType = .autonomousRecorder := of_decide_eq_true hr
  simp only [step, sourceType_toDoc, dataType_toDoc, hctx, Option.bind_eq_bind, Option.bind_some,
    hsource, MetadataRow.toRaw]

theorem enter_within (out : List SPersistenceMetadata) :
    (within out c rows).enter c = within out c rows :=
  if_neg fun h => h rfl

theorem enter_new (hg : g.AtLast) (hc : c ≠ g.currentCtxId) :
    g.enter c = within g.out c [] := by
  rw [enter, if_pos hc, within, show g.currentStoreIdx = (g.out.length : Int) - 1 from hg,
    Int.sub_add_cancel]
  rfl

/-- The index is never out of range here. -/
theorem addRaw_within (out : List SPersistenceMetadata) (r : MetadataRow) :
    (within out c rows).addRaw r.toRaw = some (within out c (rows ++ [r])) := by
  have hrange : (0 : Int) ≤ out.length ∧ (out.length : Int) < (out ++ [rawEntry rows]).length := by
    rw [List.length_append, List.length_singleton]
    omega
  rw [addRaw, within, if_pos hrange, within, Int.toNat_natCast, List.modify_eq_set_getElem?]
  simp [rawEntry]

/-- Once its entry is open, the records of a context are appended to it. -/
theorem foldlM_within (out : List SPersistenceMetadata) :
    ∀ (rows done : List MetadataRow), (∀ r ∈ rows, r.isRecorder = true ∧ r.descr.contextId = c) →
      (rows.map MetadataRow.toDoc).foldlM step (within out c done) =
        some (within out c (done ++ rows))
  | [], done, _ => by
    rw [List.append_nil]
    rfl
  | r :: rows, done, h => by
    obtain ⟨hr, hctx⟩ := h r List.mem_cons_self
    rw [List.map_cons, List.foldlM_cons, step_recorder hr, hctx, enter_within, addRaw_within,
      Option.bind_eq_bind, Option.bind_some,
      foldlM_within out rows _ fun q hq => h q (List.mem_cons_of_mem _ hq), List.append_assoc]
    rfl

/-- A run of one context makes one entry. -/
theorem foldlM_run (hg : g.AtLast) (hc : c ≠ g.currentCtxId) (hne : rows ≠ [])
    (h : ∀ r ∈ rows, r.isRecorder = true ∧ r.descr.contextId = c) :
    (rows.map MetadataRow.toDoc).foldlM step g = some (within g.out c rows) := by
  obtain ⟨r, rows, rfl⟩ := List.exists_cons_of_ne_nil hne
  obtain ⟨hr, hctx⟩ := h r List.mem_cons_self
  have hfirst : step g r.toDoc = step (within g.out c []) r.toDoc := by
    rw [step_recorder hr, step_recorder hr, hctx, enter_new hg hc, enter_within]
  rw [List.map_cons, List.foldlM_cons, hfirst, ← List.foldlM_cons, ← List.map_cons,
    foldlM_within g.out _ _ h, List.nil_append]

/-- By induction on the runs, each of which starts with another context than the one before. -/
theorem foldlM_runs : ∀ {runs : List (List MetadataRow)} {g : ContextGrouping}, g.AtLast →
    (∀ rows ∈ runs, rows ≠ []) → (∀ rows ∈ runs, ∀ r ∈ rows, r.isRecorder = true) →
    (∀ rows ∈ runs, ∀ r ∈ rows, ∀ q ∈ rows, r.descr.contextId = q.descr.contextId) →
    (runs.IsChain fun rows rows' =>
      ∀ r ∈ rows, ∀ q ∈ rows', r.descr.contextId ≠ q.descr.contextId) →
    (∀ rows ∈ runs.head?, ∀ r ∈ rows, r.descr.contextId ≠ g.currentCtxId) →
    ∃ g', (runs.flatten.map MetadataRow.toDoc).foldlM step g = some g' ∧
      g'.out = g.out ++ runs.map rawEntry
  | [], g, _, _, _, _, _, _ => ⟨g, rfl, (List.append_nil g.out).symm⟩
  | rows :: runs, g, hg, hne, hrec, hctx, hchain, hfirst => by
    obtain ⟨r, hr⟩ := List.exists_mem_of_ne_nil rows (hne rows List.mem_cons_self)
    obtain ⟨hnext, hchain⟩ := List.isChain_cons.mp hchain
    have hrun := foldlM_run hg (hfirst rows rfl r hr) (hne rows List.mem_cons_self) fun q hq =>
      ⟨hrec rows List.mem_cons_self q hq, hctx rows List.mem_cons_self q hq r hr⟩
    obtain ⟨g', hg', hout⟩ := foldlM_runs (atLast_within g.out r.descr.contextId rows)
      (fun rows' h => hne rows' (List.mem_cons_of_mem _ h))
      (fun rows' h => hrec rows' (List.mem_cons_of_mem _ h))
      (fun rows' h => hctx rows' (List.mem_cons_of_mem _ h)) hchain
      fun rows' h q hq => (hnext rows' h r hr q hq).symm
    refine ⟨g', ?_, ?_⟩
    · rw [List.flatten_cons, List.map_append, List.foldlM_append, hrun, Option.bind_eq_bind,
        Option.bind_some, hg']
    · rw [hout, within, List.append_assoc]
      rfl

end ContextGrouping

/-- **Whatever the order of the cursor, the entries are the runs of equal contexts.** -/
theorem readCursor_rows {rows : List MetadataRow} (hrec : ∀ r ∈ rows, r.isRecorder = true) :
    readCursor (rows.map MetadataRow.toDoc) =
      some ((runs (fun r : MetadataRow => r.descr.contextId) rows).map rawEntry) := by
  have hmem : ∀ part ∈ runs (fun r : MetadataRow => r.descr.contextId) rows,
      ∀ r ∈ part, r ∈ rows := by
    intro part hpart r hr
    rw [← flatten_runs (fun r : MetadataRow => r.descr.contextId) rows]
    exact List.mem_flatten_of_mem hpart hr
  obtain ⟨g, hg, hout⟩ := ContextGrouping.foldlM_runs (g := {}) rfl
    (fun _ => ne_nil_of_mem_runs) (fun part hpart r hr => hrec r (hmem part hpart r hr))
    (fun part hpart r hr q hq => key_eq_of_mem_runs hpart hr hq) (isChain_runs _ rows)
    fun part hpart r _ => r.contextId_ne_zero
  rw [flatten_runs] at hg
  rw [readCursor, hg, Option.map_some, hout]
  rfl

/-! ## The collection and its history -/

/-- A call of `writePersistenceMetadataGlobal` for a set of the autonomous recorder. -/
structure GlobalWrite where
  rt : Bool
  persId : TPersistenceSetId
  payloadTableName : String
  descr : SPersistenceMetadataDescr
  isRecorder : descr.sourceType = .autonomousRecorder

/-- A database with what was last written for each id. -/
structure MetadataTable where
  db : Database := {}
  lastWritten : TPersistenceSetId → Option SPersistenceMetadataDescr := fun _ => none

namespace MetadataTable

/-- The description under the id of the document. -/
def lastDescr (p : TPersistenceSetId) (descr : SPersistenceMetadataDescr) :
    SPersistenceMetadataDescr :=
  { descr with persistenceSetId := p }

/-- A failed upsert writes nothing. -/
def next (s : MetadataTable) (w : GlobalWrite) (db : Database) : MetadataTable where
  db := db
  lastWritten :=
    if w.rt then Function.update s.lastWritten w.persId (some (lastDescr w.persId w.descr))
    else s.lastWritten

/-- `none` is a failed assertion. -/
def step (s : MetadataTable) (w : GlobalWrite) : Option MetadataTable :=
  (writePersistenceMetadataGlobal w.rt s.db w.persId w.payloadTableName w.descr).map (s.next w)

/-- The contexts that have a set. -/
def HasContext (s : MetadataTable) (c : TContextId) : Prop :=
  ∃ p d, s.lastWritten p = some d ∧ d.contextId = c

/-- The raw records are the last written ones of the sets of `c`, each once. -/
structure EntryOf (s : MetadataTable) (c : TContextId) (m : SPersistenceMetadata) : Prop where
  ids : (m.persistenceFromRaw.map (·.persistenceSetId)).Nodup
  records : ∀ d, d ∈ m.persistenceFromRaw.map (·.toSPersistenceMetadataDescr) ↔
    s.lastWritten d.persistenceSetId = some d ∧ d.contextId = c
  video : m.persistenceFromVideo = []
  dss : m.persistenceFromDSS = []

/-- One entry for each context. -/
structure Grouped (s : MetadataTable) (out : List SPersistenceMetadata) : Prop where
  entries : ∃ contexts : List TContextId, contexts.Nodup ∧
    (∀ c, c ∈ contexts ↔ s.HasContext c) ∧ List.Forall₂ s.EntryOf contexts out
  ids : (out.flatMap fun m => m.persistenceFromRaw.map (·.persistenceSetId)).Nodup
  complete : ∀ p, p ∈ out.flatMap (fun m => m.persistenceFromRaw.map (·.persistenceSetId)) ↔
    (s.lastWritten p).isSome

/-- The entry of `c` and no other, or nothing where `out` has no entry of `c`. -/
def OnlyEntryOf (s : MetadataTable) (c : TContextId) (out read : List SPersistenceMetadata) :
    Prop :=
  (read = [] ∧ ¬ s.HasContext c) ∨
    ∃ m ∈ out, s.EntryOf c m ∧ ∃ raws, raws.Perm m.persistenceFromRaw ∧
      read = [{ m with persistenceFromRaw := raws }]

/-- What the reads of all contexts and of single ones return. -/
def ReadsGrouped (s : MetadataTable) (all : Option (List SPersistenceMetadata))
    (one : TContextId → Option (List SPersistenceMetadata)) : Prop :=
  ∃ out, all = some out ∧ s.Grouped out ∧
    ∀ c, c ≠ allContextId → ∃ read, one c = some read ∧ s.OnlyEntryOf c out read

/-- A cursor as `$orderby` promises it: all documents, by the stored `int32`. -/
structure OrderedCursor (docs cursor : List Doc) : Prop where
  perm : cursor.Perm docs
  sorted : cursor.Pairwise fun a b =>
    iterInt32 (b.get? PersistenceSetMetadata.ctxId) ≤
      iterInt32 (a.get? PersistenceSetMetadata.ctxId)

/-- A cursor over the documents of one context, in any order. -/
def ContextCursor (docs : List Doc) (c : TContextId) (cursor : List Doc) : Prop :=
  cursor.Perm (Collection.find (Query.eq PersistenceSetMetadata.ctxId (.int32 c.toInt32)) docs)

/-! ## The invariant -/

/-- The rows are the last writes. -/
structure Rows (s : MetadataTable) (rows : List MetadataRow) : Prop where
  docs : s.db.persistenceMetadata = rows.map MetadataRow.toDoc
  ids : (rows.map MetadataRow.persId).Nodup
  last : Collection.Represents MetadataRow.persId (fun r => lastDescr r.persId r.descr) rows
    s.lastWritten
  recorder : ∀ r ∈ rows, r.isRecorder = true

variable {s s' : MetadataTable} {rows : List MetadataRow} {w : GlobalWrite}

theorem rows_empty : Rows {} [] where
  docs := rfl
  ids := List.nodup_nil
  last := Collection.represents_nil _ _
  recorder := fun _ hr => absurd hr List.not_mem_nil

theorem Rows.step (h : Rows s rows) (hs : s.step w = some s') : ∃ rows', Rows s' rows' := by
  obtain ⟨db, hwrite, rfl⟩ := Option.map_eq_some_iff.mp hs
  obtain ⟨_, r, hid, _, hdescr, hdb⟩ := writePersistenceMetadataGlobal_rows h.docs hwrite
  have hdocs : (s.next w db).db.persistenceMetadata =
      (if w.rt then Collection.put MetadataRow.persId r rows else rows).map MetadataRow.toDoc := by
    rw [show (s.next w db).db = db from rfl, hdb]
  cases hrt : w.rt with
  | false =>
    have hlast : (s.next w db).lastWritten = s.lastWritten := by
      rw [next, hrt]
      rfl
    rw [hrt] at hdocs
    exact ⟨rows, hdocs, h.ids, by rw [hlast]; exact h.last, h.recorder⟩
  | true =>
    have hlast : (s.next w db).lastWritten =
        Function.update s.lastWritten r.persId (some (lastDescr r.persId r.descr)) := by
      rw [next, hrt, hid, hdescr]
      rfl
    rw [hrt] at hdocs
    refine ⟨_, hdocs, Collection.nodup_put h.ids, ?_, fun q hq => ?_⟩
    · rw [hlast]
      exact h.last.put h.ids r
    · rcases (Collection.mem_put h.ids q).mp hq with rfl | ⟨hq, _⟩
      · rw [MetadataRow.isRecorder, hdescr]
        exact decide_eq_true w.isRecorder
      · exact h.recorder q hq

theorem rows_of_run (ws : List GlobalWrite) :
    AlwaysState step (fun s => ∃ rows, Rows s rows) {} ws :=
  alwaysState_of_alwaysStep _ (fun _ _ _ h _ hs => h.choose_spec.step hs) ws _ ⟨[], rows_empty⟩
    alwaysStep_trivial

/-! ## The entries -/

theorem toRaw_lastDescr (r : MetadataRow) :
    r.toRaw.toSPersistenceMetadataDescr = lastDescr r.persId r.descr :=
  MetadataHistory.toRaw_descr r

/-- `int32` has no two numbers for one context. -/
theorem storedContext_injective :
    Function.Injective fun c : TContextId => c.toInt32.toInt := by
  intro c c' h
  rw [← UInt32.toUInt32_toInt32 c, Int32.toInt_inj.mp h, UInt32.toUInt32_toInt32]

/-- A cursor over encoded rows is the encoding of rows. -/
theorem exists_rows_of_perm {cursor : List Doc} (h : cursor.Perm (rows.map MetadataRow.toDoc)) :
    ∃ rows' : List MetadataRow, rows'.Perm rows ∧ cursor = rows'.map MetadataRow.toDoc := by
  have hcomp := congrFun (congrFun (List.eq_map_comp_perm MetadataRow.toDoc) cursor) rows
  obtain ⟨rows', hcursor, hperm⟩ := hcomp.mpr h
  exact ⟨rows', hperm, hcursor⟩

namespace Rows

variable {c : TContextId} {rows' part : List MetadataRow} {out : List SPersistenceMetadata}

theorem hasContext_iff (h : Rows s rows) : s.HasContext c ↔ ∃ r ∈ rows, r.descr.contextId = c := by
  constructor
  · rintro ⟨p, d, hd, rfl⟩
    obtain ⟨r, hr, _, rfl⟩ := (h.last p d).mp hd
    exact ⟨r, hr, rfl⟩
  · rintro ⟨r, hr, rfl⟩
    exact ⟨r.persId, lastDescr r.persId r.descr, (h.last _ _).mpr ⟨r, hr, rfl, rfl⟩, rfl⟩

theorem entryOf (h : Rows s rows) (hids : (part.map MetadataRow.persId).Nodup)
    (hmem : ∀ r, r ∈ part ↔ r ∈ rows ∧ r.descr.contextId = c) : s.EntryOf c (rawEntry part) where
  ids := by
    rw [rawEntry, List.map_map]
    exact hids
  records := by
    intro d
    rw [rawEntry, List.map_map, List.mem_map, h.last]
    constructor
    · rintro ⟨r, hr, rfl⟩
      obtain ⟨hr, hc⟩ := (hmem r).mp hr
      rw [Function.comp_apply, toRaw_lastDescr]
      exact ⟨⟨r, hr, rfl, rfl⟩, hc⟩
    · rintro ⟨⟨r, hr, _, rfl⟩, hc⟩
      exact ⟨r, (hmem r).mpr ⟨hr, hc⟩, toRaw_lastDescr r⟩
  video := rfl
  dss := rfl

/-- The rows of a context, in the order of the cursor. -/
theorem mem_filter_context (hperm : rows'.Perm rows) (r : MetadataRow) :
    r ∈ rows'.filter (fun r => r.descr.contextId == c) ↔ r ∈ rows ∧ r.descr.contextId = c := by
  rw [List.mem_filter, hperm.mem_iff, beq_iff_eq]

theorem nodup_ids_filter (h : Rows s rows) (hperm : rows'.Perm rows) (q : MetadataRow → Bool) :
    ((rows'.filter q).map MetadataRow.persId).Nodup :=
  ((hperm.map _).nodup_iff.mpr h.ids).sublist (List.filter_sublist.map _)

/-- **The runs of a sorted cursor are the entries of the contexts.** -/
theorem grouped (h : Rows s rows) (hperm : rows'.Perm rows)
    (hsorted : rows'.Pairwise fun r q =>
      q.descr.contextId.toInt32.toInt ≤ r.descr.contextId.toInt32.toInt) :
    s.Grouped ((runs (fun r : MetadataRow => r.descr.contextId) rows').map rawEntry) := by
  have hids : ((runs (fun r : MetadataRow => r.descr.contextId) rows').map rawEntry).flatMap
      (fun m => m.persistenceFromRaw.map (·.persistenceSetId)) = rows'.map MetadataRow.persId := by
    have hpart : ∀ part : List MetadataRow,
        (rawEntry part).persistenceFromRaw.map (·.persistenceSetId) =
          part.map MetadataRow.persId := fun part => List.map_map
    rw [List.flatMap_map, List.flatMap_congr fun part _ => hpart part, ← List.map_flatMap,
      List.flatMap_id', flatten_runs]
  obtain ⟨contexts, hnodup, hmem, hruns⟩ := runs_eq_groups storedContext_injective hsorted
  constructor
  · refine ⟨contexts, hnodup, fun c => ?_, ?_⟩
    · rw [hmem, h.hasContext_iff]
      simp only [hperm.mem_iff]
    · rw [hruns, List.map_map, List.forall₂_map_right_iff, List.forall₂_same]
      exact fun c _ => h.entryOf (h.nodup_ids_filter hperm _) (mem_filter_context hperm)
  · rw [hids]
    exact (hperm.map _).nodup_iff.mpr h.ids
  · intro p
    rw [hids, (hperm.map _).mem_iff, h.last.isSome_iff]

/-- The read of one context, with the entry that the read of all contexts has for it. -/
theorem onlyEntryOf (h : Rows s rows) (hperm : rows'.Perm rows)
    (hpart : part.Perm (rows.filter fun r => r.descr.contextId == c))
    (hout : s.HasContext c → rawEntry (rows'.filter fun r => r.descr.contextId == c) ∈ out) :
    ∃ read, readCursor (part.map MetadataRow.toDoc) = some read ∧ s.OnlyEntryOf c out read := by
  have hmem : ∀ r, r ∈ part ↔ r ∈ rows ∧ r.descr.contextId = c := fun r => by
    rw [hpart.mem_iff]
    exact mem_filter_context (List.Perm.refl rows) r
  by_cases hne : part = []
  · refine ⟨[], by rw [hne]; rfl, Or.inl ⟨rfl, fun hc => ?_⟩⟩
    obtain ⟨r, hr⟩ := h.hasContext_iff.mp hc
    have hrpart := (hmem r).mpr hr
    rw [hne] at hrpart
    cases hrpart
  · obtain ⟨r, hr⟩ := List.exists_mem_of_ne_nil part hne
    obtain ⟨hrow, hctx⟩ := (hmem r).mp hr
    have hzero : c ≠ 0 := hctx ▸ r.contextId_ne_zero
    have hfold := ContextGrouping.foldlM_run (g := {}) rfl hzero hne fun q hq =>
      ⟨h.recorder q ((hmem q).mp hq).1, ((hmem q).mp hq).2⟩
    refine ⟨[rawEntry part], by rw [readCursor, hfold]; rfl, Or.inr ⟨_,
      hout (h.hasContext_iff.mpr ⟨r, hrow, hctx⟩),
      h.entryOf (h.nodup_ids_filter hperm _) (mem_filter_context hperm), _, ?_, rfl⟩⟩
    exact (hpart.trans (hperm.filter _).symm).map _

/-- **Reads through cursors that the queries promise are grouped.** -/
theorem readsGrouped (h : Rows s rows) {cursor : List Doc} {cursors : TContextId → List Doc}
    (hall : OrderedCursor s.db.persistenceMetadata cursor)
    (hone : ∀ c, ContextCursor s.db.persistenceMetadata c (cursors c)) :
    s.ReadsGrouped (readCursor cursor) fun c => readCursor (cursors c) := by
  obtain ⟨hperm, hsorted⟩ := hall
  rw [h.docs] at hperm
  obtain ⟨rows', hrows', rfl⟩ := exists_rows_of_perm hperm
  have hrec : ∀ r ∈ rows', r.isRecorder = true := fun r hr => h.recorder r (hrows'.mem_iff.mp hr)
  have hsorted' : rows'.Pairwise fun r q =>
      q.descr.contextId.toInt32.toInt ≤ r.descr.contextId.toInt32.toInt :=
    (List.pairwise_map.mp hsorted).imp Int32.le_iff_toInt_le.mp
  obtain ⟨contexts, _, hmem, hruns⟩ := runs_eq_groups storedContext_injective hsorted'
  refine ⟨_, readCursor_rows hrec, h.grouped hrows' hsorted', fun c _ => ?_⟩
  have hcursor := hone c
  rw [ContextCursor, h.docs, Collection.find_map (fun r => query_ctxId_toDoc r c)] at hcursor
  obtain ⟨part, hpart, hdocs⟩ := exists_rows_of_perm hcursor
  simp only [hdocs]
  refine h.onlyEntryOf hrows' hpart fun hc => ?_
  obtain ⟨r, hr, hctx⟩ := h.hasContext_iff.mp hc
  rw [hruns]
  exact List.mem_map_of_mem (List.mem_map_of_mem
    ((hmem c).mpr ⟨r, hrows'.mem_iff.mpr hr, hctx⟩))

end Rows

/-- The stable order of the model is one that `$orderby` may give. -/
theorem orderedCursor_orderDesc (docs : List Doc) :
    OrderedCursor docs (Collection.orderDesc
      (fun d : Doc => iterInt32 (d.get? PersistenceSetMetadata.ctxId)) docs) := by
  let key (d : Doc) : Int32 := iterInt32 (d.get? PersistenceSetMetadata.ctxId)
  have htotal : Std.Total fun a b : Doc => key b ≤ key a := ⟨fun _ _ => Int32.le_total _ _⟩
  have htrans : IsTrans Doc fun a b => key b ≤ key a := ⟨fun _ _ _ h h' => Int32.le_trans h' h⟩
  exact ⟨List.perm_insertionSort _ docs, List.pairwise_insertionSort _ docs⟩

/-- **Whatever was written, metadata is read as one entry for each context, with the last written
description of each set once.** The second part is for all cursors that the queries allow. -/
theorem metadata_grouped_by_context (ws : List GlobalWrite) :
    AlwaysState step (fun s =>
      s.ReadsGrouped (getPersistenceSetMetadataByContext s.db.persistenceMetadata allContextId)
        (getPersistenceSetMetadataByContext s.db.persistenceMetadata) ∧
      ∀ (cursor : List Doc) (cursors : TContextId → List Doc),
        OrderedCursor s.db.persistenceMetadata cursor →
        (∀ c, ContextCursor s.db.persistenceMetadata c (cursors c)) →
        s.ReadsGrouped (readCursor cursor) fun c => readCursor (cursors c)) {} ws := by
  refine (rows_of_run ws).mono fun s h => ?_
  obtain ⟨rows, h⟩ := h
  refine ⟨?_, fun cursor cursors hall hone => h.readsGrouped hall hone⟩
  obtain ⟨out, hout, hgrouped, hread⟩ :=
    h.readsGrouped (orderedCursor_orderDesc _) fun c => List.Perm.refl _
  refine ⟨out, hout, hgrouped, fun c hc => ?_⟩
  rw [getPersistenceSetMetadataByContext, if_neg hc]
  exact hread c hc

def recorderDescr (contextId : TContextId) : SPersistenceMetadataDescr where
  contextId := contextId
  missionId := 1
  timeStepIntervalMillisec := 1000
  lastRecordedSession := 1
  sourceType := .autonomousRecorder
  dataType := .trajectory

/-- Three sets of two contexts. -/
def threeSets : List GlobalWrite :=
  [⟨true, 1, "a", recorderDescr 5, rfl⟩, ⟨true, 2, "b", recorderDescr 3000000000, rfl⟩,
    ⟨true, 3, "c", recorderDescr 5, rfl⟩]

/-- A context from 2^31 on is stored as a negative number, and comes last. -/
theorem metadata_grouped_by_context_three :
    ∃ s, runAll step {} threeSets = some s ∧
      s.ReadsGrouped (getPersistenceSetMetadataByContext s.db.persistenceMetadata allContextId)
        (getPersistenceSetMetadataByContext s.db.persistenceMetadata) ∧
      (getPersistenceSetMetadataByContext s.db.persistenceMetadata allContextId).map
        (List.map fun m => m.persistenceFromRaw.map (·.persistenceSetId)) =
          some [[1, 3], [2]] := by
  obtain ⟨s, hs⟩ : ∃ s, runAll step {} threeSets = some s :=
    Option.isSome_iff_exists.mp (by decide)
  have hread : ((runAll step {} threeSets).bind fun s =>
      getPersistenceSetMetadataByContext s.db.persistenceMetadata allContextId).map
        (List.map fun m => m.persistenceFromRaw.map (·.persistenceSetId)) =
          some [[1, 3], [2]] := by decide
  rw [hs, Option.bind_some] at hread
  exact ⟨s, hs, ((metadata_grouped_by_context threeSets).last hs).1, hread⟩

end MetadataTable

end MicroserviceCommon
