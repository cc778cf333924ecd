import MicroserviceCommon.Properties.ProcessJournal

/-!
# The journal of client operations

The upsert keeps one document per key, and only opens with `begin` are ever written.
So the aggregation over keys that occur once loses nothing, and what recovery replays
is a map from keys to command texts.

* `interruptedOperations_eq` — recovery replays the last text of every key that is open
* `cleanJournal_iff` — `cleanJournal` empties the journal exactly when all operations
  in it have the key `"all_keys"`
* `cleanJournal_keeps_operation` — an operation with another key stays and is replayed later
-/

namespace MicroserviceCommon

open Infra

/-! ## Calls on the journal -/

inductive OperationOp where
  | openOperation (operation : SWALClientOperation)
  | closeOperation (uniqueKey : String)
  deriving DecidableEq, Repr

namespace OperationOp

/-- The call on the logger, the database operation succeeding. -/
def exec (w : WriteAheadLogger) : OperationOp → WriteAheadLogger
  | openOperation o => w.openOperation true o
  | closeOperation k => w.closeClientOperation true k

def execAll (w : WriteAheadLogger) (ops : List OperationOp) : WriteAheadLogger := ops.foldl exec w

def uniqueKey : OperationOp → String
  | openOperation o => o.uniqueKey
  | closeOperation k => k

/-- The key is not empty, and no string of the call has a NUL byte. -/
def WellFormed (op : OperationOp) : Prop :=
  op.uniqueKey ≠ "" ∧ NulFree op.uniqueKey ∧
    ∀ o, op = openOperation o → NulFree o.commandFullText

end OperationOp

/-- The command text of every key that is open, the purpose of the journal. -/
abbrev OpenTexts := String → Option String

namespace OpenTexts

def empty : OpenTexts := fun _ => none

def exec (m : OpenTexts) : OperationOp → OpenTexts
  | .openOperation o =>
    if o.begin then fun k => if k = o.uniqueKey then some o.commandFullText else m k
    else fun k => if k = o.uniqueKey then none else m k
  | .closeOperation key => fun k => if k = key then none else m k

def execAll (m : OpenTexts) (ops : List OperationOp) : OpenTexts := ops.foldl exec m

end OpenTexts

/-! ## What the journal holds -/

/-- The operations that are recorded after one more call. -/
def recordOperation (rows : List SWALClientOperation) : OperationOp → List SWALClientOperation
  | .openOperation o =>
    if o.begin then Collection.put (fun o => cStr o.uniqueKey) o rows
    else Collection.remove (fun r => o.uniqueKey == allClientOperations ||
      cStr r.uniqueKey == cStr o.uniqueKey) rows
  | .closeOperation key =>
    Collection.remove (fun r => key == allClientOperations || cStr r.uniqueKey == cStr key) rows

/-- An active logger whose two tables consist of these rows. -/
structure RecordsJournal (w : WriteAheadLogger) (rows : List SWALClientOperation)
    (events : List SWALProcessEvent) : Prop extends RecordsEvents w events where
  operations : w.persistService.walClientOperations = rows.map clientOperationDoc

namespace RecordsJournal

variable {w : WriteAheadLogger} {rows : List SWALClientOperation} {events : List SWALProcessEvent}

theorem activeLogger : RecordsJournal activeLogger [] [] := ⟨⟨rfl, rfl⟩, rfl⟩

theorem execOperation (h : RecordsJournal w rows events) (op : OperationOp) :
    RecordsJournal (op.exec w) (recordOperation rows op) events := by
  cases op with
  | openOperation o =>
    simp only [OperationOp.exec, WriteAheadLogger.openOperation, h.active, Bool.not_true,
      Bool.false_eq_true, if_false, recordOperation]
    split
    · refine ⟨⟨rfl, h.docs⟩, ?_⟩
      simp only [SystemEnvironmentFacade.writeOperation, h.operations, writeClientOperation_docs]
    · refine ⟨⟨rfl, h.docs⟩, ?_⟩
      simp only [SystemEnvironmentFacade.removeOperation, h.operations, removeClientOperation_docs]
  | closeOperation key =>
    refine ⟨⟨h.active, h.docs⟩, ?_⟩
    simp only [OperationOp.exec, WriteAheadLogger.closeClientOperation,
      SystemEnvironmentFacade.removeOperation, h.operations, removeClientOperation_docs]
    rfl

theorem execAllOperations (h : RecordsJournal w rows events) (ops : List OperationOp) :
    RecordsJournal (OperationOp.execAll w ops) (ops.foldl recordOperation rows) events := by
  induction ops generalizing w rows with
  | nil => exact h
  | cons op ops ih => exact ih (h.execOperation op)

/-- A call on the processes leaves the operations. -/
theorem execEvent (h : RecordsJournal w rows events) (op : ProcessOp) :
    RecordsJournal (op.exec w) rows (recordOp events op) := by
  refine ⟨h.toRecordsEvents.exec op, ?_⟩
  rw [← h.operations]
  cases op with
  | openEvent e =>
    simp only [ProcessOp.exec, WriteAheadLogger.openProcessEvent, h.active, Bool.not_true,
      Bool.false_eq_true, if_false]
    rfl
  | closeEvent p => rfl

end RecordsJournal

/-! ## Recovery of operations -/

/-- The rows hold the texts of the open keys, each key in one row. -/
structure HoldsTexts (rows : List SWALClientOperation) (m : OpenTexts) : Prop where
  nodup : (rows.map fun o => cStr o.uniqueKey).Nodup
  begin : ∀ o ∈ rows, o.begin = true
  stored : ∀ o ∈ rows, o.stored = o
  text : ∀ k t, m k = some t ↔ ∃ o ∈ rows, o.uniqueKey = k ∧ o.commandFullText = t

namespace HoldsTexts

variable {rows : List SWALClientOperation} {m : OpenTexts}

theorem empty : HoldsTexts [] OpenTexts.empty where
  nodup := List.nodup_nil
  begin := fun _ h => absurd h List.not_mem_nil
  stored := fun _ h => absurd h List.not_mem_nil
  text := by simp [OpenTexts.empty]

theorem cStr_uniqueKey (h : HoldsTexts rows m) {o : SWALClientOperation} (ho : o ∈ rows) :
    cStr o.uniqueKey = o.uniqueKey :=
  congrArg SWALClientOperation.uniqueKey (h.stored o ho)

/-- An open overwrites the text of its key. -/
theorem put (h : HoldsTexts rows m) {o : SWALClientOperation} (hbegin : o.begin = true)
    (hkey : NulFree o.uniqueKey) (htext : NulFree o.commandFullText) :
    HoldsTexts (Collection.put (fun o => cStr o.uniqueKey) o rows)
      fun k => if k = o.uniqueKey then some o.commandFullText else m k := by
  have hmem (r : SWALClientOperation) : r ∈ Collection.put (fun o => cStr o.uniqueKey) o rows ↔
      r = o ∨ r ∈ rows ∧ cStr r.uniqueKey ≠ cStr o.uniqueKey :=
    Collection.mem_put h.nodup r
  refine ⟨Collection.nodup_put h.nodup, fun r hr => ?_, fun r hr => ?_, fun k t => ?_⟩
  · rcases (hmem r).mp hr with rfl | ⟨hr, _⟩
    · exact hbegin
    · exact h.begin r hr
  · rcases (hmem r).mp hr with rfl | ⟨hr, _⟩
    · rw [SWALClientOperation.stored, cStr_of_nulFree hkey, cStr_of_nulFree htext]
    · exact h.stored r hr
  · rw [cStr_of_nulFree hkey] at hmem
    simp only [hmem]
    split
    · next hk =>
      constructor
      · intro ht
        exact ⟨o, Or.inl rfl, hk.symm, Option.some.inj ht⟩
      · rintro ⟨r, rfl | ⟨hr, hne⟩, hrk, rfl⟩
        · rfl
        · -- an older row of this key was overwritten
          rw [h.cStr_uniqueKey hr] at hne
          exact absurd (hrk.trans hk) hne
    · next hk =>
      rw [h.text]
      constructor
      · rintro ⟨r, hr, hrk, hrt⟩
        refine ⟨r, Or.inr ⟨hr, ?_⟩, hrk, hrt⟩
        rw [h.cStr_uniqueKey hr, hrk]
        exact hk
      · rintro ⟨r, rfl | ⟨hr, _⟩, hrk, hrt⟩
        · exact absurd hrk.symm hk
        · exact ⟨r, hr, hrk, hrt⟩

/-- A close removes the row of its key and no other. -/
theorem remove (h : HoldsTexts rows m) {key : String} (hne : key ≠ "") (hkey : NulFree key) :
    HoldsTexts
      (Collection.remove (fun r => key == allClientOperations || cStr r.uniqueKey == cStr key) rows)
      fun k => if k = key then none else m k := by
  have hmem : ∀ r, r ∈ Collection.remove
      (fun r => key == allClientOperations || cStr r.uniqueKey == cStr key) rows ↔
        r ∈ rows ∧ r.uniqueKey ≠ key := by
    intro r
    rw [Collection.mem_remove, Bool.or_eq_false_iff, beq_eq_false_iff_ne, beq_eq_false_iff_ne,
      cStr_of_nulFree hkey]
    refine and_congr_right fun hr => ?_
    rw [h.cStr_uniqueKey hr]
    exact and_iff_right hne
  refine ⟨Collection.nodup_remove h.nodup, fun r hr => h.begin r ((hmem r).mp hr).1,
    fun r hr => h.stored r ((hmem r).mp hr).1, fun k t => ?_⟩
  simp only [hmem]
  split
  · next hk =>
    constructor
    · intro ht
      cases ht
    · rintro ⟨r, ⟨_, hr⟩, hrk, _⟩
      exact absurd (hrk.trans hk) hr
  · next hk =>
    rw [h.text]
    constructor
    · rintro ⟨r, hr, hrk, hrt⟩
      exact ⟨r, ⟨hr, fun hc => hk (hrk.symm.trans hc)⟩, hrk, hrt⟩
    · rintro ⟨r, ⟨hr, _⟩, hrk, hrt⟩
      exact ⟨r, hr, hrk, hrt⟩

theorem record (h : HoldsTexts rows m) {op : OperationOp} (hop : op.WellFormed) :
    HoldsTexts (recordOperation rows op) (m.exec op) := by
  obtain ⟨hne, hkey, htext⟩ := hop
  cases op with
  | openOperation o =>
    rw [recordOperation, OpenTexts.exec]
    split
    · next hbegin => exact h.put hbegin hkey (htext o rfl)
    · exact h.remove hne hkey
  | closeOperation key => exact h.remove hne hkey

theorem recordAll (h : HoldsTexts rows m) {ops : List OperationOp}
    (hops : ∀ op ∈ ops, op.WellFormed) :
    HoldsTexts (ops.foldl recordOperation rows) (m.execAll ops) := by
  induction ops generalizing rows m with
  | nil => exact h
  | cons op ops ih =>
    exact ih (h.record (hops op List.mem_cons_self)) fun o ho => hops o (List.mem_cons_of_mem _ ho)

/-- The rows list the open keys with their texts. -/
theorem map_request (h : HoldsTexts rows m) :
    (rows.map SWALClientOperation.uniqueKey).filterMap (fun k => (m k).map fun text =>
        ({ incomingMessage := text } : AEnvironmentRequest)) =
      rows.map fun o => { incomingMessage := o.commandFullText } := by
  rw [List.filterMap_map, ← List.filterMap_eq_map]
  refine List.filterMap_congr fun o ho => ?_
  have ht := (h.text o.uniqueKey o.commandFullText).mpr ⟨o, ho, rfl, rfl⟩
  simp [ht]

theorem nodup_uniqueKey (h : HoldsTexts rows m) :
    (rows.map SWALClientOperation.uniqueKey).Nodup := by
  have hmap : rows.map SWALClientOperation.uniqueKey = rows.map fun o => cStr o.uniqueKey :=
    List.map_congr_left fun o ho => (h.cStr_uniqueKey ho).symm
  rw [hmap]
  exact h.nodup

theorem mem_uniqueKey (h : HoldsTexts rows m) (k : String) :
    k ∈ rows.map SWALClientOperation.uniqueKey ↔ (m k).isSome := by
  rw [List.mem_map, Option.isSome_iff_exists]
  constructor
  · rintro ⟨o, ho, hk⟩
    exact ⟨_, (h.text k _).mpr ⟨o, ho, hk, rfl⟩⟩
  · rintro ⟨t, ht⟩
    obtain ⟨o, ho, hk, _⟩ := (h.text k t).mp ht
    exact ⟨o, ho, hk⟩

end HoldsTexts

theorem RecordsJournal.getInterruptedOperations {w : WriteAheadLogger}
    {rows : List SWALClientOperation} {events : List SWALProcessEvent} {m : OpenTexts}
    (h : RecordsJournal w rows events) (hrows : HoldsTexts rows m) :
    w.getInterruptedOperations =
      some (rows.map fun o => { incomingMessage := o.commandFullText }) := by
  rw [WriteAheadLogger.getInterruptedOperations, if_neg (by simp [h.active]),
    SystemEnvironmentFacade.readOperations, if_neg (by decide), if_pos rfl, h.operations,
    getNonIntegrityClientOperations_docs hrows.nodup hrows.begin, Option.map_some, List.map_map]
  refine congrArg some (List.map_congr_left fun o ho => ?_)
  rw [Function.comp_apply, hrows.stored o ho]

/--
**Recovery replays every open key once, with the text of its last open.**

The result is `some`, so the assertion on `begin` never fails.
-/
theorem interruptedOperations_eq (ops : List OperationOp) (hops : ∀ op ∈ ops, op.WellFormed) :
    ∃ keys : List String, keys.Nodup ∧
      (∀ k, k ∈ keys ↔ (OpenTexts.empty.execAll ops k).isSome) ∧
      (OperationOp.execAll activeLogger ops).getInterruptedOperations =
        some (keys.filterMap fun k => (OpenTexts.empty.execAll ops k).map fun text =>
          { incomingMessage := text }) := by
  have hjournal := RecordsJournal.activeLogger.execAllOperations ops
  have hrows := HoldsTexts.empty.recordAll hops
  refine ⟨_, hrows.nodup_uniqueKey, hrows.mem_uniqueKey, ?_⟩
  rw [hjournal.getInterruptedOperations hrows, hrows.map_request]

/-- Two operations, the first one overwritten, the second one closed. -/
theorem interruptedOperations_eq_overwritten :
    let ops : List OperationOp :=
      [.openOperation ⟨"k1", true, "start"⟩, .openOperation ⟨"k2", true, "play"⟩,
        .openOperation ⟨"k1", true, "restart"⟩, .closeOperation "k2"]
    ∃ keys : List String, keys.Nodup ∧
      (∀ k, k ∈ keys ↔ (OpenTexts.empty.execAll ops k).isSome) ∧
      (OperationOp.execAll activeLogger ops).getInterruptedOperations =
        some (keys.filterMap fun k => (OpenTexts.empty.execAll ops k).map fun text =>
          { incomingMessage := text }) := by
  refine interruptedOperations_eq _ ?_
  simp only [List.forall_mem_cons, OperationOp.WellFormed, OperationOp.uniqueKey,
    OperationOp.openOperation.injEq, forall_eq', reduceCtorEq, false_implies, implies_true,
    and_true, List.not_mem_nil]
  decide

/-! ## Cleaning the journal -/

/-- A call on either half of the journal. -/
inductive JournalOp where
  | operation (op : OperationOp)
  | event (op : ProcessOp)
  deriving DecidableEq, Repr

namespace JournalOp

def exec (w : WriteAheadLogger) : JournalOp → WriteAheadLogger
  | operation op => op.exec w
  | event op => op.exec w

def execAll (w : WriteAheadLogger) (ops : List JournalOp) : WriteAheadLogger := ops.foldl exec w

end JournalOp

theorem RecordsJournal.execAll {w : WriteAheadLogger} {rows : List SWALClientOperation}
    {events : List SWALProcessEvent} (h : RecordsJournal w rows events) (ops : List JournalOp) :
    ∃ rows' events', RecordsJournal (JournalOp.execAll w ops) rows' events' := by
  induction ops generalizing w rows events with
  | nil => exact ⟨rows, events, h⟩
  | cons op ops ih =>
    cases op with
    | operation op => exact ih (h.execOperation op)
    | event op => exact ih (h.execEvent op)

section Clean

variable {w : WriteAheadLogger} {rows : List SWALClientOperation} {events : List SWALProcessEvent}

theorem isJournalEmpty_docs
    (hops : w.persistService.walClientOperations = rows.map clientOperationDoc)
    (hevents : w.persistService.walProcessEvents = events.map (processEventDoc · true)) :
    w.isJournalEmpty = some (events.isEmpty && rows.isEmpty) := by
  rw [WriteAheadLogger.isJournalEmpty, SystemEnvironmentFacade.readEvents, if_neg (by decide),
    if_pos rfl, SystemEnvironmentFacade.readOperations, if_pos rfl, hops, hevents,
    getProcessEvents_docs, getClientOperations_docs]
  simp

/-- **The facade passes the sentinel on as a key, so only operations with that key go.** -/
theorem cleanJournal_docs
    (hops : w.persistService.walClientOperations = rows.map clientOperationDoc)
    (hevents : w.persistService.walProcessEvents = events.map (processEventDoc · true)) :
    ∃ w', w.cleanJournal true true = some w' ∧
      w'.persistService.walClientOperations =
        (rows.filter fun o => cStr o.uniqueKey ≠ SWALClientOperation.allKeys).map
          clientOperationDoc ∧
      w'.persistService.walProcessEvents = [] := by
  rw [WriteAheadLogger.cleanJournal, isJournalEmpty_docs hops hevents]
  cases hempty : events.isEmpty && rows.isEmpty with
  | true =>
    rw [Bool.and_eq_true, List.isEmpty_iff, List.isEmpty_iff] at hempty
    refine ⟨w, rfl, ?_, ?_⟩
    · rw [hops, hempty.2]
      rfl
    · rw [hevents, hempty.1]
      rfl
  | false =>
    refine ⟨_, rfl, ?_, ?_⟩
    · simp only [SystemEnvironmentFacade.removeEvent, SystemEnvironmentFacade.removeOperation, hops,
        removeClientOperation_docs]
      refine congrArg (List.map _) (List.filter_congr fun o _ => ?_)
      rw [show (SWALClientOperation.allKeys == allClientOperations) = false from by decide,
        show cStr SWALClientOperation.allKeys = SWALClientOperation.allKeys from by decide]
      simp only [Bool.false_or, decide_not]
      rfl
    · simp only [SystemEnvironmentFacade.removeEvent, SystemEnvironmentFacade.removeOperation,
        hevents, removeProcessEvent_docs]
      exact List.map_eq_nil_iff.mpr (List.filter_eq_nil_iff.mpr fun _ _ => by
        simp [SWALProcessEvent.allPids, allProcessEvents])

end Clean

/-- The journal is empty after `cleanJournal`, and a later start with recovery replays nothing. -/
def CleansJournal (w : WriteAheadLogger) : Prop :=
  ∃ w', w.cleanJournal true true = some w' ∧ w'.isJournalEmpty = some true ∧
    WriteAheadLogger.getInterruptedOperations ⟨true, w'.persistService⟩ = some []

/--
**`cleanJournal` empties exactly the journals whose operations all have the key `"all_keys"`.**

The start that cleans the journal has an inactive logger, `cleanJournal` does not ask.
-/
theorem cleanJournal_iff (ops : List JournalOp) (active : Bool) :
    CleansJournal { JournalOp.execAll activeLogger ops with active := active } ↔
      ∀ o ∈ getClientOperations
        (JournalOp.execAll activeLogger ops).persistService.walClientOperations,
        o.uniqueKey = SWALClientOperation.allKeys := by
  obtain ⟨rows, events, h⟩ := RecordsJournal.activeLogger.execAll ops
  obtain ⟨w', hclean, hops', hevents'⟩ := cleanJournal_docs
    (w := { JournalOp.execAll activeLogger ops with active := active }) h.operations h.docs
  have hempty := isJournalEmpty_docs (w := w') hops'
    (show _ = ([] : List SWALProcessEvent).map (processEventDoc · true) from hevents')
  rw [h.operations, getClientOperations_docs]
  constructor
  · rintro ⟨w'', hw, hjournal, _⟩ o ho
    rw [hclean, Option.some.injEq] at hw
    subst hw
    rw [hempty, Option.some.injEq, List.isEmpty_nil, Bool.true_and, List.isEmpty_iff,
      List.filter_eq_nil_iff] at hjournal
    obtain ⟨r, hr, rfl⟩ := List.mem_map.mp ho
    simpa [SWALClientOperation.stored] using hjournal r hr
  · intro hall
    have hnil : (rows.filter fun o => cStr o.uniqueKey ≠ SWALClientOperation.allKeys) = [] := by
      rw [List.filter_eq_nil_iff]
      intro r hr
      simpa [SWALClientOperation.stored] using hall r.stored (List.mem_map_of_mem hr)
    rw [hnil] at hops' hempty
    refine ⟨w', hclean, hempty, ?_⟩
    have hrec : RecordsJournal ⟨true, w'.persistService⟩ [] [] := ⟨⟨rfl, hevents'⟩, hops'⟩
    exact hrec.getInterruptedOperations HoldsTexts.empty

/-- One operation is open when the journal is cleaned. -/
theorem cleanJournal_keeps_operation :
    ¬ CleansJournal
      { JournalOp.execAll activeLogger [.operation (.openOperation ⟨"k1", true, "start"⟩)] with
        active := false } := by
  rintro ⟨w', hclean, hempty, _⟩
  have hfull : ((WriteAheadLogger.cleanJournal true true
      { JournalOp.execAll activeLogger [.operation (.openOperation ⟨"k1", true, "start"⟩)] with
        active := false }).bind WriteAheadLogger.isJournalEmpty) = some false := by
    decide
  rw [hclean, Option.bind_some, hempty] at hfull
  cases hfull

end MicroserviceCommon
