import MicroserviceCommon.Properties.JournalClosing
import MicroserviceCommon.Properties.OperationJournal

/-!
# The journal over whole runs

What the three tables are for: the open operations with their texts, the recorded pids and the
registered users. `WriteAheadLogger` with its tables refines this journal, for any keys and any
failed writes, whether it is active or not.

* `Journal` — the abstract journal
* `Represents` — the tables hold the journal
* `logger_refines_journal` — what the logger reads, after any calls
-/

namespace MicroserviceCommon

open Infra

/-! ## The abstract journal -/

/-- An operation is its key and its text. Each key stands once, in the order it was opened first. -/
structure Journal where
  operations : List (String × String) := []
  pids : List TPid := []
  registrations : List SWALUserRegistration := []
  deriving DecidableEq, Repr

namespace Journal

def putOperation (j : Journal) (o : SWALClientOperation) : Journal :=
  { j with
    operations := Collection.put Prod.fst (cStr o.uniqueKey, cStr o.commandFullText) j.operations }

def removeOperation (j : Journal) (key : String) : Journal :=
  { j with
    operations := if key = "" then [] else j.operations.filter fun o => o.1 ≠ cStr key }

def addPid (j : Journal) (pid : TPid) : Journal := { j with pids := j.pids ++ [pid] }

def removePid (j : Journal) (pid : TPid) : Journal :=
  { j with pids := if pid = 0 then [] else j.pids.filter fun p => p ≠ pid }

/-- A registration as it is read back. -/
def addRegistration (j : Journal) (r : SWALUserRegistration) : Journal :=
  { j with
    registrations := j.registrations ++ [{
      registerId := cStr r.registerId
      userIp := cStr r.userIp
      userPid := r.userPid
      registeredAtDateTime := cStr r.registeredAtDateTime }] }

def removeRegistration (j : Journal) (id : String) : Journal :=
  { j with
    registrations :=
      if id = "" then [] else j.registrations.filter fun r => r.registerId ≠ cStr id }

def isEmpty (j : Journal) : Bool := j.pids.isEmpty && j.operations.isEmpty

/-- A failed write changes nothing. Only the opens ask whether the logger is active, and a clean
journal keeps the operations that have another key than the sentinel. -/
def call (active : Bool) (j : Journal) : JournalCall → Journal
  | .openOperation rt o =>
    if active && rt then
      if o.begin then j.putOperation o else j.removeOperation o.uniqueKey
    else j
  | .closeClientOperation rt key => if rt then j.removeOperation key else j
  | .openProcessEvent rt e => if active && rt then j.addPid e.pid else j
  | .closeProcessEvent rt pid => if rt then j.removePid pid else j
  | .openUserRegistration rt r => if active && rt then j.addRegistration r else j
  | .closeUserRegistration rt id => if rt then j.removeRegistration id else j
  | .cleanJournal rtOperations rtEvents =>
    if j.isEmpty then j
    else
      let j' := if rtOperations then j.removeOperation SWALClientOperation.allKeys else j
      if rtEvents then j'.removePid SWALProcessEvent.allPids else j'

end Journal

/-! ## The tables hold the journal -/

/-- The rows of the tables. -/
structure JournalRows where
  operations : List SWALClientOperation
  events : List SWALProcessEvent
  registrations : List SWALUserRegistration

namespace JournalRows

/-- The journal that the rows stand for. -/
def journal (r : JournalRows) : Journal where
  operations := r.operations.map fun o => (cStr o.uniqueKey, cStr o.commandFullText)
  pids := r.events.map (·.pid)
  registrations := r.registrations.map fun x =>
    { registerId := cStr x.registerId
      userIp := cStr x.userIp
      userPid := x.userPid
      registeredAtDateTime := cStr x.registeredAtDateTime }

/-- Each key stands in one row, and every row has begun. -/
structure Sound (r : JournalRows) : Prop where
  nodup : (r.operations.map fun o => cStr o.uniqueKey).Nodup
  begin : ∀ o ∈ r.operations, o.begin = true

end JournalRows

/-- The tables consist of the rows. -/
structure HoldsRows (db : Database) (r : JournalRows) : Prop where
  operations : db.walClientOperations = r.operations.map clientOperationDoc
  events : db.walProcessEvents = r.events.map (processEventDoc · true)
  registrations : db.walUserRegistrations = r.registrations.map userRegistrationDoc

/-- The tables hold the journal. -/
def Represents (db : Database) (j : Journal) : Prop :=
  ∃ r : JournalRows, HoldsRows db r ∧ r.Sound ∧ r.journal = j

theorem represents_empty : Represents {} {} :=
  ⟨⟨[], [], []⟩, ⟨rfl, rfl, rfl⟩, ⟨List.nodup_nil, fun _ h => absurd h List.not_mem_nil⟩, rfl⟩

namespace Represents

variable {db : Database} {j : Journal}

/-! ## What the calls write -/

theorem writeOperation (h : Represents db j) {o : SWALClientOperation} (hbegin : o.begin = true) :
    Represents (SystemEnvironmentFacade.writeOperation true db o).1 (j.putOperation o) := by
  obtain ⟨r, hrows, hsound, rfl⟩ := h
  refine ⟨{ r with operations := Collection.put (fun o => cStr o.uniqueKey) o r.operations },
    ⟨?_, hrows.events, hrows.registrations⟩, ⟨Collection.nodup_put hsound.nodup, ?_⟩, ?_⟩
  · simp only [SystemEnvironmentFacade.writeOperation, hrows.operations, writeClientOperation_docs]
  · intro x hx
    rcases (Collection.mem_put hsound.nodup x).mp hx with rfl | ⟨hx, _⟩
    · exact hbegin
    · exact hsound.begin x hx
  · have hput : Collection.put Prod.fst (cStr o.uniqueKey, cStr o.commandFullText) (r.operations.map
        fun o => (cStr o.uniqueKey, cStr o.commandFullText)) = _ := Collection.put_map _ o _
    simp only [Journal.putOperation, JournalRows.journal, hput]

theorem removeOperation (h : Represents db j) (key : String) :
    Represents (SystemEnvironmentFacade.removeOperation true db key) (j.removeOperation key) := by
  obtain ⟨r, hrows, hsound, rfl⟩ := h
  refine ⟨{ r with operations := Collection.remove (fun o => key == allClientOperations ||
      cStr o.uniqueKey == cStr key) r.operations }, ⟨?_, hrows.events, hrows.registrations⟩,
    ⟨Collection.nodup_remove hsound.nodup, ?_⟩, ?_⟩
  · simp only [SystemEnvironmentFacade.removeOperation, hrows.operations,
      removeClientOperation_docs]
  · exact fun x hx => hsound.begin x (Collection.mem_remove.mp hx).1
  · simp only [Journal.removeOperation, JournalRows.journal,
      Collection.map_remove_key Prod.fst (fun _ : SWALClientOperation => rfl), beq_iff_eq,
      allClientOperations]

theorem writeEvent (h : Represents db j) (e : SWALProcessEvent) :
    Represents (SystemEnvironmentFacade.writeEvent true db e).1 (j.addPid e.pid) := by
  obtain ⟨r, hrows, hsound, rfl⟩ := h
  refine ⟨{ r with events := r.events ++ [e] },
    ⟨hrows.operations, ?_, hrows.registrations⟩, ⟨hsound.nodup, hsound.begin⟩, ?_⟩
  · simp only [SystemEnvironmentFacade.writeEvent, hrows.events, writeProcessEvent_docs]
  · rw [Journal.addPid, JournalRows.journal, JournalRows.journal, List.map_append]
    rfl

theorem removeEvent (h : Represents db j) (pid : TPid) :
    Represents (SystemEnvironmentFacade.removeEvent true db pid) (j.removePid pid) := by
  obtain ⟨r, hrows, hsound, rfl⟩ := h
  refine ⟨{ r with events := Collection.remove (fun e => pid == allProcessEvents ||
      e.pid == pid) r.events }, ⟨hrows.operations, ?_, hrows.registrations⟩,
    ⟨hsound.nodup, hsound.begin⟩, ?_⟩
  · simp only [SystemEnvironmentFacade.removeEvent, hrows.events, removeProcessEvent_docs]
  · simp only [Journal.removePid, JournalRows.journal,
      Collection.map_remove_key (fun p : TPid => p) (fun _ : SWALProcessEvent => rfl), beq_iff_eq,
      allProcessEvents]

theorem writeRegistration (h : Represents db j) (x : SWALUserRegistration) :
    Represents (SystemEnvironmentFacade.writeRegistration true db x).1 (j.addRegistration x) := by
  obtain ⟨r, hrows, hsound, rfl⟩ := h
  refine ⟨{ r with registrations := r.registrations ++ [x] },
    ⟨hrows.operations, hrows.events, ?_⟩, ⟨hsound.nodup, hsound.begin⟩, ?_⟩
  · simp only [SystemEnvironmentFacade.writeRegistration, writeUserRegistration, if_true,
      hrows.registrations, Collection.insert, List.map_append, List.map_singleton]
  · rw [Journal.addRegistration, JournalRows.journal, JournalRows.journal, List.map_append]
    rfl

theorem removeRegistration (h : Represents db j) (id : String) :
    Represents (SystemEnvironmentFacade.removeRegistration true db id)
      (j.removeRegistration id) := by
  obtain ⟨r, hrows, hsound, rfl⟩ := h
  refine ⟨{ r with registrations := Collection.remove (fun x => id == allRegistrationIds ||
      cStr x.registerId == cStr id) r.registrations }, ⟨hrows.operations, hrows.events, ?_⟩,
    ⟨hsound.nodup, hsound.begin⟩, ?_⟩
  · simp only [SystemEnvironmentFacade.removeRegistration, removeUserRegistration, if_true,
      hrows.registrations]
    refine Collection.remove_map (fun x => ?_) r.registrations
    by_cases hid : id = allRegistrationIds
    · subst hid
      rfl
    · rw [if_neg (Ne.symm hid), beq_eq_false_iff_ne.mpr hid, Bool.false_or]
      exact Bson.sameValue_utf8 _ _
  · simp only [Journal.removeRegistration, JournalRows.journal,
      Collection.map_remove_key SWALUserRegistration.registerId
        (fun _ : SWALUserRegistration => rfl), beq_iff_eq, allRegistrationIds]

/-! ## What the calls read -/

theorem isJournalEmpty {w : WriteAheadLogger} (h : Represents w.persistService j) :
    w.isJournalEmpty = some j.isEmpty := by
  obtain ⟨r, hrows, _, rfl⟩ := h
  rw [isJournalEmpty_docs hrows.operations hrows.events]
  simp [Journal.isEmpty, JournalRows.journal]

/-- **One call of the logger is one call of the journal.** -/
theorem call {w : WriteAheadLogger} (h : Represents w.persistService j) (c : JournalCall) :
    ∃ w', w.call c = some w' ∧ w'.active = w.active ∧
      Represents w'.persistService (j.call w.active c) := by
  cases c with
  | openOperation rt o =>
    refine ⟨_, rfl, ?_, ?_⟩
    · unfold WriteAheadLogger.openOperation
      split
      · rfl
      · split <;> rfl
    · rw [WriteAheadLogger.openOperation, Journal.call]
      cases w.active <;> cases rt
      · exact h
      · exact h
      · simpa [SystemEnvironmentFacade.writeOperation, writeClientOperation,
          SystemEnvironmentFacade.removeOperation, removeClientOperation] using h
      · cases hbegin : o.begin
        · exact h.removeOperation o.uniqueKey
        · exact h.writeOperation hbegin
  | closeClientOperation rt key =>
    refine ⟨_, rfl, rfl, ?_⟩
    cases rt
    · exact h
    · exact h.removeOperation key
  | openProcessEvent rt e =>
    refine ⟨_, rfl, ?_, ?_⟩
    · unfold WriteAheadLogger.openProcessEvent
      split <;> rfl
    · rw [WriteAheadLogger.openProcessEvent, Journal.call]
      cases w.active <;> cases rt
      · exact h
      · exact h
      · exact h
      · exact h.writeEvent e
  | closeProcessEvent rt pid =>
    refine ⟨_, rfl, rfl, ?_⟩
    cases rt
    · exact h
    · exact h.removeEvent pid
  | openUserRegistration rt x =>
    refine ⟨_, rfl, ?_, ?_⟩
    · unfold WriteAheadLogger.openUserRegistration
      split <;> rfl
    · rw [WriteAheadLogger.openUserRegistration, Journal.call]
      cases w.active <;> cases rt
      · exact h
      · exact h
      · exact h
      · exact h.writeRegistration x
  | closeUserRegistration rt id =>
    refine ⟨_, rfl, rfl, ?_⟩
    cases rt
    · exact h
    · exact h.removeRegistration id
  | cleanJournal rtOperations rtEvents =>
    rw [WriteAheadLogger.call, WriteAheadLogger.cleanJournal, h.isJournalEmpty, Journal.call]
    cases j.isEmpty
    · refine ⟨_, rfl, rfl, ?_⟩
      cases rtOperations <;> cases rtEvents
      · exact h
      · exact h.removeEvent _
      · exact h.removeOperation _
      · exact (h.removeOperation _).removeEvent _
    · exact ⟨_, rfl, rfl, h⟩

end Represents

/-- What the logger reads is in the journal. -/
structure ReadsJournal (w : WriteAheadLogger) (j : Journal) : Prop where
  interrupted : w.getInterruptedOperations =
    some (if w.active then j.operations.map fun o => { incomingMessage := o.2 } else [])
  nonClosed : w.getNonClosedProcesses =
    some (if w.active then j.pids.filter fun p => j.pids.count p = 1 else [])
  registrations : w.getUserRegistrations = if w.active then j.registrations else []
  isEmpty : w.isJournalEmpty = some j.isEmpty

theorem Represents.readsJournal {w : WriteAheadLogger} {j : Journal}
    (h : Represents w.persistService j) : ReadsJournal w j where
  interrupted := by
    obtain ⟨r, hrows, hsound, rfl⟩ := h
    unfold WriteAheadLogger.getInterruptedOperations
    cases w.active
    · rfl
    · simp only [Bool.not_true, Bool.false_eq_true, if_false, if_true]
      rw [SystemEnvironmentFacade.readOperations, if_neg (by decide), if_pos rfl,
        hrows.operations, getNonIntegrityClientOperations_docs hsound.nodup hsound.begin,
        Option.map_some, JournalRows.journal]
      simp only [List.map_map]
      rfl
  nonClosed := by
    obtain ⟨r, hrows, hsound, rfl⟩ := h
    unfold WriteAheadLogger.getNonClosedProcesses
    cases w.active
    · rfl
    · simp only [Bool.not_true, Bool.false_eq_true, if_false, if_true]
      rw [SystemEnvironmentFacade.readEvents, if_neg (by decide), if_neg (by decide),
        hrows.events, getNonIntegrityProcessEvents_docs, Option.map_some, List.map_map,
        JournalRows.journal, List.filter_map]
      refine congrArg some (congrArg (List.map _) (List.filter_congr fun e _ => ?_))
      rw [Function.comp_apply, List.count_eq_countP, List.countP_map, beq_eq_decide]
      simp [Function.comp_def, beq_eq_decide]
  registrations := by
    obtain ⟨r, hrows, hsound, rfl⟩ := h
    unfold WriteAheadLogger.getUserRegistrations
    cases w.active
    · rfl
    · simp only [Bool.not_true, Bool.false_eq_true, if_false, if_true]
      rw [SystemEnvironmentFacade.readRegistrations, getUserRegistrations, hrows.registrations,
        Collection.find_map (p := fun _ => true) (fun _ => rfl), List.map_map]
      exact congrArg (List.map _) (List.filter_eq_self.mpr fun _ _ => rfl)
  isEmpty := h.isJournalEmpty

/--
**The logger refines the journal.**

Any calls, with any keys and any failed writes, leave tables from which the logger reads what the
journal holds. No `assert` of the readers fails.
-/
theorem logger_refines_journal (active : Bool) (calls : List JournalCall) :
    ∃ w, runAll WriteAheadLogger.call (WriteAheadLogger.inited active) calls = some w ∧
      ReadsJournal w (calls.foldl (Journal.call active) {}) := by
  obtain ⟨w, hw, _, hrepresents⟩ := runAll_simulates
    (fun (w : WriteAheadLogger) j => w.active = active ∧ Represents w.persistService j)
    (fun w j c hc => by
      obtain ⟨rfl, hrepresents⟩ := hc
      exact hrepresents.call c)
    calls (s := WriteAheadLogger.inited active) (t := {}) ⟨rfl, represents_empty⟩
  exact ⟨w, hw, hrepresents.readsJournal⟩

end MicroserviceCommon
