import Mathlib.Data.List.Induction
import MicroserviceCommon.System.Wal

/-!
# The journal of child processes

`openProcessEvent` inserts a document at every call and recovery reports the pids of single
documents.
So the journal is right about a pid as long as it is not recorded twice without a close in between.

* `nonClosedProcesses_iff` — the reported pids are those whose last operation was an open,
  exactly when every pid was opened at most once since its last close
* `nonClosedProcesses_reopened` — a pid that was reused is not reported
-/

namespace MicroserviceCommon

open Infra

/-! ## Histories of the journal -/

inductive ProcessOp where
  | openEvent (event : SWALProcessEvent)
  | closeEvent (pid : TPid)
  deriving DecidableEq, Repr

namespace ProcessOp

def pid : ProcessOp → TPid
  | openEvent e => e.pid
  | closeEvent p => p

/-- The call on the logger, the database operation succeeding. -/
def exec (w : WriteAheadLogger) : ProcessOp → WriteAheadLogger
  | openEvent e => w.openProcessEvent true e
  | closeEvent p => w.closeProcessEvent true p

def execAll (w : WriteAheadLogger) (ops : List ProcessOp) : WriteAheadLogger := ops.foldl exec w

/-- The last call that names the pid. -/
def lastOp (ops : List ProcessOp) (p : TPid) : Option ProcessOp :=
  (ops.filter (·.pid == p)).getLast?

/-- How a call changes the number of opens of `p` since its last close. -/
def countOpen (p : TPid) (n : Nat) : ProcessOp → Nat
  | openEvent e => if e.pid = p then n + 1 else n
  | closeEvent q => if q = allProcessEvents ∨ q = p then 0 else n

def opensSinceClose (ops : List ProcessOp) (p : TPid) : Nat := ops.foldl (countOpen p) 0

theorem opensSinceClose_concat (ops : List ProcessOp) (op : ProcessOp) (p : TPid) :
    opensSinceClose (ops ++ [op]) p = countOpen p (opensSinceClose ops p) op :=
  List.foldl_concat _ _ _ _

/-- A call on another pid, not one that closes all, leaves the count. -/
theorem countOpen_of_ne {op : ProcessOp} {p : TPid} (hall : op.pid ≠ allProcessEvents)
    (h : op.pid ≠ p) (n : Nat) : countOpen p n op = n := by
  cases op with
  | openEvent e => exact if_neg h
  | closeEvent q => exact if_neg fun hc => hc.elim hall h

/-- The count is positive exactly when the last call on the pid was an open. -/
theorem opensSinceClose_pos_iff {ops : List ProcessOp}
    (hops : ∀ op ∈ ops, op.pid ≠ allProcessEvents) (p : TPid) :
    0 < opensSinceClose ops p ↔ ∃ e, lastOp ops p = some (openEvent e) := by
  induction ops using List.reverseRecOn with
  | nil => simp [opensSinceClose, lastOp]
  | append_singleton ops op ih =>
    rw [opensSinceClose_concat, lastOp, List.filter_append, List.filter_singleton]
    by_cases h : op.pid = p
    · rw [h, beq_self_eq_true, cond_true, List.getLast?_concat]
      cases op with
      | openEvent e => simp [countOpen, show e.pid = p from h]
      | closeEvent q => simp [countOpen, show q = p from h]
    · rw [beq_eq_false_iff_ne.mpr h, cond_false, List.append_nil,
        countOpen_of_ne (hops op (by simp)) h]
      exact ih fun o ho => hops o (by simp [ho])

end ProcessOp

open ProcessOp

/-- A logger that is active on an empty database. -/
def activeLogger : WriteAheadLogger where
  active := true
  persistService := {}

/-! ## What the journal holds -/

/-- The events that are recorded after one more call. -/
def recordOp (events : List SWALProcessEvent) : ProcessOp → List SWALProcessEvent
  | .openEvent e => events ++ [e]
  | .closeEvent p => Collection.remove (fun e => p == allProcessEvents || e.pid == p) events

/-- An active logger whose process table consists of these events. -/
structure RecordsEvents (w : WriteAheadLogger) (events : List SWALProcessEvent) : Prop where
  active : w.active = true
  docs : w.persistService.walProcessEvents = events.map (processEventDoc · true)

namespace RecordsEvents

variable {w : WriteAheadLogger} {events : List SWALProcessEvent}

theorem activeLogger : RecordsEvents activeLogger [] := ⟨rfl, rfl⟩

theorem exec (h : RecordsEvents w events) (op : ProcessOp) :
    RecordsEvents (op.exec w) (recordOp events op) := by
  cases op with
  | openEvent e =>
    constructor
    · simp [ProcessOp.exec, WriteAheadLogger.openProcessEvent, h.active]
    · simp only [ProcessOp.exec, WriteAheadLogger.openProcessEvent, h.active, Bool.not_true,
        Bool.false_eq_true, if_false, SystemEnvironmentFacade.writeEvent, h.docs,
        writeProcessEvent_docs]
      rfl
  | closeEvent p =>
    constructor
    · exact h.active
    · simp only [ProcessOp.exec, WriteAheadLogger.closeProcessEvent,
        SystemEnvironmentFacade.removeEvent, h.docs, removeProcessEvent_docs]
      rfl

theorem execAll (h : RecordsEvents w events) (ops : List ProcessOp) :
    RecordsEvents (ProcessOp.execAll w ops) (ops.foldl recordOp events) := by
  induction ops generalizing w events with
  | nil => exact h
  | cons op ops ih => exact ih (h.exec op)

/-- **The assertion on `launched` always holds, and the pids of single events are reported.** -/
theorem getNonClosedProcesses (h : RecordsEvents w events) :
    w.getNonClosedProcesses = some ((singleEvents events).map (·.pid)) := by
  rw [WriteAheadLogger.getNonClosedProcesses, if_neg (by simp [h.active]),
    SystemEnvironmentFacade.readEvents, if_neg (by decide), if_neg (by decide), h.docs,
    getNonIntegrityProcessEvents_docs, Option.map_some, List.map_map]
  rfl

end RecordsEvents

/-- How many recorded events carry a pid. -/
def pidCount (events : List SWALProcessEvent) (p : TPid) : Nat :=
  events.countP fun e => e.pid = p

/-- **One call changes the number of documents of a pid as it changes the number of its opens.** -/
theorem pidCount_recordOp (events : List SWALProcessEvent) (op : ProcessOp) (p : TPid) :
    pidCount (recordOp events op) p = countOpen p (pidCount events p) op := by
  cases op with
  | openEvent e =>
    rw [recordOp, pidCount, List.countP_append, List.countP_singleton, countOpen]
    by_cases h : e.pid = p <;> simp [h, pidCount]
  | closeEvent q =>
    simp only [recordOp, Collection.remove, pidCount, countOpen, List.countP_filter]
    split
    · next h =>
      rw [List.countP_eq_zero]
      intro e _
      rcases h with h | h
      · simp [h]
      · simp +contextual [h]
    · next h =>
      rw [not_or] at h
      refine List.countP_congr fun e _ => ?_
      simp only [Bool.and_eq_true, decide_eq_true_eq, Bool.not_eq_true', Bool.or_eq_false_iff,
        beq_eq_false_iff_ne, and_iff_left_iff_imp]
      exact fun he => ⟨h.1, fun hc => h.2 (hc.symm.trans he)⟩

theorem pidCount_eq_opensSinceClose (ops : List ProcessOp) (p : TPid) :
    pidCount (ops.foldl recordOp []) p = opensSinceClose ops p := by
  induction ops using List.reverseRecOn with
  | nil => rfl
  | append_singleton ops op ih =>
    rw [List.foldl_concat, pidCount_recordOp, opensSinceClose_concat, ih]

/-! ## The reported pids -/

/-- `getNonClosedProcesses` returns the pids whose last operation was an open, each once. -/
def ReportsOpenPids (ops : List ProcessOp) : Prop :=
  ∃ pids, (execAll activeLogger ops).getNonClosedProcesses = some pids ∧ pids.Nodup ∧
    ∀ p, p ∈ pids ↔ ∃ e, lastOp ops p = some (openEvent e)

/--
**The report is right exactly when no pid was opened twice since its last close.**

Recovery never fails: the assertion on `launched` holds for every history.
-/
theorem nonClosedProcesses_iff (ops : List ProcessOp)
    (hops : ∀ op ∈ ops, op.pid ≠ allProcessEvents) :
    ReportsOpenPids ops ↔ ∀ p, opensSinceClose ops p ≤ 1 := by
  have hread := (RecordsEvents.activeLogger.execAll ops).getNonClosedProcesses
  have hmem : ∀ p, p ∈ (singleEvents (ops.foldl recordOp [])).map (·.pid) ↔
      opensSinceClose ops p = 1 := by
    intro p
    rw [mem_pid_singleEvents, ← pidCount_eq_opensSinceClose]
    rfl
  constructor
  · rintro ⟨pids, hpids, _, hiff⟩ p
    rw [hread] at hpids
    cases hpids
    by_contra hgt
    -- the last call on `p` is an open, so the report has to contain it
    have hpos : 0 < opensSinceClose ops p := by omega
    have hone := (hmem p).mp ((hiff p).mpr ((opensSinceClose_pos_iff hops p).mp hpos))
    omega
  · intro hle
    refine ⟨_, hread, pid_singleEvents_nodup _, fun p => ?_⟩
    rw [hmem, ← opensSinceClose_pos_iff hops]
    have := hle p
    omega

/-- A child is recorded, closed and another one recorded: both counts stay within the bound. -/
theorem nonClosedProcesses_iff_closed :
    ReportsOpenPids [.openEvent ⟨7, "a", []⟩, .closeEvent 7, .openEvent ⟨7, "b", []⟩] ↔
      ∀ p, opensSinceClose
        [.openEvent ⟨7, "a", []⟩, .closeEvent 7, .openEvent ⟨7, "b", []⟩] p ≤ 1 :=
  nonClosedProcesses_iff _ (by decide)

/-- Pid 7 dies unrecorded and the system reuses it. The second record hides both. -/
theorem nonClosedProcesses_reopened :
    ¬ ReportsOpenPids [.openEvent ⟨7, "a", []⟩, .openEvent ⟨7, "b", []⟩] := by
  rintro ⟨pids, hread, _, hiff⟩
  have hnone : (execAll activeLogger
      [.openEvent ⟨7, "a", []⟩, .openEvent ⟨7, "b", []⟩]).getNonClosedProcesses = some [] := by
    decide
  rw [hnone] at hread
  cases hread
  have h := (hiff 7).mpr ⟨⟨7, "b", []⟩, by decide⟩
  exact List.not_mem_nil h

end MicroserviceCommon
