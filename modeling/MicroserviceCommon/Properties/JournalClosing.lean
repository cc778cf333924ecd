import MicroserviceCommon.Infra.Run
import MicroserviceCommon.System.Wal

/-!
# Closing one journal record

A close should remove the records of its key and nothing else. The value is passed on through the
facade to a function in which one value stands for all records: the empty string, or the pid 0. A
key with a NUL inside is cut on the way.

* `journal_closes_iff` — when each of the three closes removes exactly the records of its key, in
  every state of the journal
* `journal_close_empty_key` — the empty key removes an operation with another key
-/

namespace MicroserviceCommon

open Infra
open MongoFields

/-! ## Keys of journal documents -/

namespace JournalDoc

def uniqueKey (d : Doc) : String := iterUtf8 (d.get? WalClientOperations.uniqueKey)

def pid (d : Doc) : TPid := iterInt32 (d.get? WalProcessEvents.pid)

def userId (d : Doc) : String := iterUtf8 (d.get? WalUserRegistrations.userId)

end JournalDoc

/-! ## What a close should do and when it does -/

namespace WriteAheadLogger

def setService (w : WriteAheadLogger) (db : Database) : WriteAheadLogger :=
  { w with persistService := db }

/-- Exactly the client operations with the key are removed. -/
def ClosesClientOperation (rt : Bool) (w : WriteAheadLogger) (key : String) : Prop :=
  w.closeClientOperation rt key = w.setService
    { w.persistService with
      walClientOperations := Collection.remove (fun d => JournalDoc.uniqueKey d == key)
        w.persistService.walClientOperations }

/-- Exactly the process events with the pid are removed. -/
def ClosesProcessEvent (rt : Bool) (w : WriteAheadLogger) (pid : TPid) : Prop :=
  w.closeProcessEvent rt pid = w.setService
    { w.persistService with
      walProcessEvents := Collection.remove (fun d => JournalDoc.pid d == pid)
        w.persistService.walProcessEvents }

/-- Exactly the user registrations with the id are removed. -/
def ClosesUserRegistration (rt : Bool) (w : WriteAheadLogger) (id : String) : Prop :=
  w.closeUserRegistration rt id = w.setService
    { w.persistService with
      walUserRegistrations := Collection.remove (fun d => JournalDoc.userId d == id)
        w.persistService.walUserRegistrations }

end WriteAheadLogger

/-- The empty key finds empty keys only, and a key with a NUL finds nothing under its first part.
A removal that fails had nothing to remove. -/
def KeyClosable (rt : Bool) (key : String) (stored : List String) : Prop :=
  if rt then (key = "" → ∀ k ∈ stored, k = "") ∧ (¬ NulFree key → cStr key ∉ stored)
  else key ∉ stored

/-- The pid 0 finds events of the pid 0 only. A removal that fails had nothing to remove. -/
def PidClosable (rt : Bool) (pid : TPid) (stored : List TPid) : Prop :=
  if rt then pid = 0 → ∀ p ∈ stored, p = 0 else pid ∉ stored

/-! ## Tables with a text key -/

/-- The removal of a key from a table, where one key means every record. -/
def removeByKey (field all : String) (rt : Bool) (t : List Doc) (key : String) : List Doc :=
  let query := if key = all then Query.all else Query.eq field (.utf8 (cStr key))
  if rt then Collection.remove query t else t

/-- A removal by a query does what one by the key does: document by document when it succeeds, and
only if nothing has the key when it fails. -/
theorem remove_eq_remove_iff {α κ : Type*} [DecidableEq κ] (rt : Bool) (q : α → Bool) (key : α → κ)
    (k : κ) (c : List α) :
    (if rt then Collection.remove q c else c) = Collection.remove (fun d => key d == k) c ↔
      if rt then ∀ d ∈ c, q d = (key d == k) else k ∉ c.map key := by
  cases rt with
  | true =>
    rw [if_pos rfl, if_pos rfl]
    exact Collection.remove_inj
  | false =>
    rw [if_neg Bool.false_ne_true, if_neg Bool.false_ne_true, eq_comm, Collection.remove,
      List.filter_eq_self, List.mem_map]
    constructor
    · rintro hno ⟨d, hd, rfl⟩
      have hd := hno d hd
      rw [beq_self_eq_true] at hd
      cases hd
    · intro hno d hd
      rw [Bool.not_eq_true', beq_eq_false_iff_ne]
      exact fun he => hno ⟨d, hd, he⟩

/-- The query of a removal finds a stored key by mistake, or because it is the key. -/
theorem matches_eq_iff {key k : String} (hk : NulFree k) :
    (if key = "" then true else k == cStr key) = (k == key) ↔
      (key = "" → k = "") ∧ (¬ NulFree key → k ≠ cStr key) := by
  by_cases hempty : key = ""
  · have hnul : NulFree key := by
      rw [hempty]
      decide
    rw [if_pos hempty, eq_comm, beq_iff_eq, hempty]
    exact ⟨fun h => ⟨fun _ => h, fun hno => absurd (hempty ▸ hnul) hno⟩, fun h => h.1 rfl⟩
  · rw [if_neg hempty]
    by_cases hnul : NulFree key
    · rw [cStr_of_nulFree hnul]
      exact iff_of_true rfl ⟨fun he => absurd he hempty, fun hno => absurd hnul hno⟩
    · have hne : k ≠ key := fun he => hnul (he ▸ hk)
      rw [beq_eq_false_iff_ne.mpr hne, beq_eq_false_iff_ne]
      exact ⟨fun h => ⟨fun he => absurd he hempty, fun _ => h⟩, fun h => h.2 hnul⟩

section KeyedTable

variable {ρ : Type} {enc : ρ → Doc} {field : String} {key : ρ → String}

/-- **When a removal by key removes exactly the records of the key.** -/
theorem removeByKey_iff (hget : ∀ r, (enc r).get? field = some (.utf8 (key r)))
    (hnul : ∀ r, NulFree (key r)) (rt : Bool) (rows : List ρ) (k : String) :
    removeByKey field "" rt (rows.map enc) k =
        Collection.remove (fun d => iterUtf8 (d.get? field) == k) (rows.map enc) ↔
      KeyClosable rt k ((rows.map enc).map fun d => iterUtf8 (d.get? field)) := by
  have hkeys : (rows.map enc).map (fun d => iterUtf8 (d.get? field)) = rows.map key := by
    rw [List.map_map]
    exact List.map_congr_left fun r _ => congrArg iterUtf8 (hget r)
  rw [removeByKey, remove_eq_remove_iff, KeyClosable, hkeys]
  cases rt with
  | false => exact Iff.rfl
  | true =>
    rw [if_pos rfl, if_pos rfl]
    have hread : ∀ r, (iterUtf8 ((enc r).get? field) == k) = (key r == k) :=
      fun r => by rw [hget]; rfl
    have hquery : ∀ r, (if k = "" then Query.all else Query.eq field (.utf8 (cStr k))) (enc r) =
        if k = "" then true else key r == cStr k := by
      intro r
      split
      · rfl
      · rw [Query.eq, hget, Option.any_some, Bson.sameValue_utf8]
    constructor
    · intro h
      have hrow : ∀ r ∈ rows, (k = "" → key r = "") ∧ (¬ NulFree k → key r ≠ cStr k) := by
        intro r hr
        have heq := h _ (List.mem_map_of_mem hr)
        rw [hquery, hread] at heq
        exact (matches_eq_iff (hnul r)).mp heq
      refine ⟨fun he x hx => ?_, fun hno hmem => ?_⟩
      · obtain ⟨r, hr, rfl⟩ := List.mem_map.mp hx
        exact (hrow r hr).1 he
      · obtain ⟨r, hr, he⟩ := List.mem_map.mp hmem
        exact (hrow r hr).2 hno he
    · rintro ⟨hempty, hcut⟩ d hd
      obtain ⟨r, hr, rfl⟩ := List.mem_map.mp hd
      rw [hquery, hread]
      refine (matches_eq_iff (hnul r)).mpr ⟨fun he => ?_, fun hno he => ?_⟩
      · exact hempty he _ (List.mem_map_of_mem hr)
      · exact hcut hno (he ▸ List.mem_map_of_mem hr)

end KeyedTable

/-! ## The three tables -/

/-- The documents that the journal writes. -/
structure JournalTyped (w : WriteAheadLogger) : Prop where
  operations : ∃ rows : List SWALClientOperation,
    w.persistService.walClientOperations = rows.map clientOperationDoc
  events : ∃ rows : List SWALProcessEvent,
    w.persistService.walProcessEvents = rows.map (processEventDoc · true)
  registrations : ∃ rows : List SWALUserRegistration,
    w.persistService.walUserRegistrations = rows.map userRegistrationDoc

variable {w : WriteAheadLogger} {rt : Bool}

theorem JournalTyped.closesClientOperation_iff (h : JournalTyped w) (key : String) :
    w.ClosesClientOperation rt key ↔
      KeyClosable rt key (w.persistService.walClientOperations.map JournalDoc.uniqueKey) := by
  obtain ⟨rows, hrows⟩ := h.operations
  have htable : w.ClosesClientOperation rt key ↔
      removeClientOperation rt w.persistService.walClientOperations key =
        Collection.remove (fun d => JournalDoc.uniqueKey d == key)
          w.persistService.walClientOperations :=
    ⟨fun he => congrArg (fun w : WriteAheadLogger => w.persistService.walClientOperations) he,
      fun he => congrArg
        (fun t => w.setService { w.persistService with walClientOperations := t }) he⟩
  rw [htable, hrows]
  exact removeByKey_iff (fun _ => rfl) (fun _ => nulFree_cStr _) rt rows key

theorem removeUserRegistration_eq (rt : Bool) (t : List Doc) (id : String) :
    removeUserRegistration rt t id = removeByKey WalUserRegistrations.userId "" rt t id := by
  unfold removeUserRegistration removeByKey allRegistrationIds
  simp only [eq_comm]

theorem JournalTyped.closesUserRegistration_iff (h : JournalTyped w) (id : String) :
    w.ClosesUserRegistration rt id ↔
      KeyClosable rt id (w.persistService.walUserRegistrations.map JournalDoc.userId) := by
  obtain ⟨rows, hrows⟩ := h.registrations
  have htable : w.ClosesUserRegistration rt id ↔
      removeUserRegistration rt w.persistService.walUserRegistrations id =
        Collection.remove (fun d => JournalDoc.userId d == id)
          w.persistService.walUserRegistrations :=
    ⟨fun he => congrArg (fun w : WriteAheadLogger => w.persistService.walUserRegistrations) he,
      fun he => congrArg
        (fun t => w.setService { w.persistService with walUserRegistrations := t }) he⟩
  rw [htable, hrows, removeUserRegistration_eq]
  exact removeByKey_iff (fun _ => rfl) (fun _ => nulFree_cStr _) rt rows id

theorem JournalTyped.closesProcessEvent_iff (h : JournalTyped w) (pid : TPid) :
    w.ClosesProcessEvent rt pid ↔
      PidClosable rt pid (w.persistService.walProcessEvents.map JournalDoc.pid) := by
  obtain ⟨rows, hrows⟩ := h.events
  have htable : w.ClosesProcessEvent rt pid ↔
      removeProcessEvent rt w.persistService.walProcessEvents pid =
        Collection.remove (fun d => JournalDoc.pid d == pid) w.persistService.walProcessEvents :=
    ⟨fun he => congrArg (fun w : WriteAheadLogger => w.persistService.walProcessEvents) he,
      fun he => congrArg (fun t => w.setService { w.persistService with walProcessEvents := t }) he⟩
  have hread : ∀ d ∈ w.persistService.walProcessEvents, ∀ p,
      Query.eq WalProcessEvents.pid (.int32 p) d = (JournalDoc.pid d == p) := by
    intro d hd p
    rw [hrows] at hd
    obtain ⟨e, _, rfl⟩ := List.mem_map.mp hd
    exact query_pid_doc e true p
  rw [htable, removeProcessEvent, remove_eq_remove_iff, PidClosable]
  cases rt with
  | false => exact Iff.rfl
  | true =>
    rw [if_pos rfl, if_pos rfl]
    by_cases hpid : pid = 0
    · rw [if_pos (show pid = allProcessEvents from hpid)]
      constructor
      · intro hall _ p hp
        obtain ⟨d, hd, rfl⟩ := List.mem_map.mp hp
        rw [← hpid]
        exact eq_of_beq (hall d hd).symm
      · intro hall d hd
        have hzero := hall hpid _ (List.mem_map_of_mem hd)
        rw [hzero, hpid]
        rfl
    · rw [if_neg (show ¬ pid = allProcessEvents from hpid)]
      exact iff_of_true (fun d hd => hread d hd pid) fun he => absurd he hpid

/-! ## Runs of the journal -/

inductive JournalCall where
  | openOperation (rt : Bool) (operation : SWALClientOperation)
  | closeClientOperation (rt : Bool) (uniqueKey : String)
  | openProcessEvent (rt : Bool) (event : SWALProcessEvent)
  | closeProcessEvent (rt : Bool) (pid : TPid)
  | openUserRegistration (rt : Bool) (registration : SWALUserRegistration)
  | closeUserRegistration (rt : Bool) (id : String)
  | cleanJournal (rtOperations rtEvents : Bool)
  deriving DecidableEq, Repr

namespace WriteAheadLogger

/-- A logger over an empty journal. -/
def inited (active : Bool) : WriteAheadLogger where
  active := active
  persistService := {}

def call (w : WriteAheadLogger) : JournalCall → Option WriteAheadLogger
  | .openOperation rt operation => some (w.openOperation rt operation)
  | .closeClientOperation rt uniqueKey => some (w.closeClientOperation rt uniqueKey)
  | .openProcessEvent rt event => some (w.openProcessEvent rt event)
  | .closeProcessEvent rt pid => some (w.closeProcessEvent rt pid)
  | .openUserRegistration rt registration => some (w.openUserRegistration rt registration).1
  | .closeUserRegistration rt id => some (w.closeUserRegistration rt id)
  | .cleanJournal rtOperations rtEvents => w.cleanJournal rtOperations rtEvents

end WriteAheadLogger

namespace JournalTyped

theorem inited (active : Bool) : JournalTyped (WriteAheadLogger.inited active) :=
  ⟨⟨[], rfl⟩, ⟨[], rfl⟩, ⟨[], rfl⟩⟩

theorem removeOperation (h : JournalTyped w) (rt : Bool) (key : String) :
    JournalTyped (w.setService
      (SystemEnvironmentFacade.removeOperation rt w.persistService key)) := by
  refine ⟨?_, h.events, h.registrations⟩
  exact Collection.exists_map_of_call (fun rt c => removeClientOperation rt c key) h.operations
    (fun _ => rfl) (fun rows => ⟨_, removeClientOperation_docs rows key⟩) rt

theorem removeEvent (h : JournalTyped w) (rt : Bool) (pid : TPid) :
    JournalTyped (w.setService (SystemEnvironmentFacade.removeEvent rt w.persistService pid)) := by
  refine ⟨h.operations, ?_, h.registrations⟩
  exact Collection.exists_map_of_call (fun rt c => removeProcessEvent rt c pid) h.events
    (fun _ => rfl) (fun rows => ⟨_, removeProcessEvent_docs rows pid⟩) rt

theorem removeRegistration (h : JournalTyped w) (rt : Bool) (id : String) :
    JournalTyped (w.setService
      (SystemEnvironmentFacade.removeRegistration rt w.persistService id)) := by
  refine ⟨h.operations, h.events, ?_⟩
  exact Collection.exists_map_of_call (fun rt c => removeUserRegistration rt c id) h.registrations
    (fun _ => rfl) (fun rows => ⟨_, Collection.remove_map (fun _ => rfl) rows⟩) rt

theorem openOperation (h : JournalTyped w) (rt : Bool) (operation : SWALClientOperation) :
    JournalTyped (w.openOperation rt operation) := by
  unfold WriteAheadLogger.openOperation
  split
  · exact h
  split
  · refine ⟨?_, h.events, h.registrations⟩
    exact Collection.exists_map_of_call (fun rt c => (writeClientOperation rt c operation).1)
      h.operations (fun _ => rfl)
      (fun rows => ⟨_, congrArg Prod.fst (writeClientOperation_docs rows operation)⟩) rt
  · exact h.removeOperation rt operation.uniqueKey

theorem openProcessEvent (h : JournalTyped w) (rt : Bool) (event : SWALProcessEvent) :
    JournalTyped (w.openProcessEvent rt event) := by
  unfold WriteAheadLogger.openProcessEvent
  split
  · exact h
  · refine ⟨h.operations, ?_, h.registrations⟩
    exact Collection.exists_map_of_call (fun rt c => (writeProcessEvent rt c event true).1)
      h.events (fun _ => rfl)
      (fun rows => ⟨_, congrArg Prod.fst (writeProcessEvent_docs rows event)⟩) rt

theorem openUserRegistration (h : JournalTyped w) (rt : Bool)
    (registration : SWALUserRegistration) :
    JournalTyped (w.openUserRegistration rt registration).1 := by
  unfold WriteAheadLogger.openUserRegistration
  split
  · exact h
  · refine ⟨h.operations, h.events, ?_⟩
    exact Collection.exists_map_of_call (fun rt c => (writeUserRegistration rt c registration).1)
      h.registrations (fun _ => rfl)
      (fun rows => ⟨rows ++ [registration], by rw [List.map_append]; rfl⟩) rt

theorem cleanJournal {w' : WriteAheadLogger} {rtOperations rtEvents : Bool} (h : JournalTyped w)
    (hw : w.cleanJournal rtOperations rtEvents = some w') : JournalTyped w' := by
  unfold WriteAheadLogger.cleanJournal at hw
  obtain ⟨empty, _, hw⟩ := Option.bind_eq_some_iff.mp hw
  split at hw
  · cases hw
    exact (h.removeOperation rtOperations _).removeEvent rtEvents _
  · cases hw
    exact h

theorem call {w' : WriteAheadLogger} {c : JournalCall} (h : JournalTyped w)
    (hw : w.call c = some w') : JournalTyped w' := by
  cases c with
  | openOperation rt operation => cases hw; exact h.openOperation rt operation
  | closeClientOperation rt key => cases hw; exact h.removeOperation rt key
  | openProcessEvent rt event => cases hw; exact h.openProcessEvent rt event
  | closeProcessEvent rt pid => cases hw; exact h.removeEvent rt pid
  | openUserRegistration rt registration => cases hw; exact h.openUserRegistration rt registration
  | closeUserRegistration rt id => cases hw; exact h.removeRegistration rt id
  | cleanJournal rtOperations rtEvents => exact h.cleanJournal hw

end JournalTyped

/-- **In every state of the journal, each close removes exactly the records of its key when the
value is not taken for all records or for a part of itself, and only then.** -/
theorem journal_closes_iff (active : Bool) (calls : List JournalCall) :
    AlwaysState WriteAheadLogger.call (fun w => ∀ rt,
      (∀ key, w.ClosesClientOperation rt key ↔
        KeyClosable rt key (w.persistService.walClientOperations.map JournalDoc.uniqueKey)) ∧
      (∀ pid, w.ClosesProcessEvent rt pid ↔
        PidClosable rt pid (w.persistService.walProcessEvents.map JournalDoc.pid)) ∧
      ∀ id, w.ClosesUserRegistration rt id ↔
        KeyClosable rt id (w.persistService.walUserRegistrations.map JournalDoc.userId))
      (WriteAheadLogger.inited active) calls := by
  have htyped : AlwaysState WriteAheadLogger.call JournalTyped
      (WriteAheadLogger.inited active) calls :=
    alwaysState_of_alwaysStep _ (fun _ _ _ h _ hw => h.call hw) calls _
      (JournalTyped.inited active) alwaysStep_trivial
  exact htyped.mono fun w h rt => ⟨h.closesClientOperation_iff, h.closesProcessEvent_iff,
    h.closesUserRegistration_iff⟩

/-- One operation is open under the key `a`. Closing the empty key removes it. -/
theorem journal_close_empty_key :
    ∃ w, runAll WriteAheadLogger.call (WriteAheadLogger.inited true)
        [.openOperation true ⟨"a", true, "start"⟩] = some w ∧
      ¬ w.ClosesClientOperation true "" := by
  refine ⟨_, rfl, fun h => ?_⟩
  have hcount : (Collection.remove (fun d => JournalDoc.uniqueKey d == "")
      [clientOperationDoc ⟨"a", true, "start"⟩]).length = 0 :=
    congrArg (fun w : WriteAheadLogger => w.persistService.walClientOperations.length) h.symm
  exact absurd hcount (by decide)

end MicroserviceCommon
