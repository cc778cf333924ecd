import MicroserviceCommon.Infra.Bson
import MicroserviceCommon.Common.Types
import MicroserviceCommon.Common.Vars

/-!
# Journal tables

The functions of `DatabaseManagerBase` on `wal_client_operations`, `wal_process_events` and
`wal_user_registrations`.

A client operation is one document per key, by an upsert.
A process event and a user registration are one document per call, by an insert.
Recovery asks for the keys and the pids that occur in exactly one document.

A reader returns `none` where an `assert` of the source fails.
-/

namespace MicroserviceCommon

open Infra
open MongoFields

/-! ## Client operations -/

def allClientOperations : String := ""

/-- The `$set` of `writeClientOperation`. -/
def clientOperationFields (operation : SWALClientOperation) : Doc :=
  [(WalClientOperations.begin, .bool operation.begin),
   (WalClientOperations.uniqueKey, .utf8 (cStr operation.uniqueKey)),
   (WalClientOperations.fullText, .utf8 (cStr operation.commandFullText))]

def writeClientOperation (rt : Bool) (t : List Doc) (operation : SWALClientOperation) :
    List Doc × Bool :=
  if rt then
    (upsertBy WalClientOperations.uniqueKey (.utf8 (cStr operation.uniqueKey))
      (clientOperationFields operation) t, true)
  else (t, false)

def readClientOperation (doc : Doc) : SWALClientOperation where
  begin := iterBool (doc.get? WalClientOperations.begin)
  uniqueKey := iterUtf8 (doc.get? WalClientOperations.uniqueKey)
  commandFullText := iterUtf8 (doc.get? WalClientOperations.fullText)

def getClientOperations (t : List Doc) : List SWALClientOperation :=
  (Collection.find Query.all t).map readClientOperation

/-- Two queries: the keys counted once, then the documents whose key is `$in` the list. -/
def getNonIntegrityClientOperations (t : List Doc) : Option (List SWALClientOperation) :=
  let singleUniqueKeys := (singleValues WalClientOperations.uniqueKey t).map iterUtf8
  let query := Query.isIn WalClientOperations.uniqueKey
    (singleUniqueKeys.map fun key => .utf8 (cStr key))
  (Collection.find query t).mapM fun doc =>
    let oper := readClientOperation doc
    if oper.begin then some oper else none

def removeClientOperation (rt : Bool) (t : List Doc) (uniqueKey : String) : List Doc :=
  let query :=
    if uniqueKey = allClientOperations then Query.all
    else Query.eq WalClientOperations.uniqueKey (.utf8 (cStr uniqueKey))
  if rt then Collection.remove query t else t

/-! ## Process events -/

def allProcessEvents : TPid := 0

def processEventDoc (event : SWALProcessEvent) (launch : Bool) : Doc :=
  [(WalProcessEvents.pid, .int32 event.pid),
   (WalProcessEvents.launched, .bool launch),
   (WalProcessEvents.programName, .utf8 (cStr event.programName)),
   (WalProcessEvents.programArgs, .utf8Array (event.programArgs.map cStr))]

def writeProcessEvent (rt : Bool) (t : List Doc) (event : SWALProcessEvent) (launch : Bool) :
    List Doc × Bool :=
  if rt then (Collection.insert t (processEventDoc event launch), true) else (t, false)

def readProcessEvent (doc : Doc) : SWALProcessEvent where
  pid := iterInt32 (doc.get? WalProcessEvents.pid)
  programName := iterUtf8 (doc.get? WalProcessEvents.programName)
  programArgs := iterUtf8Array (doc.get? WalProcessEvents.programArgs)

def getProcessEvents (t : List Doc) (pid : TPid) : List SWALProcessEvent :=
  let query :=
    if pid = allProcessEvents then Query.all else Query.eq WalProcessEvents.pid (.int32 pid)
  (Collection.find query t).map readProcessEvent

/-- Two queries: the pids counted once, then the documents whose pid is `$in` the list. -/
def getNonIntegrityProcessEvents (t : List Doc) : Option (List SWALProcessEvent) :=
  let singleUniqueKeys := (singleValues WalProcessEvents.pid t).map iterInt32
  let query := Query.isIn WalProcessEvents.pid (singleUniqueKeys.map .int32)
  (Collection.find query t).mapM fun doc =>
    let launched := iterBool (doc.get? WalProcessEvents.launched)
    if launched then some (readProcessEvent doc) else none

def removeProcessEvent (rt : Bool) (t : List Doc) (pid : TPid) : List Doc :=
  let query :=
    if pid = allProcessEvents then Query.all else Query.eq WalProcessEvents.pid (.int32 pid)
  if rt then Collection.remove query t else t

/-! ## User registrations -/

def allRegistrationIds : String := ""

def userRegistrationDoc (registration : SWALUserRegistration) : Doc :=
  [(WalUserRegistrations.userId, .utf8 (cStr registration.registerId)),
   (WalUserRegistrations.userIp, .utf8 (cStr registration.userIp)),
   (WalUserRegistrations.userPid, .int32 registration.userPid),
   (WalUserRegistrations.registeredAtTimeMillisec, .utf8 (cStr registration.registeredAtDateTime))]

def writeUserRegistration (rt : Bool) (t : List Doc) (registration : SWALUserRegistration) :
    List Doc × Bool :=
  if rt then (Collection.insert t (userRegistrationDoc registration), true) else (t, false)

def readUserRegistration (doc : Doc) : SWALUserRegistration where
  registerId := iterUtf8 (doc.get? WalUserRegistrations.userId)
  userIp := iterUtf8 (doc.get? WalUserRegistrations.userIp)
  userPid := iterInt32 (doc.get? WalUserRegistrations.userPid)
  registeredAtDateTime := iterUtf8 (doc.get? WalUserRegistrations.registeredAtTimeMillisec)

def getUserRegistrations (t : List Doc) : List SWALUserRegistration :=
  (Collection.find Query.all t).map readUserRegistration

def removeUserRegistration (rt : Bool) (t : List Doc) (id : String) : List Doc :=
  let query :=
    if allRegistrationIds = id then Query.all
    else Query.eq WalUserRegistrations.userId (.utf8 (cStr id))
  if rt then Collection.remove query t else t

/-! ## The documents of the tables -/

/-- A stored client operation. The key stands first: it comes from the query of the upsert. -/
def clientOperationDoc (operation : SWALClientOperation) : Doc :=
  [(WalClientOperations.uniqueKey, .utf8 (cStr operation.uniqueKey)),
   (WalClientOperations.begin, .bool operation.begin),
   (WalClientOperations.fullText, .utf8 (cStr operation.commandFullText))]

/-- An operation as it is stored, cut at the first NUL of each string. -/
def SWALClientOperation.stored (o : SWALClientOperation) : SWALClientOperation :=
  { o with uniqueKey := cStr o.uniqueKey, commandFullText := cStr o.commandFullText }

def SWALProcessEvent.stored (e : SWALProcessEvent) : SWALProcessEvent :=
  { e with programName := cStr e.programName, programArgs := e.programArgs.map cStr }

@[simp] theorem query_uniqueKey_doc (o : SWALClientOperation) (key : String) :
    Query.eq WalClientOperations.uniqueKey (.utf8 key) (clientOperationDoc o) =
      (cStr o.uniqueKey == key) :=
  Bson.sameValue_utf8 _ _

@[simp] theorem query_pid_doc (e : SWALProcessEvent) (launch : Bool) (pid : TPid) :
    Query.eq WalProcessEvents.pid (.int32 pid) (processEventDoc e launch) = (e.pid == pid) :=
  Bson.sameValue_int32 _ _

/-- The upsert overwrites the operation of its key. -/
theorem writeClientOperation_docs (ops : List SWALClientOperation) (o : SWALClientOperation) :
    writeClientOperation true (ops.map clientOperationDoc) o =
      ((Collection.put (fun o => cStr o.uniqueKey) o ops).map clientOperationDoc, true) := by
  rw [writeClientOperation, if_pos rfl,
    upsertBy_map (fun o : SWALClientOperation => cStr o.uniqueKey) o
      (fun r => query_uniqueKey_doc r _)]
  · intro r
    simp [Doc.set, Doc.setField, clientOperationFields, clientOperationDoc,
      WalClientOperations.begin, WalClientOperations.uniqueKey, WalClientOperations.fullText]
  · simp [Doc.set, Doc.setField, clientOperationFields, clientOperationDoc,
      WalClientOperations.begin, WalClientOperations.uniqueKey, WalClientOperations.fullText]

theorem removeClientOperation_docs (ops : List SWALClientOperation) (key : String) :
    removeClientOperation true (ops.map clientOperationDoc) key =
      (Collection.remove (fun o => key == allClientOperations || cStr o.uniqueKey == cStr key)
        ops).map clientOperationDoc := by
  rw [removeClientOperation, if_pos rfl]
  refine Collection.remove_map (fun o => ?_) ops
  split
  · next h => simp [h, Query.all]
  · next h => rw [query_uniqueKey_doc, beq_eq_false_iff_ne.mpr h, Bool.false_or]

theorem getClientOperations_docs (ops : List SWALClientOperation) :
    getClientOperations (ops.map clientOperationDoc) = ops.map SWALClientOperation.stored := by
  rw [getClientOperations, Collection.find_map (p := fun _ => true) (fun _ => rfl), List.map_map]
  exact congrArg (List.map _) (List.filter_eq_self.mpr fun _ _ => rfl)

theorem writeProcessEvent_docs (events : List SWALProcessEvent) (e : SWALProcessEvent) :
    writeProcessEvent true (events.map (processEventDoc · true)) e true =
      ((events ++ [e]).map (processEventDoc · true), true) := by
  rw [writeProcessEvent, if_pos rfl, Collection.insert, List.map_append]
  rfl

theorem removeProcessEvent_docs (events : List SWALProcessEvent) (pid : TPid) :
    removeProcessEvent true (events.map (processEventDoc · true)) pid =
      (Collection.remove (fun e => pid == allProcessEvents || e.pid == pid) events).map
        (processEventDoc · true) := by
  rw [removeProcessEvent, if_pos rfl]
  refine Collection.remove_map (fun e => ?_) events
  split
  · next h => simp [h, Query.all]
  · next h => rw [query_pid_doc, beq_eq_false_iff_ne.mpr h, Bool.false_or]

/-! ## What recovery reads -/

/-- The rows whose pid stands in one row only. -/
def singleEvents (events : List SWALProcessEvent) : List SWALProcessEvent :=
  events.filter fun e => events.countP (fun s => s.pid = e.pid) == 1

/-- **Every stored event was launched, so the assertion holds and the single rows are returned.** -/
theorem getNonIntegrityProcessEvents_docs (events : List SWALProcessEvent) :
    getNonIntegrityProcessEvents (events.map (processEventDoc · true)) =
      some ((singleEvents events).map SWALProcessEvent.stored) := by
  unfold getNonIntegrityProcessEvents
  simp only []
  rw [find_isIn_single SWALProcessEvent.pid .int32 iterInt32 (fun _ => rfl) (fun _ => rfl)
    (fun _ _ => Bson.sameValue_int32 _ _),
    mapM_eq_some_map (g := readProcessEvent), List.map_map]
  · rfl
  · intro d hd
    obtain ⟨e, _, rfl⟩ := List.mem_map.mp hd
    rfl

/-- A key that stands in one row counts once. -/
theorem countP_eq_one_of_nodup {α κ : Type} [DecidableEq κ] {key : α → κ} {rows : List α}
    (hnd : (rows.map key).Nodup) {r : α} (hr : r ∈ rows) :
    rows.countP (fun s => key s = key r) = 1 := by
  have hone := List.count_eq_one_of_mem hnd (List.mem_map_of_mem hr)
  rw [List.count_eq_countP, List.countP_map] at hone
  rw [← hone]
  exact List.countP_congr fun s _ => by simp

/-- **While keys are unique and begin, recovery reads every operation.** -/
theorem getNonIntegrityClientOperations_docs {ops : List SWALClientOperation}
    (hnd : (ops.map fun o => cStr o.uniqueKey).Nodup) (hbegin : ∀ o ∈ ops, o.begin = true) :
    getNonIntegrityClientOperations (ops.map clientOperationDoc) =
      some (ops.map SWALClientOperation.stored) := by
  unfold getNonIntegrityClientOperations
  have hget (o : SWALClientOperation) : (clientOperationDoc o).get? WalClientOperations.uniqueKey =
      some (.utf8 (cStr (cStr o.uniqueKey))) := by
    rw [cStr_cStr]
    rfl
  have hfind := find_isIn_single (fun o : SWALClientOperation => cStr o.uniqueKey)
    (fun key => .utf8 (cStr key)) iterUtf8 hget (fun o => cStr_cStr _)
    (fun r s => by rw [Bson.sameValue_utf8, cStr_cStr, cStr_cStr]) ops
  have hall : (ops.filter fun r => ops.countP (fun s => cStr s.uniqueKey = cStr r.uniqueKey) == 1) =
      ops :=
    List.filter_eq_self.mpr fun r hr => beq_iff_eq.mpr (countP_eq_one_of_nodup hnd hr)
  rw [hall] at hfind
  simp only [hfind]
  rw [mapM_eq_some_map (g := readClientOperation), List.map_map]
  · rfl
  · intro d hd
    obtain ⟨o, ho, rfl⟩ := List.mem_map.mp hd
    exact if_pos (hbegin o ho)

theorem getProcessEvents_docs (events : List SWALProcessEvent) :
    getProcessEvents (events.map (processEventDoc · true)) allProcessEvents =
      events.map SWALProcessEvent.stored := by
  rw [getProcessEvents, if_pos rfl, Collection.find_map (p := fun _ => true) (fun _ => rfl),
    List.map_map]
  exact congrArg (List.map _) (List.filter_eq_self.mpr fun _ _ => rfl)

theorem pid_singleEvents_nodup (events : List SWALProcessEvent) :
    ((singleEvents events).map (·.pid)).Nodup := by
  rw [List.nodup_iff_count_le_one]
  intro pid
  rw [List.count_eq_countP, List.countP_map]
  by_cases h : ∃ e ∈ singleEvents events, e.pid = pid
  · obtain ⟨e, he, rfl⟩ := h
    have hone := eq_of_beq (List.mem_filter.mp he).2
    calc (singleEvents events).countP ((fun x => x == e.pid) ∘ fun e => e.pid)
        ≤ events.countP ((fun x => x == e.pid) ∘ fun e => e.pid) :=
          List.filter_sublist.countP_le
      _ = events.countP (fun s => s.pid = e.pid) :=
          List.countP_congr fun s _ => by simp
      _ ≤ 1 := hone.le
  · have hzero : (singleEvents events).countP ((fun x => x == pid) ∘ fun e => e.pid) = 0 := by
      rw [List.countP_eq_zero]
      intro e he hp
      exact h ⟨e, he, eq_of_beq hp⟩
    rw [hzero]
    exact Nat.zero_le 1

theorem mem_pid_singleEvents {events : List SWALProcessEvent} {pid : TPid} :
    pid ∈ (singleEvents events).map (·.pid) ↔ events.countP (fun s => s.pid = pid) = 1 := by
  rw [List.mem_map]
  constructor
  · rintro ⟨e, he, rfl⟩
    exact eq_of_beq (List.mem_filter.mp he).2
  · intro h
    obtain ⟨e, he, hp⟩ := List.countP_pos_iff.mp (h ▸ Nat.one_pos)
    rw [decide_eq_true_eq] at hp
    exact ⟨e, List.mem_filter.mpr ⟨he, by rw [hp, h]; rfl⟩, hp⟩

end MicroserviceCommon
