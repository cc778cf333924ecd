import MicroserviceCommon.Infra.Aggregate
import MicroserviceCommon.Storage.Description
import MicroserviceCommon.Storage.Payload

/-!
# Session scans

The functions of `DatabaseManagerBase` that compute the sessions of a persistence set from its
payload table: one session by two pipelines, the sessions of a range, the first and the last one,
the older scan that reads all steps of all sessions, and the split of sessions at their gaps.

The numbers of the sessions come from the command `distinct`, whose reply is a parameter.
The pipelines are taken to succeed. `none` is a failed `assert`, or a read of an element of an
empty vector.
-/

namespace MicroserviceCommon

open Infra
open MongoFields

/-- The rows of the pipelines: the steps of the session, each with its `maxAstroTime`. -/
def groupSteps (docs : List Doc) (sessionNum : TSessionNum) : List (Int64 × Int64) :=
  Collection.groupMax (fun d : Doc => iterInt64 (d.get? DetectedObject.logicTime))
    (fun d : Doc => iterInt64 (d.get? DetectedObject.astroTime))
    (Collection.find (Query.eq DetectedObject.session (.int32 sessionNum)) docs)

/-- The body of `getSessionInfo` on the documents of the table. Each loop keeps its last row. -/
def sessionInfo (docs : List Doc) (sessionNum : TSessionNum) : SEventsSessionInfo :=
  let out : SEventsSessionInfo := { number := sessionNum }
  let out := (Collection.orderDesc Prod.fst (groupSteps docs sessionNum)).foldl
    (fun out row => { out with minLogicStep := row.1, minTimestampMillisec := row.2 }) out
  (Collection.orderAsc Prod.fst (groupSteps docs sessionNum)).foldl
    (fun out row => { out with maxLogicStep := row.1, maxTimestampMillisec := row.2 }) out

/-- The values of `distinct` for a collection and a key. `none` is a failed command. -/
abbrev DistinctCommand := String → String → Option (List Bson)

/-- Only values that hold an `int32` are taken. -/
def sessionNumbers (values : List Bson) : List TSessionNum :=
  values.filterMap fun
    | .int32 v => some v
    | _ => none

namespace DatabaseManagerBase

def getTableName (s : DatabaseManagerBase) (persId : TPersistenceSetId) : Option String :=
  s.tableNameByPersistenceId persId

def getSessionInfo (s : DatabaseManagerBase) (persId : TPersistenceSetId)
    (sessionNum : TSessionNum) : Option SEventsSessionInfo :=
  (s.getPayloadTableRef persId).map fun contextTable =>
    sessionInfo (s.db.payload contextTable) sessionNum

def getSessionSteps (s : DatabaseManagerBase) (persId : TPersistenceSetId) (sesNum : TSessionNum) :
    Option (List SObjectStep) :=
  (s.getPayloadTableRef persId).map fun contextTable =>
    (Collection.orderAsc Prod.fst (groupSteps (s.db.payload contextTable) sesNum)).map fun row =>
      { logicStep := row.1, timestampMillisec := row.2 }

/-- `select` is `std::min_element` or `std::max_element`. -/
def scanPayloadEnd (select : List TSessionNum → Option TSessionNum) (distinct : DistinctCommand)
    (s : DatabaseManagerBase) (persId : TPersistenceSetId) : Option SEventsSessionInfo :=
  (s.getTableName persId).bind fun tableName =>
    match distinct (cStr tableName) DetectedObject.session with
    | none => some {}
    | some values => (select (sessionNumbers values)).bind (s.getSessionInfo persId)

def scanPayloadHeadForSessions (distinct : DistinctCommand) (s : DatabaseManagerBase)
    (persId : TPersistenceSetId) : Option SEventsSessionInfo :=
  scanPayloadEnd List.min? distinct s persId

def scanPayloadTailForSessions (distinct : DistinctCommand) (s : DatabaseManagerBase)
    (persId : TPersistenceSetId) : Option SEventsSessionInfo :=
  scanPayloadEnd List.max? distinct s persId

def scanPayloadRangeForSessions (distinct : DistinctCommand) (s : DatabaseManagerBase)
    (persId : TPersistenceSetId) (sessionRange : TSessionNum × TSessionNum) :
    Option (List SEventsSessionInfo) :=
  (s.getTableName persId).bind fun tableName =>
    match distinct (cStr tableName) DetectedObject.session with
    | none => some []
    | some values =>
      ((sessionNumbers values).filter fun n => sessionRange.1 ≤ n ∧ n ≤ sessionRange.2).mapM
        (s.getSessionInfo persId)

/-- The loop body of `getPersistenceSetSessions`: the ends of the steps of one session. -/
def sessionWithSteps (s : DatabaseManagerBase) (persId : TPersistenceSetId)
    (sessionNumber : TSessionNum) : Option SEventsSessionInfo :=
  (s.getSessionSteps persId sessionNumber).bind fun steps =>
    steps.head?.bind fun front =>
      steps.getLast?.map fun back =>
        { number := sessionNumber
          steps := steps
          minLogicStep := front.logicStep
          maxLogicStep := back.logicStep
          minTimestampMillisec := front.timestampMillisec
          maxTimestampMillisec := back.timestampMillisec }

def getPersistenceSetSessions (distinct : DistinctCommand) (s : DatabaseManagerBase)
    (persId : TPersistenceSetId) : Option (List SEventsSessionInfo) :=
  (s.getTableName persId).bind fun tableName =>
    match distinct (cStr tableName) DetectedObject.session with
    | none => some []
    | some values =>
      ((sessionNumbers values).mapM (s.sessionWithSteps persId)).map
        (Collection.orderAsc SEventsSessionInfo.number)

/-! ## The split at the gaps -/

/-- The variables of the loop of `splitSessionByGaps`. -/
structure GapScan where
  session : SEventsSessionInfo := {}
  sessionOpened : Bool := false
  previousStep : Int64 := 0
  out : List SEventsSessionInfo := []

/-- One turn of the loop. -/
def GapScan.next (sessionNum : TSessionNum) (g : GapScan) (row : Int64 × Int64) : GapScan :=
  if g.sessionOpened then
    if row.1 = g.previousStep + 1 then { g with previousStep := row.1 }
    else
      -- a gap
      { session := {}
        sessionOpened := false
        previousStep := row.1
        out := g.out ++ [{ g.session with
          number := sessionNum, maxLogicStep := row.1, maxTimestampMillisec := row.2 }] }
  else
    { g with
      session := { g.session with minLogicStep := row.1, minTimestampMillisec := row.2 }
      previousStep := row.1 }

/-- The threshold is not looked at. -/
def splitSessionByGaps (s : DatabaseManagerBase) (persId : TPersistenceSetId)
    (sessionNum : TSessionNum) (_logicStepThreshold : TLogicStep := 0) :
    Option (List SEventsSessionInfo) :=
  (s.getPayloadTableRef persId).map fun contextTable =>
    ((Collection.orderAsc Prod.fst (groupSteps (s.db.payload contextTable) sessionNum)).foldl
      (GapScan.next sessionNum) {}).out

/-- Neither is the session to begin from. -/
def scanPayloadForSessions (distinct : DistinctCommand) (s : DatabaseManagerBase)
    (persId : TPersistenceSetId) (_beginFromSession : TSessionNum := 0) :
    Option (List SEventsSessionInfo) :=
  (s.getTableName persId).bind fun tableName =>
    match distinct (cStr tableName) DetectedObject.session with
    | none => some []
    | some values =>
      ((sessionNumbers values).mapM fun sessionNumber =>
        s.splitSessionByGaps persId sessionNumber).map List.flatten

/-! ## The refresh of the stored descriptions -/

/-- `ASSERT_TRUE` on the result of a write. -/
def assertTrue (result : List Doc × Bool) : Option (List Doc) :=
  if result.2 then some result.1 else none

/--
The refresh that `description_test_recorder` runs after the payload has grown. Its calls to the
database succeed.

The last stored session is only compared in its logic steps.
-/
def refreshSessionDescriptions (tail range : DistinctCommand) (s : DatabaseManagerBase)
    (persId : TPersistenceSetId) : Option DatabaseManagerBase :=
  let docs := s.db.persistenceDescription
  (s.scanPayloadTailForSessions tail persId).bind fun scannedTailSession =>
    (Collection.orderAsc SEventsSessionInfo.number
      (selectSessionDescriptions docs persId)).getLast?.bind fun lastStoredSessionInfo =>
      if scannedTailSession.number = lastStoredSessionInfo.number ∧
          (scannedTailSession.minLogicStep ≠ lastStoredSessionInfo.minLogicStep ∨
            scannedTailSession.maxLogicStep ≠ lastStoredSessionInfo.maxLogicStep) then
        (assertTrue (updateSessionDescription true docs persId scannedTailSession)).map
          s.setDescriptions
      else if scannedTailSession.number > lastStoredSessionInfo.number then
        (s.scanPayloadRangeForSessions range persId
          (lastStoredSessionInfo.number, scannedTailSession.number)).bind fun scanned =>
          match Collection.orderAsc SEventsSessionInfo.number scanned with
          | [] => none
          | refreshedLastStored :: rest =>
            (assertTrue (updateSessionDescription true docs persId refreshedLastStored)).bind
              fun docs =>
                (rest.foldlM (fun docs newSession =>
                  assertTrue (insertSessionDescription true docs persId newSession)) docs).map
                    s.setDescriptions
      else some s

end DatabaseManagerBase

end MicroserviceCommon
