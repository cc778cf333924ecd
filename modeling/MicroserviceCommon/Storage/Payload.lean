import Mathlib.Logic.Function.Basic
import MicroserviceCommon.Storage.Metadata

/-!
# Payload tables

The functions of `DatabaseManagerBase` on the trajectories of a persistence set.

`none` is a failed `assert`. A bulk write that fails is taken to have inserted nothing.
-/

namespace MicroserviceCommon

open Infra
open MongoFields

/-- The document of one record. The context and the mission are not stored. -/
def trajectoryDoc (traj : SPersistenceTrajectory) : Doc :=
  [(DetectedObject.objreprId, .int64 traj.objId.toInt64),
   (DetectedObject.state, .int32 traj.state.toInt32),
   (DetectedObject.astroTime, .int64 traj.astroTimeMillisec),
   (DetectedObject.logicTime, .int64 traj.logicTime),
   (DetectedObject.session, .int32 traj.sessionNum),
   (DetectedObject.lat, .double traj.latDeg),
   (DetectedObject.lon, .double traj.lonDeg),
   (DetectedObject.height, .double traj.height),
   (DetectedObject.yaw, .double traj.yawDeg)]

/-- The loop body of `readTrajectoryData`. `uninit` is the record before anything is assigned. -/
def readTrajectory (uninit : SPersistenceTrajectory) (doc : Doc) : SPersistenceTrajectory :=
  let detectedObject : SPersistenceTrajectory := { uninit with
    objId := (iterInt64 (doc.get? DetectedObject.objreprId)).toUInt64
    astroTimeMillisec := iterInt64 (doc.get? DetectedObject.astroTime)
    logicTime := iterInt64 (doc.get? DetectedObject.logicTime)
    sessionNum := iterInt32 (doc.get? DetectedObject.session)
    state := EState.ofInt32 (iterInt32 (doc.get? DetectedObject.state)) }
  if detectedObject.state = .active then
    { detectedObject with
      latDeg := iterDouble (doc.get? DetectedObject.lat)
      lonDeg := iterDouble (doc.get? DetectedObject.lon)
      height := iterDouble (doc.get? DetectedObject.height)
      yawDeg := iterDouble (doc.get? DetectedObject.yaw) }
  else detectedObject

/-- The query of `readTrajectoryData`: one step, a range of steps or the whole area. -/
def trajectoryQuery (filter : SPersistenceSetFilter) : Query :=
  if filter.minLogicStep = filter.maxLogicStep ∧ filter.minLogicStep ≥ 0 then
    Query.and
      [Query.eq DetectedObject.session (.int32 filter.sessionNum),
       Query.eq DetectedObject.logicTime (.int64 filter.minLogicStep)]
  else if filter.minLogicStep ≥ 0 ∧ filter.maxLogicStep ≥ 0 then
    Query.and
      [Query.eq DetectedObject.session (.int32 filter.sessionNum),
       Query.gte DetectedObject.logicTime (.int64 filter.minLogicStep),
       Query.lte DetectedObject.logicTime (.int64 filter.maxLogicStep)]
  else Query.all

namespace DatabaseManagerBase

def getPayloadTableRef (s : DatabaseManagerBase) (persId : TPersistenceSetId) : Option String :=
  if persId > 0 then s.tablesByPersistenceId persId else none

/-- The manager after a change of one payload table. -/
def setPayload (s : DatabaseManagerBase) (table : String) (docs : List Doc) : DatabaseManagerBase :=
  { s with db := { s.db with payload := Function.update s.db.payload table docs } }

@[simp] theorem payload_setPayload (s : DatabaseManagerBase) (table : String) (docs : List Doc) :
    (s.setPayload table docs).db.payload = Function.update s.db.payload table docs := rfl

/-- The manager after a change of the descriptions. -/
def setDescriptions (s : DatabaseManagerBase) (docs : List Doc) : DatabaseManagerBase :=
  { s with db := { s.db with persistenceDescription := docs } }

/-- An empty bulk write is an error of the driver. -/
def writeTrajectoryData (rt : Bool) (s : DatabaseManagerBase) (persId : TPersistenceSetId)
    (data : List SPersistenceTrajectory) : Option (DatabaseManagerBase × Bool) :=
  (s.getPayloadTableRef persId).map fun contextTable =>
    if rt && !data.isEmpty then
      (s.setPayload contextTable (s.db.payload contextTable ++ data.map trajectoryDoc), true)
    else (s, false)

/-- Each record starts from its own uninitialised memory. -/
def readTrajectoryData (uninit : Nat → SPersistenceTrajectory) (s : DatabaseManagerBase)
    (filter : SPersistenceSetFilter) : Option (List SPersistenceTrajectory) :=
  (s.getPayloadTableRef filter.persistenceSetId).map fun contextTable =>
    (Collection.find (trajectoryQuery filter) (s.db.payload contextTable)).mapIdx
      fun i doc => readTrajectory (uninit i) doc

/-- Only the id of the filter is used. -/
def deleteDataRange (rt : Bool) (s : DatabaseManagerBase) (filter : SPersistenceSetFilter) :
    Option DatabaseManagerBase :=
  (s.getPayloadTableRef filter.persistenceSetId).map fun contextTable =>
    if rt then
      s.setPayload contextTable (Collection.remove Query.all (s.db.payload contextTable))
    else s

end DatabaseManagerBase

/-! ## What a reader sees -/

/-- The part of a record that is stored and read: the positions of an active object only. -/
def SPersistenceTrajectory.observed (traj : SPersistenceTrajectory) : SPersistenceTrajectory :=
  if traj.state = .active then { traj with ctxId := 0, missionId := 0 }
  else
    { traj with
      ctxId := 0, missionId := 0, latDeg := 0, lonDeg := 0, height := 0, yawDeg := 0 }

/-- Whatever the memory held, a read gives back what was written, as far as it is stored. -/
theorem observed_readTrajectory (uninit traj : SPersistenceTrajectory) :
    (readTrajectory uninit (trajectoryDoc traj)).observed = traj.observed := by
  have hstate : EState.ofInt32 (iterInt32 ((trajectoryDoc traj).get? DetectedObject.state)) =
      traj.state := EState.ofInt32_toInt32 _
  have hobj : (iterInt64 ((trajectoryDoc traj).get? DetectedObject.objreprId)).toUInt64 =
      traj.objId := UInt64.toUInt64_toInt64 _
  unfold readTrajectory
  simp only [hstate, hobj]
  by_cases h : traj.state = .active
  · rw [if_pos h, SPersistenceTrajectory.observed, if_pos h, SPersistenceTrajectory.observed,
      if_pos h]
    rfl
  · rw [if_neg h, SPersistenceTrajectory.observed, if_neg h, SPersistenceTrajectory.observed,
      if_neg h]
    rfl

end MicroserviceCommon
