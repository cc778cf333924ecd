import Mathlib.Logic.Basic

/-!
# `common_types`

The identifiers, enumerations and records of `ms_common_types.h`, with the integer widths of the
source, the converters of `ms_common_utils.h` and the sentinels of `ms_common_vars.h`.

A `double` is kept as its 64 bits. Nothing modelled here computes with one.
-/

namespace MicroserviceCommon

/-! ## Identifiers -/

abbrev TPid := Int32
abbrev TContextId := UInt32
abbrev TMissionId := UInt32
abbrev TSensorId := UInt64
abbrev TObjectId := UInt64
abbrev TSessionNum := Int32
abbrev TLogicStep := Int64
abbrev TPersistenceSetId := Int64

/-! ## Sentinels -/

def allContextId : TContextId := 0xFFFFFFFF
def allSessionNum : TSessionNum := 0x7FFFFFFF
/-- `SPersistenceMetadataDescr::INVALID_PERSISTENCE_ID` -/
def invalidPersistenceId : TPersistenceSetId := -1
/-- `common_vars::INVALID_PERS_ID` -/
def invalidPersId : TPersistenceSetId := -1
def allLogicSteps : TLogicStep := Int64.minValue

/-! ## Enumerations -/

inductive EPersistenceSourceType where
  | videoServer | dss | autonomousRecorder | undefined
  deriving DecidableEq, Repr

inductive EPersistenceDataType where
  | trajectory | weather | undefined
  deriving DecidableEq, Repr

/-- `SPersistenceObj::EState`, an enumeration over `int32_t`. -/
inductive EState where
  | active | destroyed | absent | undefined
  deriving DecidableEq, Repr

def EState.toInt32 : EState → Int32
  | active => 0
  | destroyed => 1
  | absent => 2
  | undefined => 3

/-- The cast back. Only the four enumerators are ever stored. -/
def EState.ofInt32 (v : Int32) : EState :=
  if v = 0 then active else if v = 1 then destroyed else if v = 2 then absent else undefined

@[simp] theorem EState.ofInt32_toInt32 (s : EState) : ofInt32 s.toInt32 = s := by
  cases s <;> decide

def convertPersistenceTypeToStr : EPersistenceSourceType → String
  | .videoServer => "VIDEO_SERVER"
  | .autonomousRecorder => "AUTONOMOUS_RECORDER"
  | .dss => "DSS"
  | .undefined => "UNDEFINED"

/-- `none` is the `assert( false )` of an unknown name. -/
def convertPersistenceTypeFromStr (s : String) : Option EPersistenceSourceType :=
  if s = "VIDEO_SERVER" then some .videoServer
  else if s = "AUTONOMOUS_RECORDER" then some .autonomousRecorder
  else if s = "DSS" then some .dss
  else if s = "UNDEFINED" then some .undefined
  else none

@[simp] theorem convertPersistenceTypeFromStr_toStr (t : EPersistenceSourceType) :
    convertPersistenceTypeFromStr (convertPersistenceTypeToStr t) = some t := by
  cases t <;> decide

/-- `none` is the `assert( false )` on `UNDEFINED`. -/
def convertDataTypeToStr : EPersistenceDataType → Option String
  | .trajectory => some "traj"
  | .weather => some "weather"
  | .undefined => none

def convertDataTypeFromStr (s : String) : Option EPersistenceDataType :=
  if s = "traj" then some .trajectory
  else if s = "weather" then some .weather
  else none

theorem convertDataTypeFromStr_of_toStr {t : EPersistenceDataType} {s : String}
    (h : convertDataTypeToStr t = some s) : convertDataTypeFromStr s = some t := by
  cases t with
  | trajectory => cases h; decide
  | weather => cases h; decide
  | undefined => cases h

/-! ## Metadata records -/

structure SPersistenceMetadataDescr where
  persistenceSetId : TPersistenceSetId := invalidPersistenceId
  contextId : TContextId := 0
  missionId : TMissionId := 0
  timeStepIntervalMillisec : Int64 := -1
  lastRecordedSession : TSessionNum := -1
  sourceType : EPersistenceSourceType := .undefined
  dataType : EPersistenceDataType
  deriving DecidableEq, Repr

structure SPersistenceMetadataVideo extends SPersistenceMetadataDescr where
  recordedFromSensorId : TSensorId
  deriving DecidableEq, Repr

structure SPersistenceMetadataDSS extends SPersistenceMetadataDescr where
  realData : Bool
  deriving DecidableEq, Repr

structure SPersistenceMetadataRaw extends SPersistenceMetadataDescr where
  a : Int32 := 0
  deriving DecidableEq, Repr

structure SPersistenceMetadata where
  persistenceFromVideo : List SPersistenceMetadataVideo := []
  persistenceFromDSS : List SPersistenceMetadataDSS := []
  persistenceFromRaw : List SPersistenceMetadataRaw := []
  deriving Repr

/-! ## Payload records -/

structure SPersistenceTrajectory where
  ctxId : TContextId
  missionId : TMissionId
  objId : TObjectId
  state : EState
  sessionNum : TSessionNum
  logicTime : TLogicStep
  astroTimeMillisec : Int64
  latDeg : UInt64
  lonDeg : UInt64
  height : UInt64
  yawDeg : UInt64
  deriving DecidableEq, Repr

structure SPersistenceSetFilter where
  persistenceSetId : TPersistenceSetId := -1
  sessionNum : TSessionNum := 0
  maxLogicStep : TLogicStep := 0
  minLogicStep : TLogicStep := 0
  deriving DecidableEq, Repr

structure SObjectStep where
  logicStep : TLogicStep
  timestampMillisec : Int64
  deriving DecidableEq, Repr

structure SEventsSessionInfo where
  number : TSessionNum := 0
  minLogicStep : TLogicStep := 0
  maxLogicStep : TLogicStep := 0
  minTimestampMillisec : Int64 := 0
  maxTimestampMillisec : Int64 := 0
  steps : List SObjectStep := []
  emptyStepsBegin : Int32 := 0
  emptyStepsEnd : Int32 := 0
  deriving DecidableEq, Repr

/-! ## Journal records -/

structure SWALClientOperation where
  uniqueKey : String
  begin : Bool
  commandFullText : String
  deriving DecidableEq, Repr

namespace SWALClientOperation

def allKeys : String := "all_keys"
def nonIntegrityKeys : String := "non_integrity_keys"

end SWALClientOperation

structure SWALUserRegistration where
  registerId : String
  userIp : String
  userPid : TPid
  registeredAtDateTime : String
  deriving DecidableEq, Repr

structure SWALProcessEvent where
  pid : TPid
  programName : String
  programArgs : List String
  deriving DecidableEq, Repr

namespace SWALProcessEvent

def allPids : TPid := 0
def nonIntegrityPids : TPid := 1

end SWALProcessEvent

end MicroserviceCommon
