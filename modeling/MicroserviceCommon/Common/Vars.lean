import Mathlib.Logic.Basic

/-!
# `common_vars::mongo_fields`

The field names of the stored documents.
-/

namespace MicroserviceCommon.MongoFields

namespace DetectedObject

def objreprId : String := "objrepr_id"
def lat : String := "lat"
def lon : String := "lon"
def height : String := "height"
def yaw : String := "yaw"
def state : String := "state"
def astroTime : String := "astro_time"
def logicTime : String := "logic_time"
def session : String := "session"

end DetectedObject

namespace PersistenceSetMetadata

def persistenceId : String := "persistence_id"
def ctxId : String := "ctx_id"
def missionId : String := "mission_id"
def lastSessionId : String := "last_session_id"
def updateStepMillisec : String := "update_step_millisec"
def sourceType : String := "source_type"
def dataType : String := "data_type"
def payloadTableName : String := "payload_table_name"

end PersistenceSetMetadata

namespace PersistenceSetMetadataVideo

def sensorId : String := "sensor_id"

end PersistenceSetMetadataVideo

namespace PersistenceSetMetadataDss

def real : String := "real"

end PersistenceSetMetadataDss

namespace PersistenceSetDescription

def persistenceId : String := "persistence_id"
def sessionNum : String := "session_num"
def logicTimeMax : String := "logic_time_max"
def logicTimeMin : String := "logic_time_min"
def astroTimeMax : String := "astro_time_max"
def astroTimeMin : String := "astro_time_min"
def emptyStepsBegin : String := "empty_steps_begin"
def emptyStepsEnd : String := "empty_steps_end"

end PersistenceSetDescription

namespace WalClientOperations

def begin : String := "begin"
def uniqueKey : String := "unique_key"
def fullText : String := "full_text"

end WalClientOperations

namespace WalProcessEvents

def pid : String := "pid"
def launched : String := "launched"
def programName : String := "program_name"
def programArgs : String := "program_args"

end WalProcessEvents

namespace WalUserRegistrations

def userId : String := "user_id"
def userIp : String := "user_ip"
def userPid : String := "user_pid"
def registeredAtTimeMillisec : String := "registered_at_time_millisec"

end WalUserRegistrations

end MicroserviceCommon.MongoFields
