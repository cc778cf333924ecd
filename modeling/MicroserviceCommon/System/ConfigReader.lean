import Mathlib.Logic.Basic

/-!
# `AConfigReader::parseBase`

The configuration is a property tree that `read_json` makes of the content of the file. What boost
does with a text (`read_json`, the conversions of `get<T>`) is a parameter, and so is the part of
the derived class.

* A missing section or a value that cannot be converted is an exception.
* The only `try` is around `read_json`.
-/

namespace MicroserviceCommon

/-- A node has a value and children. -/
inductive Ptree where
  | node (data : String) (children : List (String × Ptree))

namespace Ptree

def data : Ptree → String
  | node data _ => data

def find : Ptree → String → Option Ptree
  | node _ children, key => children.lookup key

end Ptree

/-- What `get_child` and `get<T>` throw. -/
inductive PtreeError where
  | ptreeBadPath
  | ptreeBadData
  deriving DecidableEq, Repr

/-- `read_json` and the conversions, `none` where they throw, and `parse` of the derived class. -/
structure ConfigLibrary where
  readJson : List UInt8 → Option Ptree
  getInt : String → Option Int32
  getBool : String → Option Bool
  parse : List UInt8 → Bool

/-- The parameters without `INITIAL_REQUESTS`, which is not read from the file. -/
structure SConfigParameters where
  systemUnilogConfigPath : String := ""
  systemLogToStdout : Bool := false
  systemLogToFile : Bool := false
  systemLogfileName : String := ""
  systemRegularLogfilePath : String := ""
  systemCrushLogfilePath : String := ""
  systemLogfileRotationSizeMb : Int32 := 0
  systemConnectRetries : Int32 := 0
  systemConnectRetryPeriodSec : Int32 := 0
  systemUniqueId : String := ""
  systemCatchChildProcessesOutput : Bool := false
  systemSelfShutdownSec : Int32 := 0
  /-- not set by the constructor -/
  systemServerFeatures : Int16
  systemRestoreInterruptedSession : Bool
  communicationHttpServerEnable : Bool := false
  communicationHttpServerPort : Int32 := 0
  communicationWebsocketServerEnable : Bool := false
  communicationWebsocketServerPort : Int32 := 0
  communicationAmqpEnable : Bool
  communicationAmqpServerHost : String := ""
  communicationAmqpVirtualHost : String := ""
  communicationAmqpServerPort : Int32 := 0
  communicationAmqpLogin : String := ""
  communicationAmqpPass : String := ""
  communicationObjreprServiceBusEnable : Bool
  objreprConfigPath : String := ""
  objreprGdmVideoContainerClassinfoName : String := ""
  objreprInitialContextName : String := ""
  mongoDbAddress : String := ""
  mongoDbName : String := ""
  mongoLoggerTable : String := ""
  deriving DecidableEq, Repr

/-- The parameters so far, and the variables of `parseBase` itself. -/
structure ParsedConfig extends SConfigParameters where
  selfShutdownAfterHour : Int32 := 0
  selfShutdownAfterMin : Int32 := 0
  selfShutdownAfterSec : Int32 := 0
  deriving DecidableEq, Repr

/-- One line of `parseBase`: the key, the default value and the variable that takes the value. -/
inductive Parameter where
  | int (key : String) (defaultVal : Int32) (set : ParsedConfig → Int32 → ParsedConfig)
  | bool (key : String) (defaultVal : Bool) (set : ParsedConfig → Bool → ParsedConfig)
  | string (key : String) (defaultVal : String) (set : ParsedConfig → String → ParsedConfig)

/-- `convert` is `get<T>`. A key that is not there has the default value. -/
def setParameterNew {T : Type} (convert : String → Option T) (keyLocation : Ptree) (key : String)
    (defaultVal : T) : Except PtreeError T :=
  match keyLocation.find key with
  | none => .ok defaultVal
  | some child =>
    match convert child.data with
    | none => .error .ptreeBadData
    | some value => .ok value

def getChild (config : Ptree) (path : String) : Except PtreeError Ptree :=
  match config.find path with
  | none => .error .ptreeBadPath
  | some child => .ok child

/-- A string needs no conversion. -/
def Parameter.read (lib : ConfigLibrary) (keyLocation : Ptree) (parsed : ParsedConfig) :
    Parameter → Except PtreeError ParsedConfig
  | int key defaultVal set =>
    (setParameterNew lib.getInt keyLocation key defaultVal).map (set parsed)
  | bool key defaultVal set =>
    (setParameterNew lib.getBool keyLocation key defaultVal).map (set parsed)
  | string key defaultVal set =>
    (setParameterNew some keyLocation key defaultVal).map (set parsed)

/-- Lines one after the other. -/
def readParameters (lib : ConfigLibrary) (keyLocation : Ptree) (parameters : List Parameter)
    (parsed : ParsedConfig) : Except PtreeError ParsedConfig :=
  parameters.foldlM (fun parsed parameter => parameter.read lib keyLocation parsed) parsed

/-! ## The lines of the sections -/

def systemParameters : List Parameter :=
  [.int "connect_retries" 3 fun c v => { c with systemConnectRetries := v },
    .int "connect_retry_period_sec" 5 fun c v => { c with systemConnectRetryPeriodSec := v },
    .string "unilog_config_path" "unilog_cfg.xml" fun c v => { c with systemUnilogConfigPath := v },
    .bool "log_to_stdout" true fun c v => { c with systemLogToStdout := v },
    .bool "log_to_file" false fun c v => { c with systemLogToFile := v },
    .string "log_file_name" "video_server" fun c v => { c with systemLogfileName := v },
    .string "regular_logfile_path" "/tmp" fun c v => { c with systemRegularLogfilePath := v },
    .string "crush_logfile_path" "/tmp" fun c v => { c with systemCrushLogfilePath := v },
    .int "logfile_rotation_size_mb" 1 fun c v => { c with systemLogfileRotationSizeMb := v },
    .string "unique_id" "video_server_unique_id" fun c v => { c with systemUniqueId := v },
    .bool "catch_child_processes_output" false
      fun c v => { c with systemCatchChildProcessesOutput := v },
    .int "self_shutdown_after_hour" 0 fun c v => { c with selfShutdownAfterHour := v },
    .int "self_shutdown_after_min" 0 fun c v => { c with selfShutdownAfterMin := v },
    -- the seconds are summed up behind the last of the three lines
    .int "self_shutdown_after_sec" 0 fun c v =>
      { c with
        selfShutdownAfterSec := v
        systemSelfShutdownSec :=
          v + c.selfShutdownAfterMin * 60 + c.selfShutdownAfterHour * 60 * 60 },
    .bool "restore_interrupted_session" false
      fun c v => { c with systemRestoreInterruptedSession := v }]

def httpServerParameters : List Parameter :=
  [.bool "enable" false fun c v => { c with communicationHttpServerEnable := v },
    .int "port" 5555 fun c v => { c with communicationHttpServerPort := v }]

def websocketServerParameters : List Parameter :=
  [.bool "enable" false fun c v => { c with communicationWebsocketServerEnable := v },
    .int "port" 5555 fun c v => { c with communicationWebsocketServerPort := v }]

def amqpClientParameters : List Parameter :=
  [.bool "enable" false fun c v => { c with communicationAmqpEnable := v },
    .string "host" "localhost" fun c v => { c with communicationAmqpServerHost := v },
    .string "virt_host" "safecity" fun c v => { c with communicationAmqpVirtualHost := v },
    .int "port" 5672 fun c v => { c with communicationAmqpServerPort := v },
    .string "login" "scuser" fun c v => { c with communicationAmqpLogin := v },
    .string "pass" "scpass" fun c v => { c with communicationAmqpPass := v }]

def objreprBusParameters : List Parameter :=
  [.bool "enable" false fun c v => { c with communicationObjreprServiceBusEnable := v }]

def objreprParameters : List Parameter :=
  [.string "config_path" "objrepr_cfg.xml" fun c v => { c with objreprConfigPath := v },
    .string "initial_context_name" "" fun c v => { c with objreprInitialContextName := v },
    .string "gdm_video_container_name" "Система анализа видео"
      fun c v => { c with objreprGdmVideoContainerClassinfoName := v }]

def mongoDbParameters : List Parameter :=
  [.string "host" "localhosst" fun c v => { c with mongoDbAddress := v },
    .string "database_name" "video_server" fun c v => { c with mongoDbName := v },
    .string "logger_table" "log" fun c v => { c with mongoLoggerTable := v }]

/-! ## The features of the server -/

/-- `EServerFeatures::RETRANSLATION`, `ARCHIVING` and `ANALYZE` -/
def serverFeature (feature : String) : Option Int16 :=
  if feature = "retranslation" then some 1
  else if feature = "archiving" then some 2
  else if feature = "analyze" then some 4
  else none

/-- The string without blanks, split at every `|`. -/
def splitFeatures (serverFeaturesStr : String) : List String :=
  ((serverFeaturesStr.toList.filter (· != ' ')).splitOn '|').map String.ofList

/-- The loop over the features. An unknown one ends it with `false`. -/
def setServerFeatures : List String → Int16 → Bool × Int16
  | [], features => (true, features)
  | feature :: out, features =>
    match serverFeature feature with
    | some bit => setServerFeatures out (features ||| bit)
    | none => (false, features)

/-! ## The whole file -/

/-- The sections behind `system`. -/
def parseSections (lib : ConfigLibrary) (config : Ptree) (parsed : ParsedConfig) :
    Except PtreeError ParsedConfig := do
  let communication ← getChild config "communication"
  let httpServer ← getChild communication "http_server"
  let parsed ← readParameters lib httpServer httpServerParameters parsed
  let websocketServer ← getChild communication "websocket_server"
  let parsed ← readParameters lib websocketServer websocketServerParameters parsed
  let amqpClient ← getChild communication "amqp_client"
  let parsed ← readParameters lib amqpClient amqpClientParameters parsed
  let objreprBus ← getChild communication "objrepr_service_bus"
  let parsed ← readParameters lib objreprBus objreprBusParameters parsed
  let objrepr ← getChild config "objrepr"
  let parsed ← readParameters lib objrepr objreprParameters parsed
  let mongoDB ← getChild config "mongo_db"
  readParameters lib mongoDB mongoDbParameters parsed

/-- What is returned, and the parameters then. -/
def parseBase (lib : ConfigLibrary) (content : List UInt8) (parameters : SConfigParameters) :
    Except PtreeError (Bool × SConfigParameters) :=
  match lib.readJson content with
  | none => .ok (false, parameters)
  | some config => do
    let system ← getChild config "system"
    let parsed ← readParameters lib system systemParameters { toSConfigParameters := parameters }
    let serverFeaturesStr ← setParameterNew some system "server_features" "archiving | analyze"
    let features := setServerFeatures (splitFeatures serverFeaturesStr) parsed.systemServerFeatures
    let parsed := { parsed with systemServerFeatures := features.2 }
    if features.1 = false then pure (false, parsed.toSConfigParameters)
    else do
      let parsed ← parseSections lib config parsed
      pure (lib.parse content, parsed.toSConfigParameters)

end MicroserviceCommon
