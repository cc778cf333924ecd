import MicroserviceCommon.System.Wal

/-!
# `SystemEnvironmentFacade::init`

The start of a program: the lock file, the database, the journal and the recovery of child processes
that an earlier run left behind.
-/

namespace MicroserviceCommon

/-- The default signal of `ProcessLauncher::kill( pid )`. -/
def sigkill : Int32 := 9

/-- A call of `::kill`. -/
structure SentSignal where
  pid : TPid
  signal : Int32 := sigkill
  deriving DecidableEq, Repr

namespace SystemEnvironmentFacade

structure SInitSettings where
  restoreSystemAfterInterrupt : Bool
  deriving DecidableEq, Repr

/-- The answers of the calls in `init` that do not concern the journal. -/
structure StartEnvironment where
  isApplicationInstanceUnique : Bool := true
  databaseInit : Bool := true
  initDerive : Bool := true
  deriving DecidableEq, Repr

/-- The logger after `init`, the signals it sent and what it returned. -/
def init (rtOperations rtEvents : Bool) (env : StartEnvironment) (settings : SInitSettings)
    (db : Database) : Option (WriteAheadLogger × List SentSignal × Bool) :=
  let notInited : WriteAheadLogger := { active := false, persistService := db }
  if !env.isApplicationInstanceUnique then some (notInited, [], false)
  else if !env.databaseInit then some (notInited, [], false)
  else
    let inited : WriteAheadLogger :=
      { active := settings.restoreSystemAfterInterrupt, persistService := db }
    -- the processes are asked for in either case, an inactive logger reports none
    (if !settings.restoreSystemAfterInterrupt then inited.cleanJournal rtOperations rtEvents
      else some inited).bind fun wal => wal.getNonClosedProcesses.map fun zombieChildProcesses =>
        (wal, zombieChildProcesses.map fun pid => { pid := pid }, env.initDerive)

end SystemEnvironmentFacade

end MicroserviceCommon
