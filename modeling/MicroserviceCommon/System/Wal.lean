import MicroserviceCommon.Storage.Wal
import MicroserviceCommon.Storage.Database
import MicroserviceCommon.Communication.NetworkInterface

/-!
# `WriteAheadLogger` over `SystemEnvironmentFacade`

The logger writes through `IWALPersistenceService`, which the facade implements on the database.
Each of the three layers has its own sentinel for "all records".

| layer | all operations | all events |
|---|---|---|
| `SWALClientOperation`, `SWALProcessEvent` | `"all_keys"` | `0` |
| facade, reading | the same | the same |
| facade, removing | passed on as a key | passed on |
| `DatabaseManagerBase` | `""` | `0` |

`none` is a failed `assert`.
-/

namespace MicroserviceCommon

open Infra

/-! ## The persistence service of the facade -/

namespace SystemEnvironmentFacade

def writeOperation (rt : Bool) (db : Database) (operation : SWALClientOperation) :
    Database × Bool :=
  let (t, ok) := writeClientOperation rt db.walClientOperations operation
  ({ db with walClientOperations := t }, ok)

def removeOperation (rt : Bool) (db : Database) (filter : String) : Database :=
  { db with walClientOperations := removeClientOperation rt db.walClientOperations filter }

def readOperations (db : Database) (filter : String) : Option (List SWALClientOperation) :=
  if SWALClientOperation.allKeys = filter then some (getClientOperations db.walClientOperations)
  else if SWALClientOperation.nonIntegrityKeys = filter then
    getNonIntegrityClientOperations db.walClientOperations
  else none

def writeEvent (rt : Bool) (db : Database) (event : SWALProcessEvent) : Database × Bool :=
  let (t, ok) := writeProcessEvent rt db.walProcessEvents event true
  ({ db with walProcessEvents := t }, ok)

def removeEvent (rt : Bool) (db : Database) (filter : TPid) : Database :=
  { db with walProcessEvents := removeProcessEvent rt db.walProcessEvents filter }

def readEvents (db : Database) (filter : TPid) : Option (List SWALProcessEvent) :=
  if filter ≠ SWALProcessEvent.allPids ∧ filter ≠ SWALProcessEvent.nonIntegrityPids then
    some (getProcessEvents db.walProcessEvents filter)
  else if filter = SWALProcessEvent.allPids then
    some (getProcessEvents db.walProcessEvents allProcessEvents)
  else getNonIntegrityProcessEvents db.walProcessEvents

def writeRegistration (rt : Bool) (db : Database) (userRegistration : SWALUserRegistration) :
    Database × Bool :=
  let (t, ok) := writeUserRegistration rt db.walUserRegistrations userRegistration
  ({ db with walUserRegistrations := t }, ok)

def removeRegistration (rt : Bool) (db : Database) (filter : String) : Database :=
  { db with walUserRegistrations := removeUserRegistration rt db.walUserRegistrations filter }

/-- The filter is not used. -/
def readRegistrations (db : Database) (_filter : String) : List SWALUserRegistration :=
  MicroserviceCommon.getUserRegistrations db.walUserRegistrations

end SystemEnvironmentFacade

open SystemEnvironmentFacade

/-! ## The logger -/

/-- `m_settings`: whether the logger is active, and the service behind `persistService`. -/
structure WriteAheadLogger where
  active : Bool
  persistService : Database

namespace WriteAheadLogger

def openOperation (rt : Bool) (w : WriteAheadLogger) (operation : SWALClientOperation) :
    WriteAheadLogger :=
  if !w.active then w
  else if operation.begin then
    { w with persistService := (writeOperation rt w.persistService operation).1 }
  else { w with persistService := removeOperation rt w.persistService operation.uniqueKey }

def closeClientOperation (rt : Bool) (w : WriteAheadLogger) (uniqueKey : String) :
    WriteAheadLogger :=
  { w with persistService := removeOperation rt w.persistService uniqueKey }

def getInterruptedOperations (w : WriteAheadLogger) : Option (List AEnvironmentRequest) :=
  if !w.active then some []
  else (readOperations w.persistService SWALClientOperation.nonIntegrityKeys).map
    fun operations => operations.map fun oper => { incomingMessage := oper.commandFullText }

def openProcessEvent (rt : Bool) (w : WriteAheadLogger) (event : SWALProcessEvent) :
    WriteAheadLogger :=
  if !w.active then w
  else { w with persistService := (writeEvent rt w.persistService event).1 }

def closeProcessEvent (rt : Bool) (w : WriteAheadLogger) (pid : TPid) : WriteAheadLogger :=
  { w with persistService := removeEvent rt w.persistService pid }

def getNonClosedProcesses (w : WriteAheadLogger) : Option (List TPid) :=
  if !w.active then some []
  else (readEvents w.persistService SWALProcessEvent.nonIntegrityPids).map
    fun events => events.map (·.pid)

/-- The result does not tell whether the write succeeded. -/
def openUserRegistration (rt : Bool) (w : WriteAheadLogger)
    (registration : SWALUserRegistration) : WriteAheadLogger × Bool :=
  if !w.active then (w, true)
  else
    ({ w with persistService := (writeRegistration rt w.persistService registration).1 }, true)

def closeUserRegistration (rt : Bool) (w : WriteAheadLogger) (id : String) : WriteAheadLogger :=
  { w with persistService := removeRegistration rt w.persistService id }

def getUserRegistrations (w : WriteAheadLogger) : List SWALUserRegistration :=
  if !w.active then [] else readRegistrations w.persistService ""

def isJournalEmpty (w : WriteAheadLogger) : Option Bool := do
  let events ← readEvents w.persistService SWALProcessEvent.allPids
  let operations ← readOperations w.persistService SWALClientOperation.allKeys
  return events.isEmpty && operations.isEmpty

/-- The history that it logs first only reads the journal. Each of the two removals may fail. -/
def cleanJournal (rtOperations rtEvents : Bool) (w : WriteAheadLogger) :
    Option WriteAheadLogger := do
  if !(← isJournalEmpty w) then
    -- the facade passes this sentinel on as a key
    let db := removeOperation rtOperations w.persistService SWALClientOperation.allKeys
    return { w with persistService := removeEvent rtEvents db SWALProcessEvent.allPids }
  else return w

end WriteAheadLogger

end MicroserviceCommon
