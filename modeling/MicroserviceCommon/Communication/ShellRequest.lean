import MicroserviceCommon.Communication.Requests
import MicroserviceCommon.System.ObjectPool

/-!
# The pool of `ShellRequest`

`Shell` takes a request from its pool for every message it receives.
-/

namespace MicroserviceCommon

/-- `ShellRequest` with all of its fields. `interface` is the address of the shell. -/
structure PooledShellRequest extends ShellRequest where
  interface : Option UInt64 := none
  deriving DecidableEq, Repr

namespace PooledShellRequest

def clear (r : PooledShellRequest) : PooledShellRequest :=
  { r with
    clientSocketDscr := 0
    clientModeInitiative := false
    interface := none }

/-- The constructor of the base sets its fields, and `clear` the others. -/
def construct : PooledShellRequest := {}

/-- `poolOfRequests` -/
abbrev Pool := ObjectPool PooledShellRequest

/-- The users of `poolOfRequests`. -/
def poolStep : Pool → ObjectPoolAction PooledShellRequest → Option Pool :=
  ObjectPool.step construct clear

end PooledShellRequest

end MicroserviceCommon
