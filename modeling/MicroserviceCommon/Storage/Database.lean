import MicroserviceCommon.Infra.Bson

/-!
# The stored collections

What MongoDB keeps for one database name. It survives the program.

A payload table is a collection named by the metadata of its persistence set,
so the payload is a function of the table name. The other collections have fixed names.
-/

namespace MicroserviceCommon

open Infra

structure Database where
  walClientOperations : List Doc := []
  walProcessEvents : List Doc := []
  walUserRegistrations : List Doc := []
  persistenceMetadata : List Doc := []
  persistenceDescription : List Doc := []
  persistenceFromVideo : List Doc := []
  persistenceFromDSS : List Doc := []
  payload : String → List Doc := fun _ => []

end MicroserviceCommon
