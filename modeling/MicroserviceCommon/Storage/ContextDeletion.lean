import MicroserviceCommon.Storage.Description
import MicroserviceCommon.Storage.Payload

/-!
# Deletions by context

The functions of `DatabaseManagerBase` that delete the payload and the descriptions of all
persistence sets of a context. Both loop over the sets that `getPersistenceSetMetadata` returns,
and the DSS sets come first.

The flag `rt` is the result of every remove of the call. `none` is a failed `assert`.
-/

namespace MicroserviceCommon

open Infra

namespace DatabaseManagerBase

def deleteTotalData (rt : Bool) (s : DatabaseManagerBase) (ctxId : TContextId) :
    Option DatabaseManagerBase :=
  (getPersistenceSetMetadataByContext s.db.persistenceMetadata ctxId).bind fun metadatas =>
    metadatas.foldlM (fun s metadata => do
      let s ← metadata.persistenceFromDSS.foldlM
        (fun s metaDSS => s.deleteDataRange rt { persistenceSetId := metaDSS.persistenceSetId }) s
      let s ← metadata.persistenceFromRaw.foldlM
        (fun s metaRaw => s.deleteDataRange rt { persistenceSetId := metaRaw.persistenceSetId }) s
      metadata.persistenceFromVideo.foldlM
        (fun s metaVideo =>
          s.deleteDataRange rt { persistenceSetId := metaVideo.persistenceSetId }) s) s

/-- `deleteSessionDescription( TContextId )`. The session is the default of the inner call. -/
def deleteSessionDescriptionByContext (rt : Bool) (s : DatabaseManagerBase)
    (ctxId : TContextId) : Option DatabaseManagerBase :=
  (getPersistenceSetMetadataByContext s.db.persistenceMetadata ctxId).map fun metadatas =>
    s.setDescriptions (metadatas.foldl (fun docs metadata =>
      let docs := metadata.persistenceFromDSS.foldl (fun docs metaDSS =>
        deleteSessionDescription rt docs metaDSS.persistenceSetId allSessionNum) docs
      let docs := metadata.persistenceFromRaw.foldl (fun docs metaRaw =>
        deleteSessionDescription rt docs metaRaw.persistenceSetId allSessionNum) docs
      metadata.persistenceFromVideo.foldl (fun docs metaVideo =>
        deleteSessionDescription rt docs metaVideo.persistenceSetId allSessionNum) docs)
      s.db.persistenceDescription)

end DatabaseManagerBase

end MicroserviceCommon
