import MicroserviceCommon.Infra.Bson
import MicroserviceCommon.Common.Types
import MicroserviceCommon.Common.Vars

/-!
# Session descriptions

The functions of `DatabaseManagerBase` on the collection `persistence_set_description`.
One collection holds the descriptions of all persistence sets.

The flag `rt` of a writing function is the result of its mongoc call: a failed call changes nothing.
-/

namespace MicroserviceCommon

open Infra
open MongoFields.PersistenceSetDescription

/-- The document that `insertSessionDescription` appends. -/
def descriptionDoc (persId : TPersistenceSetId) (descr : SEventsSessionInfo) : Doc :=
  [(persistenceId, .int64 persId),
   (sessionNum, .int32 descr.number),
   (logicTimeMin, .int64 descr.minLogicStep),
   (logicTimeMax, .int64 descr.maxLogicStep),
   (astroTimeMin, .int64 descr.minTimestampMillisec),
   (astroTimeMax, .int64 descr.maxTimestampMillisec),
   (emptyStepsBegin, .int32 0),
   (emptyStepsEnd, .int32 0)]

/-- What `selectSessionDescriptions` reads out of one document. -/
def readSessionInfo (doc : Doc) : SEventsSessionInfo where
  number := iterInt32 (doc.get? sessionNum)
  minLogicStep := iterInt64 (doc.get? logicTimeMin)
  maxLogicStep := iterInt64 (doc.get? logicTimeMax)
  minTimestampMillisec := iterInt64 (doc.get? astroTimeMin)
  maxTimestampMillisec := iterInt64 (doc.get? astroTimeMax)
  emptyStepsBegin := iterInt32 (doc.get? emptyStepsBegin)
  emptyStepsEnd := iterInt32 (doc.get? emptyStepsEnd)

/-- The query names the session number only. -/
def isSessionExistInDescription (t : List Doc) (num : TSessionNum) : Bool :=
  !(Collection.find (Query.eq sessionNum (.int32 num)) t).isEmpty

def insertSessionDescription (rt : Bool) (t : List Doc) (persId : TPersistenceSetId)
    (descr : SEventsSessionInfo) : List Doc × Bool :=
  if isSessionExistInDescription t descr.number then (t, false)
  else if rt then (Collection.insert t (descriptionDoc persId descr), true)
  else (t, false)

/-- `MONGOC_UPDATE_NONE`: neither upsert nor multi. The query names the session number only. -/
def updateSessionDescription (rt : Bool) (t : List Doc) (persId : TPersistenceSetId)
    (descr : SEventsSessionInfo) : List Doc × Bool :=
  if !isSessionExistInDescription t descr.number then (t, false)
  else if rt then
    (Collection.updateFirst (Query.eq sessionNum (.int32 descr.number))
      (Doc.set (descriptionDoc persId descr)) t, true)
  else (t, false)

def selectSessionDescriptions (t : List Doc) (persId : TPersistenceSetId) :
    List SEventsSessionInfo :=
  (Collection.find (Query.eq persistenceId (.int64 persId)) t).map readSessionInfo

def deleteSessionDescription (rt : Bool) (t : List Doc) (persId : TPersistenceSetId)
    (num : TSessionNum) : List Doc :=
  let query :=
    if num = allSessionNum then Query.eq persistenceId (.int64 persId)
    else Query.and [Query.eq persistenceId (.int64 persId), Query.eq sessionNum (.int32 num)]
  if rt then Collection.remove query t else t

/-! ## Documents of the collection

Every document is `descriptionDoc` of a set and a session, so the functions above are functions
of the list of these pairs.
-/

/-- A stored description: its persistence set and its session. -/
abbrev DescriptionRow := TPersistenceSetId × SEventsSessionInfo

def DescriptionRow.toDoc (r : DescriptionRow) : Doc := descriptionDoc r.1 r.2

/-- A session as it is read back: the steps and the empty steps are not stored. -/
def SEventsSessionInfo.stored (d : SEventsSessionInfo) : SEventsSessionInfo :=
  { d with steps := [], emptyStepsBegin := 0, emptyStepsEnd := 0 }

@[simp] theorem query_session_toDoc (r : DescriptionRow) (n : TSessionNum) :
    Query.eq sessionNum (.int32 n) r.toDoc = (r.2.number == n) :=
  Bson.sameValue_int32 _ _

@[simp] theorem query_persistence_toDoc (r : DescriptionRow) (p : TPersistenceSetId) :
    Query.eq persistenceId (.int64 p) r.toDoc = (r.1 == p) :=
  Bson.sameValue_int64 _ _

theorem keys_descriptionDoc (p : TPersistenceSetId) (d : SEventsSessionInfo) :
    (descriptionDoc p d).keys = [persistenceId, sessionNum, logicTimeMin, logicTimeMax,
      astroTimeMin, astroTimeMax, emptyStepsBegin, emptyStepsEnd] := rfl

@[simp] theorem set_descriptionDoc (new r : DescriptionRow) :
    Doc.set (descriptionDoc new.1 new.2) r.toDoc = new.toDoc :=
  Doc.set_of_keys (by rw [keys_descriptionDoc]; decide) (List.prefix_refl _)

end MicroserviceCommon
