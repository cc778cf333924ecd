import MicroserviceCommon.Properties.ContextClearing
import MicroserviceCommon.Properties.SessionScans

/-!
# Session scans of an empty table

The scans of the first and the last session take the least and the greatest number of a list that is
empty when the table is. The scan of a range and the older scan of all steps go over the list.

* `scansSafe_iff` — in every state of a run all scans of a set are safe exactly when its table is
  not empty
-/

namespace MicroserviceCommon

open Infra
open DatabaseManagerBase
open MongoFields

/-- The command may fail. -/
def DistinctCommand.Replies (distinct : DistinctCommand) (db : Database) : Prop :=
  ∀ table key, distinct table key = none ∨ ∃ values, distinct table key = some values ∧
    values.Nodup ∧ ∀ v, v ∈ values ↔ ∃ d ∈ db.payload table, d.get? key = some v

/-- The four scans return, and of an empty table they return nothing. -/
structure ScansSafe (distinct : DistinctCommand) (s : DatabaseManagerBase) (p : TPersistenceSetId)
    (rows : List SPersistenceTrajectory) : Prop where
  head : ∃ info, s.scanPayloadHeadForSessions distinct p = some info ∧ (rows = [] → info = {})
  tail : ∃ info, s.scanPayloadTailForSessions distinct p = some info ∧ (rows = [] → info = {})
  range : ∀ sessionRange, ∃ out, s.scanPayloadRangeForSessions distinct p sessionRange = some out ∧
    (rows = [] → out = [])
  sessions : ∃ out, s.getPersistenceSetSessions distinct p = some out ∧ (rows = [] → out = [])

variable {distinct : DistinctCommand} {s : DatabaseManagerBase} {p : TPersistenceSetId}
  {rows : List SPersistenceTrajectory} {numbers : List TSessionNum}

theorem NumbersOf.eq_nil_iff (h : NumbersOf rows numbers) : numbers = [] ↔ rows = [] := by
  constructor
  · intro hnumbers
    by_contra hne
    exact h.ne_nil hne hnumbers
  · rintro rfl
    refine List.eq_nil_iff_forall_not_mem.mpr fun n hn => ?_
    obtain ⟨r, hr, _⟩ := (h.mem n).mp hn
    exact absurd hr List.not_mem_nil

/-! ## A command that fails -/

theorem scansSafe_of_failed {name : String} (hname : s.getTableName p = some name)
    (hfailed : distinct (cStr name) DetectedObject.session = none) :
    ScansSafe distinct s p rows where
  head := by
    refine ⟨{}, ?_, fun _ => rfl⟩
    rw [scanPayloadHeadForSessions, scanPayloadEnd, hname, Option.bind_some, hfailed]
  tail := by
    refine ⟨{}, ?_, fun _ => rfl⟩
    rw [scanPayloadTailForSessions, scanPayloadEnd, hname, Option.bind_some, hfailed]
  range sessionRange := by
    refine ⟨[], ?_, fun _ => rfl⟩
    rw [scanPayloadRangeForSessions, hname, Option.bind_some, hfailed]
  sessions := by
    refine ⟨[], ?_, fun _ => rfl⟩
    rw [getPersistenceSetSessions, hname, Option.bind_some, hfailed]

/-! ## A command that answers -/

namespace PayloadOf

/-- **The scan of a range and the scan of all steps are always safe.** -/
theorem rangeScans_safe (h : PayloadOf s p rows) (hd : distinct.Answers s.db) :
    (∀ sessionRange, ∃ out, s.scanPayloadRangeForSessions distinct p sessionRange = some out ∧
      (rows = [] → out = [])) ∧
    ∃ out, s.getPersistenceSetSessions distinct p = some out ∧ (rows = [] → out = []) := by
  constructor
  · rintro ⟨a, b⟩
    obtain ⟨numbers, hnumbers, hscan⟩ := h.scanPayloadRangeForSessions hd
    refine ⟨_, hscan a b, fun hempty => ?_⟩
    rw [hnumbers.eq_nil_iff.mpr hempty]
    rfl
  · obtain ⟨numbers, hnumbers, hscan⟩ := h.getPersistenceSetSessions hd
    refine ⟨_, hscan, fun hempty => ?_⟩
    rw [hnumbers.eq_nil_iff.mpr hempty]
    rfl

/-- The least and the greatest number exist in a table that is not empty. -/
theorem scanEnds_safe (h : PayloadOf s p rows) (hd : distinct.Answers s.db) (hne : rows ≠ []) :
    (∃ info, s.scanPayloadHeadForSessions distinct p = some info) ∧
      ∃ info, s.scanPayloadTailForSessions distinct p = some info := by
  constructor
  · obtain ⟨numbers, hnumbers, hscan⟩ := h.scanPayloadEnd hd List.min?
    obtain ⟨n, hn⟩ := Option.ne_none_iff_exists'.mp
      (mt List.min?_eq_none_iff.mp (hnumbers.ne_nil hne))
    refine ⟨sessionInfo (rows.map trajectoryDoc) n, ?_⟩
    rw [DatabaseManagerBase.scanPayloadHeadForSessions, hscan, hn, Option.map_some]
  · obtain ⟨numbers, hnumbers, hscan⟩ := h.scanPayloadEnd hd List.max?
    obtain ⟨n, hn⟩ := Option.ne_none_iff_exists'.mp
      (mt List.max?_eq_none_iff.mp (hnumbers.ne_nil hne))
    refine ⟨sessionInfo (rows.map trajectoryDoc) n, ?_⟩
    rw [DatabaseManagerBase.scanPayloadTailForSessions, hscan, hn, Option.map_some]

/-- **The first session of an empty table is read behind the end of the list.** -/
theorem scanPayloadHead_of_empty (h : PayloadOf s p []) (hd : distinct.Answers s.db) :
    s.scanPayloadHeadForSessions distinct p = none := by
  obtain ⟨numbers, hnumbers, hscan⟩ := h.scanPayloadEnd hd List.min?
  rw [DatabaseManagerBase.scanPayloadHeadForSessions, hscan, hnumbers.eq_nil_iff.mpr rfl]
  rfl

end PayloadOf

/-! ## All replies -/

/-- The command with an answer where it fails. -/
def DistinctCommand.completed (distinct : DistinctCommand) (db : Database) : DistinctCommand :=
  fun table key => (distinct table key).or (distinctOf db table key)

theorem DistinctCommand.Replies.answers_completed (h : distinct.Replies s.db) :
    (distinct.completed s.db).Answers s.db := by
  intro table key
  unfold DistinctCommand.completed
  rcases h table key with hnone | ⟨values, hsome, hvalues⟩
  · rw [hnone, Option.none_or]
    exact answers_distinctOf s.db table key
  · rw [hsome, Option.some_or]
    exact ⟨values, rfl, hvalues⟩

theorem DistinctCommand.Answers.replies (h : distinct.Answers s.db) : distinct.Replies s.db :=
  fun table key => Or.inr (h table key)

/-- Another command with the same reply for the table is as good. -/
theorem ScansSafe.congr {distinct' : DistinctCommand} {name : String}
    (hname : s.getTableName p = some name)
    (hsame : distinct (cStr name) DetectedObject.session =
      distinct' (cStr name) DetectedObject.session)
    (h : ScansSafe distinct' s p rows) : ScansSafe distinct s p rows := by
  obtain ⟨hhead, htail, hrange, hsessions⟩ := h
  simp only [scanPayloadHeadForSessions, scanPayloadTailForSessions, scanPayloadEnd,
    scanPayloadRangeForSessions, getPersistenceSetSessions, hname, Option.bind_some, ← hsame]
    at hhead htail hrange hsessions
  constructor
  all_goals
    simp only [scanPayloadHeadForSessions, scanPayloadTailForSessions, scanPayloadEnd,
      scanPayloadRangeForSessions, getPersistenceSetSessions, hname, Option.bind_some]
    assumption

/-- **All replies are safe exactly for a table that is not empty.** -/
theorem PayloadOf.safe_iff_ne_nil (h : PayloadOf s p rows) :
    (∀ distinct : DistinctCommand, distinct.Replies s.db → ScansSafe distinct s p rows) ↔
      rows ≠ [] := by
  constructor
  · rintro hsafe rfl
    have hd := answers_distinctOf s.db
    obtain ⟨info, hhead, _⟩ := (hsafe (distinctOf s.db) hd.replies).head
    rw [h.scanPayloadHead_of_empty hd] at hhead
    cases hhead
  · intro hne distinct hreplies
    obtain ⟨name, hname, _⟩ := id h
    rcases hreplies (cStr name) DetectedObject.session with hfailed | ⟨values, hvalues, _⟩
    · exact scansSafe_of_failed hname hfailed
    · have hsame : distinct (cStr name) DetectedObject.session =
          distinct.completed s.db (cStr name) DetectedObject.session := by
        rw [DistinctCommand.completed, hvalues, Option.some_or]
      have hd := hreplies.answers_completed
      obtain ⟨⟨first, hfirst⟩, last, hlast⟩ := h.scanEnds_safe hd hne
      obtain ⟨hrange, hsessions⟩ := h.rangeScans_safe hd
      exact ScansSafe.congr hname hsame
        ⟨⟨first, hfirst, fun hempty => absurd hempty hne⟩,
          ⟨last, hlast, fun hempty => absurd hempty hne⟩, hrange, hsessions⟩

/--
**All session scans of a set are safe exactly when its table is not empty.**

The table of a set that was just created, or whose records were deleted, is empty.
-/
theorem scansSafe_iff (databaseName : String) (ops : List StorageOp) :
    AlwaysState storageStep
      (fun s => ∀ p t, s.getPayloadTableRef p = some t →
        ∃ rows, s.db.payload t = rows.map trajectoryDoc ∧
          ((∀ distinct : DistinctCommand, distinct.Replies s.db → ScansSafe distinct s p rows) ↔
            rows ≠ []))
      (inited databaseName) ops :=
  (payloadOf_of_run databaseName ops).mono fun _ h p t href => by
    obtain ⟨rows, hrows, hpayload⟩ := h p t href
    exact ⟨rows, hrows, hpayload.safe_iff_ne_nil⟩

/-- The only record of a video set was deleted. -/
theorem emptied_table_unsafe :
    ∃ s, runAll storageStep (inited "video")
        [.writeMetadata {} (videoRecord (-1)), .writeTrajectory true 1 [trajectoryAt 1],
          .deleteRange true { persistenceSetId := 1 }] = some s ∧
      s.getPayloadTableRef 1 = some "video_video_traj_sensor5" ∧
      s.db.payload "video_video_traj_sensor5" = [] ∧
      ¬ ScansSafe (distinctOf s.db) s 1 [] := by
  have hlast : (runAll storageStep (inited "video")
      [.writeMetadata {} (videoRecord (-1)), .writeTrajectory true 1 [trajectoryAt 1],
        .deleteRange true { persistenceSetId := 1 }]).map
        (fun s => (s.getTableName 1, s.getPayloadTableRef 1,
          (s.db.payload "video_video_traj_sensor5").isEmpty)) =
      some (some "video_video_traj_sensor5", some "video_video_traj_sensor5", true) := by
    decide
  obtain ⟨s, hs, hvalues⟩ := Option.map_eq_some_iff.mp hlast
  simp only [Prod.mk.injEq, List.isEmpty_iff] at hvalues
  obtain ⟨hname, href, hempty⟩ := hvalues
  refine ⟨s, hs, href, hempty, fun hsafe => ?_⟩
  have hpayload : PayloadOf s 1 [] := ⟨_, hname, href, hempty⟩
  obtain ⟨info, hhead, _⟩ := hsafe.head
  rw [hpayload.scanPayloadHead_of_empty (answers_distinctOf s.db)] at hhead
  cases hhead

end MicroserviceCommon
