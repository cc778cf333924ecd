import MicroserviceCommon.Properties.SessionScans

/-!
# Writing and reading trajectories

What was written to a payload table is read back by the steps of a session, by a range of them or as
a whole.

* `sameRecord_readTrajectory` — the fields of one record
* `trajectoryQuery_of_nonneg` — which records a query with bounds finds
* `read_written` — the records of any sequence of writes
-/

namespace MicroserviceCommon

open Infra
open DatabaseManagerBase
open MongoFields

/-! ## Records -/

/-- The fields that come back: the position of an active object only. -/
structure SameRecord (read written : SPersistenceTrajectory) : Prop where
  objId : read.objId = written.objId
  state : read.state = written.state
  sessionNum : read.sessionNum = written.sessionNum
  logicTime : read.logicTime = written.logicTime
  astroTimeMillisec : read.astroTimeMillisec = written.astroTimeMillisec
  position : written.state = .active → read.latDeg = written.latDeg ∧
    read.lonDeg = written.lonDeg ∧ read.height = written.height ∧ read.yawDeg = written.yawDeg

/-- **A record is read as it was written, whatever the memory held.** -/
theorem sameRecord_readTrajectory (uninit traj : SPersistenceTrajectory) :
    SameRecord (readTrajectory uninit (trajectoryDoc traj)) traj := by
  have hstate : EState.ofInt32 (iterInt32 ((trajectoryDoc traj).get? DetectedObject.state)) =
      traj.state := EState.ofInt32_toInt32 _
  have hobj : (iterInt64 ((trajectoryDoc traj).get? DetectedObject.objreprId)).toUInt64 =
      traj.objId := UInt64.toUInt64_toInt64 _
  unfold readTrajectory
  simp only [hstate, hobj]
  by_cases h : traj.state = .active
  · rw [if_pos h]
    exact ⟨rfl, rfl, rfl, rfl, rfl, fun _ => ⟨rfl, rfl, rfl, rfl⟩⟩
  · rw [if_neg h]
    exact ⟨rfl, rfl, rfl, rfl, rfl, fun hactive => absurd hactive h⟩

/-- A cursor over the documents of these records. -/
theorem forall₂_readTrajectory : ∀ (uninit : Nat → SPersistenceTrajectory)
    (rows : List SPersistenceTrajectory), List.Forall₂ SameRecord
      ((rows.map trajectoryDoc).mapIdx fun i doc => readTrajectory (uninit i) doc) rows
  | _, [] => List.Forall₂.nil
  | uninit, r :: rows => by
    rw [List.map_cons, List.mapIdx_cons]
    exact List.Forall₂.cons (sameRecord_readTrajectory _ r)
      (forall₂_readTrajectory (fun i => uninit (i + 1)) rows)

/-! ## Queries -/

/-- The record is of the filter's session, and its step is within the bounds. -/
def SPersistenceSetFilter.Selects (filter : SPersistenceSetFilter) (r : SPersistenceTrajectory) :
    Prop :=
  r.sessionNum = filter.sessionNum ∧ filter.minLogicStep ≤ r.logicTime ∧
    r.logicTime ≤ filter.maxLogicStep

instance (filter : SPersistenceSetFilter) (r : SPersistenceTrajectory) :
    Decidable (filter.Selects r) :=
  inferInstanceAs (Decidable (_ ∧ _ ∧ _))

section Query

variable {filter : SPersistenceSetFilter}

/-- **Both queries with bounds find the records of the session within them.** -/
theorem trajectoryQuery_of_nonneg (hmin : 0 ≤ filter.minLogicStep) (hmax : 0 ≤ filter.maxLogicStep)
    (r : SPersistenceTrajectory) :
    trajectoryQuery filter (trajectoryDoc r) = decide (filter.Selects r) := by
  have hsession : Query.eq DetectedObject.session (.int32 filter.sessionNum) (trajectoryDoc r) =
      (r.sessionNum == filter.sessionNum) := Bson.sameValue_int32 _ _
  have hstep : Query.eq DetectedObject.logicTime (.int64 filter.minLogicStep) (trajectoryDoc r) =
      (r.logicTime == filter.minLogicStep) := Bson.sameValue_int64 _ _
  have hgte : Query.gte DetectedObject.logicTime (.int64 filter.minLogicStep) (trajectoryDoc r) =
      decide (filter.minLogicStep ≤ r.logicTime) := Bson.atMost_int64 _ _
  have hlte : Query.lte DetectedObject.logicTime (.int64 filter.maxLogicStep) (trajectoryDoc r) =
      decide (r.logicTime ≤ filter.maxLogicStep) := Bson.atMost_int64 _ _
  rw [Bool.eq_iff_iff, decide_eq_true_iff, SPersistenceSetFilter.Selects, trajectoryQuery]
  by_cases hsame : filter.minLogicStep = filter.maxLogicStep
  · -- one step
    rw [if_pos ⟨hsame, hmin⟩, ← hsame]
    simp only [Query.and, List.all_cons, List.all_nil, hsession, hstep, Bool.and_true,
      Bool.and_eq_true, beq_iff_eq]
    exact and_congr_right fun _ => ⟨fun heq => heq ▸ ⟨le_rfl, le_rfl⟩, fun h => le_antisymm h.2 h.1⟩
  · rw [if_neg fun h => hsame h.1, if_pos ⟨hmin, hmax⟩]
    simp only [Query.and, List.all_cons, List.all_nil, hsession, hgte, hlte, Bool.and_true,
      Bool.and_eq_true, beq_iff_eq, decide_eq_true_eq]

/-- The bound for all steps asks for the whole area. -/
theorem trajectoryQuery_of_neg (hmin : ¬ filter.minLogicStep ≥ 0) :
    trajectoryQuery filter = Query.all := by
  rw [trajectoryQuery, if_neg fun h => hmin h.2, if_neg fun h => hmin h.1]

end Query

/-! ## Reading a table -/

section Read

variable {s : DatabaseManagerBase} {filter : SPersistenceSetFilter} {t : String}
  {rows : List SPersistenceTrajectory}

/-- **A read returns the records that its query finds.** -/
theorem readTrajectoryData_of_query {select : SPersistenceTrajectory → Bool}
    (href : s.getPayloadTableRef filter.persistenceSetId = some t)
    (hpay : s.db.payload t = rows.map trajectoryDoc)
    (hquery : ∀ r, trajectoryQuery filter (trajectoryDoc r) = select r)
    (uninit : Nat → SPersistenceTrajectory) :
    ∃ out, s.readTrajectoryData uninit filter = some out ∧
      List.Forall₂ SameRecord out (rows.filter select) := by
  have hfind : Collection.find (trajectoryQuery filter) (s.db.payload t) =
      (rows.filter select).map trajectoryDoc := by
    rw [hpay, Collection.find_map hquery, Collection.find]
  refine ⟨((rows.filter select).map trajectoryDoc).mapIdx fun i doc =>
    readTrajectory (uninit i) doc, ?_, forall₂_readTrajectory uninit _⟩
  rw [readTrajectoryData, href, Option.map_some, hfind]

end Read

/-! ## Writing -/

/-- A call of `writeTrajectoryData`, with the result of the driver. -/
structure TrajectoryBatch where
  persId : TPersistenceSetId
  data : List SPersistenceTrajectory
  rt : Bool := true
  deriving DecidableEq, Repr

/-- A write that succeeds. -/
def writeBatch (s : DatabaseManagerBase) (b : TrajectoryBatch) : Option DatabaseManagerBase :=
  (s.writeTrajectoryData b.rt b.persId b.data).bind fun (s', ok) => if ok then some s' else none

/-- **A successful write appends the documents of a non-empty batch to one table.** -/
theorem writeBatch_eq_some {s s' : DatabaseManagerBase} {b : TrajectoryBatch}
    (h : writeBatch s b = some s') :
    b.data ≠ [] ∧ ∃ t, s.getPayloadTableRef b.persId = some t ∧
      s' = s.setPayload t (s.db.payload t ++ b.data.map trajectoryDoc) := by
  obtain ⟨⟨s₁, ok⟩, hwrite, hok⟩ := Option.bind_eq_some_iff.mp h
  obtain ⟨t, href, heq⟩ := Option.map_eq_some_iff.mp hwrite
  split at heq
  · next hrt =>
    cases heq
    cases hok
    rw [Bool.and_eq_true, Bool.not_eq_true', List.isEmpty_eq_false_iff] at hrt
    exact ⟨hrt.2, t, href, rfl⟩
  · cases heq
    cases hok

/-- **The documents of all batches are in the table, and the references stay.** -/
theorem payload_of_writes {t : String} : ∀ {batches : List TrajectoryBatch}
    {s s' : DatabaseManagerBase}, runAll writeBatch s batches = some s' →
      (∀ b ∈ batches, s.getPayloadTableRef b.persId = some t) →
        s'.db.payload t =
            s.db.payload t ++ (batches.flatMap TrajectoryBatch.data).map trajectoryDoc ∧
          s'.getPayloadTableRef = s.getPayloadTableRef
  | [], s, s', hrun, _ => by
    cases hrun
    exact ⟨(List.append_nil _).symm, rfl⟩
  | b :: batches, s, s', hrun, htable => by
    obtain ⟨s₁, hwrite, hrest⟩ := Option.bind_eq_some_iff.mp hrun
    obtain ⟨_, t', href, rfl⟩ := writeBatch_eq_some hwrite
    have ht : t' = t := Option.some.inj (href.symm.trans (htable b List.mem_cons_self))
    subst ht
    obtain ⟨hpay, hrefs⟩ := payload_of_writes hrest fun b' hb' =>
      htable b' (List.mem_cons_of_mem _ hb')
    refine ⟨?_, hrefs⟩
    rw [hpay, payload_setPayload, Function.update_self, List.flatMap_cons, List.map_append,
      List.append_assoc]

/-! ## The round trip -/

/-- The records of some list are returned, each as it was written. -/
def ReturnsRecords (out written : List SPersistenceTrajectory) : Prop :=
  ∃ l, l.Perm written ∧ List.Forall₂ SameRecord out l

/--
**What was written is read.**

After any successful writes to a table that was empty, a read with bounds returns the records of the
session within them, and a read of all steps returns all records.
-/
theorem read_written (s s' : DatabaseManagerBase) (t : String) (batches : List TrajectoryBatch)
    (filter : SPersistenceSetFilter) (uninit : Nat → SPersistenceTrajectory)
    (hempty : s.db.payload t = [])
    (htable : ∀ b ∈ batches, s.getPayloadTableRef b.persId = some t)
    (hwrites : runAll writeBatch s batches = some s')
    (hfilter : s.getPayloadTableRef filter.persistenceSetId = some t) :
    ∃ out, s'.readTrajectoryData uninit filter = some out ∧
      (0 ≤ filter.minLogicStep → 0 ≤ filter.maxLogicStep → ReturnsRecords out
        ((batches.flatMap TrajectoryBatch.data).filter fun r => filter.Selects r)) ∧
      (filter.minLogicStep = allLogicSteps →
        ReturnsRecords out (batches.flatMap TrajectoryBatch.data)) := by
  obtain ⟨hpay, hrefs⟩ := payload_of_writes hwrites htable
  rw [hempty, List.nil_append] at hpay
  have href : s'.getPayloadTableRef filter.persistenceSetId = some t := hrefs ▸ hfilter
  by_cases hmin : 0 ≤ filter.minLogicStep
  · have hall : filter.minLogicStep ≠ allLogicSteps := fun heq => by
      rw [heq] at hmin
      exact absurd hmin (by decide)
    by_cases hmax : 0 ≤ filter.maxLogicStep
    · obtain ⟨out, hread, hout⟩ := readTrajectoryData_of_query href hpay
        (trajectoryQuery_of_nonneg hmin hmax) uninit
      exact ⟨out, hread, fun _ _ => ⟨_, List.Perm.refl _, hout⟩, fun h => absurd h hall⟩
    · exact ⟨_, by rw [readTrajectoryData, href, Option.map_some], fun _ h => absurd h hmax,
        fun h => absurd h hall⟩
  · have hall : ∀ r, trajectoryQuery filter (trajectoryDoc r) = true := fun r => by
      rw [trajectoryQuery_of_neg hmin]
      rfl
    obtain ⟨out, hread, hout⟩ := readTrajectoryData_of_query href hpay hall uninit
    rw [List.filter_true] at hout
    exact ⟨out, hread, fun h => absurd h hmin, fun _ => ⟨_, List.Perm.refl _, hout⟩⟩

/-- Two batches of two sessions, and the step 1 of session 5. -/
theorem read_written_step :
    ∃ s' out, runAll writeBatch (managerOf [])
        [{ persId := 1, data := [recordAt 5 0 1000, recordAt 5 1 2000] },
          { persId := 1, data := [recordAt 6 1 9000] }] = some s' ∧
      s'.readTrajectoryData (fun _ => recordAt 0 0 0)
        { persistenceSetId := 1, sessionNum := 5, minLogicStep := 1, maxLogicStep := 1 } =
          some out ∧
      ReturnsRecords out [recordAt 5 1 2000] := by
  obtain ⟨out, hread, hbounds, _⟩ := read_written (managerOf []) _ "video_raw"
    [{ persId := 1, data := [recordAt 5 0 1000, recordAt 5 1 2000] },
      { persId := 1, data := [recordAt 6 1 9000] }]
    { persistenceSetId := 1, sessionNum := 5, minLogicStep := 1, maxLogicStep := 1 }
    (fun _ => recordAt 0 0 0) rfl (by decide) rfl (by decide)
  exact ⟨_, out, rfl, hread, hbounds (by decide) (by decide)⟩

end MicroserviceCommon
