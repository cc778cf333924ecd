import MicroserviceCommon.Properties.StoredData
import MicroserviceCommon.Storage.SessionScan

/-!
# Session scans

What the scans compute, as facts about the records of a session.

* `getSessionInfo_bounds_iff` — when the bounds of a session cover its records
* `sessionScans_agree` — the scans of `getSessionInfo` against the older scan of all steps
-/

namespace MicroserviceCommon

open Infra
open DatabaseManagerBase
open MongoFields

/-! ## One session -/

/-- The records of a session. -/
def sessionRows (rows : List SPersistenceTrajectory) (n : TSessionNum) :
    List SPersistenceTrajectory :=
  Collection.find (fun r => r.sessionNum == n) rows

variable {s : DatabaseManagerBase} {p : TPersistenceSetId} {t : String}
  {rows : List SPersistenceTrajectory} {n : TSessionNum}

theorem mem_sessionRows {r : SPersistenceTrajectory} :
    r ∈ sessionRows rows n ↔ r ∈ rows ∧ r.sessionNum = n := by
  rw [sessionRows, Collection.find, List.mem_filter, beq_iff_eq]

theorem sessionRows_ne_nil : sessionRows rows n ≠ [] ↔ ∃ r ∈ rows, r.sessionNum = n := by
  constructor
  · intro h
    obtain ⟨r, hr⟩ := List.exists_mem_of_ne_nil _ h
    exact ⟨r, mem_sessionRows.mp hr⟩
  · rintro ⟨r, hr⟩
    exact List.ne_nil_of_mem (mem_sessionRows.mpr hr)

@[simp] theorem query_session_trajectoryDoc (r : SPersistenceTrajectory) (n : TSessionNum) :
    Query.eq DetectedObject.session (.int32 n) (trajectoryDoc r) = (r.sessionNum == n) :=
  Bson.sameValue_int32 _ _

/-- The pipelines group the records of the session by their logic time. -/
theorem groupSteps_rows (rows : List SPersistenceTrajectory) (n : TSessionNum) :
    groupSteps (rows.map trajectoryDoc) n =
      Collection.groupMax SPersistenceTrajectory.logicTime
        SPersistenceTrajectory.astroTimeMillisec (sessionRows rows n) := by
  rw [groupSteps, Collection.find_map (fun r => query_session_trajectoryDoc r n),
    Collection.groupMax_map]
  rfl

/-- **`getSessionInfo` returns the first and the last group.** -/
theorem sessionInfo_rows (h : sessionRows rows n ≠ []) :
    ∃ first last,
      Collection.IsFirstGroup SPersistenceTrajectory.logicTime
        SPersistenceTrajectory.astroTimeMillisec (sessionRows rows n) first ∧
      Collection.IsLastGroup SPersistenceTrajectory.logicTime
        SPersistenceTrajectory.astroTimeMillisec (sessionRows rows n) last ∧
      sessionInfo (rows.map trajectoryDoc) n =
        { number := n
          minLogicStep := first.1
          maxLogicStep := last.1
          minTimestampMillisec := first.2
          maxTimestampMillisec := last.2 } := by
  obtain ⟨first, hdesc, hfirst⟩ := Collection.getLast?_orderDesc_groupMax
    SPersistenceTrajectory.logicTime SPersistenceTrajectory.astroTimeMillisec h
  obtain ⟨last, hasc, hlast⟩ := Collection.getLast?_orderAsc_groupMax
    SPersistenceTrajectory.logicTime SPersistenceTrajectory.astroTimeMillisec h
  refine ⟨first, last, hfirst, hlast, ?_⟩
  rw [sessionInfo, groupSteps_rows, Collection.foldl_overwrite, hasc, Collection.foldl_overwrite,
    hdesc]
  · rfl
  -- each loop body overwrites the two fields it writes
  all_goals
    intro out row row'
    rfl

/-- The numbers of a session cover its records and each of them belongs to a record. -/
structure SessionBounds (rows : List SPersistenceTrajectory) (n : TSessionNum)
    (info : SEventsSessionInfo) : Prop where
  minLogicStep : IsLeast (SPersistenceTrajectory.logicTime '' {r | r ∈ sessionRows rows n})
    info.minLogicStep
  maxLogicStep : IsGreatest (SPersistenceTrajectory.logicTime '' {r | r ∈ sessionRows rows n})
    info.maxLogicStep
  minTimestampMillisec :
    IsLeast (SPersistenceTrajectory.astroTimeMillisec '' {r | r ∈ sessionRows rows n})
      info.minTimestampMillisec
  maxTimestampMillisec :
    IsGreatest (SPersistenceTrajectory.astroTimeMillisec '' {r | r ∈ sessionRows rows n})
      info.maxTimestampMillisec

/-- Time follows the steps at both ends of a session: no record is earlier than any record of the
first step, and none is later than the latest record of the last step. -/
structure TimeFollowsSteps (rows : List SPersistenceTrajectory) (n : TSessionNum) : Prop where
  first : ∀ r ∈ sessionRows rows n, (∀ q ∈ sessionRows rows n, r.logicTime ≤ q.logicTime) →
    ∀ q ∈ sessionRows rows n, r.astroTimeMillisec ≤ q.astroTimeMillisec
  last : ∃ r ∈ sessionRows rows n, ∀ q ∈ sessionRows rows n,
    q.logicTime ≤ r.logicTime ∧ q.astroTimeMillisec ≤ r.astroTimeMillisec

instance (rows : List SPersistenceTrajectory) (n : TSessionNum) :
    Decidable (TimeFollowsSteps rows n) :=
  decidable_of_iff
    ((∀ r ∈ sessionRows rows n, (∀ q ∈ sessionRows rows n, r.logicTime ≤ q.logicTime) →
        ∀ q ∈ sessionRows rows n, r.astroTimeMillisec ≤ q.astroTimeMillisec) ∧
      ∃ r ∈ sessionRows rows n, ∀ q ∈ sessionRows rows n,
        q.logicTime ≤ r.logicTime ∧ q.astroTimeMillisec ≤ r.astroTimeMillisec)
    ⟨fun h => ⟨h.1, h.2⟩, fun h => ⟨h.first, h.last⟩⟩

/-- **The bounds of a session cover its records exactly when time follows the steps.** The lower
time is the latest one of the first step, where it should be the earliest one of the session. -/
theorem getSessionInfo_bounds_iff (href : s.getPayloadTableRef p = some t)
    (hpay : s.db.payload t = rows.map trajectoryDoc) (hpresent : ∃ r ∈ rows, r.sessionNum = n) :
    (∃ info, s.getSessionInfo p n = some info ∧ SessionBounds rows n info) ↔
      TimeFollowsSteps rows n := by
  obtain ⟨first, last, hfirst, hlast, hinfo⟩ := sessionInfo_rows (sessionRows_ne_nil.mpr hpresent)
  have hget : s.getSessionInfo p n = some (sessionInfo (rows.map trajectoryDoc) n) := by
    rw [DatabaseManagerBase.getSessionInfo, href, Option.map_some, hpay]
  constructor
  · rintro ⟨info, hsome, hbounds⟩
    rw [hget, hinfo] at hsome
    cases hsome
    exact ⟨hfirst.isLeast_iff.mp hbounds.minTimestampMillisec,
      hlast.isGreatest_iff.mp hbounds.maxTimestampMillisec⟩
  · intro h
    refine ⟨_, hget, ?_⟩
    rw [hinfo]
    exact ⟨hfirst.1, hlast.1, hfirst.isLeast_iff.mpr h.first, hlast.isGreatest_iff.mpr h.last⟩

/-- A record of object 7. -/
def recordAt (sessionNum : TSessionNum) (logicTime : TLogicStep) (astroTimeMillisec : Int64) :
    SPersistenceTrajectory where
  ctxId := 1
  missionId := 1
  objId := 7
  state := .active
  sessionNum := sessionNum
  logicTime := logicTime
  astroTimeMillisec := astroTimeMillisec
  latDeg := 0
  lonDeg := 0
  height := 0
  yawDeg := 0

/-- The manager of the set 1, whose table holds these records. -/
def managerOf (rows : List SPersistenceTrajectory) : DatabaseManagerBase where
  db := { payload := fun _ => rows.map trajectoryDoc }
  databaseName := "video"
  tablesByPersistenceId := UnorderedMap.empty.insert 1 "video_raw"
  tableNameByPersistenceId := UnorderedMap.empty.insert 1 "video_raw"

/-- A session of two steps, one record each. -/
theorem getSessionInfo_bounds_two_steps :
    ∃ info, (managerOf [recordAt 5 0 1000, recordAt 5 1 2000]).getSessionInfo 1 5 = some info ∧
      SessionBounds [recordAt 5 0 1000, recordAt 5 1 2000] 5 info :=
  (getSessionInfo_bounds_iff rfl rfl ⟨recordAt 5 0 1000, by decide⟩).mpr (by decide)

/-- Two records of one step: the session is said to begin at the later of them. -/
theorem getSessionInfo_skips_earlier :
    ¬ ∃ info, (managerOf [recordAt 5 0 1000, recordAt 5 0 2000]).getSessionInfo 1 5 = some info ∧
      SessionBounds [recordAt 5 0 1000, recordAt 5 0 2000] 5 info := by
  rintro ⟨info, hinfo, hbounds⟩
  have htime : ((managerOf [recordAt 5 0 1000, recordAt 5 0 2000]).getSessionInfo 1 5).map
      (·.minTimestampMillisec) = some 2000 := by
    decide
  rw [hinfo, Option.map_some, Option.some.injEq] at htime
  have hle := hbounds.minTimestampMillisec.2
    ⟨recordAt 5 0 1000, by decide, rfl⟩
  rw [htime] at hle
  exact absurd hle (by decide)

/-! ## The reply to `distinct` -/

/-- The documented reply: every value of the key once, in any order. -/
def DistinctCommand.Answers (distinct : DistinctCommand) (db : Database) : Prop :=
  ∀ table key, ∃ values, distinct table key = some values ∧ values.Nodup ∧
    ∀ v, v ∈ values ↔ ∃ d ∈ db.payload table, d.get? key = some v

/-- Such a reply, in the order of the records. -/
def distinctOf (db : Database) : DistinctCommand := fun table key =>
  some ((db.payload table).filterMap (·.get? key)).dedup

theorem answers_distinctOf (db : Database) : (distinctOf db).Answers db := by
  intro table key
  refine ⟨_, rfl, List.nodup_dedup _, fun v => ?_⟩
  rw [List.mem_dedup, List.mem_filterMap]

/-- The numbers of the sessions of a table, in the order of the reply. -/
structure NumbersOf (rows : List SPersistenceTrajectory) (numbers : List TSessionNum) : Prop where
  nodup : numbers.Nodup
  mem : ∀ n, n ∈ numbers ↔ ∃ r ∈ rows, r.sessionNum = n

theorem mem_sessionNumbers {values : List Bson} :
    n ∈ sessionNumbers values ↔ .int32 n ∈ values := by
  rw [sessionNumbers, List.mem_filterMap]
  constructor
  · rintro ⟨v, hv, hn⟩
    cases v <;> cases hn
    exact hv
  · intro h
    exact ⟨_, h, rfl⟩

theorem nodup_sessionNumbers {values : List Bson} (h : values.Nodup) :
    (sessionNumbers values).Nodup := by
  refine h.filterMap fun v v' m hv hv' => ?_
  cases v <;> cases hv
  cases v' <;> cases hv'
  rfl

theorem DistinctCommand.Answers.numbersOf {distinct : DistinctCommand} (h : distinct.Answers s.db)
    (hpay : s.db.payload t = rows.map trajectoryDoc) :
    ∃ values, distinct t DetectedObject.session = some values ∧
      NumbersOf rows (sessionNumbers values) := by
  obtain ⟨values, hreply, hnodup, hmem⟩ := h t DetectedObject.session
  refine ⟨values, hreply, nodup_sessionNumbers hnodup, fun n => ?_⟩
  rw [mem_sessionNumbers, hmem, hpay]
  constructor
  · rintro ⟨d, hd, hn⟩
    obtain ⟨r, hr, rfl⟩ := List.mem_map.mp hd
    have hval : Bson.int32 r.sessionNum = .int32 n := Option.some.inj hn
    exact ⟨r, hr, Bson.int32.inj hval⟩
  · rintro ⟨r, hr, rfl⟩
    exact ⟨trajectoryDoc r, List.mem_map_of_mem hr, rfl⟩

namespace NumbersOf

variable {numbers numbers' : List TSessionNum}

theorem perm (h : NumbersOf rows numbers) (h' : NumbersOf rows numbers') : numbers.Perm numbers' :=
  (List.perm_ext_iff_of_nodup h.nodup h'.nodup).mpr fun n => (h.mem n).trans (h'.mem n).symm

theorem ne_nil (h : NumbersOf rows numbers) (hne : rows ≠ []) : numbers ≠ [] := by
  obtain ⟨r, hr⟩ := List.exists_mem_of_ne_nil _ hne
  exact List.ne_nil_of_mem ((h.mem _).mpr ⟨r, hr, rfl⟩)

theorem rows_ne_nil (h : NumbersOf rows numbers) (hn : n ∈ numbers) : sessionRows rows n ≠ [] :=
  sessionRows_ne_nil.mpr ((h.mem n).mp hn)

end NumbersOf

/-! ## The scans of a payload table -/

/-- The set has its table in both maps, and the table holds these records. -/
def PayloadOf (s : DatabaseManagerBase) (p : TPersistenceSetId)
    (rows : List SPersistenceTrajectory) : Prop :=
  ∃ name, s.getTableName p = some name ∧ s.getPayloadTableRef p = some (cStr name) ∧
    s.db.payload (cStr name) = rows.map trajectoryDoc

theorem payloadOf_of_stored (h : Stored s) (href : s.getPayloadTableRef p = some t) :
    ∃ rows, s.db.payload t = rows.map trajectoryDoc ∧ PayloadOf s p rows := by
  obtain ⟨rows, hrows⟩ := h.payload t
  have htable : s.tablesByPersistenceId p = some t := by
    rw [getPayloadTableRef] at href
    split at href
    · exact href
    · cases href
  rw [h.named, Option.map_eq_some_iff] at htable
  obtain ⟨name, hname, rfl⟩ := htable
  exact ⟨rows, hrows, name, hname, href, hrows⟩

/-- **A set with a reference has its table in both maps, in every state of a run.** -/
theorem payloadOf_of_run (databaseName : String) (ops : List StorageOp) :
    AlwaysState storageStep
      (fun s => ∀ p t, s.getPayloadTableRef p = some t →
        ∃ rows, s.db.payload t = rows.map trajectoryDoc ∧ PayloadOf s p rows)
      (inited databaseName) ops :=
  (stored_of_run databaseName ops).mono fun _ h _ _ href => payloadOf_of_stored h href

/-- The session as the scan of all steps returns it. -/
def sessionSteps (rows : List SPersistenceTrajectory) (n : TSessionNum) : SEventsSessionInfo :=
  { sessionInfo (rows.map trajectoryDoc) n with
    steps := (Collection.orderAsc Prod.fst (groupSteps (rows.map trajectoryDoc) n)).map fun row =>
      { logicStep := row.1, timestampMillisec := row.2 } }

theorem number_sessionInfo (h : sessionRows rows n ≠ []) :
    (sessionInfo (rows.map trajectoryDoc) n).number = n := by
  obtain ⟨first, last, _, _, hinfo⟩ := sessionInfo_rows h
  rw [hinfo]

theorem stored_sessionSteps (h : sessionRows rows n ≠ []) :
    (sessionSteps rows n).stored = sessionInfo (rows.map trajectoryDoc) n := by
  obtain ⟨first, last, _, _, hinfo⟩ := sessionInfo_rows h
  rw [sessionSteps, hinfo]
  rfl

theorem minLogicStep_le_maxLogicStep (h : sessionRows rows n ≠ []) :
    (sessionInfo (rows.map trajectoryDoc) n).minLogicStep ≤
      (sessionInfo (rows.map trajectoryDoc) n).maxLogicStep := by
  obtain ⟨first, last, hfirst, hlast, hinfo⟩ := sessionInfo_rows h
  rw [hinfo]
  obtain ⟨r, hr, hstep⟩ := hfirst.1.1
  exact hlast.1.2 ⟨r, hr, hstep⟩

namespace PayloadOf

variable {distinct : DistinctCommand}

theorem getSessionInfo (h : PayloadOf s p rows) (n : TSessionNum) :
    s.getSessionInfo p n = some (sessionInfo (rows.map trajectoryDoc) n) := by
  obtain ⟨name, _, href, hpay⟩ := h
  rw [DatabaseManagerBase.getSessionInfo, href, Option.map_some, hpay]

/-- **The ends of the sorted steps are the rows that `getSessionInfo` keeps.** -/
theorem sessionWithSteps (h : PayloadOf s p rows) (hn : sessionRows rows n ≠ []) :
    s.sessionWithSteps p n = some (sessionSteps rows n) := by
  obtain ⟨name, _, href, hpay⟩ := h
  obtain ⟨first, last, hfirst, hlast, hinfo⟩ := sessionInfo_rows hn
  obtain ⟨front, hhead, hfront⟩ := Collection.head?_orderAsc_groupMax
    SPersistenceTrajectory.logicTime SPersistenceTrajectory.astroTimeMillisec hn
  obtain ⟨back, hend, hback⟩ := Collection.getLast?_orderAsc_groupMax
    SPersistenceTrajectory.logicTime SPersistenceTrajectory.astroTimeMillisec hn
  have hff : front = first := hfront.unique hfirst
  have hbl : back = last := hback.unique hlast
  rw [DatabaseManagerBase.sessionWithSteps, DatabaseManagerBase.getSessionSteps, href,
    Option.map_some, Option.bind_some, hpay, sessionSteps, hinfo, groupSteps_rows, List.head?_map,
    hhead, List.getLast?_map, hend, hff, hbl]
  rfl

theorem scanPayloadEnd (h : PayloadOf s p rows) (hd : distinct.Answers s.db)
    (select : List TSessionNum → Option TSessionNum) :
    ∃ numbers, NumbersOf rows numbers ∧ DatabaseManagerBase.scanPayloadEnd select distinct s p =
      (select numbers).map (sessionInfo (rows.map trajectoryDoc)) := by
  have hinfo := h.getSessionInfo
  obtain ⟨name, hname, _, hpay⟩ := h
  obtain ⟨values, hreply, hnumbers⟩ := hd.numbersOf hpay
  refine ⟨sessionNumbers values, hnumbers, ?_⟩
  rw [DatabaseManagerBase.scanPayloadEnd, hname, Option.bind_some, hreply, funext hinfo]
  exact Option.map_eq_bind.symm

theorem scanPayloadRangeForSessions (h : PayloadOf s p rows) (hd : distinct.Answers s.db) :
    ∃ numbers, NumbersOf rows numbers ∧ ∀ a b,
      s.scanPayloadRangeForSessions distinct p (a, b) =
        some ((numbers.filter fun n => a ≤ n ∧ n ≤ b).map
          (sessionInfo (rows.map trajectoryDoc))) := by
  have hinfo := h.getSessionInfo
  obtain ⟨name, hname, _, hpay⟩ := h
  obtain ⟨values, hreply, hnumbers⟩ := hd.numbersOf hpay
  refine ⟨sessionNumbers values, hnumbers, fun a b => ?_⟩
  rw [DatabaseManagerBase.scanPayloadRangeForSessions, hname, Option.bind_some, hreply]
  exact mapM_eq_some_map fun n _ => hinfo n

theorem getPersistenceSetSessions (h : PayloadOf s p rows) (hd : distinct.Answers s.db) :
    ∃ numbers, NumbersOf rows numbers ∧ s.getPersistenceSetSessions distinct p =
      some (Collection.orderAsc SEventsSessionInfo.number (numbers.map (sessionSteps rows))) := by
  have hsteps := fun {n} => h.sessionWithSteps (n := n)
  obtain ⟨name, hname, _, hpay⟩ := h
  obtain ⟨values, hreply, hnumbers⟩ := hd.numbersOf hpay
  refine ⟨sessionNumbers values, hnumbers, ?_⟩
  rw [DatabaseManagerBase.getPersistenceSetSessions, hname, Option.bind_some, hreply]
  show (List.mapM (s.sessionWithSteps p) (sessionNumbers values)).map _ = _
  rw [mapM_eq_some_map fun n hn => hsteps (hnumbers.rows_ne_nil hn), Option.map_some]

end PayloadOf

/-! ## The scans against each other -/

/-- The scans of single sessions against the list `L` of all sessions with their steps. Each call
has a reply to `distinct` of its own. -/
structure ScansAgree (s : DatabaseManagerBase) (p : TPersistenceSetId)
    (L : List SEventsSessionInfo) : Prop where
  sorted : L.Pairwise fun e e' => e.number < e'.number
  range : ∀ distinct : DistinctCommand, distinct.Answers s.db → ∀ a b,
    ∃ out, s.scanPayloadRangeForSessions distinct p (a, b) = some out ∧
      out.Perm ((L.filter fun e => a ≤ e.number ∧ e.number ≤ b).map SEventsSessionInfo.stored)
  head : ∀ distinct : DistinctCommand, distinct.Answers s.db →
    ∃ e ∈ L.head?, s.scanPayloadHeadForSessions distinct p = some e.stored
  tail : ∀ distinct : DistinctCommand, distinct.Answers s.db →
    ∃ e ∈ L.getLast?, s.scanPayloadTailForSessions distinct p = some e.stored
  steps : ∀ e ∈ L, e.minLogicStep ≤ e.maxLogicStep

namespace NumbersOf

variable {numbers numbers' : List TSessionNum} {e : SEventsSessionInfo}

theorem mem_sessions (h : NumbersOf rows numbers) (he : e ∈ numbers.map (sessionSteps rows)) :
    e.number ∈ numbers ∧ e = sessionSteps rows e.number := by
  obtain ⟨n, hn, rfl⟩ := List.mem_map.mp he
  have hnum : (sessionSteps rows n).number = n := number_sessionInfo (h.rows_ne_nil hn)
  rw [hnum]
  exact ⟨hn, rfl⟩

theorem sessionInfo_of_mem (h : NumbersOf rows numbers)
    (he : e ∈ numbers.map (sessionSteps rows)) :
    sessionInfo (rows.map trajectoryDoc) e.number = e.stored := by
  obtain ⟨hn, heq⟩ := h.mem_sessions he
  rw [← stored_sessionSteps (h.rows_ne_nil hn), ← heq]

/-- What holds of the numbers of the sessions holds of any other reply. -/
theorem forall_number (h : NumbersOf rows numbers) (h' : NumbersOf rows numbers')
    {P : TSessionNum → Prop} (hP : ∀ e ∈ numbers.map (sessionSteps rows), P e.number) :
    ∀ n ∈ numbers', P n := by
  intro n hn
  have hmem : n ∈ numbers := (h.perm h').mem_iff.mpr hn
  have hnum : (sessionSteps rows n).number = n := number_sessionInfo (h.rows_ne_nil hmem)
  rw [← hnum]
  exact hP _ (List.mem_map_of_mem hmem)

theorem map_number (h : NumbersOf rows numbers) :
    (numbers.map (sessionSteps rows)).map SEventsSessionInfo.number = numbers := by
  rw [List.map_map]
  refine (List.map_congr_left fun n hn => ?_).trans (List.map_id numbers)
  exact number_sessionInfo (h.rows_ne_nil hn)

theorem sorted (h : NumbersOf rows numbers) :
    (Collection.orderAsc SEventsSessionInfo.number
      (numbers.map (sessionSteps rows))).Pairwise fun e e' => e.number < e'.number := by
  have hperm := Collection.perm_orderAsc SEventsSessionInfo.number
    (numbers.map (sessionSteps rows))
  have hnodup : ((Collection.orderAsc SEventsSessionInfo.number
      (numbers.map (sessionSteps rows))).map SEventsSessionInfo.number).Nodup := by
    rw [(hperm.map SEventsSessionInfo.number).nodup_iff, h.map_number]
    exact h.nodup
  exact (Collection.pairwise_orderAsc _ _).imp₂ (fun _ _ => lt_of_le_of_ne)
    (List.pairwise_map.mp hnodup)

/-- The light scan of a range is the older scan, filtered. -/
theorem filter_sessions (h : NumbersOf rows numbers) (a b : TSessionNum) :
    (((numbers.map (sessionSteps rows)).filter fun e => a ≤ e.number ∧ e.number ≤ b).map
      SEventsSessionInfo.stored) =
      (numbers.filter fun n => a ≤ n ∧ n ≤ b).map (sessionInfo (rows.map trajectoryDoc)) := by
  rw [List.filter_map, List.map_map]
  have hfilter : numbers.filter ((fun e : SEventsSessionInfo =>
      decide (a ≤ e.number ∧ e.number ≤ b)) ∘ sessionSteps rows) =
      numbers.filter fun n => a ≤ n ∧ n ≤ b := by
    refine List.filter_congr fun n hn => ?_
    have hnum : (sessionSteps rows n).number = n := number_sessionInfo (h.rows_ne_nil hn)
    rw [Function.comp_apply, hnum]
  rw [hfilter]
  exact List.map_congr_left fun n hn =>
    stored_sessionSteps (h.rows_ne_nil (List.mem_of_mem_filter hn))

end NumbersOf

/-- **The light session scans and the scan of all steps agree.** -/
theorem sessionScans_agree {distinct : DistinctCommand} (h : PayloadOf s p rows) (hne : rows ≠ [])
    (hd : distinct.Answers s.db) :
    ∃ L, s.getPersistenceSetSessions distinct p = some L ∧ ScansAgree s p L := by
  obtain ⟨numbers, hnumbers, hL⟩ := h.getPersistenceSetSessions hd
  have hperm := Collection.perm_orderAsc SEventsSessionInfo.number
    (numbers.map (sessionSteps rows))
  have hL_ne : Collection.orderAsc SEventsSessionInfo.number
      (numbers.map (sessionSteps rows)) ≠ [] := by
    refine Collection.orderAsc_ne_nil _ fun hnil => ?_
    exact hnumbers.ne_nil hne (List.map_eq_nil_iff.mp hnil)
  refine ⟨_, hL, ?_⟩
  constructor
  · exact hnumbers.sorted
  · intro distinct' hd' a b
    obtain ⟨numbers', hnumbers', hscan⟩ := h.scanPayloadRangeForSessions hd'
    refine ⟨_, hscan a b, ?_⟩
    rw [← hnumbers'.filter_sessions]
    refine List.Perm.map _ (List.Perm.filter _ ?_)
    exact ((hnumbers'.perm hnumbers).map _).trans hperm.symm
  · intro distinct' hd'
    obtain ⟨numbers', hnumbers', hscan⟩ := h.scanPayloadEnd hd' List.min?
    have hhead := List.head?_eq_some_head hL_ne
    obtain ⟨hmem, hle⟩ := Collection.head?_orderAsc hhead
    have hmin : numbers'.min? = some _ := List.min?_eq_some_iff.mpr
      ⟨(hnumbers.perm hnumbers').mem_iff.mp (hnumbers.mem_sessions hmem).1,
        hnumbers.forall_number hnumbers' hle⟩
    refine ⟨_, hhead, ?_⟩
    rw [DatabaseManagerBase.scanPayloadHeadForSessions, hscan, hmin, Option.map_some,
      hnumbers.sessionInfo_of_mem hmem]
  · intro distinct' hd'
    obtain ⟨numbers', hnumbers', hscan⟩ := h.scanPayloadEnd hd' List.max?
    have hlast := List.getLast?_eq_some_getLast hL_ne
    obtain ⟨hmem, hle⟩ := Collection.getLast?_orderAsc hlast
    have hmax : numbers'.max? = some _ := List.max?_eq_some_iff.mpr
      ⟨(hnumbers.perm hnumbers').mem_iff.mp (hnumbers.mem_sessions hmem).1,
        hnumbers.forall_number hnumbers' (P := fun n => n ≤ _) hle⟩
    refine ⟨_, hlast, ?_⟩
    rw [DatabaseManagerBase.scanPayloadTailForSessions, hscan, hmax, Option.map_some,
      hnumbers.sessionInfo_of_mem hmem]
  · intro e he
    obtain ⟨hn, heq⟩ := hnumbers.mem_sessions (hperm.mem_iff.mp he)
    rw [heq]
    exact minLogicStep_le_maxLogicStep (hnumbers.rows_ne_nil hn)

/-- Two sessions. -/
theorem sessionScans_agree_two_sessions :
    ∃ L, (managerOf [recordAt 6 0 3000, recordAt 5 0 1000]).getPersistenceSetSessions
        (distinctOf (managerOf [recordAt 6 0 3000, recordAt 5 0 1000]).db) 1 = some L ∧
      ScansAgree (managerOf [recordAt 6 0 3000, recordAt 5 0 1000]) 1 L :=
  sessionScans_agree ⟨"video_raw", by decide, by decide, rfl⟩ (by decide) (answers_distinctOf _)

end MicroserviceCommon
