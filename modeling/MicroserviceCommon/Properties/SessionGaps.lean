import MicroserviceCommon.Infra.MaximalRun
import MicroserviceCommon.Properties.SessionScans

/-!
# The split of sessions at their gaps

`splitSessionByGaps` should return the maximal runs of consecutive steps of a session, and
`scanPayloadForSessions` the runs of all sessions from a given one. The flag that would let the loop
see a gap is never set, so that both return nothing.

* `split_by_gaps_iff` — right exactly for a session without records, and a scan exactly when there
  is no session from the given one on
* `split_of_one_step_empty` — a session of one record
-/

namespace MicroserviceCommon

open Infra
open DatabaseManagerBase
open MongoFields

/-- The logic steps of a session. -/
def stepsOf (rows : List SPersistenceTrajectory) (n : TSessionNum) : Set ℤ :=
  {k | ∃ r ∈ sessionRows rows n, r.logicTime.toInt = k}

/-- The greatest time that was recorded at a step of a session. -/
def IsTimeOf (rows : List SPersistenceTrajectory) (n : TSessionNum) (step : TLogicStep)
    (time : Int64) : Prop :=
  IsGreatest (SPersistenceTrajectory.astroTimeMillisec ''
    {r | r ∈ sessionRows rows n ∧ r.logicTime = step}) time

/-- The ends of an entry. -/
def SEventsSessionInfo.run (e : SEventsSessionInfo) : ℤ × ℤ :=
  (e.minLogicStep.toInt, e.maxLogicStep.toInt)

/-- The entries are the maximal runs of the steps of a session, with the times at their ends. -/
structure SplitByGaps (rows : List SPersistenceTrajectory) (n : TSessionNum)
    (out : List SEventsSessionInfo) : Prop where
  runs : IsRunDecomposition (stepsOf rows n) (out.map SEventsSessionInfo.run)
  number : ∀ e ∈ out, e.number = n
  minTime : ∀ e ∈ out, IsTimeOf rows n e.minLogicStep e.minTimestampMillisec
  maxTime : ∀ e ∈ out, IsTimeOf rows n e.maxLogicStep e.maxTimestampMillisec

/-- The splits of the sessions from `begin` on, one after the other. -/
def ScannedFrom (rows : List SPersistenceTrajectory) (begin : TSessionNum)
    (out : List SEventsSessionInfo) : Prop :=
  ∃ numbers split, NumbersOf rows numbers ∧
    (∀ n ∈ numbers, begin ≤ n → SplitByGaps rows n (split n)) ∧
    out = (numbers.filter fun n => begin ≤ n).flatMap split

variable {s : DatabaseManagerBase} {p : TPersistenceSetId} {rows : List SPersistenceTrajectory}
  {n begin : TSessionNum}

/-! ## What a split would be -/

/-- **Every record lies in exactly one entry.** -/
theorem SplitByGaps.existsUnique {out : List SEventsSessionInfo} (h : SplitByGaps rows n out)
    {r : SPersistenceTrajectory} (hr : r ∈ sessionRows rows n) :
    ∃! run, run ∈ out.map SEventsSessionInfo.run ∧
      run.1 ≤ r.logicTime.toInt ∧ r.logicTime.toInt ≤ run.2 :=
  h.runs.existsUnique ⟨r, hr, rfl⟩

theorem exists_time {k : ℤ} (h : k ∈ stepsOf rows n) :
    ∃ step time, step.toInt = k ∧ IsTimeOf rows n step time := by
  obtain ⟨r, hr, rfl⟩ := h
  obtain ⟨time, htime⟩ := Collection.exists_maxOf SPersistenceTrajectory.logicTime
    SPersistenceTrajectory.astroTimeMillisec hr
  exact ⟨r.logicTime, time, rfl, Collection.maxOf_eq_some.mp htime⟩

/-- **Every session has a split.** -/
theorem exists_splitByGaps (rows : List SPersistenceTrajectory) (n : TSessionNum) :
    ∃ out, SplitByGaps rows n out := by
  have hfinite : (stepsOf rows n).Finite := by
    refine (List.finite_toSet ((sessionRows rows n).map fun r => r.logicTime.toInt)).subset ?_
    rintro k ⟨r, hr, rfl⟩
    exact List.mem_map.mpr ⟨r, hr, rfl⟩
  obtain ⟨runs, hruns⟩ := exists_isRunDecomposition hfinite
  -- both ends of a run are steps
  have hentry : ∀ run : ℤ × ℤ, ∃ e : SEventsSessionInfo, run ∈ runs → e.run = run ∧ e.number = n ∧
      IsTimeOf rows n e.minLogicStep e.minTimestampMillisec ∧
      IsTimeOf rows n e.maxLogicStep e.maxTimestampMillisec := by
    intro run
    by_cases hrun : run ∈ runs
    · have hmaximal := hruns.maximal run hrun
      obtain ⟨first, t, hfirst, ht⟩ := exists_time (hmaximal.inside _ le_rfl hmaximal.le)
      obtain ⟨last, t', hlast, ht'⟩ := exists_time (hmaximal.inside _ hmaximal.le le_rfl)
      exact ⟨{ number := n
               minLogicStep := first
               maxLogicStep := last
               minTimestampMillisec := t
               maxTimestampMillisec := t' }, fun _ => ⟨Prod.ext hfirst hlast, rfl, ht, ht'⟩⟩
    · exact ⟨{}, fun h => absurd h hrun⟩
  choose entry hentry using hentry
  have hmap : (runs.map entry).map SEventsSessionInfo.run = runs := by
    rw [List.map_map]
    exact (List.map_congr_left fun run hrun => (hentry run hrun).1).trans (List.map_id runs)
  refine ⟨runs.map entry, hmap.symm ▸ hruns, ?_, ?_, ?_⟩
  · intro e he
    obtain ⟨run, hrun, rfl⟩ := List.mem_map.mp he
    exact (hentry run hrun).2.1
  · intro e he
    obtain ⟨run, hrun, rfl⟩ := List.mem_map.mp he
    exact (hentry run hrun).2.2.1
  · intro e he
    obtain ⟨run, hrun, rfl⟩ := List.mem_map.mp he
    exact (hentry run hrun).2.2.2

/-- **Only a session without records splits into nothing.** -/
theorem splitByGaps_nil_iff : SplitByGaps rows n [] ↔ ∀ r ∈ rows, r.sessionNum ≠ n := by
  constructor
  · intro h r hr hn
    obtain ⟨run, ⟨hmem, _⟩, _⟩ := h.existsUnique (mem_sessionRows.mpr ⟨hr, hn⟩)
    exact absurd hmem List.not_mem_nil
  · intro h
    refine ⟨IsRunDecomposition.nil_iff.mpr ?_, ?_, ?_, ?_⟩
    · rintro k ⟨r, hr, _⟩
      exact h r (mem_sessionRows.mp hr).1 (mem_sessionRows.mp hr).2
    all_goals exact fun e he => absurd he List.not_mem_nil

/-! ## What the loop does -/

/-- **The loop never opens a session.** -/
theorem foldl_next (n : TSessionNum) (l : List (Int64 × Int64)) :
    (l.foldl (GapScan.next n) {}).sessionOpened = false ∧
      (l.foldl (GapScan.next n) {}).out = [] := by
  have hstep : ∀ (l : List (Int64 × Int64)) (g : GapScan), g.sessionOpened = false → g.out = [] →
      (l.foldl (GapScan.next n) g).sessionOpened = false ∧
        (l.foldl (GapScan.next n) g).out = [] := by
    intro l
    induction l with
    | nil => exact fun g hopened hout => ⟨hopened, hout⟩
    | cons row l ih =>
      intro g hopened hout
      have hnext : g.next n row = { g with
          session := { g.session with minLogicStep := row.1, minTimestampMillisec := row.2 }
          previousStep := row.1 } := by
        rw [GapScan.next, hopened, if_neg Bool.false_ne_true]
      rw [List.foldl_cons, hnext]
      exact ih _ hopened hout
  exact hstep l {} rfl rfl

theorem splitSessionByGaps_eq (h : PayloadOf s p rows) (n : TSessionNum) :
    s.splitSessionByGaps p n = some [] := by
  obtain ⟨name, _, href, _⟩ := h
  rw [splitSessionByGaps, href, Option.map_some, (foldl_next n _).2]

theorem scanPayloadForSessions_eq {distinct : DistinctCommand} (h : PayloadOf s p rows)
    (hd : distinct.Answers s.db) (begin : TSessionNum) :
    s.scanPayloadForSessions distinct p begin = some [] := by
  have hsplit := splitSessionByGaps_eq h
  obtain ⟨name, hname, _, hpay⟩ := h
  obtain ⟨values, hreply, _⟩ := hd.numbersOf hpay
  rw [scanPayloadForSessions, hname, Option.bind_some, hreply]
  show (List.mapM (fun m => s.splitSessionByGaps p m) (sessionNumbers values)).map
    List.flatten = some []
  rw [mapM_eq_some_map fun n _ => hsplit n, Option.map_some, List.flatten_eq_nil_iff.mpr]
  intro part hpart
  obtain ⟨_, _, rfl⟩ := List.mem_map.mp hpart
  rfl

/-- **Only without a session from the given one on does a scan find nothing.** -/
theorem scannedFrom_nil_iff {distinct : DistinctCommand} (h : PayloadOf s p rows)
    (hd : distinct.Answers s.db) :
    ScannedFrom rows begin [] ↔ ∀ r ∈ rows, r.sessionNum < begin := by
  constructor
  · rintro ⟨numbers, split, hnumbers, hsplit, hflat⟩ r hr
    by_contra hnot
    have hbegin : begin ≤ r.sessionNum := not_lt.mp hnot
    have hmem : r.sessionNum ∈ numbers := (hnumbers.mem _).mpr ⟨r, hr, rfl⟩
    -- the part of this session would be empty
    have hnil : split r.sessionNum = [] :=
      List.flatMap_eq_nil_iff.mp hflat.symm _ (List.mem_filter.mpr ⟨hmem, decide_eq_true hbegin⟩)
    have hempty := hsplit _ hmem hbegin
    rw [hnil] at hempty
    exact splitByGaps_nil_iff.mp hempty r hr rfl
  · intro hbelow
    obtain ⟨name, _, _, hpay⟩ := h
    obtain ⟨values, _, hnumbers⟩ := hd.numbersOf hpay
    have hnone : ∀ m ∈ sessionNumbers values, ¬ begin ≤ m := by
      intro m hm
      obtain ⟨r, hr, rfl⟩ := (hnumbers.mem m).mp hm
      exact not_le.mpr (hbelow r hr)
    refine ⟨_, fun _ => [], hnumbers, fun m hm hbegin => absurd hbegin (hnone m hm), ?_⟩
    exact (List.flatMap_eq_nil_iff.mpr fun _ _ => rfl).symm

/--
**When sessions are split at their gaps.**

For a table with these records: a session exactly when it has none of them, a scan exactly when all
of them are of sessions before its first. A split to return is always there.
-/
theorem split_by_gaps_iff {distinct : DistinctCommand} (h : PayloadOf s p rows)
    (hd : distinct.Answers s.db) (n begin : TSessionNum) :
    (∃ out, SplitByGaps rows n out) ∧
    ((∃ out, s.splitSessionByGaps p n = some out ∧ SplitByGaps rows n out) ↔
      ∀ r ∈ rows, r.sessionNum ≠ n) ∧
    ((∃ out, s.scanPayloadForSessions distinct p begin = some out ∧
        ScannedFrom rows begin out) ↔
      ∀ r ∈ rows, r.sessionNum < begin) := by
  rw [splitSessionByGaps_eq h, scanPayloadForSessions_eq h hd, ← splitByGaps_nil_iff,
    ← scannedFrom_nil_iff h hd]
  refine ⟨exists_splitByGaps rows n, ⟨?_, fun hsplit => ⟨[], rfl, hsplit⟩⟩, ?_,
    fun hscan => ⟨[], rfl, hscan⟩⟩
  · rintro ⟨out, hout, hsplit⟩
    cases hout
    exact hsplit
  · rintro ⟨out, hout, hscan⟩
    cases hout
    exact hscan

/-- Two records of session 5, seen from session 6. -/
theorem split_by_gaps_of_other_session :
    ∃ out, (managerOf [recordAt 5 0 1000, recordAt 5 1 2000]).splitSessionByGaps 1 6 = some out ∧
      SplitByGaps [recordAt 5 0 1000, recordAt 5 1 2000] 6 out :=
  (split_by_gaps_iff ⟨"video_raw", by decide, by decide, rfl⟩
    (answers_distinctOf (managerOf [recordAt 5 0 1000, recordAt 5 1 2000]).db) 6 6).2.1.mpr
    (by decide)

/-- One record, and the split of its session is empty. -/
theorem split_of_one_step_empty :
    (managerOf [recordAt 5 0 1000]).splitSessionByGaps 1 5 = some [] ∧
      ¬ ∃ out, (managerOf [recordAt 5 0 1000]).splitSessionByGaps 1 5 = some out ∧
        SplitByGaps [recordAt 5 0 1000] 5 out := by
  have hnil : (managerOf [recordAt 5 0 1000]).splitSessionByGaps 1 5 = some [] := by decide
  refine ⟨hnil, ?_⟩
  rintro ⟨out, hout, hsplit⟩
  rw [hnil] at hout
  cases hout
  exact splitByGaps_nil_iff.mp hsplit _ List.mem_cons_self rfl

end MicroserviceCommon
