import MicroserviceCommon.Properties.TrajectoryRoundTrip

/-!
# Range deletion and range reading

A range deletion should remove the records that a read with the same filter returns, and keep all
others. It uses only the id of the filter and removes everything.

* `range_deleted_iff` — right exactly when the filter selects every record of the table, or none and
  the driver fails
* `range_deletion_removes_other_step` — a table with a record of another step
-/

namespace MicroserviceCommon

open Infra
open DatabaseManagerBase

/-- The read returns the selected records, and the deletion leaves the table with the others. The
other tables stay. -/
def RangeDeleted (rt : Bool) (uninit : Nat → SPersistenceTrajectory) (s : DatabaseManagerBase)
    (filter : SPersistenceSetFilter) (t : String) (rows : List SPersistenceTrajectory) : Prop :=
  ∃ out s', s.readTrajectoryData uninit filter = some out ∧
    s.deleteDataRange rt filter = some s' ∧
    ReturnsRecords out (Collection.find (fun r => filter.Selects r) rows) ∧
    s'.db.payload = Function.update s.db.payload t
      ((Collection.remove (fun r => filter.Selects r) rows).map trajectoryDoc)

variable {s : DatabaseManagerBase} {filter : SPersistenceSetFilter} {t : String}
  {rows : List SPersistenceTrajectory}

/-- **A deletion leaves nothing of the table, or all of it when the driver fails.** -/
theorem deleteDataRange_rows (href : s.getPayloadTableRef filter.persistenceSetId = some t)
    (hpay : s.db.payload t = rows.map trajectoryDoc) (rt : Bool) :
    ∃ s', s.deleteDataRange rt filter = some s' ∧
      s'.db.payload = Function.update s.db.payload t
        ((Collection.remove (fun _ => rt) rows).map trajectoryDoc) := by
  refine ⟨_, by rw [deleteDataRange, href, Option.map_some], ?_⟩
  cases rt with
  | true =>
    rw [if_pos rfl, payload_setPayload, hpay]
    exact congrArg _ (Collection.remove_map (fun _ => rfl) rows)
  | false =>
    have hall : Collection.remove (fun _ => false) rows = rows :=
      List.filter_eq_self.mpr fun _ _ => rfl
    rw [if_neg Bool.false_ne_true, hall, ← hpay, Function.update_eq_self]

/--
**When a range deletion removes what a read returns.**

With bounds: exactly when the driver succeeds and the filter selects every record of the table, or
the driver fails and it selects none.
-/
theorem range_deleted_iff (rt : Bool) (uninit : Nat → SPersistenceTrajectory)
    (href : s.getPayloadTableRef filter.persistenceSetId = some t)
    (hpay : s.db.payload t = rows.map trajectoryDoc) (hmin : 0 ≤ filter.minLogicStep)
    (hbounds : filter.minLogicStep ≤ filter.maxLogicStep) :
    RangeDeleted rt uninit s filter t rows ↔ ∀ r ∈ rows, filter.Selects r ↔ rt = true := by
  have hmax : 0 ≤ filter.maxLogicStep := le_trans hmin hbounds
  obtain ⟨out, hread, hout⟩ := readTrajectoryData_of_query href hpay
    (trajectoryQuery_of_nonneg hmin hmax) uninit
  obtain ⟨s', hdelete, hleft⟩ := deleteDataRange_rows href hpay rt
  -- the right table is left exactly when the filter selects what the driver removes
  have hsame : (Collection.remove (fun r => filter.Selects r) rows).map trajectoryDoc =
      (Collection.remove (fun _ => rt) rows).map trajectoryDoc ↔
        ∀ r ∈ rows, filter.Selects r ↔ rt = true := by
    refine Collection.map_remove_const_iff.trans (forall₂_congr fun r _ => ?_)
    rw [Bool.eq_iff_iff, decide_eq_true_iff]
  rw [← hsame]
  constructor
  · rintro ⟨_, s₁, _, hdelete₁, _, hkept⟩
    rw [hdelete] at hdelete₁
    cases hdelete₁
    rw [hleft] at hkept
    exact (Function.update_injective _ t hkept).symm
  · intro hremove
    refine ⟨out, s', hread, hdelete, ⟨_, List.Perm.refl _, hout⟩, ?_⟩
    rw [hleft, hremove]

/-- A table with one session of two steps. -/
theorem range_deletion_of_whole_table :
    RangeDeleted true (fun _ => recordAt 0 0 0) (managerOf [recordAt 5 0 1000, recordAt 5 1 2000])
      { persistenceSetId := 1, sessionNum := 5, minLogicStep := 0, maxLogicStep := 1 } "video_raw"
      [recordAt 5 0 1000, recordAt 5 1 2000] :=
  (range_deleted_iff true _ (by decide) rfl (by decide) (by decide)).mpr (by decide)

/-- The step 0 is deleted, and the record of the step 1 is gone too. -/
theorem range_deletion_removes_other_step :
    ((managerOf [recordAt 5 0 1000, recordAt 5 1 2000]).deleteDataRange true
        { persistenceSetId := 1, sessionNum := 5, minLogicStep := 0, maxLogicStep := 0 }).map
        (fun s' => s'.db.payload "video_raw") = some [] ∧
      ¬ RangeDeleted true (fun _ => recordAt 0 0 0)
        (managerOf [recordAt 5 0 1000, recordAt 5 1 2000])
        { persistenceSetId := 1, sessionNum := 5, minLogicStep := 0, maxLogicStep := 0 } "video_raw"
        [recordAt 5 0 1000, recordAt 5 1 2000] := by
  refine ⟨by decide, ?_⟩
  rintro ⟨out, s', _, hdelete, _, hkept⟩
  cases hdelete
  have hlength := congrArg List.length (congrFun hkept "video_raw")
  exact absurd hlength (by decide)

end MicroserviceCommon
