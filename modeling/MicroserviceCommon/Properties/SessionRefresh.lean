import MicroserviceCommon.Properties.SessionScans

/-!
# The refresh of session descriptions

After a batch was appended to a payload table, the refresh brings the stored descriptions up to
date by scanning only the sessions from the last stored one on.

Both ways to the descriptions are compared through `Describes`, which says what a list of
descriptions should be for a list of records.

* `refresh_equals_rescan_iff` — when the refreshed descriptions are those of a full scan
* `refresh_misses_later_record` — a later record of the step the session ended with
-/

namespace MicroserviceCommon

open Infra
open DatabaseManagerBase

variable {s : DatabaseManagerBase} {p : TPersistenceSetId}
  {rows batch : List SPersistenceTrajectory}
  {n lo : TSessionNum} {infos rest : List SEventsSessionInfo} {last d : SEventsSessionInfo}

/-! ## Appended records -/

theorem sessionRows_append (rows batch : List SPersistenceTrajectory) (n : TSessionNum) :
    sessionRows (rows ++ batch) n = sessionRows rows n ++ sessionRows batch n :=
  List.filter_append ..

theorem sessionRows_append_ne_nil (batch : List SPersistenceTrajectory)
    (h : sessionRows rows n ≠ []) :
    sessionRows (rows ++ batch) n ≠ [] := by
  rw [sessionRows_append]
  exact List.append_ne_nil_of_left_ne_nil h _

theorem sessionRows_append_of_ne (h : ∀ b ∈ batch, b.sessionNum ≠ n) :
    sessionRows (rows ++ batch) n = sessionRows rows n := by
  have hnil : sessionRows batch n = [] :=
    List.filter_eq_nil_iff.mpr fun b hb => by simpa using h b hb
  rw [sessionRows_append, hnil, List.append_nil]

/-- A batch without records of a session leaves what is scanned of it. -/
theorem sessionInfo_append_of_ne (h : ∀ b ∈ batch, b.sessionNum ≠ n) :
    sessionInfo ((rows ++ batch).map trajectoryDoc) n = sessionInfo (rows.map trajectoryDoc) n := by
  rw [sessionInfo, sessionInfo, groupSteps_rows, groupSteps_rows, sessionRows_append_of_ne h]

/-- Sessions before all records of the batch stay as they are. -/
theorem session_append_of_lt {m : TSessionNum} (hbatch : ∀ b ∈ batch, m ≤ b.sessionNum)
    (hlt : n < m) : sessionRows (rows ++ batch) n = sessionRows rows n ∧
      sessionInfo ((rows ++ batch).map trajectoryDoc) n =
        sessionInfo (rows.map trajectoryDoc) n := by
  have hne : ∀ b ∈ batch, b.sessionNum ≠ n := fun b hb he =>
    absurd (hbatch b hb) (not_le.mpr (he ▸ hlt))
  exact ⟨sessionRows_append_of_ne hne, sessionInfo_append_of_ne hne⟩

/-- The batch changes neither the steps nor the times of the ends of a session. -/
structure Unnoticed (old : SEventsSessionInfo) (batch : List SPersistenceTrajectory) : Prop where
  above : ∀ b ∈ batch, old.minLogicStep ≤ b.logicTime
  below : ∀ b ∈ batch, b.logicTime ≤ old.maxLogicStep
  first : ∀ b ∈ batch, b.logicTime = old.minLogicStep →
    b.astroTimeMillisec ≤ old.minTimestampMillisec
  last : ∀ b ∈ batch, b.logicTime = old.maxLogicStep →
    b.astroTimeMillisec ≤ old.maxTimestampMillisec

instance (old : SEventsSessionInfo) (batch : List SPersistenceTrajectory) :
    Decidable (Unnoticed old batch) :=
  decidable_of_iff
    ((∀ b ∈ batch, old.minLogicStep ≤ b.logicTime) ∧
      (∀ b ∈ batch, b.logicTime ≤ old.maxLogicStep) ∧
      (∀ b ∈ batch, b.logicTime = old.minLogicStep →
        b.astroTimeMillisec ≤ old.minTimestampMillisec) ∧
      ∀ b ∈ batch, b.logicTime = old.maxLogicStep →
        b.astroTimeMillisec ≤ old.maxTimestampMillisec)
    ⟨fun h => ⟨h.1, h.2.1, h.2.2.1, h.2.2.2⟩, fun h => ⟨h.above, h.below, h.first, h.last⟩⟩

theorem unnoticed_stored : Unnoticed d.stored batch ↔ Unnoticed d batch :=
  ⟨fun h => ⟨h.above, h.below, h.first, h.last⟩, fun h => ⟨h.above, h.below, h.first, h.last⟩⟩

/-- **What an appended batch does to a scanned session.** -/
theorem sessionInfo_append (h : sessionRows rows n ≠ []) {old new : SEventsSessionInfo}
    (hold : sessionInfo (rows.map trajectoryDoc) n = old)
    (hnew : sessionInfo ((rows ++ batch).map trajectoryDoc) n = new) :
    (new.minLogicStep = old.minLogicStep ↔
        ∀ b ∈ sessionRows batch n, old.minLogicStep ≤ b.logicTime) ∧
      (new.maxLogicStep = old.maxLogicStep ↔
        ∀ b ∈ sessionRows batch n, b.logicTime ≤ old.maxLogicStep) ∧
      (new = old ↔ Unnoticed old (sessionRows batch n)) := by
  obtain ⟨first, last, hfirst, hlast, hinfo⟩ := sessionInfo_rows h
  obtain ⟨first', last', hfirst', hlast', hinfo'⟩ :=
    sessionInfo_rows (sessionRows_append_ne_nil batch h)
  rw [sessionRows_append] at hfirst' hlast'
  rw [hinfo] at hold
  rw [hinfo'] at hnew
  subst hold hnew
  refine ⟨hfirst.key_append hfirst', hlast.key_append hlast', ?_⟩
  constructor
  · intro he
    simp only [SEventsSessionInfo.mk.injEq, true_and, and_true] at he
    obtain ⟨hmin, hmax, hminTime, hmaxTime⟩ := he
    obtain ⟨habove, hfirstTime⟩ := (hfirst.append_iff hfirst').mp (Prod.ext hmin hminTime)
    obtain ⟨hbelow, hlastTime⟩ := (hlast.append_iff hlast').mp (Prod.ext hmax hmaxTime)
    exact ⟨habove, hbelow, hfirstTime, hlastTime⟩
  · intro hu
    rw [(hfirst.append_iff hfirst').mpr ⟨hu.above, hu.first⟩,
      (hlast.append_iff hlast').mpr ⟨hu.below, hu.last⟩]

/-! ## Descriptions of a list of records -/

/-- One description for each session from `lo` on, and each as it is scanned. -/
structure Describes (rows : List SPersistenceTrajectory) (lo : TSessionNum)
    (infos : List SEventsSessionInfo) : Prop where
  numbers : (infos.map SEventsSessionInfo.number).Nodup
  mem : ∀ i, i ∈ infos.map SEventsSessionInfo.stored ↔
    ∃ n, (∃ r ∈ rows, r.sessionNum = n) ∧ lo ≤ n ∧ i = sessionInfo (rows.map trajectoryDoc) n

/-- A scanned session is read back as it was written. -/
theorem stored_sessionInfo (h : sessionRows rows n ≠ []) :
    (sessionInfo (rows.map trajectoryDoc) n).stored = sessionInfo (rows.map trajectoryDoc) n := by
  obtain ⟨first, last, _, _, hinfo⟩ := sessionInfo_rows h
  rw [hinfo]
  rfl

/-- The scanned sessions have the numbers that were asked for. -/
theorem NumbersOf.map_filter {numbers : List TSessionNum} (h : NumbersOf rows numbers)
    (q : TSessionNum → Bool) :
    ((numbers.filter q).map (sessionInfo (rows.map trajectoryDoc))).map
      SEventsSessionInfo.number = numbers.filter q := by
  rw [List.map_map]
  refine (List.map_congr_left fun n hn => ?_).trans (List.map_id _)
  exact number_sessionInfo (h.rows_ne_nil (List.mem_of_mem_filter hn))

namespace Describes

/-- A described session is scanned from its number. -/
theorem of_mem (h : Describes rows lo infos) (hd : d ∈ infos) :
    sessionRows rows d.number ≠ [] ∧ lo ≤ d.number ∧
      d.stored = sessionInfo (rows.map trajectoryDoc) d.number := by
  obtain ⟨n, hrow, hlo, hinfo⟩ := (h.mem _).mp (List.mem_map_of_mem hd)
  have hne := sessionRows_ne_nil.mpr hrow
  have hn : d.number = n := by
    have hnum := congrArg SEventsSessionInfo.number hinfo
    rwa [number_sessionInfo hne] at hnum
  rw [hn]
  exact ⟨hne, hlo, hinfo⟩

/-- Every session from `lo` on is described. -/
theorem exists_mem (h : Describes rows lo infos) (hn : sessionRows rows n ≠ []) (hlo : lo ≤ n) :
    ∃ d ∈ infos, d.number = n ∧ d.stored = sessionInfo (rows.map trajectoryDoc) n := by
  have hmem := (h.mem _).mpr ⟨n, sessionRows_ne_nil.mp hn, hlo, rfl⟩
  obtain ⟨d, hd, hinfo⟩ := List.mem_map.mp hmem
  refine ⟨d, hd, ?_, hinfo⟩
  have hnum := congrArg SEventsSessionInfo.number hinfo
  rwa [number_sessionInfo hn] at hnum

/-- Descriptions of the records are the entries of a scan, in some order. -/
theorem perm_iff {numbers : List TSessionNum} (h : NumbersOf rows numbers) :
    (infos.map SEventsSessionInfo.stored).Perm
        ((numbers.filter fun n => lo ≤ n ∧ n ≤ Int32.maxValue).map
          (sessionInfo (rows.map trajectoryDoc))) ↔ Describes rows lo infos := by
  have hscan : ∀ i, i ∈ (numbers.filter fun n => lo ≤ n ∧ n ≤ Int32.maxValue).map
      (sessionInfo (rows.map trajectoryDoc)) ↔
      ∃ n, (∃ r ∈ rows, r.sessionNum = n) ∧ lo ≤ n ∧
        i = sessionInfo (rows.map trajectoryDoc) n := by
    intro i
    simp only [List.mem_map, List.mem_filter, decide_eq_true_eq, h.mem, Int32.le_maxValue,
      and_true, and_assoc, eq_comm (a := i)]
  have hnodup : ((numbers.filter fun n => lo ≤ n ∧ n ≤ Int32.maxValue).map
      (sessionInfo (rows.map trajectoryDoc))).map SEventsSessionInfo.number |>.Nodup := by
    rw [h.map_filter]
    exact h.nodup.filter _
  have hstored : (infos.map SEventsSessionInfo.stored).map SEventsSessionInfo.number =
      infos.map SEventsSessionInfo.number := by
    rw [List.map_map]
    rfl
  constructor
  · intro hperm
    refine ⟨?_, fun i => hperm.mem_iff.trans (hscan i)⟩
    rw [← hstored, (hperm.map _).nodup_iff]
    exact hnodup
  · intro hd
    refine (List.perm_ext_iff_of_nodup ?_ ?_).mpr fun i => (hd.mem i).trans (hscan i).symm
    · have hnumbers := hd.numbers
      rw [← hstored] at hnumbers
      exact hnumbers.of_map
    · exact hnodup.of_map

/-- A batch that shows nowhere leaves the descriptions right. -/
theorem unchanged (h : Describes rows lo infos)
    (hrows : ∀ n, sessionRows (rows ++ batch) n ≠ [] → sessionRows rows n ≠ [])
    (hinfo : ∀ n, sessionRows rows n ≠ [] →
      sessionInfo ((rows ++ batch).map trajectoryDoc) n =
        sessionInfo (rows.map trajectoryDoc) n) : Describes (rows ++ batch) lo infos := by
  refine ⟨h.numbers, fun i => (h.mem i).trans ?_⟩
  constructor
  · rintro ⟨n, hn, hlo, rfl⟩
    have hne := sessionRows_ne_nil.mpr hn
    exact ⟨n, sessionRows_ne_nil.mp (sessionRows_append_ne_nil batch hne), hlo, (hinfo n hne).symm⟩
  · rintro ⟨n, hn, hlo, rfl⟩
    have hne := hrows n (sessionRows_ne_nil.mpr hn)
    exact ⟨n, sessionRows_ne_nil.mp hne, hlo, hinfo n hne⟩

/-- **The refreshed descriptions**: the last one is replaced and the new sessions are appended. -/
theorem refreshed (h : Describes rows lo infos) (hlast : last ∈ infos)
    (hgreatest : ∀ d ∈ infos, d.number ≤ last.number)
    (hbatch : ∀ b ∈ batch, last.number ≤ b.sessionNum)
    (hrest : ∀ i, i ∈ rest ↔ ∃ n, sessionRows (rows ++ batch) n ≠ [] ∧ last.number < n ∧
      i = sessionInfo ((rows ++ batch).map trajectoryDoc) n)
    (hnodup : (rest.map SEventsSessionInfo.number).Nodup) {new : SEventsSessionInfo}
    (hnew : new = sessionInfo ((rows ++ batch).map trajectoryDoc) last.number) :
    Describes (rows ++ batch) lo (Collection.put SEventsSessionInfo.number new infos ++ rest) := by
  obtain ⟨hlastRows, hlastLo, _⟩ := h.of_mem hlast
  have hlastRows' : sessionRows (rows ++ batch) last.number ≠ [] :=
    sessionRows_append_ne_nil batch hlastRows
  have hnumber : new.number = last.number := by
    rw [hnew, number_sessionInfo hlastRows']
  have hmemPut : ∀ d, d ∈ Collection.put SEventsSessionInfo.number new infos ↔
      d = new ∨ d ∈ infos ∧ d.number ≠ new.number := Collection.mem_put h.numbers
  constructor
  · refine Collection.nodup_put_append h.numbers hnodup (fun d hd => ?_) fun i hi => ?_
    · rw [hnumber]
      exact hgreatest d hd
    · obtain ⟨n, hrows, hlt, rfl⟩ := (hrest i).mp hi
      rwa [hnumber, number_sessionInfo hrows]
  · intro i
    constructor
    · intro hi
      obtain ⟨d, hd, rfl⟩ := List.mem_map.mp hi
      rcases List.mem_append.mp hd with hd | hd
      · rcases (hmemPut d).mp hd with rfl | ⟨hd, hne⟩
        · refine ⟨last.number, sessionRows_ne_nil.mp hlastRows', hlastLo, ?_⟩
          rw [hnew, stored_sessionInfo hlastRows']
        · obtain ⟨hrows, hlo, hinfo⟩ := h.of_mem hd
          obtain ⟨hr, hsame⟩ :=
            session_append_of_lt hbatch (lt_of_le_of_ne (hgreatest d hd) (hnumber ▸ hne))
          exact ⟨_, sessionRows_ne_nil.mp (hr.symm ▸ hrows), hlo, hinfo.trans hsame.symm⟩
      · obtain ⟨n, hrows, hlt, rfl⟩ := (hrest d).mp hd
        exact ⟨n, sessionRows_ne_nil.mp hrows, le_trans hlastLo hlt.le, stored_sessionInfo hrows⟩
    · rintro ⟨n, hrow, hlo, rfl⟩
      have hrows := sessionRows_ne_nil.mpr hrow
      rcases lt_trichotomy n last.number with hlt | rfl | hgt
      · obtain ⟨hr, hsame⟩ := session_append_of_lt hbatch hlt
        obtain ⟨d, hd, hnum, hinfo⟩ := h.exists_mem (hr ▸ hrows) hlo
        have hne : d.number ≠ new.number := by
          rw [hnum, hnumber]
          exact ne_of_lt hlt
        exact List.mem_map.mpr ⟨d, List.mem_append_left _ ((hmemPut d).mpr (Or.inr ⟨hd, hne⟩)),
          hinfo.trans hsame.symm⟩
      · refine List.mem_map.mpr ⟨new, List.mem_append_left _ ((hmemPut new).mpr (Or.inl rfl)), ?_⟩
        rw [hnew, stored_sessionInfo hlastRows']
      · exact List.mem_map.mpr ⟨_, List.mem_append_right _ ((hrest _).mpr ⟨n, hrows, hgt, rfl⟩),
          stored_sessionInfo hrows⟩

end Describes

/-! ## The descriptions of a single set -/

theorem toDoc_infos (p : TPersistenceSetId) (infos : List SEventsSessionInfo) :
    (infos.map (Prod.mk p)).map DescriptionRow.toDoc = infos.map (descriptionDoc p) := by
  rw [List.map_map]
  rfl

theorem select_infos (p : TPersistenceSetId) (infos : List SEventsSessionInfo) :
    selectSessionDescriptions (infos.map (descriptionDoc p)) p =
      infos.map SEventsSessionInfo.stored := by
  rw [← toDoc_infos, selectSessionDescriptions_rows, List.filter_eq_self.mpr, List.map_map]
  · rfl
  · intro r hr
    obtain ⟨d, _, rfl⟩ := List.mem_map.mp hr
    exact beq_self_eq_true p

theorem number_infos (p : TPersistenceSetId) (infos : List SEventsSessionInfo) :
    (infos.map (Prod.mk p)).map DescriptionRow.number = infos.map SEventsSessionInfo.number := by
  rw [List.map_map]
  rfl

theorem put_infos (p : TPersistenceSetId) (d : SEventsSessionInfo)
    (infos : List SEventsSessionInfo) :
    Collection.put DescriptionRow.number (p, d) (infos.map (Prod.mk p)) =
      (Collection.put SEventsSessionInfo.number d infos).map (Prod.mk p) :=
  Collection.put_map (Prod.mk p) d infos

theorem update_infos (h : d.number ∈ infos.map SEventsSessionInfo.number) :
    assertTrue (updateSessionDescription true (infos.map (descriptionDoc p)) p d) =
      some ((Collection.put SEventsSessionInfo.number d infos).map (descriptionDoc p)) := by
  rw [← toDoc_infos, update_rows, if_pos (by rw [number_infos]; exact h), put_infos, toDoc_infos]
  rfl

theorem insert_infos (h : d.number ∉ infos.map SEventsSessionInfo.number) :
    assertTrue (insertSessionDescription true (infos.map (descriptionDoc p)) p d) =
      some ((infos ++ [d]).map (descriptionDoc p)) := by
  have hput : Collection.put SEventsSessionInfo.number d infos = infos ++ [d] :=
    if_neg fun hc => h (Collection.any_key_iff.mp hc)
  rw [← toDoc_infos, insert_rows, if_neg (by rw [number_infos]; exact h), put_infos, toDoc_infos,
    hput]
  rfl

/-- New sessions are appended one by one. -/
theorem insertAll_infos : ∀ {rest infos : List SEventsSessionInfo},
    ((infos ++ rest).map SEventsSessionInfo.number).Nodup →
      rest.foldlM (fun docs d => assertTrue (insertSessionDescription true docs p d))
        (infos.map (descriptionDoc p)) = some ((infos ++ rest).map (descriptionDoc p))
  | [], infos, _ => by rw [List.append_nil]; rfl
  | d :: rest, infos, h => by
    have hnew : d.number ∉ infos.map SEventsSessionInfo.number := by
      rw [List.map_append, List.nodup_append] at h
      exact fun hmem => h.2.2 _ hmem _ List.mem_cons_self rfl
    rw [List.append_cons] at h ⊢
    rw [List.foldlM_cons, insert_infos hnew, Option.bind_eq_bind, Option.bind_some]
    exact insertAll_infos h

/-- The stored descriptions of the set are what a scan from `lo` on returns, in some order. -/
def RescanEquals (s : DatabaseManagerBase) (p : TPersistenceSetId) (lo : TSessionNum) : Prop :=
  ∀ distinct : DistinctCommand, distinct.Answers s.db →
    ∃ out, s.scanPayloadRangeForSessions distinct p (lo, Int32.maxValue) = some out ∧
      (selectSessionDescriptions s.db.persistenceDescription p).Perm out

theorem rescanEquals_iff (h : PayloadOf s p rows)
    (hdocs : s.db.persistenceDescription = infos.map (descriptionDoc p)) :
    RescanEquals s p lo ↔ Describes rows lo infos := by
  rw [RescanEquals, hdocs, select_infos]
  constructor
  · intro hall
    obtain ⟨numbers, hnumbers, hscan⟩ :=
      h.scanPayloadRangeForSessions (answers_distinctOf s.db)
    obtain ⟨out, hout, hperm⟩ := hall _ (answers_distinctOf s.db)
    rw [hscan, Option.some.injEq] at hout
    subst hout
    exact (Describes.perm_iff hnumbers).mp hperm
  · intro hd distinct hdistinct
    obtain ⟨numbers, hnumbers, hscan⟩ := h.scanPayloadRangeForSessions hdistinct
    exact ⟨_, hscan _ _, (Describes.perm_iff hnumbers).mpr hd⟩

/-! ## The scans of the refresh -/

theorem lastStored_infos (h : Describes rows lo infos) (hlast : last ∈ infos)
    (hgreatest : ∀ d ∈ infos, d.number ≤ last.number) :
    (Collection.orderAsc SEventsSessionInfo.number
      (infos.map SEventsSessionInfo.stored)).getLast? = some last.stored := by
  have hne : infos.map SEventsSessionInfo.stored ≠ [] :=
    List.ne_nil_of_mem (List.mem_map_of_mem hlast)
  have hend := List.getLast?_eq_some_getLast
    (Collection.orderAsc_ne_nil SEventsSessionInfo.number hne)
  obtain ⟨hmem, hle⟩ := Collection.getLast?_orderAsc hend
  obtain ⟨d, hd, hstored⟩ := List.mem_map.mp hmem
  have hnumber : d.number = last.number := by
    refine le_antisymm (hgreatest d hd) ?_
    have hlastLe := hle _ (List.mem_map_of_mem hlast)
    rw [← hstored] at hlastLe
    exact hlastLe
  rw [hend, ← hstored, List.inj_on_of_nodup_map h.numbers hd hlast hnumber]

theorem NumbersOf.exists_greatest {numbers : List TSessionNum} (h : NumbersOf rows numbers)
    (hne : rows ≠ []) : ∃ m, numbers.max? = some m ∧ sessionRows rows m ≠ [] ∧
      ∀ n, sessionRows rows n ≠ [] → n ≤ m := by
  obtain ⟨m, hm⟩ := Option.ne_none_iff_exists'.mp
    (fun hnone => h.ne_nil hne (List.max?_eq_none_iff.mp hnone))
  obtain ⟨hmem, hle⟩ := List.max?_eq_some_iff.mp hm
  exact ⟨m, hm, h.rows_ne_nil hmem,
    fun n hn => hle n ((h.mem n).mpr (sessionRows_ne_nil.mp hn))⟩

/-- **A scan from session `n` on, sorted**: session `n` first, then the later ones. -/
theorem NumbersOf.sorted_range {numbers : List TSessionNum} (h : NumbersOf rows numbers)
    {m : TSessionNum} (hn : sessionRows rows n ≠ [])
    (hm : ∀ k, sessionRows rows k ≠ [] → k ≤ m) :
    ∃ rest, Collection.orderAsc SEventsSessionInfo.number
        ((numbers.filter fun k => n ≤ k ∧ k ≤ m).map (sessionInfo (rows.map trajectoryDoc))) =
          sessionInfo (rows.map trajectoryDoc) n :: rest ∧
      (∀ i, i ∈ rest ↔ ∃ k, sessionRows rows k ≠ [] ∧ n < k ∧
        i = sessionInfo (rows.map trajectoryDoc) k) ∧
      (rest.map SEventsSessionInfo.number).Nodup := by
  have hmem : ∀ i, i ∈ (numbers.filter fun k => n ≤ k ∧ k ≤ m).map
      (sessionInfo (rows.map trajectoryDoc)) ↔
        ∃ k, sessionRows rows k ≠ [] ∧ n ≤ k ∧ i = sessionInfo (rows.map trajectoryDoc) k := by
    intro i
    rw [List.mem_map]
    constructor
    · rintro ⟨k, hk, rfl⟩
      obtain ⟨hk, hrange⟩ := List.mem_filter.mp hk
      exact ⟨k, h.rows_ne_nil hk, (of_decide_eq_true hrange).1, rfl⟩
    · rintro ⟨k, hk, hle, rfl⟩
      refine ⟨k, List.mem_filter.mpr ⟨(h.mem k).mpr (sessionRows_ne_nil.mp hk), ?_⟩, rfl⟩
      exact decide_eq_true ⟨hle, hm k hk⟩
  have hnodup : (((numbers.filter fun k => n ≤ k ∧ k ≤ m).map
      (sessionInfo (rows.map trajectoryDoc))).map SEventsSessionInfo.number).Nodup := by
    rw [h.map_filter]
    exact h.nodup.filter _
  have hleast : ∀ i ∈ (numbers.filter fun k => n ≤ k ∧ k ≤ m).map
      (sessionInfo (rows.map trajectoryDoc)),
        (sessionInfo (rows.map trajectoryDoc) n).number ≤ i.number := by
    intro i hi
    obtain ⟨k, hk, hle, rfl⟩ := (hmem i).mp hi
    rwa [number_sessionInfo hn, number_sessionInfo hk]
  obtain ⟨rest, hsorted, hrest, hrestNodup⟩ :=
    Collection.orderAsc_eq_cons hnodup ((hmem _).mpr ⟨n, hn, le_refl n, rfl⟩) hleast
  refine ⟨rest, hsorted, fun i => ?_, hrestNodup⟩
  rw [hrest, hmem, number_sessionInfo hn]
  constructor
  · rintro ⟨⟨k, hk, _, rfl⟩, hlt⟩
    rw [number_sessionInfo hk] at hlt
    exact ⟨k, hk, hlt, rfl⟩
  · rintro ⟨k, hk, hlt, rfl⟩
    rw [number_sessionInfo hk]
    exact ⟨⟨k, hk, hlt.le, rfl⟩, hlt⟩

/-! ## The refresh -/

/-- The batch has a record of a later session than the last stored one, or a record of that session
outside its stored steps. -/
def Grew (last : SEventsSessionInfo) (batch : List SPersistenceTrajectory) : Prop :=
  (∃ b ∈ batch, last.number < b.sessionNum) ∨
    ∃ b ∈ batch, b.sessionNum = last.number ∧
      (b.logicTime < last.minLogicStep ∨ last.maxLogicStep < b.logicTime)

instance (last : SEventsSessionInfo) (batch : List SPersistenceTrajectory) :
    Decidable (Grew last batch) :=
  inferInstanceAs (Decidable (_ ∨ _))

theorem PayloadOf.setDescriptions (h : PayloadOf s p rows) (docs : List Doc) :
    PayloadOf (s.setDescriptions docs) p rows := h

/-- The scan of the tail finds the greatest session. -/
theorem PayloadOf.scanTail (h : PayloadOf s p rows) (hne : rows ≠ []) {tail : DistinctCommand}
    (htail : tail.Answers s.db) :
    ∃ m, s.scanPayloadTailForSessions tail p = some (sessionInfo (rows.map trajectoryDoc) m) ∧
      sessionRows rows m ≠ [] ∧ ∀ n, sessionRows rows n ≠ [] → n ≤ m := by
  obtain ⟨numbers, hnumbers, hscan⟩ := h.scanPayloadEnd htail List.max?
  obtain ⟨m, hm, hmRows, hmax⟩ := hnumbers.exists_greatest hne
  refine ⟨m, ?_, hmRows, hmax⟩
  rw [scanPayloadTailForSessions, hscan, hm, Option.map_some]

section Refresh

variable {tail range : DistinctCommand}

/-- What the refresh does once it knows the greatest session `m`. -/
theorem refresh_eq (hdocs : s.db.persistenceDescription = infos.map (descriptionDoc p))
    (hd : Describes rows lo infos) (hlast : last ∈ infos)
    (hgreatest : ∀ d ∈ infos, d.number ≤ last.number) {new : SEventsSessionInfo}
    (hscan : s.scanPayloadTailForSessions tail p = some new) :
    s.refreshSessionDescriptions tail range p =
      if new.number = last.number ∧ (new.minLogicStep ≠ last.minLogicStep ∨
          new.maxLogicStep ≠ last.maxLogicStep) then
        (assertTrue (updateSessionDescription true (infos.map (descriptionDoc p)) p new)).map
          s.setDescriptions
      else if new.number > last.number then
        (s.scanPayloadRangeForSessions range p (last.number, new.number)).bind fun scanned =>
          match Collection.orderAsc SEventsSessionInfo.number scanned with
          | [] => none
          | refreshedLastStored :: rest =>
            (assertTrue (updateSessionDescription true (infos.map (descriptionDoc p)) p
              refreshedLastStored)).bind fun docs =>
                (rest.foldlM (fun docs newSession =>
                  assertTrue (insertSessionDescription true docs p newSession)) docs).map
                    s.setDescriptions
      else some s := by
  rw [refreshSessionDescriptions, hscan, Option.bind_some, hdocs, select_infos,
    lastStored_infos hd hlast hgreatest]
  rfl

/-- New sessions appeared: the last stored one is scanned again and the new ones are inserted. -/
theorem refresh_new (h : PayloadOf s p (rows ++ batch))
    (hdocs : s.db.persistenceDescription = infos.map (descriptionDoc p))
    (hd : Describes rows lo infos) (hlast : last ∈ infos)
    (hgreatest : ∀ d ∈ infos, d.number ≤ last.number)
    (hbatch : ∀ b ∈ batch, last.number ≤ b.sessionNum)
    (hrange : range.Answers s.db) {m : TSessionNum}
    (hscan : s.scanPayloadTailForSessions tail p =
      some (sessionInfo ((rows ++ batch).map trajectoryDoc) m))
    (hm : sessionRows (rows ++ batch) m ≠ [])
    (hmax : ∀ n, sessionRows (rows ++ batch) n ≠ [] → n ≤ m) (hlt : last.number < m) :
    ∃ infos', s.refreshSessionDescriptions tail range p =
        some (s.setDescriptions (infos'.map (descriptionDoc p))) ∧
      Describes (rows ++ batch) lo infos' := by
  have hlastRows : sessionRows (rows ++ batch) last.number ≠ [] :=
    sessionRows_append_ne_nil batch (hd.of_mem hlast).1
  obtain ⟨numbers, hnumbers, hrangeScan⟩ := h.scanPayloadRangeForSessions hrange
  obtain ⟨rest, hsorted, hrest, hnodup⟩ := hnumbers.sorted_range hlastRows hmax
  have hdescribes := hd.refreshed hlast hgreatest hbatch hrest hnodup rfl
  refine ⟨_, ?_, hdescribes⟩
  have hnumber : (sessionInfo ((rows ++ batch).map trajectoryDoc) last.number).number ∈
      infos.map SEventsSessionInfo.number := by
    rw [number_sessionInfo hlastRows]
    exact List.mem_map_of_mem hlast
  rw [refresh_eq hdocs hd hlast hgreatest hscan, number_sessionInfo hm,
    if_neg (fun hc => ne_of_gt hlt hc.1), if_pos hlt, hrangeScan, Option.bind_some, hsorted]
  show ((assertTrue _).bind _ : Option DatabaseManagerBase) = _
  rw [update_infos hnumber, Option.bind_some, insertAll_infos hdescribes.numbers, Option.map_some]

/-- The last stored session grew: it is scanned again. -/
theorem refresh_grown (hdocs : s.db.persistenceDescription = infos.map (descriptionDoc p))
    (hd : Describes rows lo infos) (hlast : last ∈ infos)
    (hgreatest : ∀ d ∈ infos, d.number ≤ last.number)
    (hbatch : ∀ b ∈ batch, last.number ≤ b.sessionNum) {new : SEventsSessionInfo}
    (hscan : s.scanPayloadTailForSessions tail p = some new)
    (hnew : new = sessionInfo ((rows ++ batch).map trajectoryDoc) last.number)
    (hmax : ∀ n, sessionRows (rows ++ batch) n ≠ [] → n ≤ last.number)
    (hgrown : new.minLogicStep ≠ last.minLogicStep ∨ new.maxLogicStep ≠ last.maxLogicStep) :
    ∃ infos', s.refreshSessionDescriptions tail range p =
        some (s.setDescriptions (infos'.map (descriptionDoc p))) ∧
      Describes (rows ++ batch) lo infos' := by
  have hlastRows : sessionRows (rows ++ batch) last.number ≠ [] :=
    sessionRows_append_ne_nil batch (hd.of_mem hlast).1
  have hnumber : new.number = last.number := by
    rw [hnew, number_sessionInfo hlastRows]
  have hrest : ∀ i, i ∈ ([] : List SEventsSessionInfo) ↔
      ∃ n, sessionRows (rows ++ batch) n ≠ [] ∧ last.number < n ∧
        i = sessionInfo ((rows ++ batch).map trajectoryDoc) n := by
    intro i
    refine iff_of_false List.not_mem_nil ?_
    rintro ⟨n, hn, hlt, _⟩
    exact absurd (hmax n hn) (not_le.mpr hlt)
  have hdescribes := hd.refreshed hlast hgreatest hbatch hrest List.nodup_nil hnew
  rw [List.append_nil] at hdescribes
  refine ⟨_, ?_, hdescribes⟩
  rw [refresh_eq hdocs hd hlast hgreatest hscan, if_pos ⟨hnumber, hgrown⟩,
    update_infos (by rw [hnumber]; exact List.mem_map_of_mem hlast), Option.map_some]

/-- The descriptions are left alone when no scanned number is new. -/
theorem refresh_same (hdocs : s.db.persistenceDescription = infos.map (descriptionDoc p))
    (hd : Describes rows lo infos) (hlast : last ∈ infos)
    (hgreatest : ∀ d ∈ infos, d.number ≤ last.number) {new : SEventsSessionInfo}
    (hscan : s.scanPayloadTailForSessions tail p = some new) (hnumber : new.number = last.number)
    (hmin : new.minLogicStep = last.minLogicStep) (hmax : new.maxLogicStep = last.maxLogicStep) :
    s.refreshSessionDescriptions tail range p = some s := by
  rw [refresh_eq hdocs hd hlast hgreatest hscan, if_neg, if_neg]
  · rw [hnumber]
    exact lt_irrefl _
  · rintro ⟨_, hc | hc⟩
    · exact hc hmin
    · exact hc hmax

/-- A batch that belongs to the last stored session does not touch the other sessions. -/
theorem Describes.unchanged_last (hd : Describes rows lo infos) (hlast : last ∈ infos)
    (hall : ∀ b ∈ batch, b.sessionNum = last.number)
    (hinfo : sessionInfo ((rows ++ batch).map trajectoryDoc) last.number = last.stored) :
    Describes (rows ++ batch) lo infos := by
  obtain ⟨hlastRows, _, hlastInfo⟩ := hd.of_mem hlast
  refine hd.unchanged (fun n hn => ?_) fun n _ => ?_
  · obtain ⟨r, hr, rfl⟩ := sessionRows_ne_nil.mp hn
    rcases List.mem_append.mp hr with hr | hr
    · exact sessionRows_ne_nil.mpr ⟨r, hr, rfl⟩
    · rw [hall r hr]
      exact hlastRows
  · by_cases hn : n = last.number
    · rw [hn, hinfo, hlastInfo]
    · exact sessionInfo_append_of_ne fun b hb he => hn (he.symm.trans (hall b hb))

/-- All records of the batch belong to the last stored session. -/
theorem refresh_last_iff (h : PayloadOf s p (rows ++ batch))
    (hdocs : s.db.persistenceDescription = infos.map (descriptionDoc p))
    (hd : Describes rows lo infos) (hlast : last ∈ infos)
    (hgreatest : ∀ d ∈ infos, d.number ≤ last.number)
    (hscan : s.scanPayloadTailForSessions tail p =
      some (sessionInfo ((rows ++ batch).map trajectoryDoc) last.number))
    (hmax : ∀ n, sessionRows (rows ++ batch) n ≠ [] → n ≤ last.number)
    (hall : ∀ b ∈ batch, b.sessionNum = last.number) :
    (∃ s', s.refreshSessionDescriptions tail range p = some s' ∧ RescanEquals s' p lo) ↔
      Grew last batch ∨ Unnoticed last batch := by
  obtain ⟨hlastRows, _, hlastInfo⟩ := hd.of_mem hlast
  have hbatchRows : sessionRows batch last.number = batch :=
    List.filter_eq_self.mpr fun b hb => by simpa using hall b hb
  obtain ⟨hmin, hmaxStep, hsame⟩ := sessionInfo_append hlastRows hlastInfo.symm
    (rfl : sessionInfo ((rows ++ batch).map trajectoryDoc) last.number = _)
  rw [hbatchRows] at hmin hmaxStep hsame
  by_cases hsteps : (∀ b ∈ batch, last.minLogicStep ≤ b.logicTime) ∧
      ∀ b ∈ batch, b.logicTime ≤ last.maxLogicStep
  · -- the refresh does nothing, so the old description has to be right
    have hgrew : ¬ Grew last batch := by
      rintro (⟨b, hb, hlt⟩ | ⟨b, hb, _, hlt | hlt⟩)
      · exact absurd (hall b hb) (ne_of_gt hlt)
      · exact absurd (hsteps.1 b hb) (not_le.mpr hlt)
      · exact absurd (hsteps.2 b hb) (not_le.mpr hlt)
    have hnumber := number_sessionInfo (sessionRows_append_ne_nil batch hlastRows)
    rw [refresh_same hdocs hd hlast hgreatest hscan hnumber (hmin.mpr hsteps.1)
      (hmaxStep.mpr hsteps.2), or_iff_right hgrew, ← unnoticed_stored]
    constructor
    · rintro ⟨s', hs', hequals⟩
      cases hs'
      have hd' := (rescanEquals_iff h hdocs).mp hequals
      exact hsame.mp (hd'.of_mem hlast).2.2.symm
    · intro hunnoticed
      have hd' := hd.unchanged_last hlast hall (hsame.mpr hunnoticed)
      exact ⟨s, rfl, (rescanEquals_iff h hdocs).mpr hd'⟩
  · have hgrown :
        (sessionInfo ((rows ++ batch).map trajectoryDoc) last.number).minLogicStep ≠
            last.minLogicStep ∨
          (sessionInfo ((rows ++ batch).map trajectoryDoc) last.number).maxLogicStep ≠
            last.maxLogicStep := by
      by_contra hc
      rw [not_or, not_not, not_not] at hc
      exact hsteps ⟨hmin.mp hc.1, hmaxStep.mp hc.2⟩
    obtain ⟨infos', hrefresh, h'⟩ := refresh_grown hdocs hd hlast hgreatest
      (fun b hb => (hall b hb).ge) hscan rfl hmax hgrown
    have hequals := (rescanEquals_iff (h.setDescriptions _) rfl).mpr h'
    refine iff_of_true ⟨_, hrefresh, hequals⟩ (Or.inl (Or.inr ?_))
    rw [not_and_or, not_forall, not_forall] at hsteps
    rcases hsteps with ⟨b, hb⟩ | ⟨b, hb⟩
    · rw [Classical.not_imp, not_le] at hb
      exact ⟨b, hb.1, hall b hb.1, Or.inl hb.2⟩
    · rw [Classical.not_imp, not_le] at hb
      exact ⟨b, hb.1, hall b hb.1, Or.inr hb.2⟩

/-- **The refresh brings the descriptions up to date exactly when the batch shows in the numbers or
the steps of the last session, or leaves its times.** -/
theorem refresh_iff (h : PayloadOf s p (rows ++ batch))
    (hdocs : s.db.persistenceDescription = infos.map (descriptionDoc p))
    (hd : Describes rows lo infos) (hlast : last ∈ infos)
    (hgreatest : ∀ d ∈ infos, d.number ≤ last.number)
    (hbatch : ∀ b ∈ batch, last.number ≤ b.sessionNum)
    (htail : tail.Answers s.db) (hrange : range.Answers s.db) :
    (∃ s', s.refreshSessionDescriptions tail range p = some s' ∧ RescanEquals s' p lo) ↔
      Grew last batch ∨ Unnoticed last batch := by
  obtain ⟨hlastRows, hlastLo, _⟩ := hd.of_mem hlast
  have hlastRows' : sessionRows (rows ++ batch) last.number ≠ [] :=
    sessionRows_append_ne_nil batch hlastRows
  have hne : rows ++ batch ≠ [] := by
    obtain ⟨r, hr, _⟩ := sessionRows_ne_nil.mp hlastRows'
    exact List.ne_nil_of_mem hr
  -- the sessions of the old records end at the last stored one
  have hrowsLe : ∀ n, sessionRows rows n ≠ [] → n ≤ last.number := by
    intro n hn
    rcases le_total lo n with hlo | hlo
    · obtain ⟨d, hd', rfl, _⟩ := hd.exists_mem hn hlo
      exact hgreatest d hd'
    · exact le_trans hlo hlastLo
  obtain ⟨m, hscan, hm, hmax⟩ := h.scanTail hne htail
  rcases lt_or_eq_of_le (hmax _ hlastRows') with hlt | rfl
  · obtain ⟨infos', hrefresh, h'⟩ :=
      refresh_new h hdocs hd hlast hgreatest hbatch hrange hscan hm hmax hlt
    have hequals := (rescanEquals_iff (h.setDescriptions _) rfl).mpr h'
    refine iff_of_true ⟨_, hrefresh, hequals⟩ (Or.inl (Or.inl ?_))
    obtain ⟨r, hr, hrm⟩ := sessionRows_ne_nil.mp hm
    rcases List.mem_append.mp hr with hr | hr
    · have hle := hrowsLe m (sessionRows_ne_nil.mpr ⟨r, hr, hrm⟩)
      exact absurd hle (not_le.mpr hlt)
    · exact ⟨r, hr, hrm ▸ hlt⟩
  · refine refresh_last_iff h hdocs hd hlast hgreatest hscan hmax fun b hb => ?_
    have hrow : sessionRows (rows ++ batch) b.sessionNum ≠ [] :=
      sessionRows_ne_nil.mpr ⟨b, List.mem_append_right _ hb, rfl⟩
    exact le_antisymm (hmax _ hrow) (hbatch b hb)

end Refresh

/-- A batch is appended to the records of the set. -/
theorem PayloadOf.write (h : PayloadOf s p rows) (batch : List SPersistenceTrajectory) :
    ∃ s' ok, s.writeTrajectoryData true p batch = some (s', ok) ∧ PayloadOf s' p (rows ++ batch) ∧
      s'.db.persistenceDescription = s.db.persistenceDescription := by
  obtain ⟨name, hname, href, hpay⟩ := h
  rw [writeTrajectoryData, href, Option.map_some]
  cases batch with
  | nil =>
    rw [List.append_nil]
    exact ⟨s, false, rfl, ⟨name, hname, href, hpay⟩, rfl⟩
  | cons b batch =>
    refine ⟨_, true, rfl, ⟨name, hname, href, ?_⟩, rfl⟩
    rw [setPayload, hpay, List.map_append]
    exact Function.update_self ..

/-- **The refresh equals a full rescan exactly when the batch shows in the numbers or the steps of
the last stored session, or leaves its times.** -/
theorem refresh_equals_rescan_iff (infos : List SEventsSessionInfo) (last : SEventsSessionInfo)
    (batch : List SPersistenceTrajectory) (h : PayloadOf s p rows)
    (hsingle : s.db.persistenceDescription = infos.map (descriptionDoc p))
    (hequals : RescanEquals s p lo)
    (hlast : last ∈ selectSessionDescriptions s.db.persistenceDescription p)
    (hgreatest : ∀ i ∈ selectSessionDescriptions s.db.persistenceDescription p,
      i.number ≤ last.number)
    (hbatch : ∀ b ∈ batch, last.number ≤ b.sessionNum) :
    ∃ s₁ ok, s.writeTrajectoryData true p batch = some (s₁, ok) ∧
      ∀ tail range : DistinctCommand, tail.Answers s₁.db → range.Answers s₁.db →
        ((∃ s₂, s₁.refreshSessionDescriptions tail range p = some s₂ ∧ RescanEquals s₂ p lo) ↔
          Grew last batch ∨ Unnoticed last batch) := by
  obtain ⟨s₁, ok, hwrite, h₁, hdocs⟩ := h.write batch
  rw [hsingle, select_infos] at hlast hgreatest
  obtain ⟨d, hd, rfl⟩ := List.mem_map.mp hlast
  have hdescribes := (rescanEquals_iff h hsingle).mp hequals
  refine ⟨s₁, ok, hwrite, fun tail range htail hrange => ?_⟩
  rw [unnoticed_stored]
  exact refresh_iff h₁ (hdocs.trans hsingle) hdescribes hd
    (fun e he => hgreatest e.stored (List.mem_map_of_mem he)) hbatch htail hrange

/-- Session 5 with one record. -/
def describedSession : SEventsSessionInfo where
  number := 5
  minTimestampMillisec := 1000
  maxTimestampMillisec := 1000

/-- The manager of the set 1 with this session, in the payload and in the descriptions. -/
def describedManager : DatabaseManagerBase :=
  (managerOf [recordAt 5 0 1000]).setDescriptions [descriptionDoc 1 describedSession]

theorem describes_describedSession : Describes [recordAt 5 0 1000] 0 [describedSession] := by
  have hscan : sessionInfo ([recordAt 5 0 1000].map trajectoryDoc) 5 = describedSession := by
    decide
  refine ⟨List.nodup_singleton _, fun i => ?_⟩
  rw [List.map_singleton, List.mem_singleton]
  constructor
  · rintro rfl
    exact ⟨5, ⟨recordAt 5 0 1000, List.mem_singleton_self _, rfl⟩, by decide, hscan.symm⟩
  · rintro ⟨n, ⟨r, hr, rfl⟩, _, rfl⟩
    rw [List.mem_singleton.mp hr]
    exact hscan

theorem payloadOf_describedManager : PayloadOf describedManager 1 [recordAt 5 0 1000] :=
  ⟨"video_raw", by decide, by decide, rfl⟩

/-- The session grows by one step. -/
theorem refresh_equals_rescan_grown :
    ∃ s₁ ok, describedManager.writeTrajectoryData true 1 [recordAt 5 1 2000] = some (s₁, ok) ∧
      ∀ tail range : DistinctCommand, tail.Answers s₁.db → range.Answers s₁.db →
        ∃ s₂, s₁.refreshSessionDescriptions tail range 1 = some s₂ ∧ RescanEquals s₂ 1 0 := by
  obtain ⟨s₁, ok, hwrite, hrefresh⟩ := refresh_equals_rescan_iff [describedSession]
    describedSession [recordAt 5 1 2000] payloadOf_describedManager rfl
    ((rescanEquals_iff payloadOf_describedManager rfl).mpr describes_describedSession)
    (by decide) (by decide) (by decide)
  exact ⟨s₁, ok, hwrite, fun tail range htail hrange =>
    (hrefresh tail range htail hrange).mpr (by decide)⟩

/-- A later record of the step the session ended with: its time is never stored. -/
theorem refresh_misses_later_record :
    RescanEquals describedManager 1 0 ∧
      ∃ s₁ ok, describedManager.writeTrajectoryData true 1 [recordAt 5 0 2000] = some (s₁, ok) ∧
        ¬ ∃ s₂, s₁.refreshSessionDescriptions (distinctOf s₁.db) (distinctOf s₁.db) 1 = some s₂ ∧
          RescanEquals s₂ 1 0 := by
  refine ⟨(rescanEquals_iff payloadOf_describedManager rfl).mpr describes_describedSession, ?_⟩
  obtain ⟨s₁, ok, hwrite, h₁, hdocs⟩ := payloadOf_describedManager.write [recordAt 5 0 2000]
  have hiff := refresh_iff h₁ (hdocs.trans (rfl : _ = [describedSession].map (descriptionDoc 1)))
    describes_describedSession List.mem_cons_self (by decide) (by decide)
    (answers_distinctOf s₁.db) (answers_distinctOf s₁.db)
  exact ⟨s₁, ok, hwrite, hiff.not.mpr (by decide)⟩

end MicroserviceCommon
