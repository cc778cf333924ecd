import Mathlib.Data.UInt
import MicroserviceCommon.Infra.Trace
import MicroserviceCommon.Properties.VideoCards

/-!
# The choice of a video card

The limit is checked on the least loaded free card only. No other free card can be below it then.

* `video_card_choice` — a card is returned exactly when a free one is below the limit, the least
  loaded one is, and the marks are the cards that were returned and not released
* `callAlone` — the steps of one client with nobody between them are the call
-/

namespace MicroserviceCommon.SystemMonitor

open Infra

/-! ## The search -/

namespace CardsStatuses

variable {s : CardsStatuses} {idx : UInt32}

/-- No free card has less memory in use than the one the search ends with. -/
theorem foldl_searchCard_le (statuses : List SVideoStatus) (acc : UInt32 × UInt32) :
    (statuses.foldl searchCard acc).2 ≤ acc.2 ∧ ∀ status ∈ statuses,
      status.usedByVideoServer = false →
        (statuses.foldl searchCard acc).2 ≤ status.memoryUsedPercent := by
  induction statuses generalizing acc with
  | nil => exact ⟨UInt32.le_refl _, fun _ h => by cases h⟩
  | cons status statuses ih =>
    obtain ⟨hacc, hrest⟩ := ih (searchCard acc status)
    have hstep : (searchCard acc status).2 ≤ acc.2 ∧ (status.usedByVideoServer = false →
        (searchCard acc status).2 ≤ status.memoryUsedPercent) := by
      unfold searchCard
      split
      · next hused => exact ⟨UInt32.le_refl _, fun h => by rw [h] at hused; cases hused⟩
      · split
        · next hlt => exact ⟨UInt32.le_of_lt hlt, fun _ => UInt32.le_refl _⟩
        · next hge => exact ⟨UInt32.le_refl _, fun _ => UInt32.not_lt.mp hge⟩
    rw [List.foldl_cons]
    refine ⟨UInt32.le_trans hacc hstep.1, fun card hmem hfree => ?_⟩
    rcases List.mem_cons.mp hmem with rfl | hmem
    · exact UInt32.le_trans hacc (hstep.2 hfree)
    · exact hrest card hmem hfree

/-- The search ends where it began, or with a free card and the memory that it uses. -/
theorem foldl_searchCard_eq (statuses : List SVideoStatus) (acc : UInt32 × UInt32) :
    statuses.foldl searchCard acc = acc ∨ ∃ card ∈ statuses, card.usedByVideoServer = false ∧
      statuses.foldl searchCard acc = (card.index, card.memoryUsedPercent) := by
  induction statuses generalizing acc with
  | nil => exact Or.inl rfl
  | cons status statuses ih =>
    rw [List.foldl_cons]
    rcases ih (searchCard acc status) with h | ⟨card, hmem, hcard⟩
    · rw [h]
      unfold searchCard
      split
      · exact Or.inl rfl
      · next hfree =>
        split
        · exact Or.inr ⟨status, List.mem_cons_self, Bool.eq_false_iff.mpr hfree, rfl⟩
        · exact Or.inl rfl
    · exact Or.inr ⟨card, List.mem_cons_of_mem _ hmem, hcard⟩

/-- `NO_AVAILABLE_CARDS` is no key. -/
def SentinelFree (s : CardsStatuses) : Prop :=
  noAvailableCards ∉ s.statuses.map SVideoStatus.index

instance (s : CardsStatuses) : Decidable s.SentinelFree :=
  inferInstanceAs (Decidable (noAvailableCards ∉ s.statuses.map SVideoStatus.index))

/-- A free card that uses no more memory than any other free one. -/
structure IsLeastFree (s : CardsStatuses) (card : SVideoStatus) : Prop where
  mem : card ∈ s.statuses
  free : card.usedByVideoServer = false
  least : ∀ other ∈ s.statuses, other.usedByVideoServer = false →
    card.memoryUsedPercent ≤ other.memoryUsedPercent

/-- **The search finds a least loaded free card**, or all free cards are as full as can be. -/
theorem search_cases (hs : s.SentinelFree) :
    (s.search = noAvailableCards ∧ ∀ card ∈ s.statuses, card.usedByVideoServer = false →
      gpuMemoryLoadPercentLimit ≤ card.memoryUsedPercent) ∨
    ∃ card, s.IsLeastFree card ∧ s.search = card.index ∧ s.search ≠ noAvailableCards := by
  obtain ⟨_, hleast⟩ := foldl_searchCard_le s.statuses (noAvailableCards, 4294967295)
  unfold search
  rcases foldl_searchCard_eq s.statuses (noAvailableCards, 4294967295) with h | h
  · rw [h] at hleast ⊢
    refine Or.inl ⟨rfl, fun card hmem hfree => ?_⟩
    have hfull : (4294967295 : UInt32) ≤ card.memoryUsedPercent := hleast card hmem hfree
    exact UInt32.le_trans (by decide) hfull
  · obtain ⟨card, hmem, hfree, hcard⟩ := h
    rw [hcard] at hleast ⊢
    refine Or.inr ⟨card, ⟨hmem, hfree, hleast⟩, rfl, ?_⟩
    rintro hindex
    exact hs (hindex ▸ List.mem_map_of_mem hmem)

theorem find_eq_some {card : SVideoStatus} (h : card ∈ s.statuses) :
    s.find card.index = some card := by
  unfold find
  cases hfind : s.statuses.find? fun status => status.index == card.index with
  | none =>
    have hnone := List.find?_eq_none.mp hfind card h
    simp at hnone
  | some found =>
    have hindex : found.index = card.index := by simpa using List.find?_some hfind
    rw [List.inj_on_of_nodup_map s.keys (List.mem_of_find?_eq_some hfind) h hindex]

theorem isPresent_iff_find : s.isPresent idx ↔ (s.find idx).isSome = true := by
  unfold isPresent find
  rw [List.find?_isSome]
  simp

/-- Only the status of one key changes. -/
theorem setUsed_eq {card : SVideoStatus} {before behind : List SVideoStatus} (used : Bool)
    (h : s.statuses = before ++ card :: behind) :
    (s.setUsed card.index used).statuses =
      before ++ { card with usedByVideoServer := used } :: behind := by
  have hkeys := s.keys
  rw [h, List.map_append, List.map_cons, List.nodup_append] at hkeys
  obtain ⟨_, hbehind, hbefore⟩ := hkeys
  have hother : ∀ status : SVideoStatus, status.index ≠ card.index →
      (if status.index = card.index then { status with usedByVideoServer := used } else status) =
        status := fun status hne => if_neg hne
  show s.statuses.map _ = _
  rw [h, List.map_append, List.map_cons, if_pos rfl]
  congr 1
  · refine (List.map_congr_left fun status hmem => hother status ?_).trans (List.map_id _)
    exact hbefore _ (List.mem_map_of_mem hmem) _ List.mem_cons_self
  · refine congrArg _ ((List.map_congr_left fun status hmem => hother status ?_).trans
      (List.map_id _))
    rintro hindex
    exact (List.nodup_cons.mp hbehind).1 (hindex ▸ List.mem_map_of_mem hmem)

theorem sentinelFree_setUsed {used : Bool} (h : s.SentinelFree) :
    (s.setUsed idx used).SentinelFree := by
  intro hmem
  obtain ⟨card, hcard, hindex⟩ := List.mem_map.mp hmem
  obtain ⟨old, hold, hindex'⟩ := isPresent_setUsed.mp ⟨card, hcard, hindex⟩
  exact h (hindex' ▸ List.mem_map_of_mem hold)

end CardsStatuses

/-! ## One call -/

namespace SPrivateDataSection

variable {s : SPrivateDataSection} {idx : UInt32}

/-- **The cases of a call.** The limit is checked on one card, and decides for all of them. -/
theorem getNextVideoCardIdx_cases (hs : s.cardsStatuses.SentinelFree) :
    (s.getNextVideoCardIdx.1 = noAvailableCards ∧
      s.getNextVideoCardIdx.2.cardsStatuses = s.cardsStatuses ∧
      ∀ card ∈ s.cardsStatuses.statuses, card.usedByVideoServer = false →
        gpuMemoryLoadPercentLimit ≤ card.memoryUsedPercent) ∨
    ∃ card, s.cardsStatuses.IsLeastFree card ∧
      card.memoryUsedPercent < gpuMemoryLoadPercentLimit ∧ card.index ≠ noAvailableCards ∧
      s.getNextVideoCardIdx.1 = card.index ∧
      s.getNextVideoCardIdx.2.cardsStatuses = s.cardsStatuses.setUsed card.index true := by
  unfold getNextVideoCardIdx
  simp only
  rcases CardsStatuses.search_cases hs with ⟨hnone, hfull⟩ | ⟨card, hleast, hsearch, hne⟩
  · rw [if_pos hnone.symm]
    exact Or.inl ⟨hnone, rfl, hfull⟩
  · have hstatus : (s.cardsStatuses.find s.cardsStatuses.search).getD {} = card := by
      rw [hsearch, CardsStatuses.find_eq_some hleast.mem, Option.getD_some]
    rw [if_neg (Ne.symm hne), hstatus]
    by_cases hlimit : card.memoryUsedPercent ≥ gpuMemoryLoadPercentLimit
    · rw [if_pos hlimit]
      exact Or.inl ⟨rfl, rfl, fun other hmem hfree =>
        UInt32.le_trans hlimit (hleast.least other hmem hfree)⟩
    · rw [if_neg hlimit]
      exact Or.inr ⟨card, hleast, UInt32.not_le.mp hlimit, hsearch ▸ hne, hsearch, by rw [hsearch]⟩

/-- What a call that runs alone returns and leaves. -/
structure ChoosesLeastFree (s : SPrivateDataSection) : Prop where
  available : s.getNextVideoCardIdx.1 ≠ noAvailableCards ↔
    ∃ card ∈ s.cardsStatuses.statuses,
      card.usedByVideoServer = false ∧ card.memoryUsedPercent < 60
  chosen : s.getNextVideoCardIdx.1 ≠ noAvailableCards → ∃ before card behind,
    s.cardsStatuses.statuses = before ++ card :: behind ∧ s.cardsStatuses.IsLeastFree card ∧
    s.getNextVideoCardIdx.1 = card.index ∧
    s.getNextVideoCardIdx.2.cardsStatuses.statuses =
      before ++ { card with usedByVideoServer := true } :: behind
  unchanged : s.getNextVideoCardIdx.1 = noAvailableCards →
    s.getNextVideoCardIdx.2.cardsStatuses = s.cardsStatuses

theorem choosesLeastFree (hs : s.cardsStatuses.SentinelFree) : s.ChoosesLeastFree := by
  rcases getNextVideoCardIdx_cases hs with
    ⟨hnone, hsame, hfull⟩ | ⟨card, hleast, hlimit, hne, hidx, hmarked⟩
  · refine ⟨iff_of_false (fun h => h hnone) ?_, fun h => absurd hnone h, fun _ => hsame⟩
    rintro ⟨card, hmem, hfree, hlimit⟩
    exact UInt32.not_lt.mpr (hfull card hmem hfree) hlimit
  · refine ⟨iff_of_true (hidx ▸ hne) ⟨card, hleast.mem, hleast.free, hlimit⟩, fun _ => ?_,
      fun h => absurd (hidx.symm.trans h) hne⟩
    obtain ⟨before, behind, hsplit⟩ := List.append_of_mem hleast.mem
    exact ⟨before, card, behind, hsplit, hleast, hidx,
      hmarked ▸ CardsStatuses.setUsed_eq true hsplit⟩

theorem sentinelFree_getNextVideoCardIdx (hs : s.cardsStatuses.SentinelFree) :
    s.getNextVideoCardIdx.2.cardsStatuses.SentinelFree := by
  rcases getNextVideoCardIdx_cases hs with ⟨_, hsame, _⟩ | ⟨card, _, _, _, _, hmarked⟩
  · rw [hsame]
    exact hs
  · rw [hmarked]
    exact CardsStatuses.sentinelFree_setUsed hs

theorem sentinelFree_releaseVideoCardIdx (hs : s.cardsStatuses.SentinelFree) :
    (s.releaseVideoCardIdx idx).cardsStatuses.SentinelFree := by
  unfold releaseVideoCardIdx
  split
  · exact CardsStatuses.sentinelFree_setUsed hs
  · exact hs

/-- A returned card was not marked and is marked now. -/
theorem isUsed_getNextVideoCardIdx (hs : s.cardsStatuses.SentinelFree) (j : UInt32) :
    s.getNextVideoCardIdx.2.cardsStatuses.isUsed j = true ↔
      j = s.getNextVideoCardIdx.1 ∧ j ≠ noAvailableCards ∨ s.cardsStatuses.isUsed j = true := by
  rcases getNextVideoCardIdx_cases hs with
    ⟨hnone, hsame, _⟩ | ⟨card, hleast, _, hne, hidx, hmarked⟩
  · rw [hnone, hsame]
    exact ⟨Or.inr, fun h => h.resolve_left fun hand => hand.2 hand.1⟩
  · rw [hidx, hmarked, CardsStatuses.isUsed_setUsed ⟨card, hleast.mem, rfl⟩]
    by_cases hj : j = card.index
    · rw [hj, Function.update_self]
      exact iff_of_true rfl (Or.inl ⟨rfl, hne⟩)
    · rw [Function.update_of_ne hj]
      exact ⟨Or.inr, fun h => h.resolve_left fun hand => hj hand.1⟩

/-- A release clears one mark at most. -/
theorem isUsed_releaseVideoCardIdx (j : UInt32) :
    (s.releaseVideoCardIdx idx).cardsStatuses.isUsed j = true ↔
      s.cardsStatuses.isUsed j = true ∧ j ≠ idx := by
  unfold releaseVideoCardIdx
  by_cases hfind : (s.cardsStatuses.find idx).isSome
  · rw [if_pos hfind]
    show (s.cardsStatuses.setUsed idx false).isUsed j = true ↔ _
    rw [CardsStatuses.isUsed_setUsed (CardsStatuses.isPresent_iff_find.mpr hfind)]
    by_cases hj : j = idx
    · rw [hj, Function.update_self]
      exact iff_of_false Bool.false_ne_true fun hand => hand.2 rfl
    · rw [Function.update_of_ne hj]
      exact (and_iff_left hj).symm
  · rw [if_neg hfind]
    refine ⟨fun hused => ⟨hused, ?_⟩, And.left⟩
    -- an index that is not there has no mark
    rintro rfl
    obtain ⟨status, hmem, hindex, _⟩ := CardsStatuses.isUsed_iff.mp hused
    exact hfind (CardsStatuses.isPresent_iff_find.mp ⟨status, hmem, hindex⟩)

end SPrivateDataSection

/-! ## Calls one after the other -/

/-- The call that an event is of. -/
def CardEvent.call : CardEvent → CardCall
  | .returned _ => .getNextVideoCardIdx
  | .released idx => .releaseVideoCardIdx idx

namespace CardSession

/-- **Every call returns, and leaves one event.** -/
theorem log_of_run (calls : List CardCall) (s : CardSession) :
    ∃ s', runAll step s calls = some s' ∧
      s'.log.map CardEvent.call = s.log.map CardEvent.call ++ calls := by
  induction calls generalizing s with
  | nil => exact ⟨s, rfl, (List.append_nil _).symm⟩
  | cons call calls ih =>
    have hstep : ∃ s₁ e, s.step call = some s₁ ∧ s₁.log = s.log ++ [e] ∧ e.call = call := by
      cases call with
      | getNextVideoCardIdx => exact ⟨_, _, rfl, rfl, rfl⟩
      | releaseVideoCardIdx idx => exact ⟨_, _, rfl, rfl, rfl⟩
    obtain ⟨s₁, e, hs₁, hlog₁, he⟩ := hstep
    obtain ⟨s', hs', hlog⟩ := ih s₁
    refine ⟨s', ?_, ?_⟩
    · rw [runAll, hs₁, Option.bind_some, hs']
    · rw [hlog, hlog₁, List.map_append, List.map_singleton, he, List.append_assoc,
        List.singleton_append]

/-- The marks are the cards that were returned and not released since. -/
def MarksAreHandedOut (s : CardSession) : Prop :=
  ∀ idx, s.data.cardsStatuses.isUsed idx = true ↔
    idx ≠ noAvailableCards ∧ Trace.Pending (.returned idx) (.released idx) s.log

/-- No card is returned again before it was released. -/
def HandsOutOnce (s : CardSession) : Prop :=
  ∀ idx, idx ≠ noAvailableCards → Trace.Separated (.returned idx) (.released idx) s.log

structure Consistent (s : CardSession) : Prop where
  sentinelFree : s.data.cardsStatuses.SentinelFree
  marks : s.MarksAreHandedOut
  once : s.HandsOutOnce

theorem Consistent.step {s s' : CardSession} {call : CardCall} (h : Consistent s)
    (hs : s.step call = some s') : Consistent s' := by
  cases call with
  | getNextVideoCardIdx =>
    obtain rfl : _ = s' := Option.some.inj hs
    refine ⟨SPrivateDataSection.sentinelFree_getNextVideoCardIdx h.sentinelFree, fun j => ?_,
      fun j hj => ?_⟩
    · rw [SPrivateDataSection.isUsed_getNextVideoCardIdx h.sentinelFree, h.marks j,
        Trace.pending_concat, and_or_left, CardEvent.returned.injEq]
      refine or_congr ⟨fun hand => ⟨hand.2, hand.1.symm⟩, fun hand => ⟨hand.2.symm, hand.1⟩⟩ ?_
      exact and_congr_right fun _ => (and_iff_left CardEvent.noConfusion).symm
    · refine Trace.separated_concat.mpr ⟨h.once j hj, fun hreturned hpending => ?_⟩
      -- the search finds no marked card
      have hused := (h.marks j).mpr ⟨hj, hpending⟩
      cases hreturned
      rcases SPrivateDataSection.getNextVideoCardIdx_cases h.sentinelFree with
        ⟨hnone, _⟩ | ⟨card, hleast, _, _, hidx, _⟩
      · exact hj hnone
      · rw [hidx] at hused
        obtain ⟨other, hmem, hindex, hother⟩ := CardsStatuses.isUsed_iff.mp hused
        have hsame : other = card :=
          List.inj_on_of_nodup_map s.data.cardsStatuses.keys hmem hleast.mem hindex
        rw [hsame, hleast.free] at hother
        cases hother
  | releaseVideoCardIdx idx =>
    obtain rfl : _ = s' := Option.some.inj hs
    refine ⟨SPrivateDataSection.sentinelFree_releaseVideoCardIdx h.sentinelFree, fun j => ?_,
      fun j hj => ?_⟩
    · rw [SPrivateDataSection.isUsed_releaseVideoCardIdx, h.marks j, Trace.pending_concat,
        and_assoc]
      refine and_congr_right fun _ => ⟨fun hand => Or.inr ⟨hand.1, ?_⟩, fun hor => ?_⟩
      · rintro heq
        cases heq
        exact hand.2 rfl
      · obtain ⟨hpending, hne⟩ := hor.resolve_left CardEvent.noConfusion
        exact ⟨hpending, fun hj => hne (hj ▸ rfl)⟩
    · exact Trace.separated_concat.mpr ⟨h.once j hj, CardEvent.noConfusion⟩

theorem Consistent.init {data : SPrivateDataSection} (hs : data.cardsStatuses.SentinelFree)
    (hfree : ∀ idx, data.cardsStatuses.isUsed idx = false) : Consistent { data := data } where
  sentinelFree := hs
  marks := fun idx => by
    rw [hfree idx]
    exact iff_of_false Bool.false_ne_true fun h => Trace.not_pending_nil h.2
  once := fun _ _ => Trace.separated_nil

end CardSession

/-! ## The call as steps -/

namespace VideoCards

variable {κ : Type*} [DecidableEq κ]

/-- What the calls of the clients share. -/
def data (s : VideoCards κ) : SPrivateDataSection where
  cardsStatuses := s.cardsStatuses
  lastError := s.lastError

/-- **Nobody between the steps of a client makes them one call.** -/
theorem callAlone (s : VideoCards κ) (c : κ) (hidle : s.phase c = .idle) :
    ∃ as ∈ [[.search c], [.search c, .checkLimit c], [.search c, .checkLimit c, .mark c]],
      ∃ s', runAll step s as = some s' ∧ s'.phase c = .idle ∧
        s'.data = s.data.getNextVideoCardIdx.2 := by
  have hsearch : step s (.search c) = some (s.search c) := if_pos hidle
  by_cases hnone : noAvailableCards = s.cardsStatuses.search
  · have hcall : s.data.getNextVideoCardIdx = _ := if_pos hnone
    refine ⟨_, List.mem_cons_self, s.search c, by rw [runAll, hsearch]; rfl, ?_, ?_⟩
    · rw [search, if_pos hnone]
      exact hidle
    · rw [hcall, search, if_pos hnone]
      rfl
  · have hfound : s.search c = s.setPhase c (.found s.cardsStatuses.search) := if_neg hnone
    have hcheck : step (s.search c) (.checkLimit c) =
        some ((s.search c).checkLimit c s.cardsStatuses.search) := by
      rw [step, hfound, phase_setPhase_self]
    by_cases hlimit : ((s.cardsStatuses.find s.cardsStatuses.search).getD {}).memoryUsedPercent ≥
        gpuMemoryLoadPercentLimit
    · have hcall : s.data.getNextVideoCardIdx = _ := (if_neg hnone).trans (if_pos hlimit)
      have hover : (s.search c).checkLimit c s.cardsStatuses.search = _ :=
        if_pos (show _ ≥ _ by rw [hfound]; exact hlimit)
      refine ⟨_, List.mem_cons_of_mem _ List.mem_cons_self, _,
        by rw [runAll, hsearch, Option.bind_some, runAll, hcheck]; rfl, ?_, ?_⟩
      · rw [hover]
        exact phase_setPhase_self _ c .idle
      · rw [hcall, hover, hfound]
        rfl
    · have hcall : s.data.getNextVideoCardIdx = _ := (if_neg hnone).trans (if_neg hlimit)
      have hbelow : (s.search c).checkLimit c s.cardsStatuses.search =
          (s.search c).setPhase c (.checked s.cardsStatuses.search) :=
        if_neg (show ¬ _ ≥ _ by rw [hfound]; exact hlimit)
      have hmark : step ((s.search c).checkLimit c s.cardsStatuses.search) (.mark c) =
          some (((s.search c).checkLimit c s.cardsStatuses.search).mark c
            s.cardsStatuses.search) := by
        rw [step, hbelow, phase_setPhase_self]
      refine ⟨_, List.mem_cons_of_mem _ (List.mem_cons_of_mem _ List.mem_cons_self), _,
        by rw [runAll, hsearch, Option.bind_some, runAll, hcheck, Option.bind_some, runAll,
          hmark]; rfl, ?_, ?_⟩
      · exact phase_setPhase_self _ c .idle
      · rw [hcall, hbelow, hfound]
        rfl

end VideoCards

/-! ## The choice -/

/--
**A call returns a least loaded free card exactly when a free card is below the limit.**

It marks this card and nothing else. Over calls and releases one after the other, the marks are
exactly the cards that were returned and not released since, and no card is returned twice without
a release in between. The history has one event for each of these calls.
-/
theorem video_card_choice (data : SPrivateDataSection) (hs : data.cardsStatuses.SentinelFree) :
    data.ChoosesLeastFree ∧ ((∀ idx, data.cardsStatuses.isUsed idx = false) →
      ∀ calls : List CardCall,
        AlwaysState CardSession.step
          (fun s => s.MarksAreHandedOut ∧ s.HandsOutOnce ∧ s.data.ChoosesLeastFree)
          { data := data } calls ∧
        ∃ s, runAll CardSession.step { data := data } calls = some s ∧
          s.log.map CardEvent.call = calls) := by
  refine ⟨SPrivateDataSection.choosesLeastFree hs, fun hfree calls =>
    ⟨?_, CardSession.log_of_run calls { data := data }⟩⟩
  have hrun : AlwaysState CardSession.step CardSession.Consistent { data := data } calls :=
    alwaysState_of_alwaysStep (C := fun _ _ => True) CardSession.Consistent
      (fun s call s' h _ hs => h.step hs) calls { data := data }
      (CardSession.Consistent.init hs hfree) alwaysStep_trivial
  exact hrun.mono fun s h =>
    ⟨h.marks, h.once, SPrivateDataSection.choosesLeastFree h.sentinelFree⟩

/-- A session with the two cards that the constructor found. -/
theorem video_card_choice_of_two :
    AlwaysState CardSession.step (fun s => s.MarksAreHandedOut ∧ s.HandsOutOnce)
      { data := { cardsStatuses := .ofVideos [{ index := 0, memoryUsedPercent := 70 },
        { index := 1, memoryUsedPercent := 20 }] } }
      [.getNextVideoCardIdx, .getNextVideoCardIdx, .releaseVideoCardIdx 1] :=
  ((video_card_choice { cardsStatuses := .ofVideos [{ index := 0, memoryUsedPercent := 70 },
    { index := 1, memoryUsedPercent := 20 }] } (by decide)).2
    (CardsStatuses.isUsed_ofVideos _) _).1.mono fun _ h => ⟨h.1, h.2.1⟩

end MicroserviceCommon.SystemMonitor
