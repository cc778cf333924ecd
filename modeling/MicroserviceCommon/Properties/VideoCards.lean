import MicroserviceCommon.Infra.Run
import MicroserviceCommon.System.SystemMonitor

/-!
# Video cards are handed out exclusively

The search finds a card that nobody holds, but the card is marked in a section of its own. Another
client can find the same card in between.

* `video_cards_exclusive_iff` — no card is returned to a client while another one holds it, and none
  ever has two holders, exactly when every card is unmarked at the moment it is marked
* `video_card_given_twice` — two clients that search before either of them marks
-/

namespace MicroserviceCommon.SystemMonitor

open Infra

/-! ## The statuses -/

namespace CardsStatuses

variable {s : CardsStatuses} {idx : UInt32}

def isPresent (s : CardsStatuses) (idx : UInt32) : Prop :=
  ∃ status ∈ s.statuses, status.index = idx

theorem isUsed_iff : s.isUsed idx = true ↔
    ∃ status ∈ s.statuses, status.index = idx ∧ status.usedByVideoServer = true := by
  simp [isUsed]

theorem isPresent_setUsed {j : UInt32} {used : Bool} :
    (s.setUsed idx used).isPresent j ↔ s.isPresent j := by
  unfold isPresent setUsed
  simp only [List.mem_map, exists_exists_and_eq_and]
  refine exists_congr fun status => and_congr_right fun _ => ?_
  split <;> exact Iff.rfl

/-- Only the one mark changes. -/
theorem isUsed_setUsed (h : s.isPresent idx) (used : Bool) :
    (s.setUsed idx used).isUsed = Function.update s.isUsed idx used := by
  funext j
  rw [Bool.eq_iff_iff, isUsed_iff]
  simp only [setUsed, List.mem_map, exists_exists_and_eq_and]
  by_cases hj : j = idx
  · subst hj
    rw [Function.update_self]
    constructor
    · rintro ⟨status, _, hindex, hused⟩
      split at hused
      · exact hused
      · next hne => rw [if_neg hne] at hindex; exact absurd hindex hne
    · intro hused
      obtain ⟨status, hmem, hindex⟩ := h
      refine ⟨status, hmem, ?_⟩
      rw [if_pos hindex]
      exact ⟨hindex, hused⟩
  · rw [Function.update_of_ne hj, isUsed_iff]
    refine exists_congr fun status => and_congr_right fun _ => ?_
    split
    · next hindex =>
      have hne : status.index ≠ j := fun he => hj (he.symm.trans hindex)
      exact iff_of_false (fun hand => hne hand.1) fun hand => hne hand.1
    · exact Iff.rfl

/-- What the loop leaves as `idxWithMinLoad` is the index of a free card that it saw. -/
theorem foldl_searchCard (statuses : List SVideoStatus) (acc : UInt32 × UInt32) :
    (statuses.foldl searchCard acc).1 = acc.1 ∨ ∃ status ∈ statuses,
      status.index = (statuses.foldl searchCard acc).1 ∧ status.usedByVideoServer = false := by
  induction statuses generalizing acc with
  | nil => exact Or.inl rfl
  | cons status statuses ih =>
    rw [List.foldl_cons]
    rcases ih (searchCard acc status) with h | ⟨found, hmem, hfound⟩
    · rw [h]
      unfold searchCard
      split
      · exact Or.inl rfl
      · next hfree =>
        split
        · exact Or.inr ⟨status, List.mem_cons_self, rfl, Bool.eq_false_iff.mpr hfree⟩
        · exact Or.inl rfl
    · exact Or.inr ⟨found, List.mem_cons_of_mem _ hmem, hfound⟩

/-- **The search finds a card that is there and not marked.** -/
theorem isUsed_search (h : s.search ≠ noAvailableCards) :
    s.isPresent s.search ∧ s.isUsed s.search = false := by
  rcases foldl_searchCard s.statuses (noAvailableCards, 4294967295) with hnone | hfound
  · exact absurd hnone h
  · obtain ⟨status, hmem, hindex, hfree⟩ := hfound
    refine ⟨⟨status, hmem, hindex⟩, Bool.eq_false_iff.mpr fun hused => ?_⟩
    obtain ⟨other, hother, hindex', hused'⟩ := isUsed_iff.mp hused
    -- a key has one status
    have hsame : other = status :=
      List.inj_on_of_nodup_map s.keys hother hmem (hindex'.trans hindex.symm)
    rw [hsame, hfree] at hused'
    cases hused'

theorem isUsed_insert {videocard : SVideoStatus} (hnew : videocard.usedByVideoServer = false)
    (h : ∀ idx, s.isUsed idx = false) : ∀ idx, (s.insert videocard).isUsed idx = false := by
  intro idx
  unfold insert
  split
  · exact h idx
  · have hold := h idx
    unfold isUsed at hold ⊢
    rw [List.any_append, hold]
    simp [hnew]

theorem isUsed_ofVideos (videos : List SVideoStatus) (idx : UInt32) :
    (ofVideos videos).isUsed idx = false := by
  suffices h : ∀ (s : CardsStatuses), (∀ idx, s.isUsed idx = false) → ∀ idx,
      (videos.foldl (fun s videocard => s.insert { videocard with usedByVideoServer := false })
        s).isUsed idx = false from h {} (fun _ => rfl) idx
  induction videos with
  | nil => exact fun s h => h
  | cons videocard videos ih => exact fun s h => ih _ (isUsed_insert rfl h)

end CardsStatuses

/-! ## Clients -/

namespace VideoCards

variable {κ : Type*}

/-- No card has two holders. -/
def ExclusivelyHeld (s : VideoCards κ) : Prop := ∀ idx, Exclusive fun c => s.held c idx

/-- No card is returned to a client while another one holds it. -/
def ReturnsUnheld (s : VideoCards κ) : VideoCardAction κ → Prop
  | .mark c => ∀ idx, s.phase c = .checked idx → ∀ c', c' ≠ c → s.held c' idx = false
  | _ => True

/-- A card that is marked was not marked before. -/
def MarksUnmarked (s : VideoCards κ) : VideoCardAction κ → Prop
  | .mark c => ∀ idx, s.phase c = .checked idx → s.cardsStatuses.isUsed idx = false
  | _ => True

/-- A mark stands for a holder, and a client does not hold what it is about to get. -/
structure Consistent (s : VideoCards κ) : Prop where
  reserved : Reserved s.cardsStatuses.isUsed s.held
  chosen : ∀ c idx, (s.phase c).idx? = some idx →
    s.cardsStatuses.isPresent idx ∧ s.held c idx = false
  present : ∀ c idx, s.held c idx = true → s.cardsStatuses.isPresent idx

namespace Consistent

variable {s s' : VideoCards κ} {c : κ} {idx : UInt32}

theorem init (videos : List SVideoStatus) : Consistent (VideoCards.init videos : VideoCards κ) where
  reserved := by
    have hnone : (CardsStatuses.ofVideos videos).isUsed = fun _ => false :=
      funext (CardsStatuses.isUsed_ofVideos videos)
    show Reserved (CardsStatuses.ofVideos videos).isUsed fun _ _ => false
    rw [hnone]
    exact Reserved.init
  chosen := fun _ _ h => by cases h
  present := fun _ _ h => by cases h

/-- For who is about to get a card, no mark means no other holder. -/
theorem isUsed_iff (h : Consistent s) (hphase : s.phase c = .checked idx) :
    s.cardsStatuses.isUsed idx = false ↔ ∀ c', c' ≠ c → s.held c' idx = false :=
  h.reserved.free_iff (h.chosen c idx (by rw [hphase]; rfl)).2

theorem of_lastError (h : Consistent s) (lastError : String) :
    Consistent { s with lastError := lastError } where
  reserved := h.reserved
  chosen := h.chosen
  present := h.present

variable [DecidableEq κ]

theorem setPhase (h : Consistent s) (phase : GetPhase)
    (hphase : ∀ idx, phase.idx? = some idx →
      s.cardsStatuses.isPresent idx ∧ s.held c idx = false) : Consistent (s.setPhase c phase) where
  reserved := h.reserved
  chosen := by
    intro c' idx hidx
    by_cases hc : c' = c
    · subst hc
      rw [phase_setPhase_self] at hidx
      exact hphase idx hidx
    · rw [phase_setPhase_of_ne s phase hc] at hidx
      exact h.chosen c' idx hidx
  present := h.present

theorem search (h : Consistent s) : Consistent (s.search c) := by
  unfold VideoCards.search
  simp only
  split
  · exact h.of_lastError _
  · next hne =>
    obtain ⟨hpresent, hfree⟩ := CardsStatuses.isUsed_search (Ne.symm hne)
    refine h.setPhase _ fun idx hidx => ?_
    cases hidx
    refine ⟨hpresent, Bool.eq_false_iff.mpr fun hheld => ?_⟩
    rw [(h.reserved.marked_iff _).mpr ⟨c, hheld⟩] at hfree
    cases hfree

theorem checkLimit (h : Consistent s) (hphase : s.phase c = .found idx) :
    Consistent (s.checkLimit c idx) := by
  unfold VideoCards.checkLimit
  simp only
  split
  · exact (h.setPhase .idle fun _ hidx => by cases hidx).of_lastError _
  · refine h.setPhase _ fun idx' hidx => ?_
    cases hidx
    exact h.chosen c idx (by rw [hphase]; rfl)

/-- **An unmarked card may be marked.** -/
theorem mark (h : Consistent s) (hphase : s.phase c = .checked idx)
    (hfree : s.cardsStatuses.isUsed idx = false) : Consistent (s.mark c idx) := by
  have hpresent := (h.chosen c idx (by rw [hphase]; rfl)).1
  have hidle : Consistent (s.setPhase c .idle) := h.setPhase .idle fun _ hidx => by cases hidx
  constructor
  · show Reserved (s.cardsStatuses.setUsed idx true).isUsed _
    rw [CardsStatuses.isUsed_setUsed hpresent]
    exact h.reserved.take hfree
  · intro c' idx' hidx
    obtain ⟨hpresent', hheld⟩ := hidle.chosen c' idx' hidx
    refine ⟨CardsStatuses.isPresent_setUsed.mpr hpresent', ?_⟩
    -- the client itself is in no call any more
    have hne : ¬(c' = c ∧ idx' = idx) := by
      rintro ⟨rfl, rfl⟩
      have hnone : ((s.setPhase c' .idle).phase c').idx? = none := by
        rw [phase_setPhase_self]
        rfl
      rw [show (s.mark c' idx').phase c' = (s.setPhase c' .idle).phase c' from rfl, hnone] at hidx
      cases hidx
    exact (Reserved.setHeld_of_ne true hne).trans hheld
  · intro c' idx' hheld
    refine CardsStatuses.isPresent_setUsed.mpr ?_
    by_cases hne : c' = c ∧ idx' = idx
    · rw [hne.2]
      exact hpresent
    · exact h.present c' idx' ((Reserved.setHeld_of_ne true hne).symm.trans hheld)

theorem release (h : Consistent s) (hheld : s.held c idx = true) :
    Consistent (s.release c idx) := by
  constructor
  · show Reserved (s.cardsStatuses.setUsed idx false).isUsed _
    rw [CardsStatuses.isUsed_setUsed (h.present c idx hheld)]
    exact h.reserved.give hheld
  · intro c' idx' hidx
    obtain ⟨hpresent, hnot⟩ := h.chosen c' idx' hidx
    refine ⟨CardsStatuses.isPresent_setUsed.mpr hpresent, Bool.eq_false_iff.mpr fun hstill => ?_⟩
    rw [(Reserved.held_of_setHeld hstill).2] at hnot
    cases hnot
  · intro c' idx' hstill
    have hheld' := (Reserved.held_of_setHeld hstill).2
    exact CardsStatuses.isPresent_setUsed.mpr (h.present c' idx' hheld')

theorem step (h : Consistent s) {a : VideoCardAction κ} (ha : s.MarksUnmarked a)
    (hs : s.step a = some s') : Consistent s' := by
  cases a with
  | search c =>
    rw [VideoCards.step] at hs
    split at hs
    · cases hs
      exact h.search
    · cases hs
  | checkLimit c =>
    rw [VideoCards.step] at hs
    split at hs
    · next hphase =>
      cases hs
      exact h.checkLimit hphase
    · cases hs
  | mark c =>
    rw [VideoCards.step] at hs
    split at hs
    · next idx hphase =>
      cases hs
      exact h.mark hphase (ha idx hphase)
    · cases hs
  | release c idx =>
    rw [VideoCards.step] at hs
    split at hs
    · next hand =>
      cases hs
      exact h.release hand.2
    · cases hs

omit [DecidableEq κ] in
/-- **The law of one step.** -/
theorem returnsUnheld_iff (h : Consistent s) (a : VideoCardAction κ) :
    s.ReturnsUnheld a ↔ s.MarksUnmarked a := by
  cases a with
  | mark c =>
    exact forall_congr' fun idx => forall_congr' fun hphase => (h.isUsed_iff hphase).symm
  | _ => exact Iff.rfl

end Consistent

variable [DecidableEq κ]

/--
**When the video cards are handed out exclusively.**

No card is returned to a client while another one holds it, and no card ever has two holders,
exactly when no other client has marked the card between the search that found it and its mark, or
has released it again.
-/
theorem video_cards_exclusive_iff (videos : List SVideoStatus) (as : List (VideoCardAction κ)) :
    AlwaysState step ExclusivelyHeld (init videos) as ∧
        AlwaysStep step ReturnsUnheld (init videos) as ↔
      AlwaysStep step MarksUnmarked (init videos : VideoCards κ) as :=
  alwaysStep_iff_of_inv step Consistent (fun _ h => h.reserved.exclusive)
    (fun _ _ _ h ha hs => h.step ha hs)
    (fun _ a _ h _ hlaw _ => (h.returnsUnheld_iff a).mp hlaw)
    (fun _ a _ h _ ha => (h.returnsUnheld_iff a).mpr ha) as _ (Consistent.init videos)

/-- One card, and two clients that find it before either of them marks it. -/
theorem video_card_given_twice :
    ¬ AlwaysStep step ReturnsUnheld (init [{ index := 0 }] : VideoCards Bool)
      [.search true, .search false, .checkLimit true, .checkLimit false, .mark true,
        .mark false] := by
  intro h
  have hfirst := ((((h _ rfl).2 _ rfl).2 _ rfl).2 _ rfl).2 _ rfl
  have hsecond := (hfirst.2 _ rfl).1
  have hheld := hsecond 0 rfl true (by decide)
  cases hheld

end VideoCards

end MicroserviceCommon.SystemMonitor
