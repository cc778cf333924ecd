import Mathlib.Data.List.Nodup
import Mathlib.Logic.Function.Basic
import MicroserviceCommon.Infra.Reservation

/-!
# `SystemMonitor`: the choice of a video card

`getNextVideoCardIdx` searches the statuses under `statusesLock`, reads the chosen one without the
lock, and marks it under the lock. Each of the three is a step. `releaseVideoCardIdx` is one step.
`SPrivateDataSection` has the same call as one function, for calls that run alone.

The statuses are those of the constructor. Nothing refreshes them.
-/

namespace MicroserviceCommon.SystemMonitor

open Infra

/-- `-1` as an `unsigned int`. -/
def noAvailableCards : UInt32 := 4294967295

def gpuMemoryLoadPercentLimit : UInt32 := 60

structure SVideoStatus where
  usedByVideoServer : Bool := false
  gpuLoadPercent : UInt32 := 0
  memoryUsedPercent : UInt32 := 0
  index : UInt32 := 0
  cardName : String := ""
  deriving DecidableEq, Repr

/-- `cardsStatuses` in the order of its iterator. The key of a status is its index. -/
structure CardsStatuses where
  statuses : List SVideoStatus := []
  keys : (statuses.map SVideoStatus.index).Nodup := by simp

namespace CardsStatuses

/-- `insert` keeps the status of a key that is there. -/
def insert (s : CardsStatuses) (videocard : SVideoStatus) : CardsStatuses :=
  if h : videocard.index ∈ s.statuses.map SVideoStatus.index then s
  else
    { statuses := s.statuses ++ [videocard]
      keys := by
        rw [List.map_append, List.nodup_append]
        refine ⟨s.keys, List.nodup_singleton _, ?_⟩
        rintro a ha b hb rfl
        rw [List.map_singleton, List.mem_singleton] at hb
        exact h (hb ▸ ha) }

/-- The statuses that `getVideos` returns have `usedByVideoServer` from their constructor. -/
def ofVideos (videos : List SVideoStatus) : CardsStatuses :=
  videos.foldl (fun s videocard => s.insert { videocard with usedByVideoServer := false }) {}

def find (s : CardsStatuses) (idx : UInt32) : Option SVideoStatus :=
  s.statuses.find? fun status => status.index == idx

/-- One pass of the search. The accumulator is `idxWithMinLoad` and `minGpuMemUtilization`. -/
def searchCard (acc : UInt32 × UInt32) (status : SVideoStatus) : UInt32 × UInt32 :=
  if status.usedByVideoServer then acc
  else if status.memoryUsedPercent < acc.2 then (status.index, status.memoryUsedPercent) else acc

/-- The free card with the least memory in use. -/
def search (s : CardsStatuses) : UInt32 :=
  (s.statuses.foldl searchCard (noAvailableCards, 4294967295)).1

/-- `cardsStatuses[ idx ].usedByVideoServer = used` for an index that is there. -/
def setUsed (s : CardsStatuses) (idx : UInt32) (used : Bool) : CardsStatuses where
  statuses := s.statuses.map fun status =>
    if status.index = idx then { status with usedByVideoServer := used } else status
  keys := by
    rw [List.map_map]
    refine (List.map_congr_left fun status _ => ?_) ▸ s.keys
    show status.index = SVideoStatus.index (if _ then _ else _)
    split <;> rfl

def isUsed (s : CardsStatuses) (idx : UInt32) : Bool :=
  s.statuses.any fun status => status.index == idx && status.usedByVideoServer

end CardsStatuses

/-! ## A call that runs alone -/

/-- `cardsStatuses` and `lastError` of the private section. -/
structure SPrivateDataSection where
  cardsStatuses : CardsStatuses := {}
  lastError : String := ""

/-- One whole call. -/
inductive CardCall where
  | getNextVideoCardIdx
  | releaseVideoCardIdx (idx : UInt32)
  deriving DecidableEq, Repr

/-- What was returned and what was released. -/
inductive CardEvent where
  | returned (idx : UInt32)
  | released (idx : UInt32)
  deriving DecidableEq, Repr

namespace SPrivateDataSection

/-- The returned index, `NO_AVAILABLE_CARDS` without a card. -/
def getNextVideoCardIdx (s : SPrivateDataSection) : UInt32 × SPrivateDataSection :=
  let idxWithMinLoad := s.cardsStatuses.search
  if noAvailableCards = idxWithMinLoad then
    (idxWithMinLoad,
      { s with lastError := "SystemMonitor: no free video card, try once more later" })
  else
    let cardStatus := (s.cardsStatuses.find idxWithMinLoad).getD {}
    if cardStatus.memoryUsedPercent ≥ gpuMemoryLoadPercentLimit then
      (noAvailableCards,
        { s with lastError :=
          "SystemMonitor: memory utilization of most free card is more than [60] Select aborted" })
    else
      (idxWithMinLoad, { s with cardsStatuses := s.cardsStatuses.setUsed idxWithMinLoad true })

/-- An index that is not there is only logged. -/
def releaseVideoCardIdx (s : SPrivateDataSection) (idx : UInt32) : SPrivateDataSection :=
  if (s.cardsStatuses.find idx).isSome then
    { s with cardsStatuses := s.cardsStatuses.setUsed idx false }
  else s

end SPrivateDataSection

/-- The calls so far, one after the other. -/
structure CardSession where
  data : SPrivateDataSection
  log : List CardEvent := []

def CardSession.step (s : CardSession) : CardCall → Option CardSession
  | .getNextVideoCardIdx =>
    let result := s.data.getNextVideoCardIdx
    some { data := result.2, log := s.log ++ [.returned result.1] }
  | .releaseVideoCardIdx idx =>
    some { data := s.data.releaseVideoCardIdx idx, log := s.log ++ [.released idx] }

/-! ## Concurrent calls -/

/-- Where a client is in `getNextVideoCardIdx`. -/
inductive GetPhase where
  | idle
  | found (idx : UInt32)
  | checked (idx : UInt32)
  deriving DecidableEq, Repr

/-- The index that the call is about to return. -/
def GetPhase.idx? : GetPhase → Option UInt32
  | idle => none
  | found idx | checked idx => some idx

/-- `held` are the indices that a client got and has not released. -/
structure VideoCards (κ : Type*) where
  cardsStatuses : CardsStatuses
  lastError : String := ""
  phase : κ → GetPhase := fun _ => .idle
  held : κ → UInt32 → Bool := fun _ _ => false

inductive VideoCardAction (κ : Type*) where
  | search (c : κ)
  | checkLimit (c : κ)
  | mark (c : κ)
  | release (c : κ) (idx : UInt32)
  deriving DecidableEq, Repr

namespace VideoCards

variable {κ : Type*} [DecidableEq κ]

def setPhase (s : VideoCards κ) (c : κ) (phase : GetPhase) : VideoCards κ :=
  { s with phase := Function.update s.phase c phase }

@[simp] theorem phase_setPhase_self (s : VideoCards κ) (c : κ) (phase : GetPhase) :
    (s.setPhase c phase).phase c = phase := Function.update_self ..

theorem phase_setPhase_of_ne (s : VideoCards κ) {c c' : κ} (phase : GetPhase) (h : c' ≠ c) :
    (s.setPhase c phase).phase c' = s.phase c' := Function.update_of_ne h ..

/-- Without a free card the call returns `NO_AVAILABLE_CARDS`. -/
def search (s : VideoCards κ) (c : κ) : VideoCards κ :=
  let idxWithMinLoad := s.cardsStatuses.search
  if noAvailableCards = idxWithMinLoad then
    { s with lastError := "SystemMonitor: no free video card, try once more later" }
  else s.setPhase c (.found idxWithMinLoad)

/-- A card over the limit makes the call return `NO_AVAILABLE_CARDS`. -/
def checkLimit (s : VideoCards κ) (c : κ) (idx : UInt32) : VideoCards κ :=
  let cardStatus := (s.cardsStatuses.find idx).getD {}
  if cardStatus.memoryUsedPercent ≥ gpuMemoryLoadPercentLimit then
    { s.setPhase c .idle with
      lastError :=
        "SystemMonitor: memory utilization of most free card is more than [60] Select aborted" }
  else s.setPhase c (.checked idx)

/-- The index is returned. -/
def mark (s : VideoCards κ) (c : κ) (idx : UInt32) : VideoCards κ :=
  { s.setPhase c .idle with
    cardsStatuses := s.cardsStatuses.setUsed idx true
    held := Reserved.setHeld s.held c idx true }

def release (s : VideoCards κ) (c : κ) (idx : UInt32) : VideoCards κ :=
  { s with
    cardsStatuses := s.cardsStatuses.setUsed idx false
    held := Reserved.setHeld s.held c idx false }

/-- A client makes one call at a time, and releases what it holds. -/
def step (s : VideoCards κ) : VideoCardAction κ → Option (VideoCards κ)
  | .search c => if s.phase c = .idle then some (s.search c) else none
  | .checkLimit c =>
    match s.phase c with
    | .found idx => some (s.checkLimit c idx)
    | _ => none
  | .mark c =>
    match s.phase c with
    | .checked idx => some (s.mark c idx)
    | _ => none
  | .release c idx =>
    if s.phase c = .idle ∧ s.held c idx = true then some (s.release c idx) else none

/-- The cards that the constructor found. -/
def init (videos : List SVideoStatus) : VideoCards κ where
  cardsStatuses := CardsStatuses.ofVideos videos

end VideoCards

end MicroserviceCommon.SystemMonitor
