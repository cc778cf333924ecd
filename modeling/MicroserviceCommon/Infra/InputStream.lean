import Mathlib.Data.List.Basic

/-!
# Input streams

A `std::istream` over the elements of a file, with its position and its error flags. A stream that
is not good reads nothing, and every attempt makes it fail.

* `get`, `tellg`, `seekg`, `seekgCur`, `seekgEnd`, `getline` — the calls
* `get_goodAt`, `tellg_goodAt`, … — what they do on a good stream
-/

namespace Infra

structure IStream (β : Type*) where
  content : List β
  pos : Nat := 0
  eofbit : Bool := false
  failbit : Bool := false
  deriving DecidableEq, Repr

namespace IStream

variable {β : Type*}

def good (s : IStream β) : Bool := !s.eofbit && !s.failbit

/-- `none` leaves the character as it is. -/
def get (s : IStream β) : Option β × IStream β :=
  if s.good then
    match s.content[s.pos]? with
    | some ch => (some ch, { s with pos := s.pos + 1 })
    | none => (none, { s with eofbit := true, failbit := true })
  else (none, { s with failbit := true })

def tellg (s : IStream β) : Int × IStream β :=
  if s.good then (s.pos, s) else (-1, { s with failbit := true })

/-- A seek takes back the end of the file. It fails before the beginning. -/
def seekg (s : IStream β) (pos : Int) : IStream β :=
  if s.failbit then { s with eofbit := false }
  else if 0 ≤ pos then { s with eofbit := false, pos := pos.toNat }
  else { s with eofbit := false, failbit := true }

/-- `seekg( off, std::ios_base::cur )` -/
def seekgCur (s : IStream β) (off : Int) : IStream β := s.seekg (s.pos + off)

/-- `seekg( off, std::ios_base::end )` -/
def seekgEnd (s : IStream β) (off : Int) : IStream β := s.seekg (s.content.length + off)

/-- The delimiter is taken from the stream and is not in the line. -/
def getline [DecidableEq β] (s : IStream β) (delim : β) : List β × IStream β :=
  if s.good then
    let rest := s.content.drop s.pos
    let line := rest.takeWhile (· ≠ delim)
    if delim ∈ rest then (line, { s with pos := s.pos + line.length + 1 })
    else
      (line, { s with pos := s.pos + line.length, eofbit := true, failbit := line.isEmpty })
  else ([], { s with failbit := true })

/-! ## A good stream -/

/-- At a position, without an error. -/
def goodAt (content : List β) (pos : Nat) : IStream β := { content := content, pos := pos }

variable {content : List β} {pos : Nat}

theorem get_goodAt {ch : β} (h : content[pos]? = some ch) :
    (goodAt content pos).get = (some ch, goodAt content (pos + 1)) := by
  simp [get, good, goodAt, h]

@[simp] theorem tellg_goodAt : (goodAt content pos).tellg = ((pos : Int), goodAt content pos) := rfl

@[simp] theorem seekg_goodAt (n : Nat) : (goodAt content pos).seekg n = goodAt content n := by
  simp [seekg, goodAt]

theorem seekgCur_goodAt {off : Int} {n : Nat} (h : pos + off = n) :
    (goodAt content pos).seekgCur off = goodAt content n := by
  rw [seekgCur, show ((goodAt content pos).pos : Int) = pos from rfl, h, seekg_goodAt]

theorem getline_goodAt [DecidableEq β] (delim : β) :
    ((goodAt content pos).getline delim).1 = (content.drop pos).takeWhile (· ≠ delim) := by
  by_cases h : delim ∈ content.drop pos <;> simp [getline, good, goodAt, h]

/-! ## Any stream -/

variable {s : IStream β}

/-- **A read succeeds on a good stream, or the stream is not good behind it.** -/
theorem get_cases (s : IStream β) :
    (∃ ch, s.content[s.pos]? = some ch ∧ s.get = (some ch, goodAt s.content (s.pos + 1))) ∨
      s.get.2.good = false := by
  cases hgood : s.good with
  | false =>
    refine Or.inr ?_
    rw [get, if_neg (by simp [hgood])]
    exact Bool.and_false _
  | true =>
    obtain ⟨content, pos, eofbit, failbit⟩ := s
    have hflags : eofbit = false ∧ failbit = false := by simpa [good] using hgood
    obtain ⟨rfl, rfl⟩ := hflags
    cases hch : content[pos]? with
    | none => exact Or.inr (by simp [get, hch, good])
    | some ch => exact Or.inl ⟨ch, rfl, get_goodAt hch⟩

theorem tellg_of_not_good (h : s.good = false) : s.tellg.1 = -1 := by
  simp [tellg, h]

end IStream

end Infra
