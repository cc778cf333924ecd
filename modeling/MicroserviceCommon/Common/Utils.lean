import MicroserviceCommon.Infra.InputStream
import MicroserviceCommon.Infra.Substring

/-!
# `common_utils`

Numbers, network addresses, strings and files. In a result `none` is the exception of `std::string`.
-/

namespace MicroserviceCommon

open Infra

/-! ## Numbers -/

def isBlank (c : Char) : Bool := c == ' ' || (9 ≤ c.toNat && c.toNat ≤ 13)

/-- The sign of a number, and what follows. -/
def readSign : List Char → Int × List Char
  | '+' :: str => (1, str)
  | '-' :: str => (-1, str)
  | str => (1, str)

/-- `std::stoi`. It reads as many digits as there are. Without a digit, and where the number is no
`int`, it throws. -/
def stoi (str : String) : Option Int :=
  let number := readSign (str.toList.dropWhile isBlank)
  let digits := number.2.takeWhile Char.isDigit
  let value : Int := number.1 * Nat.ofDigitChars 10 digits 0
  if digits ≠ [] ∧ -2147483648 ≤ value ∧ value < 2147483648 then some value else none

/-! ## Network addresses -/

/-- The loop over `octetIdx`. Behind the last dot the place stays. -/
def readOctets (ip : String) : Nat → Nat → Option (List UInt8)
  | 0, _ => some []
  | n + 1, strIdxFrom =>
    match findCharFrom ip '.' strIdxFrom with
    | some strIdxTo => do
      let octet ← stoi (← substr ip strIdxFrom (strIdxTo - strIdxFrom))
      let octets ← readOctets ip n (strIdxTo + 1)
      pure (UInt8.ofInt octet :: octets)
    | none => do
      let octet ← stoi (← substr ip strIdxFrom (ip.length - strIdxFrom))
      let octets ← readOctets ip n strIdxFrom
      pure (UInt8.ofInt octet :: octets)

def ipAddressToOctets (ip : String) : Option UInt32 := do
  let octets ← readOctets ip 4 0
  pure ((octets.getD 0 0).toUInt32 <<< 24 ||| (octets.getD 1 0).toUInt32 <<< 16 |||
    (octets.getD 2 0).toUInt32 <<< 8 ||| (octets.getD 3 0).toUInt32)

/-- A dot behind every octet but the last. -/
def printOctets : List UInt8 → String
  | [] => ""
  | [octet] => toString octet.toNat
  | octet :: octets => toString octet.toNat ++ "." ++ printOctets octets

def ipAddressFromOctets (octets : UInt32) : String :=
  printOctets [(octets >>> 24).toUInt8, (octets >>> 16).toUInt8, (octets >>> 8).toUInt8,
    octets.toUInt8]

/-! ## Strings -/

/-- Without the symbol all of the string is the second part. -/
def cutBySimbol (simb : Char) (str : String) : Option (String × String) :=
  match findChar str simb with
  | none => some ("", str)
  | some pos => do
    let first ← substr str 0 pos
    let second ← substr str (pos + 1) (str.length - pos)
    pure (first, second)

/-- **The two sides of the first symbol.** -/
theorem cutBySimbol_of_isDivision {simb : Char} {str left right : String}
    (h : IsDivision str simb left right) : cutBySimbol simb str = some (left, right) := by
  have hlength := length_of_isDivision h
  unfold cutBySimbol
  simp only [findChar_of_isDivision h, substr_before h,
    substr_behind h (show right.length ≤ str.length - left.length by omega)]
  rfl

/-! ## The last line of a file -/

def newline : UInt8 := 10

/-- `(int)tellg() <= 1` -/
def NearStart (pos : Int) : Prop := Int32.ofInt pos ≤ 1

instance (pos : Int) : Decidable (NearStart pos) := inferInstanceAs (Decidable (_ ≤ _))

theorem nearStart_neg_one : NearStart (-1) := by decide

theorem nearStart_one : NearStart 1 := by decide

/-- A turn of the loop that goes on leaves the stream one place before. -/
theorem pos_seekgCur_lt {s : IStream UInt8} (h : ¬ NearStart s.get.2.tellg.1) :
    (s.get.2.tellg.2.seekgCur (-2)).pos < s.pos := by
  rcases IStream.get_cases s with ⟨ch, _, hget⟩ | hbad
  · rw [hget, IStream.tellg_goodAt] at h ⊢
    have hpos : s.pos ≠ 0 := by
      intro hzero
      rw [hzero] at h
      exact h nearStart_one
    have hback : ((s.pos + 1 : ℕ) : Int) + -2 = (s.pos - 1 : ℕ) := by omega
    rw [IStream.seekgCur_goodAt hback]
    show s.pos - 1 < s.pos
    omega
  · rw [IStream.tellg_of_not_good hbad] at h
    exact absurd nearStart_neg_one h

/-- The loop. A character that was not read is compared with nothing. -/
def findEndingLine (s : IStream UInt8) : IStream UInt8 :=
  if NearStart s.get.2.tellg.1 then s.get.2.tellg.2.seekg 0
  else if s.get.1 = some newline then s.get.2.tellg.2
  else findEndingLine (s.get.2.tellg.2.seekgCur (-2))
termination_by s.pos
decreasing_by exact pos_seekgCur_lt ‹_›

/-- The file, `none` when it cannot be opened. The function goes on all the same. -/
def openFile : Option (List UInt8) → IStream UInt8
  | some content => { content := content }
  | none => { content := [], failbit := true }

def getLastLine (file : Option (List UInt8)) : List UInt8 :=
  ((findEndingLine ((openFile file).seekgEnd (-1))).getline newline).1

end MicroserviceCommon
