import Mathlib.Algebra.Order.Field.Rat
import MicroserviceCommon.Infra.Decimal

/-!
# `SystemMonitor`: the load of the processor

`getCPUStatus` reads one block for each core from `/proc/cpuinfo`, takes the load of the core from
its line of `/proc/stat`, and the total load from the counters of `glibtop`.

Lines are lists of characters. A `float` is the exact number. The frequency of a core is only
printed, and is left out.
-/

namespace MicroserviceCommon.SystemMonitor

abbrev Line := List Char

/-- What ends `getCoreLoad` before it returns. -/
inductive Fault where
  /-- `std::out_of_range` of `stoi` -/
  | outOfRange
  /-- a sum that is no `int` -/
  | overflow
  /-- `operator[]` behind the end of `coreTimes` -/
  | coreTimes
  deriving DecidableEq, Repr

/-- What ends `getCPUStatus` before it returns. -/
inductive CpuFault where
  /-- `operator[]` behind the end of `coreStatLines` -/
  | coreStatLines
  | coreLoad (fault : Fault)
  deriving DecidableEq, Repr

/-! ## Numbers in a line -/

/-- `\s` -/
def isSpace (c : Char) : Bool := c == ' ' || (9 ≤ c.toNat && c.toNat ≤ 13)

/-- `[+-]?` -/
def matchSign : Line → Line × Line
  | '+' :: str => (['+'], str)
  | '-' :: str => (['-'], str)
  | str => ([], str)

/-- `(?:\.[[:digit:]]+)?` -/
def matchFraction : Line → Line × Line
  | '.' :: str =>
    if str.takeWhile Char.isDigit = [] then ([], '.' :: str)
    else ('.' :: str.takeWhile Char.isDigit, str.dropWhile Char.isDigit)
  | str => ([], str)

/-- `(?=$|\s)` -/
def atWordEnd : Line → Bool
  | [] => true
  | c :: _ => isSpace c

/--
The number that `str` begins with, and the rest of it.

A shorter match is never the right one. A digit or the point would follow it.
-/
def matchNumber (str : Line) : Option (Line × Line) :=
  let sign := matchSign str
  let digits := sign.2.takeWhile Char.isDigit
  let fraction := matchFraction (sign.2.dropWhile Char.isDigit)
  if digits ≠ [] ∧ atWordEnd fraction.2 = true then
    some (sign.1 ++ digits ++ fraction.1, fraction.2)
  else none

/-- The alternative with `\s` in front of the number. -/
def searchBehindSpace : Line → Option (Line × Line)
  | [] => none
  | c :: str =>
    if isSpace c then (matchNumber str).or (searchBehindSpace str) else searchBehindSpace str

/-- `regex_search` for `REGEX_FOR_NUMBER`: the matched number and the suffix. -/
def regexSearch (str : Line) : Option (Line × Line) :=
  (matchNumber str).or (searchBehindSpace str)

theorem length_matchSign (str : Line) : (matchSign str).2.length ≤ str.length := by
  unfold matchSign
  split <;> simp

theorem length_matchFraction (str : Line) : (matchFraction str).2.length ≤ str.length := by
  unfold matchFraction
  split
  · split
    · exact le_rfl
    · exact (List.dropWhile_suffix _).length_le.trans (Nat.le_succ _)
  · exact le_rfl

theorem length_matchNumber {str number suffix : Line}
    (h : matchNumber str = some (number, suffix)) : suffix.length < str.length := by
  unfold matchNumber at h
  simp only [ne_eq, Option.ite_none_right_eq_some, Option.some.injEq, Prod.mk.injEq] at h
  obtain ⟨⟨hdigits, _⟩, _, rfl⟩ := h
  have hsplit := congrArg List.length
    (List.takeWhile_append_dropWhile (p := Char.isDigit) (l := (matchSign str).2))
  rw [List.length_append] at hsplit
  have hpos := List.length_pos_iff.mpr hdigits
  have hfraction := length_matchFraction ((matchSign str).2.dropWhile Char.isDigit)
  have hsign := length_matchSign str
  omega

theorem length_searchBehindSpace {number suffix : Line} :
    ∀ {str : Line}, searchBehindSpace str = some (number, suffix) → suffix.length < str.length
  | [], h => by cases h
  | c :: str, h => by
    rw [searchBehindSpace] at h
    split at h
    · rcases Option.or_eq_some_iff.mp h with h | ⟨_, h⟩
      · exact (length_matchNumber h).trans (Nat.lt_succ_self _)
      · exact (length_searchBehindSpace h).trans (Nat.lt_succ_self _)
    · exact (length_searchBehindSpace h).trans (Nat.lt_succ_self _)

/-- A match takes a part of the string. -/
theorem length_regexSearch {str number suffix : Line}
    (h : regexSearch str = some (number, suffix)) : suffix.length < str.length := by
  rcases Option.or_eq_some_iff.mp h with h | ⟨_, h⟩
  · exact length_matchNumber h
  · exact length_searchBehindSpace h

/-! ## `int` -/

/-- The value as an `int`. -/
def toInt (fault : Fault) (value : Int) : Except Fault Int :=
  if -2147483648 ≤ value ∧ value < 2147483648 then .ok value else .error fault

/-- `stoi` stops at the point of a number. -/
def stoi (number : Line) : Except Fault Int :=
  let sign := matchSign number
  let value : Int := Nat.ofDigitChars 10 (sign.2.takeWhile Char.isDigit) 0
  toInt .outOfRange (if sign.1 = ['-'] then -value else value)

def addInt (a b : Int) : Except Fault Int := toInt .overflow (a + b)

def getIntsFromStr (str : Line) : Except Fault (List Int) :=
  match _h : regexSearch str with
  | none => .ok []
  | some (number, suffix) => do
    let value ← stoi number
    let values ← getIntsFromStr suffix
    pure (value :: values)
termination_by str.length
decreasing_by exact length_regexSearch _h

/-! ## Cores -/

/-- The part behind the first `c`. All of the line without one, as `npos + 1` is `0`. -/
def behindFirst (c : Char) (line : Line) : Line :=
  match line.findIdx? (· == c) with
  | some pos => line.drop (pos + 1)
  | none => line

def getStringAfterSemicolon (line : Line) : Line := (behindFirst ':' line).dropWhile (· == ' ')

/-- `coreTimes[ 0 ] + coreTimes[ 1 ] + coreTimes[ 2 ]` -/
def workTime : List Int → Except Fault Int
  | user :: nice :: system :: _ => do addInt (← addInt user nice) system
  | _ => .error .coreTimes

/-- Without a total the quotient is no number. -/
def utilization (coreTimes : List Int) : Except Fault (Option ℚ) := do
  let work_time ← workTime coreTimes
  let total_time ← coreTimes.foldlM addInt 0
  pure (if total_time = 0 then none else some ((work_time : ℚ) / total_time * 100))

def getCoreLoad (coreStatLine : Line) : Except Fault (Option ℚ) := do
  utilization (← getIntsFromStr (behindFirst ' ' coreStatLine))

/-- `"cpu" + to_string( counter )` -/
def cpuName (counter : Nat) : Line := ['c', 'p', 'u'] ++ Nat.toDigits 10 counter

/-- The loop over the lines of `/proc/stat`. -/
def coreStatLines (rt : Nat) : Nat → List Line → List Line
  | _, [] => []
  | counter, line :: lines =>
    if cpuName counter <:+: line then
      line :: if rt ≤ counter + 1 then [] else coreStatLines rt (counter + 1) lines
    else if rt ≤ counter then [] else coreStatLines rt counter lines

/-- The files under `/proc`, `none` when one cannot be opened, and `get_nprocs()`. -/
structure ProcFiles where
  cpuinfo : Option (List Line)
  stat : Option (List Line)
  nprocs : Nat

def getCoreStatLines (files : ProcFiles) : List Line :=
  match files.stat with
  | none => []
  | some lines => coreStatLines files.nprocs 0 lines

structure SCoretatus where
  name : Line := []
  index : Nat := 0
  loadPercent : Option ℚ := none
  deriving DecidableEq, Repr

/-- The last line with the name counts. -/
def getCoreStatus (oneCoreInfo : List Line) : SCoretatus :=
  oneCoreInfo.foldl
    (fun out line =>
      if "model name".toList <:+: line then { out with name := getStringAfterSemicolon line }
      else out) {}

/-- The loop over the lines of `/proc/cpuinfo`. An empty line ends the block of a core. -/
def readCores (coreStatLines : List Line) :
    Nat → List Line → List Line → Except CpuFault (List SCoretatus)
  | _, _, [] => .ok []
  | idx, oneCoreInfo, line :: lines =>
    if line = [] then
      match coreStatLines[idx]? with
      | none => .error .coreStatLines
      | some coreStatLine => do
        let loadPercent ← (getCoreLoad coreStatLine).mapError .coreLoad
        let cores ← readCores coreStatLines (idx + 1) [] lines
        pure ({ getCoreStatus oneCoreInfo with index := idx, loadPercent := loadPercent } :: cores)
    else readCores coreStatLines idx (oneCoreInfo ++ [line]) lines

/-! ## The text of the files -/

/-- The counters of a line. -/
def countersText (values : List Nat) : Line := values.flatMap fun v => ' ' :: Nat.toDigits 10 v

theorem noDigitHead_countersText : ∀ values : List Nat, Infra.NoDigitHead (countersText values)
  | [] => trivial
  | _ :: _ => rfl

/-- The line of one processor. -/
def coreLine (cpu : Nat) (values : List Nat) : Line := cpuName cpu ++ countersText values

/-- The line of all processors has one more blank. -/
def summaryLine (values : List Nat) : Line := ['c', 'p', 'u', ' '] ++ countersText values

/-- The blocks of `/proc/cpuinfo`. -/
def cpuinfoText (blocks : List (List Line)) : List Line := blocks.flatMap (· ++ [[]])

/-! ## The whole processor -/

/-- The counters of `glibtop_get_cpu`. -/
structure GlibtopCpu where
  total : UInt64
  user : UInt64
  nice : UInt64
  sys : UInt64
  deriving DecidableEq, Repr

def GlibtopCpu.used (cpu : GlibtopCpu) : UInt64 := cpu.user + cpu.nice + cpu.sys

/-- `g_lastTotalCpu` and `g_lastUsedCpu` -/
structure LastCpu where
  total : UInt64 := 0
  used : UInt64 := 0
  deriving DecidableEq, Repr

/-- The load of all cores together, and what is remembered for the next call. -/
def totalLoad (last : LastCpu) (cpu : GlibtopCpu) : ℚ × LastCpu :=
  let total := cpu.total - last.total
  let used := cpu.used - last.used
  let load : ℚ := used.toNat / max (total.toNat : ℚ) 1
  (load * 100, { total := total, used := used })

/-- The load of the whole processor is not set when `/proc/cpuinfo` cannot be opened. -/
structure SCPUStatus where
  name : Line := []
  totalLoadByAvgFromCoresPercent : Option ℚ := none
  cores : List SCoretatus := []
  deriving DecidableEq, Repr

def getCPUStatus (last : LastCpu) (files : ProcFiles) (cpu : GlibtopCpu) :
    Except CpuFault (SCPUStatus × LastCpu) :=
  match files.cpuinfo with
  | none => .ok ({}, last)
  | some lines => do
    let cores ← readCores (getCoreStatLines files) 0 [] lines
    let load := totalLoad last cpu
    -- the name of the last core is the name of the processor
    pure ({ name := (cores.getLast?.map SCoretatus.name).getD []
            totalLoadByAvgFromCoresPercent := some load.1
            cores := cores }, load.2)

/-- Where `/proc/cpuinfo` can be opened, all depends on the cores. -/
theorem getCPUStatus_of_open {last : LastCpu} {files : ProcFiles} {cpu : GlibtopCpu}
    {lines : List Line} (hopen : files.cpuinfo = some lines) :
    getCPUStatus last files cpu =
      (readCores (getCoreStatLines files) 0 [] lines).map fun cores =>
        ({ name := (cores.getLast?.map SCoretatus.name).getD []
           totalLoadByAvgFromCoresPercent := some (totalLoad last cpu).1
           cores := cores }, (totalLoad last cpu).2) := by
  unfold getCPUStatus
  rw [hopen]
  rfl

end MicroserviceCommon.SystemMonitor
