import MicroserviceCommon.Common.Utils
import MicroserviceCommon.Infra.Bson
import MicroserviceCommon.Infra.Calendar
import MicroserviceCommon.Infra.FixedWidth

/-!
# `common_utils`: points in time

A time is a number of milliseconds since the beginning of 1970, or a text such as
`2024-02-29 23:59:59`. The zone `RUS0` is UTC, and no day has a leap second.

`strptime` reads a text as glibc does.
-/

namespace MicroserviceCommon

open Infra

/-- What the functions use of a `tm`. The year is `tm_year + 1900`, the month counts from 0. -/
structure Tm where
  year : Int
  mon : Nat
  mday : Nat
  hour : Nat
  min : Nat
  sec : Nat
  deriving DecidableEq, Repr

/-- The day of the time 0. -/
def epochDay : Int := daysBeforeYear 1970

/-! ## A time as a text -/

def gmtime (timeSec : Int64) : Tm :=
  let date := Date.ofDayNumber (epochDay + timeSec.toInt / 86400)
  let rest := (timeSec.toInt % 86400).toNat
  { year := date.year
    mon := date.month
    mday := date.day + 1
    hour := rest / 3600
    min := rest / 60 % 60
    sec := rest % 60 }

/-- `%Y` -/
def yearText : Int → List Char
  | .ofNat year => Nat.toDigits 10 year
  | .negSucc year => '-' :: Nat.toDigits 10 (year + 1)

/-- `strftime` for the format `%F %T`. -/
def strftime (tm : Tm) : String :=
  String.ofList (yearText tm.year ++ '-' :: (padded 2 (tm.mon + 1) ++ '-' :: (padded 2 tm.mday ++
    ' ' :: (padded 2 tm.hour ++ ':' :: (padded 2 tm.min ++ ':' :: padded 2 tm.sec)))))

def timeMillisecToStr (timeMillisec : Int64) : String := strftime (gmtime (timeMillisec / 1000))

/-! ## A text as a time -/

/-- At most `n` digits. It stops where one more would lead over `hi`. -/
def readDigits (hi : Nat) : Nat → Nat → List Char → Nat × List Char
  | n + 1, val, c :: str =>
    if c.isDigit ∧ val * 10 ≤ hi then readDigits hi n (10 * val + (c.toNat - '0'.toNat)) str
    else (val, c :: str)
  | _, val, str => (val, str)

/-- A number of a conversion, with what follows it. -/
def getNumber (lo hi n : Nat) (str : List Char) : Option (Nat × List Char) :=
  let str := str.dropWhile isBlank
  let number := readDigits hi n 0 str
  if str.head?.any Char.isDigit ∧ lo ≤ number.1 ∧ number.1 ≤ hi then some number else none

def matchChar (c : Char) : List Char → Option (List Char)
  | [] => none
  | d :: str => if d = c then some str else none

/-- `strptime` for the format `%F %T`. What stands behind the time is not looked at. -/
def strptime (str : List Char) : Option Tm := do
  let (year, str) ← getNumber 0 9999 4 str
  let (mon, str) ← getNumber 1 12 2 (← matchChar '-' str)
  let (mday, str) ← getNumber 1 31 2 (← matchChar '-' str)
  let (hour, str) ← getNumber 0 23 2 (str.dropWhile isBlank)
  let (min, str) ← getNumber 0 59 2 (← matchChar ':' str)
  let (sec, _) ← getNumber 0 61 2 (← matchChar ':' str)
  pure { year := year, mon := mon - 1, mday := mday, hour := hour, min := min, sec := sec }

/-- A day that the month does not have is one of the next month. -/
def mktime (tm : Tm) : Int64 :=
  let day := daysBeforeYear tm.year + ((monthLengths tm.year).take tm.mon).sum + (tm.mday - 1)
  Int64.ofInt ((day - epochDay) * 86400 + tm.hour * 3600 + tm.min * 60 + tm.sec)

/-- The result of `strptime` is not looked at. With `none` it has failed, and what it leaves in
`timeTM` is not specified. -/
def timeStrToMillisec (timeStr : String) : Option Int64 :=
  (strptime (cStr timeStr).toList).map fun timeTM => mktime timeTM * 1000

end MicroserviceCommon
