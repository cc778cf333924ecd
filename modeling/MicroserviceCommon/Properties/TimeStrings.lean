import Mathlib.Data.String.Basic
import MicroserviceCommon.Common.Time
import MicroserviceCommon.Properties.IpAddresses

/-!
# Times and their texts

* `strptime_strftime` — a time is read back from its text, in the years 0 to 9999
* `mktime_gmtime`, `gmtime_mktime` — the calendar goes both ways
* `time_round_trips_iff` — exactly the times of these years survive the text
* `text_returns_iff` — exactly the texts of a time come back
* `timeMillisecToStr_lt_iff` — the texts are in the order of the times
-/

namespace MicroserviceCommon

open Infra

/-! ## Reading a number -/

theorem le_ofDigitChars (digits : List Char) (val : Nat) :
    val ≤ Nat.ofDigitChars 10 digits val := by
  rw [Nat.ofDigitChars_eq_ofDigitChars_zero]
  exact (Nat.le_mul_of_pos_left val (Nat.pow_pos (by decide))).trans (Nat.le_add_right _ _)

/-- **Digits are read to their end**, when they are not too many and their number is not too
large. -/
theorem readDigits_append {hi : Nat} {rest : List Char} (hrest : NoDigitHead rest) :
    ∀ {digits : List Char} {n val : Nat}, (∀ c ∈ digits, c.isDigit = true) → digits.length ≤ n →
      Nat.ofDigitChars 10 digits val ≤ hi →
      readDigits hi n val (digits ++ rest) = (Nat.ofDigitChars 10 digits val, rest)
  | [], n, val, _, _, _ => by
    rw [List.nil_append, Nat.ofDigitChars_nil]
    cases n with
    | zero => rfl
    | succ n =>
      cases rest with
      | nil => rfl
      | cons c rest =>
        rw [readDigits, if_neg]
        rintro ⟨hdigit, _⟩
        rw [show c.isDigit = false from hrest] at hdigit
        cases hdigit
  | c :: digits, 0, val, _, hn, _ => absurd hn (Nat.not_succ_le_zero _)
  | c :: digits, n + 1, val, hdigits, hn, hhi => by
    have hc := hdigits c List.mem_cons_self
    rw [Nat.ofDigitChars_cons] at hhi ⊢
    have hval := le_ofDigitChars digits (10 * val + (c.toNat - '0'.toNat))
    rw [List.cons_append, readDigits, if_pos ⟨hc, by omega⟩]
    exact readDigits_append hrest (fun d hd => hdigits d (List.mem_cons_of_mem _ hd))
      (Nat.le_of_succ_le_succ hn) hhi

/-- What is left begins after at most `n` characters. -/
theorem exists_drop_readDigits (hi : Nat) : ∀ (n val : Nat) (str : List Char),
    ∃ k ≤ n, (readDigits hi n val str).2 = str.drop k
  | 0, _, _ => ⟨0, Nat.le_refl 0, rfl⟩
  | n + 1, _, [] => ⟨0, Nat.zero_le _, rfl⟩
  | n + 1, val, c :: str => by
    rw [readDigits]
    split
    · obtain ⟨k, hk, hrest⟩ :=
        exists_drop_readDigits hi n (10 * val + (c.toNat - '0'.toNat)) str
      exact ⟨k + 1, Nat.succ_le_succ hk, hrest⟩
    · exact ⟨0, Nat.zero_le _, rfl⟩

variable {rest : List Char} {tm : Tm}

theorem dropWhile_isBlank_of_digits {digits : List Char} (hne : digits ≠ [])
    (hdigits : ∀ c ∈ digits, c.isDigit = true) :
    (digits ++ rest).dropWhile isBlank = digits ++ rest := by
  obtain ⟨c, digits, rfl⟩ := List.exists_cons_of_ne_nil hne
  exact dropWhile_isBlank_of_isDigit (hdigits c List.mem_cons_self)

/-- **A conversion reads a number that is in its range.** -/
theorem getNumber_append {lo hi n : Nat} {digits : List Char} (hrest : NoDigitHead rest)
    (hne : digits ≠ []) (hdigits : ∀ c ∈ digits, c.isDigit = true) (hn : digits.length ≤ n)
    (hlo : lo ≤ Nat.ofDigitChars 10 digits 0) (hhi : Nat.ofDigitChars 10 digits 0 ≤ hi) :
    getNumber lo hi n (digits ++ rest) = some (Nat.ofDigitChars 10 digits 0, rest) := by
  have hhead : (digits ++ rest).head?.any Char.isDigit = true := by
    obtain ⟨c, digits, rfl⟩ := List.exists_cons_of_ne_nil hne
    exact hdigits c List.mem_cons_self
  rw [getNumber, dropWhile_isBlank_of_digits hne hdigits]
  simp only [readDigits_append hrest hdigits hn hhi]
  exact if_pos ⟨hhead, hlo, hhi⟩

theorem getNumber_toDigits {lo hi n width : Nat} (hrest : NoDigitHead rest) (hwidth : 0 < width)
    (hlo : lo ≤ n) (hhi : n ≤ hi) (hlt : n < 10 ^ width) :
    getNumber lo hi width (Nat.toDigits 10 n ++ rest) = some (n, rest) := by
  have hvalue : Nat.ofDigitChars 10 (Nat.toDigits 10 n) 0 = n := Nat.ofDigitChars_ten_toDigits
  have hlength : (Nat.toDigits 10 n).length ≤ width :=
    (Nat.length_toDigits_le_iff (by decide) hwidth).mpr hlt
  rw [getNumber_append hrest Nat.toDigits_ne_nil (fun c => isDigit_of_mem_toDigits) hlength
    (by rwa [hvalue]) (by rwa [hvalue]), hvalue]

theorem getNumber_padded {lo hi n width : Nat} (hrest : NoDigitHead rest) (hwidth : 0 < width)
    (hlo : lo ≤ n) (hhi : n ≤ hi) (hlt : n < 10 ^ width) :
    getNumber lo hi width (padded width n ++ rest) = some (n, rest) := by
  have hvalue := ofDigitChars_padded width n
  rw [getNumber_append hrest (padded_ne_nil width n) (fun c => isDigit_of_mem_padded)
    (length_padded hwidth hlt).le (by rwa [hvalue]) (by rwa [hvalue]), hvalue]

@[simp] theorem matchChar_self (c : Char) (str : List Char) : matchChar c (c :: str) = some str :=
  if_pos rfl

/-! ## Reading a time -/

/-- The fields are those of a second. -/
structure Tm.IsTime (tm : Tm) : Prop where
  mday_pos : 0 < tm.mday
  mday : tm.mday - 1 < (monthLengths tm.year).getD tm.mon 0
  hour : tm.hour < 24
  min : tm.min < 60
  sec : tm.sec < 60

/-- The years that `strptime` reads. -/
def Tm.HasYear (tm : Tm) : Prop := 0 ≤ tm.year ∧ tm.year ≤ 9999

def Tm.date (tm : Tm) (h : tm.IsTime) : Date where
  year := tm.year
  month := tm.mon
  day := tm.mday - 1
  day_lt := h.mday

/-- What stands behind the year. -/
def timeText (tm : Tm) : List Char :=
  padded 2 (tm.mon + 1) ++ '-' :: (padded 2 tm.mday ++
    ' ' :: (padded 2 tm.hour ++ ':' :: (padded 2 tm.min ++ ':' :: padded 2 tm.sec)))

theorem toList_strftime (tm : Tm) :
    (strftime tm).toList = yearText tm.year ++ '-' :: timeText tm := String.toList_ofList

/-- **A time is read back from its text.** -/
theorem strptime_strftime (h : tm.IsTime) (hyear : tm.HasYear) :
    strptime (strftime tm).toList = some tm := by
  obtain ⟨year, mon, mday, hour, min, sec⟩ := tm
  have hmon : mon < 12 := (Tm.date _ h).month_lt
  have hmday : mday - 1 < 31 := (Tm.date _ h).day_lt_31
  have hpos : 0 < mday := h.mday_pos
  have hhour : hour < 24 := h.hour
  have hmin : min < 60 := h.min
  have hsec : sec < 60 := h.sec
  obtain ⟨n, rfl⟩ : ∃ n : Nat, year = n := Int.eq_ofNat_of_zero_le hyear.1
  have hn : n ≤ 9999 := Int.ofNat_le.mp hyear.2
  -- each conversion reads its field and leaves what stands behind it
  have hreadYear (rest) : getNumber 0 9999 4 (yearText n ++ '-' :: rest) = some (n, '-' :: rest) :=
    getNumber_toDigits rfl (by decide) (by omega) (by omega) (by omega)
  have hreadMon (rest) : getNumber 1 12 2 (padded 2 (mon + 1) ++ '-' :: rest) =
      some (mon + 1, '-' :: rest) :=
    getNumber_padded rfl (by decide) (by omega) (by omega) (by omega)
  have hreadMday (rest) : getNumber 1 31 2 (padded 2 mday ++ ' ' :: rest) =
      some (mday, ' ' :: rest) :=
    getNumber_padded rfl (by decide) (by omega) (by omega) (by omega)
  have hblank (rest) : (' ' :: (padded 2 hour ++ rest)).dropWhile isBlank =
      padded 2 hour ++ rest := by
    rw [List.dropWhile_cons_of_pos (by decide)]
    exact dropWhile_isBlank_of_digits (padded_ne_nil 2 hour) fun c => isDigit_of_mem_padded
  have hreadHour (rest) : getNumber 0 23 2 (padded 2 hour ++ ':' :: rest) =
      some (hour, ':' :: rest) :=
    getNumber_padded rfl (by decide) (by omega) (by omega) (by omega)
  have hreadMin (rest) : getNumber 0 59 2 (padded 2 min ++ ':' :: rest) =
      some (min, ':' :: rest) :=
    getNumber_padded rfl (by decide) (by omega) (by omega) (by omega)
  have hreadSec : getNumber 0 61 2 (padded 2 sec) = some (sec, []) := by
    rw [← List.append_nil (padded 2 sec)]
    exact getNumber_padded trivial (by decide) (by omega) (by omega) (by omega)
  rw [toList_strftime, strptime, timeText]
  simp only [hreadYear, hreadMon, hreadMday, hblank, hreadHour, hreadMin, hreadSec, matchChar_self,
    Option.bind_eq_bind, Option.bind_some]
  rfl

/-- **Other years are not read.** -/
theorem strptime_strftime_of_not_hasYear (hyear : ¬ tm.HasYear) :
    strptime (strftime tm).toList = none := by
  rw [toList_strftime, strptime]
  generalize '-' :: timeText tm = rest
  rcases hcase : tm.year with n | n
  · -- more digits than the conversion takes
    have hn : 9999 < n := by
      by_contra hle
      unfold Tm.HasYear at hyear
      rw [hcase] at hyear
      exact hyear ⟨Int.natCast_nonneg n, Int.ofNat_le.mpr (Nat.not_lt.mp hle)⟩
    have hlength : 4 < (Nat.toDigits 10 n).length := by
      by_contra hle
      have hlt := (Nat.length_toDigits_le_iff (by decide) (by decide)).mp (Nat.not_lt.mp hle)
      omega
    have hdigits : ∀ c ∈ Nat.toDigits 10 n, c.isDigit = true := fun c => isDigit_of_mem_toDigits
    rw [yearText, getNumber, dropWhile_isBlank_of_digits Nat.toDigits_ne_nil hdigits]
    obtain ⟨k, hk, hdrop⟩ := exists_drop_readDigits 9999 4 0 (Nat.toDigits 10 n ++ rest)
    have hmatch : matchChar '-' (readDigits 9999 4 0 (Nat.toDigits 10 n ++ rest)).2 = none := by
      rw [hdrop, List.drop_append_of_le_length (by omega), List.drop_eq_getElem_cons (by omega),
        List.cons_append, matchChar, if_neg]
      intro hc
      have hdigit : (Nat.toDigits 10 n)[k].isDigit = true := hdigits _ (List.getElem_mem _)
      rw [hc] at hdigit
      cases hdigit
    simp only
    split
    · simp only [Option.bind_eq_bind, Option.bind_some, hmatch, Option.bind_none]
    · rfl
  · rw [yearText, getNumber]
    rfl

/-! ## The calendar -/

theorem isTime_gmtime (timeSec : Int64) : (gmtime timeSec).IsTime where
  mday_pos := Nat.succ_pos _
  mday := (Date.ofDayNumber (epochDay + timeSec.toInt / 86400)).day_lt
  hour := by
    show (timeSec.toInt % 86400).toNat / 3600 < 24
    omega
  min := Nat.mod_lt _ (by decide)
  sec := Nat.mod_lt _ (by decide)

/-- The seconds since the beginning of 1970. -/
def Tm.seconds (tm : Tm) (h : tm.IsTime) : Int :=
  ((tm.date h).dayNumber - epochDay) * 86400 + tm.hour * 3600 + tm.min * 60 + tm.sec

theorem mktime_eq (h : tm.IsTime) : mktime tm = Int64.ofInt (tm.seconds h) := by
  have hpos := h.mday_pos
  have hday : daysBeforeYear tm.year + ((monthLengths tm.year).take tm.mon).sum + (tm.mday - 1) =
      (tm.date h).dayNumber := by
    show _ = daysBeforeYear tm.year +
      (((monthLengths tm.year).take tm.mon).sum + (tm.mday - 1) : Nat)
    omega
  rw [mktime, hday]
  rfl

theorem seconds_gmtime (timeSec : Int64) :
    (gmtime timeSec).seconds (isTime_gmtime timeSec) = timeSec.toInt := by
  have hdate : ((gmtime timeSec).date (isTime_gmtime timeSec)).dayNumber =
      epochDay + timeSec.toInt / 86400 := Date.dayNumber_ofDayNumber _
  rw [Tm.seconds, hdate]
  show (epochDay + timeSec.toInt / 86400 - epochDay) * 86400 +
    ((timeSec.toInt % 86400).toNat / 3600 : Nat) * 3600 +
    ((timeSec.toInt % 86400).toNat / 60 % 60 : Nat) * 60 +
    ((timeSec.toInt % 86400).toNat % 60 : Nat) = timeSec.toInt
  omega

/-- **Every second is that of its fields.** -/
theorem mktime_gmtime (timeSec : Int64) : mktime (gmtime timeSec) = timeSec := by
  rw [mktime_eq (isTime_gmtime timeSec), seconds_gmtime, Int64.ofInt_toInt]

/-- The year is told by the second. -/
theorem le_year_gmtime_iff (timeSec : Int64) (year : Int) :
    year ≤ (gmtime timeSec).year ↔ (daysBeforeYear year - epochDay) * 86400 ≤ timeSec.toInt := by
  have hyear : (gmtime timeSec).year = yearOf (epochDay + timeSec.toInt / 86400) := rfl
  rw [hyear, le_yearOf_iff]
  omega

theorem hasYear_gmtime_iff {timeSec : Int64} : (gmtime timeSec).HasYear ↔
    -62167219200 ≤ timeSec.toInt ∧ timeSec.toInt ≤ 253402300799 := by
  have hfirst : (daysBeforeYear 0 - epochDay) * 86400 = -62167219200 := by decide
  have hend : (daysBeforeYear 10000 - epochDay) * 86400 = 253402300800 := by decide
  have hlow := le_year_gmtime_iff timeSec 0
  have hhigh := le_year_gmtime_iff timeSec 10000
  rw [hfirst] at hlow
  rw [hend] at hhigh
  unfold Tm.HasYear
  omega

theorem seconds_bounds (h : tm.IsTime) (hyear : tm.HasYear) :
    -62167219200 ≤ tm.seconds h ∧ tm.seconds h ≤ 253402300799 := by
  obtain ⟨hlow, hhigh⟩ := hyear
  have hday : (tm.date h).dayNumber = daysBeforeYear tm.year + (tm.date h).dayOfYear := rfl
  have hlt := (tm.date h).dayOfYear_lt
  have hfirst : daysBeforeYear 0 ≤ daysBeforeYear tm.year := daysBeforeYear_le hlow
  have hend : daysBeforeYear (tm.year + 1) ≤ daysBeforeYear 10000 := daysBeforeYear_le (by omega)
  have hsucc := daysBeforeYear_succ tm.year
  have hzero : daysBeforeYear 0 = -366 := by decide
  have hten : daysBeforeYear 10000 = 3652059 := by decide
  have hepoch : epochDay = 719162 := by decide
  have hyearLength : (tm.date h).year = tm.year := rfl
  rw [hyearLength] at hlt
  have hhour := h.hour
  have hmin := h.min
  have hsec := h.sec
  rw [Tm.seconds, hday, hepoch]
  omega

/-- **The fields of a second are those that it was made of.** -/
theorem gmtime_mktime (h : tm.IsTime) (hyear : tm.HasYear) : gmtime (mktime tm) = tm := by
  obtain ⟨hlow, hhigh⟩ := seconds_bounds h hyear
  have htoInt : (Int64.ofInt (tm.seconds h)).toInt = tm.seconds h :=
    Int64.toInt_ofInt_of_le (by omega) (by omega)
  have hpos := h.mday_pos
  have hhour := h.hour
  have hmin := h.min
  have hsec := h.sec
  have hday : epochDay + tm.seconds h / 86400 = (tm.date h).dayNumber := by
    rw [Tm.seconds]
    omega
  have hrest : (tm.seconds h % 86400).toNat = tm.hour * 3600 + tm.min * 60 + tm.sec := by
    rw [Tm.seconds]
    omega
  rw [mktime_eq h, gmtime, htoInt, hday, hrest, Date.ofDayNumber_dayNumber]
  obtain ⟨year, mon, mday, hour, min, sec⟩ := tm
  simp only at hpos hhour hmin hsec
  simp only [Tm.date, Tm.mk.injEq, true_and]
  omega

/-! ## Both conversions -/

theorem nulFree_strftime (tm : Tm) : NulFree (strftime tm) := by
  have hpadded : ∀ width n, '\x00' ∉ padded width n := fun width n h =>
    absurd (isDigit_of_mem_padded h) (by decide)
  have hdigits : ∀ n, '\x00' ∉ Nat.toDigits 10 n := fun n h =>
    absurd (isDigit_of_mem_toDigits h) (by decide)
  have hyear : '\x00' ∉ yearText tm.year := by
    cases tm.year with
    | ofNat n => exact hdigits n
    | negSucc n => simp [yearText, hdigits]
  rw [NulFree, toList_strftime, timeText]
  simp [hyear, hpadded]

theorem timeStrToMillisec_strftime (h : tm.IsTime) (hyear : tm.HasYear) :
    timeStrToMillisec (strftime tm) = some (mktime tm * 1000) := by
  rw [timeStrToMillisec, cStr_of_nulFree (nulFree_strftime tm), strptime_strftime h hyear]
  rfl

theorem timeStrToMillisec_of_not_hasYear (hyear : ¬ tm.HasYear) :
    timeStrToMillisec (strftime tm) = none := by
  rw [timeStrToMillisec, cStr_of_nulFree (nulFree_strftime tm),
    strptime_strftime_of_not_hasYear hyear]
  rfl

/-- **Exactly the times of the years 0 to 9999 survive their text**, down to the second. -/
theorem time_round_trips_iff (timeMillisec : Int64) :
    timeStrToMillisec (timeMillisecToStr timeMillisec) = some (timeMillisec / 1000 * 1000) ↔
      -62167219200 ≤ (timeMillisec / 1000).toInt ∧
        (timeMillisec / 1000).toInt ≤ 253402300799 := by
  rw [← hasYear_gmtime_iff, timeMillisecToStr]
  constructor
  · intro h
    by_contra hyear
    rw [timeStrToMillisec_of_not_hasYear hyear] at h
    cases h
  · intro hyear
    rw [timeStrToMillisec_strftime (isTime_gmtime _) hyear, mktime_gmtime]

theorem mul_div_thousand {timeSec : Int64} (hlow : -62167219200 ≤ timeSec.toInt)
    (hhigh : timeSec.toInt ≤ 253402300799) : timeSec * 1000 / 1000 = timeSec := by
  have hthousand : (1000 : Int64).toInt = 1000 := by decide
  have hmul : (timeSec * 1000).toInt = timeSec.toInt * 1000 := by
    rw [Int64.toInt_mul, hthousand]
    exact Int.bmod_eq_of_le (by omega) (by omega)
  refine Int64.toInt_inj.mp ?_
  rw [Int64.toInt_div_of_ne_right _ _ (by decide), hmul, hthousand]
  exact Int.mul_tdiv_cancel _ (by decide)

theorem timeMillisecToStr_mktime (h : tm.IsTime) (hyear : tm.HasYear) :
    timeMillisecToStr (mktime tm * 1000) = strftime tm := by
  obtain ⟨hlow, hhigh⟩ := seconds_bounds h hyear
  have htoInt : (mktime tm).toInt = tm.seconds h := by
    rw [mktime_eq h]
    exact Int64.toInt_ofInt_of_le (by omega) (by omega)
  rw [timeMillisecToStr, mul_div_thousand (by omega) (by omega), gmtime_mktime h hyear]

/-- **Exactly the texts of a time come back as they were.** -/
theorem text_returns_iff (timeStr : String) :
    (timeStrToMillisec timeStr).map timeMillisecToStr = some timeStr ↔
      ∃ tm : Tm, tm.IsTime ∧ tm.HasYear ∧ timeStr = strftime tm := by
  constructor
  · intro h
    obtain ⟨timeMillisec, hread, rfl⟩ := Option.map_eq_some_iff.mp h
    refine ⟨gmtime (timeMillisec / 1000), isTime_gmtime _, ?_, rfl⟩
    by_contra hyear
    rw [timeMillisecToStr, timeStrToMillisec_of_not_hasYear hyear] at hread
    cases hread
  · rintro ⟨tm, h, hyear, rfl⟩
    rw [timeStrToMillisec_strftime h hyear, Option.map_some, timeMillisecToStr_mktime h hyear]

/-! ## The order of the texts -/

/-- The layout of a time with a year of four digits. -/
def timeFields : List Field :=
  [⟨4, ['-']⟩, ⟨2, ['-']⟩, ⟨2, [' ']⟩, ⟨2, [':']⟩, ⟨2, [':']⟩, ⟨2, []⟩]

def Tm.numbers (tm : Tm) : List Nat :=
  [tm.year.toNat, tm.mon + 1, tm.mday, tm.hour, tm.min, tm.sec]

theorem fits_numbers (h : tm.IsTime) (hyear : tm.HasYear) :
    List.Forall₂ Field.Fits timeFields tm.numbers := by
  have hmon : tm.mon < 12 := (tm.date h).month_lt
  have hmday : tm.mday - 1 < 31 := (tm.date h).day_lt_31
  have hhour := h.hour
  have hmin := h.min
  have hsec := h.sec
  obtain ⟨hlow, hhigh⟩ := hyear
  simp only [timeFields, Tm.numbers, List.forall₂_cons, List.Forall₂.nil, and_true, Field.Fits]
  omega

theorem toList_strftime_eq_fieldsText (hlow : 1000 ≤ tm.year) (hhigh : tm.year ≤ 9999) :
    (strftime tm).toList = fieldsText timeFields tm.numbers := by
  obtain ⟨n, hn⟩ := Int.eq_ofNat_of_zero_le (show 0 ≤ tm.year by omega)
  have hyear : yearText tm.year = padded 4 tm.year.toNat := by
    rw [hn]
    exact (padded_eq_toDigits (show 10 ^ 3 ≤ n by omega)).symm
  rw [toList_strftime, hyear]
  simp [timeFields, Tm.numbers, fieldsText, timeText]

theorem numbers_lt (h : tm.IsTime) {tm' : Tm} (h' : tm'.IsTime) (hyear : tm.HasYear)
    (hyear' : tm'.HasYear) (hlt : tm.seconds h < tm'.seconds h') : tm.numbers < tm'.numbers := by
  have hday : (tm.date h).dayNumber < (tm'.date h').dayNumber ∨
      (tm.date h).dayNumber = (tm'.date h').dayNumber ∧
        (tm.hour < tm'.hour ∨ tm.hour = tm'.hour ∧
          (tm.min < tm'.min ∨ tm.min = tm'.min ∧ tm.sec < tm'.sec)) := by
    have hmin := h.min
    have hmin' := h'.min
    have hsec := h.sec
    have hsec' := h'.sec
    have hhour := h.hour
    have hhour' := h'.hour
    unfold Tm.seconds at hlt
    omega
  have hpos := h.mday_pos
  have hpos' := h'.mday_pos
  simp only [Tm.numbers, List.cons_lt_cons_iff]
  rcases hday with hbefore | ⟨hsame, htime⟩
  · have hdate := Date.before_of_dayNumber_lt hbefore
    simp only [Date.Before, Tm.date] at hdate
    unfold Tm.HasYear at hyear hyear'
    omega
  · have hdate : tm.date h = tm'.date h' := by
      rw [← Date.ofDayNumber_dayNumber (tm.date h), hsame, Date.ofDayNumber_dayNumber]
    simp only [Tm.date, Date.mk.injEq] at hdate
    omega

theorem strftime_lt (h : tm.IsTime) {tm' : Tm} (h' : tm'.IsTime)
    (hlow : 1000 ≤ tm.year) (hhigh : tm.year ≤ 9999) (hlow' : 1000 ≤ tm'.year)
    (hhigh' : tm'.year ≤ 9999) (hlt : tm.seconds h < tm'.seconds h') :
    strftime tm < strftime tm' := by
  have hyear : tm.HasYear := ⟨by omega, hhigh⟩
  have hyear' : tm'.HasYear := ⟨by omega, hhigh'⟩
  rw [String.lt_iff_toList_lt, toList_strftime_eq_fieldsText hlow hhigh,
    toList_strftime_eq_fieldsText hlow' hhigh']
  exact fieldsText_lt (fits_numbers h hyear) (fits_numbers h' hyear')
    (numbers_lt h h' hyear hyear' hlt)

/-- The years of four digits, from the first second of 1000 to the last one of 9999. -/
def FourDigitYear (timeMillisec : Int64) : Prop :=
  -30610224000 ≤ (timeMillisec / 1000).toInt ∧ (timeMillisec / 1000).toInt ≤ 253402300799

theorem year_of_fourDigitYear {timeMillisec : Int64} (h : FourDigitYear timeMillisec) :
    1000 ≤ (gmtime (timeMillisec / 1000)).year ∧ (gmtime (timeMillisec / 1000)).year ≤ 9999 := by
  have hfirst : (daysBeforeYear 1000 - epochDay) * 86400 = -30610224000 := by decide
  have hend : (daysBeforeYear 10000 - epochDay) * 86400 = 253402300800 := by decide
  have hlow := le_year_gmtime_iff (timeMillisec / 1000) 1000
  have hhigh := le_year_gmtime_iff (timeMillisec / 1000) 10000
  rw [hfirst] at hlow
  rw [hend] at hhigh
  unfold FourDigitYear at h
  omega

theorem timeMillisecToStr_lt {t t' : Int64} (ht : FourDigitYear t) (ht' : FourDigitYear t')
    (h : (t / 1000).toInt < (t' / 1000).toInt) : timeMillisecToStr t < timeMillisecToStr t' := by
  obtain ⟨hlow, hhigh⟩ := year_of_fourDigitYear ht
  obtain ⟨hlow', hhigh'⟩ := year_of_fourDigitYear ht'
  refine strftime_lt (isTime_gmtime _) (isTime_gmtime _) hlow hhigh hlow' hhigh' ?_
  rwa [seconds_gmtime, seconds_gmtime]

/-- **The texts are in the order of the times**, in the years of four digits. -/
theorem timeMillisecToStr_lt_iff {t t' : Int64} (ht : FourDigitYear t) (ht' : FourDigitYear t') :
    timeMillisecToStr t < timeMillisecToStr t' ↔ t / 1000 < t' / 1000 := by
  rw [Int64.lt_iff_toInt_lt]
  constructor
  · intro h
    by_contra hle
    rcases Int.lt_or_eq_of_le (Int.not_lt.mp hle) with hlt | heq
    · exact lt_asymm h (timeMillisecToStr_lt ht' ht hlt)
    · rw [timeMillisecToStr, timeMillisecToStr, Int64.toInt_inj.mp heq] at h
      exact lt_irrefl _ h
  · exact timeMillisecToStr_lt ht ht'

/-- The last second before 1970 and the first one of the year 2000. -/
theorem texts_of_1969_and_2000 :
    timeMillisecToStr (-1000) < timeMillisecToStr 946684800000 ↔
      (-1000 : Int64) / 1000 < 946684800000 / 1000 :=
  timeMillisecToStr_lt_iff ⟨by decide, by decide⟩ ⟨by decide, by decide⟩

end MicroserviceCommon
