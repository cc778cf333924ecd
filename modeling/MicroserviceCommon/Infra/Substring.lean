import Mathlib.Data.List.Basic

/-!
# Strings with delimiters

* `findChar`, `findCharFrom`, `findLastChar` — a place of a character, `none` is `npos`
* `substr` — a part of a string, `none` is the `std::out_of_range`

A string with a delimiter in it has one division at the first delimiter (`IsDivision`), and these
functions compute its two sides (`substr_before`, `substr_behind`). Decimal numbers between
delimiters can be told apart (`division_inj`, `not_mem_toString`, `toString_inj`).
-/

namespace Infra

/-- `s.find( c )` -/
def findChar (s : String) (c : Char) : Option Nat := s.toList.findIdx? (· == c)

/-- `s.find( c, pos )` -/
def findCharFrom (s : String) (c : Char) (pos : Nat) : Option Nat :=
  ((s.toList.drop pos).findIdx? (· == c)).map (pos + ·)

/-- `s.find_last_of( c )` -/
def findLastChar (s : String) (c : Char) : Option Nat :=
  (s.toList.reverse.findIdx? (· == c)).map (s.length - 1 - ·)

/-- `s.substr( pos, count )`. A count over the end is cut there. -/
def substr (s : String) (pos count : Nat) : Option String :=
  if pos ≤ s.length then some (String.ofList ((s.toList.drop pos).take count)) else none

/-- The two sides of the first delimiter. -/
def IsDivision (s : String) (delimiter : Char) (left right : String) : Prop :=
  s = left ++ String.singleton delimiter ++ right ∧ delimiter ∉ left.toList

variable {s left right : String} {delimiter : Char}

theorem toList_of_isDivision (h : IsDivision s delimiter left right) :
    s.toList = left.toList ++ delimiter :: right.toList := by
  rw [h.1, String.toList_append, String.toList_append, String.toList_singleton, List.append_assoc]
  rfl

theorem exists_isDivision (h : delimiter ∈ s.toList) :
    ∃ left right, IsDivision s delimiter left right := by
  obtain ⟨before, behind, hs, hfirst⟩ := List.eq_append_cons_of_mem h
  refine ⟨String.ofList before, String.ofList behind, String.toList_injective ?_, ?_⟩
  · rw [String.toList_append, String.toList_append, String.toList_singleton, String.toList_ofList,
      String.toList_ofList, hs, List.append_assoc]
    rfl
  · rw [String.toList_ofList]
    exact hfirst

theorem IsDivision.mem (h : IsDivision s delimiter left right) : delimiter ∈ s.toList := by
  rw [toList_of_isDivision h]
  exact List.mem_append_right _ List.mem_cons_self

theorem findIdx?_of_not_mem {text : List Char} (h : delimiter ∉ text) :
    text.findIdx? (· == delimiter) = none := by
  refine List.findIdx?_eq_none_iff.mpr fun c hc => beq_false_of_ne ?_
  rintro rfl
  exact h hc

theorem findChar_of_not_mem (h : delimiter ∉ s.toList) : findChar s delimiter = none :=
  findIdx?_of_not_mem h

/-- **`find` gives the length of the left side.** -/
theorem findChar_of_isDivision (h : IsDivision s delimiter left right) :
    findChar s delimiter = some left.length := by
  rw [findChar, toList_of_isDivision h, List.findIdx?_append, findIdx?_of_not_mem h.2,
    Option.none_or, List.findIdx?_cons, beq_self_eq_true, if_pos rfl, Option.map_some, Nat.zero_add,
    String.length_toList]

/-- `find` from a place that has the delimiter behind it. -/
theorem findCharFrom_of_parts {before middle behind : List Char}
    (h : s.toList = before ++ middle ++ delimiter :: behind) (hmiddle : delimiter ∉ middle) :
    findCharFrom s delimiter before.length = some (before.length + middle.length) := by
  rw [findCharFrom, h, List.append_assoc, List.drop_left, List.findIdx?_append,
    findIdx?_of_not_mem hmiddle, Option.none_or, List.findIdx?_cons, beq_self_eq_true, if_pos rfl,
    Option.map_some, Option.map_some, Nat.zero_add]

theorem findCharFrom_of_not_mem {before behind : List Char} (h : s.toList = before ++ behind)
    (hbehind : delimiter ∉ behind) : findCharFrom s delimiter before.length = none := by
  rw [findCharFrom, h, List.drop_left, findIdx?_of_not_mem hbehind, Option.map_none]

/-- **`find_last_of` gives the length of what is before the last delimiter.** -/
theorem findLastChar_of_parts {before behind : List Char}
    (h : s.toList = before ++ delimiter :: behind) (hbehind : delimiter ∉ behind) :
    findLastChar s delimiter = some before.length := by
  have hreverse : s.toList.reverse = behind.reverse ++ delimiter :: before.reverse := by
    simp [h]
  have hlength : s.length = before.length + (behind.length + 1) := by
    rw [← String.length_toList, h, List.length_append, List.length_cons]
  have hnone := findIdx?_of_not_mem (mt List.mem_reverse.mp hbehind)
  rw [findLastChar, hreverse, List.findIdx?_append, hnone, Option.none_or, List.findIdx?_cons,
    beq_self_eq_true, if_pos rfl, Option.map_some, Option.map_some, List.length_reverse, hlength]
  exact congrArg some (by omega)

theorem length_of_isDivision (h : IsDivision s delimiter left right) :
    s.length = left.length + 1 + right.length := by
  rw [← String.length_toList, toList_of_isDivision h, List.length_append, List.length_cons,
    String.length_toList, String.length_toList]
  omega

/-- A count that reaches the end takes the whole string. -/
theorem substr_all {count : Nat} (h : s.length ≤ count) : substr s 0 count = some s := by
  rw [substr, if_pos (Nat.zero_le _), List.drop_zero, List.take_of_length_le, String.ofList_toList]
  rw [String.length_toList]
  exact h

/-- **A part is cut out** at its place and with its length. -/
theorem substr_middle {before middle behind : List Char}
    (h : s.toList = before ++ middle ++ behind) :
    substr s before.length middle.length = some (String.ofList middle) := by
  have hpos : before.length ≤ s.length := by
    rw [← String.length_toList, h, List.length_append, List.length_append]
    omega
  rw [substr, if_pos hpos, h, List.append_assoc, List.drop_left, List.take_left]

/-- A count over the end gives all that follows. -/
theorem substr_end {before behind : List Char} (h : s.toList = before ++ behind) {count : Nat}
    (hcount : behind.length ≤ count) :
    substr s before.length count = some (String.ofList behind) := by
  have hpos : before.length ≤ s.length := by
    rw [← String.length_toList, h, List.length_append]
    omega
  rw [substr, if_pos hpos, h, List.drop_left, List.take_of_length_le hcount]

theorem substr_before (h : IsDivision s delimiter left right) :
    substr s 0 left.length = some left := by
  have hparts : s.toList = [] ++ left.toList ++ delimiter :: right.toList :=
    toList_of_isDivision h
  have hsub := substr_middle hparts
  rwa [List.length_nil, String.length_toList, String.ofList_toList] at hsub

theorem substr_behind (h : IsDivision s delimiter left right) {count : Nat}
    (hcount : right.length ≤ count) : substr s (left.length + 1) count = some right := by
  have hparts : s.toList = (left.toList ++ [delimiter]) ++ right.toList := by
    rw [toList_of_isDivision h, List.append_assoc]
    rfl
  have hlength : right.toList.length ≤ count := by rwa [String.length_toList]
  have hsub := substr_end hparts hlength
  rwa [List.length_append, String.length_toList, List.length_singleton, String.ofList_toList]
    at hsub

/-- A string has one division only. -/
theorem IsDivision.unique {left' right' : String} (h : IsDivision s delimiter left right)
    (h' : IsDivision s delimiter left' right') : left = left' ∧ right = right' := by
  have hlength : left.length = left'.length := by
    rw [← Option.some.injEq, ← findChar_of_isDivision h, findChar_of_isDivision h']
  have hleft : some left = some left' := by
    rw [← substr_before h, hlength, substr_before h']
  have hright : some right = some right' := by
    rw [← substr_behind h (Nat.le_add_right right.length right'.length), hlength,
      substr_behind h' (Nat.le_add_left right'.length right.length)]
  exact ⟨Option.some.inj hleft, Option.some.inj hright⟩

/-- **Equal strings are divided alike.** -/
theorem division_inj {left' right' : String}
    (h : left ++ String.singleton delimiter ++ right =
      left' ++ String.singleton delimiter ++ right')
    (hleft : delimiter ∉ left.toList) (hleft' : delimiter ∉ left'.toList) :
    left = left' ∧ right = right' :=
  IsDivision.unique ⟨rfl, hleft⟩ ⟨h, hleft'⟩

/-! ## Decimal numbers -/

theorem toList_toString (n : Nat) : (toString n).toList = Nat.toDigits 10 n := by
  rw [Nat.toString_eq_ofList_toDigits, String.toList_ofList]

/-- **Different numbers have different digits.** -/
theorem toString_inj {m n : Nat} (h : toString m = toString n) : m = n := by
  have hdigits : Nat.toDigits 10 m = Nat.toDigits 10 n := by
    rw [← toList_toString, h, toList_toString]
  rw [← Nat.ofDigitChars_toDigits (b := 10) (n := m) (by decide) (by decide), hdigits,
    Nat.ofDigitChars_toDigits (by decide) (by decide)]

/-- A character that is no digit is not in a number. -/
theorem not_mem_toString {c : Char} (h : c.isDigit = false) (n : Nat) :
    c ∉ (toString n).toList := by
  intro hmem
  rw [toList_toString] at hmem
  have hdigit := Nat.isDigit_of_mem_toDigits (by decide) (by decide) hmem
  rw [h] at hdigit
  cases hdigit

end Infra
