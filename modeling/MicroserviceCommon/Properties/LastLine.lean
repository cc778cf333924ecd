import Mathlib.Algebra.Group.Nat.Defs
import Mathlib.Data.List.TakeWhile
import MicroserviceCommon.Common.Utils

/-!
# The last line of a file

`getLastLine` reads backwards from the end. The test for the beginning of the file comes before the
test for a newline, and it compares the place as an `int`.

* `isLastLine_iff` — a content has one last line
* `findEndingLine_of_newline`, `findEndingLine_of_nearStart` — the two places where the loop ends
* `seesLastNewline_iff_of_lt` — what the condition of `last_line_iff` is for the usual files
* `last_line_iff` — the last line is returned exactly when all places behind the last newline are
  told from the beginning, or the first line is the same
* `last_line_behind_leading_newline` — a file that begins with its only newline
-/

namespace MicroserviceCommon

open Infra IStream

/-- The bytes after the last newline, or the whole content. -/
structure IsLastLine (content line : List UInt8) : Prop where
  no_newline : newline ∉ line
  ending : content = line ∨ ∃ before, content = before ++ newline :: line

def firstLine (content : List UInt8) : List UInt8 := content.takeWhile (· ≠ newline)

/-- No place behind the last newline looks like the beginning of the file, or the first line of the
file is the last one as well. -/
def SeesLastNewline (content : List UInt8) : Prop :=
  ∀ before line, content = before ++ newline :: line → newline ∉ line →
    (∀ pos : Nat, before.length < pos → pos ≤ content.length → ¬ NearStart pos) ∨
      firstLine content = line

/-! ## Last lines -/

variable {content line before : List UInt8}

theorem takeWhile_of_no_newline (h : newline ∉ line) : line.takeWhile (· ≠ newline) = line := by
  refine List.takeWhile_eq_self_iff.mpr fun c hc => decide_eq_true ?_
  rintro rfl
  exact h hc

/-- **A content has one last line.** -/
theorem isLastLine_iff :
    IsLastLine content line ↔ line = (content.reverse.takeWhile (· ≠ newline)).reverse := by
  constructor
  · rintro ⟨hno, rfl | ⟨before, rfl⟩⟩
    · rw [takeWhile_of_no_newline (by simpa using hno), List.reverse_reverse]
    · have hreverse : newline ∉ line.reverse := by simpa using hno
      have htake : (line.reverse ++ newline :: before.reverse).takeWhile (· ≠ newline) =
          line.reverse := by
        rw [List.takeWhile_append, takeWhile_of_no_newline hreverse, if_pos rfl]
        simp
      simp only [List.reverse_append, List.reverse_cons, List.append_assoc, List.singleton_append]
      rw [htake, List.reverse_reverse]
  · rintro rfl
    constructor
    · intro hmem
      have hne := List.mem_takeWhile_imp (List.mem_reverse.mp hmem)
      simp at hne
    · have hsplit := List.takeWhile_append_dropWhile (p := (· ≠ newline)) (l := content.reverse)
      cases hdrop : content.reverse.dropWhile (· ≠ newline) with
      | nil =>
        rw [hdrop, List.append_nil] at hsplit
        exact Or.inl (by rw [hsplit, List.reverse_reverse])
      | cons c rest =>
        have hc : c = newline := by
          have hne : content.reverse.dropWhile (· ≠ newline) ≠ [] := by
            rw [hdrop]
            exact List.cons_ne_nil _ _
          have hhead := List.head_dropWhile_not (· ≠ newline) hne
          simp only [hdrop, List.head_cons] at hhead
          simpa using hhead
        refine Or.inr ⟨rest.reverse, ?_⟩
        have hwhole := congrArg List.reverse hsplit
        rw [hdrop, hc] at hwhole
        simpa using hwhole.symm

theorem IsLastLine.unique {line' : List UInt8} (h : IsLastLine content line)
    (h' : IsLastLine content line') : line = line' :=
  (isLastLine_iff.mp h).trans (isLastLine_iff.mp h').symm

/-! ## The loop -/

/-- One turn at a byte of the file. -/
theorem findEndingLine_step {pos : Nat} {ch : UInt8} (h : content[pos]? = some ch) :
    findEndingLine (goodAt content pos) =
      if NearStart (pos + 1 : ℕ) then goodAt content 0
      else if ch = newline then goodAt content (pos + 1)
      else findEndingLine (goodAt content (pos - 1)) := by
  rw [findEndingLine, get_goodAt h]
  simp only [tellg_goodAt, Option.some.injEq]
  by_cases hnear : NearStart (pos + 1 : ℕ)
  · rw [if_pos hnear, if_pos hnear]
    exact seekg_goodAt 0
  · rw [if_neg hnear, if_neg hnear]
    have hpos : pos ≠ 0 := by
      rintro rfl
      exact hnear nearStart_one
    rw [seekgCur_goodAt (show ((pos + 1 : ℕ) : Int) + -2 = (pos - 1 : ℕ) by omega)]

/-- One turn at a byte that is no newline. -/
theorem findEndingLine_back {q : Nat} (hq : q + 1 < content.length)
    (hbyte : content[q + 1]? ≠ some newline) :
    findEndingLine (goodAt content (q + 1)) =
      if NearStart (q + 2 : ℕ) then goodAt content 0 else findEndingLine (goodAt content q) := by
  have hch : content[q + 1]? = some content[q + 1] := List.getElem?_eq_getElem hq
  have hne : content[q + 1] ≠ newline := by
    intro heq
    exact hbyte (by rw [hch, heq])
  rw [findEndingLine_step hch, if_neg hne, Nat.add_sub_cancel]

/-- **The loop stops behind a newline** that it reaches far from the start. -/
theorem findEndingLine_of_newline {p : Nat} (hp : content[p]? = some newline) {q : Nat}
    (hpq : p ≤ q) (hq : q < content.length)
    (hbehind : ∀ j, p < j → j ≤ q → content[j]? ≠ some newline)
    (hfar : ∀ pos : Nat, p < pos → pos ≤ q + 1 → ¬ NearStart pos) :
    findEndingLine (goodAt content q) = goodAt content (p + 1) := by
  induction q, hpq using Nat.le_induction with
  | base =>
    rw [findEndingLine_step hp, if_neg (hfar (p + 1) (by omega) le_rfl), if_pos rfl]
  | succ q hpq ih =>
    rw [findEndingLine_back hq (hbehind (q + 1) (by omega) le_rfl),
      if_neg (hfar (q + 2) (by omega) le_rfl)]
    exact ih (by omega) (fun j hj hjq => hbehind j hj (by omega))
      fun pos hpos hle => hfar pos hpos (by omega)

/-- **The loop goes to the start** from a place that looks like it. -/
theorem findEndingLine_of_nearStart {m : Nat} (hnear : NearStart (m + 1 : ℕ)) {q : Nat}
    (hmq : m ≤ q) (hq : q < content.length)
    (hbehind : ∀ j, m < j → j ≤ q → content[j]? ≠ some newline) :
    findEndingLine (goodAt content q) = goodAt content 0 := by
  induction q, hmq using Nat.le_induction with
  | base => rw [findEndingLine_step (List.getElem?_eq_getElem hq), if_pos hnear]
  | succ q hmq ih =>
    rw [findEndingLine_back hq (hbehind (q + 1) (by omega) le_rfl)]
    split
    · rfl
    · exact ih (by omega) fun j hj hjq => hbehind j hj (by omega)

/-! ## The line that is read -/

/-- A stream that has failed stays so, and gives no line. -/
theorem getline_findEndingLine_of_fail {s : IStream UInt8} (h : s.failbit = true) :
    ((findEndingLine s).getline newline).1 = [] := by
  have hget : s.get.2.failbit = true := by
    rw [IStream.get, if_neg (by simp [good, h])]
  have hbad : s.get.2.good = false := by simp [good, hget]
  have htell : s.get.2.tellg.2.failbit = true := by
    rw [tellg, if_neg (by simp [hbad])]
  rw [findEndingLine, tellg_of_not_good hbad, if_pos nearStart_neg_one]
  simp [seekg, htell, getline, good]

/-- **An empty file gives an empty line.** -/
theorem getLastLine_nil : getLastLine (some []) = [] := getline_findEndingLine_of_fail rfl

/-- The search begins at the last byte. -/
theorem getLastLine_eq (hne : content ≠ []) :
    getLastLine (some content) =
      ((findEndingLine (goodAt content (content.length - 1))).getline newline).1 := by
  have hlength := List.length_pos_iff.mpr hne
  have hend : (openFile (some content)).seekgEnd (-1) = goodAt content (content.length - 1) := by
    show (goodAt content 0).seekg (content.length + -1) = _
    rw [show (content.length : Int) + -1 = (content.length - 1 : ℕ) by omega, seekg_goodAt]
  rw [getLastLine, hend]

theorem getLastLine_of_no_newline (h : newline ∉ content) :
    getLastLine (some content) = content := by
  by_cases hne : content = []
  · rw [hne, getLastLine_nil]
  · have hlength := List.length_pos_iff.mpr hne
    have hstart : findEndingLine (goodAt content (content.length - 1)) = goodAt content 0 :=
      findEndingLine_of_nearStart (m := 0) nearStart_one (Nat.zero_le _) (by omega)
        fun j _ _ hj => h (List.mem_of_getElem? hj)
    rw [getLastLine_eq hne, hstart, getline_goodAt, List.drop_zero, takeWhile_of_no_newline h]

section LastNewline

variable (hcontent : content = before ++ newline :: line) (hline : newline ∉ line)
include hcontent hline

/-- There is no newline behind the last one. -/
theorem getElem?_ne_newline {j : Nat} (hj : before.length < j) :
    content[j]? ≠ some newline := by
  rw [hcontent, List.getElem?_append_right (by omega)]
  obtain ⟨k, hk⟩ : ∃ k, j - before.length = k + 1 := ⟨j - before.length - 1, by omega⟩
  rw [hk, List.getElem?_cons_succ]
  exact fun heq => hline (List.mem_of_getElem? heq)

theorem getLastLine_of_far
    (hfar : ∀ pos : Nat, before.length < pos → pos ≤ content.length → ¬ NearStart pos) :
    getLastLine (some content) = line := by
  have hlength : content.length = before.length + (line.length + 1) := by simp [hcontent]
  have hp : content[before.length]? = some newline := by simp [hcontent]
  have hstop : findEndingLine (goodAt content (content.length - 1)) =
      goodAt content (before.length + 1) :=
    findEndingLine_of_newline hp (by omega) (by omega)
      (fun j hj _ => getElem?_ne_newline hcontent hline hj)
      fun pos hpos hle => hfar pos hpos (by omega)
  have hdrop : content.drop (before.length + 1) = line := by simp [hcontent]
  rw [getLastLine_eq (by simp [hcontent]), hstop, getline_goodAt, hdrop,
    takeWhile_of_no_newline hline]

theorem getLastLine_of_near {pos : Nat} (hlt : before.length < pos) (hle : pos ≤ content.length)
    (hnear : NearStart pos) : getLastLine (some content) = firstLine content := by
  obtain ⟨m, rfl⟩ : ∃ m, pos = m + 1 := ⟨pos - 1, by omega⟩
  have hstart : findEndingLine (goodAt content (content.length - 1)) = goodAt content 0 :=
    findEndingLine_of_nearStart hnear (by omega) (by omega)
      fun j hj _ => getElem?_ne_newline hcontent hline (by omega)
  rw [getLastLine_eq (by simp [hcontent]), hstart, getline_goodAt, List.drop_zero]
  rfl

end LastNewline

/-! ## Files of less than two gigabytes -/

theorem nearStart_iff {pos : Nat} (h : pos < 2 ^ 31) : NearStart pos ↔ pos ≤ 1 := by
  have hpos : (Int32.ofInt pos).toInt = pos := Int32.toInt_ofInt_of_le (by omega) (by omega)
  have hone : (1 : Int32).toInt = 1 := by decide
  rw [NearStart, Int32.le_iff_toInt_le, hpos, hone]
  omega

/-- **Where every place is an `int`**, the only newline is missed when it is the first byte and more
bytes follow. -/
theorem seesLastNewline_iff_of_lt (h : content.length < 2 ^ 31) :
    SeesLastNewline content ↔ ¬ ∃ line ≠ [], newline ∉ line ∧ content = newline :: line := by
  constructor
  · rintro hsees ⟨line, hne, hno, rfl⟩
    rcases hsees [] line rfl hno with hfar | hfirst
    · exact hfar 1 Nat.one_pos (by simp) nearStart_one
    · exact hne (by simpa [firstLine] using hfirst.symm)
  · intro hleading before line hcontent hno
    cases before with
    | nil =>
      have hline : line = [] := by
        by_contra hne
        exact hleading ⟨line, hne, hno, hcontent⟩
      subst hline
      exact Or.inr (by simp [hcontent, firstLine])
    | cons b before =>
      refine Or.inl fun pos hpos hle hnear => ?_
      rw [nearStart_iff (by omega)] at hnear
      simp only [List.length_cons] at hpos
      omega

/-! ## The last line -/

/--
**When the last line is returned.**

The call returns for every content. Its result is what stands behind the last newline exactly when
no place from there to the end looks like the beginning of the file as an `int`, or the first line
is the same.
-/
theorem last_line_iff (content : List UInt8) :
    IsLastLine content (getLastLine (some content)) ↔ SeesLastNewline content := by
  by_cases hmem : newline ∈ content
  · have hlast := isLastLine_iff.mpr (rfl : (content.reverse.takeWhile (· ≠ newline)).reverse = _)
    rcases hlast.ending with heq | ⟨before, hcontent⟩
    · rw [heq] at hmem
      exact absurd hmem hlast.no_newline
    · by_cases hfar : ∀ pos : ℕ, before.length < pos → pos ≤ content.length → ¬ NearStart pos
      · rw [getLastLine_of_far hcontent hlast.no_newline hfar]
        refine iff_of_true hlast fun before' line' hcontent' hline' => Or.inl ?_
        have hline := hlast.unique ⟨hline', Or.inr ⟨before', hcontent'⟩⟩
        have hlength : before.length = before'.length := by
          have hlengths := congrArg List.length (hcontent.symm.trans hcontent')
          rw [hline] at hlengths
          simpa using hlengths
        exact hlength ▸ hfar
      · simp only [not_forall, not_not] at hfar
        obtain ⟨pos, hlt, hle, hnear⟩ := hfar
        rw [getLastLine_of_near hcontent hlast.no_newline hlt hle hnear]
        constructor
        · intro hfirst before' line' hcontent' hline'
          exact Or.inr (hfirst.unique ⟨hline', Or.inr ⟨before', hcontent'⟩⟩)
        · intro hsees
          rcases hsees before _ hcontent hlast.no_newline with hfar | heq
          · exact absurd hnear (hfar pos hlt hle)
          · exact heq ▸ hlast
  · rw [getLastLine_of_no_newline hmem]
    refine iff_of_true ⟨hmem, Or.inl rfl⟩ fun before line hcontent _ => ?_
    exact absurd (by simp [hcontent]) hmem

/-- The newline is the first byte, and an `a` stands behind it. -/
theorem last_line_behind_leading_newline :
    getLastLine (some [newline, 97]) = [] ∧
      ¬ IsLastLine [newline, 97] (getLastLine (some [newline, 97])) := by
  have hcontent : [newline, 97] = [] ++ newline :: [97] := rfl
  have hread : getLastLine (some [newline, 97]) = [] :=
    getLastLine_of_near hcontent (by decide) (Nat.lt_succ_self 0) (by decide) nearStart_one
  refine ⟨hread, ?_⟩
  rw [hread, isLastLine_iff]
  decide

end MicroserviceCommon
