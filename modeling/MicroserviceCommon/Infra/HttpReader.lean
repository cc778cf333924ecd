import MicroserviceCommon.Infra.Decimal

/-!
# Reading the answers on an HTTP connection

What a client makes of the bytes of a connection that is kept open. It knows of each request
whether it was a `HEAD`, and where an answer ends it learns from the head of the answer.

* `Reads` — the answers that a stream of bytes has, with nothing left over
* `Reads.unique` — a stream has one reading
* `reads_head_iff` — what stands behind the first head decides

A character is a byte. An answer names its length, and its fields are spelled as here.
-/

namespace Infra

structure HttpResponse where
  code : Nat
  body : List Char
  deriving DecidableEq, Repr

/-! ## The head -/

/-- The lines before the first empty one, and what stands behind it. -/
def readLines (line : List Char) : List Char → Option (List (List Char) × List Char)
  | '\r' :: '\n' :: text =>
    if line = [] then some ([], text)
    else (readLines [] text).map fun (lines, rest) => (line :: lines, rest)
  | c :: text => readLines (line ++ [c]) text
  | [] => none

/-- Three digits. -/
def statusCode (line : List Char) : Option Nat :=
  (line.dropPrefix? "HTTP/1.1 ".toList).bind fun text =>
    let digits := text.takeWhile Char.isDigit
    if digits.length = 3 then some (Nat.ofDigitChars 10 digits 0) else none

def contentLength (line : List Char) : Option Nat :=
  (line.dropPrefix? "Content-Length: ".toList).map fun text =>
    Nat.ofDigitChars 10 (text.takeWhile Char.isDigit) 0

/-- The status code, the length that is named, and what stands behind the head. -/
def readHead (text : List Char) : Option (Nat × Nat × List Char) := do
  let (lines, rest) ← readLines [] text
  let code ← lines.head?.bind statusCode
  let length ← lines.findSome? contentLength
  return (code, length, rest)

/-- A line is read to its end. -/
theorem readLines_append : ∀ {line before text : List Char}, '\r' ∉ line →
    readLines before (line ++ '\r' :: '\n' :: text) =
      if before ++ line = [] then some ([], text)
      else (readLines [] text).map fun (lines, rest) => ((before ++ line) :: lines, rest)
  | [], before, text, _ => by rw [List.nil_append, List.append_nil, readLines]
  | c :: line, before, text, h => by
    have hc : c ≠ '\r' := fun heq => h (heq ▸ List.mem_cons_self)
    have hline : '\r' ∉ line := fun hmem => h (List.mem_cons_of_mem _ hmem)
    rw [List.cons_append, readLines, readLines_append hline, List.append_assoc,
      List.singleton_append]
    intro text' heq
    exact absurd heq hc

/-- The text of a head. -/
def headText : List (List Char) → List Char
  | [] => ['\r', '\n']
  | line :: lines => line ++ '\r' :: '\n' :: headText lines

/-- **A head is read back.** -/
theorem readLines_headText : ∀ {lines : List (List Char)} {rest : List Char},
    (∀ line ∈ lines, line ≠ [] ∧ '\r' ∉ line) →
      readLines [] (headText lines ++ rest) = some (lines, rest)
  | [], _, _ => rfl
  | line :: lines, rest, h => by
    obtain ⟨hne, hline⟩ := h line List.mem_cons_self
    rw [headText, List.append_assoc, List.cons_append, List.cons_append, readLines_append hline,
      List.nil_append, if_neg hne, readLines_headText fun l hl => h l (List.mem_cons_of_mem _ hl)]
    rfl

/-- A field that is named reads what stands behind the name. -/
theorem dropPrefix?_append : ∀ (name text : List Char),
    (name ++ text).dropPrefix? name = some text
  | [], text => by cases text <;> rfl
  | c :: name, text => by
    rw [List.cons_append, List.dropPrefix?, if_pos (beq_self_eq_true c)]
    exact dropPrefix?_append name text

theorem contentLength_append (n : Nat) :
    contentLength ("Content-Length: ".toList ++ Nat.toDigits 10 n) = some n := by
  have hdigits : (Nat.toDigits 10 n ++ []).takeWhile Char.isDigit = Nat.toDigits 10 n :=
    takeWhile_toDigits n trivial
  rw [List.append_nil] at hdigits
  rw [contentLength, dropPrefix?_append, Option.map_some, hdigits, Nat.ofDigitChars_ten_toDigits]

theorem length_toDigits_eq_three_iff {n : Nat} :
    (Nat.toDigits 10 n).length = 3 ↔ 100 ≤ n ∧ n ≤ 999 := by
  have hle : (Nat.toDigits 10 n).length ≤ 3 ↔ n < 10 ^ 3 :=
    Nat.length_toDigits_le_iff (by decide) (by decide)
  have hlt : (Nat.toDigits 10 n).length ≤ 2 ↔ n < 10 ^ 2 :=
    Nat.length_toDigits_le_iff (by decide) (by decide)
  omega

/-- **A code is read when it has three digits.** -/
theorem statusCode_append (n : Nat) {reason : List Char} (hreason : NoDigitHead reason) :
    statusCode ("HTTP/1.1 ".toList ++ (Nat.toDigits 10 n ++ reason)) =
      if 100 ≤ n ∧ n ≤ 999 then some n else none := by
  rw [statusCode, dropPrefix?_append, Option.bind_some]
  simp only [takeWhile_toDigits n hreason, length_toDigits_eq_three_iff,
    Nat.ofDigitChars_ten_toDigits]

/-! ## The answers -/

/-- These answers have no body, whatever length they name. -/
def NoBody (isHead : Bool) (code : Nat) : Prop := isHead = true ∨ code = 204 ∨ code = 304

instance (isHead : Bool) (code : Nat) : Decidable (NoBody isHead code) :=
  inferInstanceAs (Decidable (_ ∨ _))

def bodyLength (isHead : Bool) (code length : Nat) : Nat :=
  if NoBody isHead code then 0 else length

/-- The answers to the requests, of which some may have no answer yet. A code below 200 announces
another answer to the same request. -/
inductive Reads : List Bool → List Char → List HttpResponse → Prop where
  | done {requests : List Bool} : Reads requests [] []
  | interim {requests : List Bool} {stream rest : List Char} {code length : Nat}
      {responses : List HttpResponse} (hhead : readHead stream = some (code, length, rest))
      (hcode : code < 200) (hrest : Reads requests rest responses) :
      Reads requests stream responses
  | final {isHead : Bool} {requests : List Bool} {stream rest : List Char} {code length : Nat}
      {responses : List HttpResponse} (hhead : readHead stream = some (code, length, rest))
      (hcode : 200 ≤ code) (hlength : bodyLength isHead code length ≤ rest.length)
      (hrest : Reads requests (rest.drop (bodyLength isHead code length)) responses) :
      Reads (isHead :: requests) stream
        ({ code := code, body := rest.take (bodyLength isHead code length) } :: responses)

variable {isHead : Bool} {requests : List Bool} {stream rest : List Char} {code length : Nat}
variable {responses responses' : List HttpResponse} {r : HttpResponse}

/-- **What stands behind the first head decides.** -/
theorem reads_head_iff (hhead : readHead stream = some (code, length, rest)) :
    Reads (isHead :: requests) stream (r :: responses) ↔
      (code < 200 ∧ Reads (isHead :: requests) rest (r :: responses)) ∨
      (200 ≤ code ∧ bodyLength isHead code length ≤ rest.length ∧
        r = { code := code, body := rest.take (bodyLength isHead code length) } ∧
        Reads requests (rest.drop (bodyLength isHead code length)) responses) := by
  constructor
  · intro h
    cases h with
    | interim hhead' hcode hrest =>
      rw [hhead] at hhead'
      cases hhead'
      exact Or.inl ⟨hcode, hrest⟩
    | final hhead' hcode hlength hrest =>
      rw [hhead] at hhead'
      cases hhead'
      exact Or.inr ⟨hcode, hlength, rfl, hrest⟩
  · rintro (⟨hcode, hrest⟩ | ⟨hcode, hlength, rfl, hrest⟩)
    · exact Reads.interim hhead hcode hrest
    · exact Reads.final hhead hcode hlength hrest

theorem not_reads_of_readHead (hhead : readHead stream = none) :
    ¬ Reads requests stream (r :: responses) := by
  intro h
  cases h with
  | interim hhead' _ _ | final hhead' _ _ _ =>
    rw [hhead] at hhead'
    cases hhead'

/-- **A stream has one reading.** -/
theorem Reads.unique (h : Reads requests stream responses) :
    ∀ {responses'}, Reads requests stream responses' → responses = responses' := by
  induction h with
  | done =>
    intro responses' h'
    cases h' with
    | done => rfl
    | interim hhead _ _ => cases hhead
    | final hhead _ _ _ => cases hhead
  | interim hhead hcode _ ih =>
    intro responses' h'
    cases h' with
    | done => cases hhead
    | interim hhead' _ hrest' =>
      rw [hhead] at hhead'
      cases hhead'
      exact ih hrest'
    | final hhead' hcode' _ _ =>
      rw [hhead] at hhead'
      cases hhead'
      omega
  | final hhead hcode _ _ ih =>
    intro responses' h'
    cases h' with
    | done => cases hhead
    | interim hhead' hcode' _ =>
      rw [hhead] at hhead'
      cases hhead'
      omega
    | final hhead' _ _ hrest' =>
      rw [hhead] at hhead'
      cases hhead'
      rw [ih hrest']

/-- Every answer has a code of three digits that is no announcement. -/
theorem Reads.two_hundred_le (h : Reads requests stream responses) :
    ∀ r ∈ responses, 200 ≤ r.code := by
  induction h with
  | done => exact fun r hr => absurd hr List.not_mem_nil
  | interim _ _ _ ih => exact ih
  | final _ hcode _ _ ih =>
    intro r hr
    rcases List.mem_cons.mp hr with rfl | hr
    · exact hcode
    · exact ih r hr

end Infra
