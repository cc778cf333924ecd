import Mathlib.Algebra.Group.Nat.Defs
import MicroserviceCommon.Communication.HttpCookies

/-!
# The cookies of an empty list

`fetchCookies` looks at the `data` of a node before it looks whether there is a node.

* `readToken_text` — the name and the value are the last two fields of a line
* `fetchFrom_lines` — the tokens of a list that is not empty are inserted in their order
* `fetch_cookies_iff` — the cookies are those of the lines exactly when there is a line
* `no_cookies` — the null pointer
-/

namespace MicroserviceCommon.HTTPClient

open Infra

/-! ## Lines of cookies -/

/-- The fields of a line in the format of Netscape. -/
structure CookieFields where
  domain : String
  tailmatch : String
  path : String
  secure : String
  expires : String
  name : String
  value : String
  deriving DecidableEq, Repr

namespace CookieFields

def toList (c : CookieFields) : List String :=
  [c.domain, c.tailmatch, c.path, c.secure, c.expires, c.name, c.value]

/-- The fields in front of the name. -/
def attributes (c : CookieFields) : String :=
  c.domain ++ "\t" ++ c.tailmatch ++ "\t" ++ c.path ++ "\t" ++ c.secure ++ "\t" ++ c.expires

def text (c : CookieFields) : String := c.attributes ++ "\t" ++ c.name ++ "\t" ++ c.value

end CookieFields

/-- A line as curl makes it. It keeps cookies to a few thousand bytes. -/
structure CookieLine extends CookieFields where
  no_tab : ∀ field ∈ toCookieFields.toList, '\t' ∉ field.toList
  short : toCookieFields.text.length < 2 ^ 31

/-- What `m_cookies` is to hold: the first line of a name counts. -/
def cookiesOf (lines : List CookieLine) : UnorderedMap String String :=
  fun name => (lines.map fun line => (line.name, line.value)).lookup name

def FetchesCookies (lines : List CookieLine) : Prop :=
  fetchCookies (some (lines.map fun line => some line.text)) = .ok (cookiesOf lines)

/-! ## Cutting at the last tab -/

variable {s : String} {before behind : List Char}

theorem toInt_ofInt_length {n : Nat} (h : n < 2 ^ 31) : (Int32.ofInt n).toInt = n :=
  Int32.toInt_ofInt_of_le (by omega) (by omega)

theorem not_ofInt_lt_zero {n : Nat} (h : n < 2 ^ 31) : ¬ Int32.ofInt n < 0 := by
  rw [Int32.lt_iff_toInt_lt, toInt_ofInt_length h]
  simp

theorem behindLastTab_of_parts (h : s.toList = before ++ '\t' :: behind)
    (hbehind : '\t' ∉ behind) :
    behindLastTab s = Int32.ofInt ((before.length + 1 : ℕ) : Int) := by
  rw [behindLastTab, findLastChar_of_parts h hbehind]
  rfl

theorem substrFrom_of_parts (h : s.toList = before ++ '\t' :: behind)
    (hlt : before.length + 1 < 2 ^ 31) :
    substrFrom s (Int32.ofInt ((before.length + 1 : ℕ) : Int)) = .ok (String.ofList behind) := by
  have hparts : s.toList = (before ++ ['\t']) ++ behind := by simp [h]
  have hcount : behind.length ≤ s.length - (before.length + 1) := by
    rw [← String.length_toList, h, List.length_append, List.length_cons]
    omega
  have hsub := substr_end hparts hcount
  rw [List.length_append, List.length_singleton] at hsub
  rw [substrFrom, if_neg (not_ofInt_lt_zero hlt), toInt_ofInt_length hlt, Int.toNat_natCast, hsub]

theorem eraseFrom_of_parts (h : s.toList = before ++ behind) (hlt : before.length < 2 ^ 31) :
    eraseFrom s (Int32.ofInt before.length) = .ok (String.ofList before) := by
  have hle : ¬ s.length < before.length := by
    rw [← String.length_toList, h, List.length_append]
    omega
  rw [eraseFrom, toInt_ofInt_length hlt, Int.toNat_natCast,
    if_neg (not_or.mpr ⟨not_ofInt_lt_zero hlt, hle⟩), h, List.take_left]

/-- The place of the tab itself. -/
theorem ofInt_succ_sub_one (n : Nat) : Int32.ofInt ((n + 1 : ℕ) : Int) - 1 = Int32.ofInt n := by
  rw [Int.natCast_add, Int32.ofInt_add]
  exact Int32.add_sub_cancel _ _

/-- **The name and the value are the last two fields.** -/
theorem readToken_text (line : CookieLine) : readToken line.text = .ok (line.name, line.value) := by
  have hname : '\t' ∉ line.name.toList := line.no_tab _ (by simp [CookieFields.toList])
  have hvalue : '\t' ∉ line.value.toList := line.no_tab _ (by simp [CookieFields.toList])
  -- the line without its value
  obtain ⟨key, hkeyEq⟩ : ∃ key, key = line.attributes ++ "\t" ++ line.name := ⟨_, rfl⟩
  have htext : line.text.toList = key.toList ++ '\t' :: line.value.toList := by
    simp [CookieFields.text, hkeyEq]
  have hkeyText : key.toList = line.attributes.toList ++ '\t' :: line.name.toList := by
    simp [hkeyEq]
  have hlength := congrArg List.length htext
  have hkeyLength := congrArg List.length hkeyText
  have hshort := line.short
  rw [← String.length_toList] at hshort
  rw [List.length_append, List.length_cons] at hlength hkeyLength
  have hval := substrFrom_of_parts htext (by omega)
  have hleft := eraseFrom_of_parts htext (by omega)
  have hkey := substrFrom_of_parts hkeyText (by omega)
  rw [String.ofList_toList] at hval hleft hkey
  simp only [readToken, behindLastTab_of_parts htext hvalue, hval, ofInt_succ_sub_one, hleft,
    behindLastTab_of_parts hkeyText hname, hkey, bind, Except.bind]
  rfl

/-! ## The loop -/

/-- **The null pointer is dereferenced.** -/
theorem fetchCookies_null : fetchCookies (some []) = .error .nullNode := rfl

/-- **The tokens are inserted in their order.** -/
theorem fetchFrom_lines : ∀ {lines : List CookieLine} (cookies : UnorderedMap String String),
    lines ≠ [] → fetchFrom (lines.map fun line => some line.text) cookies =
      .ok (cookies.insertAll (lines.map fun line => (line.name, line.value)))
  | [], _, hne => absurd rfl hne
  | [line], cookies, _ => by
    rw [List.map_singleton, fetchFrom, readToken_text]
    rfl
  | line :: next :: lines, cookies, _ => by
    have hrest := fetchFrom_lines (cookies.insert line.name line.value)
      (List.cons_ne_nil next lines)
    rw [List.map_cons, fetchFrom, readToken_text]
    simp only [bind, Except.bind]
    rw [if_neg (by simp), hrest]
    rfl

theorem insertAll_empty (lines : List CookieLine) :
    UnorderedMap.empty.insertAll (lines.map fun line => (line.name, line.value)) =
      cookiesOf lines := by
  funext name
  rw [UnorderedMap.insertAll_apply]
  exact Option.none_or

/--
**When the cookies are fetched.**

The loop ends and leaves exactly the tokens of the lines, the first one of a name, exactly when curl
returns a list that is not empty. Otherwise it dereferences the null pointer.
-/
theorem fetch_cookies_iff (lines : List CookieLine) : FetchesCookies lines ↔ lines ≠ [] := by
  constructor
  · rintro h rfl
    rw [FetchesCookies, List.map_nil, fetchCookies_null] at h
    cases h
  · intro hne
    rw [FetchesCookies, fetchCookies, fetchFrom_lines _ hne, insertAll_empty]

/-- Two cookies of one name, the second without a value. -/
def sessionCookies : List CookieLine :=
  [{ domain := "h", tailmatch := "FALSE", path := "/", secure := "FALSE", expires := "0"
     name := "id", value := "7"
     no_tab := by decide
     short := by decide },
   { domain := "h", tailmatch := "FALSE", path := "/a", secure := "FALSE", expires := "0"
     name := "id", value := ""
     no_tab := by decide
     short := by decide }]

/-- The first one counts. -/
theorem fetch_cookies_of_one_name :
    FetchesCookies sessionCookies ∧ cookiesOf sessionCookies "id" = some "7" :=
  ⟨(fetch_cookies_iff sessionCookies).mpr (List.cons_ne_nil _ _), rfl⟩

/-- Curl has no cookies. -/
theorem no_cookies : ¬ FetchesCookies [] := by
  intro h
  rw [FetchesCookies, List.map_nil, fetchCookies_null] at h
  cases h

end MicroserviceCommon.HTTPClient
