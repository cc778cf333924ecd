import Mathlib.Algebra.Group.Nat.Defs
import Mathlib.Data.List.TakeWhile
import MicroserviceCommon.Common.Utils
import MicroserviceCommon.Infra.Decimal

/-!
# Addresses and their octets

An address is four octets, printed with dots between them.

* `readOctets_printOctets` — octets are read back from their text
* `toNat_joinOctets` — the shifts and ors put the octets side by side
* `octets_of_isDottedQuad` — a canonical text is that of its octets
* `ip_address_round_trips` — both conversions undo each other
-/

namespace MicroserviceCommon

open Infra

/-! ## Reading a number -/

theorem dropWhile_isBlank_of_isDigit {c : Char} {text : List Char} (h : c.isDigit = true) :
    (c :: text).dropWhile isBlank = c :: text := by
  have hbounds := digit_bounds h
  have hspace : c ≠ ' ' := by
    rintro rfl
    exact absurd h (by decide)
  have hblank : isBlank c = false := by
    simp only [isBlank, Bool.or_eq_false_iff, beq_eq_false_iff_ne, Bool.and_eq_false_iff,
      decide_eq_false_iff_not]
    exact ⟨hspace, Or.inr (by omega)⟩
  rw [List.dropWhile_cons_of_neg (by simp [hblank])]

theorem readSign_of_isDigit {c : Char} {text : List Char} (h : c.isDigit = true) :
    readSign (c :: text) = (1, c :: text) := by
  unfold readSign
  split
  · next heq => cases heq; cases h
  · next heq => cases heq; cases h
  · rfl

/-- **Digits are read as their number.** -/
theorem stoi_ofList {digits : List Char} (hne : digits ≠ [])
    (hdigits : ∀ c ∈ digits, c.isDigit = true) (hlt : Nat.ofDigitChars 10 digits 0 < 2 ^ 31) :
    stoi (String.ofList digits) = some (Nat.ofDigitChars 10 digits 0 : Int) := by
  have hall : digits.takeWhile Char.isDigit = digits := List.takeWhile_eq_self_iff.mpr hdigits
  obtain ⟨c, text, rfl⟩ := List.exists_cons_of_ne_nil hne
  have hc := hdigits c List.mem_cons_self
  unfold stoi
  simp only [String.toList_ofList, dropWhile_isBlank_of_isDigit hc, readSign_of_isDigit hc, hall,
    Int.one_mul]
  exact if_pos ⟨hne, by omega, by omega⟩

/-! ## Octets and their text -/

theorem toList_toString_octet (octet : UInt8) :
    (toString octet.toNat).toList = Nat.toDigits 10 octet.toNat := toList_toString octet.toNat

theorem stoi_octet (octet : UInt8) :
    stoi (String.ofList (Nat.toDigits 10 octet.toNat)) = some (octet.toNat : Int) := by
  have hvalue : Nat.ofDigitChars 10 (Nat.toDigits 10 octet.toNat) 0 = octet.toNat :=
    Nat.ofDigitChars_ten_toDigits
  have hlt := octet.toNat_lt
  have hdigits : ∀ c ∈ Nat.toDigits 10 octet.toNat, c.isDigit = true :=
    fun c => isDigit_of_mem_toDigits
  have hstoi := stoi_ofList Nat.toDigits_ne_nil hdigits (by omega)
  rwa [hvalue] at hstoi

theorem ofInt_toNat (octet : UInt8) : UInt8.ofInt (octet.toNat : Int) = octet := by
  have hlt := octet.toNat_lt
  refine UInt8.toNat_inj.mp ?_
  simp only [UInt8.ofInt, UInt8.toNat_ofNat']
  omega

theorem dot_not_mem_toDigits (n : Nat) : '.' ∉ Nat.toDigits 10 n := by
  intro hdot
  exact absurd (isDigit_of_mem_toDigits hdot) (by decide)

theorem printOctets_cons (octet next : UInt8) (octets : List UInt8) :
    printOctets (octet :: next :: octets) =
      toString octet.toNat ++ "." ++ printOctets (next :: octets) := rfl

/-- A turn of the loop in front of a dot, and one behind the last dot. -/
theorem readOctets_of_dot {ip octetStr : String} {strIdxFrom strIdxTo n : Nat} {octet : UInt8}
    (hfind : findCharFrom ip '.' strIdxFrom = some strIdxTo)
    (hsub : substr ip strIdxFrom (strIdxTo - strIdxFrom) = some octetStr)
    (hstoi : stoi octetStr = some (octet.toNat : Int)) :
    readOctets ip (n + 1) strIdxFrom =
      (readOctets ip n (strIdxTo + 1)).map (octet :: ·) := by
  simp only [readOctets, hfind, hsub, hstoi, Option.bind_eq_bind, Option.bind_some, ofInt_toNat,
    Option.map_eq_bind]
  rfl

theorem readOctets_of_no_dot {ip octetStr : String} {strIdxFrom n : Nat} {octet : UInt8}
    (hfind : findCharFrom ip '.' strIdxFrom = none)
    (hsub : substr ip strIdxFrom (ip.length - strIdxFrom) = some octetStr)
    (hstoi : stoi octetStr = some (octet.toNat : Int)) :
    readOctets ip (n + 1) strIdxFrom = (readOctets ip n strIdxFrom).map (octet :: ·) := by
  simp only [readOctets, hfind, hsub, hstoi, Option.bind_eq_bind, Option.bind_some, ofInt_toNat,
    Option.map_eq_bind]
  rfl

/-- **Octets are read back from their text**, wherever it ends the string. -/
theorem readOctets_printOctets : ∀ {octets : List UInt8} {ip : String} {before : List Char},
    octets ≠ [] → ip.toList = before ++ (printOctets octets).toList →
      readOctets ip octets.length before.length = some octets
  | [], _, _, hne, _ => absurd rfl hne
  | [octet], ip, before, _, htext => by
    rw [printOctets, toList_toString_octet] at htext
    have hcount : (Nat.toDigits 10 octet.toNat).length ≤ ip.length - before.length := by
      rw [← String.length_toList, htext, List.length_append]
      omega
    have hlast : readOctets ip 1 before.length = _ :=
      readOctets_of_no_dot (findCharFrom_of_not_mem htext (dot_not_mem_toDigits _))
        (substr_end htext hcount) (stoi_octet octet)
    exact hlast
  | octet :: next :: octets, ip, before, _, htext => by
    have hparts : ip.toList = before ++ Nat.toDigits 10 octet.toNat ++
        '.' :: (printOctets (next :: octets)).toList := by
      rw [htext, printOctets_cons, String.toList_append, String.toList_append,
        toList_toString_octet]
      simp
    have hrest : ip.toList = (before ++ Nat.toDigits 10 octet.toNat ++ ['.']) ++
        (printOctets (next :: octets)).toList := by
      rw [hparts]
      simp
    have hsub := substr_middle hparts
    have hturn := readOctets_of_dot (n := (next :: octets).length)
      (findCharFrom_of_parts hparts (dot_not_mem_toDigits _))
      (by rwa [Nat.add_sub_cancel_left]) (stoi_octet octet)
    have hnext := readOctets_printOctets (List.cons_ne_nil next octets) hrest
    rw [List.length_append, List.length_append, List.length_singleton] at hnext
    rw [List.length_cons, hturn, hnext, Option.map_some]

/-! ## Octets side by side -/

/-- The shifts and ors of `ipAddressToOctets`. -/
def joinOctets (a b c d : UInt8) : UInt32 :=
  a.toUInt32 <<< 24 ||| b.toUInt32 <<< 16 ||| c.toUInt32 <<< 8 ||| d.toUInt32

theorem ipAddressToOctets_printOctets (a b c d : UInt8) :
    ipAddressToOctets (printOctets [a, b, c, d]) = some (joinOctets a b c d) := by
  have htext := (List.nil_append (printOctets [a, b, c, d]).toList).symm
  have hread := readOctets_printOctets (List.cons_ne_nil a [b, c, d]) htext
  simp only [List.length_cons, List.length_nil] at hread
  rw [ipAddressToOctets, hread]
  rfl

/-- Bits that do not meet are added. -/
theorem or_of_lt {i a b : Nat} (hb : b < 2 ^ i) : a * 2 ^ i ||| b = a * 2 ^ i + b := by
  rw [Nat.mul_comm]
  exact (Nat.two_pow_add_eq_or_of_lt hb a).symm

/-- The places of the octets. -/
theorem toNat_places : UInt32.toNat 24 % 32 = 24 ∧ UInt32.toNat 16 % 32 = 16 ∧
    UInt32.toNat 8 % 32 = 8 := by
  decide

/-- **The octets are the digits to the base 256.** -/
theorem toNat_joinOctets (a b c d : UInt8) : (joinOctets a b c d).toNat =
    ((a.toNat * 2 ^ 8 + b.toNat) * 2 ^ 8 + c.toNat) * 2 ^ 8 + d.toNat := by
  have ha := a.toNat_lt
  have hb := b.toNat_lt
  have hc := c.toNat_lt
  have hd := d.toNat_lt
  have hab : a.toNat * 2 ^ 24 ||| b.toNat * 2 ^ 16 = (a.toNat * 2 ^ 8 + b.toNat) * 2 ^ 16 := by
    rw [or_of_lt (by omega)]
    omega
  have habc : (a.toNat * 2 ^ 8 + b.toNat) * 2 ^ 16 ||| c.toNat * 2 ^ 8 =
      ((a.toNat * 2 ^ 8 + b.toNat) * 2 ^ 8 + c.toNat) * 2 ^ 8 := by
    rw [or_of_lt (by omega)]
    omega
  obtain ⟨h24, h16, h8⟩ := toNat_places
  simp only [joinOctets, UInt32.toNat_or, UInt32.toNat_shiftLeft, UInt8.toNat_toUInt32, h24, h16,
    h8, Nat.shiftLeft_eq]
  rw [Nat.mod_eq_of_lt (by omega), Nat.mod_eq_of_lt (by omega), Nat.mod_eq_of_lt (by omega), hab,
    habc, or_of_lt hd]

/-- The octets of an address are put together again. -/
theorem joinOctets_shifts (x : UInt32) : joinOctets (x >>> 24).toUInt8 (x >>> 16).toUInt8
    (x >>> 8).toUInt8 x.toUInt8 = x := by
  refine UInt32.toNat_inj.mp ?_
  have hx := x.toNat_lt
  obtain ⟨h24, h16, h8⟩ := toNat_places
  rw [toNat_joinOctets]
  simp only [UInt32.toNat_toUInt8, UInt32.toNat_shiftRight, h24, h16, h8,
    Nat.shiftRight_eq_div_pow]
  omega

/-- Octets are taken out again. -/
theorem shifts_joinOctets (a b c d : UInt8) :
    (joinOctets a b c d >>> 24).toUInt8 = a ∧ (joinOctets a b c d >>> 16).toUInt8 = b ∧
      (joinOctets a b c d >>> 8).toUInt8 = c ∧ (joinOctets a b c d).toUInt8 = d := by
  have ha := a.toNat_lt
  have hb := b.toNat_lt
  have hc := c.toNat_lt
  have hd := d.toNat_lt
  obtain ⟨h24, h16, h8⟩ := toNat_places
  simp only [← UInt8.toNat_inj, UInt32.toNat_toUInt8, UInt32.toNat_shiftRight, toNat_joinOctets,
    h24, h16, h8, Nat.shiftRight_eq_div_pow]
  omega

theorem ipAddressFromOctets_joinOctets (a b c d : UInt8) :
    ipAddressFromOctets (joinOctets a b c d) = printOctets [a, b, c, d] := by
  obtain ⟨ha, hb, hc, hd⟩ := shifts_joinOctets a b c d
  rw [ipAddressFromOctets, ha, hb, hc, hd]

/-! ## Canonical texts -/

/-- A decimal number from 0 to 255 without leading zeros. -/
structure IsOctetText (text : List Char) : Prop extends IsDecimal text where
  le : Nat.ofDigitChars 10 text 0 ≤ 255

/-- Four of them with dots between them. -/
def IsDottedQuad (ip : String) : Prop :=
  ∃ a b c d : List Char, IsOctetText a ∧ IsOctetText b ∧ IsOctetText c ∧ IsOctetText d ∧
    ip.toList = a ++ '.' :: (b ++ '.' :: (c ++ '.' :: d))

/-- **A canonical number is the text of an octet.** -/
theorem IsOctetText.exists_octet {text : List Char} (h : IsOctetText text) :
    ∃ octet : UInt8, (toString octet.toNat).toList = text := by
  refine ⟨UInt8.ofNat (Nat.ofDigitChars 10 text 0), ?_⟩
  have hlt : Nat.ofDigitChars 10 text 0 < UInt8.size := Nat.lt_succ_of_le h.le
  rw [UInt8.toNat_ofNat_of_lt' hlt, toList_toString, toDigits_ofDigitChars h.toIsDecimal]

theorem octets_of_isDottedQuad {ip : String} (h : IsDottedQuad ip) :
    ∃ a b c d : UInt8, ip = printOctets [a, b, c, d] := by
  obtain ⟨_, _, _, _, ha, hb, hc, hd, htext⟩ := h
  obtain ⟨a, rfl⟩ := ha.exists_octet
  obtain ⟨b, rfl⟩ := hb.exists_octet
  obtain ⟨c, rfl⟩ := hc.exists_octet
  obtain ⟨d, rfl⟩ := hd.exists_octet
  refine ⟨a, b, c, d, String.toList_injective ?_⟩
  rw [htext]
  simp [printOctets]

/--
**The conversions undo each other.**

Every address is read back from its text, and every canonical text is printed again.
-/
theorem ip_address_round_trips :
    (∀ x : UInt32, ipAddressToOctets (ipAddressFromOctets x) = some x) ∧
      ∀ ip, IsDottedQuad ip → (ipAddressToOctets ip).map ipAddressFromOctets = some ip := by
  constructor
  · intro x
    rw [ipAddressFromOctets, ipAddressToOctets_printOctets, joinOctets_shifts]
  · intro ip hip
    obtain ⟨a, b, c, d, rfl⟩ := octets_of_isDottedQuad hip
    rw [ipAddressToOctets_printOctets, Option.map_some, ipAddressFromOctets_joinOctets]

/-- The address of the own machine. -/
theorem ip_address_round_trips_localhost :
    (ipAddressToOctets "127.0.0.1").map ipAddressFromOctets = some "127.0.0.1" := by
  refine ip_address_round_trips.2 _
    ⟨['1', '2', '7'], ['0'], ['0'], ['1'], ?_, ?_, ?_, ?_, by decide⟩
  all_goals exact ⟨⟨by simp, by simp, by simp⟩, by decide⟩

end MicroserviceCommon
