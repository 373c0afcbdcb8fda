import NetworkSelection.Text.Hex
import Mathlib.Data.List.Basic

/-!
# Reading and ordering hexadecimal octets

A hexadecimal digit is one of sixteen characters, or the capital form of one of them; no
character beyond ASCII is a digit.  An octet is spelled by exactly two digits.  It is written
with the lower-case ones, which are sixteen characters in the order of their values; so octets
are ordered as their texts are.

Whether a text is two digits can also be told from its bytes: it takes two of them, and each is
the code of a digit.  A text of two bytes need not have two characters, but the bytes of a
character beyond ASCII are no codes of digits.

* `Hex.value?_eq_some_iff`: which characters are digits.
* `Hex.spells_iff`: what is read as an octet.
* `Hex.octet?_eq_octetOfBytes?`, `Hex.spells_iff_toUTF8`: the same told from the bytes.
* `Hex.spells_iff_toLower`: an octet that was read is written in lower case.
* `Hex.octet_append_lt_iff`: the order of texts that begin with an octet.
-/

namespace NetworkSelection

namespace Hex

/-! ## Digits -/

/-- The sixteen digits in the order of their values. -/
def digits : List Char := "0123456789abcdef".toList

/-- The character is the digit of that value, in either case. -/
def IsDigit (c : Char) (n : Nat) : Prop :=
  digits[n]? = some c.toLower

theorem getElem?_digits : ∀ n < 16, digits[n]? = some (digit n) := by
  decide

theorem isDigit_iff {c : Char} {n : Nat} : IsDigit c n ↔ n < 16 ∧ c.toLower = digit n := by
  constructor
  · intro h
    have hlt : n < 16 := (List.getElem?_eq_some_iff.mp h).1
    rw [IsDigit, getElem?_digits n hlt, Option.some.injEq] at h
    exact ⟨hlt, h.symm⟩
  · rintro ⟨hlt, h⟩
    rw [IsDigit, getElem?_digits n hlt, h]

/-- What can be decided for each of the ASCII characters holds of one that is not named. -/
@[elab_as_elim]
theorem of_ascii {p : Char → Prop} {c : Char} (hc : c.toNat < 128)
    (h : ∀ k < 128, p (Char.ofNat k)) : p c := by
  have hp := h c.toNat hc
  rwa [Char.ofNat_toNat] at hp

/-- No character beyond ASCII is a digit. -/
theorem value?_of_not_ascii {c : Char} (h : 128 ≤ c.toNat) : value? c = none := by
  have hbeyond : ∀ high : Char, high.toNat < 128 → ¬ c ≤ high := fun high hhigh hle => by
    have : c.toNat ≤ high.toNat := UInt32.le_iff_toNat_le.mp hle
    omega
  have h9 := hbeyond '9' (by decide)
  have hf := hbeyond 'f' (by decide)
  have hF := hbeyond 'F' (by decide)
  simp [value?, h9, hf, hF]

/-- Only ASCII letters have another case. -/
theorem toLower_of_not_ascii {c : Char} (h : 128 ≤ c.toNat) : c.toLower = c := by
  refine dif_neg fun hupper => ?_
  have hle : c.toNat ≤ 'Z'.toNat := UInt32.le_iff_toNat_le.mp hupper.2
  exact absurd (Nat.le_trans h hle) (by decide)

theorem toList_toLower (s : String) : s.toLower.toList = s.toList.map Char.toLower :=
  String.toList_map

/-- The value of a character is the place of its lower-case form among the digits. -/
theorem value?_eq (c : Char) : value? c = digits.idxOf? c.toLower := by
  by_cases h : c.toNat < 128
  · exact of_ascii h (by decide)
  · have hc : 128 ≤ c.toNat := Nat.le_of_not_lt h
    have hdigits : ∀ d ∈ digits, d.toNat < 128 := List.forall_iff_forall_mem.mp (by decide)
    rw [value?_of_not_ascii hc, toLower_of_not_ascii hc, eq_comm, List.idxOf?_eq_none_iff]
    exact fun hmem => h (hdigits c hmem)

/-- **The digits and their values.** -/
theorem value?_eq_some_iff {c : Char} {n : Nat} : value? c = some n ↔ IsDigit c n := by
  have hplace : ∀ k < 16, digits.idxOf? (digit k) = some k := by decide
  rw [value?_eq, isDigit_iff]
  constructor
  · intro h
    have hmem : c.toLower ∈ digits := by
      rw [← List.isSome_idxOf?, h]
      rfl
    obtain ⟨k, hk⟩ := List.mem_iff_getElem?.mp hmem
    have hlt : k < 16 := (List.getElem?_eq_some_iff.mp hk).1
    rw [getElem?_digits k hlt, Option.some.injEq] at hk
    rw [← hk, hplace k hlt, Option.some.injEq] at h
    subst h
    exact ⟨hlt, hk.symm⟩
  · rintro ⟨hlt, h⟩
    rw [h, hplace n hlt]

/-! ## Octets -/

/-- The text is exactly two digits, each of either case, and they spell the octet. -/
def Spells (text : String) (byte : UInt8) : Prop :=
  ∃ c d high low, text = String.ofList [c, d] ∧ IsDigit c high ∧ IsDigit d low ∧
    byte.toNat = 16 * high + low

/-- What is read from two characters. -/
theorem octet?_pair {c d : Char} {byte : UInt8} :
    octet? [c, d] = some byte ↔
      ∃ high low, value? c = some high ∧ value? d = some low ∧
        UInt8.ofNat (16 * high + low) = byte := by
  simp only [octet?, Option.bind_eq_bind, Option.bind_eq_some_iff, Option.pure_def,
    Option.some.injEq, exists_and_left]

/-- **What is read as an octet**: two digits, and nothing else. -/
theorem spells_iff {text : String} {byte : UInt8} :
    Spells text byte ↔ octet? text.toList = some byte := by
  constructor
  · rintro ⟨c, d, high, low, rfl, hc, hd, hbyte⟩
    rw [String.toList_ofList, octet?_pair]
    refine ⟨high, low, value?_eq_some_iff.mpr hc, value?_eq_some_iff.mpr hd, ?_⟩
    rw [← hbyte, UInt8.ofNat_toNat]
  · intro h
    obtain ⟨c, d, hchars⟩ : ∃ c d, text.toList = [c, d] := by
      unfold octet? at h
      split at h
      · exact ⟨_, _, ‹_›⟩
      · exact absurd h (by simp)
    rw [hchars, octet?_pair] at h
    obtain ⟨high, low, hc, hd, rfl⟩ := h
    have hc := value?_eq_some_iff.mp hc
    have hd := value?_eq_some_iff.mp hd
    refine ⟨c, d, high, low, by rw [← hchars, String.ofList_toList], hc, hd, ?_⟩
    have hhigh := (isDigit_iff.mp hc).1
    have hlow := (isDigit_iff.mp hd).1
    rw [UInt8.toNat_ofNat_of_lt' (by simp only [UInt8.size]; omega)]

/-- Two digits are read as some octet. -/
theorem exists_spells_iff {text : String} :
    (∃ byte, Spells text byte) ↔ octet? text.toList ≠ none := by
  rw [Option.ne_none_iff_exists']
  exact exists_congr fun byte => spells_iff

/-- **A text spells an octet just if the octet is written as its lower-case form.** -/
theorem spells_iff_toLower {text : String} {byte : UInt8} :
    Spells text byte ↔ text.toLower = String.ofList (octet byte) := by
  rw [← String.toList_inj, toList_toLower, String.toList_ofList]
  constructor
  · rintro ⟨c, d, high, low, rfl, hc, hd, hbyte⟩
    obtain ⟨-, hc⟩ := isDigit_iff.mp hc
    obtain ⟨hlow, hd⟩ := isDigit_iff.mp hd
    have hdiv : (16 * high + low) / 16 = high := by omega
    have hmod : (16 * high + low) % 16 = low := by omega
    rw [octet, hbyte, hdiv, hmod, String.toList_ofList, List.map_cons, List.map_cons, List.map_nil,
      hc, hd]
  · intro h
    obtain ⟨c, rest, hchars, hc, hrest⟩ := List.map_eq_cons_iff.mp h
    obtain ⟨d, rest, rfl, hd, hrest⟩ := List.map_eq_cons_iff.mp hrest
    obtain rfl : rest = [] := List.map_eq_nil_iff.mp hrest
    have hlt := byte.toNat_lt
    refine ⟨c, d, byte.toNat / 16, byte.toNat % 16, ?_, isDigit_iff.mpr ⟨by omega, hc⟩,
      isDigit_iff.mpr ⟨by omega, hd⟩, by omega⟩
    rw [← hchars, String.ofList_toList]

/-- An octet is spelled by what is written for it. -/
theorem spells_octet (byte : UInt8) : Spells (String.ofList (octet byte)) byte := by
  rw [spells_iff, String.toList_ofList, octet?_octet]

/-- A character that is no lower-case digit occurs in no octet. -/
theorem notMem_octet {c : Char} (h : ∀ n < 16, digit n ≠ c) (byte : UInt8) : c ∉ octet byte := by
  have hlt := byte.toNat_lt
  have hhigh := h (byte.toNat / 16) (by omega)
  have hlow := h (byte.toNat % 16) (by omega)
  simp [octet, hhigh.symm, hlow.symm]

/-- No digit of an octet is a colon. -/
theorem colon_notMem_octet (byte : UInt8) : ':' ∉ octet byte :=
  notMem_octet (by decide) byte

/-! ## Bytes -/

/-- The value of a byte that is the code of a digit. -/
def valueOfByte? (byte : UInt8) : Option Nat :=
  if 48 ≤ byte ∧ byte ≤ 57 then some (byte.toNat - 48)
  else if 97 ≤ byte ∧ byte ≤ 102 then some (byte.toNat - 87)
  else if 65 ≤ byte ∧ byte ≤ 70 then some (byte.toNat - 55)
  else none

/-- The octet that two bytes spell. -/
def octetOfBytes? : List UInt8 → Option UInt8
  | [high, low] => do
    let h ← valueOfByte? high
    let l ← valueOfByte? low
    return UInt8.ofNat (16 * h + l)
  | _ => none

theorem octetOfBytes?_of_length_ne {bytes : List UInt8} (h : bytes.length ≠ 2) :
    octetOfBytes? bytes = none := by
  unfold octetOfBytes?
  split
  · exact absurd rfl h
  · rfl

/-- The byte of an ASCII character has the value of the character. -/
theorem valueOfByte?_of_ascii {c : Char} (h : c.toNat < 128) :
    valueOfByte? c.val.toUInt8 = value? c :=
  of_ascii h (by decide)

theorem valueOfByte?_of_le {byte : UInt8} (h : 128 ≤ byte.toNat) : valueOfByte? byte = none := by
  simp only [valueOfByte?, UInt8.le_iff_toNat_le]
  rw [if_neg, if_neg, if_neg]
  all_goals
    rintro ⟨-, hle⟩
    exact absurd (Nat.le_trans h hle) (by decide)

/-- The bytes of an ASCII character are one byte, of the same value. -/
theorem utf8EncodeChar_of_ascii {c : Char} (h : c.toNat < 128) :
    ∃ byte, String.utf8EncodeChar c = [byte] ∧ valueOfByte? byte = value? c := by
  have hsize : c.utf8Size = 1 :=
    Char.utf8Size_eq_one_iff.mpr (UInt32.le_iff_toNat_le.mpr (Nat.le_of_lt_succ h))
  exact ⟨c.val.toUInt8, String.utf8EncodeChar_eq_singleton hsize, valueOfByte?_of_ascii h⟩

/-- A character beyond ASCII takes two bytes or more. -/
theorem two_le_utf8Size {c : Char} (h : 128 ≤ c.toNat) : 2 ≤ c.utf8Size := by
  have hne : c.utf8Size ≠ 1 := fun hsize => by
    have hle : c.toNat ≤ 127 := UInt32.le_iff_toNat_le.mp (Char.utf8Size_eq_one_iff.mp hsize)
    omega
  have hpos := c.utf8Size_pos
  omega

/-- A character of two bytes begins with one that is the code of no digit. -/
theorem utf8EncodeChar_of_utf8Size_eq_two {c : Char} (h : c.utf8Size = 2) :
    ∃ high low, String.utf8EncodeChar c = [high, low] ∧ 128 ≤ high.toNat := by
  have hne : ¬ c.val.toNat ≤ 127 := fun hle => by
    have hone := Char.utf8Size_eq_one_iff.mpr (UInt32.le_iff_toNat_le.mpr hle)
    omega
  have hle : c.val.toNat ≤ 2047 := (Char.utf8Size_eq_two_iff.mp h).2
  refine ⟨UInt8.ofNat (c.val.toNat / 64 % 32 + 192), UInt8.ofNat (c.val.toNat % 64 + 128), ?_, ?_⟩
  · simp only [String.utf8EncodeChar, if_neg hne, if_pos hle]
  · rw [UInt8.toNat_ofNat_of_lt' (by simp only [UInt8.size]; omega)]
    omega

/-- One character is no octet, whatever its bytes are. -/
theorem octetOfBytes?_char (c : Char) : octetOfBytes? (String.utf8EncodeChar c) = none := by
  by_cases hsize : c.utf8Size = 2
  · obtain ⟨high, low, hbytes, hhigh⟩ := utf8EncodeChar_of_utf8Size_eq_two hsize
    rw [hbytes, octetOfBytes?, valueOfByte?_of_le hhigh]
    rfl
  · refine octetOfBytes?_of_length_ne ?_
    rwa [String.length_utf8EncodeChar]

/-- **An octet told from its bytes.**  Counting the bytes of a text in place of its characters
and looking at each of them comes to the same. -/
theorem octet?_eq_octetOfBytes? (part : List Char) :
    octet? part = octetOfBytes? (part.flatMap String.utf8EncodeChar) := by
  match part with
  | [] => rfl
  | [c] => rw [List.flatMap_singleton, octetOfBytes?_char]; rfl
  | [c, d] =>
    by_cases hascii : c.toNat < 128 ∧ d.toNat < 128
    · obtain ⟨high, hc, hhigh⟩ := utf8EncodeChar_of_ascii hascii.1
      obtain ⟨low, hd, hlow⟩ := utf8EncodeChar_of_ascii hascii.2
      simp only [List.flatMap_cons, List.flatMap_nil, hc, hd, List.cons_append, List.nil_append,
        octetOfBytes?, hhigh, hlow]
      rfl
    · -- one of the two is no digit, and there are three bytes or more
      have hcpos := c.utf8Size_pos
      have hdpos := d.utf8Size_pos
      have hnone : octet? [c, d] = none ∧ 3 ≤ c.utf8Size + d.utf8Size := by
        by_cases hc : 128 ≤ c.toNat
        · have hsize := two_le_utf8Size hc
          exact ⟨by simp [octet?, value?_of_not_ascii hc], by omega⟩
        · have hd : 128 ≤ d.toNat := by omega
          have hsize := two_le_utf8Size hd
          exact ⟨by simp [octet?, value?_of_not_ascii hd], by omega⟩
      rw [hnone.1, octetOfBytes?_of_length_ne]
      simp only [List.flatMap_cons, List.flatMap_nil, List.append_nil, List.length_append,
        String.length_utf8EncodeChar]
      omega
  | c :: d :: e :: rest =>
    have hcpos := c.utf8Size_pos
    have hdpos := d.utf8Size_pos
    have hepos := e.utf8Size_pos
    rw [octetOfBytes?_of_length_ne]
    · rfl
    · simp only [List.flatMap_cons, List.length_append, String.length_utf8EncodeChar]
      omega

theorem spells_iff_toUTF8 {text : String} {byte : UInt8} :
    Spells text byte ↔ octetOfBytes? text.toUTF8.data.toList = some byte := by
  have hbytes : text.toUTF8.data.toList = text.toList.flatMap String.utf8EncodeChar := by
    have hencode := String.toByteArray_ofList (l := text.toList)
    rw [String.ofList_toList] at hencode
    rw [String.toUTF8_eq_toByteArray, hencode, List.utf8Encode, List.data_toByteArray]
  rw [spells_iff, octet?_eq_octetOfBytes?, hbytes]

/-! ## Order -/

theorem digit_lt_digit_iff : ∀ m < 16, ∀ n < 16, digit m < digit n ↔ m < n := by
  decide

theorem digit_eq_digit_iff : ∀ m < 16, ∀ n < 16, digit m = digit n ↔ m = n := by
  decide

/-- **Texts that begin with an octet** are ordered by these octets, and then by what follows. -/
theorem octet_append_lt_iff {x y : UInt8} {s t : List Char} :
    octet x ++ s < octet y ++ t ↔ x < y ∨ x = y ∧ s < t := by
  have hx := x.toNat_lt
  have hy := y.toNat_lt
  simp only [octet, List.cons_append, List.nil_append, List.cons_lt_cons_iff]
  rw [digit_lt_digit_iff _ (by omega) _ (by omega), digit_lt_digit_iff _ (by omega) _ (by omega),
    digit_eq_digit_iff _ (by omega) _ (by omega), digit_eq_digit_iff _ (by omega) _ (by omega),
    UInt8.lt_iff_toNat_lt, ← UInt8.toNat_inj]
  -- the high half decides first, then the low half
  by_cases hst : s < t
  · simp only [hst, and_true]
    omega
  · simp only [hst, and_false, or_false]
    omega

end Hex

end NetworkSelection
