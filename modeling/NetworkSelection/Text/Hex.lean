/-!
# Hexadecimal octets

An octet is written as two hexadecimal digits, the high half first.  Writing
uses lower-case letters; reading takes letters of either case and ASCII digits
only.
-/

namespace NetworkSelection

namespace Hex

/-- The digit for a value below sixteen. -/
def digit (n : Nat) : Char :=
  if n < 10 then Char.ofNat (n + 48) else Char.ofNat (n + 87)

/-- The value of a hexadecimal digit of either case. -/
def value? (c : Char) : Option Nat :=
  if '0' ≤ c ∧ c ≤ '9' then some (c.toNat - 48)
  else if 'a' ≤ c ∧ c ≤ 'f' then some (c.toNat - 87)
  else if 'A' ≤ c ∧ c ≤ 'F' then some (c.toNat - 55)
  else none

/-- A digit reads back as its value. -/
theorem value?_digit {n : Nat} (h : n < 16) : value? (digit n) = some n := by
  revert n; decide

/-- An octet as two digits, the high half first. -/
def octet (byte : UInt8) : List Char :=
  [digit (byte.toNat / 16), digit (byte.toNat % 16)]

/-- The octet that two digits spell; nothing for text of any other shape. -/
def octet? : List Char → Option UInt8
  | [high, low] => do
    let h ← value? high
    let l ← value? low
    return UInt8.ofNat (16 * h + l)
  | _ => none

/-- An octet reads back from its two digits. -/
theorem octet?_octet (byte : UInt8) : octet? (octet byte) = some byte := by
  have hlt : byte.toNat < 256 := byte.toNat_lt
  have hh := value?_digit (n := byte.toNat / 16) (by omega)
  have hl := value?_digit (n := byte.toNat % 16) (by omega)
  simp only [octet, octet?, hh, hl, Option.bind_eq_bind, Option.bind_some, Option.pure_def]
  rw [Nat.div_add_mod, UInt8.ofNat_toNat]

end Hex

end NetworkSelection
