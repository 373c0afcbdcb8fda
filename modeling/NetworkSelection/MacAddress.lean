import NetworkSelection.Text.Hex
import NetworkSelection.Text.Quoted

/-!
# MAC addresses

A MAC address is six octets.  It names a radio (then it is called a BSSID) or a
multi-link access point as a whole.  Its text is the six octets in hexadecimal
with colons between them, lower case when written, either case when read.
Addresses are ordered octet by octet, which is also the order of their texts.

Reading says why it fails.  The three reasons are tried in a fixed order: text
that is empty, a wrong number of parts between colons, and then the first part
that is not exactly two hexadecimal digits.
-/

namespace NetworkSelection

/-- A MAC address, its octets in the order they are written. -/
structure MacAddress where
  a : UInt8
  b : UInt8
  c : UInt8
  d : UInt8
  e : UInt8
  f : UInt8
  deriving DecidableEq

namespace MacAddress

/-- The six octets in the order they are written. -/
def octets (m : MacAddress) : List UInt8 :=
  [m.a, m.b, m.c, m.d, m.e, m.f]

/-- The address made of six octets. -/
def ofOctets? : List UInt8 → Option MacAddress
  | [a, b, c, d, e, f] => some ⟨a, b, c, d, e, f⟩
  | _ => none

/-- The address whose octets are all zero. -/
def zero : MacAddress := ⟨0, 0, 0, 0, 0, 0⟩

@[simp] theorem ofOctets?_octets (m : MacAddress) : ofOctets? m.octets = some m := rfl

/-- An address is its octets. -/
theorem octets_injective {m n : MacAddress} (h : m.octets = n.octets) : m = n := by
  have := congrArg ofOctets? h
  simpa using this

/-! ## Order -/

instance : Ord MacAddress where
  compare m n := compare m.octets n.octets

instance : Std.TransOrd MacAddress :=
  inferInstanceAs (Std.TransCmp (compareOn octets))

instance : Std.LawfulEqOrd MacAddress where
  eq_of_compare h := octets_injective (Std.LawfulEqOrd.eq_of_compare h)

/-! ## Text -/

/-- The written form: the octets in lower-case hexadecimal, colons between them. -/
def toChars (m : MacAddress) : List Char :=
  [':'].intercalate (m.octets.map Hex.octet)

instance : ToString MacAddress where
  toString m := String.ofList m.toChars

/-- Why a text is no MAC address. -/
inductive ParseError where
  /-- The text is empty. -/
  | empty
  /-- The colons make some number of parts other than six. -/
  | wrongOctetCount (parts : Nat)
  /-- This part is not exactly two hexadecimal digits. -/
  | invalidOctet (part : String)
  deriving DecidableEq

/-- The octet that one part of the text spells. -/
def octetOf (part : List Char) : Except ParseError UInt8 :=
  match Hex.octet? part with
  | some byte => .ok byte
  | none => .error (.invalidOctet (String.ofList part))

/-- The address a text denotes, or the first reason why it denotes none. -/
def parse (s : String) : Except ParseError MacAddress :=
  if s.isEmpty then .error .empty
  else
    match s.toList.splitOn ':' with
    | [a, b, c, d, e, f] => do
      let a ← octetOf a
      let b ← octetOf b
      let c ← octetOf c
      let d ← octetOf d
      let e ← octetOf e
      let f ← octetOf f
      return ⟨a, b, c, d, e, f⟩
    | parts => .error (.wrongOctetCount parts.length)

/-- What is said about a text that is no MAC address. -/
def ParseError.message : ParseError → String
  | .empty => "empty MAC address"
  | .wrongOctetCount n => "expected 6 octets, got " ++ Nat.repr n
  | .invalidOctet part => "invalid octet: " ++ Text.quoted part

end MacAddress

end NetworkSelection
