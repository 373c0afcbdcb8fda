import NetworkSelection.Json.Basic
import NetworkSelection.Text.Hex

/-!
# Writing JSON text

Text is written without blanks.  A real number is written as a string: `0x` and
the sixteen hexadecimal digits of its double, so that no digit of a sum or a
score is lost on the way; all the values that are not numbers are the one text
`nan`.
-/

namespace NetworkSelection

namespace Json

/-- The eight octets of a word, the highest first. -/
def octets (word : UInt64) : List UInt8 :=
  [56, 48, 40, 32, 24, 16, 8, 0].map fun (shift : UInt64) => (word >>> shift).toUInt8

/-- The exact text of a double. -/
def exactText (x : Float) : String :=
  if x.isNaN then "nan"
  else String.ofList ('0' :: 'x' :: (octets x.toBits).flatMap Hex.octet)

/-- How one character is spelled in a JSON string. -/
def spell (c : Char) : List Char :=
  if c = '"' then ['\\', '"']
  else if c = '\\' then ['\\', '\\']
  else if c.toNat < 0x20 then
    ['\\', 'u', '0', '0', Hex.digit (c.toNat / 16), Hex.digit (c.toNat % 16)]
  else [c]

/-- A JSON string. -/
def stringText (s : String) : String :=
  String.ofList ('"' :: s.toList.flatMap spell ++ ['"'])

mutual

/-- The text of a value. -/
def render : Json → String
  | .null => "null"
  | .bool true => "true"
  | .bool false => "false"
  | .integer n => Int.repr n
  | .real x => stringText (exactText x)
  | .text s => stringText s
  | .list items => "[" ++ ",".intercalate (renderItems items) ++ "]"
  | .object members => "\x7b" ++ ",".intercalate (renderMembers members) ++ "\x7d"

/-- The texts of the items of a list. -/
def renderItems : List Json → List String
  | [] => []
  | item :: rest => render item :: renderItems rest

/-- The texts of the members of an object. -/
def renderMembers : List (String × Json) → List String
  | [] => []
  | (name, value) :: rest =>
    (stringText name ++ ":" ++ render value) :: renderMembers rest

end

end Json

end NetworkSelection
