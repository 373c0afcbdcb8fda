import NetworkSelection.Json.Basic
import NetworkSelection.Text.Hex

/-!
# Reading JSON text

The reader follows the JSON grammar over a list of characters.  Every step hands
back what is left of the text.  Values nest, so the three functions for values,
items and members call each other; they share an allowance of steps, which the
entry point `Json.parse?` sets to more than any text of that length can use: no
step is repeated without a character being consumed in between.

Numbers keep their spelling's kind.  A literal with neither fraction nor
exponent is an `integer`, except `-0`, which has no integer counterpart and is
the negative zero; any other literal is the nearest `real`, and one beyond the
largest finite number is refused.
-/

namespace NetworkSelection

namespace Json

namespace Parser

/-- What is left after blanks: space, tab, line feed and carriage return. -/
def skipBlanks (cs : List Char) : List Char :=
  cs.dropWhile fun c => c = ' ' || c = '\t' || c = '\n' || c = '\r'

/-- What is left after the given literal, if the text starts with it. -/
def literal? : List Char → List Char → Option (List Char)
  | [], rest => some rest
  | l :: ls, c :: cs => if l = c then literal? ls cs else none
  | _ :: _, [] => none

/-! ## Strings -/

/-- The number spelled by exactly four hexadecimal digits. -/
def fourDigits? : List Char → Option (Nat × List Char)
  | a :: b :: c :: d :: rest => do
    let a ← Hex.value? a
    let b ← Hex.value? b
    let c ← Hex.value? c
    let d ← Hex.value? d
    return (((a * 16 + b) * 16 + c) * 16 + d, rest)
  | _ => none

/-- The character of a `\u` escape, the text standing after the `u`.  A character
outside the basic plane is spelled by two such escapes, its surrogate halves; a
half on its own names no character. -/
def codePoint? (cs : List Char) : Option (Char × List Char) := do
  let (high, rest) ← fourDigits? cs
  if 0xD800 ≤ high ∧ high < 0xDC00 then
    let rest ← literal? ['\\', 'u'] rest
    let (low, rest) ← fourDigits? rest
    guard (0xDC00 ≤ low ∧ low < 0xE000)
    return (Char.ofNat (0x10000 + (high - 0xD800) * 0x400 + (low - 0xDC00)), rest)
  else
    guard (¬(0xDC00 ≤ high ∧ high < 0xE000))
    return (Char.ofNat high, rest)

/-- The character named by an escape, the text standing after the backslash. -/
def escape? : List Char → Option (Char × List Char)
  | '"' :: rest => some ('"', rest)
  | '\\' :: rest => some ('\\', rest)
  | '/' :: rest => some ('/', rest)
  | 'b' :: rest => some ('\x08', rest)
  | 'f' :: rest => some ('\x0c', rest)
  | 'n' :: rest => some ('\n', rest)
  | 'r' :: rest => some ('\r', rest)
  | 't' :: rest => some ('\t', rest)
  | 'u' :: rest => codePoint? rest
  | _ => none

/-- The rest of a string whose opening quotation mark is consumed; `read` holds
the characters so far, last one first. -/
def string? : Nat → List Char → List Char → Option (String × List Char)
  | 0, _, _ => none
  | _ + 1, _, [] => none
  | steps + 1, read, c :: cs =>
    if c = '"' then some (String.ofList read.reverse, cs)
    else if c = '\\' then
      match escape? cs with
      | some (e, rest) => string? steps (e :: read) rest
      | none => none
    else if c.toNat < 0x20 then none
    else string? steps (c :: read) cs

/-! ## Numbers -/

/-- The number spelled by decimal digits, after the digits already read. -/
def decimal (digits : List Char) : Nat :=
  digits.foldl (fun n d => 10 * n + (d.toNat - 48)) 0

/-- A decimal digit. -/
def isDigit (c : Char) : Bool :=
  '0' ≤ c && c ≤ '9'

/-- The digits of the whole part: a lone zero, or digits that do not start with one. -/
def whole? (cs : List Char) : Option (List Char × List Char) :=
  match cs.takeWhile isDigit, cs.dropWhile isDigit with
  | [], _ => none
  | ['0'], rest => some (['0'], rest)
  | '0' :: _, _ => none
  | digits, rest => some (digits, rest)

/-- The digits of the fraction, none if there is no point. -/
def fraction? : List Char → Option (Option (List Char) × List Char)
  | '.' :: cs =>
    match cs.takeWhile isDigit, cs.dropWhile isDigit with
    | [], _ => none
    | digits, rest => some (some digits, rest)
  | cs => some (none, cs)

/-- The exponent, none if there is no exponent mark. -/
def exponent? : List Char → Option (Option Int × List Char)
  | c :: cs =>
    if c = 'e' ∨ c = 'E' then
      let (negative, cs) := match cs with
        | '-' :: cs => (true, cs)
        | '+' :: cs => (false, cs)
        | cs => (false, cs)
      match cs.takeWhile isDigit, cs.dropWhile isDigit with
      | [], _ => none
      | digits, rest =>
        let n : Int := decimal digits
        some (some (if negative then -n else n), rest)
    else some (none, c :: cs)
  | [] => some (none, [])

/-- The nearest double to `digits · 10 ^ exponent`. -/
def nearest (digits : Nat) (exponent : Int) : Float :=
  match exponent with
  | .ofNat e => Float.ofScientific digits false e
  | .negSucc e => Float.ofScientific digits true (e + 1)

/-- A number. -/
def number? (cs : List Char) : Option (Json × List Char) := do
  let (negative, cs) := match cs with
    | '-' :: cs => (true, cs)
    | cs => (false, cs)
  let (whole, cs) ← whole? cs
  let (fraction, cs) ← fraction? cs
  let (exponent, cs) ← exponent? cs
  match fraction, exponent with
  | none, none =>
    let n := decimal whole
    if negative then
      return (if n = 0 then .real (-0.0) else .integer (-n), cs)
    else
      return (.integer n, cs)
  | _, _ =>
    let digits := fraction.getD []
    let size := nearest (decimal (whole ++ digits)) (exponent.getD 0 - digits.length)
    guard size.isFinite
    return (.real (if negative then -size else size), cs)

/-! ## Values -/

mutual

/-- A value; blanks before it are skipped. -/
def value? : Nat → List Char → Option (Json × List Char)
  | 0, _ => none
  | steps + 1, cs =>
    match skipBlanks cs with
    | 'n' :: cs => (literal? ['u', 'l', 'l'] cs).map fun rest => (.null, rest)
    | 't' :: cs => (literal? ['r', 'u', 'e'] cs).map fun rest => (.bool true, rest)
    | 'f' :: cs => (literal? ['a', 'l', 's', 'e'] cs).map fun rest => (.bool false, rest)
    | '"' :: cs => (string? steps [] cs).map fun (s, rest) => (.text s, rest)
    | '[' :: cs =>
      match skipBlanks cs with
      | ']' :: rest => some (.list [], rest)
      | cs => (items? steps cs).map fun (items, rest) => (.list items, rest)
    | '\x7b' :: cs =>
      match skipBlanks cs with
      | '\x7d' :: rest => some (.object [], rest)
      | cs => (members? steps [] cs).map fun (members, rest) => (.object members, rest)
    | cs => number? cs

/-- The items of a list that has at least one, up to its closing bracket. -/
def items? : Nat → List Char → Option (List Json × List Char)
  | 0, _ => none
  | steps + 1, cs => do
    let (item, cs) ← value? steps cs
    match skipBlanks cs with
    | ',' :: cs => (items? steps cs).map fun (items, rest) => (item :: items, rest)
    | ']' :: rest => some ([item], rest)
    | _ => none

/-- The members of an object that has at least one, up to its closing brace; a
repeated name keeps its last value. -/
def members? : Nat → List (String × Json) → List Char →
    Option (List (String × Json) × List Char)
  | 0, _, _ => none
  | steps + 1, read, cs =>
    match skipBlanks cs with
    | '"' :: cs => do
      let (name, cs) ← string? steps [] cs
      match skipBlanks cs with
      | ':' :: cs =>
        let (value, cs) ← value? steps cs
        match skipBlanks cs with
        | ',' :: cs => members? steps (setMember name value read) cs
        | '\x7d' :: rest => some (setMember name value read, rest)
        | _ => none
      | _ => none
    | _ => none

end

end Parser

/-- The value that the whole text spells, blanks around it allowed. -/
def parse? (text : String) : Option Json := do
  let cs := text.toList
  let (value, rest) ← Parser.value? (2 * cs.length + 2) cs
  guard (Parser.skipBlanks rest).isEmpty
  return value

end Json

end NetworkSelection
