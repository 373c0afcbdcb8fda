import NetworkSelection.Json.Basic

/-!
# Types with a JSON form

A type with a `JsonCodec` has one written form and may have several readable
ones.  A structure is written as an object with all its fields; it is read from
an object in which fields with a default may be missing, members of other names
are ignored and the order is free, or from the list of its fields in their
order, where fields with a default may be missing at the end.  An enumeration is
written as its name and read from the name, or from an object whose only member
has that name and the value `null`.

Reading answers `none` for anything else.  Integers are range-checked and never
read from a `real`; a floating-point field reads either kind of number.
-/

namespace NetworkSelection

/-- A written form and a reader. -/
class JsonCodec (α : Type) where
  /-- The written form. -/
  toJson : α → Json
  /-- The value that a JSON value denotes, if it denotes one. -/
  ofJson? : Json → Option α

export JsonCodec (toJson ofJson?)

namespace Json

/-! ## Scalars -/

/-- The integer of an `integer` value that lies between the bounds. -/
def integerIn? (least greatest : Int) : Json → Option Int
  | .integer n => if least ≤ n ∧ n ≤ greatest then some n else none
  | _ => none

/-- The nearest double to an integer. -/
def nearestReal : Int → Float
  | .ofNat n => Float.ofNat n
  | .negSucc n => -Float.ofNat (n + 1)

/-- A measurement or score: a number of either kind, or one of the texts `nan`,
`inf` and `-inf` for the doubles that have no literal. -/
def extendedReal? : Json → Option Float
  | .integer n => some (nearestReal n)
  | .real x => some x
  | .text "nan" => some (0.0 / 0.0)
  | .text "inf" => some (1.0 / 0.0)
  | .text "-inf" => some (-1.0 / 0.0)
  | _ => none

end Json

instance : JsonCodec Bool where
  toJson := .bool
  ofJson?
    | .bool b => some b
    | _ => none

instance : JsonCodec String where
  toJson := .text
  ofJson?
    | .text s => some s
    | _ => none

instance : JsonCodec UInt8 where
  toJson n := .integer n.toNat
  ofJson? j := (j.integerIn? 0 255).map fun n => UInt8.ofNat n.toNat

instance : JsonCodec UInt16 where
  toJson n := .integer n.toNat
  ofJson? j := (j.integerIn? 0 65535).map fun n => UInt16.ofNat n.toNat

instance : JsonCodec UInt32 where
  toJson n := .integer n.toNat
  ofJson? j := (j.integerIn? 0 4294967295).map fun n => UInt32.ofNat n.toNat

instance : JsonCodec UInt64 where
  toJson n := .integer n.toNat
  ofJson? j := (j.integerIn? 0 18446744073709551615).map fun n => UInt64.ofNat n.toNat

instance : JsonCodec Int32 where
  toJson n := .integer n.toInt
  ofJson? j := (j.integerIn? (-2147483648) 2147483647).map Int32.ofInt

/-- A number read as a double; the texts of `Json.extendedReal?` are not taken. -/
instance : JsonCodec Float where
  toJson := .real
  ofJson?
    | .integer n => some (Json.nearestReal n)
    | .real x => some x
    | _ => none

/-! ## Compound values -/

/-- Absence is `null`. -/
instance {α : Type} [JsonCodec α] : JsonCodec (Option α) where
  toJson
    | none => .null
    | some a => toJson a
  ofJson?
    | .null => some none
    | j => (ofJson? j).map some

instance {α : Type} [JsonCodec α] : JsonCodec (List α) where
  toJson items := .list (items.map toJson)
  ofJson?
    | .list items => items.mapM ofJson?
    | _ => none

namespace Json

/-- The fields of a structure in the order of their names, each with its value if
one is given: from an object by name, from a list by position.  A list with more
items than there are fields denotes nothing. -/
def fields? (names : List String) : Json → Option (List (Option Json))
  | .object members => some (names.map fun name => members.lookup name)
  | .list items =>
    if items.length ≤ names.length then
      some (items.map some ++ List.replicate (names.length - items.length) none)
    else none
  | _ => none

/-- A field that has to be given. -/
def required? {α : Type} [JsonCodec α] : Option Json → Option α
  | some j => ofJson? j
  | none => none

/-- A field that has a default. -/
def fieldD? {α : Type} [JsonCodec α] (fallback : α) : Option Json → Option α
  | some j => ofJson? j
  | none => some fallback

/-- The value of an enumeration that a name, or an object with that name and
`null`, denotes. -/
def named? {α : Type} (ofName? : String → Option α) : Json → Option α
  | .text name => ofName? name
  | .object [(name, .null)] => ofName? name
  | _ => none

end Json

end NetworkSelection
