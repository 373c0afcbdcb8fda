/-!
# JSON values

Scan results, configurations and statistics travel as JSON.  The one thing this
type keeps that a plain value tree would lose is how a number was spelled: a
literal without fraction and exponent is an `integer`, of any size, and every
other literal is a `real`.  Counters and ids accept only the first kind, so `7`
is a network id and `7.0` is not.

An object is the list of its members in the order they were written.  The name
of a member occurs once; `setMember` is how a repeated name is resolved.
-/

namespace NetworkSelection

/-- A JSON value. -/
inductive Json where
  | null
  | bool (value : Bool)
  | integer (value : Int)
  | real (value : Float)
  | text (value : String)
  | list (items : List Json)
  | object (members : List (String × Json))

namespace Json

/-- The members with `name` set to `value`: in place if the name is there already,
at the end otherwise. -/
def setMember (name : String) (value : Json) : List (String × Json) → List (String × Json)
  | [] => [(name, value)]
  | (n, v) :: rest =>
    if n = name then (n, value) :: rest else (n, v) :: setMember name value rest

/-- The member of that name, for an object that has one. -/
def member? (name : String) : Json → Option Json
  | .object members => members.lookup name
  | _ => none

/-- The member last set is the one found. -/
theorem lookup_setMember (name : String) (value : Json) (members : List (String × Json)) :
    (setMember name value members).lookup name = some value := by
  induction members with
  | nil => simp [setMember]
  | cons entry rest ih =>
    obtain ⟨n, v⟩ := entry
    by_cases h : n = name
    · simp [setMember, h]
    · have h' : (name == n) = false := by simpa using fun e => h e.symm
      simp [setMember, h, List.lookup_cons, h', ih]

end Json

end NetworkSelection
