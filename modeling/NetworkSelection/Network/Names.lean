/-!
# What networks and nominators are called

A network is advertised under an SSID and saved under a network id.  Several
nominators may propose the same access point; each has an id, and a lower id
outranks a higher one.
-/

namespace NetworkSelection

/-! ## SSIDs -/

/-- The name a network advertises.  SSIDs are compared and ordered by code point,
without any normalization. -/
structure Ssid where
  name : String
  deriving DecidableEq

namespace Ssid

instance : Ord Ssid where
  compare s t := compare s.name t.name

instance : Std.TransOrd Ssid :=
  inferInstanceAs (Std.TransCmp (compareOn Ssid.name))

instance : Std.LawfulEqOrd Ssid where
  eq_of_compare {s t} h := by
    have : s.name = t.name := Std.LawfulEqOrd.eq_of_compare h
    cases s; cases t; simpa using this

/-- An SSID is shown between plain quotation marks, whatever it contains. -/
instance : ToString Ssid where
  toString s := "\"" ++ s.name ++ "\""

end Ssid

/-! ## Network ids -/

/-- The id of a saved network.  A negative id stands for no configuration. -/
structure NetworkId where
  id : Int32
  deriving DecidableEq

namespace NetworkId

/-- The id that says "not associated with any configuration". -/
def invalid : NetworkId := ⟨-1⟩

instance : Inhabited NetworkId := ⟨invalid⟩

/-- Whether the id belongs to a configuration. -/
def isValid (n : NetworkId) : Bool :=
  0 ≤ n.id

instance : Ord NetworkId where
  compare m n := compare m.id n.id

instance : Std.TransOrd NetworkId :=
  inferInstanceAs (Std.TransCmp (compareOn NetworkId.id))

instance : Std.LawfulEqOrd NetworkId where
  eq_of_compare {m n} h := by
    have : m.id = n.id := Std.LawfulEqOrd.eq_of_compare h
    cases m; cases n; simpa using this

instance : ToString NetworkId where
  toString n := Int.repr n.id.toInt

end NetworkId

/-! ## Nominators -/

/-- Who proposes a candidate.  Of two nominators that report the same candidate
the one with the lower rank prevails. -/
structure Nominator where
  rank : UInt8
  deriving DecidableEq

namespace Nominator

/-- Saved networks, the highest priority. -/
def saved : Nominator := ⟨0⟩

instance : Inhabited Nominator := ⟨saved⟩

/-- Whether `m` has a strictly lower priority than `n`. -/
def outrankedBy (m n : Nominator) : Bool :=
  n.rank < m.rank

instance : ToString Nominator where
  toString n := Nat.repr n.rank.toNat

end Nominator

end NetworkSelection
