import NetworkSelection.Candidate.Basic
import NetworkSelection.Text.Thousandths

/-!
# Describing a candidate

The one-line text of a candidate, for logs and for people.  The figures come
first, each with its name; then, one word each, the traits that the candidate
has.  A weight of zero is not mentioned, any other is rounded to thousandths with
halves going up.
-/

namespace NetworkSelection

namespace Candidate

variable {η : Type}

/-- The figures that every description opens with. -/
def figures (c : Candidate η) : List (String × String) :=
  [("config", toString c.key.id),
    ("bssid", toString c.key.bssid),
    ("freq", Nat.repr c.frequency.toNat),
    ("channelWidth", toString c.width),
    ("rssi", Int.repr c.rssi.toInt),
    ("Mbps", Nat.repr c.mbps.toNat),
    ("nominator", toString c.nominator),
    ("pInternet", Nat.repr c.availability.toNat),
    ("numRebootsSinceLastUse", Nat.repr c.rebootsSinceUse.toNat)]

/-- The weight rounded to thousandths, unless it is zero. -/
def weightFigure (c : Candidate η) : List (String × String) :=
  if c.weight == 0 then []
  else [("lastSelectionWeight", Text.thousandths (c.weight * 1000).round.toUInt64.toNat)]

/-- The words of the traits that the candidate has, in the order they are written. -/
def traits (c : Candidate η) : List String :=
  [(c.currentBssid, "connected"),
    (c.currentNetwork, "current"),
    (c.ephemeral, "ephemeral"),
    (!c.ephemeral, "saved"),
    (c.trusted, "trusted"),
    (c.restricted, "restricted"),
    (c.oemPaid, "oemPaid"),
    (c.oemPrivate, "oemPrivate"),
    (c.privileged, "priv"),
    (c.metered, "metered"),
    (c.noInternet, "noInternet"),
    (c.noInternetExpected, "noInternetExpected"),
    (c.passpoint, "passpoint"),
    (c.isOpen, "open"),
    (!c.isOpen, "secure")].filterMap fun (has, word) => if has then some word else none

/-- The one-line text of a candidate. -/
def describe (c : Candidate η) : String :=
  let figures := (c.figures ++ c.weightFigure).map fun (name, value) => name ++ " = " ++ value
  "Candidate \x7b " ++ ", ".intercalate (figures ++ c.traits) ++ " \x7d"

instance : ToString (Candidate η) := ⟨describe⟩

end Candidate

end NetworkSelection
