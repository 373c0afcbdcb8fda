import NetworkSelection.LogEvent
import NetworkSelection.Signal.Statistics

/-!
# Score cards

A score card keeps what is known about access points from earlier connections.
It outlives the pools that consult it, and several pools share one.  A pool asks
it for an access point and gets a *handle*, or nothing if the card keeps no
history there; through the handle it notes how the access point was nominated and
reads estimates.

Since a pool does not own the history, the history is a value of its own, of a
type `σ`, that is handed to every operation and comes back changed.  A handle, of
a type `η`, is only a reference into it: what a handle answers depends on the
history at the moment of asking, and this is why old candidates see new
statistics.  What handles do is a matter of their type (`BssidHandle`), while a
card decides which handles are given out.
-/

namespace NetworkSelection

/-- An access point as history knows it. -/
structure AccessPoint where
  ssid : Ssid
  bssid : MacAddress
  deriving DecidableEq

namespace AccessPoint

/-- Access points are ordered by SSID, then by BSSID. -/
def order : AccessPoint → AccessPoint → Ordering :=
  compareLex (compareOn (·.ssid)) (compareOn (·.bssid))

instance : Ord AccessPoint := ⟨order⟩

instance : Std.TransOrd AccessPoint :=
  inferInstanceAs (Std.TransCmp (compareLex _ _))

instance : Std.LawfulEqOrd AccessPoint where
  eq_of_compare {k l} h := by
    have h : order k l = .eq := h
    simp only [order, compareLex_eq_eq, compareOn, Std.LawfulEqCmp.compare_eq_iff_eq] at h
    cases k; cases l; simp_all

end AccessPoint

/-- The access point that a key is about. -/
def Key.accessPoint (key : Key) : AccessPoint :=
  ⟨key.network.ssid, key.bssid⟩

/-- What can be done through a handle of type `η` to a history of type `σ`. -/
class BssidHandle (η : Type) (σ : outParam Type) where
  /-- Notes the security type and configuration of the latest nomination. -/
  annotate : η → Security → NetworkId → σ → σ
  /-- The estimated chance, in percent, that a connection gives internet access. -/
  availability : η → σ → UInt8
  /-- The statistics of an event on a frequency, if it was ever observed there. -/
  signal? : η → ConnectionEvent → UInt32 → σ → Option SignalStats

/-- The answer of a score card that was asked for an access point. -/
structure Lookup (σ η : Type) where
  handle : Option η
  history : σ
  events : List LogEvent := []

/-- A score card: what it answers when asked for an access point. -/
structure ScoreCard (σ η : Type) where
  lookup : AccessPoint → σ → Lookup σ η

namespace ScoreCard

variable {σ η : Type}

/-- The card that keeps no history. -/
def blank : ScoreCard σ η where
  lookup _ history := { handle := none, history }

/-- The card that gives out one and the same handle for every access point. -/
def constant (handle : η) : ScoreCard σ η where
  lookup _ history := { handle := some handle, history }

end ScoreCard

/-- The largest estimate of internet availability, in percent. -/
def fullAvailability : UInt8 := 100

end NetworkSelection
