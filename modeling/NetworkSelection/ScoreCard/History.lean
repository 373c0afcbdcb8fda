import Std.Data.ExtTreeMap
import NetworkSelection.ScoreCard

/-!
# The history of connections

The score card that is used in earnest: for every access point it has been asked
about it keeps the latest annotation and, for each event on each frequency, the
statistics of the samples taken.

## Internet availability

The estimate follows the rule of succession.  An access point starts with one
success in two trials; every completed IP configuration is a trial and every
validated connection a success.  An access point that was never used is therefore
estimated at fifty percent.  Roaming can validate a connection without configuring
it anew, so there may be more successes than trials, and the estimate is cut off at
one hundred.
-/

namespace NetworkSelection

/-- One event on one frequency: what statistics are kept for. -/
structure SignalSource where
  event : ConnectionEvent
  /-- Center frequency in MHz. -/
  frequency : UInt32
  deriving DecidableEq

namespace SignalSource

/-- Sources are ordered by event, then by frequency. -/
def order : SignalSource → SignalSource → Ordering :=
  compareLex (compareOn (·.event)) (compareOn (·.frequency))

instance : Ord SignalSource := ⟨order⟩

instance : Std.TransOrd SignalSource :=
  inferInstanceAs (Std.TransCmp (compareLex _ _))

instance : Std.LawfulEqOrd SignalSource where
  eq_of_compare {k l} h := by
    have h : order k l = .eq := h
    simp only [order, compareLex_eq_eq, compareOn, Std.LawfulEqCmp.compare_eq_iff_eq] at h
    cases k; cases l; simp_all

end SignalSource

/-- What is known about one access point. -/
structure BssidHistory where
  /-- The security type of the latest nomination. -/
  security : Option Security := none
  /-- The configuration of the latest nomination. -/
  id : Option NetworkId := none
  signals : Std.ExtTreeMap SignalSource SignalStats := ∅

namespace BssidHistory

/-- What is known after one more observation. -/
def observe (source : SignalSource) (sample : SignalSample) (known : BssidHistory) :
    BssidHistory :=
  let before := known.signals[source]?.getD { event := source.event, frequency := source.frequency }
  { known with signals := known.signals.insert source (before.update sample) }

/-- How often an event was observed, on whatever frequency. -/
def observed (event : ConnectionEvent) (known : BssidHistory) : UInt64 :=
  known.signals.toList.foldl
    (fun n entry => if entry.1.event = event then n + entry.2.elapsed.count else n) 0

/-- The rounded percentage of successes in trials, at most one hundred. -/
def percent (successes trials : UInt64) : UInt8 :=
  let share := (successes.toFloat * 100 / trials.toFloat).round
  if share < 0 then 0
  else if fullAvailability.toFloat < share then fullAvailability
  else share.toUInt8

/-- The estimated chance, in percent, that a connection gives internet access. -/
def availability (known : BssidHistory) : UInt8 :=
  percent (1 + known.observed .validated) (2 + known.observed .ipConfigured)

/-- The statistics of every event observed, by event and then by frequency. -/
def statistics (known : BssidHistory) : List SignalStats :=
  known.signals.toList.map (·.2)

end BssidHistory

/-- What is known about one access point, written out. -/
structure BssidSnapshot where
  ssid : Ssid
  bssid : MacAddress
  security : Option Security
  id : Option NetworkId
  /-- The statistics by event and then by frequency. -/
  signals : List SignalStats
  deriving DecidableEq

/-- What is known about an access point, written out. -/
def BssidHistory.snapshot (ap : AccessPoint) (known : BssidHistory) : BssidSnapshot where
  ssid := ap.ssid
  bssid := ap.bssid
  security := known.security
  id := known.id
  signals := known.statistics

/-- What is known about every access point that was ever asked for. -/
structure History where
  accessPoints : Std.ExtTreeMap AccessPoint BssidHistory := ∅

namespace History

/-- What is known about an access point, if it was ever asked for. -/
def get? (ap : AccessPoint) (history : History) : Option BssidHistory :=
  history.accessPoints[ap]?

/-- What is known about an access point; nothing, if it was never asked for. -/
def known (ap : AccessPoint) (history : History) : BssidHistory :=
  (history.get? ap).getD {}

/-- The history with what is known about one access point changed. -/
def modify (ap : AccessPoint) (change : BssidHistory → BssidHistory) (history : History) :
    History :=
  ⟨history.accessPoints.insert ap (change (history.known ap))⟩

/-- Asking for an access point begins its history if there is none. -/
def touch (ap : AccessPoint) (history : History) : History × List LogEvent :=
  match history.get? ap with
  | some _ => (history, [])
  | none => (history.modify ap id, [.historyBegun ap.ssid ap.bssid])

/-- The history after one more observation at an access point. -/
def observe (ap : AccessPoint) (source : SignalSource) (sample : SignalSample)
    (history : History) : History × List LogEvent :=
  let (history, events) := history.touch ap
  (history.modify ap (·.observe source sample), events)

/-- How many access points there is history for. -/
def size (history : History) : Nat :=
  history.accessPoints.size

/-- All that is known, by access point in ascending order. -/
def snapshot (history : History) : List BssidSnapshot :=
  history.accessPoints.toList.map fun (ap, known) => known.snapshot ap

@[simp] theorem get?_modify_self (ap : AccessPoint) (change : BssidHistory → BssidHistory)
    (history : History) :
    (history.modify ap change).get? ap = some (change (history.known ap)) := by
  simp [modify, get?]

theorem get?_modify_of_ne {ap other : AccessPoint} (change : BssidHistory → BssidHistory)
    (history : History) (h : other ≠ ap) :
    (history.modify ap change).get? other = history.get? other := by
  simp [modify, get?, Std.ExtTreeMap.getElem?_insert, h.symm]

end History

/-! ## Handles -/

/-- What a card over this history gives out: a reference to an access point's
history, or a fixed estimate behind which there is no history at all. -/
inductive Handle where
  | tracked (ap : AccessPoint)
  | fixed (availability : UInt8)
  deriving DecidableEq

instance : BssidHandle Handle History where
  annotate
    | .tracked ap, security, id, history =>
      history.modify ap fun known => { known with security := some security, id := some id }
    | .fixed _, _, _, history => history
  availability
    | .tracked ap, history => (history.known ap).availability
    | .fixed n, _ => n
  signal?
    | .tracked ap, event, frequency, history =>
      (history.known ap).signals[SignalSource.mk event frequency]?
    | .fixed _, _, _, _ => none

/-- The card that gives out references into the history, beginning it where there
is none. -/
def History.card : ScoreCard History Handle where
  lookup ap history :=
    let (history, events) := history.touch ap
    { handle := some (.tracked ap), history, events }

end NetworkSelection
