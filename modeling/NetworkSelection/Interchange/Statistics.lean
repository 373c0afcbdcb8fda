import NetworkSelection.Interchange.Ingestion
import NetworkSelection.ScoreCard.History

/-!
# JSON forms of statistics

The summaries of the score card, which can be written out, kept and read again.  An
access point that was never nominated has no annotation, and the two fields for it may
be missing.
-/

namespace NetworkSelection

open Json (required? fieldD? fields?)

/-- The figures of a summary, each with its name. -/
def SampleStats.figures (stats : SampleStats) : List (String × Json) :=
  [("count", toJson stats.count),
    ("sum", toJson stats.sum),
    ("sum_of_squares", toJson stats.sumOfSquares),
    ("min", toJson stats.min),
    ("max", toJson stats.max)]

instance : JsonCodec SampleStats where
  toJson stats := .object stats.figures
  ofJson? j := do
    let [count, sum, sumOfSquares, min, max] ←
      fields? ["count", "sum", "sum_of_squares", "min", "max"] j | none
    return {
      count := ← required? count
      sum := ← required? sum
      sumOfSquares := ← required? sumOfSquares
      min := ← required? min
      max := ← required? max }

instance : JsonCodec SignalStats where
  toJson stats := .object
    [("event", toJson stats.event),
      ("frequency", toJson stats.frequency),
      ("rssi", toJson stats.rssi),
      ("link_speed", toJson stats.linkSpeed),
      ("elapsed_ms", toJson stats.elapsed)]
  ofJson? j := do
    let [event, frequency, rssi, linkSpeed, elapsed] ←
      fields? ["event", "frequency", "rssi", "link_speed", "elapsed_ms"] j | none
    return {
      event := ← required? event
      frequency := ← required? frequency
      rssi := ← required? rssi
      linkSpeed := ← required? linkSpeed
      elapsed := ← required? elapsed }

instance : JsonCodec BssidSnapshot where
  toJson snapshot := .object
    [("ssid", toJson snapshot.ssid),
      ("bssid", toJson snapshot.bssid),
      ("security_type", toJson snapshot.security),
      ("network_id", toJson snapshot.id),
      ("signals", toJson snapshot.signals)]
  ofJson? j := do
    let [ssid, bssid, security, id, signals] ←
      fields? ["ssid", "bssid", "security_type", "network_id", "signals"] j | none
    return {
      ssid := ← required? ssid
      bssid := ← required? bssid
      security := ← fieldD? none security
      id := ← fieldD? none id
      signals := ← required? signals }

end NetworkSelection
