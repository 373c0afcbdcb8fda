import NetworkSelection.Signal.Event

/-!
# Signal statistics

A stream of measurements is summarised by how many there were, their sum, the sum
of their squares, and their extremes.  The summary is a left fold: floating-point
sums depend on the order of the measurements, and this order is the one in which
they were taken.  A measurement that is not a number spoils the sums but never
displaces an extreme that is one.

What is kept for one event on one frequency is three such summaries, one for each
quantity that a sample measures.
-/

namespace NetworkSelection

/-- The summary of a stream of measurements. -/
structure SampleStats where
  count : UInt64 := 0
  sum : Float := 0
  sumOfSquares : Float := 0
  min : Float := 0
  max : Float := 0
  deriving DecidableEq

namespace SampleStats

/-- The lesser of two measurements.  One that is not a number is passed over; of
two equal ones, which only the sign of a zero can tell apart, the second is taken. -/
def lesser (x y : Float) : Float :=
  if y.isNaN then x else if x < y then x else y

/-- The greater of two measurements.  One that is not a number is passed over; of
two equal ones, which only the sign of a zero can tell apart, the second is taken. -/
def greater (x y : Float) : Float :=
  if y.isNaN then x else if y < x then x else y

/-- The summary after one more measurement.  The first one is both extremes. -/
def update (stats : SampleStats) (value : Float) : SampleStats where
  count := stats.count + 1
  sum := stats.sum + value
  sumOfSquares := stats.sumOfSquares + value * value
  min := if stats.count = 0 then value else lesser stats.min value
  max := if stats.count = 0 then value else greater stats.max value

/-- The summaries of a growing stream: the one it starts from, then the one after each
measurement. -/
def trace (samples : List Float) (stats : SampleStats := {}) : List SampleStats :=
  match samples with
  | [] => [stats]
  | x :: rest => stats :: trace rest (stats.update x)

/-- The mean, if there was any measurement. -/
def mean (stats : SampleStats) : Option Float :=
  if stats.count = 0 then none else some (stats.sum / stats.count.toFloat)

/-- Each measurement counts once. -/
@[simp] theorem count_update (stats : SampleStats) (value : Float) :
    (stats.update value).count = stats.count + 1 := rfl

end SampleStats

/-- What is measured when an event is observed. -/
structure SignalSample where
  /-- Signal strength in dBm. -/
  rssi : Int32
  linkSpeed : UInt32
  /-- Milliseconds since the connection attempt began. -/
  elapsed : UInt64
  deriving DecidableEq

/-- What is kept for one event on one frequency. -/
structure SignalStats where
  event : ConnectionEvent
  /-- Center frequency in MHz. -/
  frequency : UInt32
  rssi : SampleStats := {}
  linkSpeed : SampleStats := {}
  elapsed : SampleStats := {}
  deriving DecidableEq

namespace SignalStats

/-- The statistics after one more sample. -/
def update (stats : SignalStats) (sample : SignalSample) : SignalStats :=
  { stats with
    rssi := stats.rssi.update (Float.ofInt sample.rssi.toInt)
    linkSpeed := stats.linkSpeed.update sample.linkSpeed.toFloat
    elapsed := stats.elapsed.update sample.elapsed.toFloat }

end SignalStats

end NetworkSelection
