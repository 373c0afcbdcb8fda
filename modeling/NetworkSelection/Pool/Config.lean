import NetworkSelection.ScoreCard

/-!
# How a pool behaves

The settings of a pool.  A lenient pool takes in what it can and keeps its faults
to itself; a strict one hands each of them back.
-/

namespace NetworkSelection

/-- The settings of a pool. -/
structure PoolConfig where
  /-- Faults are handed back to the caller and not only recorded. -/
  picky : Bool := false
  /-- The availability, in percent, of an access point without history, as it was set. -/
  defaultAvailability : UInt8 := 50
  /-- How many access points of one network to expect. -/
  expectedLinks : Nat := 2
  deriving DecidableEq

namespace PoolConfig

/-- Takes in what it can. -/
def lenient : PoolConfig := {}

/-- Hands back every fault. -/
def strict : PoolConfig := { lenient with picky := true }

/-- The availability of an access point without history, cut off at one hundred
percent. -/
def availability (config : PoolConfig) : UInt8 :=
  min config.defaultAvailability fullAvailability

end PoolConfig

end NetworkSelection
