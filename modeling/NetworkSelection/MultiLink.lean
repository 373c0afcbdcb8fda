import NetworkSelection.Candidate.Basic

/-!
# Multi-link access points

The links of a multi-link access point can be used at the same time, so the group
as a whole has a throughput that none of its links has alone.  At most one link on
each band is active at a time; the joint throughput is therefore the sum, over the
bands, of the best prediction on that band.  The sum stops at the largest word.
-/

namespace NetworkSelection

namespace MultiLink

variable {η : Type}

/-- The best prediction among the links on a band, zero if there is none. -/
def bestOn (band : Band) (links : List (Candidate η)) : UInt32 :=
  links.foldl (fun best c => if Band.ofFrequency c.frequency = band then max best c.mbps else best) 0

/-- The sum of two words, or the largest word if there is no such word. -/
def addSaturating (x y : UInt32) : UInt32 :=
  UInt32.ofNat (min (x.toNat + y.toNat) 4294967295)

/-- The joint throughput of the links: the best prediction of each band, summed. -/
def jointThroughput (links : List (Candidate η)) : UInt32 :=
  Band.all.foldl (fun total band => addSaturating total (bestOn band links)) 0

/-- Adding goes on in the unbounded integers up to the largest word. -/
theorem toNat_addSaturating (x y : UInt32) :
    (addSaturating x y).toNat = min (x.toNat + y.toNat) 4294967295 := by
  unfold addSaturating
  rw [UInt32.toNat_ofNat']
  omega

end MultiLink

end NetworkSelection
