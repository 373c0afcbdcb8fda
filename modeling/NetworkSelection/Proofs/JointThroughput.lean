import NetworkSelection.MultiLink
import Mathlib.Algebra.GroupWithZero.Nat
import Mathlib.Algebra.Order.BigOperators.Group.List
import Mathlib.Algebra.Order.Group.Nat
import Mathlib.Data.List.Perm.Basic
import Mathlib.Order.Basic

/-!
# The joint throughput of links

The joint throughput takes the best prediction on each band, and the best of several
predictions does not depend on which of them is looked at first.  Of each link it heeds the
frequency and the prediction alone, and it is never below the prediction for any one link: the
sum stops at the largest word, but so do the predictions.

* `MultiLink.toNat_bestOn`: the best prediction on a band is the greatest one there.
* `MultiLink.toNat_jointThroughput`: the joint throughput in the unbounded integers.
* `MultiLink.jointThroughput_eq_of_perm`: the joint throughput does not depend on the order
  of the links.
* `MultiLink.jointThroughput_map`: nor on what the links have beside frequency and prediction.
* `MultiLink.mbps_le_jointThroughput`: a group is at least as good as each of its links.
-/

namespace NetworkSelection

namespace MultiLink

variable {η : Type}

/-- The predictions of the links on a band. -/
def predictionsOn (band : Band) (links : List (Candidate η)) : List Nat :=
  (links.filter fun c => Band.ofFrequency c.frequency = band).map (·.mbps.toNat)

/-- The best prediction on a band is the greatest one there, or zero. -/
theorem toNat_bestOn (band : Band) (links : List (Candidate η)) :
    (bestOn band links).toNat = (predictionsOn band links).foldl max 0 := by
  have hfold : ∀ best : UInt32,
      (links.foldl (fun best c =>
        if Band.ofFrequency c.frequency = band then max best c.mbps else best) best).toNat =
          (predictionsOn band links).foldl max best.toNat := by
    induction links with
    | nil => exact fun _ => rfl
    | cons c rest ih =>
      intro best
      rw [List.foldl_cons, ih]
      by_cases h : Band.ofFrequency c.frequency = band
      · simp [predictionsOn, h, UInt32.toNat_max]
      · simp [predictionsOn, h]
  exact hfold 0

/-- The best prediction on a band does not depend on the order of the links. -/
theorem bestOn_eq_of_perm {links links' : List (Candidate η)} (h : links.Perm links')
    (band : Band) : bestOn band links = bestOn band links' := by
  have hperm : (predictionsOn band links).Perm (predictionsOn band links') :=
    (h.filter _).map _
  rw [← UInt32.toNat_inj, toNat_bestOn, toNat_bestOn, hperm.foldl_eq]

/-- **The joint throughput does not depend on the order of the links.** -/
theorem jointThroughput_eq_of_perm {links links' : List (Candidate η)} (h : links.Perm links') :
    jointThroughput links = jointThroughput links' := by
  unfold jointThroughput
  simp only [bestOn_eq_of_perm h]

/-- What the links have beside frequency and prediction is not heeded. -/
theorem bestOn_map {f : Candidate η → Candidate η} (hfrequency : ∀ c, (f c).frequency = c.frequency)
    (hmbps : ∀ c, (f c).mbps = c.mbps) (band : Band) (links : List (Candidate η)) :
    bestOn band (links.map f) = bestOn band links := by
  unfold bestOn
  rw [List.foldl_map]
  simp only [hfrequency, hmbps]

theorem jointThroughput_map {f : Candidate η → Candidate η}
    (hfrequency : ∀ c, (f c).frequency = c.frequency) (hmbps : ∀ c, (f c).mbps = c.mbps)
    (links : List (Candidate η)) : jointThroughput (links.map f) = jointThroughput links := by
  unfold jointThroughput
  simp only [bestOn_map hfrequency hmbps]

/-! ## The sum over the bands -/

theorem toNat_foldl_addSaturating (words : List UInt32) (total : UInt32) :
    (words.foldl addSaturating total).toNat =
      min (total.toNat + (words.map UInt32.toNat).sum) 4294967295 := by
  induction words generalizing total with
  | nil =>
    have := total.toNat_lt
    simp only [List.foldl_nil, List.map_nil, List.sum_nil]
    omega
  | cons word rest ih =>
    rw [List.foldl_cons, ih, toNat_addSaturating, List.map_cons, List.sum_cons]
    omega

/-- **The joint throughput in the unbounded integers**: the sum of the best predictions over the
bands, or the largest word if the sum is greater. -/
theorem toNat_jointThroughput (links : List (Candidate η)) :
    (jointThroughput links).toNat =
      min ((Band.all.map fun band => (bestOn band links).toNat).sum) 4294967295 := by
  have hfold : jointThroughput links =
      (Band.all.map fun band => bestOn band links).foldl addSaturating 0 := by
    rw [List.foldl_map]
    rfl
  rw [hfold, toNat_foldl_addSaturating, List.map_map]
  simp [Function.comp_def]

theorem mbps_le_bestOn {c : Candidate η} {links : List (Candidate η)} (hc : c ∈ links) :
    c.mbps.toNat ≤ (bestOn (Band.ofFrequency c.frequency) links).toNat := by
  have hmem : c.mbps.toNat ∈ predictionsOn (Band.ofFrequency c.frequency) links :=
    List.mem_map.mpr ⟨c, List.mem_filter.mpr ⟨hc, decide_eq_true rfl⟩, rfl⟩
  rw [toNat_bestOn, List.foldl_max]
  exact Nat.le_trans (List.le_max?_getD_of_mem hmem) (Nat.le_max_right _ _)

/-- **A group is at least as good as each of its links.** -/
theorem mbps_le_jointThroughput {c : Candidate η} {links : List (Candidate η)} (hc : c ∈ links) :
    c.mbps ≤ jointThroughput links := by
  have hband : (bestOn (Band.ofFrequency c.frequency) links).toNat ∈
      Band.all.map fun band => (bestOn band links).toNat :=
    List.mem_map.mpr ⟨_, Band.mem_all _, rfl⟩
  rw [UInt32.le_iff_toNat_le, toNat_jointThroughput]
  refine Nat.le_min.mpr ⟨?_, Nat.le_of_lt_succ c.mbps.toNat_lt⟩
  exact Nat.le_trans (mbps_le_bestOn hc) (List.le_sum_of_mem hband)

end MultiLink

end NetworkSelection
