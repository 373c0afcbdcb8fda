import NetworkSelection.Proofs.JointThroughput
import NetworkSelection.Scenario
import Std.Data.ExtTreeMap.Lemmas
import Mathlib.Algebra.BigOperators.Group.Finset.Basic
import Mathlib.Data.List.Induction
import Mathlib.Order.Bounds.Basic

/-!
# The joint throughput as a sum over the bands

The joint throughput is defined by going through all bands, each time looking for the best
prediction there.  Only the bands that occur among the links count: it is the sum, in the
unbounded integers, of the greatest prediction for each of them, cut to the largest word.  The
frequencies outside of the limits of every band make one band together.

The sum can be had from a single pass over the links, too.  The pass keeps a table of the best
predictions so far, by band, and after each link the table has an entry for exactly the bands
that have occurred, the best prediction there.

A group of links is jointly no better than another one that has, for each link, one on the same
band with no less a prediction.  So neither the order of the links matters nor how often one
comes, and nothing is lost with further links or greater predictions.

* `Band.ofFrequency_eq_iff`: the band of a frequency is the one that covers it.
* `MultiLink.isGreatest_bestOn`: the best prediction on a band that occurs.
* `MultiLink.toNat_jointThroughput_eq_sum`: the sum over the bands that occur.
* `MultiLink.jointThroughput_le`: groups of links compared link by link.
* `MultiLink.getElem?_tally`, `MultiLink.foldl_tally`: the table of the single pass, and its sum.
* `MultiLink.jointThroughput_summed`: what the joint throughput is.
-/

namespace NetworkSelection

/-! ## Bands -/

namespace Band

/-- The limits of a band in MHz, both of which belong to it. -/
def limits? : Band → Option (Nat × Nat)
  | ghz2_4 => some (2400, 2500)
  | ghz5 => some (4900, 5900)
  | ghz6 => some (5925, 7125)
  | ghz60 => some (58320, 70200)
  | unknown => none

/-- The frequency is within the limits of the band. -/
def Within (band : Band) (mhz : Nat) : Prop :=
  ∃ limits ∈ band.limits?, limits.1 ≤ mhz ∧ mhz ≤ limits.2

/-- The frequency is within the limits of the band, or the band is the one of all the
frequencies that are within no limits. -/
def Covers (band : Band) (mhz : Nat) : Prop :=
  band.Within mhz ∨ band = unknown ∧ ∀ other : Band, ¬ other.Within mhz

theorem within_iff {band : Band} {mhz least greatest : Nat}
    (h : band.limits? = some (least, greatest)) :
    band.Within mhz ↔ least ≤ mhz ∧ mhz ≤ greatest := by
  simp [Within, h]

theorem not_within_unknown {mhz : Nat} : ¬ unknown.Within mhz :=
  fun ⟨_, hlimits, _⟩ => absurd hlimits nofun

/-- No limits of two bands overlap. -/
theorem Within.unique {band band' : Band} {mhz : Nat} (h : band.Within mhz)
    (h' : band'.Within mhz) : band = band' := by
  obtain ⟨_, hlimits, hleast, hgreatest⟩ := h
  obtain ⟨_, hlimits', hleast', hgreatest'⟩ := h'
  cases band <;> cases hlimits <;> cases band' <;> cases hlimits' <;> first | rfl | omega

theorem Covers.unique {band band' : Band} {mhz : Nat} (h : band.Covers mhz)
    (h' : band'.Covers mhz) : band = band' := by
  obtain h | ⟨rfl, hnone⟩ := h <;> obtain h' | ⟨rfl, hnone'⟩ := h'
  · exact h.unique h'
  · exact absurd h (hnone' band)
  · exact absurd h' (hnone band')
  · rfl

theorem covers_ofFrequency (mhz : UInt32) : (ofFrequency mhz).Covers mhz.toNat := by
  unfold ofFrequency
  simp only [UInt32.le_iff_toNat_le]
  split_ifs with h2_4 h5 h6 h60
  · exact .inl ((within_iff rfl).mpr h2_4)
  · exact .inl ((within_iff rfl).mpr h5)
  · exact .inl ((within_iff rfl).mpr h6)
  · exact .inl ((within_iff rfl).mpr h60)
  · refine .inr ⟨rfl, fun other => ?_⟩
    cases other with
    | ghz2_4 => exact fun h => h2_4 ((within_iff rfl).mp h)
    | ghz5 => exact fun h => h5 ((within_iff rfl).mp h)
    | ghz6 => exact fun h => h6 ((within_iff rfl).mp h)
    | ghz60 => exact fun h => h60 ((within_iff rfl).mp h)
    | unknown => exact not_within_unknown

/-- **Every frequency falls in one band**, the one that covers it. -/
theorem ofFrequency_eq_iff {mhz : UInt32} {band : Band} :
    ofFrequency mhz = band ↔ band.Covers mhz.toNat :=
  ⟨fun h => h ▸ covers_ofFrequency mhz, fun h => (covers_ofFrequency mhz).unique h⟩

theorem rank_injective {b b' : Band} (h : b.rank = b'.rank) : b = b' := by
  cases b <;> cases b' <;> first | rfl | exact absurd h (by decide)

instance : Ord Band where
  compare b b' := compare b.rank b'.rank

instance : Std.TransOrd Band :=
  inferInstanceAs (Std.TransCmp (compareOn rank))

instance : Std.LawfulEqOrd Band where
  eq_of_compare h := rank_injective (Std.LawfulEqOrd.eq_of_compare h)

end Band

namespace MultiLink

variable {η : Type} {links links' : List (Candidate η)} {band : Band}

/-! ## The best of a band -/

theorem bestOn_concat (band : Band) (links : List (Candidate η)) (c : Candidate η) :
    bestOn band (links ++ [c]) =
      if Band.ofFrequency c.frequency = band then max (bestOn band links) c.mbps
      else bestOn band links := by
  rw [bestOn, List.foldl_append]
  rfl

/-- The best prediction on a band is the least number that none of them exceeds. -/
theorem bestOn_le_iff {n : Nat} :
    (bestOn band links).toNat ≤ n ↔
      ∀ c ∈ links, Band.ofFrequency c.frequency = band → c.mbps.toNat ≤ n := by
  induction links using List.reverseRecOn with
  | nil => exact iff_of_true (Nat.zero_le n) fun _ hc => absurd hc List.not_mem_nil
  | append_singleton links c ih =>
    rw [bestOn_concat, List.forall_mem_append, List.forall_mem_singleton, ← ih]
    split_ifs with h
    · rw [UInt32.toNat_max, Nat.max_le, forall_prop_of_true h]
    · rw [forall_prop_of_false h, and_true]

/-- The bands that occur among the links. -/
def bands (links : List (Candidate η)) : Finset Band :=
  (links.map fun c => Band.ofFrequency c.frequency).toFinset

theorem mem_bands_iff :
    band ∈ bands links ↔ ∃ c ∈ links, band.Covers c.frequency.toNat := by
  simp only [bands, List.mem_toFinset, List.mem_map, Band.ofFrequency_eq_iff]

/-- On a band that does not occur the best prediction is zero. -/
theorem bestOn_of_notMem_bands (h : band ∉ bands links) : bestOn band links = 0 := by
  have hle : (bestOn band links).toNat ≤ 0 := bestOn_le_iff.mpr fun c hc hband =>
    absurd (mem_bands_iff.mpr ⟨c, hc, Band.ofFrequency_eq_iff.mp hband⟩) h
  exact UInt32.toNat_inj.mp (Nat.le_zero.mp hle)

theorem mem_predictionsOn_iff {n : Nat} :
    n ∈ predictionsOn band links ↔
      ∃ c ∈ links, band.Covers c.frequency.toNat ∧ c.mbps.toNat = n := by
  simp [predictionsOn, Band.ofFrequency_eq_iff, and_assoc]

/-- **The best prediction on a band that occurs** is the greatest of the predictions for the
links there. -/
theorem isGreatest_bestOn (h : band ∈ bands links) :
    IsGreatest {n | ∃ c ∈ links, band.Covers c.frequency.toNat ∧ c.mbps.toNat = n}
      (bestOn band links).toNat := by
  obtain ⟨c, hc, hband⟩ := mem_bands_iff.mp h
  have hne : predictionsOn band links ≠ [] :=
    List.ne_nil_of_mem (mem_predictionsOn_iff.mpr ⟨c, hc, hband, rfl⟩)
  obtain ⟨greatest, hgreatest⟩ := List.isSome_max?_iff.mpr hne |> Option.isSome_iff_exists.mp
  have hbest : (bestOn band links).toNat = greatest := by
    rw [toNat_bestOn, List.foldl_max, hgreatest]
    exact Nat.zero_max greatest
  obtain ⟨hmem, hle⟩ := List.max?_eq_some_iff.mp hgreatest
  rw [hbest]
  exact ⟨mem_predictionsOn_iff.mp hmem, fun n hn => hle n (mem_predictionsOn_iff.mpr hn)⟩

/-! ## The sum -/

/-- **The joint throughput in the unbounded integers**, summed over the bands that occur. -/
theorem toNat_jointThroughput_eq_sum (links : List (Candidate η)) :
    (jointThroughput links).toNat =
      min (2 ^ 32 - 1) (∑ band ∈ bands links, (bestOn band links).toNat) := by
  have hall : (Band.all.map fun band => (bestOn band links).toNat).sum =
      ∑ band ∈ Band.all.toFinset, (bestOn band links).toNat :=
    (List.sum_toFinset _ (by decide)).symm
  -- the bands that do not occur add nothing
  have hbands : ∑ band ∈ bands links, (bestOn band links).toNat =
      ∑ band ∈ Band.all.toFinset, (bestOn band links).toNat :=
    Finset.sum_subset (fun band _ => List.mem_toFinset.mpr (Band.mem_all band))
      fun band _ h => by rw [bestOn_of_notMem_bands h, UInt32.toNat_zero]
  rw [toNat_jointThroughput, hall, ← hbands]
  exact Nat.min_comm _ _

/-- Links that match each link of a group on its band are jointly as good as the group. -/
theorem jointThroughput_le (h : ∀ c ∈ links, ∃ c' ∈ links',
    Band.ofFrequency c'.frequency = Band.ofFrequency c.frequency ∧ c.mbps ≤ c'.mbps) :
    jointThroughput links ≤ jointThroughput links' := by
  have hbest (band : Band) : (bestOn band links).toNat ≤ (bestOn band links').toNat := by
    refine bestOn_le_iff.mpr fun c hc hband => ?_
    obtain ⟨c', hc', hsame, hle⟩ := h c hc
    exact Nat.le_trans (UInt32.le_iff_toNat_le.mp hle)
      (bestOn_le_iff.mp (Nat.le_refl _) c' hc' (hsame.trans hband))
  rw [UInt32.le_iff_toNat_le, toNat_jointThroughput, toNat_jointThroughput]
  exact Nat.le_min.mpr ⟨Nat.le_trans (Nat.min_le_left _ _)
    (List.sum_le_sum fun band _ => hbest band), Nat.min_le_right _ _⟩

theorem jointThroughput_le_of_subset (h : links ⊆ links') :
    jointThroughput links ≤ jointThroughput links' :=
  jointThroughput_le fun c hc => ⟨c, h hc, rfl, UInt32.le_refl _⟩

/-! ## One pass over the links -/

/-- The best predictions so far by band, after one pass over the links: a link finds the entry
of its band, or enters zero there, and raises it to its own prediction. -/
def tally (links : List (Candidate η)) : Std.ExtTreeMap Band UInt32 :=
  links.foldl (fun best c => best.alter (Band.ofFrequency c.frequency) fun entry =>
    some (max (entry.getD 0) c.mbps)) ∅

theorem tally_concat (links : List (Candidate η)) (c : Candidate η) :
    tally (links ++ [c]) = (tally links).alter (Band.ofFrequency c.frequency) fun entry =>
      some (max (entry.getD 0) c.mbps) := by
  rw [tally, List.foldl_append]
  rfl

theorem mem_bands_concat_iff {c : Candidate η} :
    band ∈ bands (links ++ [c]) ↔ band ∈ bands links ∨ Band.ofFrequency c.frequency = band := by
  simp only [bands, List.map_append, List.mem_toFinset, List.mem_append, List.map_cons,
    List.map_nil, List.mem_singleton, eq_comm]

/-- After each link the entries are the best predictions on the bands that have occurred. -/
theorem getElem?_tally (links : List (Candidate η)) (band : Band) :
    (tally links)[band]? = if band ∈ bands links then some (bestOn band links) else none := by
  induction links using List.reverseRecOn with
  | nil => rfl
  | append_singleton links c ih =>
    rw [tally_concat, Std.ExtTreeMap.getElem?_alter]
    by_cases h : Band.ofFrequency c.frequency = band
    · -- a band without an entry and a band whose best is zero look the same to the next link
      have hentry : ((tally links)[band]?).getD 0 = bestOn band links := by
        rw [ih]
        split_ifs with hband
        · rfl
        · exact (bestOn_of_notMem_bands hband).symm
      rw [if_pos (Std.compare_eq_iff_eq.mpr h), h, hentry, bestOn_concat, if_pos h,
        if_pos (mem_bands_concat_iff.mpr (.inr h))]
    · rw [if_neg (mt Std.compare_eq_iff_eq.mp h), ih, bestOn_concat, if_neg h]
      simp only [mem_bands_concat_iff, h, or_false]

theorem mem_tally_iff : band ∈ tally links ↔ band ∈ bands links := by
  rw [Std.ExtTreeMap.mem_iff_isSome_getElem?, getElem?_tally]
  split_ifs with h
  · exact iff_of_true rfl h
  · exact iff_of_false nofun h

/-- The entries, one for each band that has occurred. -/
theorem map_toList_tally {β : Type} (f : UInt32 → β) (links : List (Candidate η)) :
    (tally links).toList.map (fun entry => f entry.2) =
      (tally links).keys.map fun band => f (bestOn band links) := by
  rw [← Std.ExtTreeMap.map_fst_toList_eq_keys, List.map_map]
  refine List.map_congr_left fun entry hentry => congrArg f ?_
  have hget := Std.ExtTreeMap.mem_toList_iff_getElem?_eq_some.mp hentry
  rw [getElem?_tally] at hget
  split_ifs at hget
  exact (Option.some.inj hget).symm

/-- **The sum over the entries** of the one pass is the joint throughput. -/
theorem foldl_tally (links : List (Candidate η)) :
    (tally links).foldl (fun total _ mbps => addSaturating total mbps) 0 =
      jointThroughput links := by
  have hkeys : (tally links).keys.toFinset = bands links := by
    ext band
    rw [List.mem_toFinset, Std.ExtTreeMap.mem_keys, mem_tally_iff]
  have hsum : ((tally links).toList.map fun entry => entry.2.toNat).sum =
      ∑ band ∈ bands links, (bestOn band links).toNat := by
    rw [map_toList_tally, ← hkeys, List.sum_toFinset _ Std.ExtTreeMap.nodup_keys]
  rw [Std.ExtTreeMap.foldl_eq_foldl_toList, ← List.foldl_map, ← UInt32.toNat_inj,
    toNat_foldl_addSaturating, List.map_map, toNat_jointThroughput_eq_sum, ← hsum]
  simp [Function.comp_def, Nat.min_comm]

/-! ## What the joint throughput is -/

/-- What the joint throughput of the links is, and how it goes with the links. -/
structure Summed (links : List (Candidate η)) : Prop where
  /-- A band occurs if it covers the frequency of one of the links, -/
  occurring : ∀ band, band ∈ bands links ↔ ∃ c ∈ links, band.Covers c.frequency.toNat
  /-- and the frequency of each link is covered by one band and no other. -/
  covered : ∀ c ∈ links, ∃! band : Band, band.Covers c.frequency.toNat
  /-- The best of a band that occurs is the greatest prediction for a link there. -/
  best : ∀ band ∈ bands links,
    IsGreatest {n | ∃ c ∈ links, band.Covers c.frequency.toNat ∧ c.mbps.toNat = n}
      (bestOn band links).toNat
  /-- The joint throughput is the sum of the best, each band that occurs counted once; a sum
  above the largest word is cut to it. -/
  total : (jointThroughput links).toNat =
    min (2 ^ 32 - 1) (∑ band ∈ bands links, (bestOn band links).toNat)
  /-- So says a single pass that keeps the best so far by band and adds them up at the end,
  stopping at the largest word. -/
  onePass : (tally links).foldl (fun total _ mbps => addSaturating total mbps) 0 =
    jointThroughput links
  /-- The same links, in another order or some of them several times, have the same joint
  throughput. -/
  rearranged : ∀ links' : List (Candidate η), (∀ c, c ∈ links' ↔ c ∈ links) →
    jointThroughput links' = jointThroughput links
  /-- With further links anywhere the joint throughput is no less, -/
  enlarged : ∀ links' : List (Candidate η), links ⊆ links' →
    jointThroughput links ≤ jointThroughput links'
  /-- nor is it with a greater prediction for one of the links, -/
  raised : ∀ (before after : List (Candidate η)) (c c' : Candidate η),
    links = before ++ c :: after → c'.frequency = c.frequency → c.mbps ≤ c'.mbps →
      jointThroughput links ≤ jointThroughput (before ++ c' :: after)
  /-- and it is no less than the prediction for any one link. -/
  each : ∀ c ∈ links, c.mbps ≤ jointThroughput links

/-- **The joint throughput is the sum of the best predictions over the bands that occur.** -/
theorem jointThroughput_summed (links : List (Candidate η)) : Summed links where
  occurring _ := mem_bands_iff
  covered c _ := ⟨_, Band.covers_ofFrequency c.frequency,
    fun _ h => h.unique (Band.covers_ofFrequency c.frequency)⟩
  best _ h := isGreatest_bestOn h
  total := toNat_jointThroughput_eq_sum links
  onePass := foldl_tally links
  rearranged links' h := UInt32.le_antisymm
    (jointThroughput_le_of_subset fun c hc => (h c).mp hc)
    (jointThroughput_le_of_subset fun c hc => (h c).mpr hc)
  enlarged links' h := jointThroughput_le_of_subset h
  raised before after c c' hlinks hfrequency hmbps := by
    rw [hlinks]
    refine jointThroughput_le fun d hd => ?_
    obtain hd | rfl | hd := List.mem_append.mp hd |>.imp_right List.mem_cons.mp
    · exact ⟨d, List.mem_append_left _ hd, rfl, UInt32.le_refl _⟩
    · exact ⟨c', List.mem_append_right _ List.mem_cons_self, by rw [hfrequency], hmbps⟩
    · exact ⟨d, List.mem_append_right _ (List.mem_cons_of_mem _ hd), rfl, UInt32.le_refl _⟩
  each _ hc := mbps_le_jointThroughput hc

/-- Two links on one band and two on none; then two links that are together beyond the largest
word. -/
example :
    let link (frequency mbps : UInt32) : Candidate Unit :=
      let scan := Scenario.scan ⟨"home"⟩ 7 (-50)
      .make (.ofIdentity ⟨⟨"home"⟩, .psk⟩ (Scenario.radio 7) ⟨3⟩) (Scenario.config ⟨3⟩ ⟨"home"⟩)
        { Observation.ofScan scan .saved with frequency, mbps } none ⟨false, false⟩ 50
    jointThroughput [link 5180 300, link 1000 40, link 5745 500, link 80000 70] = 570 ∧
      jointThroughput [link 2437 4294967000, link 5180 500] = 4294967295 := by
  decide

end MultiLink

end NetworkSelection
