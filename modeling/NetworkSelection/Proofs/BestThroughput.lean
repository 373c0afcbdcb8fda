import NetworkSelection.Proofs.Filling
import NetworkSelection.Proofs.Maximum

/-!
# The choice of the highest throughput

Once the joint throughput has been filled in, a scorer can go by the figures of each candidate
alone and still do justice to the groups: the joint throughput of a group is never below what is
predicted for one of its links, so the better of a link's two figures is that of its whole group.
The highest throughput that is to be had, from a group or from a candidate that is no link, is
therefore what the scorer finds, and of the candidates that have it the one with the greatest key
is chosen.

* `Pool.Yields`: the throughputs that are to be had.
* `Pool.worth`: what a record counts for, which is the figure of its group if it is a link.
* `Pool.Indexed.bestMbps_eq_worth`: the scorer sees in a candidate what its record is worth.
* `Pool.Indexed.choose_throughput`: who is chosen.
* `Course.choose_throughput_run`: in every pool.
-/

namespace NetworkSelection

variable {σ η : Type}

/-- The better of the two figures of a candidate, the link's own and the joint one. -/
def Candidate.bestMbps (c : Candidate η) : UInt32 :=
  max c.multiLinkMbps c.mbps

namespace Pool

/-- The throughputs that are to be had: the joint throughput of every group, and the better
figure of every candidate that is no link. -/
inductive Yields (pool : Pool σ η) : UInt32 → Prop where
  | ofGroup {mld : MacAddress} {group : List (Record η)} (hgroup : pool.group? mld = some group) :
      Yields pool (MultiLink.jointThroughput (group.map (·.candidate)))
  | ofSingle {key : Key} {r : Record η} (hget : pool.get? key = some r) (hmld : r.mld = none) :
      Yields pool r.candidate.bestMbps

/-- What a record counts for: a link counts for its whole group. -/
def worth (pool : Pool σ η) (r : Record η) : UInt32 :=
  match r.mld with
  | some mld => MultiLink.jointThroughput ((pool.links mld).map (·.candidate))
  | none => r.candidate.bestMbps

theorem worth_of_mld {pool : Pool σ η} {r : Record η} {mld : MacAddress} (h : r.mld = some mld) :
    pool.worth r = MultiLink.jointThroughput ((pool.links mld).map (·.candidate)) := by
  simp only [worth, h]

theorem worth_of_mld_none {pool : Pool σ η} {r : Record η} (h : r.mld = none) :
    pool.worth r = r.candidate.bestMbps := by
  simp only [worth, h]

namespace Indexed

variable {next : Nat} {pool : Pool σ η}

/-- What a record in place is worth is to be had. -/
theorem yields_worth (h : Indexed next pool) {r : Record η} (hget : pool.get? r.key = some r) :
    pool.Yields (pool.worth r) := by
  cases hmld : r.mld with
  | none =>
    rw [worth_of_mld_none hmld]
    exact .ofSingle hget hmld
  | some mld =>
    have hr : r ∈ pool.links mld := h.mem_links.mpr ⟨hmld, hget⟩
    rw [worth_of_mld hmld]
    exact .ofGroup (by rw [h.group?_eq, if_neg (List.ne_nil_of_mem hr)])

/-- Whatever is to be had, some record in place is worth it. -/
theorem exists_worth_eq (h : Indexed next pool) {mbps : UInt32} (hyields : pool.Yields mbps) :
    ∃ r, pool.get? r.key = some r ∧ pool.worth r = mbps := by
  cases hyields with
  | @ofGroup mld group hgroup =>
    -- a group has at least one link
    cases group with
    | nil => exact absurd hgroup (h.group_ne_nil mld)
    | cons r rest =>
      have hlinks := links_of_group? hgroup
      obtain ⟨hmld, hget⟩ := h.mem_links.mp (by rw [hlinks]; exact List.mem_cons_self)
      exact ⟨r, hget, by rw [worth_of_mld hmld, hlinks]⟩
  | @ofSingle key r hget hmld =>
    exact ⟨r, by rw [h.key_eq hget]; exact hget, worth_of_mld_none hmld⟩

/-- **The scorer sees in a candidate what its record is worth**, once the joint throughput has
been filled in. -/
theorem bestMbps_eq_worth {shared : Shared σ} (h : Indexed shared.nextSerial pool) {key : Key}
    {r : Record η} :
    let filled := (pool.updateMultiLink MultiLink.jointThroughput shared).pool
    filled.get? key = some r → r.candidate.bestMbps = filled.worth r := by
  intro filled hget
  cases hmld : r.mld with
  | none => rw [worth_of_mld_none hmld]
  | some mld =>
    rw [h.get?_updateMultiLink] at hget
    obtain ⟨s, hs, rfl⟩ := Option.map_eq_some_iff.mp hget
    rw [mld_renewal] at hmld
    have hlink : s ∈ pool.links mld :=
      h.mem_links.mpr ⟨hmld, by rw [h.key_eq hs]; exact hs⟩
    have hle : s.candidate.mbps ≤
        MultiLink.jointThroughput ((pool.links mld).map (·.candidate)) :=
      MultiLink.mbps_le_jointThroughput (List.mem_map_of_mem hlink)
    rw [worth_of_mld (by rw [mld_renewal]; exact hmld), h.jointThroughput_links_updateMultiLink,
      renewal_of_mld _ _ pool hmld]
    refine UInt32.toNat_inj.mp ?_
    rw [Candidate.bestMbps, UInt32.toNat_max]
    exact Nat.max_eq_left (UInt32.le_iff_toNat_le.mp hle)

end Indexed

/-! ## Who is chosen -/

/-- A choice of the highest throughput that is to be had. -/
structure HighestChosen (pool : Pool σ η) (choice : Choice) : Prop where
  of_empty : pool.size = 0 → choice = .none
  /-- The value is the highest throughput, and the key is the greatest one of the records that
  are worth as much. -/
  of_nonempty : pool.size ≠ 0 → ∃ best r,
    choice = { value := best.toFloat, err := 1, key := some r.key, userOverride := false } ∧
      pool.Yields best ∧ (∀ mbps, pool.Yields mbps → mbps ≤ best) ∧
      pool.get? r.key = some r ∧ pool.worth r = best ∧
      ∀ s, pool.get? s.key = some s → pool.worth s = best → (compare s.key r.key).isLE = true

/-- The last record of an ascending list has the greatest key. -/
theorem isLE_key_of_getLast? {records : List (Record η)} {last : Record η}
    (hascending : records.Pairwise fun r s => compare r.key s.key = .lt)
    (hlast : records.getLast? = some last) :
    ∀ r ∈ records, (compare r.key last.key).isLE = true := by
  obtain ⟨before, rfl⟩ := List.getLast?_eq_some_iff.mp hlast
  obtain ⟨-, -, hbefore⟩ := List.pairwise_append.mp hascending
  rw [List.forall_mem_append, List.forall_mem_singleton]
  constructor
  · intro r hr
    rw [hbefore r hr last (List.mem_singleton_self last)]
    rfl
  · have hself : compare last.key last.key = .eq := Std.ReflCmp.compare_self
    rw [hself]
    rfl

/-- **The last of the greatest among some of the records.**  No other one of them measures more,
and of those that measure as much it has the greatest key. -/
theorem Indexed.greatest_of_lastMaximum {β : Type} [LinearOrder β] {measure : Record η → β}
    {atMost : Record η → Record η → Bool} {next : Nat} {pool : Pool σ η} (h : Indexed next pool)
    (hmeasure : ∀ r s, atMost r s = true ↔ measure r ≤ measure s) (p : Record η → Bool)
    {r : Record η} (hlast : Scorer.lastMaximum atMost (pool.records.filter p) = some r) :
    pool.get? r.key = some r ∧ p r = true ∧
      ∀ s, pool.get? s.key = some s → p s = true →
        measure s ≤ measure r ∧
          (measure s = measure r → (compare s.key r.key).isLE = true) := by
  obtain ⟨hgreatest, hlastOf⟩ := Scorer.lastMaximum_spec hmeasure hlast
  have hr : r ∈ pool.records.filter p := (List.mem_filter.mp (List.mem_of_getLast? hlastOf)).1
  obtain ⟨hin, hp⟩ := List.mem_filter.mp hr
  refine ⟨h.mem_records_iff.mp hin, hp, fun s hget hs => ?_⟩
  have hmem : s ∈ pool.records.filter p := List.mem_filter.mpr ⟨h.mem_records_iff.mpr hget, hs⟩
  refine ⟨hgreatest s hmem, fun hequal => ?_⟩
  refine isLE_key_of_getLast? ((h.ascending_records.filter p).filter _) hlastOf s ?_
  exact List.mem_filter.mpr ⟨hmem, decide_eq_true hequal⟩

/-- The comparison of records that the scorer goes by. -/
def throughputAtMost (r s : Record η) : Bool :=
  r.candidate.bestMbps ≤ s.candidate.bestMbps

/-- The scorer chooses the last record of those with the greatest figure. -/
theorem choose_throughput_fst (pool : Pool σ η) :
    (pool.choose Scorer.throughput).1 =
      ((Scorer.lastMaximum throughputAtMost pool.records).map fun r =>
        { value := r.candidate.bestMbps.toFloat, err := 1, key := some r.key }).getD .none := by
  show ((Scorer.lastMaximum _ (pool.records.map (·.candidate))).map _).getD Choice.none = _
  rw [Scorer.lastMaximum_map, Option.map_map]
  rfl

/-- **Who is chosen** for the highest throughput, if every candidate shows what its record is
worth. -/
theorem Indexed.choose_throughput {next : Nat} {pool : Pool σ η} (h : Indexed next pool)
    (hworth : ∀ key r, pool.get? key = some r → r.candidate.bestMbps = pool.worth r) :
    pool.HighestChosen (pool.choose Scorer.throughput).1 := by
  have hmeasure : ∀ r s : Record η, throughputAtMost r s = true ↔
      r.candidate.bestMbps.toNat ≤ s.candidate.bestMbps.toNat := fun r s => by
    rw [← UInt32.le_iff_toNat_le]
    exact decide_eq_true_iff
  have hchoice := choose_throughput_fst pool
  constructor
  case of_empty =>
    intro hempty
    rw [← length_records, List.length_eq_zero_iff] at hempty
    rw [hchoice, hempty]
    rfl
  case of_nonempty =>
    intro hne
    cases hlast : Scorer.lastMaximum throughputAtMost pool.records with
    | none =>
      rw [Scorer.lastMaximum_eq_none_iff, ← List.length_eq_zero_iff, length_records] at hlast
      exact absurd hlast hne
    | some r =>
      have hall : Scorer.lastMaximum throughputAtMost (pool.records.filter fun _ => true) =
          some r := by rw [List.filter_true, hlast]
      obtain ⟨hget, -, hothers⟩ := h.greatest_of_lastMaximum hmeasure (fun _ => true) hall
      have hle : ∀ mbps, pool.Yields mbps → mbps ≤ r.candidate.bestMbps := by
        intro mbps hyields
        obtain ⟨s, hs, rfl⟩ := h.exists_worth_eq hyields
        rw [← hworth s.key s hs]
        exact UInt32.le_iff_toNat_le.mpr (hothers s hs rfl).1
      refine ⟨r.candidate.bestMbps, r, by rw [hchoice, hlast]; rfl, ?_, hle, hget, ?_, ?_⟩
      · rw [hworth r.key r hget]
        exact h.yields_worth hget
      · exact (hworth r.key r hget).symm
      · intro s hs hbest
        refine (hothers s hs rfl).2 (congrArg UInt32.toNat ?_)
        rw [hworth s.key s hs, hbest]

end Pool

/-! ## In every pool -/

/-- **The choice of the highest throughput**, in every pool whose links have been given their
joint throughput: each candidate shows what its record is worth, and the choice is that of the
highest throughput that is to be had.  A pool is only looked at when a scorer chooses, and none
comes back changed. -/
theorem Course.choose_throughput_run [BssidHandle η σ] (card : ScoreCard σ η)
    (config : PoolConfig) (seeds : List (Record η)) (shared : Shared σ)
    (hseeds : Pool.Issued shared.nextSerial seeds) (happenings : List (Happening σ η)) :
    let course := (Course.start (.ofRecords card config seeds) shared).run happenings
    let filled := (course.pool.updateMultiLink MultiLink.jointThroughput course.shared).pool
    (∀ key r, filled.get? key = some r →
        max r.candidate.multiLinkMbps r.candidate.mbps = filled.worth r) ∧
      filled.HighestChosen (filled.choose Scorer.throughput).1 := by
  intro course filled
  have hindexed : course.pool.Indexed course.shared.nextSerial :=
    Course.indexed_run (Pool.indexed_ofRecords hseeds card config) happenings
  have hworth : ∀ key r, filled.get? key = some r → r.candidate.bestMbps = filled.worth r :=
    fun _ _ hget => hindexed.bestMbps_eq_worth hget
  exact ⟨hworth, (hindexed.updateMultiLink _).choose_throughput hworth⟩

/-- Two links on two bands are better together than the candidate that is better than each of
them, and the one with the greater key is chosen, though its own figure is the lower one. -/
theorem Course.choose_throughput_run_two_bands :
    let seen (n : UInt16) (frequency mbps : UInt32) (mld : Option MacAddress) : Observation :=
      { Observation.ofScan (Scenario.scan ⟨"home"⟩ n (-50)) .saved with frequency, mld, mbps }
    let key (n : UInt16) : Key := .ofIdentity ⟨⟨"home"⟩, .psk⟩ (Scenario.radio n) ⟨3⟩
    let config := Scenario.config ⟨3⟩ ⟨"home"⟩
    let seed : Record Handle :=
      { serial := 0
        candidate := .make (key 7) config (seen 7 5180 600 (some (Scenario.accessPoint 1))) none
          ⟨false, false⟩ 50 }
    let shared : Shared History := { history := {}, nextSerial := 1 }
    let happenings : List (Happening History Handle) :=
      [.command (.add (key 8) config (seen 8 2437 300 (some (Scenario.accessPoint 1)))),
        .command (.add (key 9) config (seen 9 5180 800 none))]
    let course := (Course.start (.ofRecords History.card .lenient [seed]) shared).run happenings
    let filled := (course.pool.updateMultiLink MultiLink.jointThroughput course.shared).pool
    Pool.Issued shared.nextSerial [seed] ∧ filled.size = 3 ∧
      ((filled.choose Scorer.throughput).1.key = some (key 8)) ∧
      (∀ key r, filled.get? key = some r →
        max r.candidate.multiLinkMbps r.candidate.mbps = filled.worth r) ∧
      filled.HighestChosen (filled.choose Scorer.throughput).1 := by
  intro seen key config seed shared happenings course filled
  have hseeds : Pool.Issued shared.nextSerial [seed] := by
    refine Pool.issued_of_nodup ?_ (List.nodup_singleton _)
    intro r hr
    rw [List.mem_singleton.mp hr]
    exact Nat.zero_lt_one
  exact ⟨hseeds, by decide, by decide,
    Course.choose_throughput_run History.card .lenient [seed] shared hseeds happenings⟩

end NetworkSelection
