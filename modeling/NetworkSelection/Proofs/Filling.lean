import NetworkSelection.Proofs.Consistency
import NetworkSelection.Proofs.JointThroughput
import NetworkSelection.Proofs.Likeness

/-!
# Filling in the joint throughput

Renewing the links of a pool goes through its groups, and within each group through its links,
and writes every new record into both indices.  The estimator has seen the group before any of
its links was replaced, so that all of them get one figure, and it is a figure of this group
alone.  What is not a link is not touched, and neither is anything else about the pool.

* `Record.Refilled`: what becomes of a link.
* `Pool.FilledIn`, `Pool.Indexed.filledIn`: what the renewal of the links brings.
* `Pool.Indexed.filledIn_again`: the joint throughput is filled in once and for all.
* `Course.filledIn_run`: both of them, for every pool.
-/

namespace NetworkSelection

variable {σ η : Type}

/-- A link was replaced by a new record, in its place in this pool, that differs from it at most
in the joint throughput. -/
structure Record.Refilled (mbps : UInt32) (next : Nat) (pool : Pool σ η) (old new : Record η) :
    Prop where
  candidate_eq : new.candidate = { old.candidate with multiLinkMbps := mbps }
  get?_eq : pool.get? old.key = some new
  le_serial : next ≤ new.serial

namespace Pool

/-- What the renewal of the links brings, if this estimator is asked. -/
structure FilledIn (estimate : List (Candidate η) → UInt32) (pool : Pool σ η)
    (shared : Shared σ) : Prop where
  /-- The answer is how many links there are. -/
  answer_eq : (pool.updateMultiLink estimate shared).answer =
    (pool.records.filter fun r => r.candidate.isMultiLink).length
  /-- Every link is in a group. -/
  grouped : ∀ key r, pool.get? key = some r → r.candidate.isMultiLink = true →
    ∃ mld group, r.mld = some mld ∧ pool.group? mld = some group ∧ r ∈ group
  /-- In every group each link is replaced at its position, and what is filled in is what the
  estimator finds for the group as it was. -/
  group : ∀ mld group, pool.group? mld = some group →
    let outcome := pool.updateMultiLink estimate shared
    ∃ group', outcome.pool.group? mld = some group' ∧
      List.Forall₂ (Record.Refilled (estimate (group.map (·.candidate))) shared.nextSerial
        outcome.pool) group group'
  /-- Whoever is no link remains the very same record. -/
  stays : ∀ key r, pool.get? key = some r → r.mld = none →
    (pool.updateMultiLink estimate shared).pool.get? key = some r
  /-- The same places are taken. -/
  keys_eq : (pool.updateMultiLink estimate shared).pool.records.map Record.key =
    pool.records.map Record.key
  /-- The same access points have a group, in the same order. -/
  mlds_eq : (pool.updateMultiLink estimate shared).pool.groups.map Prod.fst =
    pool.groups.map Prod.fst
  /-- Beside the two indices, the pool remains as it is. -/
  rest_eq : let outcome := pool.updateMultiLink estimate shared
    outcome.pool = { pool with byKey := outcome.pool.byKey, byMld := outcome.pool.byMld }
  history_eq : (pool.updateMultiLink estimate shared).shared.history = shared.history

namespace Indexed

variable {pool : Pool σ η} {shared : Shared σ}

/-- All links, group after group, are the records that are links. -/
theorem allLinks_perm {next : Nat} (h : Indexed next pool) :
    pool.allLinks.Perm (pool.records.filter fun r => r.candidate.isMultiLink) := by
  have hnodup : pool.allLinks.Nodup := List.Nodup.of_map Record.key h.nodup_keys_allLinks
  refine (List.perm_ext_iff_of_nodup hnodup (h.nodup_records.filter _)).mpr fun r => ?_
  rw [h.mem_allLinks, List.mem_filter, h.mem_records_iff, and_comm]
  exact and_congr_right fun _ => Option.isSome_iff_ne_none.symm

/-- **What the renewal of the links brings.** -/
theorem filledIn (h : Indexed shared.nextSerial pool) (estimate : List (Candidate η) → UInt32) :
    pool.FilledIn estimate shared where
  answer_eq := by
    show List.length _ = _
    rw [h.flatMap_renewedGroups, List.length_map, h.allLinks_perm.length_eq]
  grouped key r hget hlink := by
    obtain ⟨mld, hmld⟩ : ∃ mld, r.mld = some mld := Option.isSome_iff_exists.mp hlink
    have hplace : pool.get? r.key = some r := by rw [h.key_eq hget]; exact hget
    have hr : r ∈ pool.links mld := h.mem_links.mpr ⟨hmld, hplace⟩
    refine ⟨mld, pool.links mld, hmld, ?_, hr⟩
    rw [h.group?_eq, if_neg (List.ne_nil_of_mem hr)]
  group mld group hgroup := by
    intro outcome
    refine ⟨_, by rw [h.group?_updateMultiLink, hgroup]; rfl, ?_⟩
    rw [List.forall₂_map_right_iff, List.forall₂_same]
    intro r hr
    have hlinks := links_of_group? hgroup
    rw [← hlinks] at hr
    obtain ⟨hmld, hget⟩ := h.mem_links.mp hr
    have hrenewal := renewal_of_mld estimate (linkNumber shared.nextSerial pool) pool hmld
    rw [hlinks] at hrenewal
    refine ⟨by rw [hrenewal]; rfl, ?_, by rw [hrenewal]; exact le_linkNumber _ _ _⟩
    rw [h.get?_updateMultiLink, hget]
    rfl
  stays key r hget hmld := by
    rw [h.get?_updateMultiLink, hget, Option.map_some, renewal_of_mld_none estimate _ pool hmld]
  keys_eq := by
    refine map_records_congr Record.key fun key => ?_
    rw [h.get?_updateMultiLink, Option.map_map]
    exact congrArg (fun f => (pool.get? key).map f) (funext (key_renewal estimate _ pool))
  mlds_eq := by
    rw [h.groups_updateMultiLink, List.map_map]
    rfl
  rest_eq := rfl
  history_eq := rfl

/-- The renewal of the links changes no number. -/
theorem size_updateMultiLink (h : Indexed shared.nextSerial pool)
    (estimate : List (Candidate η) → UInt32) :
    (pool.updateMultiLink estimate shared).pool.size = pool.size := by
  have hlength := congrArg List.length (h.filledIn estimate).keys_eq
  rwa [List.length_map, List.length_map, length_records, length_records] at hlength

/-! ## Filling in twice -/

/-- The candidates of a group afterwards. -/
theorem candidates_links_updateMultiLink (h : Indexed shared.nextSerial pool)
    (estimate : List (Candidate η) → UInt32) (mld : MacAddress) :
    ((pool.updateMultiLink estimate shared).pool.links mld).map (·.candidate) =
      ((pool.links mld).map (·.candidate)).map (pool.renewedCandidate estimate) := by
  rw [h.links_updateMultiLink, List.map_map, List.map_map]
  exact List.map_congr_left fun r _ => candidate_renewal estimate _ pool r

/-- The joint throughput of a group is not changed by being filled in, or anything else. -/
theorem jointThroughput_links_updateMultiLink (h : Indexed shared.nextSerial pool)
    (estimate : List (Candidate η) → UInt32) (mld : MacAddress) :
    MultiLink.jointThroughput
        (((pool.updateMultiLink estimate shared).pool.links mld).map (·.candidate)) =
      MultiLink.jointThroughput ((pool.links mld).map (·.candidate)) := by
  rw [h.candidates_links_updateMultiLink]
  exact MultiLink.jointThroughput_map (frequency_renewedCandidate estimate pool)
    (mbps_renewedCandidate estimate pool) _

/-- A candidate whose joint throughput has been filled in stays as it is the next time. -/
theorem renewedCandidate_again (h : Indexed shared.nextSerial pool) (c : Candidate η) :
    let once := (pool.updateMultiLink MultiLink.jointThroughput shared).pool
    once.renewedCandidate MultiLink.jointThroughput
        (pool.renewedCandidate MultiLink.jointThroughput c) =
      pool.renewedCandidate MultiLink.jointThroughput c := by
  intro once
  cases hmld : c.mld with
  | none =>
    rw [renewedCandidate_of_mld_none _ pool c hmld, renewedCandidate_of_mld_none _ once c hmld]
  | some mld =>
    have hrenewed := renewedCandidate_of_mld MultiLink.jointThroughput pool c hmld
    have hmld' : (pool.renewedCandidate MultiLink.jointThroughput c).mld = some mld := by
      rw [hrenewed]
      exact hmld
    rw [renewedCandidate_of_mld _ once _ hmld', h.jointThroughput_links_updateMultiLink, hrenewed]
    rfl

/-- **The joint throughput is filled in once and for all.** -/
theorem filledIn_again (h : Indexed shared.nextSerial pool) :
    let once := pool.updateMultiLink MultiLink.jointThroughput shared
    let twice := once.pool.updateMultiLink MultiLink.jointThroughput once.shared
    twice.pool.Alike once.pool ∧ ∀ mld,
      (twice.pool.group? mld).map (List.map (·.candidate)) =
        (once.pool.group? mld).map (List.map (·.candidate)) := by
  intro once twice
  have honce : Indexed once.shared.nextSerial once.pool := h.updateMultiLink _
  constructor
  · intro key
    rw [honce.candidateAt_updateMultiLink, h.candidateAt_updateMultiLink, Option.map_map]
    exact congrArg (fun f => (pool.candidateAt key).map f) (funext h.renewedCandidate_again)
  · intro mld
    rw [honce.group?_updateMultiLink, h.group?_updateMultiLink, Option.map_map, Option.map_map,
      Option.map_map]
    refine congrArg (fun f => (pool.group? mld).map f) (funext fun group => ?_)
    simp only [Function.comp_apply, List.map_map]
    refine List.map_congr_left fun r _ => ?_
    simp only [Function.comp_apply, candidate_renewal]
    exact h.renewedCandidate_again r.candidate

end Indexed

end Pool

/-! ## Every pool -/

/-- **Filling in the joint throughput**, in every pool and whichever estimator is asked: every
link is replaced, by one record in both indices that has the figure of its group as it was before;
everything else stays.  With the joint throughput of `MultiLink` nothing is left to fill in the
second time. -/
theorem Course.filledIn_run [BssidHandle η σ] (card : ScoreCard σ η) (config : PoolConfig)
    (seeds : List (Record η)) (shared : Shared σ) (hseeds : Pool.Issued shared.nextSerial seeds)
    (happenings : List (Happening σ η)) (estimate : List (Candidate η) → UInt32) :
    let course := (Course.start (.ofRecords card config seeds) shared).run happenings
    let once := course.pool.updateMultiLink MultiLink.jointThroughput course.shared
    let twice := once.pool.updateMultiLink MultiLink.jointThroughput once.shared
    course.pool.FilledIn estimate course.shared ∧
      twice.pool.records.map (·.candidate) = once.pool.records.map (·.candidate) ∧
      ∀ mld, (twice.pool.group? mld).map (List.map (·.candidate)) =
        (once.pool.group? mld).map (List.map (·.candidate)) := by
  intro course once twice
  have hindexed : course.pool.Indexed course.shared.nextSerial :=
    Course.indexed_run (Pool.indexed_ofRecords hseeds card config) happenings
  obtain ⟨halike, hgroups⟩ := hindexed.filledIn_again
  exact ⟨hindexed.filledIn estimate, halike.candidates_eq, hgroups⟩

/-- A pool that was opened with a link and was offered another link of the same access point and
a candidate that is no link.  One estimator heeds the order of the links: both get twice the first
figure and the second one; the joint throughput of two links on one band is the greater figure. -/
theorem Course.filledIn_run_two_links :
    let seen (n : UInt16) (mbps : UInt32) (mld : Option MacAddress) : Observation :=
      { Observation.ofScan (Scenario.scan ⟨"home"⟩ n (-50)) .saved with mld, mbps }
    let key (n : UInt16) : Key := .ofIdentity ⟨⟨"home"⟩, .psk⟩ (Scenario.radio n) ⟨3⟩
    let config := Scenario.config ⟨3⟩ ⟨"home"⟩
    let seed : Record Handle :=
      { serial := 0
        candidate := .make (key 7) config (seen 7 600 (some (Scenario.accessPoint 1))) none
          ⟨false, false⟩ 50 }
    let shared : Shared History := { history := {}, nextSerial := 1 }
    let happenings : List (Happening History Handle) :=
      [.command (.add (key 8) config (seen 8 300 (some (Scenario.accessPoint 1)))),
        .command (.add (key 9) config (seen 9 200 none))]
    let estimate (links : List (Candidate Handle)) : UInt32 :=
      links.foldl (fun total c => 2 * total + c.mbps) 0
    let course := (Course.start (.ofRecords History.card .lenient [seed]) shared).run happenings
    let once := course.pool.updateMultiLink MultiLink.jointThroughput course.shared
    let twice := once.pool.updateMultiLink MultiLink.jointThroughput once.shared
    let filled := (course.pool.updateMultiLink estimate course.shared).pool
    let mbps (pool : Pool History Handle) (n : UInt16) : Option UInt32 :=
      (pool.get? (key n)).map (·.candidate.multiLinkMbps)
    let groupMbps (pool : Pool History Handle) : Option (List UInt32) :=
      (pool.group? (Scenario.accessPoint 1)).map (List.map (·.candidate.multiLinkMbps))
    Pool.Issued shared.nextSerial [seed] ∧
      (course.pool.updateMultiLink estimate course.shared).answer = 2 ∧
      groupMbps course.pool = some [0, 0] ∧ groupMbps filled = some [1500, 1500] ∧
      mbps filled 7 = some 1500 ∧ mbps filled 8 = some 1500 ∧ mbps filled 9 = some 0 ∧
      groupMbps once.pool = some [600, 600] ∧ groupMbps twice.pool = some [600, 600] ∧
      course.pool.FilledIn estimate course.shared ∧
      twice.pool.records.map (·.candidate) = once.pool.records.map (·.candidate) ∧
      ∀ mld, (twice.pool.group? mld).map (List.map (·.candidate)) =
        (once.pool.group? mld).map (List.map (·.candidate)) := by
  intro seen key config seed shared happenings estimate course once twice filled mbps groupMbps
  have hseeds : Pool.Issued shared.nextSerial [seed] := by
    refine Pool.issued_of_nodup ?_ (List.nodup_singleton _)
    intro r hr
    rw [List.mem_singleton.mp hr]
    exact Nat.zero_lt_one
  have hrun := Course.filledIn_run History.card .lenient [seed] shared hseeds happenings estimate
  exact ⟨hseeds, by decide, by decide, by decide, by decide, by decide, by decide, by decide,
    by decide, hrun⟩

end NetworkSelection
