import NetworkSelection.Proofs.JointThroughput
import NetworkSelection.Proofs.Renewal
import Mathlib.Data.List.Induction

/-!
# Pools that look alike

Whoever looks into a pool sees candidates and not the numbers of their records, and sees them
in the order of their keys or gathered by network or by access point.  All of these views are
determined by which candidate is in which place, save for the order of the links in a group.
Two pools with the same candidates in the same places therefore look alike, and they go on
doing so when the links are given their joint throughput.

* `Pool.Alike`: the same candidates in the same places.
* `Pool.Indexed.ascending_records`, `Pool.getElem?_gathered`: what the list of all records
  and the records by network are.
* `Pool.LookAlike`, `Pool.Alike.lookAlike`: what is seen of pools that are alike.
* `Pool.Alike.updateMultiLink`: they stay alike if the estimator forgets the order.
-/

namespace NetworkSelection

namespace Pool

variable {σ η : Type}

/-- The candidate in a place. -/
def candidateAt (pool : Pool σ η) (key : Key) : Option (Candidate η) :=
  (pool.get? key).map (·.candidate)

/-- Two pools have the same candidates in the same places. -/
def Alike (p q : Pool σ η) : Prop :=
  ∀ key, p.candidateAt key = q.candidateAt key

/-! ## All records -/

/-- The records are listed by strictly ascending keys. -/
theorem Indexed.ascending_records {next : Nat} {pool : Pool σ η} (h : Indexed next pool) :
    pool.records.Pairwise fun r s => compare r.key s.key = .lt := by
  refine List.pairwise_map.mpr (List.Pairwise.imp_of_mem ?_ Std.ExtTreeMap.ordered_keys_toList)
  rintro ⟨key, r⟩ ⟨key', s⟩ hr hs hlt
  rw [Std.ExtTreeMap.mem_toList_iff_getElem?_eq_some] at hr hs
  rw [h.key_eq hr, h.key_eq hs]
  exact hlt

theorem Indexed.nodup_records {next : Nat} {pool : Pool σ η} (h : Indexed next pool) :
    pool.records.Nodup := by
  refine h.ascending_records.imp ?_
  rintro r s hlt rfl
  have hself : compare r.key r.key = .eq := Std.ReflCmp.compare_self
  exact absurd (hself.symm.trans hlt) (by simp)

theorem Indexed.mem_records_iff {next : Nat} {pool : Pool σ η} (h : Indexed next pool)
    {r : Record η} : r ∈ pool.records ↔ pool.get? r.key = some r := by
  rw [mem_records]
  constructor
  · rintro ⟨key, hget⟩
    rw [h.key_eq hget]
    exact hget
  · exact fun hget => ⟨r.key, hget⟩

/-- What is read off all records, one after another, depends on what is read off each place. -/
theorem map_records_congr {α : Type} (f : Record η → α) {p q : Pool σ η}
    (h : ∀ key, (p.get? key).map f = (q.get? key).map f) : p.records.map f = q.records.map f := by
  have hmap : p.byKey.map (fun _ r => f r) = q.byKey.map (fun _ r => f r) := by
    refine Std.ExtTreeMap.ext_getElem? fun key => ?_
    rw [Std.ExtTreeMap.getElem?_map, Std.ExtTreeMap.getElem?_map]
    exact h key
  have hlist : ∀ pool : Pool σ η, pool.records.map f =
      (pool.byKey.map fun _ r => f r).toList.map (·.2) := by
    intro pool
    rw [records, Std.ExtTreeMap.toList_map, List.map_map, List.map_map]
    rfl
  rw [hlist, hlist, hmap]

/-- Pools that are alike list the same candidates in the same order. -/
theorem Alike.candidates_eq {p q : Pool σ η} (h : Alike p q) :
    p.records.map (·.candidate) = q.records.map (·.candidate) :=
  map_records_congr (·.candidate) h

/-! ## The records by network -/

section gathered

variable {α β : Type}

/-- Items gathered by the network they belong to, those of each network in the order in which
they are listed. -/
def gathered (network : α → NetworkId) (items : List α) : Std.ExtTreeMap NetworkId (List α) :=
  items.foldl (fun groups a =>
    groups.alter (network a) fun group => some (group.getD [] ++ [a])) ∅

theorem gathered_concat (network : α → NetworkId) (items : List α) (a : α) :
    gathered network (items ++ [a]) =
      (gathered network items).alter (network a) fun group => some (group.getD [] ++ [a]) := by
  simp only [gathered, List.foldl_append, List.foldl_cons, List.foldl_nil]

/-- A network is listed if something belongs to it, and then with all that does. -/
theorem getElem?_gathered (network : α → NetworkId) (items : List α) (id : NetworkId) :
    (gathered network items)[id]? =
      if (items.filter fun a => network a = id) = [] then none
      else some (items.filter fun a => network a = id) := by
  induction items using List.reverseRecOn with
  | nil => simp [gathered]
  | append_singleton items a ih =>
    rw [gathered_concat, Std.ExtTreeMap.getElem?_alter, List.filter_append, List.filter_singleton]
    by_cases h : network a = id
    · rw [if_pos (Std.LawfulEqCmp.compare_eq_iff_eq.mpr h), h, ih]
      by_cases hnil : (items.filter fun a => network a = id) = [] <;> simp [hnil]
    · rw [if_neg fun he => h (Std.LawfulEqCmp.eq_of_compare he), ih]
      simp [h]

/-- Items may be gathered before or after something is made of each. -/
theorem map_gathered (f : α → β) (network : β → NetworkId) (items : List α) :
    (gathered (fun a => network (f a)) items).map (fun _ group => group.map f) =
      gathered network (items.map f) := by
  refine Std.ExtTreeMap.ext_getElem? fun id => ?_
  have hfilter : (items.map f).filter (fun b => network b = id) =
      (items.filter fun a => network (f a) = id).map f := List.filter_map
  rw [Std.ExtTreeMap.getElem?_map, getElem?_gathered, getElem?_gathered, hfilter]
  by_cases hnil : (items.filter fun a => network (f a) = id) = [] <;> simp [hnil]

end gathered

theorem networks_eq_gathered (pool : Pool σ η) :
    pool.networks = (gathered (fun r => r.candidate.key.id) pool.records).toList := rfl

/-- Pools that are alike have the same candidates by network, in the same order. -/
theorem Alike.networks_eq {p q : Pool σ η} (h : Alike p q) :
    p.networks.map (fun g => (g.1, g.2.map (·.candidate))) =
      q.networks.map fun g => (g.1, g.2.map (·.candidate)) := by
  have hgathered : ∀ pool : Pool σ η,
      pool.networks.map (fun g => (g.1, g.2.map (·.candidate))) =
        (gathered (fun c => c.key.id) (pool.records.map (·.candidate))).toList := by
    intro pool
    rw [networks_eq_gathered, ← map_gathered, Std.ExtTreeMap.toList_map]
  rw [hgathered, hgathered, h.candidates_eq]

/-! ## The links of an access point -/

/-- The links of an access point are the records that belong to it, in some order. -/
theorem Indexed.links_perm {next : Nat} {pool : Pool σ η} (h : Indexed next pool)
    (mld : MacAddress) : (pool.links mld).Perm (pool.records.filter fun r => r.mld = some mld) := by
  refine (List.perm_ext_iff_of_nodup (h.nodup_links mld) (h.nodup_records.filter _)).mpr ?_
  intro r
  rw [h.mem_links, List.mem_filter, h.mem_records_iff, decide_eq_true_eq, and_comm]

/-- Where the same is read off the links of an access point, but for their order, it is read off
its group, and either pool has one or neither. -/
theorem Indexed.group_perm {α : Type} {f : Record η → α} {next next' : Nat} {p q : Pool σ η}
    (hp : Indexed next p) (hq : Indexed next' q) {mld : MacAddress}
    (h : ((p.links mld).map f).Perm ((q.links mld).map f)) :
    Option.Rel List.Perm ((p.group? mld).map (List.map f)) ((q.group? mld).map (List.map f)) := by
  have hlength : (p.links mld).length = (q.links mld).length := by
    simpa only [List.length_map] using h.length_eq
  have hnil : p.links mld = [] ↔ q.links mld = [] := by
    rw [← List.length_eq_zero_iff, hlength, List.length_eq_zero_iff]
  rw [hp.group?_eq, hq.group?_eq]
  by_cases hlinks : p.links mld = []
  · rw [if_pos hlinks, if_pos (hnil.mp hlinks)]
    exact .none
  · rw [if_neg hlinks, if_neg fun hq => hlinks (hnil.mpr hq)]
    exact .some h

/-- Pools that are alike have the same candidates at each access point, in some order. -/
theorem Alike.links_perm {next next' : Nat} {p q : Pool σ η} (h : Alike p q)
    (hp : Indexed next p) (hq : Indexed next' q) (mld : MacAddress) :
    ((p.links mld).map (·.candidate)).Perm ((q.links mld).map (·.candidate)) := by
  have hfilter : ∀ pool : Pool σ η,
      (pool.records.filter fun r => r.mld = some mld).map (·.candidate) =
        (pool.records.map (·.candidate)).filter fun c => c.mld = some mld := by
    intro pool
    rw [List.filter_map]
    rfl
  calc ((p.links mld).map (·.candidate)).Perm _ := (hp.links_perm mld).map _
    _ = (q.records.filter fun r => r.mld = some mld).map (·.candidate) := by
      rw [hfilter, hfilter, h.candidates_eq]
    List.Perm _ _ := ((hq.links_perm mld).map _).symm

/-! ## What is seen -/

/-- What is seen of two pools is the same: their candidates, all of them and by network, in
the same order, their groups but for the order of the links, and whatever a scorer chooses. -/
structure LookAlike (p q : Pool σ η) : Prop where
  candidates_eq : p.records.map (·.candidate) = q.records.map (·.candidate)
  networks_eq : p.networks.map (fun g => (g.1, g.2.map (·.candidate))) =
    q.networks.map fun g => (g.1, g.2.map (·.candidate))
  /-- The same access points have a group, and each group has the same links. -/
  group_perm : ∀ mld, Option.Rel List.Perm ((p.group? mld).map (List.map (·.candidate)))
    ((q.group? mld).map (List.map (·.candidate)))
  choose_eq : ∀ scorer, p.choose scorer = q.choose scorer

/-- **Pools that are alike look alike.** -/
theorem Alike.lookAlike {next next' : Nat} {p q : Pool σ η} (h : Alike p q)
    (hp : Indexed next p) (hq : Indexed next' q) : LookAlike p q where
  candidates_eq := h.candidates_eq
  networks_eq := h.networks_eq
  group_perm mld := hp.group_perm hq (h.links_perm hp hq mld)
  choose_eq scorer := by simp only [choose, h.candidates_eq]

/-! ## The joint throughput filled in -/

theorem Indexed.candidateAt_updateMultiLink {pool : Pool σ η} {shared : Shared σ}
    (h : Indexed shared.nextSerial pool) (estimate : List (Candidate η) → UInt32) (key : Key) :
    (pool.updateMultiLink estimate shared).pool.candidateAt key =
      (pool.candidateAt key).map (pool.renewedCandidate estimate) := by
  rw [candidateAt, h.get?_updateMultiLink, candidateAt, Option.map_map, Option.map_map]
  exact congrArg (fun f => (pool.get? key).map f) (funext (candidate_renewal estimate _ pool))

/-- **Pools that are alike stay alike** when their links are renewed, provided that the
estimator does not heed the order of the links. -/
theorem Alike.updateMultiLink {p q : Pool σ η} {shared shared' : Shared σ} (h : Alike p q)
    (hp : Indexed shared.nextSerial p) (hq : Indexed shared'.nextSerial q)
    {estimate : List (Candidate η) → UInt32}
    (hestimate : ∀ {links links'}, links.Perm links' → estimate links = estimate links') :
    Alike (p.updateMultiLink estimate shared).pool (q.updateMultiLink estimate shared').pool := by
  have hsame : p.renewedCandidate estimate = q.renewedCandidate estimate := by
    funext candidate
    unfold renewedCandidate
    cases candidate.mld with
    | none => rfl
    | some mld =>
      exact congrArg (candidate.withMultiLinkMbps ·) (hestimate (h.links_perm hp hq mld))
  intro key
  rw [hp.candidateAt_updateMultiLink, hq.candidateAt_updateMultiLink, hsame, h key]

end Pool

end NetworkSelection
