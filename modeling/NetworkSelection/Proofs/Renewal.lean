import NetworkSelection.Pool.Throughput
import NetworkSelection.Proofs.Indices

/-!
# Renewing the links

Filling in the joint throughput replaces records in both indices.  What comes of it is
best seen as *one* function on records that is applied in both: a record that is no link
stays, and a link becomes a new record, with a number of its own, that agrees with the
old one but for the joint throughput of its group.

* `Pool.renewal`: this function, given which number each link receives.
* `Pool.candidate_renewal`: what becomes of the candidates.
* `Pool.linkNumber`: the numbers that are given out.
* `Pool.Indexed.get?_updateMultiLink`, `Pool.Indexed.group?_updateMultiLink`: both indices
  after the renewal are the indices before, with this function applied to every record.
* `Pool.Indexed.updateMultiLink`: the indices agree afterwards.
-/

namespace NetworkSelection

namespace Pool

variable {σ η : Type}

/-- What becomes of a record, if it receives that number: a link gets the throughput that
the estimator finds for its group as it is now, and any other record stays. -/
def renewal (estimate : List (Candidate η) → UInt32) (number : Record η → Nat)
    (pool : Pool σ η) (r : Record η) : Record η :=
  match r.mld with
  | none => r
  | some mld =>
    { serial := number r
      candidate := r.candidate.withMultiLinkMbps
        (estimate ((pool.links mld).map (·.candidate))) }

/-- What becomes of a candidate: a link gets the throughput that the estimator finds for its
group as it is now, and any other candidate stays. -/
def renewedCandidate (estimate : List (Candidate η) → UInt32) (pool : Pool σ η)
    (candidate : Candidate η) : Candidate η :=
  match candidate.mld with
  | none => candidate
  | some mld => candidate.withMultiLinkMbps (estimate ((pool.links mld).map (·.candidate)))

section renewedCandidate

variable (estimate : List (Candidate η) → UInt32) (pool : Pool σ η) (c : Candidate η)

@[simp] theorem frequency_renewedCandidate :
    (pool.renewedCandidate estimate c).frequency = c.frequency := by
  unfold renewedCandidate
  split <;> rfl

@[simp] theorem mbps_renewedCandidate : (pool.renewedCandidate estimate c).mbps = c.mbps := by
  unfold renewedCandidate
  split <;> rfl

theorem renewedCandidate_of_mld_none (h : c.mld = none) :
    pool.renewedCandidate estimate c = c := by
  simp only [renewedCandidate, h]

theorem renewedCandidate_of_mld {mld : MacAddress} (h : c.mld = some mld) :
    pool.renewedCandidate estimate c =
      c.withMultiLinkMbps (estimate ((pool.links mld).map (·.candidate))) := by
  simp only [renewedCandidate, h]

end renewedCandidate

section renewal

variable (estimate : List (Candidate η) → UInt32) (number : Record η → Nat) (pool : Pool σ η)

@[simp] theorem key_renewal (r : Record η) :
    (pool.renewal estimate number r).key = r.key := by
  unfold renewal
  split <;> rfl

@[simp] theorem mld_renewal (r : Record η) :
    (pool.renewal estimate number r).mld = r.mld := by
  unfold renewal
  split <;> rfl

theorem candidate_renewal (r : Record η) :
    (pool.renewal estimate number r).candidate = pool.renewedCandidate estimate r.candidate := by
  unfold renewal renewedCandidate Record.mld
  cases r.candidate.mld <;> rfl

/-- A renewal changes no more of a candidate than its joint throughput. -/
theorem candidate_renewal_eq (r : Record η) :
    (pool.renewal estimate number r).candidate =
      r.candidate.withMultiLinkMbps (pool.renewal estimate number r).candidate.multiLinkMbps := by
  unfold renewal
  split <;> rfl

theorem renewal_of_mld {r : Record η} {mld : MacAddress} (h : r.mld = some mld) :
    pool.renewal estimate number r =
      { serial := number r
        candidate := r.candidate.withMultiLinkMbps
          (estimate ((pool.links mld).map (·.candidate))) } := by
  unfold renewal
  split
  · next hnone => exact absurd (h.symm.trans hnone) (by simp)
  · next m hsome =>
    have hm : mld = m := Option.some.inj (h.symm.trans hsome)
    rw [hm]

theorem renewal_of_mld_none {r : Record η} (h : r.mld = none) :
    pool.renewal estimate number r = r := by
  unfold renewal
  split
  · rfl
  · next m hsome => exact absurd (h.symm.trans hsome) (by simp)

end renewal

/-! ## Numbering the links

Numbers are given out from group to group and, within a group, from link to link.  If a
function names the numbers that way, the renewed groups are the groups with every link
renewed under its number. -/

theorem renewed_eq_map {number : Record η → Nat} (mbps : UInt32) (links : List (Record η))
    (serial : Nat) (hnumber : ∀ p ∈ links.zipIdx serial, number p.1 = p.2) :
    renewed mbps links serial =
      links.map fun r => { serial := number r, candidate := r.candidate.withMultiLinkMbps mbps } := by
  induction links generalizing serial with
  | nil => rfl
  | cons r rest ih =>
    rw [List.zipIdx_cons, List.forall_mem_cons] at hnumber
    obtain ⟨hr, hrest⟩ := hnumber
    rw [renewed, ih (serial + 1) hrest, List.map_cons, hr]

theorem renewedGroups_eq_map {number : Record η → Nat}
    (estimate : List (Candidate η) → UInt32) (groups : List (MacAddress × List (Record η)))
    (serial : Nat)
    (hnumber : ∀ p ∈ (groups.flatMap (·.2)).zipIdx serial, number p.1 = p.2) :
    renewedGroups estimate groups serial =
      groups.map fun g => (g.1, g.2.map fun r =>
        { serial := number r
          candidate := r.candidate.withMultiLinkMbps (estimate (g.2.map (·.candidate))) }) := by
  induction groups generalizing serial with
  | nil => rfl
  | cons g rest ih =>
    rw [List.flatMap_cons, List.zipIdx_append, List.forall_mem_append] at hnumber
    obtain ⟨hlinks, hrest⟩ := hnumber
    rw [renewedGroups, ih _ hrest, renewed_eq_map _ g.2 serial hlinks, List.map_cons]

/-! ## All links of a pool -/

/-- The links of all groups, one group after another. -/
def allLinks (pool : Pool σ η) : List (Record η) :=
  pool.groups.flatMap (·.2)

/-- The number that the renewal of a pool gives to a link, if `next` is the first one. -/
def linkNumber (next : Nat) (pool : Pool σ η) (r : Record η) : Nat :=
  next + (pool.allLinks.map Record.key).idxOf r.key

theorem linkNumber_lt {next : Nat} {pool : Pool σ η} {r : Record η} (hr : r ∈ pool.allLinks) :
    linkNumber next pool r < next + pool.allLinks.length := by
  have hlt := List.idxOf_lt_length_of_mem (List.mem_map_of_mem (f := Record.key) hr)
  rw [List.length_map] at hlt
  exact Nat.add_lt_add_left hlt next

theorem key_eq_of_linkNumber_eq {next : Nat} {pool : Pool σ η} {r s : Record η}
    (hr : r ∈ pool.allLinks) (h : linkNumber next pool r = linkNumber next pool s) :
    r.key = s.key :=
  (List.idxOf_inj (List.mem_map_of_mem hr)).mp (Nat.add_left_cancel h)

theorem mem_groups {pool : Pool σ η} {mld : MacAddress} {group : List (Record η)} :
    (mld, group) ∈ pool.groups ↔ pool.group? mld = some group :=
  Std.ExtTreeMap.mem_toList_iff_getElem?_eq_some

namespace Indexed

variable {next : Nat} {pool : Pool σ η}

/-- All links are the records in place that belong to some multi-link access point. -/
theorem mem_allLinks (h : Indexed next pool) {r : Record η} :
    r ∈ pool.allLinks ↔ r.mld ≠ none ∧ pool.get? r.key = some r := by
  unfold allLinks
  rw [List.mem_flatMap]
  constructor
  · rintro ⟨⟨mld, group⟩, hg, hr⟩
    rw [← links_of_group? (mem_groups.mp hg)] at hr
    obtain ⟨hmld, hget⟩ := h.mem_links.mp hr
    exact ⟨by rw [hmld]; simp, hget⟩
  · rintro ⟨hmld, hget⟩
    obtain ⟨mld, hmld⟩ := Option.ne_none_iff_exists'.mp hmld
    have hr : r ∈ pool.links mld := h.mem_links.mpr ⟨hmld, hget⟩
    refine ⟨(mld, pool.links mld), mem_groups.mpr ?_, hr⟩
    rw [h.group?_eq, if_neg (List.ne_nil_of_mem hr)]

/-- No key occurs twice among all links. -/
theorem nodup_keys_allLinks (h : Indexed next pool) : (pool.allLinks.map Record.key).Nodup := by
  have hnodup : pool.allLinks.Nodup := by
    refine List.nodup_flatMap.mpr ⟨?_, ?_⟩
    · rintro ⟨mld, group⟩ hg
      rw [← links_of_group? (mem_groups.mp hg)]
      exact h.nodup_links mld
    · refine List.Pairwise.imp_of_mem ?_ Std.ExtTreeMap.distinct_keys_toList
      rintro ⟨mld, group⟩ ⟨mld', group'⟩ hg hg' hne r hr hr'
      rw [← links_of_group? (mem_groups.mp hg)] at hr
      rw [← links_of_group? (mem_groups.mp hg')] at hr'
      have hmld : some mld = some mld' :=
        (h.mem_links.mp hr).1.symm.trans (h.mem_links.mp hr').1
      refine hne ?_
      rw [Option.some.inj hmld]
      exact Std.ReflCmp.compare_self
  refine hnodup.map_on fun r hr s hs hkey => ?_
  have hget := (h.mem_allLinks.mp hr).2
  rw [hkey, (h.mem_allLinks.mp hs).2] at hget
  exact (Option.some.inj hget).symm

/-- The numbers are given out one after another. -/
theorem linkNumber_of_mem_zipIdx (h : Indexed next pool) :
    ∀ p ∈ pool.allLinks.zipIdx next, linkNumber next pool p.1 = p.2 := by
  rintro ⟨r, i⟩ hp
  obtain ⟨hle, hget⟩ : next ≤ i ∧ pool.allLinks[i - next]? = some r :=
    List.mem_zipIdx_iff_le_and_getElem?_sub.mp hp
  obtain ⟨hlt, hget⟩ := List.getElem?_eq_some_iff.mp hget
  have hidx := h.nodup_keys_allLinks.idxOf_getElem (i - next) (by rw [List.length_map]; exact hlt)
  rw [List.getElem_map, hget] at hidx
  show next + (pool.allLinks.map Record.key).idxOf r.key = i
  omega

/-! ## One function in both indices -/

/-- The groups that a renewal makes are the groups of the pool with every link renewed. -/
theorem renewedGroups_eq (h : Indexed next pool) (estimate : List (Candidate η) → UInt32) :
    renewedGroups estimate pool.groups next =
      pool.groups.map fun g =>
        (g.1, g.2.map (pool.renewal estimate (linkNumber next pool))) := by
  rw [renewedGroups_eq_map estimate pool.groups next h.linkNumber_of_mem_zipIdx]
  refine List.map_congr_left ?_
  rintro ⟨mld, group⟩ hg
  have hlinks := links_of_group? (mem_groups.mp hg)
  refine congrArg (Prod.mk mld) (List.map_congr_left fun r hr => ?_)
  rw [← hlinks] at hr
  rw [renewal_of_mld estimate _ pool (h.mem_links.mp hr).1, hlinks]

/-- All renewed links are all links, renewed. -/
theorem flatMap_renewedGroups (h : Indexed next pool) (estimate : List (Candidate η) → UInt32) :
    (renewedGroups estimate pool.groups next).flatMap (·.2) =
      pool.allLinks.map (pool.renewal estimate (linkNumber next pool)) := by
  rw [h.renewedGroups_eq, allLinks, List.flatMap_map, List.map_flatMap]

variable {shared : Shared σ}

/-- After a renewal every place holds what became of the record in it. -/
theorem get?_updateMultiLink (h : Indexed shared.nextSerial pool)
    (estimate : List (Candidate η) → UInt32) (key : Key) :
    (pool.updateMultiLink estimate shared).pool.get? key =
      (pool.get? key).map (pool.renewal estimate (linkNumber shared.nextSerial pool)) := by
  have hitems : ((renewedGroups estimate pool.groups shared.nextSerial).flatMap (·.2)).map
      (fun r => (r.key, r)) = pool.allLinks.map fun r =>
        (r.key, pool.renewal estimate (linkNumber shared.nextSerial pool) r) := by
    rw [h.flatMap_renewedGroups, List.map_map]
    refine List.map_congr_left fun r _ => ?_
    show (Record.key (pool.renewal _ _ r), _) = _
    rw [key_renewal]
  show (pool.byKey.insertMany _)[key]? = _
  rw [hitems]
  by_cases hlink : ∃ r ∈ pool.allLinks, r.key = key
  · obtain ⟨r, hr, rfl⟩ := hlink
    rw [(h.mem_allLinks.mp hr).2]
    refine Std.ExtTreeMap.getElem?_insertMany_list_of_mem Std.ReflCmp.compare_self ?_
      (List.mem_map_of_mem hr)
    rw [List.pairwise_map]
    have hkeys := List.pairwise_map.mp h.nodup_keys_allLinks
    exact hkeys.imp fun hne he => hne (Std.LawfulEqCmp.eq_of_compare he)
  · rw [Std.ExtTreeMap.getElem?_insertMany_list_of_contains_eq_false]
    · show pool.get? key = _
      cases hget : pool.get? key with
      | none => rfl
      | some r =>
        -- a record that is no link of any group keeps its place
        have hkey := h.key_eq hget
        have hmld : r.mld = none := by
          by_contra hne
          exact hlink ⟨r, h.mem_allLinks.mpr ⟨hne, by rw [hkey]; exact hget⟩, hkey⟩
        rw [Option.map_some, renewal_of_mld_none estimate _ pool hmld]
    · rw [List.contains_eq_mem, List.map_map]
      refine decide_eq_false fun hmem => ?_
      obtain ⟨r, hr, hkey⟩ := List.mem_map.mp hmem
      exact hlink ⟨r, hr, hkey⟩

/-- After a renewal every group holds what became of its links, in the same order. -/
theorem group?_updateMultiLink (h : Indexed shared.nextSerial pool)
    (estimate : List (Candidate η) → UInt32) (mld : MacAddress) :
    (pool.updateMultiLink estimate shared).pool.group? mld =
      (pool.group? mld).map
        (List.map (pool.renewal estimate (linkNumber shared.nextSerial pool))) := by
  show (pool.byMld.insertMany _)[mld]? = _
  rw [h.renewedGroups_eq]
  cases hg : pool.group? mld with
  | some group =>
    refine Std.ExtTreeMap.getElem?_insertMany_list_of_mem Std.ReflCmp.compare_self ?_
      (List.mem_map.mpr ⟨(mld, group), mem_groups.mpr hg, rfl⟩)
    rw [List.pairwise_map]
    exact Std.ExtTreeMap.distinct_keys_toList
  | none =>
    rw [Std.ExtTreeMap.getElem?_insertMany_list_of_contains_eq_false]
    · exact hg
    · rw [List.contains_eq_mem, List.map_map]
      refine decide_eq_false fun hmem => ?_
      obtain ⟨⟨mld', group⟩, hmem, hmld⟩ := List.mem_map.mp hmem
      have hmld : mld' = mld := hmld
      rw [mem_groups, hmld, hg] at hmem
      exact absurd hmem (by simp)

/-- The same for the links as a list. -/
theorem links_updateMultiLink (h : Indexed shared.nextSerial pool)
    (estimate : List (Candidate η) → UInt32) (mld : MacAddress) :
    (pool.updateMultiLink estimate shared).pool.links mld =
      (pool.links mld).map (pool.renewal estimate (linkNumber shared.nextSerial pool)) := by
  rw [links, h.group?_updateMultiLink, links]
  cases pool.group? mld <;> rfl

/-- The groups are listed as before, each with what became of its links. -/
theorem groups_updateMultiLink (h : Indexed shared.nextSerial pool)
    (estimate : List (Candidate η) → UInt32) :
    (pool.updateMultiLink estimate shared).pool.groups = pool.groups.map fun g =>
      (g.1, g.2.map (pool.renewal estimate (linkNumber shared.nextSerial pool))) := by
  have hmap : (pool.updateMultiLink estimate shared).pool.byMld = pool.byMld.map fun _ group =>
      group.map (pool.renewal estimate (linkNumber shared.nextSerial pool)) := by
    refine Std.ExtTreeMap.ext_getElem? fun mld => ?_
    rw [Std.ExtTreeMap.getElem?_map]
    exact h.group?_updateMultiLink estimate mld
  rw [groups, hmap, Std.ExtTreeMap.toList_map]
  rfl

/-- As many numbers are used up as there are links. -/
theorem nextSerial_updateMultiLink (h : Indexed shared.nextSerial pool)
    (estimate : List (Candidate η) → UInt32) :
    (pool.updateMultiLink estimate shared).shared.nextSerial =
      shared.nextSerial + pool.allLinks.length := by
  show shared.nextSerial + List.length _ = _
  rw [h.flatMap_renewedGroups, List.length_map]

end Indexed

/-! ## The indices agree afterwards -/

/-- A function on records that keeps keys and access points may be applied in both indices
at once, as long as the numbers stay apart. -/
theorem Indexed.map {next next' : Nat} {pool pool' : Pool σ η} (h : Indexed next pool)
    {f : Record η → Record η} (hkey : ∀ r, (f r).key = r.key) (hmld : ∀ r, (f r).mld = r.mld)
    (hget : ∀ key, pool'.get? key = (pool.get? key).map f)
    (hgroup : ∀ mld, pool'.group? mld = (pool.group? mld).map (List.map f))
    (hlt : ∀ r, pool.get? r.key = some r → (f r).serial < next')
    (hinj : ∀ r s, pool.get? r.key = some r → pool.get? s.key = some s →
      (f r).serial = (f s).serial → r = s) : Indexed next' pool' := by
  have hlinks : ∀ mld, pool'.links mld = (pool.links mld).map f := by
    intro mld
    rw [links, hgroup, links]
    cases pool.group? mld <;> rfl
  have hfrom : ∀ {key r}, pool'.get? key = some r →
      ∃ s, f s = r ∧ s.key = key ∧ pool.get? s.key = some s := by
    intro key r hr
    rw [hget] at hr
    obtain ⟨s, hs, hf⟩ := Option.map_eq_some_iff.mp hr
    exact ⟨s, hf, h.key_eq hs, by rw [h.key_eq hs]; exact hs⟩
  constructor
  case key_eq =>
    intro key r hr
    obtain ⟨s, rfl, hs, _⟩ := hfrom hr
    rw [hkey, hs]
  case group_ne_nil =>
    intro mld hnil
    rw [hgroup] at hnil
    obtain ⟨group, hg, hmap⟩ := Option.map_eq_some_iff.mp hnil
    rw [List.map_eq_nil_iff.mp hmap] at hg
    exact h.group_ne_nil mld hg
  case mem_links =>
    intro mld r
    rw [hlinks, List.mem_map]
    constructor
    · rintro ⟨s, hs, rfl⟩
      obtain ⟨hm, hin⟩ := h.mem_links.mp hs
      exact ⟨by rw [hmld]; exact hm, by rw [hkey, hget, hin]; rfl⟩
    · rintro ⟨hm, hin⟩
      obtain ⟨s, rfl, _, hs⟩ := hfrom hin
      rw [hmld] at hm
      exact ⟨s, h.mem_links.mpr ⟨hm, hs⟩, rfl⟩
  case nodup_links =>
    intro mld
    rw [hlinks]
    refine (h.nodup_links mld).map_on fun r hr s hs he => ?_
    exact hinj r s (h.mem_links.mp hr).2 (h.mem_links.mp hs).2 (congrArg Record.serial he)
  case serial_lt =>
    intro key r hr
    obtain ⟨s, rfl, _, hs⟩ := hfrom hr
    exact hlt s hs
  case serial_inj =>
    intro key key' r t hr ht hserial
    obtain ⟨r, rfl, _, hr⟩ := hfrom hr
    obtain ⟨t, rfl, _, ht⟩ := hfrom ht
    rw [hinj r t hr ht hserial]

/-- What a renewal makes of a record in place: a record that is no link stays, and a link
receives the number that was set aside for it. -/
theorem Indexed.renewal_cases {next : Nat} {pool : Pool σ η} (h : Indexed next pool)
    (estimate : List (Candidate η) → UInt32) {r : Record η} (hr : pool.get? r.key = some r) :
    (r.mld = none ∧ pool.renewal estimate (linkNumber next pool) r = r) ∨
      (r ∈ pool.allLinks ∧
        (pool.renewal estimate (linkNumber next pool) r).serial = linkNumber next pool r) := by
  cases hm : r.mld with
  | none => exact Or.inl ⟨rfl, renewal_of_mld_none estimate _ pool hm⟩
  | some mld =>
    refine Or.inr ⟨h.mem_allLinks.mpr ⟨by rw [hm]; simp, hr⟩, ?_⟩
    rw [renewal_of_mld estimate _ pool hm]

theorem le_linkNumber (next : Nat) (pool : Pool σ η) (r : Record η) :
    next ≤ linkNumber next pool r :=
  Nat.le_add_right _ _

/-- **Renewal keeps the indices in agreement.** -/
theorem Indexed.updateMultiLink {pool : Pool σ η} {shared : Shared σ}
    (h : Indexed shared.nextSerial pool) (estimate : List (Candidate η) → UInt32) :
    Indexed (pool.updateMultiLink estimate shared).shared.nextSerial
      (pool.updateMultiLink estimate shared).pool := by
  have hle := le_linkNumber shared.nextSerial pool
  refine h.map (key_renewal estimate _ pool) (mld_renewal estimate _ pool)
    (h.get?_updateMultiLink estimate) (h.group?_updateMultiLink estimate) ?_ ?_
  · intro r hr
    rw [h.nextSerial_updateMultiLink]
    rcases h.renewal_cases estimate hr with ⟨_, hstay⟩ | ⟨hmem, hnew⟩
    · have := h.serial_lt hr
      rw [hstay]
      omega
    · rw [hnew]
      exact linkNumber_lt hmem
  · intro r s hr hs hserial
    -- a record that stays has an old number, and a new number tells links apart by their keys
    rcases h.renewal_cases estimate hr with ⟨_, hstay⟩ | ⟨hmem, hnew⟩ <;>
      rcases h.renewal_cases estimate hs with ⟨_, hstay'⟩ | ⟨hmem', hnew'⟩
    · rw [hstay, hstay'] at hserial
      exact h.serial_inj hr hs hserial
    · rw [hstay, hnew'] at hserial
      have := h.serial_lt hr
      have := hle s
      omega
    · rw [hnew, hstay'] at hserial
      have := h.serial_lt hs
      have := hle r
      omega
    · rw [hnew, hnew'] at hserial
      have hkey := key_eq_of_linkNumber_eq hmem hserial
      rw [hkey, hs] at hr
      exact (Option.some.inj hr).symm

end Pool

end NetworkSelection
