import NetworkSelection.Pool.Lemmas
import Mathlib.Data.List.Nodup

/-!
# The two indices agree

A pool finds its records by key and, if they are links, by the address of their
multi-link access point.  The two indices are changed by hand, side by side, and a
record is recognised by its serial number, so the agreement of the indices has to be
carried together with a statement about the numbers: no two records in place bear the
same one, and all of them have been given out.  Only then does taking away a number
from a group take away one link and no other.

* `Pool.links`: the links of an access point as a list, empty if there is no group.
* `Pool.Indexed`: the invariant.
* `Pool.Indexed.insert`, `Pool.Indexed.drop`, `Pool.Indexed.supplant`: a record that
  comes, goes, or takes over a place keeps it.
* `Pool.Indexed.get?_supplant`, `Pool.Indexed.links_supplant`: what is found after a
  record took over a place; `Pool.Indexed.size_supplant`: and how many there are.
-/

namespace NetworkSelection

namespace Pool

variable {σ η : Type}

/-! ## Links as a list -/

/-- The links of a multi-link access point in the order in which they came. -/
def links (pool : Pool σ η) (mld : MacAddress) : List (Record η) :=
  (pool.group? mld).getD []

theorem links_of_group? {pool : Pool σ η} {mld : MacAddress} {group : List (Record η)}
    (h : pool.group? mld = some group) : pool.links mld = group := by
  rw [links, h]
  rfl

theorem links_insert (r : Record η) (pool : Pool σ η) (mld : MacAddress) :
    (pool.insert r).links mld = pool.links mld ++ if r.mld = some mld then [r] else [] := by
  rw [links, group?_insert]
  by_cases h : r.mld = some mld
  · rw [if_pos h, if_pos h]
    rfl
  · rw [if_neg h, if_neg h, List.append_nil]
    rfl

theorem getD_withoutLink (serial : Nat) (group : List (Record η)) :
    (withoutLink serial group).getD [] = group.filter fun r => r.serial ≠ serial := by
  unfold withoutLink
  split
  · next h => rw [h]; rfl
  · rfl

theorem links_drop (r : Record η) (pool : Pool σ η) (mld : MacAddress) :
    (pool.drop r).links mld =
      if r.mld = some mld then (pool.links mld).filter fun s => s.serial ≠ r.serial
      else pool.links mld := by
  rw [links, group?_drop]
  by_cases h : r.mld = some mld
  · rw [if_pos h, if_pos h]
    cases hg : pool.group? mld with
    | none => rw [links, hg]; rfl
    | some group => rw [links, hg]; exact getD_withoutLink r.serial group
  · rw [if_neg h, if_neg h]
    rfl

/-! ## The invariant -/

/-- The two indices hold the same records, and the number of a record tells it from all
others in place.  All numbers are below `next`. -/
structure Indexed (next : Nat) (pool : Pool σ η) : Prop where
  /-- The record in a place has its key. -/
  key_eq : ∀ {key r}, pool.get? key = some r → r.key = key
  /-- A group has at least one link. -/
  group_ne_nil : ∀ mld, pool.group? mld ≠ some []
  /-- The links of an access point are the records in place that belong to it. -/
  mem_links : ∀ {mld r}, r ∈ pool.links mld ↔ r.mld = some mld ∧ pool.get? r.key = some r
  /-- No link stands in its group twice. -/
  nodup_links : ∀ mld, (pool.links mld).Nodup
  /-- The numbers have been given out. -/
  serial_lt : ∀ {key r}, pool.get? key = some r → r.serial < next
  /-- No number was given to two records. -/
  serial_inj : ∀ {key key' r s}, pool.get? key = some r → pool.get? key' = some s →
    r.serial = s.serial → r = s

theorem indexed_empty (card : ScoreCard σ η) (config : PoolConfig) (next : Nat) :
    Indexed next (empty card config) where
  key_eq h := by simp at h
  group_ne_nil mld := by simp
  mem_links := by simp [links]
  nodup_links mld := by simp [links]
  serial_lt h := by simp at h
  serial_inj h := by simp at h

namespace Indexed

variable {next : Nat} {pool : Pool σ η}

theorem mono (h : Indexed next pool) {next' : Nat} (hle : next ≤ next') :
    Indexed next' pool :=
  { h with serial_lt := fun hget => Nat.lt_of_lt_of_le (h.serial_lt hget) hle }

/-- The invariant is about the two indices alone. -/
theorem congr (h : Indexed next pool) {pool' : Pool σ η} (hkey : pool'.byKey = pool.byKey)
    (hmld : pool'.byMld = pool.byMld) : Indexed next pool' := by
  have hget : ∀ key, pool'.get? key = pool.get? key := fun key => by rw [get?, get?, hkey]
  have hgroup : ∀ mld, pool'.group? mld = pool.group? mld := fun mld => by
    rw [group?, group?, hmld]
  have hlinks : ∀ mld, pool'.links mld = pool.links mld := fun mld => by
    rw [links, links, hgroup]
  constructor
  · intro key r hr
    exact h.key_eq ((hget key).symm.trans hr)
  · intro mld
    rw [hgroup]
    exact h.group_ne_nil mld
  · intro mld r
    rw [hlinks, hget]
    exact h.mem_links
  · intro mld
    rw [hlinks]
    exact h.nodup_links mld
  · intro key r hr
    exact h.serial_lt ((hget key).symm.trans hr)
  · intro key key' r s hr hs
    exact h.serial_inj ((hget key).symm.trans hr) ((hget key').symm.trans hs)

/-- The group of an access point is the list of its links, and is there if that list is
not empty. -/
theorem group?_eq (h : Indexed next pool) (mld : MacAddress) :
    pool.group? mld = if pool.links mld = [] then none else some (pool.links mld) := by
  cases hg : pool.group? mld with
  | none => rw [links, hg]; rfl
  | some group =>
    rw [links_of_group? hg, if_neg]
    rintro rfl
    exact h.group_ne_nil mld hg

/-- The keys of a group are those of the links. -/
theorem group?_keys (h : Indexed next pool) (mld : MacAddress) :
    (pool.group? mld).map (List.map Record.key) =
      if (pool.links mld).map Record.key = [] then none
      else some ((pool.links mld).map Record.key) := by
  rw [h.group?_eq]
  by_cases hlinks : pool.links mld = [] <;> simp [hlinks]

/-- Of the links of an access point only the record itself bears its number. -/
theorem eq_of_mem_links (h : Indexed next pool) {mld : MacAddress} {r s : Record η}
    (hs : s ∈ pool.links mld) (hget : pool.get? r.key = some r)
    (hserial : s.serial = r.serial) : s = r :=
  h.serial_inj (h.mem_links.mp hs).2 hget hserial

/-! ## Coming and going -/

/-- A new record may take a free place. -/
theorem insert (h : Indexed next pool) {r : Record η} (hfree : pool.get? r.key = none)
    (hfresh : ∀ key s, pool.get? key = some s → s.serial ≠ r.serial) (hlt : r.serial < next) :
    Indexed next (pool.insert r) := by
  have hget : ∀ {key s}, (pool.insert r).get? key = some s →
      (s = r ∧ r.key = key) ∨ pool.get? key = some s := by
    intro key s hs
    rw [get?_insert] at hs
    by_cases hk : r.key = key
    · rw [if_pos hk] at hs
      exact Or.inl ⟨(Option.some.inj hs).symm, hk⟩
    · rw [if_neg hk] at hs
      exact Or.inr hs
  have hnotMem : ∀ mld, r ∉ pool.links mld := by
    intro mld hmem
    have := (h.mem_links.mp hmem).2
    rw [hfree] at this
    exact absurd this (by simp)
  constructor
  case key_eq =>
    intro key s hs
    rcases hget hs with ⟨rfl, hk⟩ | hs
    · exact hk
    · exact h.key_eq hs
  case group_ne_nil =>
    intro mld
    rw [group?_insert]
    split
    · simp
    · exact h.group_ne_nil mld
  case mem_links =>
    intro mld s
    rw [links_insert, List.mem_append, h.mem_links, get?_insert]
    by_cases hk : r.key = s.key
    · -- the place was free, so of the records with this key only the new one counts
      rw [if_pos hk, ← hk, hfree]
      by_cases hm : r.mld = some mld
      · simp only [hm, if_true, List.mem_singleton, reduceCtorEq, and_false, false_or,
          Option.some.injEq]
        constructor
        · rintro rfl
          exact ⟨hm, rfl⟩
        · rintro ⟨_, rfl⟩
          rfl
      · simp only [hm, if_false, List.not_mem_nil, reduceCtorEq, and_false, false_or,
          Option.some.injEq, false_iff, not_and]
        rintro hs rfl
        exact hm hs
    · rw [if_neg hk]
      refine or_iff_left fun hmem => hk ?_
      split at hmem
      · rw [List.mem_singleton.mp hmem]
      · exact absurd hmem List.not_mem_nil
  case nodup_links =>
    intro mld
    rw [links_insert]
    split
    · refine List.nodup_append.mpr ⟨h.nodup_links mld, List.nodup_singleton r, ?_⟩
      intro a ha b hb hab
      rw [hab, List.mem_singleton.mp hb] at ha
      exact hnotMem mld ha
    · rw [List.append_nil]
      exact h.nodup_links mld
  case serial_lt =>
    intro key s hs
    rcases hget hs with ⟨rfl, _⟩ | hs
    · exact hlt
    · exact h.serial_lt hs
  case serial_inj =>
    intro key key' s t hs ht hserial
    rcases hget hs with ⟨hsr, _⟩ | hs'
    · rcases hget ht with ⟨htr, _⟩ | ht'
      · rw [hsr, htr]
      · rw [hsr] at hserial
        exact absurd hserial.symm (hfresh key' t ht')
    · rcases hget ht with ⟨htr, _⟩ | ht'
      · rw [htr] at hserial
        exact absurd hserial (hfresh key s hs')
      · exact h.serial_inj hs' ht' hserial

/-- A record in place may go. -/
theorem drop (h : Indexed next pool) {r : Record η} (hin : pool.get? r.key = some r) :
    Indexed next (pool.drop r) := by
  have hget : ∀ {key s}, (pool.drop r).get? key = some s →
      r.key ≠ key ∧ pool.get? key = some s := by
    intro key s hs
    rw [get?_drop] at hs
    by_cases hk : r.key = key
    · rw [if_pos hk] at hs
      exact absurd hs (by simp)
    · rw [if_neg hk] at hs
      exact ⟨hk, hs⟩
  constructor
  case key_eq => exact fun hs => h.key_eq (hget hs).2
  case group_ne_nil =>
    intro mld hnil
    rw [group?_drop] at hnil
    split at hnil
    · obtain ⟨group, _, hrest⟩ := Option.bind_eq_some_iff.mp hnil
      exact (withoutLink_eq_some_iff.mp hrest).2 rfl
    · exact h.group_ne_nil mld hnil
  case mem_links =>
    intro mld s
    have hkey : s.mld = some mld → pool.get? s.key = some s →
        (s.serial ≠ r.serial ↔ r.key ≠ s.key) := by
      intro _ hs
      constructor
      · intro hne hk
        rw [← hk, hin] at hs
        exact hne (congrArg Record.serial (Option.some.inj hs).symm)
      · intro hne hserial
        exact hne (congrArg Record.key (h.serial_inj hs hin hserial)).symm
    rw [links_drop, get?_drop]
    by_cases hm : r.mld = some mld
    · simp only [hm, if_true, List.mem_filter, h.mem_links, decide_eq_true_eq]
      constructor
      · rintro ⟨⟨hs, hin'⟩, hne⟩
        exact ⟨hs, by rw [if_neg ((hkey hs hin').mp hne)]; exact hin'⟩
      · rintro ⟨hs, hin'⟩
        split at hin'
        · exact absurd hin' (by simp)
        · next hne => exact ⟨⟨hs, hin'⟩, (hkey hs hin').mpr hne⟩
    · rw [if_neg hm, h.mem_links]
      refine and_congr_right fun hs => ?_
      split
      · next hk =>
        -- the record in this place is the one that goes, and it is no link here
        rw [← hk, hin]
        refine iff_of_false (fun he => hm ?_) (by simp)
        rw [Option.some.inj he]
        exact hs
      · rfl
  case nodup_links =>
    intro mld
    rw [links_drop]
    split
    · exact (h.nodup_links mld).filter _
    · exact h.nodup_links mld
  case serial_lt => exact fun hs => h.serial_lt (hget hs).2
  case serial_inj => exact fun hs ht => h.serial_inj (hget hs).2 (hget ht).2

/-- Any record may take over its place, unless it bears the number of another one. -/
theorem supplant (h : Indexed next pool) {r : Record η}
    (hown : ∀ key s, pool.get? key = some s → s.serial = r.serial → s = r)
    (hlt : r.serial < next) : Indexed next (pool.supplant r) := by
  unfold Pool.supplant
  cases hget : pool.get? r.key with
  | none =>
    refine h.insert hget (fun key s hs hserial => ?_) hlt
    have hsr := hown key s hs hserial
    have hkey := h.key_eq hs
    rw [← hkey, hsr, hget] at hs
    exact absurd hs (by simp)
  | some held =>
    have hkey : held.key = r.key := h.key_eq hget
    have hin : pool.get? held.key = some held := by rw [hkey]; exact hget
    refine (h.drop hin).insert ?_ (fun key s hs hserial => ?_) hlt
    · rw [get?_drop, if_pos hkey]
    · rw [get?_drop] at hs
      split at hs
      · exact absurd hs (by simp)
      · next hne =>
        have hsr := hown key s hs hserial
        exact hne (by rw [hkey, ← hsr, h.key_eq hs])

/-- Taking over a place means to be found there. -/
theorem get?_supplant (h : Indexed next pool) (r : Record η) (key : Key) :
    (pool.supplant r).get? key = if r.key = key then some r else pool.get? key := by
  unfold Pool.supplant
  cases hget : pool.get? r.key with
  | none => exact get?_insert r pool key
  | some held =>
    show ((pool.drop held).insert r).get? key = _
    rw [get?_insert, get?_drop, h.key_eq hget]
    split <;> rfl

/-- Whoever takes over a place is one more, and its holder is one less. -/
theorem size_supplant (h : Indexed next pool) (r : Record η) :
    (pool.supplant r).size + (pool.get? r.key).isSome.toNat = pool.size + 1 := by
  unfold Pool.supplant
  cases hget : pool.get? r.key with
  | none => exact size_insert hget
  | some held =>
    have hkey : held.key = r.key := h.key_eq hget
    have hfree : (pool.drop held).get? r.key = none := by rw [← hkey, get?_drop_self]
    have hdrop : (pool.drop held).size + 1 = pool.size := size_drop (by rw [hkey]; exact hget)
    show ((pool.drop held).insert r).size + 1 = _
    rw [size_insert hfree, hdrop]

/-- A link that goes is missed in its group, and nothing else is. -/
theorem links_drop_eq (h : Indexed next pool) {r : Record η} (hin : pool.get? r.key = some r)
    (mld : MacAddress) :
    (pool.drop r).links mld = (pool.links mld).filter fun s => s.key ≠ r.key := by
  have hserial : ∀ s ∈ pool.links mld, s.serial = r.serial ↔ s.key = r.key := by
    intro s hs
    constructor
    · intro he
      rw [h.eq_of_mem_links hs hin he]
    · intro he
      have hs' := (h.mem_links.mp hs).2
      rw [he, hin] at hs'
      rw [Option.some.inj hs']
  rw [links_drop]
  split
  · refine List.filter_congr fun s hs => ?_
    simp only [ne_eq, hserial s hs]
  · next hm =>
    refine (List.filter_eq_self.mpr fun s hs => ?_).symm
    refine decide_eq_true fun he => hm ?_
    rw [← h.eq_of_mem_links hs hin ((hserial s hs).mpr he)]
    exact (h.mem_links.mp hs).1

/-- Whoever takes over a place joins its group at the end; the record that made room is in
no group any more. -/
theorem links_supplant (h : Indexed next pool) (r : Record η) (mld : MacAddress) :
    (pool.supplant r).links mld =
      ((pool.links mld).filter fun s => s.key ≠ r.key) ++
        if r.mld = some mld then [r] else [] := by
  unfold Pool.supplant
  cases hget : pool.get? r.key with
  | none =>
    show (pool.insert r).links mld = _
    rw [links_insert, List.filter_eq_self.mpr]
    intro s hs
    refine decide_eq_true fun he => ?_
    have hin := (h.mem_links.mp hs).2
    rw [he, hget] at hin
    exact absurd hin (by simp)
  | some held =>
    have hkey : held.key = r.key := h.key_eq hget
    have hin : pool.get? held.key = some held := by rw [hkey]; exact hget
    show ((pool.drop held).insert r).links mld = _
    rw [links_insert, h.links_drop_eq hin, hkey]

end Indexed

end Pool

end NetworkSelection
