import NetworkSelection.Proofs.Consistency

/-!
# The order of arrival

The links of a multi-link access point stand in the order in which they came.  This can
be told from one log for the whole pool: whoever is taken in is written at the end of the
log, under its key, and its key is crossed out wherever it stood before; whoever is taken
away is crossed out; and nothing else is written.  Each group then reads as the part of
the log that belongs to its access point.  In particular a candidate that takes over a
place goes to the end of its group, or into another group, and a renewal moves nobody.

* `Course.log`: the log, by what was asked and answered.
* `Course.groups_follow_log`: the groups are the parts of the log, and they are listed by
  ascending address.
-/

namespace NetworkSelection

variable {σ η : Type}

/-! ## The part of the log that belongs to an access point -/

/-- The multi-link access point that the record in a place is a link of. -/
def Pool.mldAt (pool : Pool σ η) (key : Key) : Option MacAddress :=
  (pool.get? key).bind Record.mld

/-- The keys in a log whose records in place are links of an access point. -/
def Pool.linkKeys (pool : Pool σ η) (mld : MacAddress) (log : List Key) : List Key :=
  log.filter fun key => pool.mldAt key = some mld

/-- A log tells the order of the links in every group. -/
def Pool.Follows (pool : Pool σ η) (log : List Key) : Prop :=
  ∀ mld, (pool.links mld).map Record.key = pool.linkKeys mld log

namespace Pool

/-- Crossing out a key and reading a part of the log can change places. -/
theorem linkKeys_filter_ne {pool pool' : Pool σ η} {key : Key}
    (h : ∀ other, other ≠ key → pool'.mldAt other = pool.mldAt other) (mld : MacAddress)
    (log : List Key) :
    pool'.linkKeys mld (log.filter (· ≠ key)) = (pool.linkKeys mld log).filter (· ≠ key) := by
  unfold linkKeys
  rw [List.filter_filter, List.filter_filter]
  refine List.filter_congr fun other _ => ?_
  by_cases hne : other = key
  · simp [hne]
  · rw [h other hne, Bool.and_comm]

theorem map_key_filter_ne (key : Key) (links : List (Record η)) :
    (links.filter fun r => r.key ≠ key).map Record.key =
      (links.map Record.key).filter (· ≠ key) := by
  rw [List.filter_map]
  rfl

variable {next : Nat} {pool : Pool σ η}

/-- Whoever takes over a place is written at the end of the log. -/
theorem Follows.supplant {log : List Key} (h : pool.Follows log) (hindexed : pool.Indexed next)
    (r : Record η) : (pool.supplant r).Follows (log.filter (· ≠ r.key) ++ [r.key]) := by
  have hat : ∀ other, (pool.supplant r).mldAt other =
      if r.key = other then r.mld else pool.mldAt other := by
    intro other
    rw [mldAt, hindexed.get?_supplant]
    split <;> rfl
  have hother : ∀ other, other ≠ r.key → (pool.supplant r).mldAt other = pool.mldAt other := by
    intro other hne
    rw [hat, if_neg fun he => hne he.symm]
  intro mld
  have hself : (pool.supplant r).linkKeys mld [r.key] =
      if r.mld = some mld then [r.key] else [] := by
    unfold linkKeys
    rw [List.filter_singleton, hat, if_pos rfl]
    by_cases hm : r.mld = some mld <;> simp [hm]
  have hsplit : (pool.supplant r).linkKeys mld (log.filter (· ≠ r.key) ++ [r.key]) =
      (pool.supplant r).linkKeys mld (log.filter (· ≠ r.key)) ++
        (pool.supplant r).linkKeys mld [r.key] := List.filter_append ..
  rw [hsplit, linkKeys_filter_ne hother, hself, hindexed.links_supplant, List.map_append,
    map_key_filter_ne, h mld]
  split <;> rfl

/-- Whoever is taken away is crossed out. -/
theorem Follows.drop {log : List Key} (h : pool.Follows log) (hindexed : pool.Indexed next)
    {r : Record η} (hin : pool.get? r.key = some r) :
    (pool.drop r).Follows (log.filter (· ≠ r.key)) := by
  have hother : ∀ other, other ≠ r.key → (pool.drop r).mldAt other = pool.mldAt other := by
    intro other hne
    rw [mldAt, get?_drop, if_neg fun he => hne he.symm]
    rfl
  intro mld
  rw [linkKeys_filter_ne hother, hindexed.links_drop_eq hin, map_key_filter_ne, h mld]

/-- A renewal moves nobody. -/
theorem Follows.updateMultiLink {log : List Key} {shared : Shared σ} (h : pool.Follows log)
    (hindexed : pool.Indexed shared.nextSerial) (estimate : List (Candidate η) → UInt32) :
    (pool.updateMultiLink estimate shared).pool.Follows log := by
  have hat : ∀ key, (pool.updateMultiLink estimate shared).pool.mldAt key = pool.mldAt key := by
    intro key
    rw [mldAt, hindexed.get?_updateMultiLink, mldAt]
    cases pool.get? key with
    | none => rfl
    | some r => exact mld_renewal estimate _ pool r
  have hkeys : ∀ number : Record η → Nat,
      Record.key ∘ pool.renewal estimate number = Record.key :=
    fun number => funext (key_renewal estimate number pool)
  intro mld
  rw [hindexed.links_updateMultiLink, List.map_map, hkeys, h mld]
  exact List.filter_congr fun key _ => by rw [hat]

/-- Only the records matter. -/
theorem Follows.congr {log : List Key} (h : pool.Follows log) {pool' : Pool σ η}
    (hkey : pool'.byKey = pool.byKey) (hmld : pool'.byMld = pool.byMld) :
    pool'.Follows log := by
  intro mld
  have hlinks : pool'.links mld = pool.links mld := by
    rw [links, links, group?, group?, hmld]
  rw [hlinks, h mld]
  exact List.filter_congr fun key _ => by rw [mldAt, mldAt, get?, get?, hkey]

end Pool

/-! ## The log of a course -/

section course

variable [BssidHandle η σ]

/-- The log after one more moment. -/
def Moment.logging (log : List Key) (m : Moment σ η) : List Key :=
  match m.entered?, m.left? with
  | some key, _ => log.filter (· ≠ key) ++ [key]
  | none, some key => log.filter (· ≠ key)
  | none, none => log

/-- The keys of those who came and did not go, in the order in which they came last. -/
def Course.log (course : Course σ η) : List Key :=
  course.past.foldl Moment.logging []

/-- **One moment of arrivals.** -/
theorem Moment.follows {log : List Key} (m : Moment σ η)
    (hindexed : m.pool.Indexed m.shared.nextSerial) (h : m.pool.Follows log) :
    m.outcome.pool.Follows (m.logging log) := by
  have hquiet : m.admitted = false → m.removed = false → m.logging log = log := by
    intro hadmitted hremoved
    rw [logging, entered?_of_not_admitted hadmitted, left?_of_not_removed hremoved]
  cases m.effect with
  | idle _ hadmitted hremoved hkey hmld _ =>
    rw [hquiet hadmitted hremoved]
    exact h.congr hkey hmld
  | rejects offer held _ hadmitted hremoved _ _ hpool _ =>
    rw [hquiet hadmitted hremoved, hpool]
    exact h
  | enters offer hoffer hadmitted _ _ hpool _ =>
    rw [logging, entered?_of_admitted hoffer hadmitted, hpool]
    exact h.supplant hindexed (m.pool.entrantOf offer m.shared)
  | leaves r held hcommand hadmitted hremoved hget _ hpool _ =>
    have hkey : held.key = r.key := hindexed.key_eq hget
    rw [logging, entered?_of_not_admitted hadmitted, left?_of_removed hcommand hremoved, hpool,
      ← hkey]
    exact h.drop hindexed (by rw [hkey]; exact hget)
  | renews estimate _ hadmitted hremoved hpool _ =>
    rw [hquiet hadmitted hremoved, hpool]
    exact h.updateMultiLink hindexed estimate

/-- The log tells the order of the links in the whole course of a pool. -/
theorem Course.follows_run (card : ScoreCard σ η) (config : PoolConfig) (shared : Shared σ)
    (happenings : List (Happening σ η)) :
    let course := (Course.start (.empty card config) shared).run happenings
    course.pool.Follows course.log := by
  have hstart : (Pool.empty card config).Follows [] := by
    intro mld
    rw [Pool.links, Pool.group?_empty]
    rfl
  exact Course.past_induction (motive := fun log pool => pool.Follows log)
    (fun _ m hindexed h => m.follows hindexed h) hstart shared happenings

/-- **The groups follow the log.**  A multi-link access point has a group if some key in
the log has a record that is a link of it, and the keys of the group are then just these
keys, in the order of the log.  The groups are listed once each, by ascending address. -/
theorem Course.groups_follow_log (card : ScoreCard σ η) (config : PoolConfig)
    (shared : Shared σ) (happenings : List (Happening σ η)) :
    let course := (Course.start (.empty card config) shared).run happenings
    let own (mld : MacAddress) : List Key := course.log.filter fun key =>
      (course.pool.get? key).bind Record.mld = some mld
    (∀ mld, (course.pool.group? mld).map (List.map Record.key) =
      if own mld = [] then none else some (own mld)) ∧
    (∀ mld group, (mld, group) ∈ course.pool.groups ↔ course.pool.group? mld = some group) ∧
    course.pool.groups.Pairwise fun g g' => compare g.1 g'.1 = .lt := by
  intro course own
  have hindexed : course.pool.Indexed course.shared.nextSerial :=
    Course.indexed_run (Pool.indexed_empty card config _) happenings
  have hfollows : course.pool.Follows course.log :=
    Course.follows_run card config shared happenings
  refine ⟨fun mld => ?_, fun mld group => Pool.mem_groups, Std.ExtTreeMap.ordered_keys_toList⟩
  rw [hindexed.group?_keys, hfollows mld]
  rfl

end course

end NetworkSelection
