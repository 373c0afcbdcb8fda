import NetworkSelection.Pool.Basic

/-!
# What the indices hold after each operation

A pool is seen through two questions: which record is in a place, and which links
does a multi-link access point have.  For every operation on the indices there is
one lemma for each question, and a third view, the list of all records, is tied to
the first one by `mem_records`.

* `get?_insert`, `group?_insert`: a record that comes in is found under its key and
  at the end of its group.
* `get?_drop`, `group?_drop`: a record that goes is found nowhere, and a group that
  loses its last link is gone.
* `holds_iff`, `remove_fst`, `remove_of_not_holds`: removing answers whether the very
  record is in place, and changes nothing if it is not.
* `size_insert`, `size_drop`: how many records there are then.
-/

namespace NetworkSelection

namespace Pool

variable {σ η : Type}

@[simp] theorem get?_empty (card : ScoreCard σ η) (config : PoolConfig) (key : Key) :
    (empty card config).get? key = none := by
  simp [empty, get?]

@[simp] theorem group?_empty (card : ScoreCard σ η) (config : PoolConfig) (mld : MacAddress) :
    (empty card config).group? mld = none := by
  simp [empty, group?]

/-! ## Coming in -/

theorem get?_insert (r : Record η) (pool : Pool σ η) (key : Key) :
    (pool.insert r).get? key = if r.key = key then some r else pool.get? key := by
  simp [insert, get?, Std.ExtTreeMap.getElem?_insert]

@[simp] theorem get?_insert_self (r : Record η) (pool : Pool σ η) :
    (pool.insert r).get? r.key = some r := by
  simp [get?_insert]

/-- Whoever takes over a place is in it. -/
@[simp] theorem get?_supplant_self (r : Record η) (pool : Pool σ η) :
    (pool.supplant r).get? r.key = some r := by
  unfold supplant
  cases pool.get? r.key <;> exact get?_insert_self r _

theorem group?_insert (r : Record η) (pool : Pool σ η) (mld : MacAddress) :
    (pool.insert r).group? mld =
      if r.mld = some mld then some ((pool.group? mld).getD [] ++ [r]) else pool.group? mld := by
  unfold insert group? joinGroup
  split
  · next h => simp [h]
  · next m h =>
    by_cases hm : m = mld
    · subst hm
      simp [h]
    · simp [h, hm, Std.ExtTreeMap.getElem?_alter]

/-! ## Going -/

theorem get?_drop (r : Record η) (pool : Pool σ η) (key : Key) :
    (pool.drop r).get? key = if r.key = key then none else pool.get? key := by
  simp [drop, get?, Std.ExtTreeMap.getElem?_erase]

@[simp] theorem get?_drop_self (r : Record η) (pool : Pool σ η) :
    (pool.drop r).get? r.key = none := by
  simp [get?_drop]

theorem group?_drop (r : Record η) (pool : Pool σ η) (mld : MacAddress) :
    (pool.drop r).group? mld =
      if r.mld = some mld then (pool.group? mld).bind (withoutLink r.serial)
      else pool.group? mld := by
  unfold drop group? leaveGroup
  split
  · next h => simp [h]
  · next m h =>
    by_cases hm : m = mld
    · subst hm
      simp [h]
    · simp [h, hm, Std.ExtTreeMap.getElem?_alter]

/-- What is left of a group is never empty, and lacks just the link of that number. -/
theorem withoutLink_eq_some_iff {serial : Nat} {group rest : List (Record η)} :
    withoutLink serial group = some rest ↔
      rest = group.filter (fun r => r.serial ≠ serial) ∧ rest ≠ [] := by
  unfold withoutLink
  split
  · next h => rw [h]; simp
  · next h =>
    constructor
    · intro e
      cases e
      exact ⟨rfl, h⟩
    · rintro ⟨rfl, _⟩
      rfl

/-! ## Removing and looking -/

/-- A record is in its place exactly when the pool finds a record with its serial
number there. -/
theorem holds_iff {pool : Pool σ η} {r : Record η} :
    pool.holds r = true ↔ ∃ held, pool.get? r.key = some held ∧ held.serial = r.serial := by
  unfold holds
  cases pool.get? r.key <;> simp

/-- Removing a record says whether it was in place. -/
theorem remove_fst (r : Record η) (pool : Pool σ η) : (pool.remove r).1 = pool.holds r := by
  unfold remove holds
  cases pool.get? r.key with
  | none => rfl
  | some held => by_cases h : held.serial = r.serial <;> simp [h]

/-- Removing a record that is in place takes it away. -/
theorem remove_of_get? {r held : Record η} {pool : Pool σ η} (hget : pool.get? r.key = some held)
    (hserial : held.serial = r.serial) : pool.remove r = (true, pool.drop held) := by
  simp only [remove, hget, hserial, if_true]

/-- Removing a record that is not in place changes nothing. -/
theorem remove_of_not_holds {r : Record η} {pool : Pool σ η} (h : pool.holds r = false) :
    pool.remove r = (false, pool) := by
  unfold holds at h
  unfold remove
  cases hg : pool.get? r.key with
  | none => rfl
  | some held =>
    rw [hg] at h
    have : held.serial ≠ r.serial := by simpa using h
    simp [this]

/-- The records are those that are found under some key. -/
theorem mem_records {pool : Pool σ η} {r : Record η} :
    r ∈ pool.records ↔ ∃ key, pool.get? key = some r := by
  simp [records, get?, Std.ExtTreeMap.mem_toList_iff_getElem?_eq_some]

/-! ## How many there are -/

/-- There are as many records as the pool says. -/
theorem length_records (pool : Pool σ η) : pool.records.length = pool.size := by
  simp [records, size]

/-- Whoever comes to a free place is one more. -/
theorem size_insert {r : Record η} {pool : Pool σ η} (hfree : pool.get? r.key = none) :
    (pool.insert r).size = pool.size + 1 := by
  have hnot : pool.byKey.contains r.key = false := by
    rw [Std.ExtTreeMap.contains_eq_isSome_getElem?]
    exact congrArg Option.isSome hfree
  simp only [size, insert, Std.ExtTreeMap.size_insert, hnot, Bool.false_eq_true, if_false]

/-- Whoever leaves a place is one less. -/
theorem size_drop {r held : Record η} {pool : Pool σ η} (hget : pool.get? r.key = some held) :
    (pool.drop r).size + 1 = pool.size := by
  have hin : pool.byKey.contains r.key = true := by
    rw [Std.ExtTreeMap.contains_eq_isSome_getElem?]
    exact congrArg Option.isSome hget
  have hpos : 0 < pool.size := by
    rw [← length_records]
    exact List.length_pos_of_mem (mem_records.mpr ⟨r.key, hget⟩)
  simp only [size] at hpos
  simp only [size, drop, Std.ExtTreeMap.size_erase, hin, if_true]
  omega

end Pool

end NetworkSelection
