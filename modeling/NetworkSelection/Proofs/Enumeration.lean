import NetworkSelection.Proofs.AddressText
import NetworkSelection.Proofs.Consistency
import NetworkSelection.Proofs.Likeness

/-!
# All records, and the records by network

A pool lists its records by key.  A key has five parts, of five types, and keys are ordered by the
first part in which they differ: SSIDs by code point, security types by their rank, addresses octet
by octet, and network ids as signed numbers.  Two different keys always differ in one of these, so
this is a strict total order, and since every place has at most one record, the list ascends
strictly.

The records by network are made in one pass through this list.  Each record goes to the end of the
list of its network, so that every network has a part of the whole list; the networks themselves are
listed by id, which may be negative, and not in the order in which the pass comes across them.

* `Key.Precedes`, `Key.compare_eq_lt_iff`: the order of keys.
* `Pool.Enumerated`: what both lists are.
* `Pool.mem_networks_iff`, `Pool.Indexed.networks_perm`: the records by network are a partition.
* `Course.enumerated_run`: the lists of every pool.
-/

namespace NetworkSelection

/-! ## The order of keys -/

/-- The order of addresses is the lexicographic order of their octets. -/
theorem MacAddress.compare_eq_lt_iff {m n : MacAddress} :
    compare m n = .lt ↔ m.octets < n.octets := by
  have hlex : ∀ bytes bytes' : List UInt8, compare bytes bytes' = .lt ↔ bytes < bytes' := by
    intro bytes
    induction bytes with
    | nil => intro bytes'; cases bytes' <;> simp [compare, List.compareLex]
    | cons x rest ih =>
      intro bytes'
      cases bytes' with
      | nil => simp [compare, List.compareLex]
      | cons y rest' => rw [compare_cons_eq_lt_iff, ih, List.cons_lt_cons_iff]
  exact hlex m.octets n.octets

namespace Key

/-- A key comes before another one if the first part in which they differ is less. -/
def Precedes (k l : Key) : Prop :=
  k.network.ssid.name < l.network.ssid.name ∨ k.network.ssid = l.network.ssid ∧
  (k.network.security.rank < l.network.security.rank ∨ k.network.security = l.network.security ∧
  (k.bssid.octets < l.bssid.octets ∨ k.bssid = l.bssid ∧
  (k.id.id.toInt < l.id.id.toInt ∨ k.id = l.id ∧ k.security.rank < l.security.rank)))

/-- **The order of keys.** -/
theorem compare_eq_lt_iff {k l : Key} : compare k l = .lt ↔ k.Precedes l := by
  have hssid : ∀ s t : Ssid, compare s t = .lt ↔ s.name < t.name :=
    fun _ _ => compareOfLessAndEq_eq_lt
  have hsecurity : ∀ x y : Security, compare x y = .lt ↔ x.rank < y.rank :=
    fun _ _ => Nat.compare_eq_lt
  have hid : ∀ m n : NetworkId, compare m n = .lt ↔ m.id.toInt < n.id.toInt :=
    fun _ _ => compareOfLessAndEq_eq_lt.trans Int32.lt_iff_toInt_lt
  show order k l = .lt ↔ _
  simp only [order, compareLex, compareOn, Ordering.then_eq_lt, hssid, hsecurity, hid,
    MacAddress.compare_eq_lt_iff, Std.LawfulEqCmp.compare_eq_iff_eq]
  rfl

/-- Of two different keys one comes before the other, and this goes on from key to key. -/
instance : IsStrictTotalOrder Key Precedes where
  trichotomous k l hkl hlk := by
    cases h : compare k l with
    | lt => exact absurd (compare_eq_lt_iff.mp h) hkl
    | eq => exact Std.LawfulEqCmp.eq_of_compare h
    | gt => exact absurd (compare_eq_lt_iff.mp (Std.OrientedCmp.lt_of_gt h)) hlk
  irrefl k hk := by
    have hself : compare k k = .eq := Std.ReflCmp.compare_self
    exact absurd (hself.symm.trans (compare_eq_lt_iff.mpr hk)) (by simp)
  trans k l m hkl hlm := by
    rw [← compare_eq_lt_iff] at *
    exact Std.TransCmp.lt_trans hkl hlm

end Key

namespace Pool

variable {σ η : Type}

/-! ## The records by network -/

/-- A network is listed if some record belongs to it, and then with all that do. -/
theorem mem_networks_iff {pool : Pool σ η} {id : NetworkId} {group : List (Record η)} :
    (id, group) ∈ pool.networks ↔
      group ≠ [] ∧ group = pool.records.filter fun r => r.key.id = id := by
  rw [networks_eq_gathered, Std.ExtTreeMap.mem_toList_iff_getElem?_eq_some, getElem?_gathered]
  show (if (pool.records.filter fun r => r.key.id = id) = [] then none
    else some (pool.records.filter fun r => r.key.id = id)) = some group ↔ _
  split
  · next hnil => simp [hnil]
  · next hne =>
    rw [Option.some.injEq]
    constructor
    · rintro rfl
      exact ⟨hne, rfl⟩
    · rintro ⟨-, rfl⟩
      rfl

/-- The networks are listed by strictly ascending id. -/
theorem ascending_networks (pool : Pool σ η) :
    pool.networks.Pairwise fun g g' => g.1.id.toInt < g'.1.id.toInt := by
  rw [networks_eq_gathered]
  refine Std.ExtTreeMap.ordered_keys_toList.imp fun hlt => ?_
  exact Int32.lt_iff_toInt_lt.mp (compareOfLessAndEq_eq_lt.mp hlt)

/-- **The records by network are the records**, each of them once. -/
theorem Indexed.networks_perm {next : Nat} {pool : Pool σ η} (h : Indexed next pool) :
    (pool.networks.flatMap (·.2)).Perm pool.records := by
  have hgroup : ∀ {id group}, (id, group) ∈ pool.networks → ∀ r ∈ group,
      r ∈ pool.records ∧ r.key.id = id := by
    intro id group hmem r hr
    obtain ⟨-, rfl⟩ := mem_networks_iff.mp hmem
    obtain ⟨hrecord, hid⟩ := List.mem_filter.mp hr
    exact ⟨hrecord, of_decide_eq_true hid⟩
  have hnodup : (pool.networks.flatMap (·.2)).Nodup := by
    refine List.nodup_flatMap.mpr ⟨?_, ?_⟩
    · rintro ⟨id, group⟩ hmem
      obtain ⟨-, rfl⟩ := mem_networks_iff.mp hmem
      exact h.nodup_records.filter _
    · refine pool.ascending_networks.imp_of_mem ?_
      rintro ⟨id, group⟩ ⟨id', group'⟩ hmem hmem' hlt r hr hr'
      -- a record belongs to one network only
      have hsame : id = id' := (hgroup hmem r hr).2.symm.trans (hgroup hmem' r hr').2
      subst hsame
      exact absurd hlt (Int.lt_irrefl _)
  refine (List.perm_ext_iff_of_nodup hnodup h.nodup_records).mpr fun r => ?_
  rw [List.mem_flatMap]
  constructor
  · rintro ⟨⟨id, group⟩, hmem, hr⟩
    exact (hgroup hmem r hr).1
  · intro hr
    have hown : r ∈ pool.records.filter fun s => s.key.id = r.key.id :=
      List.mem_filter.mpr ⟨hr, decide_eq_true rfl⟩
    exact ⟨(r.key.id, _), mem_networks_iff.mpr ⟨List.ne_nil_of_mem hown, rfl⟩, hown⟩

/-! ## Both lists -/

/-- What the list of all records is, and what the records by network are. -/
structure Enumerated (pool : Pool σ η) : Prop where
  /-- The records are listed by strictly ascending keys. -/
  ascending : pool.records.Pairwise fun r s => r.key.Precedes s.key
  /-- There are as many of them as the pool says. -/
  length_eq : pool.records.length = pool.size
  /-- Whoever is listed is the very record that is found under its key, and the other way
  round. -/
  mem_iff : ∀ r, r ∈ pool.records ↔ pool.get? r.key = some r
  /-- The networks are listed by strictly ascending id. -/
  networks_ascending : pool.networks.Pairwise fun g g' => g.1.id.toInt < g'.1.id.toInt
  /-- A network is listed if some record belongs to it, with that part of the list of all records
  that does. -/
  mem_networks_iff : ∀ id group, (id, group) ∈ pool.networks ↔
    group ≠ [] ∧ group = pool.records.filter fun r => r.key.id = id
  /-- All networks together have every record once. -/
  networks_perm : (pool.networks.flatMap (·.2)).Perm pool.records

theorem Indexed.enumerated {next : Nat} {pool : Pool σ η} (h : Indexed next pool) :
    Enumerated pool where
  ascending := h.ascending_records.imp Key.compare_eq_lt_iff.mp
  length_eq := pool.length_records
  mem_iff _ := h.mem_records_iff
  networks_ascending := pool.ascending_networks
  mem_networks_iff _ _ := Pool.mem_networks_iff
  networks_perm := h.networks_perm

end Pool

/-! ## Every pool -/

/-- **The lists of every pool**, with whatever records it was opened and whatever was asked of it
since. -/
theorem Course.enumerated_run {σ η : Type} [BssidHandle η σ] (card : ScoreCard σ η)
    (config : PoolConfig) (seeds : List (Record η)) (shared : Shared σ)
    (hseeds : Pool.Issued shared.nextSerial seeds) (happenings : List (Happening σ η)) :
    ((Course.start (.ofRecords card config seeds) shared).run happenings).pool.Enumerated := by
  let course := (Course.start (.ofRecords card config seeds) shared).run happenings
  have hindexed : course.pool.Indexed course.shared.nextSerial :=
    Course.indexed_run (Pool.indexed_ofRecords hseeds card config) happenings
  exact hindexed.enumerated

/-- A pool that was opened with a link of a saved network and takes two candidates of another
network, whose id is negative; the links are renewed.  The network that comes first by key comes
last by id. -/
theorem Course.enumerated_run_negative_id :
    let config (id : Int32) (name : String) := Scenario.config ⟨id⟩ ⟨name⟩
    let key (id : Int32) (name : String) (n : UInt16) : Key :=
      .ofIdentity ⟨⟨name⟩, .psk⟩ (Scenario.radio n) ⟨id⟩
    let seen (n : UInt16) : Observation :=
      Observation.ofScan (Scenario.scan ⟨"home"⟩ n (-50)) .saved
    let seed : Record Handle :=
      { serial := 0
        candidate := .make (key 3 "cafe" 9) (config 3 "cafe")
          { seen 9 with mld := some (Scenario.accessPoint 1) } none ⟨false, false⟩ 50 }
    let shared : Shared History := { history := {}, nextSerial := 1 }
    let happenings : List (Happening History Handle) :=
      [.command (.add (key (-2) "home" 8) (config (-2) "home") (seen 8)),
        .command (.add (key (-2) "home" 7) (config (-2) "home") (seen 7)),
        .command (.updateMultiLink MultiLink.jointThroughput)]
    let pool := ((Course.start (.ofRecords History.card .lenient [seed]) shared).run happenings).pool
    Pool.Issued shared.nextSerial [seed] ∧ pool.records.map (·.serial) = [3, 2, 1] ∧
      pool.networks.map (fun g => (g.1.id, g.2.map (·.serial))) = [(-2, [2, 1]), (3, [3])] ∧
      pool.Enumerated := by
  intro config key seen seed shared happenings pool
  have hseeds : Pool.Issued shared.nextSerial [seed] := by
    refine Pool.issued_of_nodup ?_ (List.nodup_singleton _)
    intro r hr
    rw [List.mem_singleton.mp hr]
    exact Nat.zero_lt_one
  exact ⟨hseeds, by decide, by decide,
    Course.enumerated_run History.card .lenient [seed] shared hseeds happenings⟩

end NetworkSelection
