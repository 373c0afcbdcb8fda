import NetworkSelection.Proofs.Enumeration
import NetworkSelection.Session

/-!
# Opening a pool with records

A pool may be opened with records that exist already.  They take their places one after another,
and whoever comes later takes the place over, whatever the nominators are: there is no competition
among seeds.  A record that was supplanted leaves its group as well, which need not be the group
that the later one joins, and a record that is named twice leaves its group only to join it again at
the end.  What is in place in the end can be read off the list of seeds: under each key the last
seed that has it, and in each group the links among these, in the order in which they stand there
for the last time.

No seed is made anew, and nobody is asked about it.  So the records of a pool may be handed to
another one as they are: the same records are then found in the same places and in the same groups,
but since they come in the order of their keys, this is now their order in every group.

* `Record.survivors`: the seeds that no later one supplants.
* `Pool.get?_ofRecords`, `Pool.links_ofRecords`: both indices, read off the seeds.
* `Pool.Opened`, `Pool.Issued.opened`: what a pool is opened as.
* `Pool.ReopensAs`, `Pool.Indexed.reopensAs`: what becomes of a pool that is opened again.
* `Course.opened_and_reopened`: both of them, for every pool.
-/

namespace NetworkSelection

variable {σ η : Type}

/-! ## Whom no later seed supplants -/

namespace Record

/-- The records of a list whose key does not occur any more after them. -/
def survivors : List (Record η) → List (Record η)
  | [] => []
  | r :: rest => if ∃ s ∈ rest, s.key = r.key then survivors rest else r :: survivors rest

/-- One more record at the end supplants whoever has its key. -/
theorem survivors_concat (records : List (Record η)) (r : Record η) :
    survivors (records ++ [r]) = (survivors records).filter (fun s => s.key ≠ r.key) ++ [r] := by
  induction records with
  | nil => simp [survivors]
  | cons first rest ih =>
    rw [List.cons_append, survivors, survivors, ih]
    by_cases hlater : ∃ s ∈ rest, s.key = first.key
    · obtain ⟨s, hs, hkey⟩ := hlater
      rw [if_pos ⟨s, List.mem_append_left _ hs, hkey⟩, if_pos ⟨s, hs, hkey⟩]
    · -- nobody in between has its key, so it is the new record that supplants it, or nobody does
      by_cases hr : first.key = r.key
      · rw [if_pos ⟨r, by simp, hr.symm⟩, if_neg hlater, List.filter_cons_of_neg (by simp [hr])]
      · have hnone : ¬ ∃ s ∈ rest ++ [r], s.key = first.key := by
          rintro ⟨s, hs, hkey⟩
          rcases List.mem_append.mp hs with hs | hs
          · exact hlater ⟨s, hs, hkey⟩
          · rw [List.mem_singleton.mp hs] at hkey
            exact hr hkey.symm
        rw [if_neg hnone, if_neg hlater, List.filter_cons_of_pos (by simp [hr]), List.cons_append]

/-- Where no key occurs twice nobody is supplanted. -/
theorem survivors_of_pairwise {records : List (Record η)}
    (h : records.Pairwise fun r s => r.key ≠ s.key) : survivors records = records := by
  induction records with
  | nil => rfl
  | cons r rest ih =>
    obtain ⟨hr, hrest⟩ := List.pairwise_cons.mp h
    rw [survivors, if_neg, ih hrest]
    rintro ⟨s, hs, hkey⟩
    exact hr s hs hkey.symm

end Record

namespace Pool

/-! ## Both indices -/

theorem ofRecords_concat (card : ScoreCard σ η) (config : PoolConfig) (seeds : List (Record η))
    (r : Record η) :
    ofRecords card config (seeds ++ [r]) = (ofRecords card config seeds).supplant r := by
  simp only [ofRecords, List.foldl_append, List.foldl_cons, List.foldl_nil]

/-- The seeds before the last one exist as well. -/
theorem Issued.of_concat {next : Nat} {seeds : List (Record η)} {r : Record η}
    (h : Issued next (seeds ++ [r])) : Issued next seeds :=
  h.subset (List.subset_append_left _ _)

section indices

variable {next : Nat} {seeds : List (Record η)} (card : ScoreCard σ η) (config : PoolConfig)

/-- **The record in a place is the last seed that has its key.** -/
theorem get?_ofRecords (h : Issued next seeds) (key : Key) :
    (ofRecords card config seeds).get? key = (seeds.filter fun r => r.key = key).getLast? := by
  induction seeds using List.reverseRecOn with
  | nil => exact get?_empty card config key
  | append_singleton seeds r ih =>
    have hindexed := indexed_ofRecords h.of_concat card config
    rw [ofRecords_concat, hindexed.get?_supplant, ih h.of_concat, List.filter_append,
      List.filter_singleton]
    by_cases hkey : r.key = key <;> simp [hkey]

/-- Those seeds are in place that no later one supplants. -/
theorem mem_survivors_iff (h : Issued next seeds) {r : Record η} :
    r ∈ Record.survivors seeds ↔ (ofRecords card config seeds).get? r.key = some r := by
  induction seeds using List.reverseRecOn with
  | nil => simp [Record.survivors, ofRecords]
  | append_singleton seeds last ih =>
    have hindexed := indexed_ofRecords h.of_concat card config
    rw [ofRecords_concat, hindexed.get?_supplant, Record.survivors_concat, List.mem_append,
      List.mem_filter, ih h.of_concat, List.mem_singleton, decide_eq_true_eq]
    by_cases hkey : last.key = r.key
    · simp [hkey, eq_comm]
    · have hne : r ≠ last := fun he => hkey (he ▸ rfl)
      simp [hkey, hne, Ne.symm hkey]

/-- **The links of an access point are the surviving seeds that belong to it**, in the order of the
seeds. -/
theorem links_ofRecords (h : Issued next seeds) (mld : MacAddress) :
    (ofRecords card config seeds).links mld =
      (Record.survivors seeds).filter fun r => r.mld = some mld := by
  induction seeds using List.reverseRecOn with
  | nil => simp [Record.survivors, ofRecords, links]
  | append_singleton seeds r ih =>
    have hindexed := indexed_ofRecords h.of_concat card config
    -- the holder of the key leaves its group, whether or not the new link joins the same one
    rw [ofRecords_concat, hindexed.links_supplant, ih h.of_concat, Record.survivors_concat,
      List.filter_append, List.filter_singleton, List.filter_filter, List.filter_filter]
    by_cases hmld : r.mld = some mld <;> simp [hmld, Bool.and_comm]

/-- Beside the two indices, a pool that is opened with records is the empty one. -/
theorem ofRecords_eq (seeds : List (Record η)) :
    let pool := ofRecords card config seeds
    pool = { Pool.empty card config with byKey := pool.byKey, byMld := pool.byMld } := by
  refine ofRecords_induction (motive := fun pool =>
    pool = { Pool.empty card config with byKey := pool.byKey, byMld := pool.byMld }) rfl ?_ seeds
  intro pool r h
  rw [h, supplant]
  split <;> rfl

/-- The card is there to be consulted later on. -/
theorem ofRecords_with_card (card' : ScoreCard σ η) (seeds : List (Record η)) :
    ofRecords card' config seeds = { ofRecords card config seeds with card := card' } := by
  induction seeds using List.reverseRecOn with
  | nil => rfl
  | append_singleton seeds r ih =>
    have hsupplant : ∀ pool : Pool σ η,
        supplant r { pool with card := card' } = { pool.supplant r with card := card' } := by
      intro pool
      have hget : get? { pool with card := card' } r.key = pool.get? r.key := rfl
      rw [supplant, supplant, hget]
      split <;> rfl
    rw [ofRecords_concat, ofRecords_concat, ih, hsupplant]

end indices

/-! ## What a pool is opened as -/

/-- What a pool is that is opened with these records. -/
structure Opened (card : ScoreCard σ η) (config : PoolConfig) (seeds : List (Record η)) : Prop where
  /-- Under each key the last seed that has it, as it is, whoever nominated it. -/
  get?_eq : ∀ key, (ofRecords card config seeds).get? key =
    (seeds.filter fun r => r.key = key).getLast?
  /-- These are the seeds that no later one supplants. -/
  mem_survivors_iff : ∀ r, r ∈ Record.survivors seeds ↔
    (ofRecords card config seeds).get? r.key = some r
  /-- An access point has a group if some of them belong to it, and these are the group, in the
  order in which they stand for the last time among the seeds. -/
  group?_eq : ∀ mld,
    let own := (Record.survivors seeds).filter fun r => r.mld = some mld
    (ofRecords card config seeds).group? mld = if own = [] then none else some own
  /-- There has been no fault. -/
  ledger_eq : (ofRecords card config seeds).ledger =
    { picky := config.picky, last := none, count := 0 }
  /-- Nothing but the two indices comes from the seeds. -/
  rest_eq : let pool := ofRecords card config seeds
    pool = { Pool.empty card config with byKey := pool.byKey, byMld := pool.byMld }
  /-- The card is not asked for anything: with another one the pool would be the same. -/
  unasked : ∀ card' : ScoreCard σ η,
    ofRecords card' config seeds = { ofRecords card config seeds with card := card' }

theorem Issued.opened {next : Nat} {seeds : List (Record η)} (h : Issued next seeds)
    (card : ScoreCard σ η) (config : PoolConfig) : Opened card config seeds where
  get?_eq := get?_ofRecords card config h
  mem_survivors_iff _ := Pool.mem_survivors_iff card config h
  group?_eq mld := by
    rw [(indexed_ofRecords h card config).group?_eq, links_ofRecords card config h]
  ledger_eq := by rw [ofRecords_eq card config seeds]; rfl
  rest_eq := ofRecords_eq card config seeds
  unasked card' := ofRecords_with_card card config card' seeds

/-! ## Opening a pool again -/

section again

variable {next : Nat} {pool : Pool σ η}

/-- The records of a pool exist. -/
theorem Indexed.issued (h : Indexed next pool) : Issued next pool.records where
  serial_lt _ hr := h.serial_lt (h.mem_records_iff.mp hr)
  serial_inj _ hr _ hs := h.serial_inj (h.mem_records_iff.mp hr) (h.mem_records_iff.mp hs)

/-- No two records of a pool have the same key. -/
theorem Indexed.survivors_records (h : Indexed next pool) :
    Record.survivors pool.records = pool.records := by
  refine Record.survivors_of_pairwise (h.ascending_records.imp ?_)
  intro r s hlt hkey
  have hself : compare r.key s.key = .eq := Std.LawfulEqCmp.compare_eq_iff_eq.mpr hkey
  exact absurd (hself.symm.trans hlt) (by simp)

/-- What a pool is like whose records are those of this one, in the order of their keys. -/
structure ReopensAs (pool : Pool σ η) (card : ScoreCard σ η) (config : PoolConfig) : Prop where
  /-- The same records are in the same places. -/
  get?_eq : ∀ key, (ofRecords card config pool.records).get? key = pool.get? key
  records_eq : (ofRecords card config pool.records).records = pool.records
  /-- The same access points have a group, and each group has the same links. -/
  group_perm : ∀ mld,
    Option.Rel List.Perm ((ofRecords card config pool.records).group? mld) (pool.group? mld)
  /-- The links of a group are in the order of their keys. -/
  ascending : ∀ mld group, (ofRecords card config pool.records).group? mld = some group →
    group.Pairwise fun r s => r.key.Precedes s.key

/-- The links of an access point come in the order of all records. -/
theorem Indexed.links_ofRecords_records (h : Indexed next pool) (card : ScoreCard σ η)
    (config : PoolConfig) (mld : MacAddress) :
    (ofRecords card config pool.records).links mld =
      pool.records.filter fun r => r.mld = some mld := by
  rw [links_ofRecords card config h.issued, h.survivors_records]

theorem Indexed.get?_ofRecords_records (h : Indexed next pool) (card : ScoreCard σ η)
    (config : PoolConfig) (key : Key) :
    (ofRecords card config pool.records).get? key = pool.get? key := by
  have hagain := indexed_ofRecords h.issued card config
  -- a record in either pool is in the place of its own key, and so it is enough to look there
  refine Option.ext fun r => ?_
  have hplace : (ofRecords card config pool.records).get? r.key = some r ↔
      pool.get? r.key = some r := by
    rw [← Pool.mem_survivors_iff card config h.issued, h.survivors_records, h.mem_records_iff]
  constructor
  · intro hget
    have hkey := hagain.key_eq hget
    rw [← hkey] at hget ⊢
    exact hplace.mp hget
  · intro hget
    have hkey := h.key_eq hget
    rw [← hkey] at hget ⊢
    exact hplace.mpr hget

/-- **A pool that is opened with the records of another one has them in the same places**, and in
the same groups but for their order. -/
theorem Indexed.reopensAs (h : Indexed next pool) (card : ScoreCard σ η) (config : PoolConfig) :
    ReopensAs pool card config where
  get?_eq := h.get?_ofRecords_records card config
  records_eq := by
    have hrecords := map_records_congr (fun r => r)
      fun key => congrArg (Option.map fun r => r) (h.get?_ofRecords_records card config key)
    simpa only [List.map_id'] using hrecords
  group_perm mld := by
    have hperm : ((ofRecords card config pool.records).links mld).Perm (pool.links mld) := by
      rw [h.links_ofRecords_records]
      exact (h.links_perm mld).symm
    have hgroup := (indexed_ofRecords h.issued card config).group_perm h (hperm.map id)
    simpa only [List.map_id_fun, Option.map_id_fun, id_eq] using hgroup
  ascending mld group hgroup := by
    rw [← links_of_group? hgroup, h.links_ofRecords_records]
    exact (h.ascending_records.imp Key.compare_eq_lt_iff.mp).filter _

end again

end Pool

/-! ## Every pool -/

/-- **What every pool is opened as, and what becomes of it when it is opened again**, after
whatever was asked of it.  What pools share is left as it is, and nothing is reported. -/
theorem Course.opened_and_reopened [BssidHandle η σ] (card : ScoreCard σ η)
    (config : PoolConfig) (seeds : List (Record η)) (shared : Shared σ)
    (hseeds : Pool.Issued shared.nextSerial seeds) :
    Pool.Opened card config seeds ∧
    (∀ happenings card' config',
      ((Course.start (.ofRecords card config seeds) shared).run happenings).pool.ReopensAs
        card' config') ∧
    ∀ (session : Session) (kind : CardKind) (config' : PoolConfig) (seeds' : List (Record Handle)),
      let turn := session.perform (.openPool kind config' seeds')
      turn.session.shared = session.shared ∧ turn.events = [] := by
  refine ⟨hseeds.opened card config, fun happenings card' config' => ?_, fun _ _ _ _ => ⟨rfl, rfl⟩⟩
  let course := (Course.start (.ofRecords card config seeds) shared).run happenings
  have hindexed : course.pool.Indexed course.shared.nextSerial :=
    Course.indexed_run (Pool.indexed_ofRecords hseeds card config) happenings
  exact hindexed.reopensAs card' config'

/-- A pool that is opened with a saved link, another link, a suggested link that has the key of the
first one and belongs to another access point, one more link, and the second one again.  The links
are renewed, and a pool is opened with the records that there are then. -/
theorem Course.opened_and_reopened_five_seeds :
    let config := Scenario.config ⟨3⟩ ⟨"home"⟩
    let key (n : UInt16) : Key := .ofIdentity ⟨⟨"home"⟩, .psk⟩ (Scenario.radio n) ⟨3⟩
    let seed (serial : Nat) (n : UInt16) (mld : UInt8) (nominator : Nominator) : Record Handle :=
      { serial
        candidate := .make (key n) config
          { Observation.ofScan (Scenario.scan ⟨"home"⟩ n (-50)) nominator with
            mld := some (Scenario.accessPoint mld) }
          none ⟨false, false⟩ 50 }
    let links := [seed 0 7 1 .saved, seed 1 8 1 .saved, seed 2 7 2 ⟨5⟩, seed 3 9 1 .saved]
    let seeds := links ++ [seed 1 8 1 .saved]
    let shared : Shared History := { history := {}, nextSerial := 4 }
    let pool := ((Course.start (.ofRecords History.card .lenient seeds) shared).run
      [.command (.updateMultiLink MultiLink.jointThroughput)]).pool
    let again := Pool.ofRecords ScoreCard.blank .strict pool.records
    let serials (pool : Pool History Handle) :=
      (pool.group? (Scenario.accessPoint 1)).map (List.map Record.serial)
    Pool.Issued shared.nextSerial seeds ∧
      (Record.survivors seeds).map Record.serial = [2, 3, 1] ∧
      serials (.ofRecords History.card .lenient seeds) = some [3, 1] ∧
      serials pool = some [4, 5] ∧ serials again = some [5, 4] ∧
      Pool.Opened History.card .lenient seeds ∧ pool.ReopensAs ScoreCard.blank .strict := by
  intro config key seed links seeds shared pool again serials
  have hlinks : Pool.Issued shared.nextSerial links := by
    refine Pool.issued_of_nodup ?_ ?_
    · show ∀ r ∈ links, r.serial < 4
      simp [links, seed]
    · show [0, 1, 2, 3].Nodup
      decide
  have hseeds : Pool.Issued shared.nextSerial seeds := by
    refine hlinks.subset ?_
    simp [seeds, links]
  obtain ⟨hopened, hagain, -⟩ :=
    Course.opened_and_reopened History.card .lenient seeds shared hseeds
  exact ⟨hseeds, by decide, by decide, by decide, by decide, hopened, hagain _ _ _⟩

end NetworkSelection
