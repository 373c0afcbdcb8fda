import NetworkSelection.Proofs.Effects
import NetworkSelection.Proofs.Renewal
import NetworkSelection.Scenario
import NetworkSelection.ScoreCard.History

/-!
# Every pool is consistent

Whatever records a pool was opened with and whatever was asked of it since, its two
indices hold the same records.  What one command may do was said in `Moment.effect`;
here each of these effects is shown to keep the invariant `Pool.Indexed`, and so does
opening a pool, and so it holds of every course.

## Records that exist

A pool may be opened with any records that exist already: the same record several times,
several records with one key, records that other pools hold as well.  That they exist
means that each of them was given its number by the supply, which never gives one number
to two records (`Pool.Issued`).

* `Course.indexed_run`: the invariant holds in every course.
* `Course.moments_induction`, `Course.past_induction`: how the past of a pool is brought together
  with the pool.
* `Pool.ofRecords_induction`: what holds of a pool when it is opened.
* `Pool.consistent_run_ofRecords`: what it means for those who look into the pool.
-/

namespace NetworkSelection

variable {σ η : Type}

/-- A list with one more entry at the end is split at this entry or at an earlier one. -/
theorem split_concat {α : Type} {l before later : List α} {x a : α}
    (h : l ++ [x] = before ++ a :: later) :
    (before = l ∧ a = x ∧ later = []) ∨ ∃ rest, later = rest ++ [x] ∧ l = before ++ a :: rest := by
  rcases List.eq_nil_or_concat later with rfl | ⟨rest, last, rfl⟩
  · obtain ⟨rfl, hx⟩ := List.append_inj' h rfl
    exact .inl ⟨rfl, (List.cons.inj hx).1.symm, rfl⟩
  · have h : l ++ [x] = (before ++ a :: rest) ++ [last] := by simpa using h
    obtain ⟨hl, hx⟩ := List.append_inj' h rfl
    exact .inr ⟨rest, by rw [hx, List.concat_eq_append], hl⟩

/-- What holds of each entry of a list together with the entries before it, and of one more
entry together with all of them, holds of the list with this entry at the end. -/
theorem forall_split_concat {α : Type} {P : List α → α → Prop} {l : List α} {x : α}
    (h : ∀ before a later, l = before ++ a :: later → P before a) (hx : P l x) :
    ∀ before a later, l ++ [x] = before ++ a :: later → P before a := by
  intro before a later hsplit
  rcases split_concat hsplit with ⟨rfl, rfl, rfl⟩ | ⟨rest, rfl, hl⟩
  · exact hx
  · exact h before a rest hl

/-! ## One command -/

section step

variable [BssidHandle η σ]

/-- Every command keeps the indices in agreement. -/
theorem Moment.indexed (m : Moment σ η) (h : m.pool.Indexed m.shared.nextSerial) :
    m.outcome.pool.Indexed m.outcome.shared.nextSerial := by
  cases m.effect with
  | idle _ _ _ hkey hmld hshared =>
    rw [hshared]
    exact h.congr hkey hmld
  | rejects _ _ _ _ _ _ _ hpool hshared =>
    rw [hpool, hshared]
    exact h
  | enters offer _ _ _ _ hpool hserial =>
    rw [hpool, hserial]
    refine (h.mono (Nat.le_succ _)).supplant (fun key s hs he => ?_) (Nat.lt_succ_self _)
    -- the number of the new record has never been given out
    have hlt := h.serial_lt hs
    rw [he, Pool.serial_entrantOf] at hlt
    exact absurd hlt (Nat.lt_irrefl _)
  | leaves r held _ _ _ hget _ hpool hshared =>
    rw [hpool, hshared]
    exact h.drop (by rw [h.key_eq hget]; exact hget)
  | renews estimate _ _ _ hpool hshared =>
    rw [hpool, hshared]
    exact h.updateMultiLink estimate

/-- **The indices agree in the whole course of a pool.** -/
theorem Course.indexed_run {course : Course σ η}
    (start : course.pool.Indexed course.shared.nextSerial)
    (happenings : List (Happening σ η)) :
    (course.run happenings).pool.Indexed (course.run happenings).shared.nextSerial := by
  refine Course.run_induction (motive := fun c => c.pool.Indexed c.shared.nextSerial)
    ?_ ?_ start happenings
  · intro course c h
    exact Moment.indexed ⟨course.pool, course.shared, c⟩ h
  · intro course history serials h
    exact h.mono (Nat.le_add_right _ _)

/-- A pool never changes its card. -/
theorem Course.card_run (course : Course σ η) (happenings : List (Happening σ η)) :
    (course.run happenings).pool.card = course.pool.card := by
  refine Course.run_induction (motive := fun c => c.pool.card = course.pool.card)
    ?_ ?_ rfl happenings
  · intro c command h
    exact (Moment.standsAs ⟨c.pool, c.shared, command⟩).card_eq.trans h
  · exact fun _ _ _ h => h

/-- What is said of a pool and its past is true at every moment and in the end, if every command
keeps it true. -/
theorem Course.moments_induction {motive : List (Moment σ η) → Pool σ η → Prop}
    (moment : ∀ past (m : Moment σ η), motive past m.pool → motive (past ++ [m]) m.outcome.pool)
    {course : Course σ η} (hpast : course.past = []) (start : motive [] course.pool)
    (happenings : List (Happening σ η)) :
    let course := course.run happenings
    motive course.past course.pool ∧
      ∀ before m later, course.past = before ++ m :: later → motive before m.pool := by
  refine Course.run_induction (motive := fun c => motive c.past c.pool ∧
    ∀ before m later, c.past = before ++ m :: later → motive before m.pool)
    ?_ ?_ ⟨hpast.symm ▸ start, by simp [hpast]⟩ happenings
  · rintro c command ⟨hnow, hbefore⟩
    let last : Moment σ η := ⟨c.pool, c.shared, command⟩
    exact ⟨moment c.past last hnow, forall_split_concat hbefore hnow⟩
  · exact fun _ _ _ h => h

/-- What is told of a new pool by going through its past, one moment after another, is true
of it, if every moment keeps it true.  Each moment meets a pool whose indices agree; and only
the pool is told of, since what happens elsewhere is not part of its past. -/
theorem Course.past_induction {α : Type} {tell : α → Moment σ η → α}
    {motive : α → Pool σ η → Prop}
    (moment : ∀ tale (m : Moment σ η), m.pool.Indexed m.shared.nextSerial →
      motive tale m.pool → motive (tell tale m) m.outcome.pool)
    {tale : α} {card : ScoreCard σ η} {config : PoolConfig}
    (start : motive tale (.empty card config)) (shared : Shared σ)
    (happenings : List (Happening σ η)) :
    let course := (Course.start (.empty card config) shared).run happenings
    motive (course.past.foldl tell tale) course.pool := by
  let holds (course : Course σ η) : Prop :=
    course.pool.Indexed course.shared.nextSerial ∧
      motive (course.past.foldl tell tale) course.pool
  have hstart : holds (Course.start (.empty card config) shared) :=
    ⟨Pool.indexed_empty card config _, start⟩
  refine (Course.run_induction (motive := holds) ?_ ?_ hstart happenings).2
  · rintro course c ⟨hindexed, h⟩
    let m : Moment σ η := ⟨course.pool, course.shared, c⟩
    refine ⟨m.indexed hindexed, ?_⟩
    show motive ((course.past ++ [m]).foldl tell tale) m.outcome.pool
    rw [List.foldl_append]
    exact moment _ m hindexed h
  · rintro course history serials ⟨hindexed, h⟩
    exact ⟨hindexed.mono (Nat.le_add_right _ _), h⟩

/-- What is said of a new pool and its past is true in its whole course, if every moment keeps
it true. -/
theorem Course.past_pool_induction {motive : List (Moment σ η) → Pool σ η → Prop}
    (moment : ∀ past (m : Moment σ η), m.pool.Indexed m.shared.nextSerial →
      motive past m.pool → motive (past ++ [m]) m.outcome.pool)
    {card : ScoreCard σ η} {config : PoolConfig} (start : motive [] (.empty card config))
    (shared : Shared σ) (happenings : List (Happening σ η)) :
    let course := (Course.start (.empty card config) shared).run happenings
    motive course.past course.pool := by
  intro course
  have hpast : course.past.foldl (fun past m => past ++ [m]) [] = course.past := by
    rw [List.foldl_append_eq_append, List.nil_append, ← List.flatMap_def, List.flatMap_singleton']
  have h : motive (course.past.foldl (fun past m => past ++ [m]) []) course.pool :=
    Course.past_induction moment start shared happenings
  rwa [hpast] at h

end step

namespace Pool

/-! ## Opening a pool -/

/-- Records that exist when the supply of numbers stands at `next`: their numbers were
given out, and none of them twice. -/
structure Issued (next : Nat) (records : List (Record η)) : Prop where
  serial_lt : ∀ r ∈ records, r.serial < next
  serial_inj : ∀ r ∈ records, ∀ s ∈ records, r.serial = s.serial → r = s

theorem issued_of_nodup {next : Nat} {records : List (Record η)}
    (hlt : ∀ r ∈ records, r.serial < next) (hnodup : (records.map Record.serial).Nodup) :
    Issued next records :=
  ⟨hlt, fun _ hr _ hs he => List.inj_on_of_nodup_map hnodup hr hs he⟩

/-- Naming some of the records again, in any order, makes no new ones. -/
theorem Issued.subset {next : Nat} {records again : List (Record η)} (h : Issued next records)
    (hsub : again ⊆ records) : Issued next again :=
  ⟨fun r hr => h.serial_lt r (hsub hr),
    fun r hr s hs he => h.serial_inj r (hsub hr) s (hsub hs) he⟩

theorem indexed_foldl_supplant {next : Nat} {seeds : List (Record η)} (hseeds : Issued next seeds)
    (rest : List (Record η)) (hrest : ∀ r ∈ rest, r ∈ seeds) {pool : Pool σ η}
    (h : pool.Indexed next) (hfrom : ∀ key r, pool.get? key = some r → r ∈ seeds) :
    (rest.foldl (fun pool r => pool.supplant r) pool).Indexed next := by
  induction rest generalizing pool with
  | nil => exact h
  | cons r rest ih =>
    obtain ⟨hr, hrest⟩ := List.forall_mem_cons.mp hrest
    refine ih hrest ?_ ?_
    · exact h.supplant (fun key s hs he => hseeds.serial_inj s (hfrom key s hs) r hr he)
        (hseeds.serial_lt r hr)
    · intro key s hs
      rw [h.get?_supplant] at hs
      split at hs
      · rw [← Option.some.inj hs]
        exact hr
      · exact hfrom key s hs

theorem indexed_ofRecords {next : Nat} {seeds : List (Record η)} (hseeds : Issued next seeds)
    (card : ScoreCard σ η) (config : PoolConfig) :
    (ofRecords card config seeds).Indexed next :=
  indexed_foldl_supplant hseeds seeds (fun _ hr => hr) (indexed_empty card config next)
    (fun _ _ hr => by simp at hr)

/-- What holds of a pool without records and is kept by every record that takes its place holds
of a pool that was opened with records. -/
theorem ofRecords_induction {motive : Pool σ η → Prop} {card : ScoreCard σ η} {config : PoolConfig}
    (empty : motive (.empty card config))
    (supplant : ∀ pool r, motive pool → motive (pool.supplant r)) (seeds : List (Record η)) :
    motive (ofRecords card config seeds) := by
  have hfold : ∀ pool, motive pool → motive (seeds.foldl (fun pool r => pool.supplant r) pool) := by
    induction seeds with
    | nil => exact fun _ h => h
    | cons r rest ih => exact fun pool h => ih (pool.supplant r) (supplant pool r h)
  exact hfold _ empty

/-- A pool consults the card that it was opened with. -/
theorem card_ofRecords (card : ScoreCard σ η) (config : PoolConfig) (seeds : List (Record η)) :
    (ofRecords card config seeds).card = card :=
  ofRecords_induction (motive := fun pool => pool.card = card) rfl
    (fun pool r h => (standsAs_supplant r pool).card_eq.trans h) seeds

/-! ## What is seen from outside -/

/-- How often this very record stands in the group of a multi-link access point. -/
def occurrences (pool : Pool σ η) (mld : MacAddress) (r : Record η) : Nat :=
  (((pool.group? mld).getD []).map Record.serial).count r.serial

/-- Both indices hold the same records. -/
structure Consistent (pool : Pool σ η) : Prop where
  /-- The record in a place has the key of the place. -/
  key_eq : ∀ key r, pool.get? key = some r → r.key = key
  /-- No group is empty. -/
  group_ne_nil : ∀ mld, pool.group? mld ≠ some []
  /-- Everything in a group is a link of its access point, and the very record that is found
  under its key. -/
  of_mem_group : ∀ mld group r, pool.group? mld = some group → r ∈ group →
    r.mld = some mld ∧ pool.get? r.key = some r
  /-- A record in place stands once in the group of its access point, if it has one, and
  nowhere in any other group. -/
  occurrences_eq : ∀ key r mld, pool.get? key = some r →
    pool.occurrences mld r = if r.mld = some mld then 1 else 0

theorem Indexed.occurrences_eq {next : Nat} {pool : Pool σ η} (h : Indexed next pool)
    {r : Record η} (hget : pool.get? r.key = some r) (mld : MacAddress) :
    pool.occurrences mld r = if r.mld = some mld then 1 else 0 := by
  show ((pool.links mld).map Record.serial).count r.serial = _
  have hnodup : ((pool.links mld).map Record.serial).Nodup :=
    (h.nodup_links mld).map_on fun s hs t ht he =>
      h.eq_of_mem_links hs (h.mem_links.mp ht).2 he
  split
  · next hm =>
    have hr : r ∈ pool.links mld := h.mem_links.mpr ⟨hm, hget⟩
    exact List.count_eq_one_of_mem hnodup (List.mem_map_of_mem hr)
  · next hm =>
    refine List.count_eq_zero_of_not_mem fun hmem => ?_
    obtain ⟨s, hs, he⟩ := List.mem_map.mp hmem
    rw [← h.eq_of_mem_links hs hget he] at hm
    exact hm (h.mem_links.mp hs).1

theorem Indexed.consistent {next : Nat} {pool : Pool σ η} (h : Indexed next pool) :
    Consistent pool where
  key_eq _ _ hget := h.key_eq hget
  group_ne_nil := h.group_ne_nil
  of_mem_group _ _ _ hg hr := h.mem_links.mp (by rw [links_of_group? hg]; exact hr)
  occurrences_eq _ _ mld hget := h.occurrences_eq (by rw [h.key_eq hget]; exact hget) mld

/-- **Every pool is consistent.**  The records that it was opened with may be any that
exist, and its course may be any course. -/
theorem consistent_run_ofRecords [BssidHandle η σ] (card : ScoreCard σ η) (config : PoolConfig)
    (seeds : List (Record η)) (shared : Shared σ) (hseeds : Issued shared.nextSerial seeds)
    (happenings : List (Happening σ η)) :
    ((Course.start (ofRecords card config seeds) shared).run happenings).pool.Consistent := by
  have hstart : (Course.start (ofRecords card config seeds) shared).pool.Indexed
      shared.nextSerial := indexed_ofRecords hseeds card config
  exact (Course.indexed_run hstart happenings).consistent

/-- A pool that is opened with one record twice and with another record of the same key in
between, and in which the links are renewed, a record that is no longer in place is to be
taken away, and a new candidate comes. -/
theorem consistent_run_repeated_seeds :
    let scan := Scenario.scan ⟨"home"⟩ 7 (-50)
    let config := Scenario.config ⟨3⟩ ⟨"home"⟩
    let key : Key := .ofIdentity ⟨⟨"home"⟩, .psk⟩ (Scenario.radio 7) ⟨3⟩
    let seed (serial : Nat) (mld : UInt8) : Record Handle :=
      { serial
        candidate := .make key config
          { Observation.ofScan scan .saved with mld := some (Scenario.accessPoint mld) }
          none ⟨false, false⟩ 50 }
    let seeds := [seed 0 1, seed 1 2, seed 0 1]
    let shared : Shared History := { history := {}, nextSerial := 2 }
    Issued shared.nextSerial seeds ∧
      ((Course.start (ofRecords History.card .lenient seeds) shared).run
        [.command (.updateMultiLink MultiLink.jointThroughput), .command (.remove (seed 0 1)),
          .elsewhere {} 5, .command (.addScan scan (some config) {})]).pool.Consistent := by
  intro scan config key seed seeds shared
  have hmade : Issued shared.nextSerial [seed 0 1, seed 1 2] := by
    refine issued_of_nodup ?_ ?_
    · intro r hr
      rcases List.mem_pair.mp hr with rfl | rfl
      · exact Nat.zero_lt_two
      · exact Nat.one_lt_two
    · show [0, 1].Nodup
      decide
  have hseeds : Issued shared.nextSerial seeds := by
    refine hmade.subset ?_
    simp [seeds]
  exact ⟨hseeds, consistent_run_ofRecords History.card .lenient seeds shared hseeds _⟩

end Pool

end NetworkSelection
