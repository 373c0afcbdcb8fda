import NetworkSelection.Proofs.ArrivalOrder
import NetworkSelection.Proofs.FaultAccount
import NetworkSelection.Proofs.Picture

/-!
# Replaying a batch

A selection pass may be repeated as a whole, with the same scan results and the same direct
offers, malformed ones among them.  Nothing changes then that can be seen in the pool or in the
history: every place has the same candidate, every group has the same links in the same order,
and every access point is annotated as it was.  The records are other ones, of which other
numbers speak, and the ledger has counted the faults once more.

What a batch does to a pool was said for pictures of it.  Here this is brought together with the
pool itself: as long as nothing but a batch goes on, the pool stands as it did at the beginning,
the statistics are what they were, and so what an offer would make is settled beforehand.

* `Command.Nominates`: what a batch is made of.
* `Course.Continues`: what stays as it was when the batch began.
* `Course.Continues.picture_step`: what one command does to the picture.
* `Course.replayed`: the batch once and twice.
-/

namespace NetworkSelection

/-- A command that nominates a candidate, directly or by a scan result, which may turn out to
have no key. -/
def Command.Nominates {η : Type} : Command η → Prop
  | .add .. => True
  | .addScan .. => True
  | _ => False

theorem Command.Nominates.current_eq {η : Type} {command : Command η} (h : command.Nominates)
    (now : NetworkId × Option MacAddress) : command.current now = now := by
  cases command with
  | setCurrent id bssid? => exact h.elim
  | _ => rfl

theorem Command.Nominates.mode_eq {η : Type} {command : Command η} (h : command.Nominates)
    (picky : Bool) : command.mode picky = picky := by
  cases command with
  | setPicky picky' => exact h.elim
  | _ => rfl

namespace Course

/-- What can be seen of a course. -/
def picture (course : Course History Handle) : Picture where
  candidateAt := course.pool.candidateAt
  links mld := (course.pool.links mld).map Record.key
  history := course.shared.history

theorem picture_congr {course course' : Course History Handle}
    (hkey : course'.pool.byKey = course.pool.byKey) (hmld : course'.pool.byMld = course.pool.byMld)
    (hhistory : course'.shared.history = course.shared.history) :
    course'.picture = course.picture := by
  refine Picture.ext (funext fun key => ?_) (funext fun mld => ?_) hhistory
  · simp only [picture, Pool.candidateAt, Pool.get?, hkey]
  · simp only [picture, Pool.links, Pool.group?, hmld]

/-- The picture admits an offer if the pool does. -/
theorem admits_picture_iff {course : Course History Handle} {offer : Offer} :
    course.picture.Admits offer ↔ ∀ held, course.pool.get? offer.key = some held →
      offer.seen.nominator.rank ≤ held.candidate.nominator.rank := by
  simp [Picture.Admits, Picture.nominatorAt, picture, Pool.candidateAt]

/-- A place that is held in the picture is held in the pool. -/
theorem get?_of_bounded {course : Course History Handle} {key : Key} {nominator : Nominator}
    (h : course.picture.Bounded key nominator) :
    ∃ held, course.pool.get? key = some held ∧
      held.candidate.nominator.rank ≤ nominator.rank := by
  obtain ⟨best, hbest, hle⟩ := h
  obtain ⟨candidate, hcandidate, rfl⟩ := Option.map_eq_some_iff.mp hbest
  obtain ⟨held, hget, rfl⟩ := Option.map_eq_some_iff.mp hcandidate
  exact ⟨held, hget, hle⟩

/-- A course goes on with a batch that began at `base`: the pool stands as it did then, and no
connection event has been recorded since. -/
structure Continues (base course : Course History Handle) : Prop where
  indexed : course.pool.Indexed course.shared.nextSerial
  card_eq : course.pool.card = base.pool.card
  config_eq : course.pool.config = base.pool.config
  current_eq : course.pool.current = base.pool.current
  sameSignals : base.shared.history.SameSignals course.shared.history

namespace Continues

variable {kind : CardKind} {base course : Course History Handle} {command : Command Handle}

/-- What an offer makes is settled when the batch begins. -/
theorem candidate_entrantOf (h : base.Continues course) (hcard : base.pool.card = kind.card)
    (offer : Offer) :
    (course.pool.entrantOf offer course.shared).candidate =
      (base.pool.entrantOf offer base.shared).candidate :=
  Pool.candidate_entrantOf_congr hcard ⟨h.card_eq, by rw [h.config_eq], h.current_eq⟩
    h.sameSignals offer

/-- One more command of the batch. -/
theorem step (h : base.Continues course) (hcard : base.pool.card = kind.card)
    (hcommand : command.Nominates) : base.Continues (course.step (.command command)) := by
  let m : Moment History Handle := ⟨course.pool, course.shared, command⟩
  have hstands := m.standsAs
  rw [hcommand.current_eq] at hstands
  refine ⟨m.indexed h.indexed, hstands.card_eq.trans h.card_eq, ?_,
    hstands.current_eq.trans h.current_eq, fun ap => ?_⟩
  · show m.outcome.pool.config = _
    rw [m.books.2, hcommand.mode_eq]
    exact h.config_eq
  · exact (h.sameSignals ap).trans (m.sameSignals (h.card_eq.trans hcard) ap)

/-- An offer that is taken is put into the picture. -/
theorem picture_of_enters (h : base.Continues course) (hcard : base.pool.card = kind.card)
    {next : Course History Handle} {offer : Offer}
    (hpool : next.pool = course.pool.supplant (course.pool.entrantOf offer course.shared))
    (hhistory : next.shared.history =
      (course.pool.attach offer.key offer.config course.shared.history).history) :
    next.picture = course.picture.put base offer := by
  have hcandidates : next.picture.candidateAt = (course.picture.put base offer).candidateAt := by
    funext key
    show next.pool.candidateAt key = _
    rw [Pool.candidateAt, hpool, h.indexed.get?_supplant, Pool.key_entrantOf,
      Picture.candidateAt_put]
    by_cases hkey : offer.key = key
    · rw [if_pos hkey, if_pos hkey.symm, Option.map_some, h.candidate_entrantOf hcard]
    · rw [if_neg hkey, if_neg (Ne.symm hkey)]
      rfl
  have hlinks : next.picture.links = (course.picture.put base offer).links := by
    funext mld
    show (next.pool.links mld).map Record.key = _
    rw [hpool, h.indexed.links_supplant, List.map_append, Pool.map_key_filter_ne]
    refine congrArg _ ?_
    show List.map Record.key (if offer.seen.mld = some mld then _ else _) = _
    split <;> rfl
  have hattach : course.pool.attach offer.key offer.config course.shared.history =
      base.pool.attach offer.key offer.config course.shared.history := by
    simp only [Pool.attach, h.card_eq]
  exact Picture.ext hcandidates hlinks (by rw [picture, hhistory, hattach]; rfl)

/-- **What one command of a batch does to the picture.** -/
theorem picture_step (h : base.Continues course) (hcard : base.pool.card = kind.card)
    (hcommand : command.Nominates) :
    (course.step (.command command)).picture =
      match command.offer? with
      | some offer => course.picture.meet base offer
      | none => course.picture := by
  let m : Moment History Handle := ⟨course.pool, course.shared, command⟩
  cases m.effect with
  | idle hoffer _ _ hkey hmld hshared =>
    have hoffer : command.offer? = none := hoffer
    rw [hoffer]
    exact picture_congr hkey hmld (congrArg Shared.history hshared)
  | rejects offer held hoffer _ _ hget hrank hpool hshared =>
    have hoffer : command.offer? = some offer := hoffer
    have hadmits : ¬ course.picture.Admits offer := fun hadmits =>
      UInt8.not_lt.mpr (admits_picture_iff.mp hadmits held hget) hrank
    rw [hoffer]
    refine Eq.trans ?_ (if_neg hadmits).symm
    exact picture_congr (congrArg Pool.byKey hpool) (congrArg Pool.byMld hpool)
      (congrArg Shared.history hshared)
  | enters offer hoffer _ _ hrank hpool _ hhistory =>
    have hoffer : command.offer? = some offer := hoffer
    rw [hoffer]
    exact (h.picture_of_enters hcard hpool hhistory).trans
      (if_pos (admits_picture_iff.mpr hrank)).symm
  | leaves r _ hremove =>
    obtain rfl : command = .remove r := hremove
    exact hcommand.elim
  | renews estimate hupdate =>
    obtain rfl : command = .updateMultiLink estimate := hupdate
    exact hcommand.elim

end Continues

/-- What a batch does. -/
theorem continues_run {kind : CardKind} {base course : Course History Handle}
    (h : base.Continues course) (hcard : base.pool.card = kind.card) {batch : List (Command Handle)}
    (hbatch : ∀ command ∈ batch, command.Nominates) :
    base.Continues (course.run (batch.map .command)) ∧
      (course.run (batch.map .command)).picture =
        course.picture.pass base (batch.filterMap Command.offer?) := by
  induction batch generalizing course with
  | nil => exact ⟨h, rfl⟩
  | cons command rest ih =>
    obtain ⟨hcommand, hrest⟩ := List.forall_mem_cons.mp hbatch
    obtain ⟨hcontinues, hpicture⟩ := ih (h.step hcard hcommand) hrest
    refine ⟨hcontinues, hpicture.trans ?_⟩
    rw [h.picture_step hcard hcommand, List.filterMap_cons]
    cases command.offer? <;> rfl

/-- A course looks as another one does, but for the numbers of the records and for the ledger. -/
structure LooksAs (course course' : Course History Handle) : Prop where
  candidates_eq : course.pool.records.map (·.candidate) = course'.pool.records.map (·.candidate)
  groups_eq : ∀ mld, (course.pool.group? mld).map (List.map Record.key) =
    (course'.pool.group? mld).map (List.map Record.key)
  history_eq : course.shared.history = course'.shared.history
  card_eq : course.pool.card = course'.pool.card
  config_eq : course.pool.config = course'.pool.config
  current_eq : course.pool.current = course'.pool.current

/-- Courses with one picture look alike. -/
theorem Continues.looksAs {base course course' : Course History Handle} (h : base.Continues course)
    (h' : base.Continues course') (hpicture : course.picture = course'.picture) :
    course.LooksAs course' where
  candidates_eq := by
    have halike : course.pool.Alike course'.pool := congrFun (congrArg Picture.candidateAt hpicture)
    exact halike.candidates_eq
  groups_eq mld := by
    have hlinks : (course.pool.links mld).map Record.key = (course'.pool.links mld).map Record.key :=
      congrFun (congrArg Picture.links hpicture) mld
    rw [h.indexed.group?_keys, h'.indexed.group?_keys, hlinks]
  history_eq := congrArg Picture.history hpicture
  card_eq := h.card_eq.trans h'.card_eq.symm
  config_eq := h.config_eq.trans h'.config_eq.symm
  current_eq := h.current_eq.trans h'.current_eq.symm

/-- **A batch that is replayed changes nothing**, whatever came before it.  All its offers have
been made by then: each place that there was an offer for is held by somebody who is at least as
good. -/
theorem replayed (kind : CardKind) (config : PoolConfig) (seeds : List (Record Handle))
    (shared : Shared History) (hseeds : Pool.Issued shared.nextSerial seeds)
    (happenings : List (Happening History Handle)) (batch : List (Command Handle))
    (hbatch : ∀ command ∈ batch, command.Nominates) :
    let course := (Course.start (.ofRecords kind.card config seeds) shared).run happenings
    let once := course.run (batch.map .command)
    let twice := once.run (batch.map .command)
    twice.LooksAs once ∧ ∀ offer ∈ batch.filterMap Command.offer?,
      ∃ held, once.pool.get? offer.key = some held ∧
        held.candidate.nominator.rank ≤ offer.seen.nominator.rank := by
  intro course once twice
  have hcard : course.pool.card = kind.card := by
    rw [Course.card_run]
    exact Pool.card_ofRecords kind.card config seeds
  have hindexed : course.pool.Indexed course.shared.nextSerial :=
    Course.indexed_run (Pool.indexed_ofRecords hseeds kind.card config) happenings
  have hstart : course.Continues course := ⟨hindexed, rfl, rfl, rfl, fun _ => rfl⟩
  obtain ⟨honce, hpicture⟩ := continues_run hstart hcard hbatch
  obtain ⟨htwice, hpicture'⟩ := continues_run honce hcard hbatch
  refine ⟨htwice.looksAs honce ?_, fun offer hoffer => get?_of_bounded ?_⟩
  · rw [hpicture', hpicture]
    exact Picture.pass_pass hcard _ _
  · rw [hpicture]
    exact Picture.bounded_pass_of_mem hoffer _

/-- A batch in which a link is moved to another access point by a better nominator, so that two
of the offers for it are taken the first time and one the second time, and in which a scan result
has no address. -/
theorem replayed_moved_link :
    let scan (n : UInt16) : ScanResult := Scenario.scan ⟨"home"⟩ n (-50)
    let config := Scenario.config ⟨3⟩ ⟨"home"⟩
    let add (n : UInt16) (mld : UInt8) (nominator : Nominator) : Command Handle :=
      .add (.ofIdentity ⟨⟨"home"⟩, .psk⟩ (Scenario.radio n) ⟨3⟩) config
        { Observation.ofScan (scan n) nominator with mld := some (Scenario.accessPoint mld) }
    let malformed : Command Handle := .addScan { scan 7 with bssid := "nowhere" } (some config) {}
    let batch := [add 7 1 ⟨2⟩, add 8 1 ⟨1⟩, malformed, add 7 2 ⟨1⟩, add 9 1 ⟨4⟩, add 8 1 ⟨1⟩]
    let shared : Shared History := { history := {} }
    let course := (Course.start (.ofRecords CardKind.history.card .strict []) shared).run
      [.command (add 7 1 ⟨3⟩), .command (add 9 2 ⟨0⟩)]
    let once := course.run (batch.map .command)
    let twice := once.run (batch.map .command)
    Pool.Issued shared.nextSerial ([] : List (Record Handle)) ∧
      (∀ command ∈ batch, command.Nominates) ∧
      twice.LooksAs once ∧ ∀ offer ∈ batch.filterMap Command.offer?,
        ∃ held, once.pool.get? offer.key = some held ∧
          held.candidate.nominator.rank ≤ offer.seen.nominator.rank := by
  intro scan config add malformed batch shared course once twice
  have hseeds : Pool.Issued shared.nextSerial ([] : List (Record Handle)) :=
    Pool.issued_of_nodup (by simp) (by simp)
  have hbatch : ∀ command ∈ batch, command.Nominates := by
    simp [batch, add, malformed, Command.Nominates]
  exact ⟨hseeds, hbatch, replayed .history .strict [] shared hseeds _ batch hbatch⟩

end Course

end NetworkSelection
