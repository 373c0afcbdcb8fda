import NetworkSelection.Proofs.Consistency
import NetworkSelection.Proofs.History
import NetworkSelection.Proofs.Likeness
import NetworkSelection.Proofs.Maximum
import NetworkSelection.Scenario
import Mathlib.Data.Nat.Basic
import Mathlib.Order.OrderDual

/-!
# The order of a batch

A selection pass offers its candidates in one batch, in no particular order: whoever scans
first offers first.  Nothing that is seen of the pool afterwards shows the order, so long as
it leaves alone what one nominator says about one place, of which the last word counts.

Three things make it so.  The candidate that an offer makes is settled before the batch
begins: offers do not change the current connection, and what they note in the history is no
statistics.  Each place goes to the last of the best among its holder and the offers for it,
and who that is depends on the order of equals alone.  And whoever looks into the pool sees
the candidates in their places (`Pool.LookAlike`), while the joint throughput does not depend
on the order in which the links came.

* `Offer.Rearranged`: the same offers in another order.
* `Moment.candidate_entrantOf_of_offer`: an offer leaves the prospects of all others alone.
* `Course.candidateAt_step_offer`, `Course.candidateAt_run_offers`: who holds a place after an
  offer, and after a batch.
* `Course.lookAlike_of_rearranged`: the order does not matter.
-/

namespace NetworkSelection

variable {σ η : Type}

/-! ## Batches -/

/-- An offer that is made directly, under its key. -/
def Offer.happening (offer : Offer) : Happening σ η :=
  .command (.add offer.key offer.config offer.seen)

/-- The same offers in another order, those of one nominator for one place in the same. -/
structure Offer.Rearranged (offers offers' : List Offer) : Prop where
  perm : offers.Perm offers'
  filter_eq : ∀ key nominator,
    (offers.filter fun o => o.key = key ∧ o.seen.nominator = nominator) =
      offers'.filter fun o => o.key = key ∧ o.seen.nominator = nominator

/-- Two offers in a row may change places, unless one nominator makes both for one place. -/
theorem Offer.Rearranged.swap {a b : Offer}
    (h : ¬ (a.key = b.key ∧ a.seen.nominator = b.seen.nominator)) (before after : List Offer) :
    Rearranged (before ++ a :: b :: after) (before ++ b :: a :: after) where
  perm := (List.Perm.swap b a after).append_left before
  filter_eq key nominator := by
    rw [List.filter_append, List.filter_append]
    refine congrArg _ ?_
    by_cases ha : a.key = key ∧ a.seen.nominator = nominator
    · have hb : ¬ (b.key = key ∧ b.seen.nominator = nominator) := by
        rintro ⟨hkey, hnominator⟩
        exact h ⟨ha.1.trans hkey.symm, ha.2.trans hnominator.symm⟩
      simp [ha, hb]
    · by_cases hb : b.key = key ∧ b.seen.nominator = nominator <;> simp [ha, hb]

/-! ## Prospects

What candidate an offer would make depends on the pool and on the history, and the offers of a
batch change both.  They do not change what the candidate is made of. -/

/-- A card gives out its handles whatever the history says. -/
theorem CardKind.handle_lookup (kind : CardKind) (ap : AccessPoint) (history history' : History) :
    (kind.card.lookup ap history).handle = (kind.card.lookup ap history').handle := by
  cases kind with
  | blank => rfl
  | fixed availability => rfl
  | history => simp only [CardKind.card, History.card]

/-- The candidate that an offer makes depends on how the pool stands and on the statistics. -/
theorem Pool.candidate_entrantOf_congr {kind : CardKind} {pool pool' : Pool History Handle}
    (hcard : pool.card = kind.card) (hstands : pool.StandsAs pool.current pool')
    {shared shared' : Shared History} (hsignals : shared.history.SameSignals shared'.history)
    (offer : Offer) :
    (pool'.entrantOf offer shared').candidate = (pool.entrantOf offer shared).candidate := by
  have hcard' : pool'.card = kind.card := hstands.card_eq.trans hcard
  have hhandle : (pool'.attach offer.key offer.config shared'.history).handle =
      (pool.attach offer.key offer.config shared.history).handle := by
    rw [handle_attach, handle_attach, hcard', hcard]
    exact kind.handle_lookup offer.key.accessPoint _ _
  have hstanding : pool'.standing offer.key offer.config =
      pool.standing offer.key offer.config := by
    obtain ⟨hnetwork, hbssid⟩ := Prod.mk.inj hstands.current_eq
    rw [standing, standing, hnetwork, hbssid]
  have hattached : ((pool.attach offer.key offer.config shared.history).history).SameSignals
      (pool'.attach offer.key offer.config shared'.history).history :=
    sameSignals_attach_attach hcard hcard' hsignals offer.key offer.config
  have havailability : ∀ handle? : Option Handle,
      pool'.availability handle? (pool'.attach offer.key offer.config shared'.history).history =
        pool.availability handle? (pool.attach offer.key offer.config shared.history).history := by
    intro handle?
    unfold availability
    cases handle? with
    | none => simp only [PoolConfig.availability, hstands.availability_eq]
    | some handle => simp only [hattached.availability_eq handle]
  simp only [entrantOf, entrant, hhandle, hstanding, havailability]

/-- **An offer leaves the prospects of all others alone.** -/
theorem Moment.candidate_entrantOf_of_offer {kind : CardKind} {m : Moment History Handle}
    (hcard : m.pool.card = kind.card) {offer : Offer} (hoffer : m.command.offer? = some offer)
    (other : Offer) :
    (m.outcome.pool.entrantOf other m.outcome.shared).candidate =
      (m.pool.entrantOf other m.shared).candidate :=
  Pool.candidate_entrantOf_congr hcard (m.standsAs_of_offer hoffer) (m.sameSignals hcard) other

/-! ## The competition in a batch -/

/-- Whether a candidate makes room for another one under its key. -/
def Candidate.yieldsTo (c d : Candidate η) : Bool :=
  d.nominator.rank ≤ c.nominator.rank

section place

variable [BssidHandle η σ]

/-- The candidates in prospect for a place, if these offers are made. -/
def Course.prospects (course : Course σ η) (key : Key) (offers : List Offer) :
    List (Candidate η) :=
  (offers.filter (·.key = key)).map fun o => (course.pool.entrantOf o course.shared).candidate

theorem Course.prospects_cons (course : Course σ η) (key : Key) (offer : Offer)
    (rest : List Offer) :
    course.prospects key (offer :: rest) =
      course.prospects key [offer] ++ course.prospects key rest := by
  rw [prospects, ← List.singleton_append, List.filter_append, List.map_append]
  rfl

/-- **One offer in a batch.**  The holder of a place and the candidate in prospect for it, if
the offer is for this place, compete for it. -/
theorem Course.candidateAt_step_offer {course : Course σ η}
    (hindexed : course.pool.Indexed course.shared.nextSerial) (offer : Offer) (key : Key) :
    (course.step offer.happening).pool.candidateAt key =
      Scorer.lastMaximum Candidate.yieldsTo
        ((course.pool.candidateAt key).toList ++ course.prospects key [offer]) := by
  let command : Command η := .add offer.key offer.config offer.seen
  have hoffer : command.offer? = some offer := rfl
  let entrant := course.pool.entrantOf offer course.shared
  have hprospects : course.prospects key [offer] =
      if offer.key = key then [entrant.candidate] else [] := by
    rw [prospects, List.filter_singleton]
    by_cases hkey : offer.key = key <;> simp [hkey, entrant]
  show (course.pool.apply course.shared command).pool.candidateAt key = _
  rw [hprospects]
  by_cases houtranked : course.pool.OutrankedAt offer.key offer.seen.nominator
  · obtain ⟨-, hpool, -⟩ := Pool.apply_of_outrankedAt hoffer houtranked course.shared
    rw [hpool]
    by_cases hkey : offer.key = key
    · obtain ⟨held, hget, hlt⟩ := houtranked
      have hheld : course.pool.candidateAt key = some held.candidate := by
        rw [Pool.candidateAt, ← hkey, hget]
        rfl
      have hyields : held.candidate.yieldsTo entrant.candidate = false :=
        decide_eq_false (UInt8.not_le.mpr hlt)
      rw [hheld, if_pos hkey, Scorer.lastMaximum_concat]
      simp [hyields]
    · rw [if_neg hkey, List.append_nil, Scorer.lastMaximum_toList]
  · obtain ⟨-, hpool, -⟩ := Pool.apply_of_not_outrankedAt hoffer houtranked course.shared
    rw [hpool, Pool.candidateAt, hindexed.get?_supplant, Pool.key_entrantOf]
    by_cases hkey : offer.key = key
    · rw [if_pos hkey, if_pos hkey, Scorer.lastMaximum_concat, Pool.candidateAt, ← hkey]
      cases hget : course.pool.get? offer.key with
      | none => rfl
      | some held =>
        have hyields : held.candidate.yieldsTo entrant.candidate = true :=
          decide_eq_true (Pool.not_outrankedAt.mp houtranked held hget)
        simp [hyields, entrant]
    · rw [if_neg hkey, if_neg hkey, List.append_nil, Scorer.lastMaximum_toList]
      rfl

end place

/-- **Who holds a place after a batch**: the last of the best among its holder and the
candidates that were in prospect for it when the batch began. -/
theorem Course.candidateAt_run_offers {kind : CardKind} {course : Course History Handle}
    (hcard : course.pool.card = kind.card)
    (hindexed : course.pool.Indexed course.shared.nextSerial) (offers : List Offer) (key : Key) :
    (course.run (offers.map Offer.happening)).pool.candidateAt key =
      Scorer.lastMaximum Candidate.yieldsTo
        ((course.pool.candidateAt key).toList ++ course.prospects key offers) := by
  induction offers generalizing course with
  | nil => simp [prospects]
  | cons offer rest ih =>
    let m : Moment History Handle :=
      ⟨course.pool, course.shared, .add offer.key offer.config offer.seen⟩
    have hoffer : m.command.offer? = some offer := rfl
    let next := course.step offer.happening
    have hcard' : next.pool.card = kind.card :=
      (m.standsAs_of_offer hoffer).card_eq.trans hcard
    have hprospects : next.prospects key rest = course.prospects key rest :=
      List.map_congr_left fun o _ => m.candidate_entrantOf_of_offer hcard hoffer o
    calc (course.run ((offer :: rest).map Offer.happening)).pool.candidateAt key
      _ = Scorer.lastMaximum Candidate.yieldsTo
          ((next.pool.candidateAt key).toList ++ next.prospects key rest) :=
        ih hcard' (m.indexed hindexed)
      _ = Scorer.lastMaximum Candidate.yieldsTo
          ((course.pool.candidateAt key).toList ++ course.prospects key [offer] ++
            course.prospects key rest) := by
        rw [candidateAt_step_offer hindexed, Scorer.lastMaximum_append, hprospects]
      _ = _ := by rw [prospects_cons course key offer rest, List.append_assoc]

/-! ## The order does not matter -/

/-- Among candidates for one place the order matters among those of one nominator alone. -/
theorem Candidate.lastMaximum_yieldsTo_congr {candidates candidates' : List (Candidate η)}
    (h : ∀ nominator, (candidates.filter fun c => c.nominator = nominator) =
      candidates'.filter fun c => c.nominator = nominator) :
    Scorer.lastMaximum yieldsTo candidates = Scorer.lastMaximum yieldsTo candidates' := by
  -- a lower rank is a higher priority
  refine Scorer.lastMaximum_congr (fun c => OrderDual.toDual c.nominator.rank.toNat)
    (fun c d => ?_) fun x => ?_
  · rw [yieldsTo, decide_eq_true_iff, OrderDual.toDual_le_toDual, UInt8.le_iff_toNat_le]
  · have hsame : ∀ c : Candidate η, OrderDual.toDual c.nominator.rank.toNat =
        OrderDual.toDual x.nominator.rank.toNat ↔ c.nominator = x.nominator := by
      intro c
      rw [OrderDual.toDual_inj, UInt8.toNat_inj, Nominator.mk.injEq]
    simpa only [hsame] using h x.nominator

/-- After a batch each place has the candidate that it has after the same batch in another
order. -/
theorem Course.alike_of_rearranged {kind : CardKind} {course : Course History Handle}
    (hcard : course.pool.card = kind.card)
    (hindexed : course.pool.Indexed course.shared.nextSerial) {offers offers' : List Offer}
    (h : Offer.Rearranged offers offers') :
    (course.run (offers.map Offer.happening)).pool.Alike
      (course.run (offers'.map Offer.happening)).pool := by
  intro key
  rw [candidateAt_run_offers hcard hindexed, candidateAt_run_offers hcard hindexed]
  refine Candidate.lastMaximum_yieldsTo_congr fun nominator => ?_
  -- the candidate of an offer has the nominator of the offer
  have hfilter : ∀ batch : List Offer,
      (course.prospects key batch).filter (·.nominator = nominator) =
        (batch.filter fun o => o.key = key ∧ o.seen.nominator = nominator).map fun o =>
          (course.pool.entrantOf o course.shared).candidate := by
    intro batch
    rw [prospects, List.filter_map, List.filter_filter]
    refine congrArg _ (List.filter_congr fun o _ => ?_)
    rw [Bool.decide_and, Bool.and_comm]
    rfl
  rw [List.filter_append, List.filter_append, hfilter, hfilter, h.filter_eq]

/-- **The order of a batch does not matter.**  Whatever a pool was opened with and whatever
happened to it before, after a batch it looks as it does after the same batch in another
order, and so it does when the links are then given their joint throughput. -/
theorem Course.lookAlike_of_rearranged (kind : CardKind) (config : PoolConfig)
    (seeds : List (Record Handle)) (shared : Shared History)
    (hseeds : Pool.Issued shared.nextSerial seeds) (happenings : List (Happening History Handle))
    {offers offers' : List Offer} (h : Offer.Rearranged offers offers') :
    let course := (Course.start (.ofRecords kind.card config seeds) shared).run happenings
    let first := course.run (offers.map Offer.happening)
    let second := course.run (offers'.map Offer.happening)
    let renewal : Happening History Handle := .command (.updateMultiLink MultiLink.jointThroughput)
    first.pool.LookAlike second.pool ∧
      (first.step renewal).pool.LookAlike (second.step renewal).pool := by
  intro course first second renewal
  have hcard : course.pool.card = kind.card := by
    rw [Course.card_run]
    exact Pool.card_ofRecords kind.card config seeds
  have hindexed : course.pool.Indexed course.shared.nextSerial :=
    Course.indexed_run (Pool.indexed_ofRecords hseeds kind.card config) happenings
  have halike : first.pool.Alike second.pool := Course.alike_of_rearranged hcard hindexed h
  have hfirst : first.pool.Indexed first.shared.nextSerial := Course.indexed_run hindexed _
  have hsecond : second.pool.Indexed second.shared.nextSerial := Course.indexed_run hindexed _
  refine ⟨halike.lookAlike hfirst hsecond, ?_⟩
  have hrenewed : (first.step renewal).pool.Alike (second.step renewal).pool :=
    halike.updateMultiLink hfirst hsecond MultiLink.jointThroughput_eq_of_perm
  exact hrenewed.lookAlike (Course.indexed_run hfirst [renewal])
    (Course.indexed_run hsecond [renewal])

/-- The links of an access point are offered in two orders to a pool that was opened with one
of them; one of the offers is for the place that is taken. -/
theorem Course.lookAlike_of_rearranged_three_links :
    let key (n : UInt16) : Key := .ofIdentity ⟨⟨"home"⟩, .psk⟩ (Scenario.radio n) ⟨3⟩
    let seen (n : UInt16) (nominator : Nominator) : Observation :=
      { Observation.ofScan (Scenario.scan ⟨"home"⟩ n (-50)) nominator with
        mld := some (Scenario.accessPoint 1), mbps := 600 }
    let offer (n : UInt16) (nominator : Nominator) : Offer :=
      ⟨key n, Scenario.config ⟨3⟩ ⟨"home"⟩, seen n nominator⟩
    let seed : Record Handle :=
      { serial := 0
        candidate := .make (key 7) (Scenario.config ⟨3⟩ ⟨"home"⟩) (seen 7 ⟨1⟩) none
          ⟨false, false⟩ 50 }
    let shared : Shared History := { history := {}, nextSerial := 1 }
    let offers := [offer 7 .saved, offer 8 ⟨2⟩, offer 9 .saved]
    let offers' := [offer 8 ⟨2⟩, offer 7 .saved, offer 9 .saved]
    let happenings : List (Happening History Handle) :=
      [.command (.setCurrent ⟨3⟩ none), .elsewhere {} 4]
    let course :=
      (Course.start (.ofRecords CardKind.history.card .lenient [seed]) shared).run happenings
    let first := course.run (offers.map Offer.happening)
    let second := course.run (offers'.map Offer.happening)
    let renewal : Happening History Handle := .command (.updateMultiLink MultiLink.jointThroughput)
    Pool.Issued shared.nextSerial [seed] ∧ Offer.Rearranged offers offers' ∧
      first.pool.LookAlike second.pool ∧
      (first.step renewal).pool.LookAlike (second.step renewal).pool := by
  intro key seen offer seed shared offers offers' happenings course first second renewal
  have hseeds : Pool.Issued shared.nextSerial [seed] := by
    refine Pool.issued_of_nodup ?_ (List.nodup_singleton _)
    intro r hr
    rw [List.mem_singleton.mp hr]
    exact Nat.zero_lt_one
  have hkey : ¬ (key 7 = key 8 ∧ Nominator.saved = ⟨2⟩) := fun h => absurd h.2 (by decide)
  have hrearranged : Offer.Rearranged offers offers' := .swap hkey [] [offer 9 .saved]
  exact ⟨hseeds, hrearranged,
    Course.lookAlike_of_rearranged .history .lenient [seed] shared hseeds happenings hrearranged⟩

end NetworkSelection
