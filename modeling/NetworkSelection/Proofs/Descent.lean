import NetworkSelection.Proofs.Estimate

/-!
# What records see of the history

A record may be handed around.  It stays what it is when it is taken away from its pool, when
another one takes its place and when another pool is opened with it; and a copy is made of it when
somebody asks for one, or when the links of a pool that it is in are renewed.  A record and the
copies of it, and the copies of these, are its *descent*.

What goes from a record to a copy is everything but the joint throughput.  So every record of the
descent of a candidate that a pool over the history took in has the estimate of that moment, for
good; and it has the way into the history, through which it sees the statistics of its access point
on its frequency as they are at the time of looking, in whatever pool it is by then, if in any.

* `Session.Descends`: the descent of an offer that was taken.
* `Session.Stems`, `Session.Descends.stems`: what the records of a descent have in common.
* `Session.Sees`: what a record sees of the history.
* `Session.sees_of_descends`: it sees the statistics of all reports so far.
-/

namespace NetworkSelection

/-! ## Looking through the handle -/

/-- Through a reference to an access point a candidate sees what the history holds of it. -/
theorem History.Holds.statistics?_of_handle {history : History} {reports : List Report}
    (h : history.Holds reports) {candidate : Candidate Handle} {ap : AccessPoint}
    (hhandle : candidate.handle = some (.tracked ap)) (event : ConnectionEvent) :
    candidate.statistics? event history =
      SignalSource.statistics? ⟨event, candidate.frequency⟩
        (Report.stream ap ⟨event, candidate.frequency⟩ reports) := by
  rw [Candidate.statistics?, hhandle]
  exact h ap ⟨event, candidate.frequency⟩

/-- There are no statistics of a source just as long as there is no report from it. -/
theorem SignalSource.statistics?_stream_eq_none_iff {ap : AccessPoint} {source : SignalSource}
    {reports : List Report} :
    source.statistics? (Report.stream ap source reports) = none ↔
      ∀ report ∈ reports, report.ap = ap → report.source ≠ source := by
  rw [← Option.not_isSome_iff_eq_none, isSome_statistics?, Report.stream_ne_nil_iff]
  push Not
  rfl

/-- What a pool over the history makes of an offer refers to its access point. -/
theorem Pool.handle_entrantOf {pool : Pool History Handle} (hcard : pool.card = History.card)
    (offer : Offer) (shared : Shared History) :
    (pool.entrantOf offer shared).candidate.handle = some (.tracked offer.key.accessPoint) := by
  show (pool.attach offer.key offer.config shared.history).handle = _
  rw [handle_attach, hcard]
  rfl

namespace Session

/-! ## Descent -/

/-- The record goes back to this offer, which a pool took at the scene of its origin. -/
inductive Descends (scenes : List Scene) (origin : Scene) (offer : Offer) :
    Record Handle → Prop where
  /-- The record that is in place when the offer has been taken. -/
  | enters {index : Nat} {pool : Pool History Handle} {r : Record Handle}
      (hmem : origin ∈ scenes) (htakes : origin.Takes index offer)
      (hpool : origin.turn.session.pools[index]? = some pool)
      (hget : pool.get? offer.key = some r) : Descends scenes origin offer r
  /-- What is in the place of a record of the descent, in a pool over whatever card, when the links
  of this pool have been renewed. -/
  | renewed {s : Scene} {index : Nat} {estimate : List (Candidate Handle) → UInt32}
      {pool pool' : Pool History Handle} {r r' : Record Handle}
      (h : Descends scenes origin offer r) (hmem : s ∈ scenes)
      (haction : s.action = .command index (.updateMultiLink estimate))
      (hpool : s.session.pools[index]? = some pool) (hget : pool.get? r.key = some r)
      (hpool' : s.turn.session.pools[index]? = some pool') (hget' : pool'.get? r.key = some r') :
      Descends scenes origin offer r'
  /-- A copy that somebody asks for, with the joint throughput as it is or with another one. -/
  | copied {s : Scene} {mbps : UInt32} {r r' : Record Handle}
      (h : Descends scenes origin offer r) (hmem : s ∈ scenes)
      (haction : s.action = .make (r.candidate.withMultiLinkMbps mbps))
      (hresult : s.turn.result = .made r') : Descends scenes origin offer r'

/-- What a record has from the offer that it goes back to, and from the scene at which that offer
was taken. -/
structure Stems (origin : Scene) (offer : Offer) (r : Record Handle) : Prop where
  key_eq : r.key = offer.key
  handle_eq : r.candidate.handle = some (.tracked offer.key.accessPoint)
  frequency_eq : r.candidate.frequency = offer.seen.frequency
  availability_eq : r.candidate.availability =
    (origin.session.shared.history.known offer.key.accessPoint).availability

/-- The joint throughput is none of it. -/
theorem Stems.of_candidate_eq {origin : Scene} {offer : Offer} {r r' : Record Handle} {mbps : UInt32}
    (h : Stems origin offer r) (hcandidate : r'.candidate = r.candidate.withMultiLinkMbps mbps) :
    Stems origin offer r' where
  key_eq := by rw [Record.key, hcandidate]; exact h.key_eq
  handle_eq := by rw [hcandidate]; exact h.handle_eq
  frequency_eq := by rw [hcandidate]; exact h.frequency_eq
  availability_eq := by rw [hcandidate]; exact h.availability_eq

namespace Scene

variable {s : Scene} {index : Nat}

/-- The record that comes to its place when a pool over the history takes an offer. -/
theorem stems_of_takes {offer : Offer} (h : s.Takes index offer) {pool : Pool History Handle}
    {r : Record Handle} (hpool : s.turn.session.pools[index]? = some pool)
    (hget : pool.get? offer.key = some r) : Stems s offer r := by
  obtain ⟨command, before, haction, hbefore, hcard, htaken⟩ := h
  -- the record in place is the one that was made for the offer, over the card that keeps history
  let m := s.moment before command
  have hoffer : m.taken? = some offer := (taken?_of_command haction hbefore).symm.trans htaken
  rw [getElem?_pools_of_command haction hbefore, Option.some.injEq] at hpool
  rw [← hpool, m.get?_of_taken? hoffer, Option.some.injEq] at hget
  obtain rfl : before.entrantOf offer m.shared = r := hget
  exact
    { key_eq := rfl
      handle_eq := Pool.handle_entrantOf hcard offer m.shared
      frequency_eq := rfl
      availability_eq := Pool.availability_entrantOf hcard offer m.shared }

/-- What is in the place of a record when the links have been renewed is this record, or a copy. -/
theorem candidate_of_renews (hindexed : s.session.Indexed)
    {estimate : List (Candidate Handle) → UInt32} {pool pool' : Pool History Handle}
    {r r' : Record Handle} (haction : s.action = .command index (.updateMultiLink estimate))
    (hpool : s.session.pools[index]? = some pool) (hget : pool.get? r.key = some r)
    (hpool' : s.turn.session.pools[index]? = some pool') (hget' : pool'.get? r.key = some r') :
    ∃ mbps, r'.candidate = r.candidate.withMultiLinkMbps mbps := by
  have hin : pool.Indexed s.session.shared.nextSerial := hindexed pool (List.mem_of_getElem? hpool)
  rw [getElem?_pools_of_command haction hpool, Option.some.injEq] at hpool'
  have hrenewed := hin.get?_updateMultiLink estimate r.key
  rw [hget, Option.map_some] at hrenewed
  have hsame : (pool.updateMultiLink estimate s.session.shared).pool.get? r.key = some r' := by
    rw [← hget', ← hpool']
    rfl
  obtain rfl := Option.some.inj (hsame.symm.trans hrenewed)
  exact ⟨_, Pool.candidate_renewal_eq estimate _ pool r⟩

end Scene

/-- **A descent has its origin in common**, along with all that the records have from it. -/
theorem Descends.stems {actions : List Action}
    (hseeds : ∀ s ∈ ({} : Session).scenes actions, s.SeedsIssued) {origin : Scene} {offer : Offer}
    {r : Record Handle} (h : Descends (({} : Session).scenes actions) origin offer r) :
    Stems origin offer r := by
  induction h with
  | enters _ htakes hpool hget => exact Scene.stems_of_takes htakes hpool hget
  | renewed _ hmem haction hpool hget hpool' hget' ih =>
    -- the card of the pool is not asked: a copy keeps the handle of the record
    obtain ⟨mbps, hcandidate⟩ := Scene.candidate_of_renews (indexed_of_mem_scenes hseeds hmem)
      haction hpool hget hpool' hget'
    exact ih.of_candidate_eq hcandidate
  | @copied s mbps r r' _ _ haction hresult ih =>
    have hcandidate : r'.candidate = r.candidate.withMultiLinkMbps mbps := by
      simp only [Scene.turn, haction, perform, Result.made.injEq] at hresult
      rw [← hresult]
    exact ih.of_candidate_eq hcandidate

/-! ## What is seen -/

/-- What a record sees of the history after these actions, if it goes back to that scene. -/
structure Sees (actions : List Action) (origin : Scene) (r : Record Handle) : Prop where
  /-- The statistics of an event are what is kept of all reports so far of this event, about the
  access point of the record and on its frequency. -/
  statistics?_eq : ∀ event, let source : SignalSource := ⟨event, r.candidate.frequency⟩
    r.candidate.statistics? event (({} : Session).run actions).shared.history =
      source.statistics? (Report.stream r.key.accessPoint source (reports actions))
  /-- There are none just as long as there is no such report. -/
  statistics?_eq_none_iff : ∀ event,
    r.candidate.statistics? event (({} : Session).run actions).shared.history = none ↔
      ∀ report ∈ reports actions, report.ap = r.key.accessPoint →
        report.source ≠ ⟨event, r.candidate.frequency⟩
  /-- Otherwise they are about this event on this frequency, and sum the samples of these reports. -/
  sums : ∀ event stats,
    r.candidate.statistics? event (({} : Session).run actions).shared.history = some stats →
      stats.event = event ∧ stats.frequency = r.candidate.frequency ∧
        stats.Sums
          (Report.stream r.key.accessPoint ⟨event, r.candidate.frequency⟩ (reports actions))
  /-- The estimate that the record has is the one that was right at the scene of its origin. -/
  availability_eq : r.candidate.availability =
    (origin.session.shared.history.known r.key.accessPoint).availability

theorem Stems.sees {origin : Scene} {offer : Offer} {r : Record Handle}
    (h : Stems origin offer r) (actions : List Action) : Sees actions origin r := by
  have hhandle : r.candidate.handle = some (.tracked r.key.accessPoint) := by
    rw [h.key_eq]
    exact h.handle_eq
  have hstatistics := (holds_run actions).statistics?_of_handle hhandle
  refine ⟨hstatistics, ?_, ?_, ?_⟩
  · intro event
    rw [hstatistics event]
    exact SignalSource.statistics?_stream_eq_none_iff
  · intro event stats hstats
    rw [hstatistics event] at hstats
    obtain ⟨hsource, hsums⟩ := SignalSource.sums_of_statistics? hstats
    exact ⟨congrArg SignalSource.event hsource, congrArg SignalSource.frequency hsource, hsums⟩
  · rw [h.key_eq]
    exact h.availability_eq

/-- **Records see what has been reported so far.**  Whatever pools there are and however their work
is interleaved with reports and with all else that is done to the history, every record that goes
back to an offer that a pool over the history took sees all reports about its access point on its
frequency, also those that came after it was made, and no others. -/
theorem sees_of_descends (actions : List Action)
    (hseeds : ∀ s ∈ ({} : Session).scenes actions, s.SeedsIssued) (origin : Scene) (offer : Offer)
    (r : Record Handle) (h : Descends (({} : Session).scenes actions) origin offer r) :
    Sees actions origin r :=
  (h.stems hseeds).sees actions

/-- A link that was taken in after one report about its access point; it is then handed to a pool
without history, where the links are renewed, and taken away from the pool that made it.  Two more
reports come after that, and one from another frequency. -/
theorem sees_of_descends_handed_on :
    let ap : AccessPoint := ⟨⟨"home"⟩, Scenario.radio 7⟩
    let key : Key := .ofIdentity ⟨⟨"home"⟩, .psk⟩ (Scenario.radio 7) ⟨3⟩
    let seen : Observation :=
      { Observation.ofScan (Scenario.scan ⟨"home"⟩ 7 (-50)) .saved with
        mld := some (Scenario.accessPoint 1), mbps := 300 }
    let offer : Offer := ⟨key, Scenario.config ⟨3⟩ ⟨"home"⟩, seen⟩
    let report (frequency : UInt32) (times : Nat) : Action :=
      .observe ap ⟨.validated, frequency⟩ ⟨-50, 433, 1200⟩ times
    let earlier : List Action := [.openPool .history .lenient [], report 5180 1]
    let origin : Scene :=
      ⟨({} : Session).run earlier, .command 0 (.add offer.key offer.config offer.seen)⟩
    let made := (Pool.ofRecords History.card .lenient []).entrantOf offer origin.session.shared
    let handed : Action := .openPool .blank .lenient [made]
    let renewed : Action := .command 1 (.updateMultiLink MultiLink.jointThroughput)
    let later : List Action := [.command 0 (.remove made), report 5180 2, report 2437 1]
    let actions := (earlier ++ [origin.action]) ++ handed :: renewed :: later
    (∀ s ∈ ({} : Session).scenes actions, s.SeedsIssued) ∧
      ∃ r, Descends (({} : Session).scenes actions) origin offer r ∧ r.serial ≠ made.serial ∧
        Sees actions origin r ∧
        (r.candidate.statistics? .validated (({} : Session).run actions).shared.history).map
          (·.rssi.count) = some 3 := by
  intro ap key seen offer report earlier origin made handed renewed later actions
  let first : Session := ({} : Session).run (earlier ++ [origin.action])
  let second : Session := (first.perform handed).session
  let t : Scene := ⟨second, renewed⟩
  have hscenes : ({} : Session).scenes actions =
      ({} : Session).scenes (earlier ++ [origin.action]) ++
        ⟨first, handed⟩ :: t :: t.turn.session.scenes later :=
    scenes_append {} (earlier ++ [origin.action]) (handed :: renewed :: later)
  have hseeds : ∀ s ∈ ({} : Session).scenes actions, s.SeedsIssued := by
    rw [hscenes, List.forall_mem_append, List.forall_mem_cons]
    have hothers : ∀ s ∈ second.scenes (renewed :: later), s.SeedsIssued :=
      seedsIssued_of_forall_nil (by simp [renewed, later, report])
    refine ⟨seedsIssued_of_forall_nil ?_, ?_, hothers⟩
    · simp [earlier, origin, report]
    · intro kind config seeds haction
      obtain ⟨-, -, rfl⟩ := Action.openPool.inj haction
      refine Pool.issued_of_nodup ?_ (List.nodup_singleton _)
      intro r hr
      rw [List.mem_singleton.mp hr]
      exact Nat.zero_lt_one
  let pool : Pool History Handle := .ofRecords History.card .lenient []
  let m := origin.moment pool (.add offer.key offer.config offer.seen)
  have htaken : m.taken? = some offer := rfl
  have htakes : origin.Takes 0 offer := ⟨_, pool, rfl, rfl, rfl, htaken⟩
  have hmade : Descends (({} : Session).scenes actions) origin offer made := by
    refine .enters ?_ htakes rfl (m.get?_of_taken? htaken)
    rw [hscenes, scenes_concat]
    simp [origin]
  let blank := Pool.ofRecords CardKind.blank.card .lenient [made]
  have hrenewed : t.turn.session.pools[1]? = some
      (t.moment blank (.updateMultiLink MultiLink.jointThroughput)).outcome.pool := rfl
  have hserial : ((t.moment blank (.updateMultiLink MultiLink.jointThroughput)).outcome.pool.get?
      key).map (·.serial) = some 1 := by decide
  obtain ⟨r, hget, hserial⟩ := Option.map_eq_some_iff.mp hserial
  have hr : Descends (({} : Session).scenes actions) origin offer r := by
    refine hmade.renewed (s := t) ?_ rfl rfl ?_ hrenewed hget
    · rw [hscenes]
      simp
    · exact Pool.get?_supplant_self made (Pool.empty _ _)
  have hsees := sees_of_descends actions hseeds origin offer r hr
  refine ⟨hseeds, r, hr, ?_, hsees, ?_⟩
  · rw [hserial]
    decide
  · have hstems := hr.stems hseeds
    rw [hsees.statistics?_eq, hstems.key_eq, hstems.frequency_eq]
    rfl

end Session

end NetworkSelection
