import NetworkSelection.Proofs.Percentage
import NetworkSelection.Proofs.Reports
import NetworkSelection.Scenario
import Mathlib.Algebra.BigOperators.Group.Finset.Basic
import Mathlib.Algebra.GroupWithZero.Nat

/-!
# The estimate of internet availability

The history keeps its counts by source, that is by event and frequency, and to estimate the
availability of an access point it adds up the counts of two of the events.  In terms of the
reports this is simple: each report of an event at the access point is counted once, in
whatever order the reports came, on whatever frequency they were made and whatever was sampled;
and nothing else is counted.  The estimate is the percentage of successes in trials, where there
is one success and there are two trials to begin with, and each validation is one more success
and each completed IP configuration one more trial.

A candidate has the estimate that was right when its offer was taken.  It keeps it for as long
as its place is neither taken by another one nor given up, whatever is reported meanwhile.

* `Report.times`, `Report.Estimate`: the counts and the estimate, told from the reports.
* `History.Holds.observed_eq`: the history counts each report once.
* `Moment.stays`: a record that is neither replaced nor taken away stays as it is, save for the
  joint throughput.
* `Session.estimate_of_counts`: the estimate in any interleaving, and the one that a candidate
  has.
-/

namespace NetworkSelection

/-! ## Counting reports -/

/-- How often an event was reported at an access point, on whatever frequency. -/
def Report.times (ap : AccessPoint) (event : ConnectionEvent) (reports : List Report) : Nat :=
  reports.countP fun r => r.ap = ap ∧ r.source.event = event

/-- The estimate for an access point after these reports: the percentage of one and as many
successes as there were validations, in two and as many trials as there were completed IP
configurations. -/
def Report.Estimate (ap : AccessPoint) (reports : List Report) (percentage : UInt8) : Prop :=
  ∃ successes trials : UInt64, successes.toNat = 1 + times ap .validated reports ∧
    trials.toNat = 2 + times ap .ipConfigured reports ∧
    percentage = BssidHistory.percent successes trials

/-- The reports determine the estimate. -/
theorem Report.Estimate.eq_percent {ap : AccessPoint} {reports : List Report} {percentage : UInt8}
    (h : Estimate ap reports percentage) {successes trials : UInt64}
    (hsuccesses : successes.toNat = 1 + times ap .validated reports)
    (htrials : trials.toNat = 2 + times ap .ipConfigured reports) :
    percentage = BssidHistory.percent successes trials := by
  obtain ⟨successes', trials', hsuccesses', htrials', rfl⟩ := h
  obtain rfl : successes' = successes := UInt64.toNat_inj.mp (hsuccesses'.trans hsuccesses.symm)
  obtain rfl : trials' = trials := UInt64.toNat_inj.mp (htrials'.trans htrials.symm)
  rfl

/-- To count all items is to count them one kind at a time. -/
theorem sum_map_count_eq_length {α : Type} [DecidableEq α] {kinds items : List α}
    (hkinds : kinds.Nodup) (hmem : ∀ x ∈ items, x ∈ kinds) :
    (kinds.map fun k => items.count k).sum = items.length := by
  have hsum := Multiset.sum_count_eq_card (s := kinds.toFinset) (m := (items : Multiset α))
    (by simpa using hmem)
  rw [List.sum_toFinset _ hkinds] at hsum
  simpa using hsum

/-- To add up words is to add up the numbers they stand for. -/
theorem foldl_add_ofNat {α : Type} {p : α → Prop} [DecidablePred p] {word : α → UInt64}
    {number : α → Nat} (l : List α) (h : ∀ x ∈ l, p x → word x = .ofNat (number x)) (start : Nat) :
    l.foldl (fun n x => if p x then n + word x else n) (.ofNat start) =
      .ofNat (start + (l.map fun x => if p x then number x else 0).sum) := by
  induction l generalizing start with
  | nil => rfl
  | cons x rest ih =>
    obtain ⟨hx, hrest⟩ := List.forall_mem_cons.mp h
    rw [List.foldl_cons, List.map_cons, List.sum_cons, ← Nat.add_assoc, ← ih hrest]
    split
    · next hp => rw [hx hp, UInt64.ofNat_add]
    · rfl

/-- The sources of the reports of an event at an access point. -/
def Report.sources (ap : AccessPoint) (event : ConnectionEvent) (reports : List Report) :
    List SignalSource :=
  (reports.filter fun r => r.ap = ap ∧ r.source.event = event).map Report.source

/-- Among these a source occurs as often as there are reports in its stream. -/
theorem Report.count_sources (ap : AccessPoint) (event : ConnectionEvent) (reports : List Report)
    (source : SignalSource) :
    (sources ap event reports).count source =
      if source.event = event then (stream ap source reports).length else 0 := by
  unfold sources stream
  rw [List.count_eq_countP, List.countP_map, List.countP_filter, List.length_map,
    ← List.countP_eq_length_filter]
  split
  · next h =>
    refine List.countP_congr fun r _ => ?_
    simp only [Function.comp_apply, beq_iff_eq, Bool.and_eq_true, decide_eq_true_eq]
    constructor
    · rintro ⟨rfl, hap, -⟩
      exact ⟨hap, rfl⟩
    · rintro ⟨hap, rfl⟩
      exact ⟨rfl, hap, h⟩
  · next h =>
    refine List.countP_eq_zero.mpr fun r _ => ?_
    simp only [Function.comp_apply, beq_iff_eq, Bool.and_eq_true, decide_eq_true_eq]
    rintro ⟨rfl, -, he⟩
    exact h he

namespace History

variable {history : History} {reports : List Report}

/-- **The history counts each report once.** -/
theorem Holds.observed_eq (h : history.Holds reports) (ap : AccessPoint)
    (event : ConnectionEvent) :
    (history.known ap).observed event = .ofNat (Report.times ap event reports) := by
  let signals := (history.known ap).signals
  let items := Report.sources ap event reports
  have hwords : ∀ entry ∈ signals.toList, entry.1.event = event →
      entry.2.elapsed.count = .ofNat (Report.stream ap entry.1 reports).length := by
    intro entry hmem _
    have hsome := Std.ExtTreeMap.mem_toList_iff_getElem?_eq_some.mp hmem
    exact (SignalSource.sums_of_statistics? ((h ap entry.1).symm.trans hsome)).2.elapsed_count
  have hmem : ∀ source ∈ items, source ∈ signals.keys := by
    intro source hsource
    obtain ⟨r, hr, rfl⟩ := List.mem_map.mp hsource
    obtain ⟨hin, hr⟩ := List.mem_filter.mp hr
    exact h.mem_keys_iff.mpr ⟨r, hin, (of_decide_eq_true hr).1, rfl⟩
  calc (history.known ap).observed event
    _ = .ofNat (0 + (signals.toList.map fun entry =>
          if entry.1.event = event then (Report.stream ap entry.1 reports).length else 0).sum) :=
        foldl_add_ofNat signals.toList hwords 0
    _ = .ofNat (signals.keys.map fun source => items.count source).sum := by
        rw [Nat.zero_add, ← Std.ExtTreeMap.map_fst_toList_eq_keys, List.map_map]
        simp only [items, Report.count_sources]
        rfl
    _ = .ofNat items.length := by
        rw [sum_map_count_eq_length Std.ExtTreeMap.nodup_keys hmem]
    _ = .ofNat (Report.times ap event reports) := by
        rw [Report.times, List.countP_eq_length_filter]
        exact congrArg UInt64.ofNat (List.length_map ..)

/-- **The estimate is told from the reports.** -/
theorem Holds.estimate (h : history.Holds reports) (hlength : reports.length < 2 ^ 63)
    (ap : AccessPoint) : Report.Estimate ap reports (history.known ap).availability := by
  have hle : ∀ event, Report.times ap event reports ≤ reports.length :=
    fun event => List.countP_le_length
  have hprior : ∀ prior event, prior ≤ 2 →
      (.ofNat prior + (history.known ap).observed event : UInt64).toNat =
        prior + Report.times ap event reports := by
    intro prior event hprior
    have hevent := hle event
    rw [h.observed_eq, ← UInt64.ofNat_add, UInt64.toNat_ofNat_of_lt']
    show _ < 2 ^ 64
    omega
  exact ⟨_, _, hprior 1 .validated (by decide), hprior 2 .ipConfigured (by decide), rfl⟩

end History

/-! ## What a candidate has -/

/-- What a pool over the history makes of an offer has the estimate for its access point. -/
theorem Pool.availability_entrantOf {pool : Pool History Handle} (hcard : pool.card = History.card)
    (offer : Offer) (shared : Shared History) :
    (pool.entrantOf offer shared).candidate.availability =
      (shared.history.known offer.key.accessPoint).availability := by
  have hhandle : (pool.attach offer.key offer.config shared.history).handle =
      some (.tracked offer.key.accessPoint) := by
    rw [handle_attach, hcard]
    rfl
  have hkind : pool.card = CardKind.history.card := hcard
  have hattached : BssidHandle.availability (Handle.tracked offer.key.accessPoint)
      (pool.attach offer.key offer.config shared.history).history =
        (shared.history.known offer.key.accessPoint).availability :=
    ((sameSignals_attach hkind _ _ _).availability_eq _).symm
  have hle : (shared.history.known offer.key.accessPoint).availability ≤ fullAvailability :=
    BssidHistory.percent_le _ _
  show pool.availability (pool.attach offer.key offer.config shared.history).handle _ = _
  rw [hhandle, availability, hattached]
  exact if_pos hle

section stays

variable {σ η : Type} [BssidHandle η σ]

/-- A record that is neither replaced nor taken away stays as it is, save for the joint
throughput. -/
theorem Moment.stays {m : Moment σ η} (hindexed : m.pool.Indexed m.shared.nextSerial) {key : Key}
    {r : Record η} (hget : m.pool.get? key = some r) (hentered : m.entered? ≠ some key)
    (hleft : m.left? ≠ some key) :
    ∃ r', m.outcome.pool.get? key = some r' ∧
      r'.candidate = { r.candidate with multiLinkMbps := r'.candidate.multiLinkMbps } := by
  have hsame : m.outcome.pool.get? key = some r → ∃ r', m.outcome.pool.get? key = some r' ∧
      r'.candidate = { r.candidate with multiLinkMbps := r'.candidate.multiLinkMbps } :=
    fun h => ⟨r, h, rfl⟩
  cases m.effect with
  | idle _ _ _ hkey _ _ => exact hsame (by rw [Pool.get?, hkey]; exact hget)
  | rejects _ _ _ _ _ _ _ hpool _ => exact hsame (by rw [hpool]; exact hget)
  | enters offer hoffer hadmitted _ _ hpool _ _ =>
    have hne : offer.key ≠ key := by
      rintro rfl
      exact hentered (entered?_of_admitted hoffer hadmitted)
    refine hsame ?_
    rw [hpool, hindexed.get?_supplant, Pool.key_entrantOf, if_neg hne]
    exact hget
  | leaves r' held hcommand _ hremoved hheld _ hpool _ =>
    have hne : r'.key ≠ key := by
      rintro rfl
      exact hleft (left?_of_removed hcommand hremoved)
    refine hsame ?_
    rw [hpool, Pool.get?_drop, hindexed.key_eq hheld, if_neg hne]
    exact hget
  | renews estimate _ _ _ hpool _ =>
    rw [hpool, hindexed.get?_updateMultiLink, hget]
    exact ⟨_, rfl, Pool.candidate_renewal_eq estimate _ m.pool r⟩

end stays

/-! ## Any interleaving -/

namespace Session

/-- At this scene somebody comes to this place in the pool of this number, or goes from it. -/
def Scene.Moves (s : Scene) (index : Nat) (key : Key) : Prop :=
  ∃ command pool, s.action = .command index command ∧ s.session.pools[index]? = some pool ∧
    ((s.moment pool command).entered? = some key ∨ (s.moment pool command).left? = some key)

/-- The record in this place in the pool of this number has this candidate, save for the joint
throughput. -/
def Keeps (session : Session) (index : Nat) (key : Key) (candidate : Candidate Handle) : Prop :=
  ∃ pool r, session.pools[index]? = some pool ∧ pool.get? key = some r ∧
    r.candidate = { candidate with multiLinkMbps := r.candidate.multiLinkMbps }

namespace Scene

variable {s : Scene} {index : Nat} {key : Key} {candidate : Candidate Handle}

/-- What a command does in one pool leaves the records of the others alone, and in this pool
those that are neither replaced nor taken away. -/
theorem keeps_of_command {number : Nat} {command : Command Handle} {pool : Pool History Handle}
    (haction : s.action = .command number command)
    (hpool : s.session.pools[number]? = some pool) (hindexed : s.session.Indexed)
    (h : s.session.Keeps index key candidate) (hmoves : ¬ s.Moves index key) :
    s.turn.session.Keeps index key candidate := by
  obtain ⟨holder, r, hholder, hget, hcandidate⟩ := h
  let m := s.moment pool command
  by_cases hnumber : number = index
  · subst hnumber
    obtain rfl : pool = holder := Option.some.inj (hpool.symm.trans hholder)
    have hentered : m.entered? ≠ some key := fun he =>
      hmoves ⟨command, pool, haction, hpool, .inl he⟩
    have hleft : m.left? ≠ some key := fun he =>
      hmoves ⟨command, pool, haction, hpool, .inr he⟩
    obtain ⟨r', hget', hcandidate'⟩ :=
      m.stays (hindexed pool (List.mem_of_getElem? hpool)) hget hentered hleft
    refine ⟨m.outcome.pool, r', getElem?_pools_of_command haction hpool, hget', ?_⟩
    rw [hcandidate', hcandidate]
  · refine ⟨holder, r, ?_, hget, hcandidate⟩
    rw [pools_of_command haction hpool, List.getElem?_set_ne hnumber]
    exact hholder

/-- **A record stays where it is** until somebody comes to its place or it is taken away. -/
theorem keeps (hindexed : s.session.Indexed) (h : s.session.Keeps index key candidate)
    (hmoves : ¬ s.Moves index key) : s.turn.session.Keeps index key candidate := by
  cases haction : s.action with
  | openPool kind config seeds =>
    obtain ⟨holder, r, hholder, hget, hcandidate⟩ := h
    have hlt : index < s.session.pools.length := (List.getElem?_eq_some_iff.mp hholder).1
    refine ⟨holder, r, ?_, hget, hcandidate⟩
    simp only [turn, haction, perform]
    rw [List.getElem?_append_left hlt]
    exact hholder
  | command number command =>
    cases hpool : s.session.pools[number]? with
    | some pool => exact keeps_of_command haction hpool hindexed h hmoves
    | none =>
      simp only [turn, haction, perform, hpool]
      exact h
  | observe ap source sample times => simp only [turn, haction, perform]; exact h
  | touch ap => simp only [turn, haction, perform]; exact h
  | annotate ap security id => simp only [turn, haction, perform]; exact h
  | make candidate => simp only [turn, haction, perform]; exact h

/-- An offer that a pool over the history takes comes to its place with the estimate for its
access point. -/
theorem keeps_of_takes {offer : Offer} (h : s.Takes index offer) :
    ∃ candidate, s.turn.session.Keeps index offer.key candidate ∧ candidate.availability =
      (s.session.shared.history.known offer.key.accessPoint).availability := by
  obtain ⟨command, pool, haction, hpool, hcard, htaken⟩ := h
  let m := s.moment pool command
  have hoffer : m.taken? = some offer := (taken?_of_command haction hpool).symm.trans htaken
  exact ⟨(m.pool.entrantOf offer m.shared).candidate,
    ⟨m.outcome.pool, _, getElem?_pools_of_command haction hpool, m.get?_of_taken? hoffer, rfl⟩,
    Pool.availability_entrantOf hcard offer m.shared⟩

end Scene

/-- A candidate whose offer was taken at one of these scenes keeps the estimate of that scene,
so long as nobody comes to its place or it is taken away. -/
theorem keeps_of_scenes {actions : List Action}
    (hseeds : ∀ s ∈ ({} : Session).scenes actions, s.SeedsIssued)
    {before later : List Scene} {s : Scene} {index : Nat} {offer : Offer}
    (hsplit : ({} : Session).scenes actions = before ++ s :: later) (htakes : s.Takes index offer)
    (hlater : ∀ t ∈ later, ¬ t.Moves index offer.key) :
    ∃ candidate, (({} : Session).run actions).Keeps index offer.key candidate ∧
      candidate.availability =
        (s.session.shared.history.known offer.key.accessPoint).availability := by
  induction actions using List.reverseRecOn generalizing later with
  | nil => exact absurd hsplit (by simp [scenes])
  | append_singleton actions action ih =>
    rw [scenes_concat] at hseeds hsplit
    obtain ⟨hseeds, -⟩ := List.forall_mem_append.mp hseeds
    rw [run_concat]
    rcases split_concat hsplit with ⟨-, rfl, -⟩ | ⟨later, rfl, hearlier⟩
    · exact Scene.keeps_of_takes htakes
    · rw [List.forall_mem_append, List.forall_mem_singleton] at hlater
      obtain ⟨candidate, hkeeps, havailability⟩ := ih hseeds hearlier hlater.1
      exact ⟨candidate, Scene.keeps (indexed_run hseeds) hkeeps hlater.2, havailability⟩

/-- **The estimate is a count of reports.**  Whatever pools there are and however their work is
interleaved with reports and with all else that is done to the history, the estimate for an access
point is told from the reports about it so far; and a candidate has the estimate that was right
when a pool over the history took its offer, for as long as it stays in its place. -/
theorem estimate_of_counts (actions : List Action)
    (hseeds : ∀ s ∈ ({} : Session).scenes actions, s.SeedsIssued)
    (hlength : (reports actions).length < 2 ^ 63) :
    (∀ ap, Report.Estimate ap (reports actions)
      (BssidHandle.availability (Handle.tracked ap) (({} : Session).run actions).shared.history)) ∧
    ∀ before s later index offer, ({} : Session).scenes actions = before ++ s :: later →
      s.Takes index offer → (∀ t ∈ later, ¬ t.Moves index offer.key) →
      ∃ pool r, (({} : Session).run actions).pools[index]? = some pool ∧
        pool.get? offer.key = some r ∧
        Report.Estimate offer.key.accessPoint (reports (before.map Scene.action))
          r.candidate.availability := by
  refine ⟨fun ap => (holds_run actions).estimate hlength ap, ?_⟩
  intro before s later index offer hsplit htakes hlater
  obtain ⟨candidate, ⟨pool, r, hpool, hget, hcandidate⟩, havailability⟩ :=
    keeps_of_scenes hseeds hsplit htakes hlater
  have hactions : actions = before.map Scene.action ++ s.action :: later.map Scene.action := by
    rw [← map_action_scenes {} actions, hsplit, List.map_append, List.map_cons]
  have hsession : s.session = ({} : Session).run (before.map Scene.action) :=
    session_of_scenes hsplit
  have hshorter : (reports (before.map Scene.action)).length < 2 ^ 63 := by
    refine Nat.lt_of_le_of_lt ?_ hlength
    rw [hactions, reports, reports, List.flatMap_append, List.length_append]
    exact Nat.le_add_right _ _
  refine ⟨pool, r, hpool, hget, ?_⟩
  rw [hcandidate]
  show Report.Estimate _ _ candidate.availability
  rw [havailability, hsession]
  exact (holds_run _).estimate hshorter offer.key.accessPoint

/-- An access point at which a connection was configured twice and validated twice when an offer
for it was taken, on two frequencies, and validated three more times since.  The candidate shows
three successes in four trials, seventy-five percent, if rounding leaves this number alone; the
history by now shows six in four. -/
theorem estimate_of_counts_two_frequencies :
    let ap : AccessPoint := ⟨⟨"home"⟩, Scenario.radio 7⟩
    let key : Key := .ofIdentity ⟨⟨"home"⟩, .psk⟩ (Scenario.radio 7) ⟨3⟩
    let report (event : ConnectionEvent) (frequency : UInt32) (times : Nat) : Action :=
      .observe ap ⟨event, frequency⟩ ⟨-50, 433, 1200⟩ times
    let earlier : List Action :=
      [.openPool .history .lenient [], report .ipConfigured 5180 1, report .validated 2437 2,
        report .ipConfigured 2437 1]
    let offered : Action := .command 0
      (.addScan (Scenario.scan ⟨"home"⟩ 7 (-50)) (some (Scenario.config ⟨3⟩ ⟨"home"⟩)) {})
    let actions := earlier ++ [offered, report .validated 5180 3]
    (∀ s ∈ ({} : Session).scenes actions, s.SeedsIssued) ∧ (reports actions).length < 2 ^ 63 ∧
      (Report.Estimate ap (reports actions)
          (BssidHandle.availability (Handle.tracked ap)
            (({} : Session).run actions).shared.history) ∧
        BssidHandle.availability (Handle.tracked ap)
          (({} : Session).run actions).shared.history = BssidHistory.percent 6 4) ∧
      ∃ (pool : Pool History Handle) (r : Record Handle),
        (({} : Session).run actions).pools[0]? = some pool ∧ pool.get? key = some r ∧
        Report.Estimate ap (reports earlier) r.candidate.availability ∧
        r.candidate.availability = BssidHistory.percent 3 4 ∧
        ((75 : Float).round = 75 → r.candidate.availability = 75) := by
  intro ap key report earlier offered actions
  have hseeds : ∀ s ∈ ({} : Session).scenes actions, s.SeedsIssued :=
    seedsIssued_of_forall_nil (by simp [actions, earlier, offered, report])
  have hlength : (reports actions).length < 2 ^ 63 := by decide
  obtain ⟨hestimate, hkept⟩ := estimate_of_counts actions hseeds hlength
  have hnow : BssidHandle.availability (Handle.tracked ap)
      (({} : Session).run actions).shared.history = BssidHistory.percent 6 4 :=
    (hestimate ap).eq_percent (by decide) (by decide)
  refine ⟨hseeds, hlength, ⟨hestimate ap, hnow⟩, ?_⟩
  let s : Scene := ⟨({} : Session).run earlier, offered⟩
  let t : Scene := ⟨({} : Session).run (earlier ++ [offered]), report .validated 5180 3⟩
  have htaken : s.taken?.map (·.key) = some key := by decide
  obtain ⟨offer, htaken, hkey⟩ := Option.map_eq_some_iff.mp htaken
  have htakes : s.Takes 0 offer := ⟨_, _, rfl, rfl, rfl, htaken⟩
  have hquiet : ¬ t.Moves 0 offer.key := by
    rintro ⟨command, pool, haction, -⟩
    exact absurd haction (by simp [t, report])
  obtain ⟨pool, r, hpool, hget, hr⟩ :=
    hkept (({} : Session).scenes earlier) s [t] 0 offer rfl htakes
      (List.forall_mem_singleton.mpr hquiet)
  rw [hkey] at hget hr
  have hfrozen : r.candidate.availability = BssidHistory.percent 3 4 :=
    hr.eq_percent (by decide) (by decide)
  refine ⟨pool, r, hpool, hget, hr, hfrozen, fun hround => ?_⟩
  have hshare : UInt64.toFloat 3 * 100 / UInt64.toFloat 4 = 75 := by decide +kernel
  rw [hfrozen, BssidHistory.percent, hshare, hround]
  decide +kernel

end Session

end NetworkSelection
