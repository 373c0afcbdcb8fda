import NetworkSelection.Proofs.Reports
import NetworkSelection.Scenario

/-!
# What a snapshot shows

A snapshot writes out all that the history knows, by access point and then by source.  It
shows every access point that the history was ever asked for, once: by name, by an offer that
a pool over the history took, or by a report.  And for each of them it shows every stream that
there were reports in, once, with the sums over the samples of this stream in the order in
which they were reported.  No report is lost, counted twice or added to another stream.

Since nothing of the order among different streams is left in this, reports of different
streams commute: whoever reports first, the snapshot is the same.

* `Session.Scene.AsksFor`: how the history is asked for an access point.
* `Session.begun_iff`: whose history has begun.
* `SignalStats.Sums`, `BssidSnapshot.Records`, `History.Surveyed`: what is shown of a stream, of
  an access point, and altogether.
* `History.snapshot_of_streams`: the order among streams does not matter, and every snapshot
  shows the streams of its session.
-/

namespace NetworkSelection

/-! ## Who is shown -/

/-- A card that is the card of the history was meant to be. -/
theorem CardKind.eq_history_of_card {kind : CardKind} (h : kind.card = History.card)
    (ap : AccessPoint) : kind = .history := by
  have hhandle : (kind.card.lookup ap {}).handle = some (.tracked ap) := by rw [h]; rfl
  cases kind with
  | blank => exact absurd hhandle (by simp [card, ScoreCard.blank])
  | fixed availability => exact absurd hhandle (by simp [card, ScoreCard.constant])
  | history => rfl

namespace Session

/-- The access point that an action asks the history for by name. -/
def Action.asked? : Action → Option AccessPoint
  | .touch ap => some ap
  | .annotate ap _ _ => some ap
  | _ => none

namespace Scene

/-- A pool over the history takes an offer for an access point. -/
def Attaches (s : Scene) (ap : AccessPoint) : Prop :=
  ∃ index offer, s.Takes index offer ∧ offer.key.accessPoint = ap

/-- The history is asked for an access point: by name, by a report or by an offer. -/
def AsksFor (s : Scene) (ap : AccessPoint) : Prop :=
  s.action.asked? = some ap ∨ s.observed? = some ap ∨ s.Attaches ap

/-- A scene begins a history if it asks for the access point. -/
def Begins (s : Scene) (ap : AccessPoint) : Prop :=
  s.turn.session.shared.history.get? ap ≠ none ↔
    s.session.shared.history.get? ap ≠ none ∨ s.AsksFor ap

theorem Begins.of_get? {s : Scene} {ap : AccessPoint} {asks : Prop} [Decidable asks]
    {known : BssidHistory} (hasks : s.AsksFor ap ↔ asks)
    (hget : s.turn.session.shared.history.get? ap =
      if asks then some known else s.session.shared.history.get? ap) : s.Begins ap := by
  rw [Begins, hasks, hget]
  by_cases h : asks <;> simp [h]

/-- A scene that asks for nothing and leaves the history as it was. -/
theorem Begins.of_quiet {s : Scene} {ap : AccessPoint} (hasks : ¬ s.AsksFor ap)
    (hhistory : s.turn.session.shared.history = s.session.shared.history) : s.Begins ap := by
  simp [Begins, hhistory, hasks]

/-- A command asks for the access point of the offer that is taken, if the pool is one over
the history. -/
theorem asksFor_iff_of_command {s : Scene} {index : Nat} {command : Command Handle}
    {pool : Pool History Handle} (haction : s.action = .command index command)
    (hpool : s.session.pools[index]? = some pool) {kind : CardKind} (hcard : pool.card = kind.card)
    (ap : AccessPoint) :
    s.AsksFor ap ↔
      kind = .history ∧ ∃ offer, s.taken? = some offer ∧ ap = offer.key.accessPoint := by
  have hattaches : s.AsksFor ap ↔ s.Attaches ap := by
    simp [AsksFor, Action.asked?, observed?, haction]
  rw [hattaches]
  constructor
  · rintro ⟨index', offer, ⟨command', pool', h, hpool', hcard', htaken⟩, hap⟩
    obtain ⟨rfl, rfl⟩ := Action.command.inj (haction.symm.trans h)
    obtain rfl : pool = pool' := Option.some.inj (hpool.symm.trans hpool')
    exact ⟨CardKind.eq_history_of_card (hcard.symm.trans hcard') ap, offer, htaken, hap.symm⟩
  · rintro ⟨rfl, offer, htaken, hap⟩
    exact ⟨index, offer, ⟨command, pool, haction, hpool, hcard, htaken⟩, hap.symm⟩

theorem begins_of_command {s : Scene} {index : Nat} {command : Command Handle}
    {pool : Pool History Handle} (haction : s.action = .command index command)
    (hpool : s.session.pools[index]? = some pool) {kind : CardKind} (hcard : pool.card = kind.card)
    (ap : AccessPoint) : s.Begins ap := by
  have hasks := asksFor_iff_of_command haction hpool hcard ap
  have hhistory := history_of_command haction hpool
  cases htaken : s.taken? with
  | none =>
    rw [htaken] at hhistory hasks
    exact .of_quiet (by simp [hasks]) hhistory
  | some offer =>
    rw [htaken] at hhistory hasks
    by_cases hkind : kind = .history
    · subst hkind
      have hasks : s.AsksFor ap ↔ ap = offer.key.accessPoint := hasks.trans (by simp)
      refine .of_get? hasks (Eq.trans ?_ (Pool.get?_attach hcard offer.key offer.config _ ap))
      rw [hhistory]
    · refine .of_quiet (fun h => hkind (hasks.mp h).1) ?_
      rw [hhistory]
      exact Pool.history_attach hcard hkind offer.key offer.config s.session.shared.history

/-- **Whose history one action begins.** -/
theorem begins (s : Scene) (hcarded : s.session.Carded) (ap : AccessPoint) : s.Begins ap := by
  cases h : s.action with
  | command index command =>
    cases hpool : s.session.pools[index]? with
    | some pool =>
      obtain ⟨kind, hcard⟩ := hcarded pool (List.mem_of_getElem? hpool)
      exact begins_of_command h hpool hcard ap
    | none =>
      refine .of_quiet ?_ ?_ <;>
        simp [AsksFor, Attaches, Takes, Action.asked?, observed?, taken?, turn, perform, h, hpool]
  | observe place source sample times =>
    have hasks : s.AsksFor ap ↔ ap = place ∧ times ≠ 0 := by
      rw [← observed?_of_observe h ap]
      simp [AsksFor, Attaches, Takes, Action.asked?, h]
    exact .of_get? hasks (get?_of_observe h ap)
  | touch place =>
    have hasks : s.AsksFor ap ↔ ap = place := by
      simp [AsksFor, Attaches, Takes, Action.asked?, observed?, h, eq_comm]
    refine .of_get? hasks (Eq.trans ?_ (History.get?_touch place ap s.session.shared.history))
    simp only [turn, h, perform]
    rfl
  | annotate place security id =>
    have hasks : s.AsksFor ap ↔ ap = place := by
      simp [AsksFor, Attaches, Takes, Action.asked?, observed?, h, eq_comm]
    have hget : s.turn.session.shared.history.get? ap =
        if ap = place then
          some { s.session.shared.history.known place with
            security := security.or (s.session.shared.history.known place).security
            id := id.or (s.session.shared.history.known place).id }
        else s.session.shared.history.get? ap := by
      simp only [turn, h, perform, withHistory]
      rw [History.get?_modify, History.known_touch, History.get?_touch]
      split <;> rfl
    exact .of_get? hasks hget
  | openPool kind config seeds =>
    refine .of_quiet ?_ ?_ <;> simp [AsksFor, Attaches, Takes, Action.asked?, observed?, turn, perform, h]
  | make candidate =>
    refine .of_quiet ?_ ?_ <;> simp [AsksFor, Attaches, Takes, Action.asked?, observed?, turn, perform, h]

end Scene

/-- **Whose history has begun**: that of every access point that it was ever asked for. -/
theorem begun_iff (actions : List Action) (ap : AccessPoint) :
    (({} : Session).run actions).shared.history.get? ap ≠ none ↔
      ∃ s ∈ ({} : Session).scenes actions, s.AsksFor ap := by
  induction actions using List.reverseRecOn with
  | nil => simp [run, scenes, History.get?]
  | append_singleton actions action ih =>
    let s : Scene := ⟨({} : Session).run actions, action⟩
    have hbegins : s.Begins ap := s.begins (carded_run actions) ap
    rw [run_concat, scenes_concat]
    refine Iff.trans hbegins ?_
    rw [ih]
    simp only [List.mem_append, List.mem_singleton, or_and_right, exists_or, exists_eq_left, s]

end Session

/-! ## What is shown -/

/-- The access point that an entry is about. -/
def BssidSnapshot.accessPoint (entry : BssidSnapshot) : AccessPoint :=
  ⟨entry.ssid, entry.bssid⟩

/-- An entry shows the streams in these reports that are about its access point. -/
structure BssidSnapshot.Records (entry : BssidSnapshot) (reports : List Report) : Prop where
  /-- By ascending source, and so each source once. -/
  ascending : entry.signals.Pairwise fun s t => compare s.source t.source = .lt
  mem_iff : ∀ source, source ∈ entry.signals.map SignalStats.source ↔
    ∃ r ∈ reports, r.ap = entry.accessPoint ∧ r.source = source
  sums : ∀ stats ∈ entry.signals,
    stats.Sums (Report.stream entry.accessPoint stats.source reports)

/-- What a history with these reports writes out of an access point shows the streams. -/
theorem History.Holds.records {history : History} {reports : List Report}
    (h : history.Holds reports) {ap : AccessPoint} {known : BssidHistory}
    (hget : history.get? ap = some known) : (known.snapshot ap).Records reports := by
  obtain rfl : history.known ap = known := by rw [History.known, hget]; rfl
  let known := history.known ap
  have hentry : ∀ source stats, (source, stats) ∈ known.signals.toList →
      stats.source = source ∧ stats.Sums (Report.stream ap source reports) := by
    intro source stats hmem
    have hsome := Std.ExtTreeMap.mem_toList_iff_getElem?_eq_some.mp hmem
    exact SignalSource.sums_of_statistics? ((h ap source).symm.trans hsome)
  have hsources : known.statistics.map SignalStats.source = known.signals.keys := by
    rw [← Std.ExtTreeMap.map_fst_toList_eq_keys, BssidHistory.statistics, List.map_map]
    exact List.map_congr_left fun entry hmem => (hentry entry.1 entry.2 hmem).1
  refine ⟨?_, fun source => ?_, fun stats hmem => ?_⟩
  · show known.statistics.Pairwise fun s t => compare s.source t.source = .lt
    rw [← List.pairwise_map (R := fun s t => compare s t = .lt), hsources]
    exact Std.ExtTreeMap.ordered_keys
  · show source ∈ known.statistics.map SignalStats.source ↔ _
    rw [hsources]
    exact h.mem_keys_iff
  · obtain ⟨entry, hin, rfl⟩ := List.mem_map.mp hmem
    obtain ⟨hsource, hsums⟩ := hentry entry.1 entry.2 hin
    rw [hsource]
    exact hsums

/-- What a history shows of these scenes and of the reports in them. -/
structure History.Surveyed (history : History) (scenes : List Session.Scene)
    (reports : List Report) : Prop where
  /-- By ascending access point, and so each access point once. -/
  ascending : history.snapshot.Pairwise fun e f => compare e.accessPoint f.accessPoint = .lt
  mem_iff : ∀ ap, ap ∈ history.snapshot.map BssidSnapshot.accessPoint ↔
    ∃ s ∈ scenes, s.AsksFor ap
  records : ∀ entry ∈ history.snapshot, entry.Records reports

/-- Every snapshot shows the streams of its session. -/
theorem Session.surveyed_run (actions : List Session.Action) :
    (({} : Session).run actions).shared.history.Surveyed (({} : Session).scenes actions)
      (Session.reports actions) := by
  let history := (({} : Session).run actions).shared.history
  have haccessPoints : history.snapshot.map BssidSnapshot.accessPoint =
      history.accessPoints.keys := by
    rw [← Std.ExtTreeMap.map_fst_toList_eq_keys, History.snapshot, List.map_map]
    rfl
  refine ⟨?_, fun ap => ?_, fun entry hmem => ?_⟩
  · rw [← List.pairwise_map (R := fun ap ap' => compare ap ap' = .lt), haccessPoints]
    exact Std.ExtTreeMap.ordered_keys
  · rw [haccessPoints, Std.ExtTreeMap.mem_keys, ← Std.ExtTreeMap.isSome_getElem?_iff_mem,
      ← Session.begun_iff, Option.isSome_iff_ne_none]
    rfl
  · obtain ⟨⟨ap, known⟩, hin, rfl⟩ := List.mem_map.mp hmem
    exact (Session.holds_run actions).records
      (Std.ExtTreeMap.mem_toList_iff_getElem?_eq_some.mp hin)

/-! ## Reports alone -/

/-- There is a report about an access point if one of its streams is there. -/
theorem Report.exists_ap_iff {reports : List Report} {ap : AccessPoint} :
    (∃ r ∈ reports, r.ap = ap) ↔ ∃ source, stream ap source reports ≠ [] := by
  simp only [stream_ne_nil_iff]
  constructor
  · rintro ⟨r, hr, rfl⟩
    exact ⟨r.source, r, hr, rfl, rfl⟩
  · rintro ⟨_, r, hr, hap, _⟩
    exact ⟨r, hr, hap⟩

namespace History

theorem after_concat (reports : List Report) (r : Report) (history : History) :
    history.after (reports ++ [r]) = (history.after reports).record r := by
  rw [after, List.foldl_concat]
  rfl

/-- After reports alone there is nothing to know beside the statistics of those access points
that there are reports about. -/
theorem get?_after (reports : List Report) (ap : AccessPoint) :
    (({} : History).after reports).get? ap =
      if ∃ r ∈ reports, r.ap = ap then
        some { signals := ((({} : History).after reports).known ap).signals }
      else none := by
  induction reports using List.reverseRecOn with
  | nil => simp [after, get?]
  | append_singleton reports r ih =>
    rw [after_concat, known_record, record, get?_observe]
    by_cases hap : ap = r.ap
    · subst hap
      have hknown : (({} : History).after reports).known r.ap =
          { signals := ((({} : History).after reports).known r.ap).signals } := by
        by_cases hbegun : ∃ r' ∈ reports, r'.ap = r.ap
        · rw [if_pos hbegun] at ih
          exact congrArg (Option.getD · ({} : BssidHistory)) ih
        · rw [if_neg hbegun] at ih
          have hblank : (({} : History).after reports).known r.ap = {} :=
            congrArg (Option.getD · ({} : BssidHistory)) ih
          rw [hblank]
      rw [if_pos rfl, if_pos rfl, if_pos (by simp)]
      rw [hknown]
      rfl
    · rw [if_neg hap, if_neg hap, ih]
      have hsame : (∃ r' ∈ reports ++ [r], r'.ap = ap) ↔ ∃ r' ∈ reports, r'.ap = ap := by
        simp [or_and_right, exists_or, Ne.symm hap]
      simp only [hsame]

/-- **What is shown depends on the streams alone.** -/
theorem snapshot_of_streams {reports reports' : List Report}
    (h : ∀ ap source, Report.stream ap source reports = Report.stream ap source reports')
    (actions : List Session.Action) :
    (({} : History).after reports).snapshot = (({} : History).after reports').snapshot ∧
      (({} : Session).run actions).shared.history.Surveyed (({} : Session).scenes actions)
        (Session.reports actions) := by
  refine ⟨?_, Session.surveyed_run actions⟩
  have hsignals : (({} : History).after reports).SameSignals (({} : History).after reports') := by
    intro ap
    refine Std.ExtTreeMap.ext_getElem? fun source => ?_
    rw [holds_nil.after reports ap source, holds_nil.after reports' ap source, List.nil_append,
      List.nil_append, h]
  have hmem : ∀ ap, (∃ r ∈ reports, r.ap = ap) ↔ ∃ r ∈ reports', r.ap = ap := by
    intro ap
    rw [Report.exists_ap_iff, Report.exists_ap_iff]
    simp only [h]
  have hget : ∀ ap, (({} : History).after reports).get? ap =
      (({} : History).after reports').get? ap := by
    intro ap
    rw [get?_after, get?_after, hsignals ap]
    simp only [hmem]
  exact congrArg snapshot (ext_get? hget)

/-- Two streams at one access point are reported in two orders.  In a session beside it there
are also an access point that is asked for by name, one that a pool over the history takes an
offer for, and one that only a pool without a history does. -/
theorem snapshot_of_streams_two_orders :
    let ap (n : UInt16) : AccessPoint := ⟨⟨"home"⟩, Scenario.radio n⟩
    let report (event : ConnectionEvent) (rssi : Int32) : Report :=
      ⟨ap 7, ⟨event, 5180⟩, ⟨rssi, 433, 1200⟩⟩
    let first := [report .ipConfigured (-50), report .validated (-51), report .ipConfigured (-60)]
    let second := [report .validated (-51), report .ipConfigured (-50), report .ipConfigured (-60)]
    let nominate (n : UInt16) : Command Handle :=
      .addScan (Scenario.scan ⟨"home"⟩ n (-50)) (some (Scenario.config ⟨3⟩ ⟨"home"⟩)) {}
    let actions : List Session.Action :=
      [.openPool .history .lenient [], .openPool .blank .lenient [], .touch (ap 9),
        .command 0 (nominate 8), .observe (ap 7) ⟨.ipConfigured, 5180⟩ ⟨-50, 433, 1200⟩ 2,
        .command 1 (nominate 6)]
    (∀ ap source, Report.stream ap source first = Report.stream ap source second) ∧
      (({} : History).after first).snapshot = (({} : History).after second).snapshot ∧
      (({} : Session).run actions).shared.history.Surveyed (({} : Session).scenes actions)
        (Session.reports actions) := by
  intro ap report first second nominate actions
  have hstreams : ∀ ap source, Report.stream ap source first = Report.stream ap source second :=
    Report.stream_swap (by decide) [] [report .ipConfigured (-60)]
  exact ⟨hstreams, snapshot_of_streams hstreams actions⟩

end History

end NetworkSelection
