import NetworkSelection.Proofs.History
import NetworkSelection.Proofs.Scenes
import Mathlib.Data.List.Induction

/-!
# Reports

Every connection event that is recorded is a *report*: it names an access point and a source,
and brings a sample.  The reports about one access point from one source are a *stream*.  All
that the history has of a list of reports is the statistics of their streams
(`History.Holds`): one more report goes into the statistics of its own stream and into no
other.  Whatever else is done in a session, asking for access points, noting how they were
nominated and all the work of the pools, adds nothing to the statistics; and so the history
holds the reports of a session, however they are interleaved with the rest.

* `Report.stream`: the samples of one stream, in the order in which they were reported;
  `Report.stream_swap`: reports of different streams may change places.
* `SignalSource.statistics?`: what is kept of a stream.
* `History.Holds.record`: one more report.
* `Session.Scene.sameSignals`: what one action does to the statistics.
* `Session.holds_run`: the history holds the reports of any interleaving.
-/

namespace NetworkSelection

/-- A connection event that is recorded. -/
structure Report where
  ap : AccessPoint
  source : SignalSource
  sample : SignalSample
  deriving DecidableEq

/-- What was sampled at an access point from one source, in the order in which it was
reported. -/
def Report.stream (ap : AccessPoint) (source : SignalSource) (reports : List Report) :
    List SignalSample :=
  (reports.filter fun r => r.ap = ap ∧ r.source = source).map Report.sample

/-- A report is at the end of its own stream, and in no other. -/
theorem Report.stream_concat (ap : AccessPoint) (source : SignalSource) (reports : List Report)
    (r : Report) :
    stream ap source (reports ++ [r]) =
      if r.ap = ap ∧ r.source = source then stream ap source reports ++ [r.sample]
      else stream ap source reports := by
  rw [stream, List.filter_append, List.map_append, List.filter_singleton]
  by_cases h : r.ap = ap ∧ r.source = source <;> simp [h, stream]

/-- Two reports in a row may change places, unless they are of one stream. -/
theorem Report.stream_swap {a b : Report} (h : ¬ (a.ap = b.ap ∧ a.source = b.source))
    (before later : List Report) (ap : AccessPoint) (source : SignalSource) :
    stream ap source (before ++ a :: b :: later) =
      stream ap source (before ++ b :: a :: later) := by
  by_cases ha : a.ap = ap ∧ a.source = source
  · have hb : ¬ (b.ap = ap ∧ b.source = source) := by
      rintro ⟨rfl, rfl⟩
      exact h ha
    simp [stream, ha, hb]
  · by_cases hb : b.ap = ap ∧ b.source = source <;> simp [stream, ha, hb]

/-- A stream is there if there is a report in it. -/
theorem Report.stream_ne_nil_iff {ap : AccessPoint} {source : SignalSource}
    {reports : List Report} :
    stream ap source reports ≠ [] ↔ ∃ r ∈ reports, r.ap = ap ∧ r.source = source := by
  simp [stream]

/-! ## The statistics of a stream -/

/-- The source that statistics are about. -/
def SignalStats.source (stats : SignalStats) : SignalSource :=
  ⟨stats.event, stats.frequency⟩

/-- Each measurement counts once. -/
theorem SampleStats.count_foldl_update (values : List Float) (stats : SampleStats) :
    (values.foldl update stats).count = stats.count + .ofNat values.length := by
  induction values generalizing stats with
  | nil => exact (UInt64.add_zero _).symm
  | cons value rest ih =>
    rw [List.foldl_cons, ih, count_update, List.length_cons, UInt64.ofNat_add,
      UInt64.add_comm (.ofNat rest.length), UInt64.add_assoc]
    rfl

/-- Each part of the statistics sums what it measures of the samples. -/
theorem SignalStats.part_foldl_update (part : SignalStats → SampleStats)
    (measure : SignalSample → Float)
    (hpart : ∀ stats sample, part (update stats sample) = (part stats).update (measure sample))
    (samples : List SignalSample) (stats : SignalStats) :
    part (samples.foldl update stats) =
      (samples.map measure).foldl SampleStats.update (part stats) := by
  rw [List.foldl_map]
  exact (List.foldl_hom part fun stats sample => (hpart stats sample).symm).symm

/-- The statistics are the sums over these samples, in this order. -/
structure SignalStats.Sums (stats : SignalStats) (samples : List SignalSample) : Prop where
  rssi_eq : stats.rssi =
    (samples.map fun x => Float.ofInt x.rssi.toInt).foldl SampleStats.update {}
  linkSpeed_eq : stats.linkSpeed =
    (samples.map fun x => x.linkSpeed.toFloat).foldl SampleStats.update {}
  elapsed_eq : stats.elapsed =
    (samples.map fun x => x.elapsed.toFloat).foldl SampleStats.update {}
  rssi_count : stats.rssi.count = .ofNat samples.length
  linkSpeed_count : stats.linkSpeed.count = .ofNat samples.length
  elapsed_count : stats.elapsed.count = .ofNat samples.length

namespace SignalSource

/-- The statistics of a source before any sample. -/
def blank (source : SignalSource) : SignalStats where
  event := source.event
  frequency := source.frequency

/-- What is kept of a stream: nothing, as long as there is nothing in it. -/
def statistics? (source : SignalSource) (samples : List SignalSample) : Option SignalStats :=
  if samples = [] then none else some (samples.foldl SignalStats.update source.blank)

theorem isSome_statistics? {source : SignalSource} {samples : List SignalSample} :
    (source.statistics? samples).isSome ↔ samples ≠ [] := by
  unfold statistics?
  split <;> simp_all

theorem statistics?_concat (source : SignalSource) (samples : List SignalSample)
    (sample : SignalSample) :
    source.statistics? (samples ++ [sample]) =
      some (((source.statistics? samples).getD source.blank).update sample) := by
  have hfold : (source.statistics? samples).getD source.blank =
      samples.foldl SignalStats.update source.blank := by
    unfold statistics?
    split
    · next h => rw [h]; rfl
    · rfl
  rw [statistics?, if_neg (by simp), List.foldl_concat, hfold]

theorem source_foldl_update (samples : List SignalSample) (stats : SignalStats) :
    (samples.foldl SignalStats.update stats).source = stats.source := by
  induction samples generalizing stats with
  | nil => rfl
  | cons sample rest ih => exact ih (stats.update sample)

/-- What is kept of a stream is about its source, and sums its samples. -/
theorem sums_of_statistics? {source : SignalSource} {samples : List SignalSample}
    {stats : SignalStats} (h : source.statistics? samples = some stats) :
    stats.source = source ∧ stats.Sums samples := by
  obtain ⟨-, rfl⟩ : samples ≠ [] ∧ samples.foldl SignalStats.update source.blank = stats := by
    simpa [statistics?] using h
  have hrssi := SignalStats.part_foldl_update SignalStats.rssi _ (fun _ _ => rfl) samples
    source.blank
  have hlinkSpeed := SignalStats.part_foldl_update SignalStats.linkSpeed _ (fun _ _ => rfl) samples
    source.blank
  have helapsed := SignalStats.part_foldl_update SignalStats.elapsed _ (fun _ _ => rfl) samples
    source.blank
  have hcount : ∀ measure : SignalSample → Float,
      ((samples.map measure).foldl SampleStats.update {}).count = .ofNat samples.length := by
    intro measure
    rw [SampleStats.count_foldl_update, List.length_map]
    exact UInt64.zero_add _
  refine ⟨source_foldl_update samples source.blank, ?_⟩
  exact
    { rssi_eq := hrssi
      linkSpeed_eq := hlinkSpeed
      elapsed_eq := helapsed
      rssi_count := hrssi ▸ hcount _
      linkSpeed_count := hlinkSpeed ▸ hcount _
      elapsed_count := helapsed ▸ hcount _ }

end SignalSource

/-- One more sample counts for its source alone. -/
theorem BssidHistory.getElem?_observe (source other : SignalSource) (sample : SignalSample)
    (known : BssidHistory) :
    (known.observe source sample).signals[other]? =
      if source = other then some ((known.signals[source]?.getD source.blank).update sample)
      else known.signals[other]? := by
  simp only [observe, Std.ExtTreeMap.getElem?_insert, Std.LawfulEqCmp.compare_eq_iff_eq]
  rfl

/-! ## What the history holds -/

namespace History

/-- The history with one more report. -/
def record (history : History) (r : Report) : History :=
  (history.observe r.ap r.source r.sample).1

/-- The history after these reports, the earliest first. -/
def after (reports : List Report) (history : History) : History :=
  reports.foldl record history

/-- The history has of every stream in these reports what is kept of it. -/
def Holds (history : History) (reports : List Report) : Prop :=
  ∀ ap (source : SignalSource), (history.known ap).signals[source]? =
    source.statistics? (Report.stream ap source reports)

variable {history history' : History} {reports : List Report}

theorem known_record (r : Report) (other : AccessPoint) (history : History) :
    (history.record r).known other =
      if other = r.ap then (history.known r.ap).observe r.source r.sample
      else history.known other := by
  rw [known, record, get?_observe]
  split <;> rfl

/-- The empty history holds no report. -/
theorem holds_nil : ({} : History).Holds [] := fun _ _ => rfl

/-- **One more report** goes into the statistics of its own stream. -/
theorem Holds.record (h : history.Holds reports) (r : Report) :
    (history.record r).Holds (reports ++ [r]) := by
  intro ap source
  rw [known_record, Report.stream_concat]
  by_cases hap : ap = r.ap
  · subst hap
    rw [if_pos rfl, BssidHistory.getElem?_observe, h r.ap source, h r.ap r.source]
    by_cases hsource : r.source = source
    · subst hsource
      rw [if_pos rfl, if_pos ⟨rfl, rfl⟩, SignalSource.statistics?_concat]
    · rw [if_neg hsource, if_neg fun he => hsource he.2]
  · rw [if_neg hap, if_neg fun he => hap he.1.symm]
    exact h ap source

theorem Holds.after (h : history.Holds reports) (more : List Report) :
    (history.after more).Holds (reports ++ more) := by
  induction more generalizing history reports with
  | nil => rw [List.append_nil]; exact h
  | cons r rest ih =>
    rw [List.append_cons]
    exact ih (h.record r)

/-- There are statistics of the sources that there are reports from. -/
theorem Holds.mem_keys_iff (h : history.Holds reports) {ap : AccessPoint} {source : SignalSource} :
    source ∈ (history.known ap).signals.keys ↔
      ∃ r ∈ reports, r.ap = ap ∧ r.source = source := by
  rw [Std.ExtTreeMap.mem_keys, ← Std.ExtTreeMap.isSome_getElem?_iff_mem, h ap source,
    SignalSource.isSome_statistics?, Report.stream_ne_nil_iff]

/-- Only the statistics matter. -/
theorem Holds.congr (h : history.Holds reports) (hsignals : history.SameSignals history') :
    history'.Holds reports := by
  intro ap source
  rw [← hsignals ap]
  exact h ap source

end History

/-! ## The reports of a session -/

namespace Session

/-- The reports that an action makes. -/
def Action.reports : Action → List Report
  | .observe ap source sample times => List.replicate times ⟨ap, source, sample⟩
  | _ => []

/-- The reports of these actions, the earliest first. -/
def reports (actions : List Action) : List Report :=
  actions.flatMap Action.reports

theorem reports_concat (actions : List Action) (action : Action) :
    reports (actions ++ [action]) = reports actions ++ action.reports := by
  rw [reports, List.flatMap_append, List.flatMap_singleton, reports]

/-- To record an event several times is to report it as often. -/
theorem observe_eq_after (ap : AccessPoint) (source : SignalSource) (sample : SignalSample)
    (times : Nat) (history : History) (before : List LogEvent) :
    (Session.observe ap source sample times (history, before)).1 =
      history.after (List.replicate times ⟨ap, source, sample⟩) := by
  induction times generalizing history before with
  | zero => rfl
  | succ times ih =>
    rw [observe_succ, ih]
    rfl

namespace Scene

/-- A connection event is recorded for an access point if it is recorded at all. -/
theorem observed?_of_observe {s : Scene} {place : AccessPoint} {source : SignalSource}
    {sample : SignalSample} {times : Nat} (haction : s.action = .observe place source sample times)
    (ap : AccessPoint) : s.observed? = some ap ↔ ap = place ∧ times ≠ 0 := by
  cases times with
  | zero => simp [observed?, haction]
  | succ times => simp [observed?, haction, eq_comm]

theorem get?_of_observe {s : Scene} {place : AccessPoint} {source : SignalSource}
    {sample : SignalSample} {times : Nat} (haction : s.action = .observe place source sample times)
    (ap : AccessPoint) :
    s.turn.session.shared.history.get? ap =
      if ap = place ∧ times ≠ 0 then
        some ((BssidHistory.observe source sample)^[times] (s.session.shared.history.known place))
      else s.session.shared.history.get? ap := by
  rw [← Session.get?_observe place ap source sample times s.session.shared.history []]
  simp only [turn, haction, perform]
  rfl

end Scene

/-- Every pool of a session consults a card of some kind. -/
def Carded (session : Session) : Prop :=
  ∀ pool ∈ session.pools, ∃ kind : CardKind, pool.card = kind.card

theorem carded_run (actions : List Action) : (({} : Session).run actions).Carded := by
  intro pool hpool
  obtain ⟨kind, _, _, _, hcard⟩ := exists_openPool_of_mem hpool
  exact ⟨kind, hcard⟩

/-- **What one action does to the statistics.**  Its reports go into them, and nothing else
does. -/
theorem Scene.sameSignals (s : Scene) (hcarded : s.session.Carded) :
    (s.session.shared.history.after s.action.reports).SameSignals
      s.turn.session.shared.history := by
  cases haction : s.action with
  | openPool kind config seeds => simp only [turn, haction]; exact fun _ => rfl
  | command index command =>
    cases hpool : s.session.pools[index]? with
    | none =>
      simp only [turn, haction, perform, hpool]
      exact fun _ => rfl
    | some pool =>
      obtain ⟨kind, hcard⟩ := hcarded pool (List.mem_of_getElem? hpool)
      rw [turn_of_command haction hpool]
      exact (s.moment pool command).sameSignals hcard
  | observe ap source sample times =>
    have hhistory : s.turn.session.shared.history =
        s.session.shared.history.after (List.replicate times ⟨ap, source, sample⟩) := by
      rw [← observe_eq_after ap source sample times s.session.shared.history []]
      simp only [turn, haction, perform]
      rfl
    rw [hhistory]
    exact fun _ => rfl
  | touch ap =>
    intro other
    simp only [turn, haction, perform]
    exact congrArg BssidHistory.signals (History.known_touch ap other _).symm
  | annotate ap security id =>
    intro other
    simp only [turn, haction, perform, withHistory]
    rw [History.known_modify]
    split
    · next h => rw [h, History.known_touch]; rfl
    · rw [History.known_touch]; rfl
  | make candidate => simp only [turn, haction]; exact fun _ => rfl

/-- **The history holds the reports**, however they are interleaved with the work of pools and
with all else that is done to the history. -/
theorem holds_run (actions : List Action) :
    (({} : Session).run actions).shared.history.Holds (reports actions) := by
  induction actions using List.reverseRecOn with
  | nil => exact History.holds_nil
  | append_singleton actions action ih =>
    let s : Scene := ⟨({} : Session).run actions, action⟩
    rw [run_concat, reports_concat]
    exact (ih.after action.reports).congr (s.sameSignals (carded_run actions))

end Session

end NetworkSelection
