import NetworkSelection.Proofs.Effects
import NetworkSelection.Session

/-!
# What a command reports

A pool reports what it does to its records and to its ledger, each under a headline of its own:
that a candidate came, that one had to give way, that an offer was turned down, that there was a
fault.  Here it is shown for every command that it reports under these headlines what it does,
once, and nothing that it does not do.

The score card reports into the same log.  That it does not do so under the headlines of the
pool is asked of it (`ScoreCard.Discreet`), and is true of every card that there is.

* `LogEvent.under`: what a log says under a headline.
* `Pool.events_of_fault`, `Pool.events_add_of_not_outranked`: the reports in full.
* `Moment.Reported`, `Moment.reported`: what a command reports is what it does.
-/

namespace NetworkSelection

variable {σ η : Type}

/-! ## Reading a log -/

namespace LogEvent

/-- The headlines under which a pool reports what it does to its records and to its ledger. -/
def headlines : List String :=
  ["candidates: added", "candidates: replacing candidate",
    "candidates: lower-priority nominator rejected", "candidates: fault recorded"]

/-- What a log says under a headline. -/
def under (headline : String) (log : List LogEvent) : List LogEvent :=
  log.filter fun e => e.message = headline

/-- A log says nothing under the headlines about records and faults. -/
def Silent (log : List LogEvent) : Prop :=
  ∀ e ∈ log, e.message ∉ headlines

variable {headline : String}

theorem under_append (log log' : List LogEvent) :
    under headline (log ++ log') = under headline log ++ under headline log' :=
  List.filter_append log log'

theorem silent_nil : Silent [] := fun _ h => absurd h List.not_mem_nil

theorem silent_singleton {e : LogEvent} (h : e.message ∉ headlines) : Silent [e] := by
  intro e' he'
  rwa [List.mem_singleton.mp he']

theorem Silent.append {log log' : List LogEvent} (h : Silent log) (h' : Silent log') :
    Silent (log ++ log') :=
  List.forall_mem_append.mpr ⟨h, h'⟩

theorem Silent.under_eq_nil {log : List LogEvent} (h : Silent log)
    (hheadline : headline ∈ headlines) : under headline log = [] := by
  refine List.filter_eq_nil_iff.mpr fun e he hmessage => h e he ?_
  rw [of_decide_eq_true hmessage]
  exact hheadline

end LogEvent

open LogEvent (under Silent)

/-- A score card reports nothing under the headlines of the pools that it serves. -/
def ScoreCard.Discreet (card : ScoreCard σ η) : Prop :=
  ∀ ap history, Silent (card.lookup ap history).events

/-- Every card that there is reports on nothing but its own history. -/
theorem CardKind.discreet_card (kind : CardKind) : kind.card.Discreet := by
  intro ap history
  cases kind with
  | blank => exact LogEvent.silent_nil
  | fixed availability => exact LogEvent.silent_nil
  | history =>
    show Silent (history.touch ap).2
    unfold History.touch
    split
    · exact LogEvent.silent_nil
    · exact LogEvent.silent_singleton (by simp [LogEvent.message, LogEvent.headlines])

section reports

variable [BssidHandle η σ]

/-- The log of these moments. -/
def logOf (past : List (Moment σ η)) : List LogEvent :=
  past.flatMap fun m => m.outcome.events

theorem logOf_concat (past : List (Moment σ η)) (m : Moment σ η) :
    logOf (past ++ [m]) = logOf past ++ m.outcome.events := by
  rw [logOf, List.flatMap_append, List.flatMap_singleton]
  rfl

/-- If every moment reports what is true of it, the log reports it as often as it was true. -/
theorem length_under_logOf {headline : String} {p : Moment σ η → Bool}
    {past : List (Moment σ η)}
    (h : ∀ m ∈ past, (under headline m.outcome.events).length = (p m).toNat) :
    (under headline (logOf past)).length = past.countP p := by
  induction past with
  | nil => rfl
  | cons m past ih =>
    have hm := h m List.mem_cons_self
    have hpast := ih fun m' hm' => h m' (List.mem_cons_of_mem m hm')
    rw [logOf, List.flatMap_cons, LogEvent.under_append, List.length_append, hm, ← logOf, hpast,
      List.countP_cons, Nat.add_comm]
    cases p m <;> rfl

namespace Moment

/-- Whether a candidate took the place of another one. -/
def replaced (m : Moment σ η) : Bool :=
  m.taken?.any fun offer => (m.pool.get? offer.key).isSome

/-- Whether the answer was that a candidate is not taken in, without there being a fault. -/
def declined (m : Moment σ η) : Bool :=
  m.command.fault?.isNone &&
    match m.outcome.answer with
    | .ok (.added taken) => !taken
    | _ => false

/-- What there is to report of the fault that a command runs into, if it does: which one of the
faults in the ledger it is, and whether the ledger is picky. -/
def faultReport (m : Moment σ η) : List LogEvent :=
  (m.command.fault?.map
    (LogEvent.faultRecorded (Ledger.oneMore m.pool.ledger.count) m.pool.ledger.picky)).toList

/-- What a command reports under the headlines is what it does. -/
structure Reported (m : Moment σ η) : Prop where
  added : (under "candidates: added" m.outcome.events).length = m.admitted.toNat
  replacing : (under "candidates: replacing candidate" m.outcome.events).length = m.replaced.toNat
  rejected : (under "candidates: lower-priority nominator rejected" m.outcome.events).length =
    m.declined.toNat
  recorded : under "candidates: fault recorded" m.outcome.events = m.faultReport

/-! ## What a command reports -/

theorem replaced_of_not_admitted {m : Moment σ η} (h : m.admitted = false) :
    m.replaced = false := by
  simp only [replaced, taken?, h, Bool.false_eq_true, if_false, Option.any_none]

/-- Nothing is taken in and nothing turned down unless it is offered. -/
theorem not_admitted_of_no_offer {m : Moment σ η} (h : m.command.offer? = none) :
    m.admitted = false ∧ m.declined = false := by
  constructor
  · cases m.effect with
    | enters offer hoffer => exact absurd (h.symm.trans hoffer) (by simp)
    | idle _ hadmitted => exact hadmitted
    | rejects _ _ _ hadmitted => exact hadmitted
    | leaves _ _ _ hadmitted => exact hadmitted
    | renews _ _ hadmitted => exact hadmitted
  · obtain ⟨pool, shared, command⟩ := m
    cases command.kind with
    | faults f hfault => simp [declined, hfault]
    | offers offer hoffer => exact absurd (h.symm.trans hoffer) (by simp)
    | sets id text bssid hparse =>
      simp only [declined, outcome, Pool.apply, Pool.setCurrent, hparse]
      exact Bool.and_false _
    | resolves scan config? key hkey =>
      simp only [declined, outcome, Pool.apply, Pool.resolve, hkey]
      exact Bool.and_false _
    | _ => rfl

/-- A command that offers nothing has at most a fault to report. -/
theorem reported_of_no_offer {m : Moment σ η} (hoffer : m.command.offer? = none)
    (hunder : ∀ headline ∈ LogEvent.headlines,
      under headline m.outcome.events = under headline m.faultReport) : m.Reported := by
  obtain ⟨hadmitted, hdeclined⟩ := not_admitted_of_no_offer hoffer
  have hreplaced : m.replaced = false := replaced_of_not_admitted hadmitted
  constructor
  · rw [hunder _ (by decide), faultReport, hadmitted]
    cases m.command.fault? <;> rfl
  · rw [hunder _ (by decide), faultReport, hreplaced]
    cases m.command.fault? <;> rfl
  · rw [hunder _ (by decide), faultReport, hdeclined]
    cases m.command.fault? <;> rfl
  · rw [hunder _ (by decide), faultReport]
    cases m.command.fault? <;> rfl

/-- A command that offers nothing and runs into no fault has nothing to report. -/
theorem reported_of_silent {m : Moment σ η} (hoffer : m.command.offer? = none)
    (hfault : m.command.fault? = none) (h : Silent m.outcome.events) : m.Reported := by
  refine reported_of_no_offer hoffer fun headline hheadline => ?_
  rw [h.under_eq_nil hheadline, faultReport, hfault]
  rfl

end Moment

namespace Pool

/-- A fault is reported last, with what the ledger then says of it; before it there may be a
notice that a scan result has no key. -/
theorem events_of_fault {command : Command η} {f : Fault} (h : command.fault? = some f)
    (pool : Pool σ η) (shared : Shared σ) :
    ∃ notice, Silent notice ∧ (pool.apply shared command).events =
      notice ++ [.faultRecorded (Ledger.oneMore pool.ledger.count) pool.ledger.picky f] := by
  have hnotice (bssid : String) (ssid : Ssid) : Silent [.resolutionFailed bssid ssid] :=
    LogEvent.silent_singleton (by simp [LogEvent.message, LogEvent.headlines])
  cases command with
  | setCurrent id bssid? =>
    cases bssid? with
    | none => exact absurd h (by simp [Command.fault?])
    | some text =>
      simp only [Command.fault?] at h
      split at h
      · next reason hparse =>
        rw [← Option.some.inj h]
        refine ⟨[], LogEvent.silent_nil, ?_⟩
        simp only [apply, setCurrent, hparse]
        rfl
      · exact absurd h (by simp)
  | resolve scan config? =>
    simp only [Command.fault?] at h
    split at h
    · next f' hkey =>
      rw [← Option.some.inj h]
      refine ⟨[.resolutionFailed scan.bssid scan.ssid], hnotice _ _, ?_⟩
      simp only [apply, resolve, hkey]
      rfl
    · exact absurd h (by simp)
  | addScan scan config? nomination =>
    simp only [Command.fault?] at h
    split at h
    · next f' hkey =>
      rw [← Option.some.inj h]
      refine ⟨[.resolutionFailed scan.bssid scan.ssid], hnotice _ _, ?_⟩
      simp only [apply, addScan, resolve, hkey]
      rfl
    · exact absurd h (by simp)
  | _ => exact absurd h (by simp [Command.fault?])

/-- A discreet card, asked for an access point, and the note of the nomination. -/
theorem silent_attach {pool : Pool σ η} (hcard : pool.card.Discreet) (key : Key)
    (config : NetworkConfig) (history : σ) :
    Silent (pool.attach key config history).events := by
  have hlookup := hcard key.accessPoint history
  unfold attach
  cases hhandle : (pool.card.lookup key.accessPoint history).handle with
  | none => simpa only [hhandle] using hlookup
  | some handle =>
    simp only [hhandle]
    exact hlookup.append
      (LogEvent.silent_singleton (by simp [LogEvent.message, LogEvent.headlines]))

/-- A candidate that is taken in is announced last, and the holder of its place first, if there
is one. -/
theorem events_add_of_not_outranked {pool : Pool σ η} {offer : Offer}
    (hrank : ∀ held, pool.get? offer.key = some held →
      offer.seen.nominator.rank ≤ held.candidate.nominator.rank) (shared : Shared σ) :
    (pool.add offer.key offer.config offer.seen shared).events =
      (if (pool.get? offer.key).isSome then [.replacing offer.key offer.seen.nominator] else []) ++
        (pool.attach offer.key offer.config shared.history).events ++
        [.added (pool.entrantOf offer shared).candidate.describe] := by
  cases hget : pool.get? offer.key with
  | none =>
    simp only [add, hget]
    rfl
  | some held =>
    have hout : offer.seen.nominator.outrankedBy held.candidate.nominator = false :=
      decide_eq_false (UInt8.not_lt.mpr (hrank held hget))
    simp only [add, hget, hout]
    rfl

end Pool

namespace Moment

/-- An offer that is turned down is reported, and nothing else is. -/
theorem reported_of_outrankedAt {m : Moment σ η} {offer : Offer}
    (hoffer : m.command.offer? = some offer)
    (h : m.pool.OutrankedAt offer.key offer.seen.nominator) : m.Reported := by
  have hfault : m.command.fault? = none := Command.fault?_eq_none_of_offer hoffer
  have hanswer := (Pool.apply_of_outrankedAt hoffer h m.shared).1
  have hadmitted : m.admitted = false := (admitted_of_answer hanswer).1
  have hdeclined : m.declined = true := by
    rw [declined, outcome, hanswer, hfault]
    rfl
  obtain ⟨held, hget, hlt⟩ := h
  have hevents : m.outcome.events =
      [.nominatorRejected offer.key offer.seen.nominator held.candidate.nominator] := by
    rw [outcome, Pool.apply_of_offer hoffer]
    exact (Pool.add_of_outranked hget hlt m.shared).2.2.2
  constructor
  · rw [hevents, hadmitted]
    rfl
  · rw [hevents, replaced_of_not_admitted hadmitted]
    rfl
  · rw [hevents, hdeclined]
    rfl
  · rw [hevents, faultReport, hfault]
    rfl

/-- An offer that is taken is reported, and so is the replacement of the holder. -/
theorem reported_of_not_outrankedAt {m : Moment σ η} (hcard : m.pool.card.Discreet)
    {offer : Offer} (hoffer : m.command.offer? = some offer)
    (h : ¬ m.pool.OutrankedAt offer.key offer.seen.nominator) : m.Reported := by
  have hfault : m.command.fault? = none := Command.fault?_eq_none_of_offer hoffer
  have hanswer := (Pool.apply_of_not_outrankedAt hoffer h m.shared).1
  have hadmitted : m.admitted = true := (admitted_of_answer hanswer).1
  have hdeclined : m.declined = false := by
    rw [declined, outcome, hanswer, hfault]
    rfl
  have hreplaced : m.replaced = (m.pool.get? offer.key).isSome := by
    simp only [replaced, taken?, hadmitted, if_true, hoffer, Option.any_some]
  have hattach := Pool.silent_attach hcard offer.key offer.config m.shared.history
  have hevents := Pool.events_add_of_not_outranked (Pool.not_outrankedAt.mp h) m.shared
  have hunder : ∀ headline ∈ LogEvent.headlines, under headline m.outcome.events =
      under headline (if m.replaced then [.replacing offer.key offer.seen.nominator] else []) ++
        under headline [.added (m.pool.entrantOf offer m.shared).candidate.describe] := by
    intro headline hheadline
    rw [outcome, Pool.apply_of_offer hoffer, hevents, LogEvent.under_append,
      LogEvent.under_append, hattach.under_eq_nil hheadline, List.append_nil, hreplaced]
  constructor
  · rw [hunder _ (by decide), hadmitted]
    cases m.replaced <;> rfl
  · rw [hunder _ (by decide)]
    cases m.replaced <;> rfl
  · rw [hunder _ (by decide), hdeclined]
    cases m.replaced <;> rfl
  · rw [hunder _ (by decide), faultReport, hfault]
    cases m.replaced <;> rfl

/-- A fault is reported, and nothing else is. -/
theorem reported_of_fault {m : Moment σ η} {f : Fault} (hfault : m.command.fault? = some f) :
    m.Reported := by
  have hoffer : m.command.offer? = none := by
    refine Option.eq_none_iff_forall_ne_some.mpr fun offer hoffer => ?_
    exact absurd ((Command.fault?_eq_none_of_offer hoffer).symm.trans hfault) (by simp)
  obtain ⟨notice, hnotice, hevents⟩ := Pool.events_of_fault hfault m.pool m.shared
  refine reported_of_no_offer hoffer fun headline hheadline => ?_
  rw [outcome, hevents, LogEvent.under_append, hnotice.under_eq_nil hheadline, List.nil_append,
    faultReport, hfault]
  rfl

/-- **What a command reports is what it does.** -/
theorem reported (m : Moment σ η) (hcard : m.pool.card.Discreet) : m.Reported := by
  obtain ⟨pool, shared, command⟩ := m
  cases command.kind with
  | faults f hfault => exact reported_of_fault hfault
  | offers offer hoffer =>
    by_cases h : pool.OutrankedAt offer.key offer.seen.nominator
    · exact reported_of_outrankedAt hoffer h
    · exact reported_of_not_outrankedAt hcard hoffer h
  | sets id text bssid hparse =>
    refine reported_of_silent rfl ?_ ?_
    · simp only [Command.fault?, hparse]
    · simp only [outcome, Pool.apply, Pool.setCurrent, hparse]
      exact LogEvent.silent_nil
  | resolves scan config? key hkey =>
    refine reported_of_silent rfl ?_ ?_
    · simp only [Command.fault?, hkey]
    · simp only [outcome, Pool.apply, Pool.resolve, hkey]
      exact LogEvent.silent_nil
  | renews estimate =>
    refine reported_of_silent rfl rfl fun e he => ?_
    obtain ⟨group, -, rfl⟩ := List.mem_map.mp he
    simp [LogEvent.message, LogEvent.headlines]
  | _ => exact reported_of_silent rfl rfl LogEvent.silent_nil

end Moment

end reports

/-- Choosing among the candidates is not reported under these headlines. -/
theorem Pool.silent_choose (scorer : Scorer η) (pool : Pool σ η) :
    Silent (pool.choose scorer).2 := by
  refine List.forall_mem_cons.mpr ⟨by simp [LogEvent.message, LogEvent.headlines], ?_⟩
  split
  · split
    · exact LogEvent.silent_singleton (by simp [LogEvent.message, LogEvent.headlines])
    · exact LogEvent.silent_nil
  · exact LogEvent.silent_nil

end NetworkSelection
