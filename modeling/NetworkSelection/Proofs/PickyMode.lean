import NetworkSelection.Proofs.Failures
import NetworkSelection.Scenario
import NetworkSelection.ScoreCard.History
import Mathlib.Data.List.Forall2

/-!
# Picky mode changes answers, never state

Two pools that differ in nothing but their mode are given the same commands, each with
what it shares in a world of its own.  The two worlds stay equal, and so do the pools but
for their mode.  A command that runs into no fault does not even ask for the mode; one that
does is recorded alike by both pools, and only the answers differ.

A record that the one pool made has the number of the record that the other pool made at
the same moment.  A number that a caller hands in therefore stands for the same record in
both worlds.

* `Pool.apply_setPicky_of_fault?_eq_none`: without a fault, the mode goes unnoticed.
* `Pool.apply_setPicky`: with or without, it makes no difference to the state.
* `Moment.Lockstep`: what one moment has in common in the two worlds, and what answers are
  given.
* `Course.lockstep_run_setPicky`: the whole course in both modes.
-/

namespace NetworkSelection

variable {σ η : Type}

/-- The same outcome for a pool in another mode. -/
def Outcome.setPicky {α : Type} (picky : Bool) (outcome : Outcome σ η α) : Outcome σ η α :=
  { outcome with pool := outcome.pool.setPicky picky }

namespace Pool

@[simp] theorem setPicky_setPicky (picky picky' : Bool) (pool : Pool σ η) :
    (pool.setPicky picky').setPicky picky = pool.setPicky picky := rfl

/-! ## The mode goes unnoticed -/

theorem remove_setPicky (picky : Bool) (pool : Pool σ η) (r : Record η) :
    (pool.setPicky picky).remove r =
      ((pool.remove r).1, (pool.remove r).2.setPicky picky) := by
  have hget : (pool.setPicky picky).get? r.key = pool.get? r.key := rfl
  unfold remove
  rw [hget]
  cases pool.get? r.key with
  | none => rfl
  | some held =>
    by_cases hserial : held.serial = r.serial
    · simp only [hserial, if_true]
      rfl
    · simp only [hserial, if_false]

variable [BssidHandle η σ]

theorem add_setPicky (picky : Bool) (pool : Pool σ η) (key : Key) (config : NetworkConfig)
    (seen : Observation) (shared : Shared σ) :
    (pool.setPicky picky).add key config seen shared =
      (pool.add key config seen shared).setPicky picky := by
  have hget : (pool.setPicky picky).get? key = pool.get? key := rfl
  unfold add
  rw [hget]
  cases pool.get? key with
  | none => rfl
  | some held =>
    cases hout : seen.nominator.outrankedBy held.candidate.nominator with
    | true =>
      simp only [hout, if_true]
      rfl
    | false =>
      simp only [hout, Bool.false_eq_true, if_false]
      rfl

/-- A command that runs into no fault does in one mode what it does in the other. -/
theorem apply_setPicky_of_fault?_eq_none {command : Command η} (hfault : command.fault? = none)
    (hmode : ∀ picky, command ≠ .setPicky picky) (picky : Bool) (pool : Pool σ η)
    (shared : Shared σ) :
    (pool.setPicky picky).apply shared command =
      (pool.apply shared command).setPicky picky := by
  cases command.kind with
  | faults f h => exact absurd (hfault.symm.trans h) (by simp)
  | offers offer hoffer =>
    rw [apply_of_offer hoffer, apply_of_offer hoffer, add_setPicky]
    rfl
  | unsets id => rfl
  | sets id text bssid hparse =>
    simp only [apply, setCurrent, hparse]
    rfl
  | modes mode => exact absurd rfl (hmode mode)
  | resolves scan config? key hkey =>
    simp only [apply, resolve, hkey]
    rfl
  | removes r =>
    simp only [apply, remove_setPicky]
    rfl
  | renews estimate => rfl
  | clears => rfl

/-- A command that runs into a fault leaves the same behind in both modes. -/
theorem pool_apply_setPicky_of_fault? {command : Command η} {f : Fault}
    (hfault : command.fault? = some f) (picky : Bool) (pool : Pool σ η) (shared : Shared σ) :
    ((pool.setPicky picky).apply shared command).pool =
      (pool.apply shared command).pool.setPicky picky := by
  obtain ⟨-, hpool, -⟩ := apply_of_fault hfault pool shared
  obtain ⟨-, hpool', -⟩ := apply_of_fault hfault (pool.setPicky picky) shared
  rw [hpool, hpool']
  rfl

/-- **The mode makes no difference to the state.** -/
theorem apply_setPicky {command : Command η} (hmode : ∀ picky, command ≠ .setPicky picky)
    (picky : Bool) (pool : Pool σ η) (shared : Shared σ) :
    ((pool.setPicky picky).apply shared command).pool =
        (pool.apply shared command).pool.setPicky picky ∧
      ((pool.setPicky picky).apply shared command).shared =
        (pool.apply shared command).shared := by
  cases hfault : command.fault? with
  | none =>
    rw [apply_setPicky_of_fault?_eq_none hfault hmode]
    exact ⟨rfl, rfl⟩
  | some f =>
    refine ⟨pool_apply_setPicky_of_fault? hfault picky pool shared, ?_⟩
    obtain ⟨-, -, hafter, -⟩ := apply_of_fault hfault (pool.setPicky picky) shared
    obtain ⟨-, -, hafter', -⟩ := apply_of_fault hfault pool shared
    rw [hafter, hafter']

/-! ## Empty answers without a fault -/

/-- An offer that is turned down is no fault. -/
theorem faults_add_of_answer_eq_false {pool : Pool σ η} {offer : Offer} {shared : Shared σ}
    (h : (pool.add offer.key offer.config offer.seen shared).answer = false) :
    (pool.add offer.key offer.config offer.seen shared).events.filterMap LogEvent.fault? = [] := by
  by_cases hout : pool.OutrankedAt offer.key offer.seen.nominator
  · obtain ⟨held, hget, hlt⟩ := hout
    obtain ⟨-, -, -, hevents⟩ := add_of_outranked hget hlt shared
    rw [hevents]
    rfl
  · obtain ⟨htaken, -⟩ := add_of_not_outranked (not_outrankedAt.mp hout) shared
    exact absurd (h.symm.trans htaken) (by simp)

/-- What runs into no fault is carried out, and an empty answer to it comes without the
report of a fault. -/
theorem apply_of_fault?_eq_none {command : Command η} (hfault : command.fault? = none)
    (pool : Pool σ η) (shared : Shared σ) :
    let outcome := pool.apply shared command
    (∃ answer, outcome.answer = .ok answer) ∧
      (outcome.answer = .ok command.nothing →
        outcome.events.filterMap LogEvent.fault? = []) := by
  cases command.kind with
  | faults f h => exact absurd (hfault.symm.trans h) (by simp)
  | offers offer hoffer =>
    rw [apply_of_offer hoffer, Command.nothing_eq_of_offer hoffer]
    exact ⟨⟨_, rfl⟩,
      fun h => faults_add_of_answer_eq_false (Answer.added.inj (Except.ok.inj h))⟩
  | unsets id => exact ⟨⟨_, rfl⟩, fun _ => rfl⟩
  | sets id text bssid hparse =>
    simp only [apply, setCurrent, hparse]
    exact ⟨⟨_, rfl⟩, fun _ => rfl⟩
  | modes picky => exact ⟨⟨_, rfl⟩, fun _ => rfl⟩
  | resolves scan config? key hkey =>
    simp only [apply, resolve, hkey]
    exact ⟨⟨_, rfl⟩, fun _ => rfl⟩
  | removes r => exact ⟨⟨_, rfl⟩, fun _ => rfl⟩
  | renews estimate =>
    refine ⟨⟨_, rfl⟩, fun _ => ?_⟩
    show (List.map _ pool.groups).filterMap LogEvent.fault? = []
    rw [List.filterMap_map]
    exact List.filterMap_eq_nil_iff.mpr fun _ _ => rfl
  | clears => exact ⟨⟨_, rfl⟩, fun _ => rfl⟩

end Pool

/-! ## Two worlds -/

section worlds

variable [BssidHandle η σ]

/-- The command runs into this fault: the fault is the last one in the ledger and is counted
there, and it is what is reported, once. -/
structure Moment.Records (m : Moment σ η) (f : Fault) : Prop where
  notes : m.pool.ledger.Notes f m.outcome.pool.ledger
  faults_eq : m.outcome.events.filterMap LogEvent.fault? = [f]

/-- The same command in two worlds that agree on everything but the mode. -/
structure Moment.Lockstep (strict lenient : Moment σ η) : Prop where
  command_eq : strict.command = lenient.command
  byKey_eq : strict.outcome.pool.byKey = lenient.outcome.pool.byKey
  byMld_eq : strict.outcome.pool.byMld = lenient.outcome.pool.byMld
  currentNetwork_eq : strict.outcome.pool.currentNetwork = lenient.outcome.pool.currentNetwork
  currentBssid_eq : strict.outcome.pool.currentBssid = lenient.outcome.pool.currentBssid
  count_eq : strict.outcome.pool.ledger.count = lenient.outcome.pool.ledger.count
  last_eq : strict.outcome.pool.ledger.last = lenient.outcome.pool.ledger.last
  /-- The score cards, being functions of the history, go on answering alike. -/
  shared_eq : strict.outcome.shared = lenient.outcome.shared
  /-- The strict pool hands back the faults for which the lenient one gives empty answers. -/
  answer_eq_error_iff : ∀ f, strict.outcome.answer = .error f ↔
    lenient.Records f ∧ lenient.outcome.answer = .ok lenient.command.nothing
  /-- All other answers are equal. -/
  answer_eq_of_ok : ∀ answer, strict.outcome.answer = .ok answer →
    lenient.outcome.answer = .ok answer

/-- Two courses in worlds that agree on everything but the mode. -/
structure Course.Lockstep (strict lenient : Course σ η) : Prop where
  past : List.Forall₂ Moment.Lockstep strict.past lenient.past
  strict_eq : strict.pool = lenient.pool.setPicky true
  lenient_eq : lenient.pool = strict.pool.setPicky false
  shared_eq : strict.shared = lenient.shared

/-- What the two pools answer. -/
theorem Moment.answers_of_setPicky (pool : Pool σ η) (shared : Shared σ) {command : Command η}
    (hmode : ∀ picky, command ≠ .setPicky picky) :
    let strict : Moment σ η := ⟨pool.setPicky true, shared, command⟩
    let lenient : Moment σ η := ⟨pool.setPicky false, shared, command⟩
    (∀ f, strict.outcome.answer = .error f ↔
      lenient.Records f ∧ lenient.outcome.answer = .ok command.nothing) ∧
    ∀ answer, strict.outcome.answer = .ok answer → lenient.outcome.answer = .ok answer := by
  intro strict lenient
  cases hfault : command.fault? with
  | none =>
    have hstrict : strict.outcome.answer = lenient.outcome.answer := by
      show ((pool.setPicky true).apply shared command).answer =
        ((pool.setPicky false).apply shared command).answer
      rw [Pool.apply_setPicky_of_fault?_eq_none hfault hmode,
        Pool.apply_setPicky_of_fault?_eq_none hfault hmode]
      rfl
    obtain ⟨⟨answer, hanswer⟩, hquiet⟩ :=
      Pool.apply_of_fault?_eq_none hfault (pool.setPicky false) shared
    refine ⟨fun f => ⟨fun h => ?_, fun ⟨hrecords, hnothing⟩ => ?_⟩, fun _ h => hstrict ▸ h⟩
    · rw [hstrict] at h
      exact absurd (h.symm.trans hanswer) (by simp)
    · exact absurd (hrecords.faults_eq.symm.trans (hquiet hnothing)) (by simp)
  | some f =>
    obtain ⟨hstrict, -⟩ := Pool.apply_of_fault hfault (pool.setPicky true) shared
    obtain ⟨hlenient, hpool, -, hfaults⟩ :=
      Pool.apply_of_fault hfault (pool.setPicky false) shared
    have herror : strict.outcome.answer = .error f := hstrict
    refine ⟨fun f' => ⟨fun h => ?_, fun ⟨hrecords, _⟩ => ?_⟩, fun answer h => ?_⟩
    · rw [← Except.error.inj (herror.symm.trans h)]
      have hledger : lenient.outcome.pool.ledger = lenient.pool.ledger.record f :=
        congrArg Pool.ledger hpool
      have hnotes : lenient.pool.ledger.Notes f lenient.outcome.pool.ledger := by
        rw [hledger]
        exact lenient.pool.ledger.notes_record f
      exact ⟨⟨hnotes, hfaults⟩, hlenient⟩
    · have hsame : [f] = [f'] := hfaults.symm.trans hrecords.faults_eq
      rw [herror, List.head_eq_of_cons_eq hsame]
    · exact absurd (herror.symm.trans h) (by simp)

/-- **One moment in both modes.** -/
theorem Moment.lockstep_of_setPicky (pool : Pool σ η) (shared : Shared σ) {command : Command η}
    (hmode : ∀ picky, command ≠ .setPicky picky) :
    Moment.Lockstep ⟨pool.setPicky true, shared, command⟩
      ⟨pool.setPicky false, shared, command⟩ := by
  obtain ⟨hstrict, hshared⟩ := Pool.apply_setPicky hmode true pool shared
  obtain ⟨hlenient, hshared'⟩ := Pool.apply_setPicky hmode false pool shared
  have hpool : (Moment.mk (pool.setPicky true) shared command).outcome.pool =
      (Moment.mk (pool.setPicky false) shared command).outcome.pool.setPicky true := by
    rw [outcome, outcome, hstrict, hlenient, Pool.setPicky_setPicky]
  obtain ⟨herror, hok⟩ := Moment.answers_of_setPicky pool shared hmode
  exact
    { command_eq := rfl
      byKey_eq := by rw [hpool]; rfl
      byMld_eq := by rw [hpool]; rfl
      currentNetwork_eq := by rw [hpool]; rfl
      currentBssid_eq := by rw [hpool]; rfl
      count_eq := by rw [hpool]; rfl
      last_eq := by rw [hpool]; rfl
      shared_eq := hshared.trans hshared'.symm
      answer_eq_error_iff := herror
      answer_eq_of_ok := hok }

/-! ## The course in two worlds -/

/-- One more thing happens in both worlds. -/
theorem Course.Lockstep.step {strict lenient : Course σ η} (h : strict.Lockstep lenient)
    {happening : Happening σ η} (hmode : ∀ picky, happening ≠ .command (.setPicky picky)) :
    (strict.step happening).Lockstep (lenient.step happening) := by
  obtain ⟨past, pool', shared⟩ := strict
  obtain ⟨past', pool, shared'⟩ := lenient
  obtain ⟨hpast, hstrict, hlenient, hshared⟩ := h
  -- both pools are now one pool in two modes, the lenient one being that pool itself
  obtain rfl : pool' = pool.setPicky true := hstrict
  obtain rfl : shared = shared' := hshared
  have hmodes : pool = pool.setPicky false := hlenient
  cases happening with
  | command command =>
    have hcommand : ∀ picky, command ≠ .setPicky picky :=
      fun picky he => hmode picky (congrArg Happening.command he)
    have hnow : Moment.Lockstep ⟨pool.setPicky true, shared, command⟩
        ⟨pool, shared, command⟩ := by
      have := Moment.lockstep_of_setPicky pool shared hcommand
      rwa [← hmodes] at this
    obtain ⟨hafter, -⟩ := Pool.apply_setPicky hcommand true pool shared
    obtain ⟨hafter', -⟩ := Pool.apply_setPicky hcommand false pool shared
    rw [← hmodes] at hafter'
    refine ⟨List.rel_append hpast (.cons hnow .nil), hafter, ?_, hnow.shared_eq⟩
    show (pool.apply shared command).pool =
      ((pool.setPicky true).apply shared command).pool.setPicky false
    rw [hafter, Pool.setPicky_setPicky, ← hafter']
  | elsewhere history serials => exact ⟨hpast, rfl, hlenient, rfl⟩

/-- Whatever happens goes on in lockstep, as long as nobody changes a mode. -/
theorem Course.Lockstep.run {strict lenient : Course σ η} (h : strict.Lockstep lenient)
    {happenings : List (Happening σ η)}
    (hmode : ∀ picky, .command (.setPicky picky) ∉ happenings) :
    (strict.run happenings).Lockstep (lenient.run happenings) := by
  induction happenings generalizing strict lenient with
  | nil => exact h
  | cons happening rest ih =>
    have hhead : ∀ picky, happening ≠ .command (.setPicky picky) :=
      fun picky he => hmode picky (List.mem_cons.mpr (Or.inl he.symm))
    have hrest : ∀ picky, .command (.setPicky picky) ∉ rest :=
      fun picky hmem => hmode picky (List.mem_cons_of_mem _ hmem)
    exact ih (h.step hhead) hrest

/-- **Picky mode changes answers, never state.**  A pool runs the same course in both modes:
at every moment the strict pool hands back just the faults that the lenient one records and
answers emptily, all other answers are equal, and nothing that the pools hold or share is
different after it. -/
theorem Course.lockstep_run_setPicky (pool : Pool σ η) (shared : Shared σ)
    (happenings : List (Happening σ η))
    (hmode : ∀ picky, .command (.setPicky picky) ∉ happenings) :
    Course.Lockstep ((Course.start (pool.setPicky true) shared).run happenings)
      ((Course.start (pool.setPicky false) shared).run happenings) := by
  have hstart : Course.Lockstep (Course.start (pool.setPicky true) shared)
      (Course.start (pool.setPicky false) shared) := ⟨.nil, rfl, rfl, rfl⟩
  exact hstart.run hmode

end worlds

/-- A pool in both modes that is told a current BSSID that is no address and is given a scan
result of another network's configuration, before a candidate comes and goes. -/
theorem Course.lockstep_run_setPicky_two_faults :
    let scan := Scenario.scan ⟨"home"⟩ 7 (-50)
    let config := Scenario.config ⟨3⟩ ⟨"home"⟩
    let other := Scenario.config ⟨4⟩ ⟨"office"⟩
    let key : Key := .ofIdentity ⟨⟨"home"⟩, .psk⟩ (Scenario.radio 7) ⟨3⟩
    let made : Record Handle :=
      { serial := 0
        candidate := .make key config (Observation.ofScan scan .saved) none ⟨false, false⟩ 50 }
    let happenings : List (Happening History Handle) :=
      [.command (.setCurrent ⟨3⟩ (some "nowhere")), .command (.addScan scan (some other) {}),
        .command (.addScan scan (some config) {}), .command (.remove made)]
    let pool : Pool History Handle := .empty History.card .lenient
    let strict := (Course.start (pool.setPicky true) { history := {} }).run happenings
    let lenient := (Course.start (pool.setPicky false) { history := {} }).run happenings
    let unreadable : Fault := .invalidCurrentBssid "nowhere" (.wrongOctetCount 1)
    let mismatch : Fault := .identityMismatch ⟨"home"⟩ ⟨"office"⟩
    (∀ picky, .command (.setPicky picky) ∉ happenings) ∧
      strict.past.map (·.outcome.answer) =
        [.error unreadable, .error mismatch, .ok (.added true), .ok (.removed true)] ∧
      lenient.past.map (·.outcome.answer) =
        [.ok .done, .ok (.added false), .ok (.added true), .ok (.removed true)] ∧
      strict.pool.ledger = { picky := true, last := some mismatch, count := 2 } ∧
      lenient.pool.ledger = { picky := false, last := some mismatch, count := 2 } ∧
      strict.Lockstep lenient := by
  intro scan config other key made happenings pool strict lenient unreadable mismatch
  have hmode : ∀ picky, .command (.setPicky picky) ∉ happenings := by
    simp [happenings]
  exact ⟨hmode, by decide, by decide, by decide, by decide,
    Course.lockstep_run_setPicky pool _ happenings hmode⟩

end NetworkSelection
