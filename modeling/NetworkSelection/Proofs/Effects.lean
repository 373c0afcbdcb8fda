import NetworkSelection.Pool.Course
import NetworkSelection.Pool.Lemmas

/-!
# What a command can do to the records

Of all that a command may bring, only four things concern the records of a pool: a
record takes a place, a record is taken away, all links of multi-link access points are
renewed, or an offer is turned down because of its nominator, which leaves everything as
it was.  Whatever else a command does leaves the records alone.  `Moment.effect` says
this once, with what was asked and answered in each case, and every statement about the
records in the course of a pool is proved from it.

* `Command.offer?`: the candidate that a command offers, directly or through a scan
  result that has a key.
* `Command.kind`: how a command may come out, as far as this can be told without the pool.
* `Pool.OutrankedAt`: a higher priority holds a place; `Pool.apply_of_outrankedAt`,
  `Pool.apply_of_not_outrankedAt`: the two ways an offer can go.
* `Moment.entered?`, `Moment.left?`: whose place was taken or given up, by what was asked
  and answered.
* `Moment.effect`: the five cases.
* `Moment.standsAs`, `Moment.history_eq`: what a command does beside that, to the current
  connection and to the history.
-/

namespace NetworkSelection

variable {σ η : Type}

/-- A candidate that is offered to a pool under a key. -/
structure Offer where
  key : Key
  config : NetworkConfig
  seen : Observation

/-- The offer that a scan result amounts to, under the key that it resolves to. -/
def Offer.ofScan? (scan : ScanResult) (config? : Option NetworkConfig)
    (nomination : Pool.Nomination) : Option Offer :=
  match Key.resolve scan config?, config? with
  | .ok key, some config => some ⟨key, config, nomination.observation scan⟩
  | _, _ => none

/-- A scan result is no offer just when its key does not resolve. -/
theorem Offer.ofScan?_eq_none_iff {scan : ScanResult} {config? : Option NetworkConfig}
    {nomination : Pool.Nomination} :
    Offer.ofScan? scan config? nomination = none ↔ ∃ f, Key.resolve scan config? = .error f := by
  cases config? with
  | none => simp [ofScan?]
  | some config => cases h : Key.resolve scan (some config) <;> simp [ofScan?, h]

/-- A scan result is offered under the key that it resolves to, and under the configuration
that came with it. -/
theorem Offer.of_ofScan? {scan : ScanResult} {config? : Option NetworkConfig}
    {nomination : Pool.Nomination} {offer : Offer}
    (h : Offer.ofScan? scan config? nomination = some offer) :
    Key.resolve scan config? = .ok offer.key ∧ config? = some offer.config ∧
      offer.seen = nomination.observation scan := by
  cases config? with
  | none => exact absurd h (by simp [ofScan?])
  | some config =>
    cases hkey : Key.resolve scan (some config) with
    | error f => exact absurd h (by simp [ofScan?, hkey])
    | ok key =>
      simp only [ofScan?, hkey, Option.some.injEq] at h
      rw [← h]
      exact ⟨rfl, rfl, rfl⟩

/-- The offer that a command comes down to, if it offers a candidate. -/
def Command.offer? : Command η → Option Offer
  | .add key config seen => some ⟨key, config, seen⟩
  | .addScan scan config? nomination => Offer.ofScan? scan config? nomination
  | _ => none

/-- The fault that a command runs into, if it does: a current BSSID that is no address, or
a scan result whose key does not resolve.  Whether it does has nothing to do with the pool
that it is given to. -/
def Command.fault? : Command η → Option Fault
  | .setCurrent _ (some text) =>
    match MacAddress.parse text with
    | .error reason => some (.invalidCurrentBssid text reason)
    | .ok _ => none
  | .resolve scan config? | .addScan scan config? _ =>
    match Key.resolve scan config? with
    | .error f => some f
    | .ok _ => none
  | _ => none

/-- The empty answer to a command: what a lenient pool says when it runs into a fault. -/
def Command.nothing : Command η → Answer
  | .resolve .. => .key none
  | .addScan .. | .add .. => .added false
  | .remove _ => .removed false
  | .updateMultiLink _ => .updated 0
  | _ => .done

/-- The current connection of a pool: its configuration and its BSSID. -/
def Pool.current (pool : Pool σ η) : NetworkId × Option MacAddress :=
  (pool.currentNetwork, pool.currentBssid)

/-- What the current connection is after a command, if it was `now` before.  A BSSID that is
no address does not count. -/
def Command.current (now : NetworkId × Option MacAddress) :
    Command η → NetworkId × Option MacAddress
  | .setCurrent id bssid? => (id, bssid?.bind fun text => (MacAddress.parse text).toOption)
  | _ => now

/-- An offer says nothing about the current connection. -/
theorem Command.current_of_offer {command : Command η} {offer : Offer}
    (h : command.offer? = some offer) (now : NetworkId × Option MacAddress) :
    command.current now = now := by
  cases command with
  | setCurrent id bssid? => exact absurd h (by simp [offer?])
  | _ => rfl

/-- What offers a candidate runs into no fault. -/
theorem Command.fault?_eq_none_of_offer {command : Command η} {offer : Offer}
    (h : command.offer? = some offer) : command.fault? = none := by
  cases command with
  | addScan scan config? nomination =>
    cases hkey : Key.resolve scan config? with
    | ok key => simp only [fault?, hkey]
    | error f =>
      have hnone : Offer.ofScan? scan config? nomination = none :=
        Offer.ofScan?_eq_none_iff.mpr ⟨f, hkey⟩
      exact absurd (hnone.symm.trans h) (by simp)
  | setCurrent id bssid? => exact absurd h (by simp [offer?])
  | resolve scan config? => exact absurd h (by simp [offer?])
  | _ => rfl

/-- The empty answer to an offer is that it is not taken. -/
theorem Command.nothing_eq_of_offer {command : Command η} {offer : Offer}
    (h : command.offer? = some offer) : command.nothing = .added false := by
  cases command with
  | add key config seen => rfl
  | addScan scan config? nomination => rfl
  | _ => exact absurd h (by simp [offer?])

/-- How a command may come out, as far as this can be told without the pool: it runs into a
fault, it offers a candidate, or it asks for one of the other things and what it needs for
that is in order. -/
inductive Command.Kind : Command η → Prop where
  | faults {command : Command η} (f : Fault) (hfault : command.fault? = some f) : Kind command
  | offers {command : Command η} (offer : Offer) (hoffer : command.offer? = some offer) :
      Kind command
  | unsets (id : NetworkId) : Kind (.setCurrent id none)
  | sets (id : NetworkId) (text : String) (bssid : MacAddress)
      (hparse : MacAddress.parse text = .ok bssid) : Kind (.setCurrent id (some text))
  | modes (picky : Bool) : Kind (.setPicky picky)
  | resolves (scan : ScanResult) (config? : Option NetworkConfig) (key : Key)
      (hkey : Key.resolve scan config? = .ok key) : Kind (.resolve scan config?)
  | removes (r : Record η) : Kind (.remove r)
  | renews (estimate : List (Candidate η) → UInt32) : Kind (.updateMultiLink estimate)
  | clears : Kind .clearFaults

theorem Command.kind (command : Command η) : command.Kind := by
  cases hfault : command.fault? with
  | some f => exact .faults f hfault
  | none =>
    cases command with
    | setCurrent id bssid? =>
      cases bssid? with
      | none => exact .unsets id
      | some text =>
        cases hparse : MacAddress.parse text with
        | ok bssid => exact .sets id text bssid hparse
        | error reason => exact absurd hfault (by simp [fault?, hparse])
    | resolve scan config? =>
      cases hkey : Key.resolve scan config? with
      | ok key => exact .resolves scan config? key hkey
      | error f => exact absurd hfault (by simp [fault?, hkey])
    | addScan scan config? nomination =>
      cases hoffer : Offer.ofScan? scan config? nomination with
      | some offer => exact .offers offer hoffer
      | none =>
        obtain ⟨f, hkey⟩ := Offer.ofScan?_eq_none_iff.mp hoffer
        exact absurd hfault (by simp [fault?, hkey])
    | add key config seen => exact .offers ⟨key, config, seen⟩ rfl
    | setPicky picky => exact .modes picky
    | remove r => exact .removes r
    | updateMultiLink estimate => exact .renews estimate
    | clearFaults => exact .clears

/-- The fault that an event reports, if it reports one. -/
def LogEvent.fault? : LogEvent → Option Fault
  | .faultRecorded _ _ f => some f
  | _ => none

namespace Pool

/-- A strictly higher priority than this nominator's holds a place. -/
def OutrankedAt (pool : Pool σ η) (key : Key) (nominator : Nominator) : Prop :=
  ∃ held, pool.get? key = some held ∧ held.candidate.nominator.rank < nominator.rank

/-- Unless a higher priority holds a place, no holder of it has one. -/
theorem not_outrankedAt {pool : Pool σ η} {key : Key} {nominator : Nominator} :
    ¬ pool.OutrankedAt key nominator ↔
      ∀ held, pool.get? key = some held → nominator.rank ≤ held.candidate.nominator.rank := by
  constructor
  · intro h held hget
    exact UInt8.not_lt.mp fun hlt => h ⟨held, hget, hlt⟩
  · rintro h ⟨held, hget, hlt⟩
    exact UInt8.not_lt.mpr (h held hget) hlt

variable [BssidHandle η σ]

/-- The record that is made for an offer. -/
def entrantOf (offer : Offer) (pool : Pool σ η) (shared : Shared σ) : Record η :=
  pool.entrant offer.key offer.config offer.seen shared

/-! ## How an offer can go -/

/-- The handle is the one that the score card gives out. -/
theorem handle_attach (pool : Pool σ η) (key : Key) (config : NetworkConfig) (history : σ) :
    (pool.attach key config history).handle =
      (pool.card.lookup key.accessPoint history).handle := by
  unfold attach
  cases h : (pool.card.lookup key.accessPoint history).handle <;> simp only [h]

@[simp] theorem key_entrantOf (offer : Offer) (pool : Pool σ η) (shared : Shared σ) :
    (pool.entrantOf offer shared).key = offer.key := rfl

@[simp] theorem serial_entrantOf (offer : Offer) (pool : Pool σ η) (shared : Shared σ) :
    (pool.entrantOf offer shared).serial = shared.nextSerial := rfl

/-- An offer is turned down if a higher priority holds its place, and then nothing
changes and nothing else is reported. -/
theorem add_of_outranked {pool : Pool σ η} {offer : Offer} {held : Record η}
    (hget : pool.get? offer.key = some held)
    (hrank : held.candidate.nominator.rank < offer.seen.nominator.rank) (shared : Shared σ) :
    let outcome := pool.add offer.key offer.config offer.seen shared
    outcome.answer = false ∧ outcome.pool = pool ∧ outcome.shared = shared ∧
      outcome.events =
        [.nominatorRejected offer.key offer.seen.nominator held.candidate.nominator] := by
  have hout : offer.seen.nominator.outrankedBy held.candidate.nominator = true :=
    decide_eq_true hrank
  simp only [add, hget, hout, if_true, and_self]

/-- Otherwise a new record takes its place, whoever holds it. -/
theorem add_of_not_outranked {pool : Pool σ η} {offer : Offer}
    (hrank : ∀ held, pool.get? offer.key = some held →
      offer.seen.nominator.rank ≤ held.candidate.nominator.rank) (shared : Shared σ) :
    let outcome := pool.add offer.key offer.config offer.seen shared
    outcome.answer = true ∧ outcome.pool = pool.supplant (pool.entrantOf offer shared) ∧
      outcome.shared =
        { history := (pool.attach offer.key offer.config shared.history).history
          nextSerial := shared.nextSerial + 1 } := by
  cases hget : pool.get? offer.key with
  | none =>
    simp only [add, supplant, key_entrantOf, hget]
    exact ⟨rfl, rfl, rfl⟩
  | some held =>
    have hout : offer.seen.nominator.outrankedBy held.candidate.nominator = false :=
      decide_eq_false (UInt8.not_lt.mpr (hrank held hget))
    simp only [add, supplant, key_entrantOf, hget, hout]
    exact ⟨rfl, rfl, rfl⟩

/-! ## How a command goes -/

/-- Nominating a scan result is offering a candidate under its key. -/
theorem addScan_of_ofScan? {scan : ScanResult} {config? : Option NetworkConfig}
    {nomination : Nomination} {offer : Offer}
    (h : Offer.ofScan? scan config? nomination = some offer) (pool : Pool σ η)
    (shared : Shared σ) :
    let outcome := pool.add offer.key offer.config offer.seen shared
    pool.addScan scan config? nomination shared =
      { outcome with answer := .ok outcome.answer } := by
  obtain ⟨hkey, rfl, hseen⟩ := Offer.of_ofScan? h
  simp only [addScan, hkey, hseen]

/-- A command that offers a candidate does what the offer does. -/
theorem apply_of_offer {command : Command η} {offer : Offer}
    (h : command.offer? = some offer) (pool : Pool σ η) (shared : Shared σ) :
    let outcome := pool.add offer.key offer.config offer.seen shared
    pool.apply shared command = { outcome with answer := .ok (.added outcome.answer) } := by
  cases command with
  | add key config seen =>
    rw [← Option.some.inj h]
    rfl
  | addScan scan config? nomination =>
    simp only [apply, addScan_of_ofScan? h]
    rfl
  | _ => exact absurd h (by simp [Command.offer?])

/-- An offer is turned down if a higher priority holds its place, and leaves no trace. -/
theorem apply_of_outrankedAt {command : Command η} {offer : Offer}
    (hoffer : command.offer? = some offer) {pool : Pool σ η}
    (h : pool.OutrankedAt offer.key offer.seen.nominator) (shared : Shared σ) :
    let outcome := pool.apply shared command
    outcome.answer = .ok (.added false) ∧ outcome.pool = pool ∧ outcome.shared = shared := by
  obtain ⟨held, hget, hlt⟩ := h
  obtain ⟨hanswer, hpool, hshared, -⟩ := add_of_outranked hget hlt shared
  rw [apply_of_offer hoffer, hanswer]
  exact ⟨rfl, hpool, hshared⟩

/-- Otherwise it is taken, and noted in the history. -/
theorem apply_of_not_outrankedAt {command : Command η} {offer : Offer}
    (hoffer : command.offer? = some offer) {pool : Pool σ η}
    (h : ¬ pool.OutrankedAt offer.key offer.seen.nominator) (shared : Shared σ) :
    let outcome := pool.apply shared command
    outcome.answer = .ok (.added true) ∧
      outcome.pool = pool.supplant (pool.entrantOf offer shared) ∧
      outcome.shared =
        { history := (pool.attach offer.key offer.config shared.history).history
          nextSerial := shared.nextSerial + 1 } := by
  obtain ⟨hanswer, hpool, hshared⟩ := add_of_not_outranked (not_outrankedAt.mp h) shared
  rw [apply_of_offer hoffer, hanswer]
  exact ⟨rfl, hpool, hshared⟩

/-- A command that runs into a fault records and reports it, and gives the empty answer or
hands the fault back.  It leaves everything else alone, but for the current connection. -/
theorem apply_of_fault {command : Command η} {f : Fault} (h : command.fault? = some f)
    (pool : Pool σ η) (shared : Shared σ) :
    let outcome := pool.apply shared command
    outcome.answer = pool.ledger.answer f command.nothing ∧
      outcome.pool =
        { pool with
          currentNetwork := (command.current pool.current).1
          currentBssid := (command.current pool.current).2
          ledger := pool.ledger.record f } ∧
      outcome.shared = shared ∧ outcome.events.filterMap LogEvent.fault? = [f] := by
  cases command with
  | setCurrent id bssid? =>
    cases bssid? with
    | none => exact absurd h (by simp [Command.fault?])
    | some text =>
      simp only [Command.fault?] at h
      split at h
      · next reason hparse =>
        rw [← Option.some.inj h]
        simp only [apply, setCurrent, Command.current, Option.bind_some, hparse]
        exact ⟨Ledger.map_answer .., rfl, rfl, rfl⟩
      · exact absurd h (by simp)
  | resolve scan config? =>
    simp only [Command.fault?] at h
    split at h
    · next f' hkey =>
      rw [← Option.some.inj h]
      simp only [apply, resolve, hkey]
      exact ⟨Ledger.map_answer .., rfl, rfl, rfl⟩
    · exact absurd h (by simp)
  | addScan scan config? nomination =>
    simp only [Command.fault?] at h
    split at h
    · next f' hkey =>
      rw [← Option.some.inj h]
      simp only [apply, addScan, resolve, hkey]
      refine ⟨?_, rfl, trivial, rfl⟩
      exact (congrArg (Except.map Answer.added) (Ledger.map_answer ..)).trans
        (Ledger.map_answer ..)
    · exact absurd h (by simp)
  | _ => exact absurd h (by simp [Command.fault?])

end Pool

namespace Moment

variable [BssidHandle η σ]

/-- The key under which a candidate was taken in, if one was. -/
def entered? (m : Moment σ η) : Option Key :=
  if m.admitted then m.command.offer?.map (·.key) else none

/-- The key of the record that was taken away at the caller's request, if one was. -/
def left? (m : Moment σ η) : Option Key :=
  match m.command with
  | .remove r => if m.removed then some r.key else none
  | _ => none

theorem entered?_of_not_admitted {m : Moment σ η} (h : m.admitted = false) :
    m.entered? = none := by
  simp only [entered?, h, Bool.false_eq_true, if_false]

theorem entered?_of_admitted {m : Moment σ η} {offer : Offer}
    (hoffer : m.command.offer? = some offer) (h : m.admitted = true) :
    m.entered? = some offer.key := by
  simp only [entered?, h, if_true, hoffer, Option.map_some]

theorem left?_of_not_removed {m : Moment σ η} (h : m.removed = false) : m.left? = none := by
  unfold left?
  split
  · rw [h]
    rfl
  · rfl

theorem left?_of_removed {m : Moment σ η} {r : Record η} (hcommand : m.command = .remove r)
    (h : m.removed = true) : m.left? = some r.key := by
  simp only [left?, hcommand, h, if_true]

/-- The five things that a command can do to the records of a pool. -/
inductive Effect (m : Moment σ η) : Prop where
  /-- The command offers no candidate and takes nothing away. -/
  | idle (hoffer : m.command.offer? = none) (hadmitted : m.admitted = false)
      (hremoved : m.removed = false) (hkey : m.outcome.pool.byKey = m.pool.byKey)
      (hmld : m.outcome.pool.byMld = m.pool.byMld) (hshared : m.outcome.shared = m.shared)
  /-- The offer is turned down, because a higher priority holds its place. -/
  | rejects (offer : Offer) (held : Record η) (hoffer : m.command.offer? = some offer)
      (hadmitted : m.admitted = false) (hremoved : m.removed = false)
      (hget : m.pool.get? offer.key = some held)
      (hrank : held.candidate.nominator.rank < offer.seen.nominator.rank)
      (hpool : m.outcome.pool = m.pool) (hshared : m.outcome.shared = m.shared)
  /-- A new record takes the place of the offer. -/
  | enters (offer : Offer) (hoffer : m.command.offer? = some offer)
      (hadmitted : m.admitted = true) (hremoved : m.removed = false)
      (hrank : ∀ held, m.pool.get? offer.key = some held →
        offer.seen.nominator.rank ≤ held.candidate.nominator.rank)
      (hpool : m.outcome.pool = m.pool.supplant (m.pool.entrantOf offer m.shared))
      (hserial : m.outcome.shared.nextSerial = m.shared.nextSerial + 1)
      (hhistory : m.outcome.shared.history =
        (m.pool.attach offer.key offer.config m.shared.history).history)
  /-- The record in place is taken away. -/
  | leaves (r held : Record η) (hcommand : m.command = .remove r)
      (hadmitted : m.admitted = false) (hremoved : m.removed = true)
      (hget : m.pool.get? r.key = some held) (hserial : held.serial = r.serial)
      (hpool : m.outcome.pool = m.pool.drop held) (hshared : m.outcome.shared = m.shared)
  /-- The links of multi-link access points are renewed. -/
  | renews (estimate : List (Candidate η) → UInt32)
      (hcommand : m.command = .updateMultiLink estimate) (hadmitted : m.admitted = false)
      (hremoved : m.removed = false)
      (hpool : m.outcome.pool = (m.pool.updateMultiLink estimate m.shared).pool)
      (hshared : m.outcome.shared = (m.pool.updateMultiLink estimate m.shared).shared)

theorem admitted_of_answer {m : Moment σ η} {taken : Bool}
    (h : m.outcome.answer = .ok (.added taken)) : m.admitted = taken ∧ m.removed = false := by
  simp only [admitted, removed, h, and_self]

theorem removed_of_answer {m : Moment σ η} {found : Bool}
    (h : m.outcome.answer = .ok (.removed found)) : m.admitted = false ∧ m.removed = found := by
  simp only [admitted, removed, h, and_self]

/-- An offer is turned down or takes its place. -/
theorem effect_of_offer {m : Moment σ η} {offer : Offer}
    (hoffer : m.command.offer? = some offer) : m.Effect := by
  by_cases h : m.pool.OutrankedAt offer.key offer.seen.nominator
  · obtain ⟨hanswer, hpool, hshared⟩ := Pool.apply_of_outrankedAt hoffer h m.shared
    obtain ⟨hadm, hrem⟩ := admitted_of_answer hanswer
    obtain ⟨held, hget, hlt⟩ := h
    exact .rejects offer held hoffer hadm hrem hget hlt hpool hshared
  · obtain ⟨hanswer, hpool, hshared⟩ := Pool.apply_of_not_outrankedAt hoffer h m.shared
    obtain ⟨hadm, hrem⟩ := admitted_of_answer hanswer
    exact .enters offer hoffer hadm hrem (Pool.not_outrankedAt.mp h) hpool
      (congrArg Shared.nextSerial hshared) (congrArg Shared.history hshared)

/-- A record is taken away if it is in its place; otherwise nothing happens. -/
theorem effect_of_remove {m : Moment σ η} {r : Record η} (hcommand : m.command = .remove r) :
    m.Effect := by
  have hout : m.outcome =
      { answer := .ok (.removed (m.pool.remove r).1), pool := (m.pool.remove r).2,
        shared := m.shared } := by
    rw [outcome, hcommand]
    rfl
  obtain ⟨hadm, hrem⟩ := removed_of_answer (congrArg Outcome.answer hout)
  cases hholds : m.pool.holds r with
  | true =>
    obtain ⟨held, hget, hserial⟩ := Pool.holds_iff.mp hholds
    have hremove : m.pool.remove r = (true, m.pool.drop held) := Pool.remove_of_get? hget hserial
    rw [hremove] at hout hrem
    exact .leaves r held hcommand hadm hrem hget hserial (by rw [hout]) (by rw [hout])
  | false =>
    have hremove : m.pool.remove r = (false, m.pool) := Pool.remove_of_not_holds hholds
    rw [hremove] at hout hrem
    have hoffer : m.command.offer? = none := by rw [hcommand]; rfl
    exact .idle hoffer hadm hrem (by rw [hout]) (by rw [hout]) (by rw [hout])

/-- A fault leaves the records alone. -/
theorem effect_of_fault {m : Moment σ η} {f : Fault} (hfault : m.command.fault? = some f) :
    m.Effect := by
  obtain ⟨hanswer, hpool, hshared, -⟩ := Pool.apply_of_fault hfault m.pool m.shared
  have hoffer : m.command.offer? = none := by
    cases h : m.command.offer? with
    | none => rfl
    | some offer =>
      rw [Command.fault?_eq_none_of_offer h] at hfault
      exact absurd hfault (by simp)
  have hanswer : m.outcome.answer = .error f ∨ m.outcome.answer = .ok m.command.nothing := by
    unfold outcome
    rw [hanswer, Ledger.answer]
    split
    · exact Or.inl rfl
    · exact Or.inr rfl
  have hquiet : m.admitted = false ∧ m.removed = false := by
    unfold admitted removed
    rcases hanswer with h | h <;> rw [h]
    · exact ⟨rfl, rfl⟩
    · cases m.command <;> exact ⟨rfl, rfl⟩
  exact .idle hoffer hquiet.1 hquiet.2 (by rw [outcome, hpool]) (by rw [outcome, hpool]) hshared

/-- **What a command does to the records of a pool.** -/
theorem effect (m : Moment σ η) : m.Effect := by
  obtain ⟨pool, shared, command⟩ := m
  cases command.kind with
  | faults f hfault => exact effect_of_fault hfault
  | offers offer hoffer => exact effect_of_offer hoffer
  | unsets id => exact .idle rfl rfl rfl rfl rfl rfl
  | sets id text bssid hparse =>
    refine .idle rfl ?_ ?_ ?_ ?_ ?_ <;>
      simp only [admitted, removed, outcome, Pool.apply, Pool.setCurrent, hparse] <;> rfl
  | modes picky => exact .idle rfl rfl rfl rfl rfl rfl
  | resolves scan config? key hkey =>
    refine .idle rfl ?_ ?_ ?_ ?_ ?_ <;>
      simp only [admitted, removed, outcome, Pool.apply, Pool.resolve, hkey] <;> rfl
  | removes r => exact effect_of_remove rfl
  | renews estimate => exact .renews estimate rfl rfl rfl rfl rfl
  | clears => exact .idle rfl rfl rfl rfl rfl rfl

end Moment

/-! ## What else a command can do

Beside the records, a command can change the mode of a pool, its ledger and what it takes for
the current connection; and a candidate that is taken in is noted in the history. -/

/-- A pool stands as another one does, save for its records, its mode and its ledger, when
this is the current connection. -/
structure Pool.StandsAs (pool : Pool σ η) (current : NetworkId × Option MacAddress)
    (pool' : Pool σ η) : Prop where
  card_eq : pool'.card = pool.card
  availability_eq : pool'.config.defaultAvailability = pool.config.defaultAvailability
  current_eq : pool'.current = current

theorem Pool.standsAs_supplant (r : Record η) (pool : Pool σ η) :
    pool.StandsAs pool.current (pool.supplant r) := by
  unfold supplant
  cases pool.get? r.key <;> exact ⟨rfl, rfl, rfl⟩

namespace Moment

variable [BssidHandle η σ]

theorem standsAs_of_offer {m : Moment σ η} {offer : Offer}
    (hoffer : m.command.offer? = some offer) :
    m.pool.StandsAs m.pool.current m.outcome.pool := by
  by_cases h : m.pool.OutrankedAt offer.key offer.seen.nominator
  · obtain ⟨-, hpool, -⟩ := Pool.apply_of_outrankedAt hoffer h m.shared
    rw [outcome, hpool]
    exact ⟨rfl, rfl, rfl⟩
  · obtain ⟨-, hpool, -⟩ := Pool.apply_of_not_outrankedAt hoffer h m.shared
    rw [outcome, hpool]
    exact Pool.standsAs_supplant _ _

/-- **What a command leaves alone.**  A pool keeps its card and its default availability, and
the current connection is what it was last said to be. -/
theorem standsAs (m : Moment σ η) :
    m.pool.StandsAs (m.command.current m.pool.current) m.outcome.pool := by
  obtain ⟨pool, shared, command⟩ := m
  unfold outcome
  cases command.kind with
  | faults f hfault =>
    obtain ⟨-, hpool, -⟩ := Pool.apply_of_fault hfault pool shared
    rw [hpool]
    exact ⟨rfl, rfl, rfl⟩
  | offers offer hoffer =>
    rw [Command.current_of_offer hoffer]
    exact standsAs_of_offer (m := ⟨pool, shared, command⟩) hoffer
  | unsets id => exact ⟨rfl, rfl, rfl⟩
  | sets id text bssid hparse =>
    simp only [Pool.apply, Pool.setCurrent, Command.current, Option.bind_some, hparse]
    exact ⟨rfl, rfl, rfl⟩
  | modes picky => exact ⟨rfl, rfl, rfl⟩
  | resolves scan config? key hkey =>
    simp only [Pool.apply, Pool.resolve, hkey]
    exact ⟨rfl, rfl, rfl⟩
  | removes r =>
    simp only [Pool.apply, Pool.remove]
    split
    · split <;> exact ⟨rfl, rfl, rfl⟩
    · exact ⟨rfl, rfl, rfl⟩
  | renews estimate => exact ⟨rfl, rfl, rfl⟩
  | clears => exact ⟨rfl, rfl, rfl⟩

/-- The offer that was taken, if one was. -/
def taken? (m : Moment σ η) : Option Offer :=
  if m.admitted then m.command.offer? else none

/-- Numbers are given out and never taken back. -/
theorem nextSerial_le (m : Moment σ η) : m.shared.nextSerial ≤ m.outcome.shared.nextSerial := by
  cases m.effect with
  | idle _ _ _ _ _ hshared => exact Nat.le_of_eq (by rw [hshared])
  | rejects _ _ _ _ _ _ _ _ hshared => exact Nat.le_of_eq (by rw [hshared])
  | enters _ _ _ _ _ _ hserial _ => exact hserial ▸ Nat.le_succ _
  | leaves _ _ _ _ _ _ _ _ hshared => exact Nat.le_of_eq (by rw [hshared])
  | renews _ _ _ _ _ hshared => exact hshared ▸ Nat.le_add_right _ _

/-- An offer that is taken takes its place. -/
theorem pool_of_taken? {m : Moment σ η} {offer : Offer} (h : m.taken? = some offer) :
    m.outcome.pool = m.pool.supplant (m.pool.entrantOf offer m.shared) := by
  obtain ⟨hadmitted, hoffer⟩ : m.admitted = true ∧ m.command.offer? = some offer := by
    simpa [taken?] using h
  by_cases houtranked : m.pool.OutrankedAt offer.key offer.seen.nominator
  · have hanswer := (Pool.apply_of_outrankedAt hoffer houtranked m.shared).1
    exact absurd (hadmitted.symm.trans (admitted_of_answer hanswer).1) (by simp)
  · exact (Pool.apply_of_not_outrankedAt hoffer houtranked m.shared).2.1

/-- The record that is made for it is then in this place. -/
theorem get?_of_taken? {m : Moment σ η} {offer : Offer} (h : m.taken? = some offer) :
    m.outcome.pool.get? offer.key = some (m.pool.entrantOf offer m.shared) := by
  rw [m.pool_of_taken? h]
  exact Pool.get?_supplant_self (m.pool.entrantOf offer m.shared) m.pool

/-- **What a command does to the history.**  An offer that is taken is noted in it; nothing
else is. -/
theorem history_eq (m : Moment σ η) :
    m.outcome.shared.history =
      match m.taken? with
      | some offer => (m.pool.attach offer.key offer.config m.shared.history).history
      | none => m.shared.history := by
  cases m.effect with
  | idle _ hadmitted _ _ _ hshared => simp only [taken?, hadmitted, hshared]; rfl
  | rejects _ _ _ hadmitted _ _ _ _ hshared => simp only [taken?, hadmitted, hshared]; rfl
  | enters offer hoffer hadmitted _ _ _ _ hhistory =>
    simp only [taken?, hadmitted, hoffer, hhistory, if_true]
  | leaves _ _ _ hadmitted _ _ _ _ hshared => simp only [taken?, hadmitted, hshared]; rfl
  | renews _ _ hadmitted _ _ hshared => simp only [taken?, hadmitted, hshared]; rfl

end Moment

end NetworkSelection
