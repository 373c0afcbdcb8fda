import NetworkSelection.Proofs.Provenance
import NetworkSelection.Proofs.Resolution

/-!
# What two traits of a candidate say

A candidate shows, among its traits, whether its network is the one that is connected to now and
whether it is joined without authentication.  Neither is asked of the connection itself.  The
first is told by comparing ids, the second by looking at all the ways in which the configuration
could be joined; and so both have to be read with care.

## The current network

A negative id says that there is no configuration.  It is compared like any other id, and so
before any connection was announced a configuration that bears the very id of the absent one
comes in as a candidate of the current network.  This is all that can go wrong: whoever is said
to belong to the current network while there is none bears no valid id itself.

## Open networks

A network counts as open if every enabled option is unauthenticated, while a connection uses the
option that was negotiated.  So a candidate that is said to be open is never reached with
authentication.  One that is said to be secure may be reached without it, but only if the
configuration has an authenticated option as well, which the access point did not advertise or
which is less preferred.

* `Course.currentNetwork_of_admitted`: who is said to belong to the current network while there
  is none.
* `Pool.isOpen_of_addScan`: what being open says of the connection.
-/

namespace NetworkSelection

variable {σ η : Type}

/-! ## The current network -/

section currentNetwork

variable [BssidHandle η σ]

/-- What is taken in was offered, and the record that is made for it is then in its place. -/
theorem Moment.exists_offer_of_admitted {m : Moment σ η} (h : m.admitted = true) :
    ∃ offer, m.command.offer? = some offer ∧
      m.outcome.pool.get? offer.key = some (m.pool.entrantOf offer m.shared) := by
  cases m.effect with
  | enters offer hoffer _ _ _ _ _ _ =>
    have htaken : m.taken? = some offer := by rw [taken?, if_pos h, hoffer]
    exact ⟨offer, hoffer, m.get?_of_taken? htaken⟩
  | idle _ hadmitted _ _ _ _ => exact absurd (h.symm.trans hadmitted) (by simp)
  | rejects _ _ _ hadmitted _ _ _ _ _ => exact absurd (h.symm.trans hadmitted) (by simp)
  | leaves _ _ _ hadmitted _ _ _ _ _ => exact absurd (h.symm.trans hadmitted) (by simp)
  | renews _ _ hadmitted _ _ _ => exact absurd (h.symm.trans hadmitted) (by simp)

/-- A candidate is made with the id of the current network at hand. -/
theorem Pool.currentNetwork_entrantOf (offer : Offer) (pool : Pool σ η) (shared : Shared σ) :
    (pool.entrantOf offer shared).candidate.currentNetwork = true ↔
      offer.config.id = pool.current.1 :=
  decide_eq_true_iff

omit [BssidHandle η σ] in
/-- Nothing is connected when a pool is opened. -/
theorem Pool.current_ofRecords (card : ScoreCard σ η) (config : PoolConfig)
    (seeds : List (Record η)) : (ofRecords card config seeds).current = (.invalid, none) :=
  ofRecords_induction (motive := fun pool => pool.current = (.invalid, none)) rfl
    (fun pool r h => (standsAs_supplant r pool).current_eq.trans h) seeds

/-- A pool knows at every moment what was last said about the current connection. -/
theorem Course.current_run {course : Course σ η} (hpast : course.past = [])
    (hstart : course.pool.current = (.invalid, none)) (happenings : List (Happening σ η)) :
    let course := course.run happenings
    course.pool.current = currentAfter course.past ∧
      ∀ before m later, course.past = before ++ m :: later →
        m.pool.current = currentAfter before := by
  refine Course.moments_induction (motive := fun past pool => pool.current = currentAfter past)
    (fun past m h => ?_) hpast hstart happenings
  rw [m.standsAs.current_eq, currentAfter, List.foldl_append, ← currentAfter, ← h]
  rfl

/-- **Who is said to belong to the current network while there is none.**  A pool knows what was
last said about the current connection.  A candidate that comes in while that is no valid id is
said to belong to the current network just if its configuration bears the very id that stands
for the absent one; with a valid id it never is. -/
theorem Course.currentNetwork_of_admitted (card : ScoreCard σ η) (config : PoolConfig)
    (seeds : List (Record η)) (shared : Shared σ) (happenings : List (Happening σ η)) :
    let course := (Course.start (.ofRecords card config seeds) shared).run happenings
    ∀ before m later, course.past = before ++ m :: later →
      m.pool.currentNetwork = (currentAfter before).1 ∧
        (m.admitted = true → m.pool.currentNetwork.isValid = false →
          ∃ offer r, m.command.offer? = some offer ∧ m.outcome.pool.get? offer.key = some r ∧
            r.serial = m.shared.nextSerial ∧
            (r.candidate.currentNetwork = false ↔ offer.config.id ≠ m.pool.currentNetwork) ∧
            (offer.config.id.isValid = true → r.candidate.currentNetwork = false)) := by
  intro course before m later hsplit
  have hcurrent : m.pool.current = currentAfter before :=
    (Course.current_run rfl (Pool.current_ofRecords card config seeds) happenings).2
      before m later hsplit
  refine ⟨congrArg Prod.fst hcurrent, fun hadmitted hinvalid => ?_⟩
  obtain ⟨offer, hoffer, hget⟩ := m.exists_offer_of_admitted hadmitted
  have hflag : (m.pool.entrantOf offer m.shared).candidate.currentNetwork = false ↔
      offer.config.id ≠ m.pool.currentNetwork := by
    rw [← Bool.not_eq_true, Pool.currentNetwork_entrantOf]
    rfl
  refine ⟨offer, m.pool.entrantOf offer m.shared, hoffer, hget, rfl, hflag, fun hvalid => ?_⟩
  refine hflag.mpr fun he => ?_
  rw [he, hinvalid] at hvalid
  exact absurd hvalid (by simp)

/-- While the connection is said to belong to a configuration that is none, a candidate under
another negative id comes in, and is not said to belong to the current network. -/
theorem Course.currentNetwork_of_admitted_other_id :
    let key : Key := .ofIdentity ⟨⟨"home"⟩, .psk⟩ (Scenario.radio 7) .invalid
    let config := Scenario.config .invalid ⟨"home"⟩
    let seen : Observation := .ofScan (Scenario.scan ⟨"home"⟩ 7 (-50)) .saved
    let happenings : List (Happening History Handle) :=
      [.command (.setCurrent ⟨-5⟩ none), .command (.add key config seen)]
    let course := (Course.start (.ofRecords History.card .lenient []) { history := {} }).run
      happenings
    ∃ told taken, course.past = [told, taken] ∧ taken.admitted = true ∧
      taken.pool.currentNetwork.isValid = false ∧
      ∃ r, taken.outcome.pool.get? key = some r ∧ r.candidate.currentNetwork = false := by
  intro key config seen happenings course
  let told : Moment History Handle :=
    ⟨.ofRecords History.card .lenient [], { history := {} }, .setCurrent ⟨-5⟩ none⟩
  let taken : Moment History Handle := ⟨told.outcome.pool, told.outcome.shared, .add key config seen⟩
  have hadmitted : taken.admitted = true := by decide
  have hinvalid : taken.pool.currentNetwork.isValid = false := by decide
  have hsplit : course.past = [told] ++ taken :: [] := rfl
  obtain ⟨offer, r, hoffer, hget, -, hflag, -⟩ :=
    (Course.currentNetwork_of_admitted History.card .lenient [] { history := {} } happenings
      [told] taken [] hsplit).2 hadmitted hinvalid
  obtain rfl : ⟨key, config, seen⟩ = offer := Option.some.inj hoffer
  exact ⟨told, taken, hsplit, hadmitted, hinvalid, r, hget, hflag.mpr (by decide)⟩

/-- Before any connection was announced, a candidate whose configuration bears the negative id
that stands for none is said to belong to the current network. -/
theorem Course.currentNetwork_of_invalid_id :
    let config := Scenario.config .invalid ⟨"home"⟩
    let key : Key := .ofIdentity ⟨⟨"home"⟩, .psk⟩ (Scenario.radio 7) .invalid
    let seen : Observation := .ofScan (Scenario.scan ⟨"home"⟩ 7 (-50)) .saved
    let course := (Course.start (.empty History.card .lenient) { history := {} }).run
      [.command (.add key config seen)]
    ∃ m, course.past = [m] ∧ m.admitted = true ∧ m.pool.currentNetwork.isValid = false ∧
      (m.outcome.pool.get? key).map (·.candidate.currentNetwork) = some true := by
  intro config key seen course
  exact ⟨_, rfl, by decide, by decide, by decide⟩

end currentNetwork

/-! ## Open networks -/

namespace NetworkConfig

variable {config : NetworkConfig}

/-- Of a network that can be joined at all, being open means that every enabled option is. -/
theorem isOpen_iff_of_mem {s : Security} (h : s ∈ config.enabled) :
    config.isOpen = true ↔ ∀ t ∈ config.enabled, t.isOpen = true := by
  have hne : config.enabled.isEmpty = false := List.isEmpty_eq_false_iff.mpr (List.ne_nil_of_mem h)
  rw [isOpen, hne, Bool.not_false, Bool.true_and, List.all_eq_true]

end NetworkConfig

/-- The type of a resolved key is one of the enabled options. -/
theorem Key.security_mem_enabled {scan : ScanResult} {config : NetworkConfig} {key : Key}
    (h : resolve scan (some config) = .ok key) : key.security ∈ config.enabled := by
  obtain ⟨bssid, s, -, -, hnegotiate, rfl⟩ := resolve_some_eq_ok_iff.mp h
  exact (mem_of_negotiate hnegotiate).2

namespace Candidate

/-- A candidate is described as open, or else as secure. -/
theorem mem_traits_iff (c : Candidate η) :
    ("open" ∈ c.traits ↔ c.isOpen = true) ∧ ("secure" ∈ c.traits ↔ c.isOpen = false) := by
  simp [traits]

end Candidate

/-- **What being open says of the connection.**  A scan result that is taken in has a key, and
the candidate in its place counts as open just if the connection and all the other enabled
options are unauthenticated.  One that is described as open is therefore never reached with
authentication; one that is described as secure is reached without it only under a
configuration with an authenticated option. -/
theorem Pool.isOpen_of_addScan [BssidHandle η σ] (pool : Pool σ η) (shared : Shared σ)
    (scan : ScanResult) (config? : Option NetworkConfig) (nomination : Nomination)
    (h : (pool.addScan scan config? nomination shared).answer = .ok true) :
    ∃ config r, config? = some config ∧ Key.resolve scan config? = .ok r.key ∧
      (pool.addScan scan config? nomination shared).pool.get? r.key = some r ∧
      (r.candidate.isOpen = true ↔
        r.key.security.isOpen = true ∧ ∀ s ∈ config.enabled, s.isOpen = true) ∧
      ("open" ∈ r.candidate.traits → r.key.security.isOpen = true) ∧
      ("secure" ∈ r.candidate.traits → r.key.security.isOpen = true →
        ∃ s ∈ config.enabled, s.isOpen = false) := by
  let m : Moment σ η := ⟨pool, shared, .addScan scan config? nomination⟩
  have hadmitted : m.admitted = true := by
    simp only [Moment.admitted, Moment.outcome, m, apply, h]
    rfl
  obtain ⟨offer, hoffer, hget⟩ := m.exists_offer_of_admitted hadmitted
  obtain ⟨hkey, hconfig, -⟩ := Offer.of_ofScan? hoffer
  have hmem : offer.key.security ∈ offer.config.enabled :=
    Key.security_mem_enabled (by rw [← hconfig]; exact hkey)
  let r : Record η := pool.entrantOf offer shared
  have hopen : r.candidate.isOpen = true ↔
      offer.key.security.isOpen = true ∧ ∀ s ∈ offer.config.enabled, s.isOpen = true :=
    (NetworkConfig.isOpen_iff_of_mem hmem).trans ⟨fun hall => ⟨hall _ hmem, hall⟩, And.right⟩
  obtain ⟨hsaysOpen, hsaysSecure⟩ := r.candidate.mem_traits_iff
  refine ⟨offer.config, r, hconfig, hkey, hget, hopen, ?_, ?_⟩
  · intro hdescribed
    exact (hopen.mp (hsaysOpen.mp hdescribed)).1
  · intro hdescribed hconnection
    have hnotAll : ¬ ∀ s ∈ offer.config.enabled, s.isOpen = true := fun hall =>
      absurd (hopen.mpr ⟨hconnection, hall⟩) (by simp [hsaysSecure.mp hdescribed])
    simpa using hnotAll

/-- Of two unauthenticated options, and an authenticated one that is off, the less preferred one
is all that is advertised.  The candidate is described as open, and so is the connection. -/
theorem Pool.isOpen_of_addScan_less_preferred :
    let scan := { Scenario.scan ⟨"cafe"⟩ 7 (-60) with security := [.psk, .unprotected] }
    let config : NetworkConfig :=
      { Scenario.config ⟨3⟩ ⟨"cafe"⟩ with
        options := [⟨.owe, true⟩, ⟨.psk, false⟩, ⟨.unprotected, true⟩] }
    let outcome := addScan scan (some config) {} (.empty History.card .lenient) { history := {} }
    outcome.answer = .ok true ∧ ∃ r, outcome.pool.get? r.key = some r ∧
      "open" ∈ r.candidate.traits ∧ r.key.security.isOpen = true := by
  intro scan config outcome
  have hanswer : outcome.answer = .ok true := by decide
  obtain ⟨config', r, hconfig, hkey, hget, hopen, -, -⟩ :=
    Pool.isOpen_of_addScan (.empty History.card .lenient) { history := {} } scan (some config) {}
      hanswer
  obtain rfl : config = config' := Option.some.inj hconfig
  have hsecurity : r.key.security = .unprotected := by
    have hresolve : Key.resolve scan (some config) =
        .ok (.ofIdentity ⟨⟨"cafe"⟩, .unprotected⟩ (Scenario.radio 7) ⟨3⟩) := by decide
    rw [← Except.ok.inj (hresolve.symm.trans hkey)]
    rfl
  have hconnection : r.key.security.isOpen = true := by rw [hsecurity]; rfl
  exact ⟨hanswer, r, hget, r.candidate.mem_traits_iff.1.mpr (hopen.mpr ⟨hconnection, by decide⟩),
    hconnection⟩

/-- An access point without any protection is joined under a configuration that prefers this and
knows of a password as well.  The connection is unauthenticated, and the candidate is described
as secure. -/
theorem Pool.isOpen_of_mixed_options :
    let scan := { Scenario.scan ⟨"cafe"⟩ 7 (-60) with security := [.unprotected] }
    let config : NetworkConfig :=
      { Scenario.config ⟨3⟩ ⟨"cafe"⟩ with options := [⟨.unprotected, true⟩, ⟨.psk, true⟩] }
    let outcome := addScan scan (some config) {} (.empty History.card .lenient) { history := {} }
    outcome.answer = .ok true ∧
      (outcome.pool.records.map fun r => (r.key.security.isOpen, r.candidate.isOpen)) =
        [(true, false)] := by
  intro scan config outcome
  exact ⟨by decide, by decide⟩

end NetworkSelection
