import NetworkSelection.Proofs.Consistency

/-!
# Where the records of a pool come from

A candidate is made once, when its offer is taken, out of what is known at that moment: the
key, the configuration, the observation, the current connection, and what the score card has
to say about the access point.  The record in a place can therefore be traced back to one
moment of the past, and it shows what was so then, however much has changed since.

One figure alone is younger, the joint throughput of the links.  It follows the renewals of
the groups that the record has been through since it came.

* `Command.Offers`: what the offer of a command consists of.
* `Moment.made`: the candidate that an offer makes at a moment, field by field and told from the
  past alone.
* `Moment.rating`: the joint throughput that a moment leaves a candidate with.
* `Origin`: the moment that a record in place goes back to.
* `Course.origin_of_get?`: every record in place goes back to one.
-/

namespace NetworkSelection

variable {σ η : Type}

/-! ## The candidate of an offer -/

/-- The current connection after these moments: what was last said about it. -/
def currentAfter (past : List (Moment σ η)) : NetworkId × Option MacAddress :=
  past.foldl (fun now m => m.command.current now) (.invalid, none)

/-- Whoever this command asks to estimate the joint throughput of links. -/
def Command.estimator? : Command η → Option (List (Candidate η) → UInt32)
  | .updateMultiLink estimate => some estimate
  | _ => none

theorem Command.eq_of_estimator? {command : Command η} {estimate : List (Candidate η) → UInt32}
    (h : command.estimator? = some estimate) : command = .updateMultiLink estimate := by
  cases command with
  | updateMultiLink other => rw [Option.some.inj h]
  | _ => exact absurd h (by simp [estimator?])

/-- What a command offers.  It may describe the candidate itself; a scan result is offered under
the key that it resolves to, as it was measured and as it was nominated. -/
inductive Command.Offers : Command η → Offer → Prop where
  | add (key : Key) (config : NetworkConfig) (seen : Observation) :
      Offers (.add key config seen) ⟨key, config, seen⟩
  | addScan (scan : ScanResult) (config : NetworkConfig) (nomination : Pool.Nomination)
      (key : Key) (hkey : Key.resolve scan (some config) = .ok key) :
      Offers (.addScan scan (some config) nomination)
        { key
          config
          seen :=
            { nominator := nomination.nominator
              rssi := scan.rssi
              frequency := scan.frequency
              width := scan.width
              weight := nomination.weight
              metered := nomination.metered
              privileged := false
              mbps := nomination.mbps
              mld := scan.mld } }

theorem Command.offers_of_offer? {command : Command η} {offer : Offer}
    (h : command.offer? = some offer) : command.Offers offer := by
  cases command with
  | add key config seen =>
    rw [← Option.some.inj h]
    exact .add key config seen
  | addScan scan config? nomination =>
    obtain ⟨key, config, seen⟩ := offer
    obtain ⟨hkey, rfl, rfl⟩ := Offer.of_ofScan? h
    exact .addScan scan config nomination key hkey
  | _ => exact absurd h (by simp [offer?])

namespace Moment

variable [BssidHandle η σ]

/-- The candidate that an offer makes at a moment with this past, in a pool that was opened
with this card and these settings.  The weight is brought into the unit interval, and one that is
not a number counts as zero. -/
def made (card : ScoreCard σ η) (config : PoolConfig) (past : List (Moment σ η))
    (m : Moment σ η) (offer : Offer) : Candidate η :=
  let current := currentAfter past
  let handle? := (card.lookup offer.key.accessPoint m.shared.history).handle
  let weight := offer.seen.weight
  { key := offer.key
    nominator := offer.seen.nominator
    rssi := offer.seen.rssi
    frequency := offer.seen.frequency
    width := offer.seen.width
    weight := if weight.isNaN then 0 else if weight < 0 then 0 else if 1 < weight then 1 else weight
    handle := handle?
    userSelected := offer.config.userSelected
    currentNetwork := offer.config.id = current.1
    currentBssid := current.2 = some offer.key.bssid
    metered := offer.seen.metered
    noInternet := offer.config.noInternet
    noInternetExpected := offer.config.noInternetExpected
    isOpen := offer.config.isOpen
    passpoint := offer.config.passpoint
    ephemeral := offer.config.ephemeral
    trusted := offer.config.trusted
    restricted := offer.config.restricted
    oemPaid := offer.config.oemPaid
    oemPrivate := offer.config.oemPrivate
    privileged := offer.seen.privileged
    ipTimedOut := offer.config.ipTimedOut
    mbps := offer.seen.mbps
    multiLinkMbps := 0
    rebootsSinceUse := offer.config.rebootsSinceUse
    availability :=
      match handle? with
      | some handle => min (BssidHandle.availability handle m.outcome.shared.history) 100
      | none => min config.defaultAvailability 100
    mld := offer.seen.mld }

/-- The joint throughput of a link of this access point after a moment, if it was `mbps`
before: what the estimator finds for the group as it stands, if one is asked. -/
def rating (mld : Option MacAddress) (mbps : UInt32) (m : Moment σ η) : UInt32 :=
  match mld, m.command.estimator? with
  | some mld, some estimate => estimate ((m.pool.links mld).map (·.candidate))
  | _, _ => mbps

end Moment

section rating

variable {mld : Option MacAddress} {mbps : UInt32} {later : List (Moment σ η)}

/-- Without a group, or without a renewal, the joint throughput stays what it was. -/
theorem foldl_rating_of_unrated
    (h : mld = none ∨ ∀ u ∈ later, u.command.estimator? = none) :
    later.foldl (Moment.rating mld) mbps = mbps := by
  induction later generalizing mbps with
  | nil => rfl
  | cons u rest ih =>
    have hu : Moment.rating mld mbps u = mbps := by
      unfold Moment.rating
      rcases h with rfl | h
      · rfl
      · rw [h u List.mem_cons_self]
        cases mld <;> rfl
    rw [List.foldl_cons, hu]
    exact ih (h.imp_right fun h v hv => h v (List.mem_cons_of_mem _ hv))

/-- Of several renewals the latest one decides. -/
theorem foldl_rating_of_latest {ap : MacAddress} {mid late : List (Moment σ η)}
    {u : Moment σ η} {estimate : List (Candidate η) → UInt32}
    (hu : u.command.estimator? = some estimate)
    (hlate : ∀ v ∈ late, v.command.estimator? = none) :
    (mid ++ u :: late).foldl (Moment.rating (some ap)) mbps =
      estimate ((u.pool.links ap).map (·.candidate)) := by
  rw [List.foldl_append, List.foldl_cons, foldl_rating_of_unrated (Or.inr hlate)]
  simp only [Moment.rating, hu]

end rating

/-! ## The moment that a record goes back to -/

/-- What the joint throughput of a record in this place is, if these moments have gone by since
it came: zero if it is no link or no links have been renewed since, and otherwise what the
latest renewal found for the group of its access point as it stood then, with this place in
it. -/
structure Rated (mld : Option MacAddress) (key : Key) (later : List (Moment σ η))
    (mbps : UInt32) : Prop where
  eq_zero : (mld = none ∨ ∀ u ∈ later, u.command.estimator? = none) → mbps = 0
  eq_estimate : ∀ ap mid u late estimate, mld = some ap → later = mid ++ u :: late →
    u.command = .updateMultiLink estimate → (∀ v ∈ late, v.command.estimator? = none) →
    ∃ group, u.pool.group? ap = some group ∧ (∃ s ∈ group, s.key = key) ∧
      mbps = estimate (group.map (·.candidate))

variable [BssidHandle η σ]

/-- A record goes back to this moment of the past, at which this offer was taken: nobody has
come to its place or gone from it since, and each of its fields still is what it was made
then, save for the joint throughput, which has followed the renewals since.  At each moment
since it has been in the group of its access point, if it has one. -/
structure Origin (card : ScoreCard σ η) (config : PoolConfig) (past : List (Moment σ η))
    (key : Key) (r : Record η) (before : List (Moment σ η)) (m : Moment σ η)
    (later : List (Moment σ η)) (offer : Offer) : Prop where
  past_eq : past = before ++ m :: later
  offers : m.command.Offers offer
  key_eq : offer.key = key
  admitted : m.admitted = true
  undisturbed : ∀ u ∈ later, u.entered? ≠ some key ∧ u.left? ≠ some key
  candidate_eq : r.candidate =
    { m.made card config before offer with
      multiLinkMbps := later.foldl (Moment.rating offer.seen.mld) 0 }
  grouped : ∀ mld, offer.seen.mld = some mld → ∀ u ∈ later, ∃ s ∈ u.pool.links mld, s.key = key

namespace Origin

variable {card : ScoreCard σ η} {config : PoolConfig} {past before later : List (Moment σ η)}
  {key : Key} {r : Record η} {m u : Moment σ η} {offer : Offer}

/-- Following the renewals means to be rated by the latest of them. -/
theorem rated (h : Origin card config past key r before m later offer) :
    Rated offer.seen.mld key later r.candidate.multiLinkMbps := by
  have hmbps : r.candidate.multiLinkMbps = later.foldl (Moment.rating offer.seen.mld) 0 := by
    rw [h.candidate_eq]
  rw [hmbps]
  refine ⟨foldl_rating_of_unrated, ?_⟩
  rintro ap mid u late estimate hmld rfl hcommand hlate
  obtain ⟨s, hs, hkey⟩ := h.grouped ap hmld u (by simp)
  have hgroup : u.pool.group? ap = some (u.pool.links ap) := by
    cases hg : u.pool.group? ap with
    | none =>
      rw [Pool.links, hg] at hs
      exact absurd hs List.not_mem_nil
    | some group => rw [Pool.links_of_group? hg]
  refine ⟨u.pool.links ap, hgroup, ⟨s, hs, hkey⟩, ?_⟩
  rw [hmld]
  exact foldl_rating_of_latest (by rw [hcommand]; rfl) hlate

theorem mld_eq (h : Origin card config past key r before m later offer) :
    r.mld = offer.seen.mld := by
  rw [Record.mld, h.candidate_eq]
  rfl

/-- One more moment goes by that the record stays in place. -/
theorem concat (h : Origin card config past key r before m later offer)
    (hindexed : u.pool.Indexed u.shared.nextSerial) (hget : u.pool.get? key = some r)
    (hentered : u.entered? ≠ some key) (hleft : u.left? ≠ some key) {r' : Record η}
    (hcandidate : r'.candidate =
      { r.candidate with multiLinkMbps := u.rating r.mld r.candidate.multiLinkMbps }) :
    Origin card config (past ++ [u]) key r' before m (later ++ [u]) offer where
  past_eq := by rw [h.past_eq, List.append_assoc, List.cons_append]
  offers := h.offers
  key_eq := h.key_eq
  admitted := h.admitted
  undisturbed := by
    rw [List.forall_mem_append, List.forall_mem_singleton]
    exact ⟨h.undisturbed, hentered, hleft⟩
  candidate_eq := by
    rw [hcandidate, h.mld_eq, h.candidate_eq, List.foldl_append]
    rfl
  grouped := by
    intro mld hmld
    rw [List.forall_mem_append, List.forall_mem_singleton]
    have hkey := hindexed.key_eq hget
    refine ⟨h.grouped mld hmld, r, hindexed.mem_links.mpr ⟨?_, ?_⟩, hkey⟩
    · rw [h.mld_eq, hmld]
    · rw [hkey, hget]

/-- One more moment goes by at which no links are renewed. -/
theorem concat_of_same (h : Origin card config past key r before m later offer)
    (hindexed : u.pool.Indexed u.shared.nextSerial) (hget : u.pool.get? key = some r)
    (hentered : u.entered? ≠ some key) (hleft : u.left? ≠ some key)
    (hestimator : u.command.estimator? = none) :
    Origin card config (past ++ [u]) key r before m (later ++ [u]) offer := by
  refine h.concat hindexed hget hentered hleft ?_
  have hunrated : ∀ v ∈ [u], v.command.estimator? = none :=
    List.forall_mem_singleton.mpr hestimator
  have hrating : u.rating r.mld r.candidate.multiLinkMbps = r.candidate.multiLinkMbps :=
    foldl_rating_of_unrated (Or.inr hunrated)
  rw [hrating]

end Origin

/-! ## What is told of a pool -/

/-- What is told of a pool after this past: it stands as it was opened, but for the current
connection, and every record in place has its origin. -/
structure Told (card : ScoreCard σ η) (config : PoolConfig) (past : List (Moment σ η))
    (pool : Pool σ η) : Prop where
  card_eq : pool.card = card
  availability_eq : pool.config.defaultAvailability = config.defaultAvailability
  current_eq : pool.current = currentAfter past
  origin : ∀ key r, pool.get? key = some r →
    ∃ before m later offer, Origin card config past key r before m later offer

/-- The record that is made for an offer is made as the past tells. -/
theorem Told.candidate_entrantOf {card : ScoreCard σ η} {config : PoolConfig}
    {past : List (Moment σ η)} {m : Moment σ η} {offer : Offer} (h : Told card config past m.pool)
    (hhistory : m.outcome.shared.history =
      (m.pool.attach offer.key offer.config m.shared.history).history) :
    (m.pool.entrantOf offer m.shared).candidate = m.made card config past offer := by
  have hstanding : m.pool.standing offer.key offer.config =
      { network := offer.config.id = (currentAfter past).1
        bssid := (currentAfter past).2 = some offer.key.bssid } := by
    rw [← h.current_eq]
    rfl
  have hcut : min m.pool.config.availability fullAvailability =
      min config.defaultAvailability 100 := by
    have htwice : ∀ d : UInt8, min (min d fullAvailability) fullAvailability = min d 100 := by
      intro d
      unfold fullAvailability
      grind
    rw [PoolConfig.availability, htwice, h.availability_eq]
  unfold Pool.entrantOf Pool.entrant Moment.made
  simp only [hstanding, Pool.handle_attach, h.card_eq, ← hhistory, Pool.availability, hcut]
  rfl

omit [BssidHandle η σ] in
/-- A renewal leaves a record with the joint throughput of its group. -/
theorem Moment.candidate_renewal {m : Moment σ η} {estimate : List (Candidate η) → UInt32}
    (h : m.command.estimator? = some estimate) (number : Record η → Nat) (r : Record η) :
    (m.pool.renewal estimate number r).candidate =
      { r.candidate with multiLinkMbps := m.rating r.mld r.candidate.multiLinkMbps } := by
  rw [Pool.candidate_renewal]
  unfold Pool.renewedCandidate rating Record.mld
  rw [h]
  cases r.candidate.mld <;> rfl

/-- A record that is in place after a renewal comes from one that was in place before. -/
theorem Origin.exists_of_estimator? {card : ScoreCard σ η} {config : PoolConfig}
    {past : List (Moment σ η)} {m : Moment σ η} {estimate : List (Candidate η) → UInt32}
    (hestimator : m.command.estimator? = some estimate)
    (hindexed : m.pool.Indexed m.shared.nextSerial) (h : Told card config past m.pool) {key : Key}
    {r : Record η} (hr : m.outcome.pool.get? key = some r) :
    ∃ before m' later offer, Origin card config (past ++ [m]) key r before m' later offer := by
  have hcommand : m.command = .updateMultiLink estimate := Command.eq_of_estimator? hestimator
  have hpool : m.outcome.pool = (m.pool.updateMultiLink estimate m.shared).pool := by
    rw [Moment.outcome, hcommand]
    rfl
  rw [hpool, hindexed.get?_updateMultiLink] at hr
  obtain ⟨s, hs, rfl⟩ := Option.map_eq_some_iff.mp hr
  obtain ⟨before, m', later, offer, horigin⟩ := h.origin key s hs
  refine ⟨before, m', later ++ [m], offer, horigin.concat hindexed hs ?_ ?_ ?_⟩
  · simp [Moment.entered?, hcommand, Command.offer?]
  · simp [Moment.left?, hcommand]
  · exact m.candidate_renewal hestimator _ s

/-- **One moment in the life of the records in place.** -/
theorem Moment.told {card : ScoreCard σ η} {config : PoolConfig} {past : List (Moment σ η)}
    (m : Moment σ η) (hindexed : m.pool.Indexed m.shared.nextSerial)
    (h : Told card config past m.pool) : Told card config (past ++ [m]) m.outcome.pool where
  card_eq := m.standsAs.card_eq.trans h.card_eq
  availability_eq := m.standsAs.availability_eq.trans h.availability_eq
  current_eq := by
    rw [m.standsAs.current_eq, h.current_eq, currentAfter, currentAfter, List.foldl_append]
    rfl
  origin := by
    intro key r hr
    cases hestimator : m.command.estimator? with
    | some estimate =>
      exact Origin.exists_of_estimator? hestimator hindexed h hr
    | none =>
      -- a record that stays in place goes back where it went back before
      have hstays : m.pool.get? key = some r → m.entered? ≠ some key → m.left? ≠ some key →
          ∃ before m' later offer,
            Origin card config (past ++ [m]) key r before m' later offer := by
        intro hget hentered hleft
        obtain ⟨before, m', later, offer, horigin⟩ := h.origin key r hget
        exact ⟨before, m', later ++ [m], offer,
          horigin.concat_of_same hindexed hget hentered hleft hestimator⟩
      cases m.effect with
      | idle _ hadmitted hremoved hkey _ _ =>
        rw [Pool.get?, hkey] at hr
        refine hstays hr ?_ ?_
        · simp [entered?_of_not_admitted hadmitted]
        · simp [left?_of_not_removed hremoved]
      | rejects offer held _ hadmitted hremoved _ _ hpool _ =>
        rw [hpool] at hr
        refine hstays hr ?_ ?_
        · simp [entered?_of_not_admitted hadmitted]
        · simp [left?_of_not_removed hremoved]
      | enters offer hoffer hadmitted hremoved _ hpool _ hhistory =>
        rw [hpool, hindexed.get?_supplant, Pool.key_entrantOf] at hr
        by_cases hk : offer.key = key
        · rw [if_pos hk] at hr
          refine ⟨past, m, [], offer, ⟨rfl, Command.offers_of_offer? hoffer, hk, hadmitted,
            by simp, ?_, by simp⟩⟩
          rw [← Option.some.inj hr, h.candidate_entrantOf hhistory]
          rfl
        · rw [if_neg hk] at hr
          refine hstays hr ?_ ?_
          · simp [entered?_of_admitted hoffer hadmitted, hk]
          · simp [left?_of_not_removed hremoved]
      | leaves r' held hcommand hadmitted hremoved hget _ hpool _ =>
        rw [hpool, Pool.get?_drop, hindexed.key_eq hget] at hr
        by_cases hk : r'.key = key
        · rw [if_pos hk] at hr
          exact absurd hr (by simp)
        · rw [if_neg hk] at hr
          refine hstays hr ?_ ?_
          · simp [entered?_of_not_admitted hadmitted]
          · simp [left?_of_removed hcommand hremoved, hk]
      | renews estimate hcommand _ _ _ _ =>
        rw [hcommand] at hestimator
        exact absurd hestimator (by simp [Command.estimator?])

/-! ## Every record in place -/

/-- What is told of a pool is true in its whole course. -/
theorem Course.told_run (card : ScoreCard σ η) (config : PoolConfig) (shared : Shared σ)
    (happenings : List (Happening σ η)) :
    let course := (Course.start (.empty card config) shared).run happenings
    Told card config course.past course.pool := by
  have hstart : Told card config [] (Pool.empty card config) :=
    ⟨rfl, rfl, rfl, fun key r hr => absurd hr (by simp)⟩
  exact Course.past_pool_induction (fun _ m hindexed h => m.told hindexed h) hstart shared
    happenings

/-- **Every record in place goes back to the moment at which it came.**  Every field but the joint
throughput shows what was offered then, and how things stood then, whatever has happened since; and
the joint throughput is that of the latest renewal since, if there was one. -/
theorem Course.origin_of_get? (card : ScoreCard σ η) (config : PoolConfig) (shared : Shared σ)
    (happenings : List (Happening σ η)) (key : Key) (r : Record η)
    (hget : ((Course.start (.empty card config) shared).run happenings).pool.get? key = some r) :
    let past := ((Course.start (.empty card config) shared).run happenings).past
    ∃ before m later offer, Origin card config past key r before m later offer ∧
      Rated offer.seen.mld key later r.candidate.multiLinkMbps := by
  intro past
  obtain ⟨before, m, later, offer, h⟩ :=
    (Course.told_run card config shared happenings).origin key r hget
  exact ⟨before, m, later, offer, h, h.rated⟩

/-- A link of a multi-link access point is nominated while its network and its access point are the
current ones, and with too great a weight.  Another link comes, others record events, the group is
renewed, and another network becomes the current one; the card gives out an estimate of more than
one hundred percent. -/
theorem Course.origin_of_get?_renewed_link :
    let card : ScoreCard History Handle := .constant (.fixed 120)
    let scan (n : UInt16) : ScanResult :=
      { Scenario.scan ⟨"home"⟩ n (-50) with mld := some (Scenario.accessPoint 1) }
    let config := Scenario.config ⟨3⟩ ⟨"home"⟩
    let key : Key := .ofIdentity ⟨⟨"home"⟩, .psk⟩ (Scenario.radio 7) ⟨3⟩
    let happenings : List (Happening History Handle) :=
      [.command (.setCurrent ⟨3⟩ (some "02:00:00:00:00:07")),
        .command (.addScan (scan 7) (some config) { weight := 1.5, metered := true, mbps := 600 }),
        .command (.addScan { scan 8 with frequency := 2437 } (some config) { mbps := 300 }),
        .elsewhere {} 4, .command (.updateMultiLink MultiLink.jointThroughput),
        .command (.setCurrent ⟨4⟩ none)]
    let course := (Course.start (.empty card .lenient) { history := {} }).run happenings
    ∃ r, course.pool.get? key = some r ∧
      (r.candidate.weight = 1 ∧ r.candidate.metered = true ∧ r.candidate.mbps = 600) ∧
      (r.candidate.currentNetwork = true ∧ r.candidate.currentBssid = true) ∧
      r.candidate.availability = 100 ∧ r.candidate.multiLinkMbps = 900 ∧
      ∃ before m later offer, Origin card .lenient course.past key r before m later offer ∧
        Rated offer.seen.mld key later r.candidate.multiLinkMbps := by
  intro card scan config key happenings course
  have hvalues : (course.pool.get? key).map (fun r =>
      ((r.candidate.weight, r.candidate.metered, r.candidate.mbps),
        (r.candidate.currentNetwork, r.candidate.currentBssid),
        r.candidate.availability, r.candidate.multiLinkMbps)) =
      some ((1, true, 600), (true, true), 100, 900) := by decide
  obtain ⟨r, hr, hvalues⟩ := Option.map_eq_some_iff.mp hvalues
  simp only [Prod.mk.injEq] at hvalues
  obtain ⟨hseen, hcurrent, havailability, hmultiLink⟩ := hvalues
  exact ⟨r, hr, hseen, hcurrent, havailability, hmultiLink,
    Course.origin_of_get? card .lenient { history := {} } happenings key r hr⟩

end NetworkSelection
