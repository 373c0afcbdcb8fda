import NetworkSelection.Interchange.Views
import NetworkSelection.Proofs.FaultAccount
import NetworkSelection.Proofs.Filling
import NetworkSelection.Proofs.Headlines
import Mathlib.Data.List.DropRight

/-!
# The log reconciles with the pool

Whoever has the log of a pool, and none of its answers but those about removals, can tell how
many candidates there are, how many offers were turned down, and what stands in its ledger.
What one command reports was said in `Moment.reported`; over a whole course the reports add up,
and so does what the commands do to the number of candidates.

* `Moment.size_eq`, `Course.size_run`: how many candidates there are.
* `sinceCleared`, `faultReports`: the reports that there should be of the faults.
* `under_logOf_sinceCleared`: these are the reports that there are.
* `Course.reconciled_run`: the log of a whole course.
-/

namespace NetworkSelection

variable {σ η : Type}

open LogEvent (under Silent)

variable [BssidHandle η σ]

/-! ## How many candidates there are -/

/-- **How many candidates there are after a command.** -/
theorem Moment.size_eq (m : Moment σ η) (h : m.pool.Indexed m.shared.nextSerial) :
    m.outcome.pool.size + m.replaced.toNat + m.removed.toNat =
      m.pool.size + m.admitted.toNat := by
  cases m.effect with
  | idle _ hadmitted hremoved hkey =>
    have hsize : m.outcome.pool.size = m.pool.size := congrArg Std.ExtTreeMap.size hkey
    rw [replaced_of_not_admitted hadmitted, hadmitted, hremoved, hsize]
    rfl
  | rejects _ _ _ hadmitted hremoved _ _ hpool =>
    rw [replaced_of_not_admitted hadmitted, hadmitted, hremoved, hpool]
    rfl
  | enters offer hoffer hadmitted hremoved _ hpool =>
    have hreplaced : m.replaced = (m.pool.get? offer.key).isSome := by
      simp only [replaced, taken?, hadmitted, if_true, hoffer, Option.any_some]
    rw [hreplaced, hadmitted, hremoved, hpool]
    exact h.size_supplant (m.pool.entrantOf offer m.shared)
  | leaves r held _ hadmitted hremoved hget _ hpool =>
    rw [replaced_of_not_admitted hadmitted, hadmitted, hremoved, hpool]
    exact Pool.size_drop (by rw [h.key_eq hget]; exact hget)
  | renews estimate _ hadmitted hremoved hpool =>
    rw [replaced_of_not_admitted hadmitted, hadmitted, hremoved, hpool,
      h.size_updateMultiLink]
    rfl

/-- How many candidates there are in the whole course of a pool. -/
theorem Course.size_run (card : ScoreCard σ η) (config : PoolConfig) (shared : Shared σ)
    (happenings : List (Happening σ η)) :
    let course := (Course.start (.empty card config) shared).run happenings
    course.pool.size + course.past.countP Moment.replaced + course.past.countP Moment.removed =
      course.past.countP Moment.admitted := by
  refine Course.past_pool_induction (motive := fun past pool =>
    pool.size + past.countP Moment.replaced + past.countP Moment.removed =
      past.countP Moment.admitted) (fun past m hindexed h => ?_) ?_ shared happenings
  · have hsize := m.size_eq hindexed
    simp only [List.countP_append, List.countP_singleton]
    have hcount (b : Bool) : (if b = true then 1 else 0) = b.toNat := by cases b <;> rfl
    simp only [hcount]
    omega
  · rfl

/-- In the whole course of a pool with a discreet card, what was reported is what was done. -/
theorem Course.reported_run {card : ScoreCard σ η} (hcard : card.Discreet) (config : PoolConfig)
    (shared : Shared σ) (happenings : List (Happening σ η)) :
    ∀ m ∈ ((Course.start (.empty card config) shared).run happenings).past, m.Reported := by
  intro m hm
  obtain ⟨before, later, hsplit⟩ := List.append_of_mem hm
  have hpool : m.pool.card = card :=
    (Course.moments_induction (motive := fun _ pool => pool.card = card)
      (fun _ m h => m.standsAs.card_eq.trans h) rfl rfl happenings).2 before m later hsplit
  exact m.reported (by rw [hpool]; exact hcard)

/-! ## The reports of faults -/

section faults

omit [BssidHandle η σ]

/-- The faults of these moments, each with its moment. -/
def faulting (past : List (Moment σ η)) : List (Moment σ η × Fault) :=
  past.filterMap fun m => m.command.fault?.map fun f => (m, f)

/-- Whether a command clears the faults. -/
def Command.clears : Command η → Bool
  | .clearFaults => true
  | _ => false

/-- The moments since the faults were last cleared. -/
def sinceCleared (past : List (Moment σ η)) : List (Moment σ η) :=
  past.rtakeWhile fun m => !m.command.clears

/-- The text of the fault that an event reports, as it is shown. -/
def LogEvent.faultText? (e : LogEvent) : Option Json :=
  e.particulars.lookup "fault"

/-- The reports that there should be of the faults of these moments: one for each, in order,
with its number, as far as a word can say, and with the mode that the pool was in. -/
def faultReports (recent : List (Moment σ η)) : List LogEvent :=
  (faulting recent).mapIdx fun i (m, f) =>
    .faultRecorded (UInt32.ofNat (min (i + 1) 4294967295)) m.pool.config.picky f

theorem faulting_concat (past : List (Moment σ η)) (m : Moment σ η) :
    faulting (past ++ [m]) =
      faulting past ++ (m.command.fault?.map fun f => (m, f)).toList := by
  rw [faulting, List.filterMap_append]
  rfl

theorem sinceCleared_concat (past : List (Moment σ η)) (m : Moment σ η) :
    sinceCleared (past ++ [m]) = if m.command.clears then [] else sinceCleared past ++ [m] := by
  rw [sinceCleared, List.rtakeWhile_concat]
  cases m.command.clears <;> rfl

/-- The account of faults is that of the moments since they were last cleared. -/
theorem faultsAfter_eq (past : List (Moment σ η)) :
    faultsAfter past = (faulting (sinceCleared past)).map Prod.snd := by
  induction past using List.reverseRecOn with
  | nil => rfl
  | append_singleton past m ih =>
    rw [faultsAfter_concat, sinceCleared_concat]
    cases hcommand : m.command with
    | clearFaults => rfl
    | _ =>
      rw [if_neg (by simp [Command.clears]), faulting_concat, List.map_append, ← ih, hcommand]
      simp only [Command.account]
      cases Command.fault? _ <;> rfl

/-- The next fault is numbered after those on the account. -/
theorem Ledger.Shows.oneMore_count {ledger : Ledger} {faults : List Fault}
    (h : ledger.Shows faults) :
    oneMore ledger.count = UInt32.ofNat (min (faults.length + 1) 4294967295) := by
  have hlt : min (faults.length + 1) 4294967295 < UInt32.size :=
    Nat.lt_of_le_of_lt (Nat.min_le_right _ _) (by decide)
  rw [← UInt32.toNat_inj, toNat_oneMore, h.count_eq, UInt32.toNat_ofNat_of_lt' hlt]
  omega

end faults

/-- What was reported of the faults since they were last cleared is what there should be. -/
theorem under_logOf_sinceCleared {picky : Bool} {past : List (Moment σ η)}
    (hreported : ∀ m ∈ past, m.Reported)
    (hbooked : ∀ before m later, past = before ++ m :: later → m.pool.Booked picky before) :
    under "candidates: fault recorded" (logOf (sinceCleared past)) =
      faultReports (sinceCleared past) := by
  induction past using List.reverseRecOn with
  | nil => rfl
  | append_singleton past m ih =>
    have hpast := ih (fun m' hm' => hreported m' (List.mem_append_left [m] hm'))
      fun before m' later hsplit => hbooked before m' (later ++ [m]) (by simp [hsplit])
    have hm : m.pool.Booked picky past := hbooked past m [] rfl
    have hlast := (hreported m (List.mem_append_right past List.mem_cons_self)).recorded
    rw [sinceCleared_concat]
    split
    · rfl
    · have hpicky : m.pool.ledger.picky = m.pool.config.picky :=
        hm.ledger_picky.trans hm.config_picky.symm
      have hlength : (faultsAfter past).length = (faulting (sinceCleared past)).length := by
        rw [faultsAfter_eq, List.length_map]
      rw [logOf_concat, LogEvent.under_append, hpast, hlast, Moment.faultReport, faultReports,
        faultReports, faulting_concat, hm.shows.oneMore_count, hlength, hpicky]
      cases m.command.fault? with
      | none => simp
      | some f => simp [List.mapIdx_concat]

omit [BssidHandle η σ] in
/-- The last report of a fault shows the text of the last fault on the account. -/
theorem faultText?_getLast?_faultReports (past : List (Moment σ η)) :
    (faultReports (sinceCleared past)).getLast?.bind LogEvent.faultText? =
      (faultsAfter past).getLast?.map fun f => Json.text f.message := by
  rw [faultReports, List.getLast?_mapIdx, faultsAfter_eq, List.getLast?_map, Option.map_map,
    Option.bind_map]
  cases (faulting (sinceCleared past)).getLast? <;> rfl

/-! ## The whole course -/

/-- The log of a course reconciles with the state of the pool, which was opened in this mode. -/
structure Course.Reconciled (picky : Bool) (course : Course σ η) : Prop where
  /-- There are as many candidates as were announced, less those that were replaced and those
  that the caller took away. -/
  size_eq : (course.pool.size : ℤ) =
    (under "candidates: added" (logOf course.past)).length -
      (under "candidates: replacing candidate" (logOf course.past)).length -
      course.past.countP Moment.removed
  /-- Every offer that was turned down without there being a fault is in the log. -/
  declined_eq : course.past.countP Moment.declined =
    (under "candidates: lower-priority nominator rejected" (logOf course.past)).length
  /-- A command reports a fault, once, just if it runs into it. -/
  recorded : ∀ m ∈ course.past, (under "candidates: fault recorded" m.outcome.events).length =
    m.command.fault?.isSome.toNat
  /-- The reports of faults since they were last cleared are numbered, and show the mode. -/
  faults_eq : under "candidates: fault recorded" (logOf (sinceCleared course.past)) =
    faultReports (sinceCleared course.past)
  /-- The mode at each moment is the one that the pool was last told to be in. -/
  config_picky : ∀ before m later, course.past = before ++ m :: later →
    m.pool.config.picky = modeAfter picky before
  /-- The last of them shows the text of the fault in the ledger, if there is one. -/
  text_eq :
    (under "candidates: fault recorded" (logOf (sinceCleared course.past))).getLast?.bind
        LogEvent.faultText? =
      course.pool.ledger.last.map fun f => Json.text f.message
  /-- Choosing may go on all the time. -/
  choose : ∀ scorer, Silent (course.pool.choose scorer).2

/-- **The log reconciles with the pool.**  Whatever was asked of a new pool, its log tells how
many candidates there are, how many offers were turned down, and what its ledger shows. -/
theorem Course.reconciled_run (card : ScoreCard σ η) (hcard : card.Discreet)
    (config : PoolConfig) (shared : Shared σ) (happenings : List (Happening σ η)) :
    ((Course.start (.empty card config) shared).run happenings).Reconciled config.picky := by
  let course : Course σ η := (Course.start (.empty card config) shared).run happenings
  have hreported : ∀ m ∈ course.past, m.Reported :=
    Course.reported_run hcard config shared happenings
  have hsize : course.pool.size + course.past.countP Moment.replaced +
      course.past.countP Moment.removed = course.past.countP Moment.admitted :=
    Course.size_run card config shared happenings
  obtain ⟨hnow, hbefore⟩ : course.pool.Booked config.picky course.past ∧
      ∀ before m later, course.past = before ++ m :: later → m.pool.Booked config.picky before :=
    Course.booked_run _ rfl (Pool.booked_ofRecords card config []) happenings
  have hfaults := under_logOf_sinceCleared hreported hbefore
  show course.Reconciled config.picky
  refine
    { size_eq := ?_
      declined_eq := (length_under_logOf fun m hm => (hreported m hm).rejected).symm
      recorded := fun m hm => ?_
      faults_eq := hfaults
      config_picky := fun before m later hsplit => (hbefore before m later hsplit).config_picky
      text_eq := ?_
      choose := fun scorer => Pool.silent_choose scorer _ }
  · have hadded := length_under_logOf fun m hm => (hreported m hm).added
    have hreplacing := length_under_logOf fun m hm => (hreported m hm).replacing
    omega
  · rw [(hreported m hm).recorded, Moment.faultReport]
    cases m.command.fault? <;> rfl
  · rw [hfaults, faultText?_getLast?_faultReports, ← hnow.shows.last_eq]

/-- Two candidates come to one place and a third one is turned down; one comes to another place,
and is taken away the first time that this is asked for.  There are faults in both modes, before
and after they are cleared. -/
theorem Course.reconciled_run_comings_and_goings :
    let scan := Scenario.scan ⟨"home"⟩ 7 (-50)
    let config := Scenario.config ⟨3⟩ ⟨"home"⟩
    let key (n : UInt16) : Key := .ofIdentity ⟨⟨"home"⟩, .psk⟩ (Scenario.radio n) ⟨3⟩
    let seen (nominator : Nominator) : Observation := .ofScan scan nominator
    let made : Record Handle :=
      { serial := 2
        candidate := .make (key 8) config (seen .saved) none ⟨false, false⟩ 50 }
    let happenings : List (Happening History Handle) :=
      [.command (.setCurrent ⟨3⟩ (some "nowhere")), .command (.add (key 7) config (seen .saved)),
        .command (.add (key 7) config (seen .saved)),
        .command (.add (key 7) config (seen ⟨2⟩)),
        .command .clearFaults, .command (.resolve scan none),
        .command (.add (key 8) config (seen .saved)), .command (.remove made),
        .command (.remove made), .command (.setPicky true), .command (.addScan scan none {})]
    let course := (Course.start (.empty History.card .lenient) { history := {} }).run happenings
    History.card.Discreet ∧ course.pool.size = 1 ∧
      course.past.countP Moment.replaced = 1 ∧ course.past.countP Moment.removed = 1 ∧
      course.past.countP Moment.declined = 1 ∧
      faultReports (sinceCleared course.past) =
        [.faultRecorded 1 false .missingConfig, .faultRecorded 2 true .missingConfig] ∧
      course.Reconciled false := by
  intro scan config key seen made happenings course
  have hcard : History.card.Discreet := CardKind.history.discreet_card
  exact ⟨hcard, by decide, by decide, by decide, by decide, by decide,
    Course.reconciled_run History.card hcard .lenient { history := {} } happenings⟩

end NetworkSelection
