import NetworkSelection.Proofs.Consistency
import NetworkSelection.Proofs.PickyMode

/-!
# The account of faults

A ledger keeps one fault and one number.  Both can be told from what was asked of the pool:
there is an account of faults to which every command that runs into a fault adds one, and
which is struck out when the faults are cleared.  The ledger shows the length of this account,
as far as a word can, and its last entry.

Nothing else is ever entered.  An offer that is turned down, a record that is not found and a
renewal of links are no faults, and looking into a pool or choosing from it does not even give
another pool back.

## The mode

Whether a pool is picky is noted in two places, in its settings and in its ledger.  They are
only ever changed together, and so the ledger, which decides whether a fault is handed back,
goes by what the settings say.

* `faultsAfter`, `modeAfter`: the account and the mode, told from what was asked.
* `Moment.books`: what a command does to the ledger and to the settings.
* `Moment.answer_eq_error_iff`: who hears of a fault.
* `Course.accounted_run_ofRecords`: the account in the whole course of a pool.
-/

namespace NetworkSelection

variable {σ η : Type}

/-! ## What the commands tell -/

/-- The account of faults after a command, if it stood like this before. -/
def Command.account (faults : List Fault) : Command η → List Fault
  | .clearFaults => []
  | command => faults ++ command.fault?.toList

/-- The mode of a pool after a command, if it was `picky` before. -/
def Command.mode (picky : Bool) : Command η → Bool
  | .setPicky picky' => picky'
  | _ => picky

/-- The ledger of a pool after a command, if it was like this before. -/
def Command.ledger (ledger : Ledger) : Command η → Ledger
  | .clearFaults => ledger.clear
  | .setPicky picky => { ledger with picky }
  | command =>
    match command.fault? with
    | some f => ledger.record f
    | none => ledger

/-- The faults since the account was last cleared, the earliest first. -/
def faultsAfter (past : List (Moment σ η)) : List Fault :=
  past.foldl (fun faults m => m.command.account faults) []

/-- The mode that a pool was last told to be in, or the one that it was opened in. -/
def modeAfter (picky : Bool) (past : List (Moment σ η)) : Bool :=
  past.foldl (fun picky m => m.command.mode picky) picky

theorem faultsAfter_concat (past : List (Moment σ η)) (m : Moment σ η) :
    faultsAfter (past ++ [m]) = m.command.account (faultsAfter past) := by
  simp only [faultsAfter, List.foldl_append, List.foldl_cons, List.foldl_nil]

theorem modeAfter_concat (picky : Bool) (past : List (Moment σ η)) (m : Moment σ η) :
    modeAfter picky (past ++ [m]) = m.command.mode (modeAfter picky past) := by
  simp only [modeAfter, List.foldl_append, List.foldl_cons, List.foldl_nil]

/-- A command that runs into a fault is recorded, and changes no mode. -/
theorem Command.ledger_of_fault? {command : Command η} {f : Fault} (h : command.fault? = some f)
    (ledger : Ledger) (picky : Bool) :
    command.ledger ledger = ledger.record f ∧ command.mode picky = picky := by
  cases command with
  | clearFaults => exact absurd h (by simp [fault?])
  | setPicky picky' => exact absurd h (by simp [fault?])
  | _ => exact ⟨by simp only [Command.ledger, h], rfl⟩

/-- An offer leaves the ledger and the mode alone. -/
theorem Command.ledger_of_offer? {command : Command η} {offer : Offer}
    (h : command.offer? = some offer) (ledger : Ledger) (picky : Bool) :
    command.ledger ledger = ledger ∧ command.mode picky = picky := by
  have hfault : command.fault? = none := fault?_eq_none_of_offer h
  cases command with
  | clearFaults => exact absurd h (by simp [offer?])
  | setPicky picky' => exact absurd h (by simp [offer?])
  | _ => exact ⟨by simp only [Command.ledger, hfault], rfl⟩

/-! ## One command -/

theorem Pool.ledger_supplant (r : Record η) (pool : Pool σ η) :
    (pool.supplant r).ledger = pool.ledger ∧ (pool.supplant r).config = pool.config := by
  unfold supplant
  cases pool.get? r.key <;> exact ⟨rfl, rfl⟩

namespace Moment

variable [BssidHandle η σ]

/-- **What a command does to the ledger and to the settings.** -/
theorem books (m : Moment σ η) :
    m.outcome.pool.ledger = m.command.ledger m.pool.ledger ∧
      m.outcome.pool.config =
        { m.pool.config with picky := m.command.mode m.pool.config.picky } := by
  obtain ⟨pool, shared, command⟩ := m
  unfold outcome
  cases command.kind with
  | faults f hfault =>
    obtain ⟨-, hpool, -⟩ := Pool.apply_of_fault hfault pool shared
    obtain ⟨hledger, hmode⟩ := Command.ledger_of_fault? hfault pool.ledger pool.config.picky
    rw [hpool, hledger, hmode]
    exact ⟨rfl, rfl⟩
  | offers offer hoffer =>
    obtain ⟨hledger, hmode⟩ := Command.ledger_of_offer? hoffer pool.ledger pool.config.picky
    rw [hledger, hmode]
    by_cases h : pool.OutrankedAt offer.key offer.seen.nominator
    · obtain ⟨-, hpool, -⟩ := Pool.apply_of_outrankedAt hoffer h shared
      rw [hpool]
      exact ⟨rfl, rfl⟩
    · obtain ⟨-, hpool, -⟩ := Pool.apply_of_not_outrankedAt hoffer h shared
      rw [hpool]
      exact Pool.ledger_supplant _ pool
  | unsets id => exact ⟨rfl, rfl⟩
  | sets id text bssid hparse =>
    simp only [Pool.apply, Pool.setCurrent, Command.ledger, Command.fault?, hparse]
    exact ⟨rfl, rfl⟩
  | modes picky => exact ⟨rfl, rfl⟩
  | resolves scan config? key hkey =>
    simp only [Pool.apply, Pool.resolve, Command.ledger, Command.fault?, hkey]
    exact ⟨rfl, rfl⟩
  | removes r =>
    simp only [Pool.apply, Pool.remove]
    split
    · split <;> exact ⟨rfl, rfl⟩
    · exact ⟨rfl, rfl⟩
  | renews estimate => exact ⟨rfl, rfl⟩
  | clears => exact ⟨rfl, rfl⟩

/-- **Who hears of a fault.**  A command answers with a fault just if it runs into it and the
ledger is picky. -/
theorem answer_eq_error_iff (m : Moment σ η) (f : Fault) :
    m.outcome.answer = .error f ↔ m.command.fault? = some f ∧ m.pool.ledger.picky = true := by
  unfold outcome
  cases hfault : m.command.fault? with
  | none =>
    obtain ⟨⟨answer, hanswer⟩, -⟩ := Pool.apply_of_fault?_eq_none hfault m.pool m.shared
    simp [hanswer]
  | some f' =>
    obtain ⟨hanswer, -⟩ := Pool.apply_of_fault hfault m.pool m.shared
    rw [hanswer, Ledger.answer]
    cases m.pool.ledger.picky <;> simp

end Moment

/-! ## The ledger shows the account -/

/-- What a ledger shows of an account: how many faults there are on it, as far as a word can
say, and the last one of them. -/
structure Ledger.Shows (ledger : Ledger) (faults : List Fault) : Prop where
  count_eq : ledger.count.toNat = min faults.length 4294967295
  last_eq : ledger.last = faults.getLast?

/-- What is recorded is added to the account. -/
theorem Ledger.Shows.record {ledger : Ledger} {faults : List Fault} (h : ledger.Shows faults)
    (f : Fault) : (ledger.record f).Shows (faults ++ [f]) where
  count_eq := by
    rw [Ledger.record, toNat_oneMore, h.count_eq, List.length_append, List.length_singleton]
    omega
  last_eq := by rw [List.getLast?_concat, Ledger.record]

/-- **One command, on the account and in the ledger.** -/
theorem Command.shows (command : Command η) {ledger : Ledger} {faults : List Fault}
    (h : ledger.Shows faults) : (command.ledger ledger).Shows (command.account faults) := by
  cases hfault : command.fault? with
  | some f =>
    have haccount : command.account faults = faults ++ [f] := by
      cases command with
      | clearFaults => exact absurd hfault (by simp [fault?])
      | _ => simp only [account, hfault, Option.toList_some]
    rw [haccount, (ledger_of_fault? hfault ledger true).1]
    exact h.record f
  | none =>
    cases command with
    | clearFaults => exact ⟨rfl, rfl⟩
    | setPicky picky =>
      have haccount : account faults (.setPicky picky : Command η) = faults :=
        List.append_nil faults
      rw [haccount]
      exact ⟨h.count_eq, h.last_eq⟩
    | _ => simpa only [Command.ledger, account, hfault, Option.toList_none, List.append_nil] using h

/-! ## The whole course -/

/-- The ledger follows the mode. -/
theorem Command.picky_ledger (command : Command η) (ledger : Ledger) :
    (command.ledger ledger).picky = command.mode ledger.picky := by
  cases hfault : command.fault? with
  | some f =>
    obtain ⟨hledger, hmode⟩ := ledger_of_fault? hfault ledger ledger.picky
    rw [hledger, hmode]
    rfl
  | none =>
    cases command with
    | clearFaults => rfl
    | setPicky picky => rfl
    | _ => simp only [Command.ledger, hfault, mode]

/-- The books of a pool are in order after this past, if it was opened in this mode: the ledger
shows the account, and the mode is noted in both places. -/
structure Pool.Booked (picky : Bool) (past : List (Moment σ η)) (pool : Pool σ η) : Prop where
  shows : pool.ledger.Shows (faultsAfter past)
  config_picky : pool.config.picky = modeAfter picky past
  ledger_picky : pool.ledger.picky = modeAfter picky past

theorem Pool.booked_ofRecords (card : ScoreCard σ η) (config : PoolConfig)
    (seeds : List (Record η)) : (ofRecords card config seeds).Booked config.picky [] := by
  obtain ⟨hledger, hconfig⟩ : (ofRecords card config seeds).ledger = { picky := config.picky } ∧
      (ofRecords card config seeds).config = config := by
    refine ofRecords_induction
      (motive := fun pool => pool.ledger = { picky := config.picky } ∧ pool.config = config)
      ⟨rfl, rfl⟩ (fun pool r h => ?_) seeds
    obtain ⟨hledger, hconfig⟩ := ledger_supplant r pool
    exact ⟨hledger.trans h.1, hconfig.trans h.2⟩
  refine ⟨?_, ?_, ?_⟩
  · rw [hledger]
    exact ⟨rfl, rfl⟩
  · rw [hconfig]
    rfl
  · rw [hledger]
    rfl

section course

variable [BssidHandle η σ]

/-- One more command leaves the books in order. -/
theorem Moment.booked {picky : Bool} {past : List (Moment σ η)} (m : Moment σ η)
    (h : m.pool.Booked picky past) : m.outcome.pool.Booked picky (past ++ [m]) := by
  obtain ⟨hledger, hconfig⟩ := m.books
  refine ⟨?_, ?_, ?_⟩
  · rw [hledger, faultsAfter_concat]
    exact m.command.shows h.shows
  · rw [hconfig, modeAfter_concat, ← h.config_picky]
  · rw [hledger, modeAfter_concat, ← h.ledger_picky, Command.picky_ledger]

/-- The books are in order in the whole course of a pool, and were so at every moment of it. -/
theorem Course.booked_run {picky : Bool} (course : Course σ η) (hpast : course.past = [])
    (hstart : course.pool.Booked picky []) (happenings : List (Happening σ η)) :
    let course := course.run happenings
    course.pool.Booked picky course.past ∧
      ∀ before m later, course.past = before ++ m :: later → m.pool.Booked picky before :=
  Course.moments_induction (motive := fun past pool => pool.Booked picky past)
    (fun _ m h => m.booked h) hpast hstart happenings

/-- The account of a course in which the pool was opened in this mode. -/
structure Course.Accounted (picky : Bool) (course : Course σ η) : Prop where
  count_eq : course.pool.ledger.count.toNat = min (faultsAfter course.past).length 4294967295
  last_eq : course.pool.ledger.last = (faultsAfter course.past).getLast?
  last_eq_none_iff : course.pool.ledger.last = none ↔ (faultsAfter course.past).length = 0
  /-- The settings show the mode that the pool was last told to be in. -/
  config_picky : course.pool.config.picky = modeAfter picky course.past
  /-- At every moment the fault that a command ran into was handed back just if the pool was
  picky by then. -/
  answer_eq_error_iff : ∀ before m later, course.past = before ++ m :: later →
    m.pool.config.picky = modeAfter picky before ∧
      ∀ f, m.outcome.answer = .error f ↔ m.command.fault? = some f ∧ m.pool.config.picky = true
  /-- Whatever ran into no fault left the ledger alone, clearing and changes of mode apart. -/
  quiet : ∀ m ∈ course.past, m.command.fault? = none → m.command ≠ .clearFaults →
    (∀ picky', m.command ≠ .setPicky picky') → m.outcome.pool.ledger = m.pool.ledger

/-- **The ledger shows the account of faults.**  Whatever a pool was opened with and whatever
it was asked since, its ledger counts the faults since they were last cleared and shows the
last of them; they were handed back when the pool was picky; and nothing else was ever entered
in the ledger. -/
theorem Course.accounted_run_ofRecords (card : ScoreCard σ η) (config : PoolConfig)
    (seeds : List (Record η)) (shared : Shared σ) (happenings : List (Happening σ η)) :
    ((Course.start (.ofRecords card config seeds) shared).run happenings).Accounted
      config.picky := by
  let start : Course σ η := Course.start (.ofRecords card config seeds) shared
  obtain ⟨hnow, hbefore⟩ := start.booked_run rfl (Pool.booked_ofRecords card config seeds) happenings
  refine
    { count_eq := hnow.shows.count_eq
      last_eq := hnow.shows.last_eq
      last_eq_none_iff := ?_
      config_picky := hnow.config_picky
      answer_eq_error_iff := fun before m later hsplit => ?_
      quiet := fun m _ hfault hclear hmode => ?_ }
  · rw [hnow.shows.last_eq, List.getLast?_eq_none_iff, List.length_eq_zero_iff]
  · have hm := hbefore before m later hsplit
    refine ⟨hm.config_picky, fun f => ?_⟩
    rw [m.answer_eq_error_iff, hm.config_picky, ← hm.ledger_picky]
  · rw [m.books.1]
    cases hcommand : m.command with
    | clearFaults => exact absurd hcommand hclear
    | setPicky picky' => exact absurd hcommand (hmode picky')
    | _ =>
      rw [hcommand] at hfault
      simp only [Command.ledger, hfault]

end course

end NetworkSelection
