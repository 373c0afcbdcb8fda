import NetworkSelection.Proofs.Effects

/-!
# Nothing is left half done

There are three ways in which a command can fail.  An offer is turned down because a
higher priority holds its place; a record that is to be taken away is not in its place; or
what was handed in makes no sense, which is a fault.  A command that fails leaves the
records, the groups, the current connection and everything that the pools share as it
found them, and at most the ledger tells of it.

## The one exception

Being told what the current connection is does two things, and the first of them is done
even if the second fails: the configuration is known, the BSSID is not.  The BSSID of the
connection before would be wrong by then, and so none is current.

* `Ledger.Notes`: one more fault, and nothing else.
* `Pool.Untorn`, `Pool.untorn`: how each command can fail, and what it leaves behind.
-/

namespace NetworkSelection

variable {σ η : Type}

/-! ## What the ledger tells -/

/-- A ledger tells of one more fault than it did before. -/
structure Ledger.Notes (before : Ledger) (f : Fault) (after : Ledger) : Prop where
  last_eq : after.last = some f
  count_eq : after.count.toNat = min (before.count.toNat + 1) 4294967295
  picky_eq : after.picky = before.picky

theorem Ledger.notes_record (ledger : Ledger) (f : Fault) : ledger.Notes f (ledger.record f) :=
  ⟨rfl, toNat_oneMore ledger.count, rfl⟩

namespace Pool

variable [BssidHandle η σ]

/-! ## Every failure -/

/-- What the commands to a pool leave behind when they fail, and when they do. -/
structure Untorn (pool : Pool σ η) (shared : Shared σ) : Prop where
  /-- An offer is turned down just if a higher priority holds its place; otherwise it is
  taken.  When it is turned down, nothing changes, the ledger included. -/
  add : ∀ key config seen,
    let outcome := pool.apply shared (.add key config seen)
    (outcome.answer = .ok (.added false) ↔ pool.OutrankedAt key seen.nominator) ∧
      (outcome.answer ≠ .ok (.added true) →
        outcome.answer = .ok (.added false) ∧ outcome.pool = pool ∧ outcome.shared = shared)
  /-- A scan result that is not taken in changes at most the ledger.  Either it has a key
  whose place a higher priority holds, and then the ledger stays as well; or it has none, and
  then just the reason for that is noted. -/
  addScan : ∀ scan config? nomination,
    let outcome := pool.apply shared (.addScan scan config? nomination)
    outcome.answer ≠ .ok (.added true) →
      ∃ ledger, outcome.pool = { pool with ledger } ∧ outcome.shared = shared ∧
        ((∃ key, Key.resolve scan config? = .ok key ∧
            pool.OutrankedAt key nomination.nominator ∧ ledger = pool.ledger ∧
            outcome.answer = .ok (.added false)) ∨
          ∃ f, Key.resolve scan config? = .error f ∧ pool.ledger.Notes f ledger ∧
            outcome.answer = pool.ledger.answer f (.added false))
  /-- Resolving a key changes at most the ledger, whatever comes of it. -/
  resolve : ∀ scan config?,
    let outcome := pool.apply shared (.resolve scan config?)
    ∃ ledger, outcome.pool = { pool with ledger } ∧ outcome.shared = shared
  /-- A record is not found just if it is not in its place, and then nothing changes. -/
  remove : ∀ r,
    let outcome := pool.apply shared (.remove r)
    (outcome.answer = .ok (.removed false) ↔
        ¬ ∃ held, pool.get? r.key = some held ∧ held.serial = r.serial) ∧
      (outcome.answer = .ok (.removed false) → outcome.pool = pool ∧ outcome.shared = shared)
  /-- If the BSSID of the current connection is no address, the configuration is current, no
  BSSID is, and the fault is noted. -/
  setCurrent : ∀ id text reason, MacAddress.parse text = .error reason →
    let f := Fault.invalidCurrentBssid text reason
    let outcome := pool.apply shared (.setCurrent id (some text))
    ∃ ledger,
      outcome.pool = { pool with currentNetwork := id, currentBssid := none, ledger } ∧
        outcome.shared = shared ∧ pool.ledger.Notes f ledger ∧
        outcome.answer = pool.ledger.answer f .done

/-- **Nothing is left half done.**  This holds of every pool, over whatever card and
whatever its past. -/
theorem untorn (pool : Pool σ η) (shared : Shared σ) : pool.Untorn shared where
  add key config seen := by
    intro outcome
    have hoffer : Command.offer? (.add key config seen : Command η) =
        some ⟨key, config, seen⟩ := rfl
    by_cases h : pool.OutrankedAt key seen.nominator
    · have hfails := apply_of_outrankedAt hoffer h shared
      exact ⟨iff_of_true hfails.1 h, fun _ => hfails⟩
    · have htaken : outcome.answer = .ok (.added true) :=
        (apply_of_not_outrankedAt hoffer h shared).1
      refine ⟨iff_of_false (fun he => ?_) h, fun hne => absurd htaken hne⟩
      exact absurd (htaken.symm.trans he) (by simp)
  addScan scan config? nomination := by
    intro outcome hne
    cases hoffer : Offer.ofScan? scan config? nomination with
    | none =>
      obtain ⟨f, hkey⟩ := Offer.ofScan?_eq_none_iff.mp hoffer
      have hfault : Command.fault? (.addScan scan config? nomination : Command η) = some f := by
        simp only [Command.fault?, hkey]
      obtain ⟨hanswer, hpool, hshared, -⟩ := apply_of_fault hfault pool shared
      exact ⟨_, hpool, hshared, Or.inr ⟨f, hkey, pool.ledger.notes_record f, hanswer⟩⟩
    | some offer =>
      obtain ⟨hkey, -, hseen⟩ := Offer.of_ofScan? hoffer
      have hoffer : Command.offer? (.addScan scan config? nomination : Command η) = some offer :=
        hoffer
      by_cases h : pool.OutrankedAt offer.key offer.seen.nominator
      · obtain ⟨hanswer, hpool, hshared⟩ := apply_of_outrankedAt hoffer h shared
        rw [hseen] at h
        exact ⟨pool.ledger, hpool, hshared, Or.inl ⟨offer.key, hkey, h, rfl, hanswer⟩⟩
      · exact absurd (apply_of_not_outrankedAt hoffer h shared).1 hne
  resolve scan config? := by
    intro outcome
    cases hkey : Key.resolve scan config? with
    | ok key =>
      refine ⟨pool.ledger, ?_, rfl⟩
      simp only [outcome, apply, Pool.resolve, hkey]
      rfl
    | error f =>
      have hfault : Command.fault? (.resolve scan config? : Command η) = some f := by
        simp only [Command.fault?, hkey]
      obtain ⟨-, hpool, hshared, -⟩ := apply_of_fault hfault pool shared
      exact ⟨_, hpool, hshared⟩
  remove r := by
    intro outcome
    have hanswer : outcome.answer = .ok (.removed (pool.remove r).1) := rfl
    rw [hanswer, remove_fst, ← holds_iff]
    cases hholds : pool.holds r with
    | true => simp
    | false =>
      refine ⟨by simp, fun _ => ⟨?_, rfl⟩⟩
      show (pool.remove r).2 = pool
      rw [remove_of_not_holds hholds]
  setCurrent id text reason hparse := by
    intro f outcome
    have hfault : Command.fault? (.setCurrent id (some text) : Command η) = some f := by
      simp only [Command.fault?, hparse, f]
    obtain ⟨hanswer, hpool, hshared, -⟩ := apply_of_fault hfault pool shared
    simp only [Command.current, Option.bind_some, hparse] at hpool
    exact ⟨_, hpool, hshared, pool.ledger.notes_record f, hanswer⟩

end Pool

end NetworkSelection
