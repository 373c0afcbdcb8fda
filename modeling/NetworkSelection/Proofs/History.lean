import NetworkSelection.Proofs.Effects
import NetworkSelection.Session
import Mathlib.Logic.Function.Iterate

/-!
# What the history knows

The history is looked into by access point.  For each thing that happens to it there is one
lemma that says what is known about an access point afterwards: asking for it begins its
history, an event is added to its statistics, and a nomination replaces its annotation.  All
of them concern one access point and leave the others alone, and each of them changes either
the annotation or the statistics and never both.

* `History.get?_touch`, `History.get?_observe`, `Session.get?_observe`, `Pool.get?_attach`.
* `History.SameSignals`: two histories have the same statistics; estimates are then the same
  (`History.SameSignals.availability_eq`), and neither nominations nor any other command make a
  difference to this (`Pool.sameSignals_attach`, `Moment.sameSignals`).
-/

namespace NetworkSelection

namespace History

variable {ap other : AccessPoint} {history : History}

/-- A history is what it knows. -/
theorem ext_get? {history history' : History} (h : ∀ ap, history.get? ap = history'.get? ap) :
    history = history' :=
  congrArg History.mk (Std.ExtTreeMap.ext_getElem? h)

theorem get?_modify (ap other : AccessPoint) (change : BssidHistory → BssidHistory)
    (history : History) :
    (history.modify ap change).get? other =
      if other = ap then some (change (history.known ap)) else history.get? other := by
  split
  · next h => rw [h, get?_modify_self]
  · next h => exact get?_modify_of_ne change history h

theorem known_modify (ap other : AccessPoint) (change : BssidHistory → BssidHistory)
    (history : History) :
    (history.modify ap change).known other =
      if other = ap then change (history.known ap) else history.known other := by
  rw [known, get?_modify]
  split <;> rfl

/-- Asking for an access point begins its history, and teaches nothing about it. -/
theorem get?_touch (ap other : AccessPoint) (history : History) :
    (history.touch ap).1.get? other =
      if other = ap then some (history.known ap) else history.get? other := by
  unfold touch
  split
  · next known hget =>
    split
    · next h => rw [h, History.known, hget]; rfl
    · rfl
  · exact get?_modify ap other id history

@[simp] theorem known_touch (ap other : AccessPoint) (history : History) :
    (history.touch ap).1.known other = history.known other := by
  rw [known, get?_touch]
  split
  · next h => rw [h]; rfl
  · rfl

/-- One more observation at an access point. -/
theorem get?_observe (ap other : AccessPoint) (source : SignalSource) (sample : SignalSample)
    (history : History) :
    (history.observe ap source sample).1.get? other =
      if other = ap then some ((history.known ap).observe source sample)
      else history.get? other := by
  show ((history.touch ap).1.modify ap _).get? other = _
  rw [get?_modify, known_touch, get?_touch]
  split <;> rfl

end History

/-! ## Recording events -/

theorem Session.observe_succ (ap : AccessPoint) (source : SignalSource) (sample : SignalSample)
    (times : Nat) (history : History) (before : List LogEvent) :
    Session.observe ap source sample (times + 1) (history, before) =
      Session.observe ap source sample times
        ((history.observe ap source sample).1,
          before ++ (history.observe ap source sample).2) := rfl

/-- An event that is recorded several times is observed as often. -/
theorem Session.get?_observe (ap other : AccessPoint) (source : SignalSource)
    (sample : SignalSample) (times : Nat) (history : History) (before : List LogEvent) :
    (Session.observe ap source sample times (history, before)).1.get? other =
      if other = ap ∧ times ≠ 0 then
        some ((BssidHistory.observe source sample)^[times] (history.known ap))
      else history.get? other := by
  induction times generalizing history before with
  | zero => rw [if_neg (by simp)]; rfl
  | succ times ih =>
    have hknown : (history.observe ap source sample).1.known ap =
        (history.known ap).observe source sample := by
      rw [History.known, History.get?_observe, if_pos rfl]
      rfl
    rw [Session.observe_succ, ih, hknown, History.get?_observe]
    by_cases h : other = ap
    · cases times with
      | zero => simp [h]
      | succ times => simp [h, Function.iterate_succ_apply]
    · simp [h]

namespace BssidHistory

/-- Observations do not change the annotation. -/
theorem annotation_observe_iterate (source : SignalSource) (sample : SignalSample) (times : Nat)
    (known : BssidHistory) :
    ((observe source sample)^[times] known).security = known.security ∧
      ((observe source sample)^[times] known).id = known.id := by
  induction times generalizing known with
  | zero => exact ⟨rfl, rfl⟩
  | succ times ih => rw [Function.iterate_succ_apply]; exact ih (known.observe source sample)

end BssidHistory

/-! ## Nominations -/

/-- A nomination replaces the annotation of the access point of its key. -/
theorem Pool.get?_attach {pool : Pool History Handle} (hcard : pool.card = History.card)
    (key : Key) (config : NetworkConfig) (history : History) (other : AccessPoint) :
    (pool.attach key config history).history.get? other =
      if other = key.accessPoint then
        some { history.known key.accessPoint with
          security := some key.security, id := some config.id }
      else history.get? other := by
  have hattach : (pool.attach key config history).history =
      (history.touch key.accessPoint).1.modify key.accessPoint fun known =>
        { known with security := some key.security, id := some config.id } := by
    unfold attach
    rw [hcard]
    rfl
  rw [hattach, History.get?_modify, History.known_touch, History.get?_touch]
  split <;> rfl

/-- A nomination is noted in no history if the card keeps none. -/
theorem Pool.history_attach {kind : CardKind} {pool : Pool History Handle}
    (hcard : pool.card = kind.card) (hkind : kind ≠ .history) (key : Key) (config : NetworkConfig)
    (history : History) : (pool.attach key config history).history = history := by
  unfold attach
  rw [hcard]
  cases kind with
  | blank => rfl
  | fixed availability => rfl
  | history => exact absurd rfl hkind

/-! ## The statistics -/

/-- Two histories have the same statistics. -/
def History.SameSignals (history history' : History) : Prop :=
  ∀ ap, (history.known ap).signals = (history'.known ap).signals

theorem BssidHistory.availability_congr {known known' : BssidHistory}
    (h : known.signals = known'.signals) : known.availability = known'.availability := by
  have hobserved : ∀ event, known.observed event = known'.observed event := by
    intro event
    rw [observed, observed, h]
  simp only [availability, hobserved]

/-- An estimate is read off the statistics. -/
theorem History.SameSignals.availability_eq {history history' : History}
    (h : history.SameSignals history') (handle : Handle) :
    BssidHandle.availability handle history = BssidHandle.availability handle history' := by
  cases handle with
  | tracked ap => exact BssidHistory.availability_congr (h ap)
  | fixed n => rfl

/-- A nomination adds nothing to the statistics. -/
theorem Pool.sameSignals_attach {kind : CardKind} {pool : Pool History Handle}
    (hcard : pool.card = kind.card) (key : Key) (config : NetworkConfig) (history : History) :
    history.SameSignals (pool.attach key config history).history := by
  intro ap
  by_cases hkind : kind = .history
  · subst hkind
    refine Eq.symm ?_
    rw [History.known, get?_attach hcard]
    split
    · next h => rw [h]; rfl
    · rfl
  · rw [history_attach hcard hkind]

/-- Histories with the same statistics have the same ones after a nomination. -/
theorem Pool.sameSignals_attach_attach {kind : CardKind} {pool pool' : Pool History Handle}
    (hcard : pool.card = kind.card) (hcard' : pool'.card = kind.card) {history history' : History}
    (h : history.SameSignals history') (key : Key) (config : NetworkConfig) :
    ((pool.attach key config history).history).SameSignals
      (pool'.attach key config history').history := fun ap =>
  (sameSignals_attach hcard key config history ap).symm.trans
    ((h ap).trans (sameSignals_attach hcard' key config history' ap))

/-- No command adds anything to the statistics. -/
theorem Moment.sameSignals {kind : CardKind} (m : Moment History Handle)
    (hcard : m.pool.card = kind.card) :
    m.shared.history.SameSignals m.outcome.shared.history := by
  intro ap
  rw [m.history_eq]
  cases m.taken? with
  | none => rfl
  | some taken => exact Pool.sameSignals_attach hcard _ _ _ ap

end NetworkSelection
