import NetworkSelection.Proofs.Reports
import NetworkSelection.Scenario

/-!
# Annotations of a shared history

Several pools share one history, and each of them decides by its own records which offers it
takes.  What the history notes about an access point is nevertheless simple to tell from the
whole interleaving: it is what the latest offer that was taken by any of the pools nominated
it with.  Offers of different keys may be about the same access point, and then the later one
overwrites the earlier one, whoever took it.

The history of an access point begins with the first offer taken for it or with the first
connection event, whichever comes first, and an event leaves the annotation alone.

* `Session.Action.Shares`: the actions of pools that share the history, and the recording of
  events.
* `Session.Scene.Notes`: what one scene does to the annotation of an access point.
* `Session.annotation_eq_latest`: what is noted at the end of any interleaving.
-/

namespace NetworkSelection

/-- The annotation of an access point: the security type and the configuration that it was
nominated with, or neither. -/
def History.annotation (ap : AccessPoint) (history : History) :
    Option Security × Option NetworkId :=
  ((history.known ap).security, (history.known ap).id)

namespace Session

/-- The actions of pools that share the history, and the recording of events.  Nobody else
has access to the history. -/
def Action.Shares : Action → Prop
  | .openPool card _ _ => card = .history
  | .touch _ => False
  | .annotate .. => False
  | _ => True

/-- All pools of a session consult its history. -/
def Shared (session : Session) : Prop :=
  ∀ pool ∈ session.pools, pool.card = History.card

/-- The latest nomination of an access point in these scenes. -/
def latestNomination (ap : AccessPoint) (scenes : List Scene) : Option (Security × NetworkId) :=
  (scenes.filterMap (Scene.nomination? ap)).getLast?

namespace Scene

/-! ## One scene -/

/-- What a scene does to what is known about an access point: its history begins with a
nomination or an event, a nomination replaces the annotation, and nothing else does. -/
structure Notes (s : Scene) (ap : AccessPoint) : Prop where
  known_iff : s.turn.session.shared.history.get? ap ≠ none ↔
    s.session.shared.history.get? ap ≠ none ∨ s.nomination? ap ≠ none ∨ s.observed? = some ap
  annotation_eq : s.turn.session.shared.history.annotation ap =
    match s.nomination? ap with
    | some (security, id) => (some security, some id)
    | none => s.session.shared.history.annotation ap

/-- A scene without a nomination of an access point or an event for it that leaves its history
as it was. -/
theorem Notes.of_quiet {s : Scene} {ap : AccessPoint} (hnomination : s.nomination? ap = none)
    (hobserved : s.observed? ≠ some ap)
    (hget : s.turn.session.shared.history.get? ap = s.session.shared.history.get? ap) :
    s.Notes ap where
  known_iff := by simp [hget, hnomination, hobserved]
  annotation_eq := by
    rw [hnomination, History.annotation, History.known, hget]
    rfl

/-- A command notes the offer that is taken, if one is. -/
theorem notes_of_command {s : Scene} {index : Nat} {command : Command Handle}
    {pool : Pool History Handle} (haction : s.action = .command index command)
    (hpool : s.session.pools[index]? = some pool) (hcard : pool.card = History.card)
    (ap : AccessPoint) : s.Notes ap := by
  have hhistory := history_of_command haction hpool
  have hobserved : s.observed? ≠ some ap := by simp [observed?, haction]
  cases hoffer : s.taken? with
  | none =>
    rw [hoffer] at hhistory
    exact .of_quiet (by rw [nomination?, hoffer]; rfl) hobserved (by rw [hhistory])
  | some offer =>
    have hget : s.turn.session.shared.history.get? ap =
        if ap = offer.key.accessPoint then
          some { s.session.shared.history.known offer.key.accessPoint with
            security := some offer.key.security, id := some offer.config.id }
        else s.session.shared.history.get? ap := by
      rw [hhistory, hoffer]
      exact Pool.get?_attach hcard offer.key offer.config s.session.shared.history ap
    have hnomination : s.nomination? ap =
        if offer.key.accessPoint = ap then some (offer.key.security, offer.config.id)
        else none := by
      rw [nomination?, hoffer]
      rfl
    by_cases h : offer.key.accessPoint = ap
    · rw [if_pos h.symm] at hget
      rw [if_pos h] at hnomination
      refine ⟨by simp [hget, hnomination], ?_⟩
      rw [hnomination, History.annotation, History.known, hget]
      rfl
    · rw [if_neg fun he => h he.symm] at hget
      rw [if_neg h] at hnomination
      exact .of_quiet hnomination hobserved hget

/-- An event that is recorded begins the history and leaves the annotation alone. -/
theorem notes_of_observe {s : Scene} {place : AccessPoint} {source : SignalSource}
    {sample : SignalSample} {times : Nat} (haction : s.action = .observe place source sample times)
    (ap : AccessPoint) : s.Notes ap := by
  have hnomination : s.nomination? ap = none := by simp only [nomination?, taken?, haction]; rfl
  have hobserved : s.observed? = some ap ↔ ap = place ∧ times ≠ 0 :=
    observed?_of_observe haction ap
  have hget := get?_of_observe haction ap
  by_cases h : ap = place ∧ times ≠ 0
  · obtain ⟨rfl, htimes⟩ := h
    rw [if_pos ⟨rfl, htimes⟩] at hget
    obtain ⟨hsecurity, hid⟩ := BssidHistory.annotation_observe_iterate source sample times
      (s.session.shared.history.known ap)
    refine ⟨by simp [hget, hobserved, htimes], ?_⟩
    rw [hnomination, History.annotation, History.known, hget, Option.getD_some, hsecurity, hid]
    rfl
  · rw [if_neg h] at hget
    exact .of_quiet hnomination (fun he => h (hobserved.mp he)) hget

/-- **What one scene notes.** -/
theorem notes (s : Scene) (hshared : s.session.Shared) (haction : s.action.Shares)
    (ap : AccessPoint) : s.Notes ap := by
  cases h : s.action with
  | openPool kind config seeds =>
    refine .of_quiet ?_ ?_ ?_ <;> simp [nomination?, taken?, observed?, turn, Session.perform, h]
  | command index command =>
    cases hpool : s.session.pools[index]? with
    | some pool =>
      exact notes_of_command h hpool (hshared pool (List.mem_of_getElem? hpool)) ap
    | none =>
      refine .of_quiet ?_ ?_ ?_ <;>
        simp [nomination?, taken?, observed?, turn, Session.perform, h, hpool]
  | observe place source sample times => exact notes_of_observe h ap
  | touch ap => exact (h ▸ haction : Action.Shares (.touch ap)).elim
  | annotate ap security id => exact (h ▸ haction : Action.Shares (.annotate ap security id)).elim
  | make candidate =>
    refine .of_quiet ?_ ?_ ?_ <;> simp [nomination?, taken?, observed?, turn, Session.perform, h]

end Scene

/-! ## Any interleaving -/

/-- All pools of a session consult its history if they were opened to do so. -/
theorem shared_run {actions : List Action} (h : ∀ action ∈ actions, action.Shares) :
    (({} : Session).run actions).Shared := by
  intro pool hpool
  obtain ⟨kind, config, seeds, hopen, hcard⟩ := exists_openPool_of_mem hpool
  have hkind : kind = .history := h _ hopen
  rw [hcard, hkind]
  rfl

/-- What the scenes of a session tell about an access point is what its history knows. -/
structure Recounts (ap : AccessPoint) (scenes : List Scene) (history : History) : Prop where
  /-- The history of an access point has begun if an offer was taken for it or an event was
  recorded. -/
  known_iff : history.get? ap ≠ none ↔
    ∃ s ∈ scenes, s.nomination? ap ≠ none ∨ s.observed? = some ap
  /-- The annotation is that of the latest nomination. -/
  annotation_eq : history.annotation ap =
    ((latestNomination ap scenes).map (·.1), (latestNomination ap scenes).map (·.2))
  /-- Whatever is no nomination leaves the annotation alone. -/
  quiet : ∀ s ∈ scenes, s.nomination? ap = none →
    s.turn.session.shared.history.annotation ap = s.session.shared.history.annotation ap

/-- One more scene. -/
theorem Recounts.concat {ap : AccessPoint} {scenes : List Scene} {s : Scene}
    (h : Recounts ap scenes s.session.shared.history) (hnotes : s.Notes ap) :
    Recounts ap (scenes ++ [s]) s.turn.session.shared.history where
  known_iff := by
    rw [hnotes.known_iff, h.known_iff]
    simp only [List.mem_append, List.mem_singleton, or_and_right, exists_or, exists_eq_left]
  annotation_eq := by
    rw [hnotes.annotation_eq, latestNomination, List.filterMap_append]
    cases hnomination : s.nomination? ap with
    | none =>
      rw [List.filterMap_cons_none hnomination, List.filterMap_nil, List.append_nil]
      exact h.annotation_eq
    | some nomination =>
      rw [List.filterMap_cons_some hnomination, List.filterMap_nil, List.getLast?_concat]
      rfl
  quiet := by
    rw [List.forall_mem_append, List.forall_mem_singleton]
    refine ⟨h.quiet, fun hnone => ?_⟩
    rw [hnotes.annotation_eq, hnone]

/-- **The history notes the latest nomination.**  Whatever pools share it and however their
work and the recording of events are interleaved, the history of an access point has begun if
some pool took an offer for it or an event was recorded there; and it is annotated with the
latest offer that any of the pools took, and with nothing if there was none. -/
theorem annotation_eq_latest (actions : List Action) (h : ∀ action ∈ actions, action.Shares)
    (ap : AccessPoint) :
    Recounts ap (({} : Session).scenes actions) (({} : Session).run actions).shared.history := by
  induction actions using List.reverseRecOn with
  | nil => exact ⟨by simp [run, scenes, History.get?], by rfl, by simp [scenes]⟩
  | append_singleton actions action ih =>
    obtain ⟨hactions, haction⟩ := List.forall_mem_append.mp h
    rw [run_concat, scenes_concat]
    let s : Scene := ⟨({} : Session).run actions, action⟩
    have hnotes : s.Notes ap :=
      s.notes (shared_run hactions) (haction action (List.mem_singleton_self action)) ap
    exact (ih hactions).concat hnotes

/-- Two pools that nominate one access point under different configurations.  The second one
turns a later offer down, the first one takes away what it took, and an event is recorded;
what is noted is the offer that the second pool took. -/
theorem annotation_eq_latest_two_pools :
    let scan := Scenario.scan ⟨"home"⟩ 7 (-50)
    let ap : AccessPoint := ⟨⟨"home"⟩, Scenario.radio 7⟩
    let config (id : Int32) : Option NetworkConfig := some (Scenario.config ⟨id⟩ ⟨"home"⟩)
    let made : Record Handle :=
      { serial := 0
        candidate := .make (.ofIdentity ⟨⟨"home"⟩, .psk⟩ (Scenario.radio 7) ⟨3⟩)
          (Scenario.config ⟨3⟩ ⟨"home"⟩) (Observation.ofScan scan .saved) (some (.tracked ap))
          ⟨false, false⟩ 50 }
    let actions : List Action :=
      [.openPool .history .lenient [], .openPool .history .strict [],
        .command 0 (.addScan scan (config 3) {}),
        .command 1 (.addScan scan (config 4) { nominator := ⟨2⟩ }),
        .command 1 (.addScan scan (config 4) { nominator := ⟨5⟩ }),
        .command 0 (.remove made), .observe ap ⟨.validated, 5180⟩ ⟨-50, 433, 1200⟩ 1]
    let scenes := ({} : Session).scenes actions
    (∀ action ∈ actions, action.Shares) ∧ latestNomination ap scenes = some (.psk, ⟨4⟩) ∧
      Recounts ap scenes (({} : Session).run actions).shared.history := by
  intro scan ap config made actions scenes
  have hshares : ∀ action ∈ actions, action.Shares := by simp [actions, Action.Shares]
  exact ⟨hshares, by decide, annotation_eq_latest actions hshares ap⟩

end Session

end NetworkSelection
