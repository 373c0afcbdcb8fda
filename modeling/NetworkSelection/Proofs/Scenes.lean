import NetworkSelection.Proofs.Consistency
import NetworkSelection.Session
import Mathlib.Data.List.Induction

/-!
# The scenes of a session

An action together with the session that it meets is a *scene*.  A session that has gone
through a list of actions has a list of scenes behind it, one for each action, and these are
what a statement about an interleaving of several pools can speak of: what was asked, of
which pool, and what came of it.

Of a scene it matters to the history whether an offer was taken, and by the same token what
was noted about the access point of the offer; and whether a connection event was recorded.

* `Session.scenes`: the scenes that a list of actions leads through.
* `Session.Scene.turn_of_command`: a command to a pool is a moment in the life of this pool;
  `Session.Scene.history_of_command`: what it does to the history.
* `Session.exists_openPool_of_mem`, `Session.indexed_run`: what can be said of every pool of a
  session, its card and the agreement of its indices.
-/

namespace NetworkSelection

namespace Session

/-- An action, with the session that it meets. -/
structure Scene where
  session : Session
  action : Action

/-- The scenes that these actions lead through, the earliest first. -/
def scenes (session : Session) : List Action → List Scene
  | [] => []
  | action :: rest => ⟨session, action⟩ :: (session.perform action).session.scenes rest

theorem run_concat (session : Session) (actions : List Action) (action : Action) :
    session.run (actions ++ [action]) = ((session.run actions).perform action).session := by
  simp only [run, List.foldl_append, List.foldl_cons, List.foldl_nil]

/-- The actions that come later meet the session that the ones before them have led to. -/
theorem scenes_append (session : Session) (actions later : List Action) :
    session.scenes (actions ++ later) =
      session.scenes actions ++ (session.run actions).scenes later := by
  induction actions generalizing session with
  | nil => rfl
  | cons first rest ih =>
    rw [List.cons_append, scenes, ih]
    rfl

/-- The last action meets the session that the actions before it have led to. -/
theorem scenes_concat (session : Session) (actions : List Action) (action : Action) :
    session.scenes (actions ++ [action]) =
      session.scenes actions ++ [⟨session.run actions, action⟩] :=
  scenes_append session actions [action]

/-- The scenes are scenes of the actions. -/
theorem map_action_scenes (session : Session) (actions : List Action) :
    (session.scenes actions).map Scene.action = actions := by
  induction actions generalizing session with
  | nil => rfl
  | cons action rest ih => rw [scenes, List.map_cons, ih]

/-- A scene meets the session that the scenes before it have led to. -/
theorem session_of_scenes {actions : List Action} {before later : List Scene} {s : Scene}
    (h : ({} : Session).scenes actions = before ++ s :: later) :
    s.session = ({} : Session).run (before.map Scene.action) := by
  revert before s later
  induction actions using List.reverseRecOn with
  | nil => exact fun h => absurd h (by simp [scenes])
  | append_singleton actions action ih =>
    intro before later s h
    rw [scenes_concat] at h
    refine forall_split_concat (P := fun before s =>
      s.session = ({} : Session).run (before.map Scene.action)) (fun _ _ _ => ih) ?_ _ _ _ h
    rw [map_action_scenes]

/-- A pool of a session was opened in it, and goes on consulting the card that it was opened
with. -/
theorem exists_openPool_of_mem {actions : List Action} {pool : Pool History Handle}
    (h : pool ∈ (({} : Session).run actions).pools) :
    ∃ kind config seeds, .openPool kind config seeds ∈ actions ∧ pool.card = kind.card := by
  induction actions using List.reverseRecOn generalizing pool with
  | nil => exact absurd h List.not_mem_nil
  | append_singleton actions action ih =>
    have hearlier : ∀ {earlier}, earlier ∈ (({} : Session).run actions).pools →
        pool.card = earlier.card → ∃ kind config seeds,
          .openPool kind config seeds ∈ actions ++ [action] ∧ pool.card = kind.card := by
      intro earlier hmem hcard
      obtain ⟨kind, config, seeds, hopen, hkind⟩ := ih hmem
      exact ⟨kind, config, seeds, List.mem_append_left _ hopen, hcard.trans hkind⟩
    rw [run_concat] at h
    cases action with
    | openPool kind config seeds =>
      rcases List.mem_append.mp h with hmem | hmem
      · exact hearlier hmem rfl
      · rw [List.mem_singleton.mp hmem]
        exact ⟨kind, config, seeds, by simp, Pool.card_ofRecords kind.card config seeds⟩
    | command index command =>
      simp only [perform] at h
      split at h
      · exact hearlier h rfl
      · next opened hopened =>
        rcases List.mem_or_eq_of_mem_set h with hmem | rfl
        · exact hearlier hmem rfl
        · let m : Moment History Handle := ⟨opened, (({} : Session).run actions).shared, command⟩
          exact hearlier (List.mem_of_getElem? hopened) m.standsAs.card_eq
    | observe ap source sample times => exact hearlier h rfl
    | touch ap => exact hearlier h rfl
    | annotate ap security id => exact hearlier h rfl
    | make candidate => exact hearlier h rfl

namespace Scene

/-- What the action brings. -/
def turn (s : Scene) : Turn :=
  s.session.perform s.action

/-- The offer that a pool took, if one did. -/
def taken? (s : Scene) : Option Offer :=
  match s.action, s.turn.result with
  | .command _ command, .answered (.ok (.added true)) => command.offer?
  | _, _ => none

/-- The pool of this number consults the history, and takes this offer. -/
def Takes (s : Scene) (index : Nat) (offer : Offer) : Prop :=
  ∃ command pool, s.action = .command index command ∧ s.session.pools[index]? = some pool ∧
    pool.card = History.card ∧ s.taken? = some offer

/-- The access point for which a connection event was recorded, if one was. -/
def observed? (s : Scene) : Option AccessPoint :=
  match s.action with
  | .observe _ _ _ 0 => none
  | .observe ap _ _ _ => some ap
  | _ => none

/-- What an offer that was taken nominated an access point with: the security type of its key
and the configuration. -/
def nomination? (ap : AccessPoint) (s : Scene) : Option (Security × NetworkId) :=
  s.taken?.bind fun offer =>
    if offer.key.accessPoint = ap then some (offer.key.security, offer.config.id) else none

/-- The moment in the life of a pool that a scene is. -/
def moment (s : Scene) (pool : Pool History Handle) (command : Command Handle) :
    Moment History Handle :=
  { pool, shared := s.session.shared, command }

/-- A command to a pool that was opened is a moment in its life. -/
theorem turn_of_command {s : Scene} {index : Nat} {command : Command Handle}
    {pool : Pool History Handle} (haction : s.action = .command index command)
    (hpool : s.session.pools[index]? = some pool) :
    let outcome := (s.moment pool command).outcome
    s.turn =
      { result := .answered outcome.answer
        session :=
          { pools := s.session.pools.set index outcome.pool, shared := outcome.shared }
        events := outcome.events } := by
  simp only [turn, haction, perform, hpool]
  rfl

/-- A pool takes an offer at a scene if it does at this moment. -/
theorem taken?_of_command {s : Scene} {index : Nat} {command : Command Handle}
    {pool : Pool History Handle} (haction : s.action = .command index command)
    (hpool : s.session.pools[index]? = some pool) :
    s.taken? = (s.moment pool command).taken? := by
  unfold taken? Moment.taken? Moment.admitted
  rw [turn_of_command haction hpool, haction]
  cases (s.moment pool command).outcome.answer with
  | error f => rfl
  | ok answer =>
    cases answer with
    | added taken => cases taken <;> rfl
    | _ => rfl

/-- A command changes no other pool than the one that it is given to. -/
theorem pools_of_command {s : Scene} {index : Nat} {command : Command Handle}
    {pool : Pool History Handle} (haction : s.action = .command index command)
    (hpool : s.session.pools[index]? = some pool) :
    s.turn.session.pools = s.session.pools.set index (s.moment pool command).outcome.pool :=
  congrArg (fun turn => turn.session.pools) (turn_of_command haction hpool)

/-- A command leaves its pool at the number that it has. -/
theorem getElem?_pools_of_command {s : Scene} {index : Nat} {command : Command Handle}
    {pool : Pool History Handle} (haction : s.action = .command index command)
    (hpool : s.session.pools[index]? = some pool) :
    s.turn.session.pools[index]? = some (s.moment pool command).outcome.pool := by
  have hlt : index < s.session.pools.length := (List.getElem?_eq_some_iff.mp hpool).1
  rw [pools_of_command haction hpool, List.getElem?_set_self hlt]

/-- An offer that a pool takes is noted in the history, and nothing else is. -/
theorem history_of_command {s : Scene} {index : Nat} {command : Command Handle}
    {pool : Pool History Handle} (haction : s.action = .command index command)
    (hpool : s.session.pools[index]? = some pool) :
    s.turn.session.shared.history =
      match s.taken? with
      | some offer => (pool.attach offer.key offer.config s.session.shared.history).history
      | none => s.session.shared.history := by
  rw [turn_of_command haction hpool, taken?_of_command haction hpool]
  exact (s.moment pool command).history_eq

end Scene

/-! ## The pools of a session -/

/-- The records that a pool is opened with at this scene, if one is, exist already. -/
def Scene.SeedsIssued (s : Scene) : Prop :=
  ∀ kind config seeds, s.action = .openPool kind config seeds →
    Pool.Issued s.session.shared.nextSerial seeds

/-- Where no pool is opened with records there are none that would have to exist. -/
theorem seedsIssued_of_forall_nil {session : Session} {actions : List Action}
    (h : ∀ kind config seeds, .openPool kind config seeds ∈ actions → seeds = []) :
    ∀ s ∈ session.scenes actions, s.SeedsIssued := by
  intro s hs kind config seeds haction
  have hmem : s.action ∈ actions := by
    rw [← map_action_scenes session actions]
    exact List.mem_map_of_mem hs
  rw [h kind config seeds (haction ▸ hmem)]
  exact Pool.issued_of_nodup (by simp) List.nodup_nil

/-- In every pool of a session the indices agree. -/
def Indexed (session : Session) : Prop :=
  ∀ pool ∈ session.pools, pool.Indexed session.shared.nextSerial

/-- Every action keeps the indices in agreement. -/
theorem Scene.indexed (s : Scene) (h : s.session.Indexed) (hseeds : s.SeedsIssued) :
    s.turn.session.Indexed := by
  cases haction : s.action with
  | openPool kind config seeds =>
    simp only [turn, haction, perform]
    intro pool hpool
    rcases List.mem_append.mp hpool with hmem | hmem
    · exact h pool hmem
    · rw [List.mem_singleton.mp hmem]
      exact Pool.indexed_ofRecords (hseeds kind config seeds haction) kind.card config
  | command index command =>
    cases hpool : s.session.pools[index]? with
    | none =>
      simp only [turn, haction, perform, hpool]
      exact h
    | some pool =>
      let m := s.moment pool command
      have hindexed : m.pool.Indexed m.shared.nextSerial := h pool (List.mem_of_getElem? hpool)
      rw [turn_of_command haction hpool]
      intro other hother
      rcases List.mem_or_eq_of_mem_set hother with hmem | rfl
      · exact (h other hmem).mono m.nextSerial_le
      · exact m.indexed hindexed
  | observe ap source sample times => simp only [turn, haction, perform]; exact h
  | touch ap => simp only [turn, haction, perform]; exact h
  | annotate ap security id => simp only [turn, haction, perform]; exact h
  | make candidate =>
    simp only [turn, haction, perform]
    exact fun pool hpool => (h pool hpool).mono (Nat.le_succ _)

theorem indexed_run {actions : List Action}
    (hseeds : ∀ s ∈ ({} : Session).scenes actions, s.SeedsIssued) :
    (({} : Session).run actions).Indexed := by
  induction actions using List.reverseRecOn with
  | nil => exact fun pool hpool => absurd hpool List.not_mem_nil
  | append_singleton actions action ih =>
    rw [scenes_concat] at hseeds
    obtain ⟨hseeds, hlast⟩ := List.forall_mem_append.mp hseeds
    rw [run_concat]
    exact Scene.indexed ⟨_, action⟩ (ih hseeds) (List.forall_mem_singleton.mp hlast)

/-- So do they in every pool that a scene meets. -/
theorem indexed_of_mem_scenes {actions : List Action}
    (hseeds : ∀ s ∈ ({} : Session).scenes actions, s.SeedsIssued) {s : Scene}
    (hs : s ∈ ({} : Session).scenes actions) : s.session.Indexed := by
  obtain ⟨before, later, hsplit⟩ := List.append_of_mem hs
  have hactions : actions = before.map Scene.action ++ s.action :: later.map Scene.action := by
    rw [← map_action_scenes {} actions, hsplit, List.map_append, List.map_cons]
  rw [hactions, scenes_append, List.forall_mem_append] at hseeds
  rw [session_of_scenes hsplit]
  exact indexed_run hseeds.1

end Session

end NetworkSelection
