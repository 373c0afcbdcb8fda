import NetworkSelection.Proofs.Consistency

/-!
# Whoever left does not come back

Callers keep the records that they were given for as long as they like, and meanwhile a pool
may have taken a record away, replaced it by that of another offer, or renewed it.  From then
on the record is of no use any more: it is never in place again, nor in any group, and asking
for its removal does not touch the record that holds the place now, however much the two are
alike.

All of this rests on the numbers of the records.  A record that comes to a place bears a number
that was given out for it at that moment, so what can be said of the bearer of a number that was
given out before stays true (`Course.bearer_run`).  That nobody in place bears it is such a
statement, and that only one certain record does is another.

* `Moment.get?_or_gives`: whoever is in place was there before or has a new number.
* `Pool.Bearer`, `Course.bearer_run`: what is said of the bearer of an old number.
* `Course.Lasting`, `Course.lasting`: what callers may rely on who keep records.
-/

namespace NetworkSelection

variable {σ η : Type}

section step

variable [BssidHandle η σ]

/-! ## New numbers -/

/-- The command gives out this number. -/
def Moment.Gives (m : Moment σ η) (serial : Nat) : Prop :=
  m.shared.nextSerial ≤ serial ∧ serial < m.outcome.shared.nextSerial

/-- **Whoever is in place after a command was in this place before, or has a new number.** -/
theorem Moment.get?_or_gives (m : Moment σ η) (hindexed : m.pool.Indexed m.shared.nextSerial)
    {key : Key} {r : Record η} (hr : m.outcome.pool.get? key = some r) :
    m.pool.get? key = some r ∨ m.Gives r.serial := by
  unfold Gives
  cases m.effect with
  | idle _ _ _ hkey _ _ =>
    rw [Pool.get?, hkey] at hr
    exact Or.inl hr
  | rejects _ _ _ _ _ _ _ hpool _ =>
    rw [hpool] at hr
    exact Or.inl hr
  | enters offer _ _ _ _ hpool hserial _ =>
    rw [hpool, hindexed.get?_supplant] at hr
    split at hr
    · rw [hserial, ← Option.some.inj hr]
      exact Or.inr ⟨Nat.le_refl _, Nat.lt_succ_self _⟩
    · exact Or.inl hr
  | leaves _ held _ _ _ _ _ hpool _ =>
    rw [hpool, Pool.get?_drop] at hr
    split at hr
    · exact absurd hr (by simp)
    · exact Or.inl hr
  | renews estimate _ _ _ hpool hshared =>
    rw [hpool, hindexed.get?_updateMultiLink] at hr
    obtain ⟨s, hs, rfl⟩ := Option.map_eq_some_iff.mp hr
    have hplace : m.pool.get? s.key = some s := by rw [hindexed.key_eq hs]; exact hs
    rcases hindexed.renewal_cases estimate hplace with ⟨_, hstay⟩ | ⟨hmem, hnew⟩
    · rw [hstay]
      exact Or.inl hs
    · rw [hnew, hshared, hindexed.nextSerial_updateMultiLink]
      exact Or.inr ⟨Pool.le_linkNumber _ _ _, Pool.linkNumber_lt hmem⟩

/-! ## The bearer of a number -/

/-- The number has been given out, and this is true of the record in place that bears it, if
there is one. -/
structure Pool.Bearer (next : Nat) (pool : Pool σ η) (serial : Nat) (P : Record η → Prop) :
    Prop where
  serial_lt : serial < next
  of_get? : ∀ key r, pool.get? key = some r → r.serial = serial → P r

variable {serial : Nat} {P : Record η → Prop}

omit [BssidHandle η σ] in
theorem Pool.Bearer.mono {next next' : Nat} {pool : Pool σ η} (h : pool.Bearer next serial P)
    (hle : next ≤ next') : pool.Bearer next' serial P :=
  ⟨Nat.lt_of_lt_of_le h.serial_lt hle, h.of_get?⟩

theorem Moment.bearer (m : Moment σ η) (hindexed : m.pool.Indexed m.shared.nextSerial)
    (h : m.pool.Bearer m.shared.nextSerial serial P) :
    m.outcome.pool.Bearer m.outcome.shared.nextSerial serial P where
  serial_lt := Nat.lt_of_lt_of_le h.serial_lt m.nextSerial_le
  of_get? key r hr hserial := by
    rcases m.get?_or_gives hindexed hr with hbefore | ⟨hle, _⟩
    · exact h.of_get? key r hbefore hserial
    · -- a new number is none that was given out before
      rw [hserial] at hle
      exact absurd h.serial_lt (Nat.not_lt.mpr hle)

/-- **What is said of the bearer of a number that has been given out stays true.** -/
theorem Course.bearer_run {course : Course σ η}
    (hindexed : course.pool.Indexed course.shared.nextSerial)
    (h : course.pool.Bearer course.shared.nextSerial serial P)
    (happenings : List (Happening σ η)) :
    (course.run happenings).pool.Bearer (course.run happenings).shared.nextSerial serial P := by
  refine (Course.run_induction (motive := fun c => c.pool.Indexed c.shared.nextSerial ∧
    c.pool.Bearer c.shared.nextSerial serial P) ?_ ?_ ⟨hindexed, h⟩ happenings).2
  · rintro c command ⟨hindexed, h⟩
    let m : Moment σ η := ⟨c.pool, c.shared, command⟩
    exact ⟨m.indexed hindexed, m.bearer hindexed h⟩
  · rintro c history serials ⟨hindexed, h⟩
    have hle : c.shared.nextSerial ≤ c.shared.nextSerial + serials := Nat.le_add_right _ _
    exact ⟨hindexed.mono hle, h.mono hle⟩

omit [BssidHandle η σ] in
/-- A record in place is the only one there with its number. -/
theorem Pool.Indexed.bearer {next : Nat} {pool : Pool σ η} (h : pool.Indexed next)
    {r : Record η} (hr : pool.get? r.key = some r) :
    pool.Bearer next r.serial fun s => s = r where
  serial_lt := h.serial_lt hr
  of_get? _ _ hs hserial := h.serial_inj hs hr hserial

/-! ## Taking away -/

/-- The number of the record that was taken away at the caller's request, if one was. -/
def Moment.removedSerial? (m : Moment σ η) : Option Nat :=
  match m.command with
  | .remove r => if m.removed then some r.serial else none
  | _ => none

/-- The moment at which a course is asked to carry out a command. -/
def Course.asked (course : Course σ η) (command : Command η) : Moment σ η :=
  { pool := course.pool, shared := course.shared, command }

theorem Course.removed_asked_remove (course : Course σ η) (r : Record η) :
    (course.asked (.remove r)).removed = course.pool.holds r := by
  rw [← Pool.remove_fst]
  rfl

theorem Course.pool_asked_remove (course : Course σ η) (r : Record η) :
    (course.asked (.remove r)).outcome.pool = (course.pool.remove r).2 := rfl

/-- A number whose bearer was taken away was the number of a record in place, and is so no
more. -/
theorem Moment.bearer_of_removedSerial? {m : Moment σ η}
    (hindexed : m.pool.Indexed m.shared.nextSerial) (h : m.removedSerial? = some serial) :
    (∃ key r, m.pool.get? key = some r ∧ r.serial = serial) ∧
      m.outcome.pool.Bearer m.outcome.shared.nextSerial serial fun _ => False := by
  obtain ⟨r, hcommand, hremoved, rfl⟩ :
      ∃ r, m.command = .remove r ∧ m.removed = true ∧ r.serial = serial := by
    unfold removedSerial? at h
    split at h
    · next r hcommand =>
      split at h
      · next hremoved => exact ⟨r, hcommand, hremoved, Option.some.inj h⟩
      · exact absurd h (by simp)
    · exact absurd h (by simp)
  cases m.effect with
  | leaves r' held hcommand' _ _ hget hserial hpool hshared =>
    obtain rfl : r' = r := Command.remove.inj (hcommand'.symm.trans hcommand)
    rw [hpool, hshared]
    refine ⟨⟨r'.key, held, hget, hserial⟩, hserial ▸ hindexed.serial_lt hget, ?_⟩
    intro key s hs hs'
    rw [Pool.get?_drop] at hs
    split at hs
    · exact absurd hs (by simp)
    · next hne =>
      have hsame : s = held := hindexed.serial_inj hs hget (hs'.trans hserial.symm)
      exact hne (hsame ▸ hindexed.key_eq hs)
  | idle _ _ hno _ _ _ => exact absurd (hremoved.symm.trans hno) (by simp)
  | rejects _ _ _ _ hno _ _ _ _ => exact absurd (hremoved.symm.trans hno) (by simp)
  | enters _ _ _ hno _ _ _ _ => exact absurd (hremoved.symm.trans hno) (by simp)
  | renews _ _ _ hno _ _ => exact absurd (hremoved.symm.trans hno) (by simp)

/-! ## Who came and who was taken away -/

/-- What the past of a pool says about numbers: every record in place bears one that was given
out at some moment, no record was taken away twice, and none that was is in place. -/
structure Course.Numbered (course : Course σ η) : Prop where
  indexed : course.pool.Indexed course.shared.nextSerial
  given : ∀ key r, course.pool.get? key = some r → ∃ m ∈ course.past, m.Gives r.serial
  nodup : (course.past.filterMap Moment.removedSerial?).Nodup
  bearer : ∀ serial ∈ course.past.filterMap Moment.removedSerial?,
    course.pool.Bearer course.shared.nextSerial serial fun _ => False

theorem Course.numbered_empty (card : ScoreCard σ η) (config : PoolConfig) (shared : Shared σ) :
    (Course.start (.empty card config) shared).Numbered where
  indexed := Pool.indexed_empty card config _
  given key r hr := absurd (hr.symm.trans (Pool.get?_empty card config key)) (by simp)
  nodup := List.nodup_nil
  bearer serial hserial := absurd hserial List.not_mem_nil

theorem Course.Numbered.command {course : Course σ η} (h : course.Numbered)
    (command : Command η) : (course.step (.command command)).Numbered := by
  let m := course.asked command
  have hpast : (course.step (.command command)).past.filterMap Moment.removedSerial? =
      course.past.filterMap Moment.removedSerial? ++ m.removedSerial?.toList := by
    show (course.past ++ [m]).filterMap Moment.removedSerial? = _
    rw [List.filterMap_append]
    cases hserial : m.removedSerial? <;> simp [hserial]
  refine ⟨m.indexed h.indexed, ?_, ?_, ?_⟩
  · show ∀ key r, m.outcome.pool.get? key = some r → ∃ u ∈ course.past ++ [m], u.Gives r.serial
    intro key r hr
    rcases m.get?_or_gives h.indexed hr with hbefore | hgives
    · obtain ⟨u, hu, hgives⟩ := h.given key r hbefore
      exact ⟨u, List.mem_append_left _ hu, hgives⟩
    · exact ⟨m, List.mem_append_right _ List.mem_cons_self, hgives⟩
  · rw [hpast, List.nodup_append]
    refine ⟨h.nodup, by cases m.removedSerial? <;> simp, ?_⟩
    rintro serial hold _ hnew rfl
    -- the record that was taken away just now was in place before
    obtain ⟨⟨key, r, hget, hserial⟩, -⟩ :=
      Moment.bearer_of_removedSerial? h.indexed (Option.mem_toList.mp hnew)
    exact (h.bearer serial hold).of_get? key r hget hserial
  · rw [hpast]
    intro serial hserial
    rcases List.mem_append.mp hserial with hold | hnew
    · exact m.bearer h.indexed (h.bearer serial hold)
    · exact (Moment.bearer_of_removedSerial? h.indexed (Option.mem_toList.mp hnew)).2

theorem Course.numbered_run {course : Course σ η} (h : course.Numbered)
    (happenings : List (Happening σ η)) : (course.run happenings).Numbered := by
  refine Course.run_induction (motive := Course.Numbered) (fun _ command h => h.command command)
    ?_ h happenings
  intro c history serials h
  have hle : c.shared.nextSerial ≤ c.shared.nextSerial + serials := Nat.le_add_right _ _
  exact ⟨h.indexed.mono hle, h.given, h.nodup, fun serial hserial =>
    (h.bearer serial hserial).mono hle⟩

/-! ## What callers may rely on -/

/-- A record of this number is found in a place or in a group. -/
def Pool.Finds (pool : Pool σ η) (serial : Nat) : Prop :=
  (∃ key r, pool.get? key = some r ∧ r.serial = serial) ∨
    ∃ mld group r, pool.group? mld = some group ∧ r ∈ group ∧ r.serial = serial

omit [BssidHandle η σ] in
/-- Whoever is found is in place. -/
theorem Pool.Indexed.exists_of_finds {next : Nat} {pool : Pool σ η} (h : pool.Indexed next)
    (hfinds : pool.Finds serial) : ∃ key r, pool.get? key = some r ∧ r.serial = serial := by
  rcases hfinds with hplace | ⟨mld, group, r, hgroup, hr, hserial⟩
  · exact hplace
  · rw [← Pool.links_of_group? hgroup] at hr
    exact ⟨r.key, r, (h.mem_links.mp hr).2, hserial⟩

omit [BssidHandle η σ] in
/-- Only a record whose number is found can be taken away. -/
theorem Pool.holds_of_not_finds {pool : Pool σ η} {r : Record η}
    (h : ¬ pool.Finds r.serial) : pool.holds r = false := by
  refine Bool.eq_false_iff.mpr fun hholds => h ?_
  obtain ⟨held, hget, hserial⟩ := Pool.holds_iff.mp hholds
  exact Or.inl ⟨r.key, held, hget, hserial⟩

omit [BssidHandle η σ] in
/-- A record whose number nobody else bears can be taken away exactly if it is in place. -/
theorem Pool.Bearer.holds_iff {next : Nat} {pool : Pool σ η} {r : Record η}
    (h : pool.Bearer next r.serial fun s => s = r) :
    pool.holds r = true ↔ pool.get? r.key = some r := by
  rw [Pool.holds_iff]
  constructor
  · rintro ⟨held, hget, hserial⟩
    rw [hget, h.of_get? r.key held hget hserial]
  · exact fun hget => ⟨r, hget, rfl⟩

omit [BssidHandle η σ] in
/-- Removing a record leaves those of other numbers in place. -/
theorem Pool.Indexed.get?_remove_of_ne {next : Nat} {pool : Pool σ η} (h : pool.Indexed next)
    {key : Key} {r other : Record η} (hother : pool.get? key = some other)
    (hne : other.serial ≠ r.serial) : (pool.remove r).2.get? key = some other := by
  cases hholds : pool.holds r with
  | false =>
    rw [Pool.remove_of_not_holds hholds]
    exact hother
  | true =>
    obtain ⟨held, hget, hserial⟩ := Pool.holds_iff.mp hholds
    rw [Pool.remove_of_get? hget hserial, Pool.get?_drop, if_neg]
    · exact hother
    · -- the two records are not in one place
      intro hkey
      rw [← hkey, h.key_eq hget, hget] at hother
      exact hne (Option.some.inj hother ▸ hserial)

/-- Of a record that was in place, nobody else ever bears the number. -/
theorem Course.bearer_run_of_get? {course : Course σ η}
    (hindexed : course.pool.Indexed course.shared.nextSerial) {r : Record η}
    (hr : course.pool.get? r.key = some r) (happenings : List (Happening σ η)) :
    (course.run happenings).pool.Bearer (course.run happenings).shared.nextSerial r.serial
      fun s => s = r :=
  Course.bearer_run hindexed (hindexed.bearer hr) happenings

/-- A record that was in place, and then no longer, is not found any more. -/
theorem Course.not_finds_run {course : Course σ η}
    (hindexed : course.pool.Indexed course.shared.nextSerial) {r : Record η}
    (hcame : course.pool.get? r.key = some r) {between : List (Happening σ η)}
    (hwent : (course.run between).pool.get? r.key ≠ some r) (after : List (Happening σ η)) :
    ¬ ((course.run between).run after).pool.Finds r.serial := by
  have honly := Course.bearer_run_of_get? hindexed hcame between
  have hbetween := Course.indexed_run hindexed between
  have hnobody : (course.run between).pool.Bearer (course.run between).shared.nextSerial
      r.serial fun _ => False := by
    refine ⟨honly.serial_lt, fun key s hs hserial => hwent ?_⟩
    obtain rfl : s = r := honly.of_get? key s hs hserial
    rw [hbetween.key_eq hs]
    exact hs
  intro hfinds
  obtain ⟨key, s, hs, hserial⟩ := (Course.indexed_run hbetween after).exists_of_finds hfinds
  exact (Course.bearer_run hbetween hnobody after).of_get? key s hs hserial

/-- A number that is found was given out at some moment. -/
theorem Course.Numbered.exists_gives_of_finds {course : Course σ η} (h : course.Numbered)
    (hfinds : course.pool.Finds serial) : ∃ m ∈ course.past, m.Gives serial := by
  obtain ⟨key, s, hs, rfl⟩ := h.indexed.exists_of_finds hfinds
  exact h.given key s hs

/-- What callers may rely on who keep records, in the course of a pool that begins like this. -/
structure Course.Lasting (opened : Course σ η) : Prop where
  /-- A record that was in place and is so no longer is never found again in either index. -/
  gone : ∀ before between after r, (opened.run before).pool.get? r.key = some r →
    (opened.run (before ++ between)).pool.get? r.key ≠ some r →
    ¬ (opened.run (before ++ between ++ after)).pool.Finds r.serial
  /-- No record is taken away twice. -/
  removed_once : ∀ happenings,
    ((opened.run happenings).past.filterMap Moment.removedSerial?).Nodup
  /-- A record that was in place at some time can be taken away exactly while it still is. -/
  removed_iff : ∀ before between r, (opened.run before).pool.get? r.key = some r →
    let now := opened.run (before ++ between)
    (now.asked (.remove r)).removed = true ↔ now.pool.get? r.key = some r
  /-- A record that bears none of the numbers that were given out for this pool is never found
  in it, and asking for its removal changes nothing. -/
  foreign : ∀ happenings r,
    let now := opened.run happenings
    (∀ m ∈ now.past, ¬ m.Gives r.serial) →
      ¬ now.pool.Finds r.serial ∧ (now.asked (.remove r)).removed = false ∧
        (now.asked (.remove r)).outcome.pool = now.pool
  /-- Asking for the removal of a record never takes another one from its place, whatever the
  two have in common. -/
  others_stay : ∀ happenings r key other,
    let now := opened.run happenings
    now.pool.get? key = some other → other.serial ≠ r.serial →
      (now.asked (.remove r)).outcome.pool.get? key = some other

/-- **Whoever left does not come back**, in the whole course of every pool. -/
theorem Course.lasting (card : ScoreCard σ η) (config : PoolConfig) (shared : Shared σ) :
    (Course.start (.empty card config) shared).Lasting := by
  let opened := Course.start (.empty card config) shared
  have hnumbered : ∀ happenings, (opened.run happenings).Numbered :=
    fun happenings => Course.numbered_run (Course.numbered_empty card config shared) happenings
  constructor
  case removed_once => exact fun happenings => (hnumbered happenings).nodup
  case gone =>
    intro before between after r hcame hwent
    rw [Course.run_append] at hwent
    rw [Course.run_append, Course.run_append]
    exact Course.not_finds_run (hnumbered before).indexed hcame hwent after
  case removed_iff =>
    intro before between r hr now
    rw [Course.removed_asked_remove]
    have honly := Course.bearer_run_of_get? (hnumbered before).indexed hr between
    rw [← Course.run_append] at honly
    exact honly.holds_iff
  case foreign =>
    intro happenings r now hforeign
    have hfinds : ¬ now.pool.Finds r.serial := by
      intro hfinds
      obtain ⟨m, hm, hgives⟩ := (hnumbered happenings).exists_gives_of_finds hfinds
      exact hforeign m hm hgives
    have hholds : now.pool.holds r = false := Pool.holds_of_not_finds hfinds
    refine ⟨hfinds, ?_, ?_⟩
    · rw [Course.removed_asked_remove, hholds]
    · rw [Course.pool_asked_remove, Pool.remove_of_not_holds hholds]
  case others_stay =>
    intro happenings r key other now hother hne
    rw [Course.pool_asked_remove]
    exact (hnumbered happenings).indexed.get?_remove_of_ne hother hne

end step

/-- A link is offered, renewed, and replaced by a second offer that is like the first one in all
respects.  Whoever has kept the first record finds it nowhere in the pool any more, asks for its
removal in vain, and leaves the second one in place. -/
theorem Course.lasting_like_offers :
    let key : Key := .ofIdentity ⟨⟨"home"⟩, .psk⟩ (Scenario.radio 7) ⟨3⟩
    let offer : Happening History Handle :=
      .command (.add key (Scenario.config ⟨3⟩ ⟨"home"⟩)
        { Observation.ofScan (Scenario.scan ⟨"home"⟩ 7 (-50)) .saved with
          mld := some (Scenario.accessPoint 1), mbps := 600 })
    let renewal : Happening History Handle := .command (.updateMultiLink MultiLink.jointThroughput)
    let opened := Course.start (.empty History.card .lenient) { history := {} }
    let now := opened.run ([offer] ++ [renewal, offer])
    ∃ r other, (opened.run [offer]).pool.get? key = some r ∧ now.pool.get? key = some other ∧
      ¬ (opened.run ([offer] ++ [renewal, offer] ++ [.command (.remove r)])).pool.Finds r.serial ∧
      (now.asked (.remove r)).removed = false ∧
      (now.asked (.remove r)).outcome.pool.get? key = some other := by
  intro key offer renewal opened now
  have hfirst : ((opened.run [offer]).pool.get? key).map Record.serial = some 0 := by decide
  have hlast : (now.pool.get? key).map Record.serial = some 2 := by decide
  obtain ⟨r, hr, hserial⟩ := Option.map_eq_some_iff.mp hfirst
  obtain ⟨other, hother, hserial'⟩ := Option.map_eq_some_iff.mp hlast
  have hne : other.serial ≠ r.serial := by rw [hserial, hserial']; decide
  have hlasting := Course.lasting (History.card : ScoreCard History Handle) .lenient { history := {} }
  have hkey : r.key = key :=
    (Course.indexed_run (Pool.indexed_empty _ _ _) [offer]).key_eq hr
  have hcame : (opened.run [offer]).pool.get? r.key = some r := by rw [hkey]; exact hr
  have hwent : now.pool.get? r.key ≠ some r := by
    rw [hkey, hother]
    exact fun he => hne (congrArg Record.serial (Option.some.inj he))
  refine ⟨r, other, hr, hother, hlasting.gone _ _ _ r hcame hwent, ?_,
    hlasting.others_stay _ r key other hother hne⟩
  exact Bool.eq_false_iff.mpr fun hremoved =>
    hwent ((hlasting.removed_iff _ _ r hcame).mp hremoved)

end NetworkSelection
