import NetworkSelection.Proofs.Batches

/-!
# Going over a list of offers

A pool that goes over a list of offers takes some of them and turns the others down, as the
nominators in place decide.  Going over the same list again, it turns down offers that it took
the first time: those that were good enough for the holder of the place then and are not for
the best one that has come since.  And yet nothing changes in what can be seen, the order of
the links included.

To see why, one looks at a *picture* of the pool, in which records are told apart by their keys
alone.  To put an offer into it changes nothing that is about another key; it undoes whatever
was put under its own key before, wherever this stood; and so, of several offers for one place,
only the last one that is put matters.  Going over a list comes to putting those of its offers
that are by the nominators in place at the end, for these are the last ones for their places
(`Picture.pass_eq_puts`).  The second time it is the very same ones that are taken
(`Picture.pass_eq_puts_of_bounded`), and they are there already.

* `Picture.put`, `Picture.meet`, `Picture.pass`: an offer that is taken, one that may be taken,
  and a list of them.
* `Picture.puts_put`: what is put under a key later makes up for what was put before.
* `Picture.pass_pass`: going over a list again changes nothing.
-/

namespace NetworkSelection

/-- What can be seen of a pool and of the history behind it, the numbers of the records
apart. -/
@[ext] structure Picture where
  candidateAt : Key → Option (Candidate Handle)
  /-- The keys of the links of each multi-link access point, in the order in which they came. -/
  links : MacAddress → List Key
  history : History

namespace Picture

/-- The nominator in a place. -/
def nominatorAt (view : Picture) (key : Key) : Option Nominator :=
  (view.candidateAt key).map (·.nominator)

/-- Whether nobody in place outranks this offer. -/
def Admits (view : Picture) (offer : Offer) : Prop :=
  ∀ held ∈ view.nominatorAt offer.key, offer.seen.nominator.rank ≤ held.rank

instance (view : Picture) (offer : Offer) : Decidable (view.Admits offer) :=
  inferInstanceAs (Decidable (∀ held ∈ view.nominatorAt offer.key, _))

/-- An offer is turned down because of a nominator who is strictly better. -/
theorem not_admits {view : Picture} {offer : Offer} :
    ¬ view.Admits offer ↔
      ∃ held, view.nominatorAt offer.key = some held ∧ held.rank < offer.seen.nominator.rank := by
  simp [Admits]

/-- A place is held by somebody who is at least as good as this nominator. -/
def Bounded (view : Picture) (key : Key) (nominator : Nominator) : Prop :=
  ∃ held, view.nominatorAt key = some held ∧ held.rank ≤ nominator.rank

variable (base : Course History Handle)

/-- The picture after an offer was taken, if what the pool makes of it was settled when the
batch began. -/
def put (view : Picture) (offer : Offer) : Picture where
  candidateAt := Function.update view.candidateAt offer.key
    (some (base.pool.entrantOf offer base.shared).candidate)
  links mld := (view.links mld).filter (· ≠ offer.key) ++
    if offer.seen.mld = some mld then [offer.key] else []
  history := (base.pool.attach offer.key offer.config view.history).history

/-- The picture after an offer was made. -/
def meet (view : Picture) (offer : Offer) : Picture :=
  if view.Admits offer then view.put base offer else view

/-- The picture after all these offers were taken. -/
def puts (offers : List Offer) (view : Picture) : Picture :=
  offers.foldl (put base) view

/-- The picture after all these offers were made. -/
def pass (offers : List Offer) (view : Picture) : Picture :=
  offers.foldl (meet base) view

/-! ## Putting offers -/

theorem candidateAt_put (view : Picture) (offer : Offer) (key : Key) :
    (view.put base offer).candidateAt key =
      if key = offer.key then some (base.pool.entrantOf offer base.shared).candidate
      else view.candidateAt key := by
  simp only [put, Function.update_apply]

theorem nominatorAt_put (view : Picture) (offer : Offer) (key : Key) :
    (view.put base offer).nominatorAt key =
      if key = offer.key then some offer.seen.nominator else view.nominatorAt key := by
  rw [nominatorAt, candidateAt_put]
  split <;> rfl

/-- Offers for other places change nobody's nominator. -/
theorem nominatorAt_puts {offers : List Offer} {key : Key} (h : ∀ y ∈ offers, y.key ≠ key)
    (view : Picture) : (view.puts base offers).nominatorAt key = view.nominatorAt key := by
  induction offers generalizing view with
  | nil => rfl
  | cons x rest ih =>
    obtain ⟨hx, hrest⟩ := List.forall_mem_cons.mp h
    exact (ih hrest (view.put base x)).trans (by rw [nominatorAt_put, if_neg hx.symm])

/-- Two pictures differ at most in what is about one key. -/
structure SameBut (kind : CardKind) (key : Key) (view view' : Picture) : Prop where
  candidateAt_eq : ∀ other, other ≠ key → view.candidateAt other = view'.candidateAt other
  links_eq : ∀ mld, (view.links mld).filter (· ≠ key) = (view'.links mld).filter (· ≠ key)
  get?_eq : ∀ ap, ap ≠ key.accessPoint → view.history.get? ap = view'.history.get? ap
  sameSignals : view.history.SameSignals view'.history
  history_eq : kind ≠ .history → view.history = view'.history

section card

variable {base} {kind : CardKind} (hcard : base.pool.card = kind.card)
include hcard

theorem sameBut_put (view : Picture) (offer : Offer) :
    SameBut kind offer.key (view.put base offer) view where
  candidateAt_eq other hne := by rw [candidateAt_put, if_neg hne]
  links_eq mld := by
    simp only [put, List.filter_append, List.filter_filter, Bool.and_self]
    split <;> simp
  get?_eq ap hne := by
    by_cases hkind : kind = .history
    · subst hkind
      exact (Pool.get?_attach hcard ..).trans (if_neg hne)
    · exact congrArg _ (Pool.history_attach hcard hkind ..)
  sameSignals ap := (Pool.sameSignals_attach hcard offer.key offer.config view.history ap).symm
  history_eq hkind := Pool.history_attach hcard hkind ..

namespace SameBut

variable {key : Key} {view view' : Picture}

/-- What is put into both of them does not make them differ more. -/
theorem put (h : SameBut kind key view view') (offer : Offer) :
    SameBut kind key (view.put base offer) (view'.put base offer) where
  candidateAt_eq other hne := by
    rw [candidateAt_put, candidateAt_put, h.candidateAt_eq other hne]
  links_eq mld := by
    simp only [Picture.put, List.filter_append]
    rw [List.filter_comm, h.links_eq, List.filter_comm]
  get?_eq ap hne := by
    by_cases hkind : kind = .history
    · subst hkind
      simp only [Picture.put, Pool.get?_attach hcard, History.known]
      split
      · next hap => rw [h.get?_eq offer.key.accessPoint (hap ▸ hne)]
      · exact h.get?_eq ap hne
    · simp only [Picture.put, Pool.history_attach hcard hkind]
      exact h.get?_eq ap hne
  sameSignals := Pool.sameSignals_attach_attach hcard hcard h.sameSignals offer.key offer.config
  history_eq hkind := by
    simp only [Picture.put, Pool.history_attach hcard hkind]
    exact h.history_eq hkind

/-- An offer under that key makes up for the difference. -/
theorem put_eq (h : SameBut kind key view view') {offer : Offer} (hkey : offer.key = key) :
    view.put base offer = view'.put base offer := by
  subst hkey
  have hcandidates : (view.put base offer).candidateAt = (view'.put base offer).candidateAt := by
    funext other
    rw [candidateAt_put, candidateAt_put]
    split
    · rfl
    · next hne => exact h.candidateAt_eq other hne
  have hlinks : (view.put base offer).links = (view'.put base offer).links := by
    funext mld
    simp only [Picture.put, h.links_eq mld]
  have hhistory : (view.put base offer).history = (view'.put base offer).history := by
    by_cases hkind : kind = .history
    · subst hkind
      refine History.ext_get? fun ap => ?_
      simp only [Picture.put, Pool.get?_attach hcard]
      split
      · rw [h.sameSignals offer.key.accessPoint]
      · next hne => exact h.get?_eq ap hne
    · simp only [Picture.put, Pool.history_attach hcard hkind]
      exact h.history_eq hkind
  exact Picture.ext hcandidates hlinks hhistory

/-- So does a list of offers with such an offer in it. -/
theorem puts_eq (h : SameBut kind key view view') {offers : List Offer}
    (hmem : ∃ y ∈ offers, y.key = key) : view.puts base offers = view'.puts base offers := by
  induction offers generalizing view view' with
  | nil => exact absurd hmem (by simp)
  | cons x rest ih =>
    by_cases hx : x.key = key
    · exact congrArg (Picture.puts base rest) (h.put_eq hcard hx)
    · refine ih (h.put hcard x) ?_
      obtain ⟨y, hy, hkey⟩ := hmem
      rcases List.mem_cons.mp hy with rfl | hy
      · exact absurd hkey hx
      · exact ⟨y, hy, hkey⟩

end SameBut

/-- What is put under a key later makes up for what was put before. -/
theorem puts_put {x : Offer} {offers : List Offer} (hmem : ∃ y ∈ offers, y.key = x.key)
    (view : Picture) : (view.put base x).puts base offers = view.puts base offers :=
  (sameBut_put hcard view x).puts_eq hcard hmem

/-- So it is if many offers were put before. -/
theorem puts_puts {earlier offers : List Offer} (hmem : ∀ x ∈ earlier, ∃ y ∈ offers, y.key = x.key)
    (view : Picture) : (view.puts base earlier).puts base offers = view.puts base offers := by
  induction earlier generalizing view with
  | nil => rfl
  | cons x rest ih =>
    obtain ⟨hx, hrest⟩ := List.forall_mem_cons.mp hmem
    exact (ih hrest (view.put base x)).trans (puts_put hcard hx view)

end card

/-! ## Making offers -/

section bounds

variable {base} {view : Picture} {key : Key} {nominator : Nominator}

/-- Nobody gives up a place to somebody worse. -/
theorem Bounded.meet (h : view.Bounded key nominator) (offer : Offer) :
    (view.meet base offer).Bounded key nominator := by
  obtain ⟨held, hheld, hle⟩ := h
  unfold Picture.meet
  split
  · next hadmits =>
    by_cases hkey : key = offer.key
    · subst hkey
      exact ⟨offer.seen.nominator, by rw [nominatorAt_put, if_pos rfl],
        UInt8.le_trans (hadmits held hheld) hle⟩
    · exact ⟨held, by rw [nominatorAt_put, if_neg hkey]; exact hheld, hle⟩
  · exact ⟨held, hheld, hle⟩

/-- Somebody who is worse than that is not in place. -/
theorem Bounded.nominatorAt_ne (h : view.Bounded key nominator) {other : Nominator}
    (hlt : nominator.rank < other.rank) : view.nominatorAt key ≠ some other := by
  obtain ⟨held, hheld, hle⟩ := h
  intro he
  obtain rfl : held = other := Option.some.inj (hheld.symm.trans he)
  exact UInt8.not_lt.mpr hle hlt

/-- Once an offer was made its place is held by somebody who is at least as good. -/
theorem bounded_meet_self (view : Picture) (offer : Offer) :
    (view.meet base offer).Bounded offer.key offer.seen.nominator := by
  unfold Picture.meet
  split
  · exact ⟨offer.seen.nominator, by rw [nominatorAt_put, if_pos rfl], UInt8.le_refl _⟩
  · next hadmits =>
    obtain ⟨held, hheld, hlt⟩ := not_admits.mp hadmits
    exact ⟨held, hheld, UInt8.le_of_lt hlt⟩

theorem Bounded.pass (h : view.Bounded key nominator) (offers : List Offer) :
    (view.pass base offers).Bounded key nominator := by
  induction offers generalizing view with
  | nil => exact h
  | cons x rest ih => exact ih (h.meet x)

theorem bounded_pass_of_mem {offers : List Offer} {x : Offer} (hx : x ∈ offers) (view : Picture) :
    (view.pass base offers).Bounded x.key x.seen.nominator := by
  induction offers generalizing view with
  | nil => exact absurd hx List.not_mem_nil
  | cons first rest ih =>
    rcases List.mem_cons.mp hx with rfl | hx
    · exact (bounded_meet_self view x).pass rest
    · exact ih hx (view.meet base first)

end bounds

/-- The offers that are by the nominator in their place. -/
def standing (view : Picture) (offers : List Offer) : List Offer :=
  offers.filter fun x => view.nominatorAt x.key = some x.seen.nominator

theorem standing_cons (view : Picture) (x : Offer) (rest : List Offer) :
    view.standing (x :: rest) =
      if view.nominatorAt x.key = some x.seen.nominator then x :: view.standing rest
      else view.standing rest := by
  simp only [standing, List.filter_cons, decide_eq_true_eq]

/-- If every place is held by somebody who is at least as good as all who offer for it, just
those are taken who are by the nominators in place. -/
theorem pass_eq_puts_of_bounded {base : Course History Handle}
    {offers : List Offer} {view : Picture}
    (h : ∀ x ∈ offers, view.Bounded x.key x.seen.nominator) :
    view.pass base offers = view.puts base (view.standing offers) := by
  induction offers generalizing view with
  | nil => rfl
  | cons x rest ih =>
    obtain ⟨⟨held, hheld, hle⟩, hrest⟩ := List.forall_mem_cons.mp h
    show (view.meet base x).pass base rest = view.puts base (view.standing (x :: rest))
    by_cases hadmits : view.Admits x
    · have hmeet : view.meet base x = view.put base x := if_pos hadmits
      have hequal : held = x.seen.nominator :=
        congrArg Nominator.mk (UInt8.le_antisymm hle (hadmits held hheld))
      have hx : view.nominatorAt x.key = some x.seen.nominator := by rw [hheld, hequal]
      -- one offer of the nominator in place takes over from another
      have hsame : (view.put base x).nominatorAt = view.nominatorAt := by
        funext key
        rw [nominatorAt_put]
        split
        · next hkey => rw [hkey, hx]
        · rfl
      have hstanding : (view.put base x).standing rest = view.standing rest := by
        simp only [standing, hsame]
      rw [hmeet, standing_cons, if_pos hx, ← hstanding]
      refine ih fun y hy => ?_
      rw [Bounded, hsame]
      exact hrest y hy
    · have hmeet : view.meet base x = view := if_neg hadmits
      obtain ⟨better, hbetter, hlt⟩ := not_admits.mp hadmits
      have hx : view.nominatorAt x.key ≠ some x.seen.nominator :=
        Bounded.nominatorAt_ne ⟨better, hbetter, UInt8.le_refl _⟩ hlt
      rw [hmeet, standing_cons, if_neg hx]
      exact ih hrest

section card

variable {base} {kind : CardKind} (hcard : base.pool.card = kind.card)
include hcard

/-- **What a list of offers comes to**: those of them that are by the nominators in place at the
end. -/
theorem pass_eq_puts (offers : List Offer) (view : Picture) :
    view.pass base offers = view.puts base ((view.pass base offers).standing offers) := by
  induction offers generalizing view with
  | nil => rfl
  | cons x rest ih =>
    let final := (view.meet base x).pass base rest
    have hfinal : final = (view.meet base x).puts base (final.standing rest) := ih _
    show final = view.puts base (final.standing (x :: rest))
    by_cases hadmits : view.Admits x
    · have hmeet : view.meet base x = view.put base x := if_pos hadmits
      rw [hmeet] at hfinal
      by_cases hx : final.nominatorAt x.key = some x.seen.nominator
      · rw [standing_cons, if_pos hx]
        exact hfinal
      · -- somebody better came to this place later
        have hlater : ∃ y ∈ final.standing rest, y.key = x.key := by
          by_contra hnone
          push Not at hnone
          refine hx ?_
          rw [hfinal, nominatorAt_puts base hnone, nominatorAt_put, if_pos rfl]
        rw [standing_cons, if_neg hx, ← puts_put hcard hlater view]
        exact hfinal
    · have hmeet : view.meet base x = view := if_neg hadmits
      obtain ⟨held, hheld, hlt⟩ := not_admits.mp hadmits
      have hbounded : final.Bounded x.key held := by
        refine Bounded.pass ?_ rest
        rw [hmeet]
        exact ⟨held, hheld, UInt8.le_refl _⟩
      have hx : final.nominatorAt x.key ≠ some x.seen.nominator :=
        hbounded.nominatorAt_ne hlt
      rw [standing_cons, if_neg hx]
      rw [hmeet] at hfinal
      exact hfinal

/-- **Going over a list again changes nothing.** -/
theorem pass_pass (offers : List Offer) (view : Picture) :
    (view.pass base offers).pass base offers = view.pass base offers := by
  let kept := (view.pass base offers).standing offers
  calc (view.pass base offers).pass base offers
    _ = (view.pass base offers).puts base kept :=
      pass_eq_puts_of_bounded fun x hx => bounded_pass_of_mem hx view
    _ = (view.puts base kept).puts base kept :=
      congrArg (puts base kept) (pass_eq_puts hcard offers view)
    _ = view.puts base kept := puts_puts hcard (fun x hx => ⟨x, hx, rfl⟩) view
    _ = view.pass base offers := (pass_eq_puts hcard offers view).symm

end card

end Picture

end NetworkSelection
