import NetworkSelection.Proofs.Consistency

/-!
# The competition for a place

Candidates under one key compete for one place.  An offer is compared with the holder of
the place alone, and yet the holder is always the best of *all* offers since the place was
last free: of those with the lowest rank among them the last one.  A *bid* is an offer as
it was made, with the record that would be made for it at that moment and with the answer
it got; the bids for a place since it was last freed decide who holds it, whatever was
done in other places meanwhile.

* `Course.bids`: the bids for a place since a record was last taken away from it.
* `Wins`: a bid is the last one of lowest rank.
* `Course.place_held_by_winner`: the place is empty if there were no bids, and otherwise
  holds the record of the winning bid, save for the joint throughput that was filled in
  since; and a bid was accepted just if no earlier one had a lower rank.
-/

namespace NetworkSelection

variable {σ η : Type}

/-! ## Bids -/

/-- An offer for a place as it was made. -/
structure Bid (η : Type) where
  nominator : Nominator
  /-- The record that was to take the place. -/
  record : Record η
  /-- Whether it did. -/
  taken : Bool

/-- A bid is the last one of lowest rank among these. -/
def Wins (bid : Bid η) (bids : List (Bid η)) : Prop :=
  ∃ before after, bids = before ++ bid :: after ∧
    (∀ b ∈ before, bid.nominator.rank ≤ b.nominator.rank) ∧
    ∀ b ∈ after, bid.nominator.rank < b.nominator.rank

/-- Each of these bids was accepted just if none before it had a lower rank. -/
def Fair (bids : List (Bid η)) : Prop :=
  ∀ before bid after, bids = before ++ bid :: after →
    (bid.taken = true ↔ ∀ b ∈ before, bid.nominator.rank ≤ b.nominator.rank)

namespace Wins

variable {bid later : Bid η} {bids : List (Bid η)}

theorem mem (h : Wins bid bids) : bid ∈ bids := by
  obtain ⟨before, after, rfl, _, _⟩ := h
  exact List.mem_append_right before List.mem_cons_self

/-- The winning rank is the lowest one. -/
theorem rank_le (h : Wins bid bids) : ∀ b ∈ bids, bid.nominator.rank ≤ b.nominator.rank := by
  obtain ⟨before, after, rfl, hbefore, hafter⟩ := h
  intro b hb
  rcases List.mem_append.mp hb with hb | hb
  · exact hbefore b hb
  · rcases List.mem_cons.mp hb with rfl | hb
    · exact UInt8.le_refl _
    · exact UInt8.le_of_lt (hafter b hb)

/-- A later bid of higher rank does not win. -/
theorem concat_of_lt (h : Wins bid bids) (hlt : bid.nominator.rank < later.nominator.rank) :
    Wins bid (bids ++ [later]) := by
  obtain ⟨before, after, rfl, hbefore, hafter⟩ := h
  refine ⟨before, after ++ [later], by simp, hbefore, ?_⟩
  intro b hb
  rcases List.mem_append.mp hb with hb | hb
  · exact hafter b hb
  · rw [List.mem_singleton.mp hb]
    exact hlt

/-- A later bid that nobody outranks wins. -/
theorem concat_self (h : ∀ b ∈ bids, later.nominator.rank ≤ b.nominator.rank) :
    Wins later (bids ++ [later]) :=
  ⟨bids, [], rfl, h, fun _ hb => absurd hb List.not_mem_nil⟩

end Wins

theorem fair_nil : Fair ([] : List (Bid η)) := by
  intro before bid after h
  exact absurd h.symm (by simp)

/-- One more bid is fair if it is accepted just in case nobody outranks it. -/
theorem Fair.concat {bids : List (Bid η)} {bid : Bid η} (h : Fair bids)
    (hbid : bid.taken = true ↔ ∀ b ∈ bids, bid.nominator.rank ≤ b.nominator.rank) :
    Fair (bids ++ [bid]) :=
  forall_split_concat h hbid

/-! ## What the bids came to -/

/-- A record is what was to take the place, save for the joint throughput. -/
def Bid.Became (bid : Bid η) (r : Record η) : Prop :=
  r.candidate = { bid.record.candidate with multiLinkMbps := r.candidate.multiLinkMbps }

theorem Bid.Became.renewal {bid : Bid η} {r : Record η} (h : bid.Became r)
    (estimate : List (Candidate η) → UInt32) (number : Record η → Nat) (pool : Pool σ η) :
    bid.Became (pool.renewal estimate number r) := by
  unfold Bid.Became
  rw [Pool.candidate_renewal_eq, h]
  rfl

theorem Pool.nominator_renewal (estimate : List (Candidate η) → UInt32)
    (number : Record η → Nat) (pool : Pool σ η) (r : Record η) :
    (pool.renewal estimate number r).candidate.nominator = r.candidate.nominator := by
  unfold Pool.renewal
  split <;> rfl

/-- These bids were fair, and their outcome is this holder of the place. -/
structure Settled (bids : List (Bid η)) (holder : Option (Record η)) : Prop where
  fair : Fair bids
  vacant : holder = none → bids = []
  held : ∀ r, holder = some r →
    ∃ bid, Wins bid bids ∧ bid.Became r ∧ r.candidate.nominator = bid.nominator

namespace Settled

variable {bids : List (Bid η)} {holder : Option (Record η)}

theorem nil : Settled ([] : List (Bid η)) none where
  fair := fair_nil
  vacant _ := rfl
  held _ h := absurd h (by simp)

/-- A rejected bid changes nothing. -/
theorem concat_rejected {bid : Bid η} {r : Record η} (h : Settled bids (some r))
    (htaken : bid.taken = false) (hlt : r.candidate.nominator.rank < bid.nominator.rank) :
    Settled (bids ++ [bid]) (some r) := by
  obtain ⟨winner, hwins, hbecame, hnom⟩ := h.held r rfl
  rw [hnom] at hlt
  refine ⟨h.fair.concat ?_, fun hnone => absurd hnone (by simp), ?_⟩
  · rw [htaken]
    refine iff_of_false (by simp) fun hall => ?_
    exact UInt8.not_lt.mpr (hall winner hwins.mem) hlt
  · intro r' hr'
    rw [← Option.some.inj hr']
    exact ⟨winner, hwins.concat_of_lt hlt, hbecame, hnom⟩

/-- An accepted bid puts its record in place. -/
theorem concat_taken {bid : Bid η} (h : Settled bids holder) (htaken : bid.taken = true)
    (hle : ∀ r, holder = some r → bid.nominator.rank ≤ r.candidate.nominator.rank)
    (hnominator : bid.record.candidate.nominator = bid.nominator) :
    Settled (bids ++ [bid]) (some bid.record) := by
  have hall : ∀ b ∈ bids, bid.nominator.rank ≤ b.nominator.rank := by
    cases hholder : holder with
    | none =>
      rw [h.vacant hholder]
      exact fun b hb => absurd hb List.not_mem_nil
    | some r =>
      obtain ⟨winner, hwins, _, hnom⟩ := h.held r hholder
      intro b hb
      have hwinner := hle r hholder
      rw [hnom] at hwinner
      exact UInt8.le_trans hwinner (hwins.rank_le b hb)
  refine ⟨h.fair.concat ⟨fun _ => hall, fun _ => htaken⟩, fun hnone => absurd hnone (by simp), ?_⟩
  intro r hr
  rw [← Option.some.inj hr]
  exact ⟨bid, .concat_self hall, rfl, hnominator⟩

/-- Renewing the record in place changes no more than its joint throughput. -/
theorem renewal (h : Settled bids holder) (estimate : List (Candidate η) → UInt32)
    (number : Record η → Nat) (pool : Pool σ η) :
    Settled bids (holder.map (pool.renewal estimate number)) := by
  refine ⟨h.fair, fun hnone => h.vacant (Option.map_eq_none_iff.mp hnone), ?_⟩
  intro r hr
  obtain ⟨s, hs, rfl⟩ := Option.map_eq_some_iff.mp hr
  obtain ⟨bid, hwins, hbecame, hnom⟩ := h.held s hs
  refine ⟨bid, hwins, hbecame.renewal estimate number pool, ?_⟩
  rw [Pool.nominator_renewal, hnom]

end Settled

/-! ## The bids of a course -/

section course

variable [BssidHandle η σ]

/-- The bid that a command makes for a place. -/
def Moment.bid? (key : Key) (m : Moment σ η) : Option (Bid η) :=
  match m.command.offer? with
  | some offer =>
    if offer.key = key then
      some { nominator := offer.seen.nominator
             record := m.pool.entrantOf offer m.shared
             taken := m.admitted }
    else none
  | none => none

/-- The bids for a place after one more moment. -/
def Moment.bidding (key : Key) (bids : List (Bid η)) (m : Moment σ η) : List (Bid η) :=
  if m.left? = some key then [] else bids ++ (m.bid? key).toList

/-- The bids for a place since a record was last taken away from it. -/
def Course.bids (key : Key) (course : Course σ η) : List (Bid η) :=
  course.past.foldl (Moment.bidding key) []

theorem Moment.bid?_of_offer {m : Moment σ η} {offer : Offer}
    (h : m.command.offer? = some offer) :
    m.bid? offer.key =
      some { nominator := offer.seen.nominator
             record := m.pool.entrantOf offer m.shared
             taken := m.admitted } := by
  simp only [bid?, h, if_true]

/-- An offer for another place is no bid for this one. -/
theorem Moment.bid?_of_ne {m : Moment σ η} {offer : Offer} {key : Key}
    (h : m.command.offer? = some offer) (hne : offer.key ≠ key) : m.bid? key = none := by
  simp only [bid?, h, if_neg hne]

theorem Moment.bid?_of_no_offer {m : Moment σ η} (h : m.command.offer? = none) (key : Key) :
    m.bid? key = none := by
  simp only [bid?, h]

/-- **One moment of a competition.** -/
theorem Moment.settled {key : Key} {bids : List (Bid η)} (m : Moment σ η)
    (hindexed : m.pool.Indexed m.shared.nextSerial) (h : Settled bids (m.pool.get? key)) :
    Settled (m.bidding key bids) (m.outcome.pool.get? key) := by
  have hquiet : m.removed = false → m.bid? key = none → m.bidding key bids = bids := by
    intro hremoved hbid
    rw [bidding, left?_of_not_removed hremoved, hbid]
    exact List.append_nil bids
  have hbids : m.removed = false → ∀ bid, m.bid? key = some bid →
      m.bidding key bids = bids ++ [bid] := by
    intro hremoved bid hbid
    rw [bidding, left?_of_not_removed hremoved, hbid]
    rfl
  cases m.effect with
  | idle hoffer _ hremoved hkey _ _ =>
    rw [hquiet hremoved (bid?_of_no_offer hoffer key), Pool.get?, hkey]
    exact h
  | rejects offer held hoffer hadmitted hremoved hget hrank hpool _ =>
    rw [hpool]
    by_cases hk : offer.key = key
    · subst hk
      rw [hbids hremoved _ (bid?_of_offer hoffer), hget]
      rw [hget] at h
      exact h.concat_rejected hadmitted hrank
    · rw [hquiet hremoved (bid?_of_ne hoffer hk)]
      exact h
  | enters offer hoffer hadmitted hremoved hrank hpool _ =>
    rw [hpool, hindexed.get?_supplant, Pool.key_entrantOf]
    by_cases hk : offer.key = key
    · subst hk
      rw [hbids hremoved _ (bid?_of_offer hoffer), if_pos rfl]
      exact h.concat_taken hadmitted hrank rfl
    · rw [hquiet hremoved (bid?_of_ne hoffer hk), if_neg hk]
      exact h
  | leaves r held hcommand hadmitted hremoved hget _ hpool _ =>
    rw [hpool, Pool.get?_drop, hindexed.key_eq hget]
    have hleft : m.left? = some r.key := left?_of_removed hcommand hremoved
    by_cases hk : r.key = key
    · rw [bidding, if_pos (hk ▸ hleft), if_pos hk]
      exact Settled.nil
    · have hoffer : m.command.offer? = none := by
        rw [hcommand]
        rfl
      have hne : m.left? ≠ some key := fun he => hk (Option.some.inj (hleft.symm.trans he))
      rw [bidding, if_neg hne, if_neg hk, bid?_of_no_offer hoffer]
      exact (List.append_nil bids).symm ▸ h
  | renews estimate hcommand _ hremoved hpool _ =>
    have hoffer : m.command.offer? = none := by
      rw [hcommand]
      rfl
    rw [hquiet hremoved (bid?_of_no_offer hoffer key), hpool, hindexed.get?_updateMultiLink]
    exact h.renewal estimate _ _

/-- Every competition in the course of a pool is settled. -/
theorem Course.settled_run (card : ScoreCard σ η) (config : PoolConfig) (shared : Shared σ)
    (happenings : List (Happening σ η)) (key : Key) :
    let course := (Course.start (.empty card config) shared).run happenings
    Settled (course.bids key) (course.pool.get? key) := by
  have hstart : Settled [] ((Pool.empty card config).get? key) := by
    rw [Pool.get?_empty]
    exact Settled.nil
  exact Course.past_induction (motive := fun bids pool => Settled bids (pool.get? key))
    (fun _ m hindexed h => m.settled hindexed h) hstart shared happenings

/-- **A place goes to the last bid of lowest rank.**  It is empty if there was no bid since
it was last freed; otherwise it holds the record of the winner among these bids, which
differs from what it was at most in the joint throughput.  And each of the bids was
accepted just if none of the earlier ones had a lower rank. -/
theorem Course.place_held_by_winner (card : ScoreCard σ η) (config : PoolConfig)
    (shared : Shared σ) (happenings : List (Happening σ η)) (key : Key) :
    let course := (Course.start (.empty card config) shared).run happenings
    let bids := course.bids key
    (bids = [] → course.pool.get? key = none) ∧
      (bids ≠ [] → ∃ r bid, course.pool.get? key = some r ∧ Wins bid bids ∧ bid.Became r) ∧
      Fair bids := by
  intro course bids
  have h : Settled bids (course.pool.get? key) :=
    Course.settled_run card config shared happenings key
  refine ⟨fun hnil => ?_, fun hne => ?_, h.fair⟩
  · cases hget : course.pool.get? key with
    | none => rfl
    | some r =>
      obtain ⟨bid, hwins, _, _⟩ := h.held r hget
      exact absurd hwins.mem (hnil ▸ List.not_mem_nil)
  · cases hget : course.pool.get? key with
    | none => exact absurd (h.vacant hget) hne
    | some r =>
      obtain ⟨bid, hwins, hbecame, _⟩ := h.held r hget
      exact ⟨r, bid, rfl, hwins, hbecame⟩

end course

end NetworkSelection
