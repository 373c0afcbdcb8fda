import NetworkSelection.Proofs.BestThroughput

/-!
# The user's choice

The scorer that honours the user's own selections looks at the candidates that the user selected
and at nothing else.  It goes by how recent the selection is and, of equally recent ones, by the
key; and it declines if the user selected none.

## The order of the weights

How recent a selection is, is said by a double, and doubles are compared in their total order:
by their bits as signed words, in which all bits but the sign are flipped if it is set.  So
negative zero comes before zero, and what is not a number has its place as well.

* `Scorer.toInt_signAdjusted`: the rank that the scorer compares is the one told by the bits.
* `Pool.selected?`: the user's selections, place by place.
* `Pool.Indexed.choose_userChoice`: who is chosen.
* `Pool.UserChosen.unique`: the choice depends on the selections alone.
* `Course.choose_userChoice_run`: both of them, for every pool.
-/

namespace NetworkSelection

variable {σ η : Type}

namespace Scorer

/-! ## The total order of doubles -/

/-- The bits of a double as a signed word, all but the sign flipped if it is set: the sign is
spread over the word, moved out of the sign bit, and what is left says which bits to flip. -/
def signAdjusted (x : Float) : BitVec 64 :=
  let bits := x.toBits.toBitVec
  bits ^^^ (bits.sshiftRight 63 >>> 1)

/-- What is left of the sign. -/
theorem sshiftRight_sign (bits : BitVec 64) :
    bits.sshiftRight 63 >>> 1 = if bits.msb then .intMax 64 else 0#64 := by
  have hnone : ∀ b : BitVec 64, b.msb = false → b >>> 63 = 0#64 := by
    intro b hb
    refine BitVec.eq_of_toNat_eq ?_
    rw [BitVec.toNat_ushiftRight, Nat.shiftRight_eq_div_pow]
    exact Nat.div_eq_of_lt (by simpa [BitVec.msb_eq_decide] using hb)
  cases h : bits.msb with
  | false =>
    rw [BitVec.sshiftRight_eq_of_msb_false h, hnone bits h]
    rfl
  | true =>
    rw [BitVec.sshiftRight_eq_of_msb_true h, hnone _ (by simp [BitVec.msb_not, h])]
    rfl

/-- Flipping all bits but the sign, if it is set. -/
theorem xor_intMax_of_msb_true {bits : BitVec 64} (h : bits.msb = true) :
    bits ^^^ .intMax 64 = .cons true (~~~(bits.setWidth 63)) := by
  have hbits : bits = .cons true (bits.setWidth 63) := by
    rw [← h]
    exact (BitVec.cons_msb_setWidth bits).symm
  have hmax : BitVec.intMax 64 = .cons false (.allOnes 63) := by decide
  calc bits ^^^ .intMax 64
    _ = .cons true (bits.setWidth 63) ^^^ .cons false (.allOnes 63) := by rw [← hbits, hmax]
    _ = .cons true (~~~(bits.setWidth 63)) := by
      rw [BitVec.cons_xor_cons, BitVec.xor_allOnes]
      rfl

/-- A double without the sign keeps its bits. -/
theorem toInt_signAdjusted_of_msb_false {x : Float} (h : x.toBits.toBitVec.msb = false) :
    (signAdjusted x).toInt = x.toBits.toNat := by
  rw [signAdjusted, sshiftRight_sign, h, if_neg Bool.false_ne_true, BitVec.xor_zero,
    BitVec.toInt_eq_msb_cond, h]
  rfl

/-- Of two doubles with the sign the one with the smaller bits is the greater one. -/
theorem toInt_signAdjusted_of_msb_true {x : Float} (h : x.toBits.toBitVec.msb = true) :
    (signAdjusted x).toInt = 9223372036854775807 - x.toBits.toNat := by
  have hlarge : 9223372036854775808 ≤ x.toBits.toNat := by simpa [BitVec.msb_eq_decide] using h
  have hlt : x.toBits.toNat < 18446744073709551616 := x.toBits.toNat_lt
  have hlow : (x.toBits.toBitVec.setWidth 63).toNat = x.toBits.toNat - 9223372036854775808 := by
    rw [BitVec.toNat_setWidth, UInt64.toNat_toBitVec]
    omega
  rw [signAdjusted, sshiftRight_sign, if_pos h, xor_intMax_of_msb_true h,
    BitVec.toInt_eq_msb_cond, BitVec.msb_cons, if_pos rfl, BitVec.toNat_cons', BitVec.toNat_not,
    hlow, Bool.toNat_true, Nat.one_shiftLeft]
  omega

/-- **The rank of a double is told by its bits.** -/
theorem toInt_signAdjusted (x : Float) : (signAdjusted x).toInt = totalRank x := by
  have hmsb : x.toBits.toBitVec.msb = decide (9223372036854775808 ≤ x.toBits.toNat) :=
    BitVec.msb_eq_decide _
  unfold totalRank
  by_cases hsign : 9223372036854775808 ≤ x.toBits.toNat
  · rw [toInt_signAdjusted_of_msb_true (hmsb.trans (decide_eq_true hsign)), if_neg (by omega)]
  · rw [toInt_signAdjusted_of_msb_false (hmsb.trans (decide_eq_false hsign)), if_pos (by omega)]

end Scorer

/-! ## Who is chosen -/

/-- The choice that honours a selection of the user's. -/
def Choice.honouring (key : Key) (weight : Float) : Choice where
  value := weight
  err := 0.1
  key := some key
  userOverride := true

theorem Choice.honouring_ne_none (key : Key) (weight : Float) : honouring key weight ≠ .none :=
  fun h => absurd (congrArg Choice.key h) (by simp [honouring, Choice.none])

namespace Pool

/-- How recent the user's selection in a place is, if the candidate there was selected by the
user. -/
def selected? (pool : Pool σ η) (key : Key) : Option Float :=
  match pool.get? key with
  | some r => if r.candidate.userSelected then some r.candidate.weight else none
  | none => none

theorem selected?_eq_some_iff {pool : Pool σ η} {key : Key} {weight : Float} :
    pool.selected? key = some weight ↔ ∃ r, pool.get? key = some r ∧
      r.candidate.userSelected = true ∧ r.candidate.weight = weight := by
  unfold selected?
  cases pool.get? key with
  | none => simp
  | some r => simp

/-- A choice that honours the most recent of the user's selections. -/
structure UserChosen (pool : Pool σ η) (choice : Choice) : Prop where
  /-- There is none just if the user selected no candidate. -/
  eq_none_iff : choice = .none ↔
    ∀ key r, pool.get? key = some r → r.candidate.userSelected = false
  /-- Otherwise a selection is honoured such that no other one is more recent, and of the equally
  recent ones it is that with the greatest key. -/
  of_ne_none : choice ≠ .none → ∃ key weight, choice = .honouring key weight ∧
    pool.selected? key = some weight ∧
    ∀ key' weight', pool.selected? key' = some weight' →
      (Scorer.signAdjusted weight').toInt ≤ (Scorer.signAdjusted weight).toInt ∧
        (Scorer.signAdjusted weight' = Scorer.signAdjusted weight →
          (compare key' key).isLE = true)

/-- The comparison of records that the scorer goes by. -/
def weightAtMost (r s : Record η) : Bool :=
  Scorer.totalRank r.candidate.weight ≤ Scorer.totalRank s.candidate.weight

/-- The scorer chooses the last record of those with the greatest weight, among those that the
user selected. -/
theorem choose_userChoice_fst (pool : Pool σ η) :
    (pool.choose Scorer.userChoice).1 =
      ((Scorer.lastMaximum weightAtMost
        (pool.records.filter fun r => r.candidate.userSelected)).map fun r =>
          Choice.honouring r.key r.candidate.weight).getD .none := by
  show ((Scorer.lastMaximum _ ((pool.records.map (·.candidate)).filter _)).map _).getD
    Choice.none = _
  rw [List.filter_map, Scorer.lastMaximum_map, Option.map_map]
  rfl

/-- **Who is chosen** by the user's selections. -/
theorem Indexed.choose_userChoice {next : Nat} {pool : Pool σ η} (h : Indexed next pool) :
    pool.UserChosen (pool.choose Scorer.userChoice).1 := by
  have hmeasure : ∀ r s : Record η, weightAtMost r s = true ↔
      Scorer.totalRank r.candidate.weight ≤ Scorer.totalRank s.candidate.weight :=
    fun _ _ => decide_eq_true_iff
  have hchoice := choose_userChoice_fst pool
  cases hlast : Scorer.lastMaximum weightAtMost
      (pool.records.filter fun r => r.candidate.userSelected) with
  | none =>
    rw [hlast] at hchoice
    have hchoice : (pool.choose Scorer.userChoice).1 = .none := hchoice
    refine ⟨iff_of_true hchoice fun key r hget => ?_, fun hne => absurd hchoice hne⟩
    have hnil := (Scorer.lastMaximum_eq_none_iff weightAtMost).mp hlast
    simpa using List.filter_eq_nil_iff.mp hnil r (mem_records.mpr ⟨key, hget⟩)
  | some r =>
    rw [hlast] at hchoice
    have hchoice : (pool.choose Scorer.userChoice).1 =
        .honouring r.key r.candidate.weight := hchoice
    obtain ⟨hget, hselected, hothers⟩ := h.greatest_of_lastMaximum hmeasure _ hlast
    constructor
    case eq_none_iff =>
      rw [hchoice]
      refine iff_of_false (Choice.honouring_ne_none _ _) fun hnone => ?_
      exact absurd (hselected.symm.trans (hnone r.key r hget)) (by simp)
    case of_ne_none =>
      refine fun _ => ⟨r.key, r.candidate.weight, hchoice,
        selected?_eq_some_iff.mpr ⟨r, hget, hselected, rfl⟩, fun key' weight' hsel => ?_⟩
      obtain ⟨s, hs, hselected', rfl⟩ := selected?_eq_some_iff.mp hsel
      obtain rfl := h.key_eq hs
      obtain ⟨hle, hties⟩ := hothers s hs hselected'
      rw [Scorer.toInt_signAdjusted, Scorer.toInt_signAdjusted]
      refine ⟨hle, fun hbits => hties ?_⟩
      rw [← Scorer.toInt_signAdjusted, hbits, Scorer.toInt_signAdjusted]

/-! ## What the choice does not depend on -/

/-- Whether there is a choice is told by the selections. -/
theorem UserChosen.eq_none_iff_selected? {pool : Pool σ η} {choice : Choice}
    (h : pool.UserChosen choice) : choice = .none ↔ ∀ key, pool.selected? key = none := by
  rw [h.eq_none_iff]
  refine forall_congr' fun key => ?_
  unfold selected?
  cases pool.get? key with
  | none => simp
  | some r => simp

/-- **The choice is determined by the selections.**  Where the user selected the same, the same
is chosen, whatever other candidates there are. -/
theorem UserChosen.unique {pool other : Pool σ η} {choice choice' : Choice}
    (h : pool.UserChosen choice) (h' : other.UserChosen choice')
    (hsame : ∀ key, other.selected? key = pool.selected? key) : choice' = choice := by
  by_cases hnone : choice = .none
  · rw [hnone, h'.eq_none_iff_selected?]
    exact fun key => (hsame key).trans (h.eq_none_iff_selected?.mp hnone key)
  · have hnone' : choice' ≠ .none := fun he => hnone <| h.eq_none_iff_selected?.mpr fun key =>
      (hsame key).symm.trans (h'.eq_none_iff_selected?.mp he key)
    obtain ⟨key, weight, rfl, hselected, hgreatest⟩ := h.of_ne_none hnone
    obtain ⟨key', weight', rfl, hselected', hgreatest'⟩ := h'.of_ne_none hnone'
    -- each of the two selections competes with the other one
    rw [hsame] at hselected'
    obtain ⟨hle, hties⟩ := hgreatest key' weight' hselected'
    obtain ⟨hle', hties'⟩ := hgreatest' key weight ((hsame key).trans hselected)
    have hbits : Scorer.signAdjusted weight' = Scorer.signAdjusted weight :=
      BitVec.eq_of_toInt_eq (le_antisymm hle hle')
    have hkey : key' = key :=
      Std.LawfulEqCmp.eq_of_compare (Std.OrientedCmp.isLE_antisymm (hties hbits) (hties' hbits.symm))
    rw [hkey] at hselected' ⊢
    rw [Option.some.inj (hselected'.symm.trans hselected)]

end Pool

/-! ## In every pool -/

/-- **The user's choice**, in every pool: the most recent of the user's selections is honoured, if
there is any, and any other pool in which the user selected the same makes the same choice,
whatever candidates either of them has beside. -/
theorem Course.choose_userChoice_run [BssidHandle η σ] (card : ScoreCard σ η)
    (config : PoolConfig) (seeds : List (Record η)) (shared : Shared σ)
    (hseeds : Pool.Issued shared.nextSerial seeds) (happenings : List (Happening σ η)) :
    let pool := ((Course.start (.ofRecords card config seeds) shared).run happenings).pool
    pool.UserChosen (pool.choose Scorer.userChoice).1 ∧
      ∀ (card' : ScoreCard σ η) config' seeds' shared', Pool.Issued shared'.nextSerial seeds' →
        ∀ happenings',
          let other :=
            ((Course.start (.ofRecords card' config' seeds') shared').run happenings').pool
          (∀ key, other.selected? key = pool.selected? key) →
            (other.choose Scorer.userChoice).1 = (pool.choose Scorer.userChoice).1 := by
  intro pool
  let course := (Course.start (.ofRecords card config seeds) shared).run happenings
  have hindexed : course.pool.Indexed course.shared.nextSerial :=
    Course.indexed_run (Pool.indexed_ofRecords hseeds card config) happenings
  refine ⟨hindexed.choose_userChoice, ?_⟩
  intro card' config' seeds' shared' hseeds' happenings' other hsame
  let course' := (Course.start (.ofRecords card' config' seeds') shared').run happenings'
  have hindexed' : course'.pool.Indexed course'.shared.nextSerial :=
    Course.indexed_run (Pool.indexed_ofRecords hseeds' card' config') happenings'
  exact hindexed.choose_userChoice.unique hindexed'.choose_userChoice hsame

/-- Of two selections the one of weight zero is honoured and not the one of negative zero, whose
key is greater; and a candidate that the user did not select changes nothing in this, though its
weight is greater than both. -/
theorem Course.choose_userChoice_run_negative_zero :
    let seen (n : UInt16) (weight : Float) : Observation :=
      { Observation.ofScan (Scenario.scan ⟨"home"⟩ n (-50)) .saved with weight }
    let key (n : UInt16) : Key := .ofIdentity ⟨⟨"home"⟩, .psk⟩ (Scenario.radio n) ⟨3⟩
    let config (userSelected : Bool) : NetworkConfig :=
      { Scenario.config ⟨3⟩ ⟨"home"⟩ with userSelected }
    let shared : Shared History := { history := {} }
    let selections : List (Happening History Handle) :=
      [.command (.add (key 8) (config true) (seen 8 (-0))),
        .command (.add (key 7) (config true) (seen 7 0))]
    let beside : Command Handle := .add (key 9) (config false) (seen 9 1)
    let pool := ((Course.start (.ofRecords History.card .lenient []) shared).run selections).pool
    let other := ((Course.start (.ofRecords History.card .lenient []) shared).run
      (selections ++ [.command beside])).pool
    (pool.choose Scorer.userChoice).1.key = some (key 7) ∧
      pool.UserChosen (pool.choose Scorer.userChoice).1 ∧
      (other.choose Scorer.userChoice).1 = (pool.choose Scorer.userChoice).1 := by
  intro seen key config shared selections beside pool other
  have hseeds : Pool.Issued shared.nextSerial ([] : List (Record Handle)) :=
    Pool.issued_of_nodup (by simp) List.nodup_nil
  let course := (Course.start (.ofRecords History.card .lenient []) shared).run selections
  have hindexed : course.pool.Indexed course.shared.nextSerial :=
    Course.indexed_run (Pool.indexed_ofRecords hseeds History.card .lenient) selections
  have hselected : ∀ k, other.selected? k = pool.selected? k := by
    intro k
    let last : Moment History Handle := ⟨course.pool, course.shared, beside⟩
    let offer : Offer := ⟨key 9, config false, seen 9 1⟩
    have htaken : last.taken? = some offer := if_pos (by decide)
    have hget : other.get? k =
        if key 9 = k then some (course.pool.entrantOf offer course.shared) else pool.get? k := by
      show last.outcome.pool.get? k = _
      rw [last.pool_of_taken? htaken]
      exact hindexed.get?_supplant _ k
    by_cases hk : key 9 = k
    · have hfree : pool.get? k = none := by rw [← hk]; decide
      rw [if_pos hk] at hget
      simp only [Pool.selected?, hget, hfree]
      rfl
    · rw [if_neg hk] at hget
      simp only [Pool.selected?, hget]
  have hkey : (pool.choose Scorer.userChoice).1.key = some (key 7) := by decide
  have hrun := Course.choose_userChoice_run History.card .lenient [] shared hseeds selections
  have hchosen : pool.UserChosen (pool.choose Scorer.userChoice).1 := hrun.1
  have hother := hrun.2 History.card .lenient [] shared hseeds
    (selections ++ [.command beside])
  have hsame := hother hselected
  exact ⟨hkey, hchosen, hsame⟩

end NetworkSelection
