import NetworkSelection.ScoreCard.History
import Mathlib

/-!
# A percentage is at most one hundred

The estimate of a history is computed in floating point, rounded, cut off, and made a byte.
What is cut off is compared as a floating-point number, and the byte is its whole part; that
the byte is at most one hundred then rests on how a number and its whole part go together.
A number is a mantissa of at most 53 binary digits, scaled by a power of two.  One hundred is
`100 * 2 ^ 46` scaled by `2 ^ (-46)`, so a number that does not exceed it has a lower exponent
or the same one and no greater mantissa, and either way its whole part is at most one hundred.

* `FloatParts.toInt_of_exponent_nonpos`: the whole part, if nothing of it is below the last
  place.
* `toUInt8_le_of_not_lt`: a number that does not exceed one hundred.
* `BssidHistory.percent_le`: the estimate never does, not even as no number or as infinity.
-/

namespace NetworkSelection

namespace FloatParts

open Float.Model (UnpackedFloat)
open Float.Model.UnpackedFloat (ExtendedMantissa)

/-- Digits that are shifted out of a mantissa are lost. -/
theorem mantissa_shiftRight (m : ExtendedMantissa) (n : Nat) :
    (m >>> n).mantissa = m.mantissa / 2 ^ n := by
  induction n with
  | zero => simp [HShiftRight.hShiftRight, Nat.repeat]
  | succ n ih =>
    show (m >>> n).mantissa / 2 = _
    rw [ih, Nat.div_div_eq_div_mul, Nat.pow_succ]

/-- The whole part of a number whose last place is not above the unit. -/
theorem toInt_of_exponent_nonpos {m : Nat} {e : Int} (hm : 0 < m) (he : e ≤ 0) (lo hi : Int) :
    (UnpackedFloat.finite .positive m e hm).toInt lo hi = (m / 2 ^ (-e).toNat : Nat) := by
  have hkept : (e - 0).toNat = 0 := by omega
  unfold UnpackedFloat.toInt UnpackedFloat.roundToInt
  simp only [UnpackedFloat.decreaseExponent, hkept, UnpackedFloat.shiftToExponent,
    mantissa_shiftRight]
  simp [ExtendedMantissa.ofMantissaAndAccuracy, UnpackedFloat.Sign.apply]

/-- A mantissa has at most 53 digits. -/
theorem mantissa_lt {x : Float} {sign : UnpackedFloat.Sign} {m : Nat} {e : Int} {hm : 0 < m}
    (h : x.toModel.unpack = .finite sign m e hm) : m < 2 ^ 53 := by
  unfold Float.Model.unpack UnpackedFloat.unpack at h
  simp only at h
  split at h
  · split at h <;> simp at h
  · split at h
    · split at h
      · simp at h
      · simp only [UnpackedFloat.finite.injEq] at h
        obtain ⟨-, rfl, -⟩ := h
        exact Nat.lt_trans (BitVec.isLt _) (by decide)
    · simp only [UnpackedFloat.finite.injEq] at h
      obtain ⟨-, rfl, -⟩ := h
      exact BitVec.isLt _

theorem lt_iff_compare {x y : Float} :
    x < y ↔ x.toModel.unpack.compare y.toModel.unpack = some .lt := by
  show decide (Float.Model.lt x.toModel y.toModel = true) = true ↔ _
  simp [Float.Model.lt, UnpackedFloat.lt]

/-- A positive number that does not exceed one hundred has a lower exponent, or the same one
and no greater mantissa. -/
theorem le_of_not_hundred_lt {m : Nat} {e : Int} {hm : 0 < m}
    (h : ¬ (UnpackedFloat.finite .positive (100 * 2 ^ 46) (-46) (by decide)).compare
      (.finite .positive m e hm) = some .lt) :
    e < -46 ∨ e = -46 ∧ m ≤ 100 * 2 ^ 46 := by
  simp only [UnpackedFloat.compare, Option.some.injEq, Ordering.then_eq_lt, not_or, not_and,
    Int.compare_eq_lt, Int.compare_eq_eq, Nat.compare_eq_lt] at h
  obtain ⟨he, hm'⟩ := h
  rcases Int.lt_or_eq_of_le (Int.not_lt.mp he) with he | he
  · exact .inl he
  · exact .inr ⟨he, Nat.not_lt.mp (hm' he.symm)⟩

/-- The whole part of such a number is at most one hundred. -/
theorem toInt_le_hundred {m : Nat} {e : Int} (hm : 0 < m) (hdigits : m < 2 ^ 53)
    (h : e < -46 ∨ e = -46 ∧ m ≤ 100 * 2 ^ 46) (lo hi : Int) :
    (UnpackedFloat.finite .positive m e hm).toInt lo hi ≤ 100 := by
  rw [toInt_of_exponent_nonpos hm (by omega)]
  refine Int.ofNat_le.mpr ?_
  rcases h with he | ⟨rfl, hle⟩
  · calc m / 2 ^ (-e).toNat
      _ ≤ m / 2 ^ 47 := Nat.div_le_div_left (Nat.pow_le_pow_right (by decide) (by omega)) (by decide)
      _ ≤ 100 := by omega
  · exact Nat.div_le_of_le_mul (by rw [Nat.mul_comm]; exact hle)

end FloatParts

open Float.Model (UnpackedFloat) in
/-- The byte of a number that does not exceed one hundred does not either. -/
theorem toUInt8_le_of_not_lt {x : Float} (h : ¬ fullAvailability.toFloat < x) :
    x.toUInt8 ≤ fullAvailability := by
  have hfull : fullAvailability.toFloat.toModel.unpack =
    .finite .positive (100 * 2 ^ 46) (-46) (by decide) := rfl
  rw [FloatParts.lt_iff_compare, hfull] at h
  have hwhole : x.toModel.unpack.toInt 0 255 ≤ 100 := by
    cases hx : x.toModel.unpack with
    | notANumber => simp [UnpackedFloat.toInt]
    | infinity sign =>
      cases sign with
      | negative => simp [UnpackedFloat.toInt]
      | positive => rw [hx] at h; exact absurd rfl h
    | zero sign => simp [UnpackedFloat.toInt]
    | finite sign m e hm =>
      cases sign with
      | negative =>
        simp only [UnpackedFloat.toInt, UnpackedFloat.roundToInt, UnpackedFloat.Sign.apply]
        omega
      | positive =>
        rw [hx] at h
        exact FloatParts.toInt_le_hundred hm (FloatParts.mantissa_lt hx)
          (FloatParts.le_of_not_hundred_lt h) 0 255
  have hbyte : (x.toModel.unpack.toInt 0 255).toNat ≤ 100 := Int.toNat_le.mpr hwhole
  show UInt8.ofNatClamp (x.toModel.unpack.toInt 0 255).toNat ≤ 100
  rw [UInt8.ofNatClamp, dif_pos (Nat.lt_of_le_of_lt hbyte (by decide)), UInt8.le_iff_toNat_le]
  exact hbyte

/-- **An estimate is at most one hundred percent.** -/
theorem BssidHistory.percent_le (successes trials : UInt64) :
    percent successes trials ≤ fullAvailability := by
  unfold percent
  simp only
  split
  · exact UInt8.le_iff_toNat_le.mpr (Nat.zero_le _)
  · split
    · exact UInt8.le_refl _
    · next h => exact toUInt8_le_of_not_lt h

end NetworkSelection
