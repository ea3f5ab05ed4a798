import Mathlib.Tactic
import XPathValues.Proofs.Number.DecimalWhole
import XPathValues.Proofs.Number.RoundedTwice

/-!
# The sum of a decimal and one half

The floor of the sum is the nearest integer, a half going up. The sum itself is rounded to a decimal
where it needs one digit more than there is room for, and then it may reach the next integer.
-/

namespace XPathValues.Decimal

open Rounding

variable {d e : Decimal} {q : ℚ} {scale : ℕ} {n z : ℤ}

/-! ## Floors -/

theorem toRat_truncate (d : Decimal) :
    d.truncate.toRat = if d.negative then -(d.wholePart : ℚ) else d.wholePart := by
  by_cases hzero : d.wholePart = 0
  · simp [truncate, toRat, hzero]
  · simp [truncate, toRat, hzero]

theorem toRat_awayFromZero (h : d.fractionPart ≠ 0) :
    (d.awayFromZero h).toRat =
      if d.negative then -((d.wholePart : ℚ) + 1) else (d.wholePart : ℚ) + 1 := by
  simp [awayFromZero, toRat]

theorem exists_fraction (d : Decimal) :
    ∃ fraction : ℚ, 0 ≤ fraction ∧ fraction < 1 ∧ (fraction = 0 ↔ d.fractionPart = 0) ∧
      d.toRat = if d.negative then -(d.wholePart + fraction) else d.wholePart + fraction := by
  have hpow : (0 : ℚ) < (10 : ℚ) ^ d.scale := by positivity
  have hsplit : (d.magnitude : ℚ) = d.wholePart * (10 : ℚ) ^ d.scale + d.fractionPart := by
    exact_mod_cast (Nat.div_add_mod' d.magnitude (10 ^ d.scale)).symm
  have hfraction : (d.fractionPart : ℚ) < (10 : ℚ) ^ d.scale := by
    have hlt : d.fractionPart < 10 ^ d.scale := Nat.mod_lt _ (Nat.pow_pos (by decide))
    exact_mod_cast hlt
  refine ⟨(d.fractionPart : ℚ) / (10 : ℚ) ^ d.scale, by positivity, (div_lt_one hpow).mpr hfraction,
    ?_, ?_⟩
  · rw [div_eq_zero_iff, or_iff_left hpow.ne', Nat.cast_eq_zero]
  · have hwhole : (d.magnitude : ℚ) / (10 : ℚ) ^ d.scale =
        d.wholePart + (d.fractionPart : ℚ) / (10 : ℚ) ^ d.scale := by
      rw [hsplit, add_div, mul_div_cancel_right₀ _ hpow.ne']
    rw [toRat, hwhole]

theorem toRat_floor (d : Decimal) : d.floor.toRat = (⌊d.toRat⌋ : ℚ) := by
  have hfloor : ∀ n : ℤ, (n : ℚ) ≤ d.toRat → d.toRat < n + 1 → ⌊d.toRat⌋ = n :=
    fun n hle hlt => Int.floor_eq_iff.mpr ⟨hle, hlt⟩
  obtain ⟨fraction, hnonneg, hsmall, hzero, hvalue⟩ := exists_fraction d
  unfold floor
  split
  · next hfraction =>
    have hpositive : 0 < fraction := lt_of_le_of_ne hnonneg (Ne.symm (mt hzero.mp hfraction))
    split
    · next hnegative =>
      rw [if_pos hnegative] at hvalue
      rw [toRat_awayFromZero, if_pos hnegative, hfloor (-(d.wholePart + 1))]
      · push_cast
        ring
      · push_cast
        linarith
      · push_cast
        linarith
    · next hpositive =>
      rw [if_neg hpositive] at hvalue
      rw [toRat_truncate, if_neg hpositive, hfloor d.wholePart]
      · rfl
      · push_cast
        linarith
      · push_cast
        linarith
  · next hinteger =>
    rw [not_not, ← hzero] at hinteger
    rw [hinteger, add_zero] at hvalue
    rw [toRat_truncate, ← hvalue]
    split at hvalue
    · have hcast : d.toRat = ((-d.wholePart : ℤ) : ℚ) := by exact_mod_cast hvalue
      rw [hcast, Int.floor_intCast]
    · rw [hvalue, Int.floor_natCast, Int.cast_natCast]

/-! ## One half more -/

/-- The sum with one half does not fit with all of its digits, and without the last of them it is
the next integer. -/
def HalfReachesNext (d : Decimal) : Prop :=
  (maxMagnitude : ℚ) < |(d.toRat + 1 / 2) * (10 : ℚ) ^ max d.scale 1| ∧
    halfEven ((d.toRat + 1 / 2) * (10 : ℚ) ^ (max d.scale 1 - 1)) =
      (⌊d.toRat + 1 / 2⌋ + 1) * 10 ^ (max d.scale 1 - 1)

instance (d : Decimal) : Decidable d.HalfReachesNext :=
  inferInstanceAs (Decidable (_ ∧ _))

theorem exists_units_half (d : Decimal) :
    ∃ z : ℤ, (d.toRat + 1 / 2) * (10 : ℚ) ^ max d.scale 1 = z := by
  obtain ⟨k, hk⟩ := Nat.exists_eq_add_of_le (le_max_right d.scale 1)
  refine ⟨(if d.negative then -1 else 1) *
    (d.magnitude * 10 ^ (max d.scale 1 - d.scale) : ℕ) + 5 * 10 ^ k, ?_⟩
  rw [Int.cast_add, add_mul, toRat_mul_pow d (le_max_left d.scale 1), hk, pow_add]
  push_cast
  ring

theorem fits_half (h : 2 ≤ d.scale) : Fits (d.toRat + 1 / 2) (d.scale - 1) := by
  have hscale := d.scale_le
  unfold maxScale at hscale
  obtain ⟨k, hk⟩ := Nat.exists_eq_add_of_le' (one_le_two.trans h)
  rw [hk] at hscale ⊢
  apply fits_of_abs_le
  have hdigits : |d.toRat| * (10 : ℚ) ^ k ≤ maxMagnitude / 10 := by
    have hunits := abs_toRat_mul_pow_le (le_refl d.scale)
    rw [hk, pow_succ, abs_mul, abs_of_pos (a := (10 : ℚ) ^ k * 10) (by positivity)] at hunits
    linarith
  have hhalf : (10 : ℚ) ^ k ≤ 10 ^ 27 := pow_le_pow_right₀ (by norm_num) (by omega)
  calc |(d.toRat + 1 / 2) * (10 : ℚ) ^ k| ≤ (|d.toRat| + 1 / 2) * (10 : ℚ) ^ k := by
        rw [abs_mul, abs_of_pos (a := (10 : ℚ) ^ k) (by positivity)]
        have htriangle := abs_add_le d.toRat (1 / 2)
        rw [abs_of_pos (a := (1 / 2 : ℚ)) (by norm_num)] at htriangle
        exact mul_le_mul_of_nonneg_right htriangle (by positivity)
    _ ≤ maxMagnitude / 10 + 1 / 2 * 10 ^ 27 := by linarith
    _ ≤ maxMagnitude := by norm_num [maxMagnitude]

/-- The floor of the sum is the nearest integer or, where the sum reaches the next one, that. -/
theorem stores_floor_half (d : Decimal) :
    Stores ((⌊d.toRat + 1 / 2⌋ + if d.HalfReachesNext then 1 else 0 : ℤ) : ℚ)
      ((ofRat? (d.toRat + 1 / 2)).map floor) := by
  obtain ⟨z, hz⟩ := exists_units_half d
  have hlarge : (maxMagnitude : ℚ) < |(d.toRat + 1 / 2) * (10 : ℚ) ^ max d.scale 1| ↔
      maxMagnitude < z.natAbs := by
    rw [hz, ← Int.cast_abs, Int.abs_eq_natAbs]
    exact_mod_cast Iff.rfl
  have hscale : max d.scale 1 ≤ maxScale := max_le d.scale_le (by decide)
  by_cases hsmall : z.natAbs ≤ maxMagnitude
  · obtain ⟨e, he, hvalue⟩ := exists_ofRat?_of_units hz hsmall hscale
    have hstays : ¬ d.HalfReachesNext := fun h => absurd (hlarge.mp h.1) (not_lt.mpr hsmall)
    rw [he, if_neg hstays, add_zero]
    exact .stored (by rw [toRat_floor, hvalue])
  · have hfiner : ∀ finer, max d.scale 1 - 1 < finer → ¬ Fits (d.toRat + 1 / 2) finer :=
      fun finer hlt => not_fits_of_units hz (not_le.mp hsmall) (by omega)
    have hreaches : d.HalfReachesNext ↔ halfEven ((d.toRat + 1 / 2) *
        (10 : ℚ) ^ (max d.scale 1 - 1)) = (⌊d.toRat + 1 / 2⌋ + 1) * 10 ^ (max d.scale 1 - 1) :=
      and_iff_right (hlarge.mpr (not_le.mp hsmall))
    simp only [hreaches, ← floor_rounded]
    by_cases hfits : Fits (d.toRat + 1 / 2) (max d.scale 1 - 1)
    · obtain ⟨e, he, hvalue⟩ := exists_ofRat?_of_finest (by omega) hfits
        fun finer hlt _ => hfiner finer hlt
      rw [he]
      exact .stored (by rw [toRat_floor, hvalue])
    · -- Only an integer can be too large, since every other scale gives up a digit for the sum.
      have hinteger : max d.scale 1 - 1 = 0 := by
        by_contra hdigits
        have hmax : max d.scale 1 = d.scale := max_eq_left (by omega)
        rw [hmax] at hfits
        exact hfits (fits_half (by omega))
      rw [hinteger] at hfits ⊢
      rw [ofRat?_eq_none_iff.mpr hfits, pow_zero, div_one, Int.floor_intCast]
      apply Stores.overflow
      apply toRat_ne_of_large
      rw [Fits, pow_zero] at hfits
      exact not_le.mp hfits

/-- An integer is stored with a digit behind the point, or it is too small for the sum to need one
digit more than there is room for. Halfway to the next integer, an odd one goes there. -/
theorem halfReachesNext_iff_of_integer (h : d.toRat = n) :
    d.HalfReachesNext ↔ n % 2 = 1 ∧ (maxMagnitude : ℤ) < |10 * n + 5| := by
  have hfloor : ⌊(n : ℚ) + 1 / 2⌋ = n := by
    rw [Int.floor_intCast_add, add_eq_left, Int.floor_eq_zero_iff]
    constructor <;> norm_num
  rw [HalfReachesNext, h, hfloor]
  rcases le_or_gt d.scale 1 with hscale | hscale
  · have hlarge : (maxMagnitude : ℚ) < |((n : ℚ) + 1 / 2) * (10 : ℚ) ^ 1| ↔
        (maxMagnitude : ℤ) < |10 * n + 5| := by
      have hunits : ((n : ℚ) + 1 / 2) * (10 : ℚ) ^ 1 = ((10 * n + 5 : ℤ) : ℚ) := by
        push_cast
        ring
      rw [hunits, ← Int.cast_abs]
      exact_mod_cast Iff.rfl
    have hodd : halfEven (((n : ℚ) + 1 / 2) * (10 : ℚ) ^ 0) = (n + 1) * 10 ^ 0 ↔ n % 2 = 1 := by
      rw [pow_zero, mul_one, pow_zero, mul_one, halfEven_add_half]
      split <;> omega
    rw [max_eq_right hscale, Nat.sub_self, hlarge, hodd, and_comm]
  · obtain ⟨k, hk⟩ : ∃ k, d.scale = k + 2 := Nat.exists_eq_add_of_le' hscale
    have hunits : ((n : ℚ) + 1 / 2) * (10 : ℚ) ^ (k + 1) = (((10 * n + 5) * 10 ^ k : ℤ) : ℚ) := by
      push_cast
      ring
    constructor
    · rintro ⟨_, hreaches⟩
      have hcoarser : max d.scale 1 - 1 = k + 1 := by omega
      rw [hcoarser, hunits, halfEven_intCast, pow_succ', ← mul_assoc] at hreaches
      have hdigits := mul_right_cancel₀ (pow_ne_zero k (by decide)) hreaches
      omega
    · rintro ⟨_, hlarge⟩
      have hmagnitude : d.magnitude = n.natAbs * 10 ^ k * 100 := by
        have habs := abs_toRat d
        rw [h, hk, eq_div_iff (by positivity), ← Int.cast_abs, Int.abs_eq_natAbs] at habs
        have hexact : n.natAbs * 10 ^ (k + 2) = d.magnitude := by exact_mod_cast habs
        rw [← hexact]
        ring
      have hgrow : n.natAbs ≤ n.natAbs * 10 ^ k := Nat.le_mul_of_pos_right _ (by positivity)
      have hstored := d.magnitude_le
      rw [Int.abs_eq_natAbs] at hlarge
      unfold maxMagnitude at *
      omega

end XPathValues.Decimal
