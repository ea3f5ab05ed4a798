import Mathlib.Tactic
import XPathValues.Function.Rounding
import XPathValues.Proofs.Number.DecimalWhole
import XPathValues.Proofs.Number.RoundedTwice

/-!
# Rounding decimals to multiples of a power of ten

A decimal is rounded to so many fraction digits without loss. To a power of ten it is rounded by way
of a quotient, which is itself rounded to 28 places, so that next to a tie the even multiple is
taken also where the other one is nearer. Beyond the power that can be stored every decimal becomes
zero, and a few of those at the first such power are nearer to another multiple.
-/

namespace XPathValues.Decimal

open Rounding

variable {d e : Decimal} {places k : ℕ} {p : ℤ}

/-! ## Fraction digits -/

theorem rounded_places_toRat (h : d.scale ≤ places) :
    (halfEven (d.toRat * (10 : ℚ) ^ places) : ℚ) / (10 : ℚ) ^ places = d.toRat := by
  rw [toRat_mul_pow d h, halfEven_intCast, ← toRat_mul_pow d h,
    mul_div_cancel_right₀ _ (by positivity)]

theorem exists_roundToPlaces? (d : Decimal) (h : places ≤ maxScale) :
    ∃ e, d.roundToPlaces? places = some e ∧
      e.toRat = (halfEven (d.toRat * (10 : ℚ) ^ places) : ℚ) / (10 : ℚ) ^ places := by
  unfold roundToPlaces?
  split
  · next hscale => exact ⟨d, rfl, (rounded_places_toRat hscale).symm⟩
  · next hscale =>
    have hfits : Fits d.toRat places := fits_of_abs_le (abs_toRat_mul_pow_le (not_le.mp hscale).le)
    exact exists_ofRat?_of_units (div_mul_cancel₀ _ (by positivity)) hfits h

/-! ## Powers of ten -/

theorem exists_powerOfTen? (h : k ≤ maxScale) :
    ∃ e, powerOfTen? k = some e ∧ e.toRat = (10 : ℚ) ^ k := by
  induction k with
  | zero => exact ⟨_, rfl, by simp [one]⟩
  | succ k ih =>
    obtain ⟨e, he, hvalue⟩ := ih (by omega)
    have hstored : (10 ^ (k + 1) : ℤ).natAbs ≤ maxMagnitude := by
      rw [Int.natAbs_pow]
      calc 10 ^ (k + 1) ≤ 10 ^ maxScale := Nat.pow_le_pow_right (by decide) h
        _ ≤ maxMagnitude := by decide
    have hunits : (10 : ℚ) ^ (k + 1) * (10 : ℚ) ^ 0 = ((10 ^ (k + 1) : ℤ) : ℚ) := by
      push_cast
      ring
    obtain ⟨next, hnext, hpower⟩ := exists_ofRat?_of_units hunits hstored (Nat.zero_le _)
    refine ⟨next, ?_, hpower⟩
    rw [powerOfTen?, he, Option.bind_some, mul?, hvalue, toRat_ofNat, ← hnext]
    push_cast
    rw [pow_succ]

theorem exists_div?_powerOfTen (hunit : e.toRat = (10 : ℚ) ^ k) (d : Decimal) (hk : k ≤ maxScale) :
    ∃ quotient, d.div? e = some quotient ∧
      quotient.toRat = (halfEven (d.toRat / (10 : ℚ) ^ k * (10 : ℚ) ^ maxScale) : ℚ) /
        (10 : ℚ) ^ maxScale := by
  have hpow : (0 : ℚ) < (10 : ℚ) ^ k := by positivity
  have hnonzero : e.isZero = false := isZero_eq_false_iff.mpr (by rw [hunit]; exact hpow.ne')
  rw [div?, hnonzero, hunit]
  by_cases hroom : d.scale + k ≤ maxScale
  · let shifted : Decimal := ⟨d.negative, d.magnitude, d.scale + k, d.magnitude_le, hroom⟩
    have hvalue : d.toRat / (10 : ℚ) ^ k = shifted.toRat := by
      simp only [toRat, shifted, pow_add, ← div_div]
      split <;> ring
    refine ⟨_, ofRat?_eq_some_of_value hvalue, ?_⟩
    rw [hvalue, toRat_normalize]
    exact (rounded_places_toRat hroom).symm
  · have hshift : d.toRat / (10 : ℚ) ^ k * (10 : ℚ) ^ maxScale =
        d.toRat * (10 : ℚ) ^ (maxScale - k) := by
      rw [div_mul_eq_mul_div, div_eq_iff hpow.ne', mul_assoc, ← pow_add, Nat.sub_add_cancel hk]
    have hfits : Fits (d.toRat / (10 : ℚ) ^ k) maxScale := by
      apply fits_of_abs_le
      rw [hshift]
      exact abs_toRat_mul_pow_le (by omega)
    exact exists_ofRat?_of_finest le_rfl hfits fun finer hlt hle => absurd hle (not_le.mpr hlt)

/-! ## Multiples -/

/-- The nearest multiple is an odd one, but the power of ten is the first that cannot be stored, or
the quotient is rounded to a tie. -/
def MissesNearest (d : Decimal) (p : ℤ) : Prop :=
  (p = -29 ∨ -28 ≤ p ∧ p < 0 ∧ NearTie (d.toRat * (10 : ℚ) ^ p) maxScale) ∧
    halfEven (d.toRat * (10 : ℚ) ^ p) % 2 = 1

instance (d : Decimal) (p : ℤ) : Decidable (d.MissesNearest p) :=
  inferInstanceAs (Decidable (_ ∧ _))

def roundedCount (d : Decimal) (p : ℤ) : ℤ :=
  if d.MissesNearest p then halfEven ((⌊d.toRat * (10 : ℚ) ^ p⌋ : ℚ) + 1 / 2)
  else halfEven (d.toRat * (10 : ℚ) ^ p)

theorem isNearestMultiple_roundedCount :
    IsNearestMultiple d.toRat ((10 : ℚ) ^ (-p)) (d.roundedCount p) ↔ ¬ d.MissesNearest p := by
  rw [isNearestMultiple_powerOfTen_iff, roundedCount]
  split
  · next hmisses =>
    have heven := halfEven_floor_add_half_even (d.toRat * (10 : ℚ) ^ p)
    have hodd := hmisses.2
    simp only [hmisses, not_true_eq_false, iff_false]
    intro heq
    omega
  · next hnearest => simp [hnearest]

theorem abs_scaled_le {limit : ℤ} (h : p ≤ limit) :
    |d.toRat * (10 : ℚ) ^ p| ≤ maxMagnitude * (10 : ℚ) ^ limit := by
  rw [abs_mul, abs_of_pos (a := (10 : ℚ) ^ p) (by positivity)]
  exact mul_le_mul (abs_toRat_le d) (zpow_le_zpow_right₀ (by norm_num) h) (by positivity)
    (by positivity)

theorem abs_scaled_lt_one (h : p ≤ -29) : |d.toRat * (10 : ℚ) ^ p| < 1 :=
  (abs_scaled_le h).trans_lt (by norm_num [maxMagnitude])

theorem missesNearest_first_iff : d.MissesNearest (-29) ↔ 5 * 10 ^ 28 < |d.toRat| := by
  rw [MissesNearest, halfEven_odd_iff (abs_scaled_lt_one le_rfl), abs_mul]
  norm_num
  constructor <;> intro h <;> linarith

theorem not_missesNearest_of_nonneg (h : 0 ≤ p) : ¬ d.MissesNearest p := by
  rintro ⟨rfl | ⟨_, hneg, _⟩, _⟩ <;> omega

theorem not_missesNearest_of_multiple {n : ℤ} (h : d.toRat * (10 : ℚ) ^ p = n) :
    ¬ d.MissesNearest p := by
  rintro ⟨rfl | ⟨_, _, hnear⟩, hodd⟩
  · have hsmall := abs_scaled_lt_one (d := d) (le_refl (-29))
    rw [h, ← Int.cast_abs, ← Int.cast_one, Int.cast_lt, Int.abs_lt_one_iff] at hsmall
    rw [h, hsmall] at hodd
    exact absurd hodd (by decide +kernel)
  · rw [NearTie, h, Int.floor_intCast] at hnear
    norm_num [maxScale] at hnear

/-- Where the nearest multiple is missed, the result is the even one of the two around. -/
theorem abs_sub_roundedCount_lt (h : d.MissesNearest p) :
    |d.toRat - d.roundedCount p * (10 : ℚ) ^ (-p)| < (10 : ℚ) ^ (-p) := by
  have hlow : (⌊d.toRat * (10 : ℚ) ^ p⌋ : ℚ) < d.toRat * (10 : ℚ) ^ p :=
    lt_of_le_of_ne (Int.floor_le _) fun heq => not_missesNearest_of_multiple heq.symm h
  have hhigh := Int.lt_floor_add_one (d.toRat * (10 : ℚ) ^ p)
  have hscaled : |d.toRat * (10 : ℚ) ^ p - d.roundedCount p| < 1 := by
    rw [roundedCount, if_pos h, halfEven_add_half, abs_lt]
    split <;> push_cast <;> constructor <;> linarith
  rw [abs_sub_mul (by positivity), zpow_neg, div_inv_eq_mul]
  exact mul_lt_of_lt_one_left (by positivity) hscaled

theorem not_missesNearest_of_scale_le (h : (d.scale : ℤ) ≤ 28 + p) : ¬ d.MissesNearest p := by
  rintro ⟨rfl | ⟨hlow, _, hnear⟩, hodd⟩
  · omega
  · obtain ⟨room, hroom⟩ := Int.eq_ofNat_of_zero_le (by omega : 0 ≤ 28 + p)
    have hunits := toRat_mul_pow d (by omega : d.scale ≤ room)
    have hshift : d.toRat * (10 : ℚ) ^ p * (10 : ℚ) ^ maxScale = d.toRat * (10 : ℚ) ^ room := by
      rw [mul_assoc, ← zpow_natCast, ← zpow_natCast, ← zpow_add₀ (by norm_num), ← hroom,
        add_comm p]
      rfl
    have htie := rounded_places_of_nearTie (by decide) hnear
    rw [hshift, hunits, halfEven_intCast, ← hunits, ← hshift,
      mul_div_cancel_right₀ _ (by positivity)] at htie
    have heven := halfEven_floor_add_half_even (d.toRat * (10 : ℚ) ^ p)
    rw [← htie] at heven
    omega

theorem roundedCount_eq_zero (h : p ≤ -29) : d.roundedCount p = 0 := by
  have hsmall := abs_scaled_lt_one (d := d) h
  unfold roundedCount
  split
  · obtain ⟨hlow, hhigh⟩ := abs_lt.mp hsmall
    have hfloor : -1 ≤ ⌊d.toRat * (10 : ℚ) ^ p⌋ := Int.le_floor.mpr (by push_cast; linarith)
    have hfloor' : ⌊d.toRat * (10 : ℚ) ^ p⌋ < 1 := Int.floor_lt.mpr (by push_cast; linarith)
    rw [halfEven_add_half]
    split <;> omega
  · next hnearest =>
    apply halfEven_eq_zero
    rcases eq_or_lt_of_le h with rfl | hlt
    · rw [MissesNearest, halfEven_odd_iff hsmall] at hnearest
      simpa using hnearest
    · exact (abs_scaled_le (Int.le_sub_one_of_lt hlt)).trans (by norm_num [maxMagnitude])

/-- The nearest integer to the rounded quotient. -/
theorem halfEven_quotient (hlow : -28 ≤ p) (hneg : p < 0) :
    halfEven ((halfEven (d.toRat * (10 : ℚ) ^ p * (10 : ℚ) ^ maxScale) : ℚ) /
      (10 : ℚ) ^ maxScale) = d.roundedCount p := by
  rw [halfEven_rounded _ (by decide), roundedCount]
  by_cases hnear : NearTie (d.toRat * (10 : ℚ) ^ p) maxScale
  · by_cases hodd : halfEven (d.toRat * (10 : ℚ) ^ p) % 2 = 1
    · have hmisses : d.MissesNearest p := ⟨Or.inr ⟨hlow, hneg, hnear⟩, hodd⟩
      rw [if_pos hnear, if_pos hmisses]
    · have hnearest : ¬ d.MissesNearest p := fun h => hodd h.2
      rw [if_pos hnear, if_neg hnearest, halfEven_floor_add_half (by omega)]
  · have hnearest : ¬ d.MissesNearest p := by
      rintro ⟨rfl | ⟨_, _, h⟩, _⟩
      · omega
      · exact hnear h
    rw [if_neg hnear, if_neg hnearest]

/-- So many units, or an overflow where no decimal has their value. -/
def GivesUnits (count : ℤ) (p : ℤ) (outcome : Except Error Decimal) : Prop :=
  ∃ rounded, outcome = orError .numericOverflow rounded ∧
    Stores (count * (10 : ℚ) ^ (-p)) rounded

theorem roundDecimalToEven_of_nonneg (d : Decimal) (h : 0 ≤ p) :
    NumericRule.roundDecimalToEven d p =
      orError .numericOverflow (d.roundToPlaces? (min p.toNat maxScale)) := by
  rw [NumericRule.roundDecimalToEven, if_pos h]

theorem roundDecimalToEven_of_beyond (d : Decimal) (h : p ≤ -29) :
    NumericRule.roundDecimalToEven d p = .ok zero := by
  unfold NumericRule.roundDecimalToEven maxScale
  rw [if_neg (by omega), if_pos (by omega)]

theorem givesUnits_of_nonneg (d : Decimal) (h : 0 ≤ p) :
    GivesUnits (d.roundedCount p) p (NumericRule.roundDecimalToEven d p) := by
  obtain ⟨places, rfl⟩ := Int.eq_ofNat_of_zero_le h
  obtain ⟨e, he, hvalue⟩ := exists_roundToPlaces? d (min_le_right places maxScale)
  refine ⟨some e, ?_, .stored ?_⟩
  · rw [roundDecimalToEven_of_nonneg d h, Int.toNat_natCast, he]
  · rw [hvalue, roundedCount, if_neg (not_missesNearest_of_nonneg h), zpow_neg, zpow_natCast,
      ← div_eq_mul_inv]
    rcases le_total places maxScale with hle | hge
    · rw [min_eq_left hle]
    · -- A decimal has no digits at the places beyond its greatest scale.
      rw [min_eq_right hge, rounded_places_toRat d.scale_le,
        rounded_places_toRat (d.scale_le.trans hge)]

theorem givesUnits_of_beyond (d : Decimal) (h : p ≤ -29) :
    GivesUnits (d.roundedCount p) p (NumericRule.roundDecimalToEven d p) := by
  refine ⟨some zero, roundDecimalToEven_of_beyond d h, .stored ?_⟩
  rw [roundedCount_eq_zero h]
  simp

theorem givesUnits_of_within (d : Decimal) (hlow : -28 ≤ p) (hneg : p < 0) :
    GivesUnits (d.roundedCount p) p (NumericRule.roundDecimalToEven d p) := by
  obtain ⟨k, rfl⟩ : ∃ k : ℕ, p = -k := ⟨p.natAbs, by omega⟩
  have hk : k ≤ maxScale := by
    unfold maxScale
    omega
  obtain ⟨unit, hunit, hpower⟩ := exists_powerOfTen? hk
  obtain ⟨quotient, hquotient, hrounded⟩ := exists_div?_powerOfTen hpower d hk
  obtain ⟨count, hcount, hinteger⟩ := exists_roundToPlaces? quotient (Nat.zero_le maxScale)
  have hscaled : d.toRat / (10 : ℚ) ^ k = d.toRat * (10 : ℚ) ^ (-k : ℤ) := by
    rw [zpow_neg, zpow_natCast, div_eq_mul_inv]
  rw [hscaled] at hrounded
  rw [pow_zero, mul_one, div_one, hrounded, halfEven_quotient hlow hneg] at hinteger
  have hproduct : count.mul? unit = ofRat? ((d.roundedCount (-k) * 10 ^ k : ℤ) : ℚ) := by
    rw [mul?, hinteger, hpower]
    push_cast
    rfl
  refine ⟨count.mul? unit, ?_, ?_⟩
  · rw [NumericRule.roundDecimalToEven, if_neg (by omega), Int.natAbs_neg, Int.natAbs_natCast,
      if_neg (not_lt.mpr hk), hunit]
    simp [hquotient, hcount]
  · rw [hproduct, neg_neg, zpow_natCast]
    exact_mod_cast stores_ofRat?_intCast (d.roundedCount (-k) * 10 ^ k)

theorem givesUnits_roundDecimalToEven (d : Decimal) (p : ℤ) :
    GivesUnits (d.roundedCount p) p (NumericRule.roundDecimalToEven d p) := by
  rcases le_or_gt 0 p with hnonneg | hneg
  · exact givesUnits_of_nonneg d hnonneg
  · rcases le_or_gt p (-29) with hbeyond | hwithin
    · exact givesUnits_of_beyond d hbeyond
    · exact givesUnits_of_within d hwithin hneg

end XPathValues.Decimal
