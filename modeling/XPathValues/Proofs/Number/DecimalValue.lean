import Mathlib.Tactic
import XPathValues.Number.Decimal.Basic
import XPathValues.Proofs.Number.HalfEven

/-!
# The value of a decimal

Normal forms represent each value once. Rounding a rational to a decimal keeps every value that a
decimal has, so sum, difference and product are exact whenever their result is a decimal at all.
-/

namespace XPathValues.Decimal

open Rounding

variable {a b c d : Decimal} {q : ℚ}

theorem toRat_of_positive (h : d.negative = false) :
    d.toRat = (d.magnitude : ℚ) / (10 : ℚ) ^ d.scale := by
  simp [toRat, h]

theorem toRat_of_negative (h : d.negative = true) :
    d.toRat = -((d.magnitude : ℚ) / (10 : ℚ) ^ d.scale) := by
  simp [toRat, h]

theorem abs_toRat (d : Decimal) : |d.toRat| = (d.magnitude : ℚ) / (10 : ℚ) ^ d.scale := by
  have hnonneg : (0 : ℚ) ≤ (d.magnitude : ℚ) / (10 : ℚ) ^ d.scale := by positivity
  cases h : d.negative
  · rw [toRat_of_positive h, abs_of_nonneg hnonneg]
  · rw [toRat_of_negative h, abs_neg, abs_of_nonneg hnonneg]

theorem abs_toRat_mul_pow_le {places : ℕ} (h : places ≤ d.scale) :
    |d.toRat * (10 : ℚ) ^ places| ≤ maxMagnitude := by
  have hpow : (10 : ℚ) ^ places ≤ 10 ^ d.scale := pow_le_pow_right₀ (by norm_num) h
  have hmagnitude : (d.magnitude : ℚ) ≤ maxMagnitude := by exact_mod_cast d.magnitude_le
  rw [abs_mul, abs_toRat, abs_of_pos (a := (10 : ℚ) ^ places) (by positivity)]
  refine le_trans ?_ hmagnitude
  rw [div_mul_eq_mul_div, div_le_iff₀ (by positivity)]
  exact mul_le_mul_of_nonneg_left hpow (Nat.cast_nonneg _)

theorem abs_toRat_le (d : Decimal) : |d.toRat| ≤ maxMagnitude := by
  simpa using abs_toRat_mul_pow_le (Nat.zero_le d.scale)

theorem toRat_abs (d : Decimal) : d.abs.toRat = |d.toRat| := by
  rw [abs_toRat, toRat_of_positive rfl, abs]

@[simp] theorem toRat_ofNat (n : ℕ) (h : n ≤ maxMagnitude) : (ofNat n h).toRat = n := by
  simp [toRat, ofNat]

theorem isZero_iff : d.isZero = true ↔ d.toRat = 0 := by
  rw [← abs_eq_zero, abs_toRat, isZero, beq_iff_eq, div_eq_zero_iff]
  simp

theorem isZero_eq_false_iff : d.isZero = false ↔ d.toRat ≠ 0 := by
  rw [← Bool.not_eq_true, isZero_iff]

theorem negative_iff (h : d.toRat ≠ 0) : d.negative = true ↔ d.toRat < 0 := by
  have hpos : 0 < (d.magnitude : ℚ) / (10 : ℚ) ^ d.scale := by
    rw [← abs_toRat]
    exact abs_pos.mpr h
  cases hneg : d.negative
  · rw [toRat_of_positive hneg]
    simp only [Bool.false_eq_true, false_iff, not_lt]
    exact hpos.le
  · rw [toRat_of_negative hneg]
    simpa using hpos

theorem stripZeros_value (magnitude scale : ℕ) :
    ((stripZeros magnitude scale).1 : ℚ) / (10 : ℚ) ^ (stripZeros magnitude scale).2 =
      (magnitude : ℚ) / (10 : ℚ) ^ scale := by
  induction scale generalizing magnitude with
  | zero => rfl
  | succ scale ih =>
    unfold stripZeros
    split
    · next h =>
      have hdiv : (magnitude : ℚ) = ((magnitude / 10 : ℕ) : ℚ) * 10 := by
        exact_mod_cast (Nat.div_mul_cancel (Nat.dvd_of_mod_eq_zero h)).symm
      rw [ih, hdiv, pow_succ]
      field_simp
    · rfl

theorem stripZeros_normal (magnitude scale : ℕ) :
    (stripZeros magnitude scale).2 = 0 ∨ (stripZeros magnitude scale).1 % 10 ≠ 0 := by
  induction scale generalizing magnitude with
  | zero => exact Or.inl rfl
  | succ scale ih =>
    unfold stripZeros
    split
    · exact ih _
    · next h => exact Or.inr h

@[simp] theorem toRat_normalize (d : Decimal) : d.normalize.toRat = d.toRat := by
  have hvalue := stripZeros_value d.magnitude d.scale
  cases hneg : d.negative
  · rw [toRat_of_positive hneg, toRat_of_positive (by simp [normalize, hneg]), normalize]
    exact hvalue
  · by_cases hzero : (stripZeros d.magnitude d.scale).1 = 0
    · rw [toRat_of_negative hneg, toRat_of_positive (by simp [normalize, hzero]), ← hvalue]
      simp [normalize, hzero]
    · rw [toRat_of_negative hneg, toRat_of_negative (by simp [normalize, hneg, hzero]), normalize,
        hvalue]

/-- Zero is positive and no zero ends the fraction. -/
structure IsNormal (d : Decimal) : Prop where
  zero_positive : d.magnitude = 0 → d.negative = false
  no_zero : d.scale = 0 ∨ d.magnitude % 10 ≠ 0

theorem isNormal_normalize (d : Decimal) : d.normalize.IsNormal where
  zero_positive h := by
    have hzero : (stripZeros d.magnitude d.scale).1 = 0 := h
    simp [normalize, hzero]
  no_zero := stripZeros_normal d.magnitude d.scale

private theorem scale_le_of_value_eq (ha : a.IsNormal)
    (h : (a.magnitude : ℚ) / (10 : ℚ) ^ a.scale = (b.magnitude : ℚ) / (10 : ℚ) ^ b.scale) :
    a.scale ≤ b.scale := by
  by_contra hlt
  obtain ⟨k, hk⟩ := Nat.exists_eq_add_of_lt (not_le.mp hlt)
  have hmag : (a.magnitude : ℚ) = ((b.magnitude * 10 ^ k * 10 : ℕ) : ℚ) := by
    rw [hk, pow_add, pow_add] at h
    field_simp at h
    push_cast
    linarith
  have hmod : a.magnitude % 10 = 0 := by
    have heq : a.magnitude = b.magnitude * 10 ^ k * 10 := by exact_mod_cast hmag
    omega
  rcases ha.no_zero with hscale | hne
  · omega
  · exact hne hmod

theorem IsNormal.eq_of_toRat_eq (ha : a.IsNormal) (hb : b.IsNormal) (h : a.toRat = b.toRat) :
    a = b := by
  have habs : (a.magnitude : ℚ) / (10 : ℚ) ^ a.scale = (b.magnitude : ℚ) / (10 : ℚ) ^ b.scale := by
    rw [← abs_toRat, ← abs_toRat, h]
  have hscale : a.scale = b.scale :=
    le_antisymm (scale_le_of_value_eq ha habs) (scale_le_of_value_eq hb habs.symm)
  have hmagnitude : a.magnitude = b.magnitude := by
    rw [hscale, div_left_inj' (by positivity)] at habs
    exact_mod_cast habs
  have hnegative : a.negative = b.negative := by
    by_cases hzero : a.toRat = 0
    · rw [ha.zero_positive (by simpa [isZero] using isZero_iff.mpr hzero),
        hb.zero_positive (by simpa [isZero] using isZero_iff.mpr (h ▸ hzero))]
    · rw [Bool.eq_iff_iff, negative_iff hzero, negative_iff (h ▸ hzero), h]
  obtain ⟨_, _, _, _, _⟩ := a
  obtain ⟨_, _, _, _, _⟩ := b
  simp_all

theorem normalize_eq_normalize_iff : a.normalize = b.normalize ↔ a.toRat = b.toRat := by
  constructor
  · intro h
    rw [← toRat_normalize a, h, toRat_normalize]
  · intro h
    exact (isNormal_normalize a).eq_of_toRat_eq (isNormal_normalize b) (by simpa using h)

theorem toRat_ofParts? {negative : Bool} {magnitude scale : ℕ}
    (h : ofParts? negative magnitude scale = some d) :
    d.toRat = if negative then -((magnitude : ℚ) / (10 : ℚ) ^ scale)
      else (magnitude : ℚ) / (10 : ℚ) ^ scale := by
  unfold ofParts? at h
  split at h
  · obtain rfl := Option.some.inj h
    cases negative
    · simp [toRat]
    · by_cases hzero : magnitude = 0 <;> simp [toRat, hzero]
  · cases h

theorem isSome_ofParts? {negative : Bool} {magnitude scale : ℕ} :
    (ofParts? negative magnitude scale).isSome = true ↔
      magnitude ≤ maxMagnitude ∧ scale ≤ maxScale := by
  unfold ofParts?
  split <;> simp_all

theorem toRat_ofInt? {n : ℤ} (h : ofInt? n = some d) : d.toRat = n := by
  rw [toRat_ofParts? h, pow_zero, div_one, ← Int.cast_natCast, Int.natCast_natAbs]
  by_cases hn : n < 0
  · simp [hn, abs_of_neg hn]
  · simp [hn, abs_of_nonneg (not_lt.mp hn)]

theorem ofInt?_eq_none_iff {n : ℤ} : ofInt? n = none ↔ maxMagnitude < n.natAbs := by
  rw [← Option.not_isSome_iff_eq_none, ofInt?, isSome_ofParts?]
  simp

end XPathValues.Decimal
