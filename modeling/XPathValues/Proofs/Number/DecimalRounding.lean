import Mathlib.Tactic
import XPathValues.Proofs.Number.DecimalValue

/-!
# Rounding a rational to a decimal

The decimal of a rational is the multiple of a power of ten that is nearest to it, for the finest
power at which that multiple fits. A value that a decimal has is not rounded at all.
-/

namespace XPathValues.Decimal

open Rounding

variable {a b c d : Decimal} {q : ℚ} {scale : ℕ}

/-- The nearest multiple of the unit of a scale has a magnitude that can be stored. -/
def Fits (q : ℚ) (scale : ℕ) : Prop :=
  (halfEven (q * (10 : ℚ) ^ scale)).natAbs ≤ maxMagnitude

/-- The units that fit are below the middle between the largest magnitude and the next one, which
goes to the next one. -/
theorem fits_iff : Fits q scale ↔ |q * (10 : ℚ) ^ scale| < maxMagnitude + 1 / 2 := by
  have hodd : (maxMagnitude : ℤ) % 2 = 1 := by decide
  have hlimit := halfEven_le_iff_of_odd (q := |q * (10 : ℚ) ^ scale|) hodd
  rw [← natAbs_halfEven, Int.cast_natCast] at hlimit
  rw [← hlimit, Fits, Int.ofNat_le]

theorem Fits.of_finer {finer : ℕ} (h : Fits q finer) (hle : scale ≤ finer) : Fits q scale := by
  have hpow : (10 : ℚ) ^ scale ≤ 10 ^ finer := pow_le_pow_right₀ (by norm_num) hle
  rw [fits_iff, abs_mul, abs_of_pos (a := (10 : ℚ) ^ _) (by positivity)] at *
  exact (mul_le_mul_of_nonneg_left hpow (abs_nonneg q)).trans_lt h

theorem fits_neg : Fits (-q) scale ↔ Fits q scale := by
  rw [fits_iff, neg_mul, abs_neg, fits_iff]

theorem fits_of_abs_le (h : |q * (10 : ℚ) ^ scale| ≤ maxMagnitude) : Fits q scale :=
  fits_iff.mpr (by linarith)

theorem not_fits_of_units {z : ℤ} {finer : ℕ} (hunits : q * (10 : ℚ) ^ scale = z)
    (hlarge : maxMagnitude < z.natAbs) (hle : scale ≤ finer) : ¬ Fits q finer := by
  intro hfits
  have hlt := fits_iff.mp (hfits.of_finer hle)
  rw [hunits, ← Int.cast_abs, Int.abs_eq_natAbs, Int.cast_natCast] at hlt
  have hstep : (maxMagnitude : ℚ) + 1 ≤ z.natAbs := by exact_mod_cast hlarge
  linarith

theorem isSome_atScale? (hscale : scale ≤ maxScale) :
    (atScale? q scale).isSome = true ↔ Fits q scale := by
  rw [atScale?, isSome_ofParts?, Fits]
  exact and_iff_left hscale

theorem toRat_atScale? (h : atScale? q scale = some d) :
    d.toRat = (halfEven (q * (10 : ℚ) ^ scale) : ℚ) / (10 : ℚ) ^ scale := by
  rw [toRat_ofParts? h, ← neg_div]
  have hpow : (0 : ℚ) < (10 : ℚ) ^ scale := by positivity
  by_cases hq : q < 0
  · have hle : halfEven (q * (10 : ℚ) ^ scale) ≤ 0 := by
      apply halfEven_le
      push_cast
      exact (mul_neg_of_neg_of_pos hq hpow).le
    have habs : (((halfEven (q * (10 : ℚ) ^ scale)).natAbs : ℤ) : ℚ) =
        -(halfEven (q * (10 : ℚ) ^ scale) : ℚ) := by
      rw [Int.ofNat_natAbs_of_nonpos hle, Int.cast_neg]
    simp only [decide_eq_true hq, if_true]
    rw [← Int.cast_natCast, habs, neg_neg]
  · have hge : 0 ≤ halfEven (q * (10 : ℚ) ^ scale) := by
      apply le_halfEven
      push_cast
      exact mul_nonneg (not_lt.mp hq) hpow.le
    have habs : (((halfEven (q * (10 : ℚ) ^ scale)).natAbs : ℤ) : ℚ) =
        (halfEven (q * (10 : ℚ) ^ scale) : ℚ) := by
      rw [Int.natAbs_of_nonneg hge]
    simp only [decide_eq_false hq, Bool.false_eq_true, if_false]
    rw [← Int.cast_natCast, habs]

theorem atMostScale?_eq_some {limit : ℕ} (hlimit : limit ≤ maxScale)
    (h : atMostScale? q limit = some d) :
    ∃ scale ≤ limit, atScale? q scale = some d ∧
      ∀ finer, scale < finer → finer ≤ limit → ¬ Fits q finer := by
  induction limit with
  | zero => exact ⟨0, le_rfl, h, fun _ _ _ => by omega⟩
  | succ limit ih =>
    rw [atMostScale?, Option.or_eq_some_iff] at h
    rcases h with h | ⟨hnone, h⟩
    · exact ⟨limit + 1, le_rfl, h, fun _ _ _ => by omega⟩
    · obtain ⟨scale, hle, hscale, hfiner⟩ := ih (by omega) h
      refine ⟨scale, by omega, hscale, fun finer hlt hle' => ?_⟩
      rcases Nat.lt_or_eq_of_le hle' with hlt' | rfl
      · exact hfiner finer hlt (by omega)
      · rw [← isSome_atScale? hlimit, hnone]
        simp

theorem isSome_atMostScale? {limit : ℕ} (hlimit : limit ≤ maxScale) (hscale : scale ≤ limit)
    (hfits : Fits q scale) : (atMostScale? q limit).isSome = true := by
  induction limit with
  | zero =>
    obtain rfl : scale = 0 := by omega
    exact (isSome_atScale? hlimit).mpr hfits
  | succ limit ih =>
    rw [atMostScale?, Option.isSome_or, Bool.or_eq_true]
    rcases Nat.lt_or_eq_of_le hscale with hlt | rfl
    · exact Or.inr (ih (by omega) (by omega))
    · exact Or.inl ((isSome_atScale? hlimit).mpr hfits)

/-- The finest scale that fits is the one that is rounded at. -/
theorem ofRat?_spec (h : ofRat? q = some d) :
    d.IsNormal ∧ ∃ scale ≤ maxScale, Fits q scale ∧
      (∀ finer, scale < finer → finer ≤ maxScale → ¬ Fits q finer) ∧
      d.toRat = (halfEven (q * (10 : ℚ) ^ scale) : ℚ) / (10 : ℚ) ^ scale := by
  obtain ⟨rounded, hrounded, rfl⟩ := Option.map_eq_some_iff.mp h
  obtain ⟨scale, hscale, hat, hfiner⟩ := atMostScale?_eq_some le_rfl hrounded
  refine ⟨isNormal_normalize rounded, scale, hscale, ?_, hfiner, ?_⟩
  · rw [← isSome_atScale? hscale, hat]
    rfl
  · rw [toRat_normalize, toRat_atScale? hat]

theorem exists_ofRat? (hscale : scale ≤ maxScale) (hfits : Fits q scale) :
    ∃ d, ofRat? q = some d := by
  obtain ⟨rounded, hrounded⟩ :=
    Option.isSome_iff_exists.mp (isSome_atMostScale? le_rfl hscale hfits)
  exact ⟨rounded.normalize, by rw [ofRat?, hrounded, Option.map_some]⟩

theorem exists_ofRat?_of_finest (hscale : scale ≤ maxScale) (hfits : Fits q scale)
    (hfiner : ∀ finer, scale < finer → finer ≤ maxScale → ¬ Fits q finer) :
    ∃ e, ofRat? q = some e ∧
      e.toRat = (halfEven (q * (10 : ℚ) ^ scale) : ℚ) / (10 : ℚ) ^ scale := by
  obtain ⟨e, he⟩ := exists_ofRat? hscale hfits
  obtain ⟨_, scale', hscale', hfits', hfiner', hvalue⟩ := ofRat?_spec he
  obtain rfl : scale' = scale := by
    apply le_antisymm
    · by_contra hlt
      exact hfiner scale' (not_le.mp hlt) hscale' hfits'
    · by_contra hlt
      exact hfiner' scale (not_le.mp hlt) hscale hfits
  exact ⟨e, he, hvalue⟩

/-- Where no digit behind the point is kept there is still the most room. -/
theorem ofRat?_eq_none_iff : ofRat? q = none ↔ ¬ Fits q 0 := by
  constructor
  · intro hnone hfits
    obtain ⟨d, hd⟩ := exists_ofRat? (Nat.zero_le maxScale) hfits
    cases hnone.symm.trans hd
  · intro hbeyond
    cases hd : ofRat? q with
    | none => rfl
    | some d =>
      obtain ⟨_, scale, _, hfits, _⟩ := ofRat?_spec hd
      exact absurd (hfits.of_finer (Nat.zero_le scale)) hbeyond

theorem exists_ofRat?_iff : (∃ d, ofRat? q = some d) ↔ |q| < maxMagnitude + 1 / 2 := by
  have hwhole : Fits q 0 ↔ |q| < maxMagnitude + 1 / 2 := by
    rw [fits_iff, pow_zero, mul_one]
  rw [← hwhole, ← not_iff_not, ← ofRat?_eq_none_iff, ← Option.isSome_iff_exists,
    Bool.not_eq_true, Option.isSome_eq_false_iff, Option.isNone_iff_eq_none]

theorem exists_ofRat?_of_abs_le (h : |q| ≤ maxMagnitude) : ∃ d, ofRat? q = some d :=
  exists_ofRat?_iff.mpr (by linarith)

theorem abs_toRat_sub_le (h : ofRat? q = some d) : |d.toRat - q| ≤ 1 / 2 := by
  obtain ⟨_, scale, _, _, _, hvalue⟩ := ofRat?_spec h
  have hpow : (1 : ℚ) ≤ (10 : ℚ) ^ scale := one_le_pow₀ (by norm_num)
  have hunits : d.toRat * (10 : ℚ) ^ scale = halfEven (q * (10 : ℚ) ^ scale) := by
    rw [hvalue, div_mul_cancel₀ _ (by positivity)]
  calc |d.toRat - q| ≤ |d.toRat - q| * (10 : ℚ) ^ scale :=
        le_mul_of_one_le_right (abs_nonneg _) hpow
    _ = |halfEven (q * (10 : ℚ) ^ scale) - q * (10 : ℚ) ^ scale| := by
        rw [← hunits, ← sub_mul, abs_mul, abs_of_pos (a := (10 : ℚ) ^ scale) (by positivity)]
    _ ≤ 1 / 2 := abs_sub_le_iff.mpr ⟨halfEven_sub_le _, sub_halfEven_le _⟩

theorem toRat_mul_pow (d : Decimal) {scale : ℕ} (h : d.scale ≤ scale) :
    d.toRat * (10 : ℚ) ^ scale =
      (((if d.negative then -1 else 1) * (d.magnitude * 10 ^ (scale - d.scale) : ℕ) : ℤ) : ℚ) := by
  obtain ⟨k, rfl⟩ := Nat.exists_eq_add_of_le h
  rw [Nat.add_sub_cancel_left, pow_add]
  cases hneg : d.negative
  · rw [toRat_of_positive hneg]
    push_cast
    field_simp
  · rw [toRat_of_negative hneg]
    push_cast
    field_simp
    simp

theorem ofRat?_toRat (d : Decimal) : ofRat? d.toRat = some d.normalize := by
  have hfits : Fits d.toRat d.scale := by
    rw [Fits, toRat_mul_pow d le_rfl, halfEven_intCast, Nat.sub_self, pow_zero, mul_one,
      Int.natAbs_mul, Int.natAbs_natCast]
    have hmagnitude := d.magnitude_le
    split <;> simpa using hmagnitude
  obtain ⟨r, hr⟩ := exists_ofRat? d.scale_le hfits
  obtain ⟨hnormal, scale, hscale, _, hfiner, hvalue⟩ := ofRat?_spec hr
  have hle : d.scale ≤ scale := by
    by_contra hlt
    exact hfiner d.scale (not_le.mp hlt) d.scale_le hfits
  have hexact : r.toRat = d.toRat := by
    rw [hvalue, toRat_mul_pow d hle, halfEven_intCast, ← toRat_mul_pow d hle,
      mul_div_cancel_right₀ _ (by positivity)]
  rw [hr, hnormal.eq_of_toRat_eq (isNormal_normalize d) (by rw [hexact, toRat_normalize])]

theorem ofRat?_eq_some_of_value (h : q = d.toRat) : ofRat? q = some d.normalize := by
  rw [h, ofRat?_toRat]

theorem sub?_of_value (h : a.toRat - b.toRat = c.toRat) : a.sub? b = some c.normalize :=
  ofRat?_eq_some_of_value h

theorem mul?_of_value (h : a.toRat * b.toRat = c.toRat) : a.mul? b = some c.normalize :=
  ofRat?_eq_some_of_value h

end XPathValues.Decimal
