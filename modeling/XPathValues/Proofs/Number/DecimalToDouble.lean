import Mathlib.Tactic
import XPathValues.Number.Conversion
import XPathValues.Proofs.Number.BinaryValue

/-!
# The double of a decimal

A decimal without fraction digits becomes the nearest double. One with fraction digits goes through
several roundings, but it is far below the greatest decimals, and so is its double.
-/

namespace XPathValues

open BinaryFormat BinaryFloat

namespace BinaryFormat

theorem isBound_double {k : ℕ} (hk : k ≤ 971) : double.IsBound ((2 : ℚ) ^ k) := by
  have hmin : double.minExponent = -1074 := rfl
  have hmax : double.maxExponent = 971 := rfl
  exact isBound_two_pow proper_double.1 (by omega) (by omega)

theorem abs_le_double {q : ℚ} {k : ℕ} (hk : k ≤ 971) (h : |q| ≤ 2 ^ k) :
    |q| ≤ (2 : ℚ) ^ double.maxExponent :=
  h.trans (isBound_double hk).le_max

theorem isBound_double_mul {x : Double} {u : ℚ} {k l : ℕ} (hx : x.toRat? = some u) (hu : 0 ≤ u)
    (hle : u ≤ (2 : ℚ) ^ l) (hk : k + l ≤ 971) : double.IsBound ((2 : ℚ) ^ k * u) where
  nearest := nearest_two_pow_mul hx hu k
  le_max := by
    refine le_trans ?_ (isBound_double hk).le_max
    rw [pow_add]
    gcongr

end BinaryFormat

theorem BinaryFloat.toRat?_ofInt_double {n : ℤ} {k : ℕ} (hk : k ≤ 971) (h : |n| ≤ 2 ^ k) :
    (ofInt n : Double).toRat? = some (double.nearest n) := by
  have hcast : |(n : ℚ)| ≤ 2 ^ k := by exact_mod_cast h
  exact toRat?_ofRat proper_double (abs_le_double hk hcast)

namespace Decimal

variable {d : Decimal}

theorem exists_toRat?_power_ten {scale : ℕ} (h : scale ≤ maxScale) :
    ∃ u : ℚ, (BinaryFloat.power (BinaryFloat.ofInt 10) scale : Double).toRat? = some u ∧
      1 ≤ u ∧ u ≤ (2 : ℚ) ^ 94 := by
  have hall : ∀ scale : Fin (maxScale + 1),
      (BinaryFloat.power (BinaryFloat.ofInt 10) scale.val : Double).toRat?.any
        (fun u => decide (1 ≤ u ∧ u ≤ (2 : ℚ) ^ 94)) = true := by
    decide +kernel
  obtain ⟨u, hu, hbounds⟩ := (Option.any_eq_true _ _).mp (hall ⟨scale, Nat.lt_succ_of_le h⟩)
  exact ⟨u, hu, of_decide_eq_true hbounds⟩

/-- Digits before the point are few where there are digits after it. -/
theorem wholePart_le_two_pow (h : d.scale ≠ 0) : d.wholePart ≤ 2 ^ 93 := by
  have hten : 10 ^ 1 ≤ Nat.pow 10 d.scale :=
    Nat.pow_le_pow_right (by norm_num) (Nat.one_le_iff_ne_zero.mpr h)
  have hdiv : d.wholePart ≤ d.magnitude / 10 ^ 1 := Nat.div_le_div_left hten (by norm_num)
  have hmagnitude := d.magnitude_le
  unfold maxMagnitude at hmagnitude
  omega

/-- The quotient of the two rounded numbers is at most one, since rounding keeps their order. -/
theorem isUpTo_fraction (d : Decimal) :
    (BinaryFloat.div (BinaryFloat.ofInt d.fractionPart)
      (BinaryFloat.ofInt (Nat.pow 10 d.scale)) : Double).IsUpTo 1 := by
  have hpos : 0 < Nat.pow 10 d.scale := Nat.pow_pos (by norm_num)
  have hpart : (d.fractionPart : ℚ) ≤ (Nat.pow 10 d.scale : ℕ) := mod_cast (Nat.mod_lt _ hpos).le
  have hpower : ((Nat.pow 10 d.scale : ℕ) : ℚ) ≤ (2 : ℚ) ^ 94 :=
    mod_cast (Nat.pow_le_pow_right (by norm_num) d.scale_le).trans (by decide)
  have hbound := isBound_double (k := 94) (by norm_num)
  have hone := isBound_double (k := 0) (by norm_num)
  rw [pow_zero] at hone
  have hdivisor : (1 : ℚ) ≤ double.nearest (Nat.pow 10 d.scale : ℕ) := by
    rw [← hone.nearest]
    exact nearest_mono proper_double.1 (mod_cast hpos)
  have hnumerator := toRat?_ofRat proper_double
    (hbound.abs_le_max d.fractionPart.cast_nonneg (hpart.trans hpower))
  have hdenominator := toRat?_ofRat proper_double (hbound.abs_le_max (Nat.cast_nonneg _) hpower)
  have hle : double.nearest d.fractionPart ≤ 1 * double.nearest (Nat.pow 10 d.scale : ℕ) := by
    rw [one_mul]
    exact nearest_mono proper_double.1 hpart
  exact IsUpTo.div proper_double hone
    ⟨_, hnumerator, nearest_nonneg d.fractionPart.cast_nonneg, hle⟩ hdenominator (by linarith)

/-- To scale a number up, round it and scale it down again makes it at most twice as large. -/
theorem isUpTo_rescaled {x unit : Double} {u : ℚ} (hx : x.IsUpTo ((2 : ℚ) ^ 94))
    (hunit : unit.toRat? = some u) (hone : 1 ≤ u) (hle : u ≤ (2 : ℚ) ^ 94) :
    (BinaryFloat.div (BinaryFloat.roundHalfAway (BinaryFloat.mul x unit)) unit).IsUpTo
      ((2 : ℚ) ^ 95) := by
  have hu : 0 ≤ u := by linarith
  have hscaled := hx.mul proper_double (isBound_double_mul hunit hu hle (by norm_num)) hunit hu
  have hrounded := hscaled.roundHalfAway proper_double
    (isBound_double_mul (k := 95) hunit hu hle (by norm_num)) (by linarith)
  exact hrounded.div proper_double (isBound_double (by norm_num)) hunit (by linarith)

/-- The double of the magnitude: the nearest one to an integer, and a moderate one where there are
fraction digits. -/
theorem toRat?_magnitudeToDouble (d : Decimal) :
    (d.scale = 0 → d.magnitudeToDouble.toRat? = some (double.nearest d.magnitude)) ∧
      (d.scale ≠ 0 → d.magnitudeToDouble.IsUpTo ((2 : ℚ) ^ 95)) := by
  have hbound := isBound_double (k := 95) (by norm_num)
  refine ⟨fun hscale => ?_, fun hscale => ?_⟩
  · have hwhole : d.wholePart = d.magnitude := by simp [wholePart, hscale]
    have hfraction : d.fractionPart = 0 := by simp [fractionPart, hscale, Nat.mod_one]
    have hmagnitude : (d.magnitude : ℚ) ≤ (2 : ℚ) ^ 96 :=
      mod_cast d.magnitude_le.trans (by decide)
    rw [magnitudeToDouble, if_pos hfraction, hwhole]
    exact toRat?_ofRat proper_double ((isBound_double (k := 96) (by norm_num)).abs_le_max
      d.magnitude.cast_nonneg hmagnitude)
  · have hle : (d.wholePart : ℚ) ≤ (2 : ℚ) ^ 93 := mod_cast wholePart_le_two_pow hscale
    have hwhole := isUpTo_ofNat proper_double (isBound_double (k := 93) (by norm_num)) hle
    unfold magnitudeToDouble
    dsimp only
    split
    · obtain ⟨a, ha, h0, hle⟩ := hwhole
      exact ⟨a, ha, h0, hle.trans (by norm_num)⟩
    · obtain ⟨u, hunit, hone, hu⟩ := exists_toRat?_power_ten d.scale_le
      have hsum := hwhole.add proper_double (isBound_double (k := 94) (by norm_num))
        d.isUpTo_fraction (by norm_num)
      exact isUpTo_rescaled hsum hunit hone hu

theorem toRat_of_scale_eq_zero (h : d.scale = 0) :
    d.toRat = if d.negative then -(d.magnitude : ℚ) else d.magnitude := by
  simp [toRat, h]

theorem exists_toRat?_toDouble (d : Decimal) :
    ∃ t, d.toDouble.toRat? = some t ∧ (d.scale = 0 → t = double.nearest d.toRat) ∧
      (d.scale ≠ 0 → |t| ≤ (2 : ℚ) ^ 95) := by
  obtain ⟨hinteger, hfraction⟩ := d.toRat?_magnitudeToDouble
  have hmagnitude : ∃ t, d.magnitudeToDouble.toRat? = some t ∧
      (d.scale = 0 → t = double.nearest d.magnitude) ∧ (d.scale ≠ 0 → |t| ≤ (2 : ℚ) ^ 95) := by
    by_cases hscale : d.scale = 0
    · exact ⟨_, hinteger hscale, fun _ => rfl, fun h => absurd hscale h⟩
    · obtain ⟨t, ht, h0, hle⟩ := hfraction hscale
      exact ⟨t, ht, fun h => absurd h hscale, fun _ => by rwa [abs_of_nonneg h0]⟩
  obtain ⟨t, ht, hnearest, hsmall⟩ := hmagnitude
  unfold toDouble
  by_cases hnegative : (d.negative && (d.scale != 0 || d.magnitude != 0)) = true
  · rw [if_pos hnegative]
    refine ⟨-t, toRat?_neg ht, fun hscale => ?_, fun hscale => by rw [abs_neg]; exact hsmall hscale⟩
    have hsign : d.negative = true := (Bool.and_eq_true _ _ ▸ hnegative).1
    rw [hnearest hscale, toRat_of_scale_eq_zero hscale, if_pos hsign, nearest_neg]
  · rw [if_neg hnegative]
    refine ⟨t, ht, fun hscale => ?_, hsmall⟩
    rw [hnearest hscale, toRat_of_scale_eq_zero hscale]
    -- The sign of an integer is dropped at zero only.
    cases hsign : d.negative with
    | false => rfl
    | true =>
      have hzero : d.magnitude = 0 := by simpa [hsign, hscale] using hnegative
      simp [hzero]

end Decimal

end XPathValues
