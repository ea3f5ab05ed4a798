import Mathlib.Tactic
import XPathValues.Proofs.Number.DecimalWhole

/-!
# The integer part of any rounded number

Rounding a rational to a decimal treats both signs alike and never passes the next integer away from
zero. `ReachesNext` says which rationals become that integer, up to the limit of storage; all others
keep their integer part. Far from the limit, these are the numbers that round up.
-/

namespace XPathValues

namespace Rounding

variable {q : ℚ} {n : ℤ}

theorem towardZero_eq_of (hsmall : |q - n| < 1) (hside : 0 ≤ (q - n) * q) : towardZero q = n := by
  obtain ⟨hlow, hhigh⟩ := abs_lt.mp hsmall
  rcases lt_trichotomy q 0 with hneg | rfl | hpos
  · have hle : q - n ≤ 0 := nonpos_of_mul_nonneg_left hside hneg
    rw [towardZero, if_neg (not_le.mpr hneg)]
    apply le_antisymm
    · exact Rat.ceil_le_iff.mpr (by linarith)
    · have hlt : n - 1 < q.ceil := Rat.lt_ceil_iff.mpr (by push_cast; linarith)
      omega
  · have hlt : (n : ℚ) < 1 := by linarith
    have hgt : (-1 : ℚ) < n := by linarith
    obtain rfl : n = 0 := by
      have hlt' : n < 1 := by exact_mod_cast hlt
      have hgt' : -1 < n := by exact_mod_cast hgt
      omega
    exact towardZero_intCast 0
  · have hge : 0 ≤ q - n := nonneg_of_mul_nonneg_left hside hpos
    rw [towardZero, if_pos hpos.le]
    apply le_antisymm
    · have hlt : q.floor < n + 1 := Rat.floor_lt_iff.mpr (by push_cast; linarith)
      omega
    · exact Rat.le_floor_iff.mpr (by linarith)

end Rounding

namespace Decimal

open Rounding

variable {d : Decimal} {q : ℚ} {scale : ℕ}

/-- At the finest scale of the next whole number, that number is the nearest one, and no finer scale
has room for a nearer one. -/
def ReachesNext (q : ℚ) : Prop :=
  halfEven (q * (10 : ℚ) ^ finestScale (⌊q⌋₊ + 1)) =
      (((⌊q⌋₊ + 1) * 10 ^ finestScale (⌊q⌋₊ + 1) : ℕ) : ℤ) ∧
    ∀ finer ≤ maxScale, finestScale (⌊q⌋₊ + 1) < finer → ¬ Fits q finer

instance (q : ℚ) (scale : ℕ) : Decidable (Fits q scale) :=
  inferInstanceAs (Decidable (_ ≤ _))

instance (q : ℚ) : Decidable (ReachesNext q) :=
  inferInstanceAs (Decidable (_ ∧ _))

/-- The integer part of the decimal of a number that is not negative. -/
def roundedWhole (q : ℚ) : ℕ :=
  if ReachesNext q then ⌊q⌋₊ + 1 else ⌊q⌋₊

theorem finestScale_eq_zero {n : ℕ} (h : maxMagnitude < n) : finestScale n = 0 := by
  refine Nat.findGreatest_eq_zero_iff.mpr fun scale _ _ => ?_
  have hgrow : n ≤ n * 10 ^ scale := Nat.le_mul_of_pos_right n (by positivity)
  omega

theorem le_succ_floor (q : ℚ) : q ≤ ((⌊q⌋₊ + 1 : ℕ) : ℚ) := by
  exact_mod_cast (Nat.lt_floor_add_one q).le

/-- Where the next whole number can be stored at all, its finest scale has room for the number. -/
theorem fits_finestScale (hq : 0 ≤ q) (h : ⌊q⌋₊ + 1 ≤ maxMagnitude) :
    Fits q (finestScale (⌊q⌋₊ + 1)) := by
  have hstored := mul_pow_finestScale_le h
  have hlower := le_halfEven_scaled (n := 0) (by simpa using hq) (finestScale (⌊q⌋₊ + 1))
  have hupper := halfEven_scaled_le (le_succ_floor q) (finestScale (⌊q⌋₊ + 1))
  unfold Fits
  omega

/-- The scale in use stores the next whole number if and only if the number reaches it. -/
theorem reachesNext_iff (hq : 0 ≤ q) (hscale : scale ≤ maxScale) (hfits : Fits q scale)
    (hfiner : ∀ finer, scale < finer → finer ≤ maxScale → ¬ Fits q finer) :
    ReachesNext q ↔
      halfEven (q * (10 : ℚ) ^ scale) = (((⌊q⌋₊ + 1) * 10 ^ scale : ℕ) : ℤ) := by
  -- Either side makes `scale` the finest scale of the next whole number.
  constructor
  · rintro ⟨hreached, hcoarser⟩
    have hle : scale ≤ finestScale (⌊q⌋₊ + 1) := by
      by_contra hlt
      exact hcoarser scale hscale (not_le.mp hlt) hfits
    have hge : finestScale (⌊q⌋₊ + 1) ≤ scale := by
      rcases Nat.lt_or_ge maxMagnitude (⌊q⌋₊ + 1) with hlarge | hstored
      · exact (finestScale_eq_zero hlarge).le.trans (Nat.zero_le scale)
      · by_contra hlt
        exact hfiner _ (not_le.mp hlt) (finestScale_le _) (fits_finestScale hq hstored)
    rwa [le_antisymm hge hle] at hreached
  · intro hreached
    have hstored : (⌊q⌋₊ + 1) * 10 ^ scale ≤ maxMagnitude := by
      unfold Fits at hfits
      omega
    have hnext : ⌊q⌋₊ + 1 ≤ maxMagnitude :=
      (Nat.le_mul_of_pos_right _ (by positivity)).trans hstored
    have hge : finestScale (⌊q⌋₊ + 1) ≤ scale := by
      by_contra hlt
      exact hfiner _ (not_le.mp hlt) (finestScale_le _) (fits_finestScale hq hnext)
    obtain rfl : scale = finestScale (⌊q⌋₊ + 1) := le_antisymm (le_finestScale hscale hstored) hge
    exact ⟨hreached, fun finer hle hlt => hfiner finer hlt hle⟩

theorem toRat_nonneg_of_ofRat? (hq : 0 ≤ q) (h : ofRat? q = some d) : 0 ≤ d.toRat := by
  obtain ⟨_, scale, _, _, _, hvalue⟩ := ofRat?_spec h
  have hlower := le_halfEven_scaled (n := 0) (by simpa using hq) scale
  have hnonneg : (0 : ℚ) ≤ halfEven (q * (10 : ℚ) ^ scale) := by
    exact_mod_cast (by simpa using hlower : 0 ≤ halfEven (q * (10 : ℚ) ^ scale))
  rw [hvalue]
  positivity

theorem floor_toRat_of_ofRat? (hq : 0 ≤ q) (h : ofRat? q = some d) :
    ⌊d.toRat⌋₊ = roundedWhole q := by
  have hnonneg := toRat_nonneg_of_ofRat? hq h
  obtain ⟨_, scale, hscale, hfits, hfiner, hvalue⟩ := ofRat?_spec h
  have hpow : (0 : ℚ) < (10 : ℚ) ^ scale := by positivity
  have hreaches := reachesNext_iff hq hscale hfits hfiner
  unfold roundedWhole
  split
  · next hnext =>
    rw [hvalue, hreaches.mp hnext]
    push_cast
    rw [mul_div_cancel_right₀ _ hpow.ne']
    exact_mod_cast Nat.floor_natCast (R := ℚ) (⌊q⌋₊ + 1)
  · next hstays =>
    have hlower := le_halfEven_scaled (Nat.floor_le hq) scale
    have hupper :=
      lt_of_le_of_ne (halfEven_scaled_le (le_succ_floor q) scale) (mt hreaches.mpr hstays)
    rw [Nat.floor_eq_iff hnonneg, hvalue, le_div_iff₀ hpow, div_lt_iff₀ hpow]
    exact ⟨by exact_mod_cast hlower, by exact_mod_cast hupper⟩

/-- Far from the limit of storage, the numbers that round up are the ones that reach it. -/
theorem reachesNext_iff_roundsUp (hq : 0 ≤ q) (hlimit : (⌊q⌋₊ + 1) * 10 ≤ maxMagnitude) :
    ReachesNext q ↔ RoundsUp q := by
  have hone : 1 ≤ finestScale (⌊q⌋₊ + 1) := le_finestScale (by decide) (by simpa using hlimit)
  have hnearest := halfEven_scaled_eq_iff hone (le_succ_floor q)
  constructor
  · intro hreaches
    exact hnearest.mp hreaches.1
  · intro hup
    exact ⟨hnearest.mpr hup, fun finer hle hlt => not_fits_of_near hle hlt hone hq hup⟩

theorem roundedWhole_eq (hq : 0 ≤ q) (hlimit : (⌊q⌋₊ + 1) * 10 ≤ maxMagnitude) :
    roundedWhole q = if RoundsUp q then ⌊q⌋₊ + 1 else ⌊q⌋₊ :=
  if_congr (reachesNext_iff_roundsUp hq hlimit) rfl rfl

/-! ## Either sign -/

theorem exists_ofRat?_neg (h : ofRat? q = some d) :
    ∃ e, ofRat? (-q) = some e ∧ e.toRat = -d.toRat := by
  obtain ⟨_, scale, hscale, hfits, hfiner, hvalue⟩ := ofRat?_spec h
  obtain ⟨e, he, hvalue'⟩ := exists_ofRat?_of_finest hscale (fits_neg.mpr hfits)
    fun finer hlt hle => mt fits_neg.mp (hfiner finer hlt hle)
  refine ⟨e, he, ?_⟩
  rw [hvalue', hvalue, neg_mul, halfEven_neg]
  push_cast
  ring

theorem toInt_of_nonneg (h : 0 ≤ d.toRat) : d.toInt = (⌊d.toRat⌋₊ : ℤ) := by
  have hwhole := floor_abs_toRat d
  rw [abs_of_nonneg h] at hwhole
  rw [toInt, hwhole]
  by_cases hzero : d.toRat = 0
  · have hnone : d.wholePart = 0 := by rw [← hwhole, hzero, Nat.floor_zero]
    simp [hnone]
  · have hpositive : ¬ d.negative = true := by
      rw [negative_iff hzero]
      exact not_lt.mpr h
    rw [if_neg hpositive]

theorem toInt_of_nonpos (h : d.toRat ≤ 0) : d.toInt = -(⌊-d.toRat⌋₊ : ℤ) := by
  have hneg : d.neg.toInt = -d.toInt := by
    cases hd : d.negative <;> simp [toInt, neg, hd] <;> rfl
  have hflip := toInt_of_nonneg (d := d.neg) (by rw [toRat_neg]; linarith)
  rw [hneg, toRat_neg] at hflip
  omega

/-- The integer part of the decimal of any rational. -/
def signedWhole (q : ℚ) : ℤ :=
  if q < 0 then -roundedWhole (-q) else roundedWhole q

theorem signedWhole_zero : signedWhole 0 = 0 := by
  decide +kernel

theorem signedWhole_neg (q : ℚ) : signedWhole (-q) = -signedWhole q := by
  rcases lt_trichotomy q 0 with hneg | rfl | hpos
  · rw [signedWhole, signedWhole, if_neg (by linarith), if_pos hneg, neg_neg]
  · rw [neg_zero, signedWhole_zero, neg_zero]
  · rw [signedWhole, signedWhole, if_pos (by linarith), if_neg (by linarith), neg_neg]

theorem toInt_truncate (d : Decimal) : d.truncate.toInt = d.toInt := by
  have hwhole : d.truncate.wholePart = d.wholePart := by
    simp [truncate, wholePart]
  unfold toInt
  rw [hwhole]
  by_cases hzero : d.wholePart = 0
  · simp [hzero]
  · simp [truncate, hzero]

theorem toInt_ofRat? (h : ofRat? q = some d) : d.toInt = signedWhole q := by
  unfold signedWhole
  split
  · next hneg =>
    obtain ⟨e, he, hvalue⟩ := exists_ofRat?_neg h
    have hnonneg := toRat_nonneg_of_ofRat? (neg_nonneg.mpr hneg.le) he
    rw [toInt_of_nonpos (by linarith), ← hvalue,
      floor_toRat_of_ofRat? (neg_nonneg.mpr hneg.le) he]
  · next hpos =>
    rw [not_lt] at hpos
    rw [toInt_of_nonneg (toRat_nonneg_of_ofRat? hpos h), floor_toRat_of_ofRat? hpos h]

theorem towardZero_of_nonneg (h : 0 ≤ q) : towardZero q = (⌊q⌋₊ : ℤ) := by
  apply towardZero_eq_of
  · rw [Int.cast_natCast, abs_lt]
    constructor <;> linarith [Nat.floor_le h, Nat.lt_floor_add_one q]
  · rw [Int.cast_natCast]
    exact mul_nonneg (sub_nonneg.mpr (Nat.floor_le h)) h

theorem towardZero_of_nonpos (h : q ≤ 0) : towardZero q = -(⌊-q⌋₊ : ℤ) := by
  have hpos : 0 ≤ -q := neg_nonneg.mpr h
  apply towardZero_eq_of
  · push_cast
    rw [abs_lt]
    constructor <;> linarith [Nat.floor_le hpos, Nat.lt_floor_add_one (-q)]
  · push_cast
    have hside := Nat.floor_le hpos
    nlinarith

theorem toInt_eq_towardZero (d : Decimal) : d.toInt = towardZero d.toRat := by
  rcases le_total 0 d.toRat with hnonneg | hnonpos
  · rw [toInt_of_nonneg hnonneg, towardZero_of_nonneg hnonneg]
  · rw [toInt_of_nonpos hnonpos, towardZero_of_nonpos hnonpos]

/-- The integer part survives the rounding unless the magnitude reaches the next integer. -/
theorem signedWhole_eq_iff (q : ℚ) : signedWhole q = towardZero q ↔ ¬ ReachesNext |q| := by
  rcases lt_or_ge q 0 with hneg | hpos
  · rw [signedWhole, if_pos hneg, towardZero_of_nonpos hneg.le, abs_of_neg hneg, roundedWhole]
    split <;> simp_all
  · rw [signedWhole, if_neg (not_lt.mpr hpos), towardZero_of_nonneg hpos, abs_of_nonneg hpos,
      roundedWhole]
    split <;> simp_all

end Decimal

end XPathValues
