import Mathlib.Tactic
import Mathlib.Algebra.Order.Floor.Semifield
import Mathlib.Data.Rat.Floor
import XPathValues.Proofs.Number.DecimalRounding

/-!
# The integer part of a rounded number

A number just below an integer may become that integer when it is rounded to a decimal. `RoundsUp`
says exactly when, and every other number keeps its integer part.
-/

namespace XPathValues.Decimal

open Rounding

variable {d : Decimal} {q : ℚ} {scale : ℕ}

/-- The finest scale at which a whole number can be stored. -/
def finestScale (n : ℕ) : ℕ :=
  Nat.findGreatest (fun scale => n * 10 ^ scale ≤ maxMagnitude) maxScale

/-- At the finest scale of the next whole number, a number is at most half a unit below it. -/
def RoundsUp (q : ℚ) : Prop :=
  2 * ((⌊q⌋₊ + 1 : ℕ) - q) * (10 : ℚ) ^ finestScale (⌊q⌋₊ + 1) ≤ 1

instance (q : ℚ) : Decidable (RoundsUp q) :=
  inferInstanceAs (Decidable (_ ≤ _))

theorem finestScale_le (n : ℕ) : finestScale n ≤ maxScale :=
  Nat.findGreatest_le _

theorem mul_pow_finestScale_le {n : ℕ} (h : n ≤ maxMagnitude) :
    n * 10 ^ finestScale n ≤ maxMagnitude :=
  Nat.findGreatest_spec (P := fun scale => n * 10 ^ scale ≤ maxMagnitude) (Nat.zero_le maxScale)
    (by simpa using h)

theorem le_finestScale {n : ℕ} (hscale : scale ≤ maxScale) (h : n * 10 ^ scale ≤ maxMagnitude) :
    scale ≤ finestScale n :=
  Nat.le_findGreatest hscale h

theorem lt_mul_pow {n : ℕ} (hscale : scale ≤ maxScale) (h : finestScale n < scale) :
    maxMagnitude < n * 10 ^ scale := by
  by_contra hle
  exact absurd (le_finestScale hscale (not_lt.mp hle)) (not_le.mpr h)

/-- Numbers near a multiple of one hundred that does not fit do not fit either. -/
theorem not_fits_of_near {n : ℕ} (hscale : scale ≤ maxScale) (hlt : finestScale n < scale)
    (hone : 1 ≤ finestScale n) (hq : 0 ≤ q)
    (hnear : 2 * ((n : ℚ) - q) * (10 : ℚ) ^ finestScale n ≤ 1) : ¬ Fits q scale := by
  have hstep : finestScale n + 1 ≤ maxScale := by omega
  -- A multiple of one hundred beyond the greatest magnitude is at least 65 beyond it.
  have hbig : maxMagnitude + 65 ≤ n * 10 ^ (finestScale n + 1) := by
    obtain ⟨k, hk⟩ := Nat.exists_eq_add_of_le hone
    have hlarge := lt_mul_pow hstep (Nat.lt_succ_self (finestScale n))
    have hmultiple : n * 10 ^ (finestScale n + 1) = n * 10 ^ k * 100 := by
      rw [hk]
      ring
    unfold maxMagnitude at *
    omega
  have hlow : ((maxMagnitude + 1 : ℕ) : ℚ) ≤ q * (10 : ℚ) ^ (finestScale n + 1) := by
    have hcast : ((maxMagnitude + 65 : ℕ) : ℚ) ≤ (n : ℚ) * (10 : ℚ) ^ (finestScale n + 1) := by
      exact_mod_cast hbig
    rw [pow_succ] at *
    push_cast at *
    nlinarith
  have hmono : q * (10 : ℚ) ^ (finestScale n + 1) ≤ q * (10 : ℚ) ^ scale :=
    mul_le_mul_of_nonneg_left (pow_le_pow_right₀ (by norm_num) hlt) hq
  have hround : ((maxMagnitude + 1 : ℕ) : ℤ) ≤ halfEven (q * (10 : ℚ) ^ scale) := by
    apply le_halfEven
    push_cast at *
    linarith
  unfold Fits
  omega

theorem le_halfEven_scaled {n : ℕ} (h : (n : ℚ) ≤ q) (scale : ℕ) :
    ((n * 10 ^ scale : ℕ) : ℤ) ≤ halfEven (q * (10 : ℚ) ^ scale) := by
  apply le_halfEven
  push_cast
  exact mul_le_mul_of_nonneg_right h (by positivity)

theorem halfEven_scaled_le {n : ℕ} (h : q ≤ n) (scale : ℕ) :
    halfEven (q * (10 : ℚ) ^ scale) ≤ ((n * 10 ^ scale : ℕ) : ℤ) := by
  apply halfEven_le
  push_cast
  exact mul_le_mul_of_nonneg_right h (by positivity)

theorem halfEven_scaled_eq_iff {n : ℕ} (hscale : 1 ≤ scale) (hq : q ≤ n) :
    halfEven (q * (10 : ℚ) ^ scale) = ((n * 10 ^ scale : ℕ) : ℤ) ↔
      2 * ((n : ℚ) - q) * (10 : ℚ) ^ scale ≤ 1 := by
  constructor
  · intro heq
    have hdist := halfEven_sub_le (q * (10 : ℚ) ^ scale)
    rw [heq] at hdist
    push_cast at hdist
    linarith
  · intro hnear
    have heven : ((n * 10 ^ scale : ℕ) : ℤ) % 2 = 0 := by
      obtain ⟨k, rfl⟩ := Nat.exists_eq_add_of_le hscale
      have hdouble : n * 10 ^ (1 + k) = 2 * (n * 5 * 10 ^ k) := by ring
      omega
    apply halfEven_eq_of_even heven
    · push_cast
      linarith
    · push_cast
      exact mul_le_mul_of_nonneg_right hq (by positivity)

/-- The next whole number is reached exactly when the number rounds up. -/
theorem floor_ofRat?_of_spec (hq : 0 ≤ q) (hone : 1 ≤ finestScale (⌊q⌋₊ + 1))
    (hscale : scale ≤ maxScale) (hge : finestScale (⌊q⌋₊ + 1) ≤ scale) (hfit : Fits q scale) :
    ⌊(halfEven (q * (10 : ℚ) ^ scale) : ℚ) / (10 : ℚ) ^ scale⌋₊ =
      if RoundsUp q then ⌊q⌋₊ + 1 else ⌊q⌋₊ := by
  have hpow : (0 : ℚ) < (10 : ℚ) ^ scale := by positivity
  have hhigh : q ≤ ((⌊q⌋₊ + 1 : ℕ) : ℚ) := by
    exact_mod_cast (Nat.lt_floor_add_one q).le
  have hlower := le_halfEven_scaled (Nat.floor_le hq) scale
  have hupper := halfEven_scaled_le hhigh scale
  split
  · next hup =>
    -- No finer scale stores a number this close, so the coarsest candidate is the one in use.
    obtain rfl : scale = finestScale (⌊q⌋₊ + 1) := by
      by_contra hne
      exact not_fits_of_near hscale (by omega) hone hq hup hfit
    rw [(halfEven_scaled_eq_iff hone hhigh).mpr hup]
    push_cast
    rw [mul_div_cancel_right₀ _ hpow.ne']
    exact_mod_cast Nat.floor_natCast (R := ℚ) (⌊q⌋₊ + 1)
  · next hstay =>
    have hne : halfEven (q * (10 : ℚ) ^ scale) ≠ (((⌊q⌋₊ + 1) * 10 ^ scale : ℕ) : ℤ) := by
      intro heq
      have hstored : (⌊q⌋₊ + 1) * 10 ^ scale ≤ maxMagnitude := by
        unfold Fits at hfit
        omega
      obtain rfl : scale = finestScale (⌊q⌋₊ + 1) :=
        le_antisymm (le_finestScale hscale hstored) hge
      exact hstay ((halfEven_scaled_eq_iff hone hhigh).mp heq)
    have hlow : ((⌊q⌋₊ : ℕ) : ℚ) ≤ (halfEven (q * (10 : ℚ) ^ scale) : ℚ) / (10 : ℚ) ^ scale := by
      rw [le_div_iff₀ hpow]
      exact_mod_cast hlower
    rw [Nat.floor_eq_iff (le_trans (Nat.cast_nonneg _) hlow)]
    refine ⟨hlow, ?_⟩
    rw [div_lt_iff₀ hpow]
    exact_mod_cast lt_of_le_of_ne hupper hne

theorem floor_ofRat? (hq : 0 ≤ q) (hlimit : (⌊q⌋₊ + 1) * 10 ≤ maxMagnitude) :
    ∃ d, ofRat? q = some d ∧ 0 ≤ d.toRat ∧
      ⌊d.toRat⌋₊ = if RoundsUp q then ⌊q⌋₊ + 1 else ⌊q⌋₊ := by
  have hhigh : q ≤ ((⌊q⌋₊ + 1 : ℕ) : ℚ) := by
    exact_mod_cast (Nat.lt_floor_add_one q).le
  have hone : 1 ≤ finestScale (⌊q⌋₊ + 1) := le_finestScale (by decide) (by simpa using hlimit)
  have hfits : Fits q (finestScale (⌊q⌋₊ + 1)) := by
    have hstored := mul_pow_finestScale_le (n := ⌊q⌋₊ + 1) (by omega)
    have hlower := le_halfEven_scaled (n := 0) (by simpa using hq) (finestScale (⌊q⌋₊ + 1))
    have hupper := halfEven_scaled_le hhigh (finestScale (⌊q⌋₊ + 1))
    unfold Fits
    omega
  obtain ⟨d, hd⟩ := exists_ofRat? (finestScale_le _) hfits
  obtain ⟨_, scale, hscale, hfit, hfiner, hvalue⟩ := ofRat?_spec hd
  have hge : finestScale (⌊q⌋₊ + 1) ≤ scale := by
    by_contra hlt
    exact hfiner _ (not_le.mp hlt) (finestScale_le _) hfits
  refine ⟨d, hd, ?_, ?_⟩
  · have hlower := le_halfEven_scaled (n := 0) (by simpa using hq) scale
    rw [hvalue]
    have hnonneg : (0 : ℚ) ≤ halfEven (q * (10 : ℚ) ^ scale) := by
      exact_mod_cast (by simpa using hlower : 0 ≤ halfEven (q * (10 : ℚ) ^ scale))
    positivity
  · rw [hvalue, floor_ofRat?_of_spec hq hone hscale hge hfit]

theorem floor_abs_toRat (d : Decimal) : ⌊|d.toRat|⌋₊ = d.wholePart := by
  have hpow : (10 : ℚ) ^ d.scale = ((Nat.pow 10 d.scale : ℕ) : ℚ) := by
    exact_mod_cast (Nat.pow_eq (m := 10) (n := d.scale)).symm
  rw [abs_toRat, hpow, Nat.floor_div_eq_div, wholePart]

theorem toRat_truncate_of_nonneg (h : 0 ≤ d.toRat) : d.truncate.toRat = (⌊d.toRat⌋₊ : ℚ) := by
  have hwhole := floor_abs_toRat d
  rw [abs_of_nonneg h] at hwhole
  rw [hwhole]
  by_cases hzero : d.toRat = 0
  · have hnone : d.wholePart = 0 := by rw [← hwhole, hzero, Nat.floor_zero]
    simp [truncate, toRat, hnone]
  · have hpositive : d.negative = false := by
      rw [← Bool.not_eq_true, negative_iff hzero]
      exact not_lt.mpr h
    simp [truncate, toRat, hpositive]

theorem toRat_truncate_of_abs_lt_one (h : |d.toRat| < 1) : d.truncate.toRat = 0 := by
  have hwhole := floor_abs_toRat d
  rw [Nat.floor_eq_zero.mpr h] at hwhole
  simp [truncate, toRat, ← hwhole]

theorem abs_ofRat?_lt_one (hlow : -(1 / 2) < q) (hhigh : q ≤ 0) (h : ofRat? q = some d) :
    |d.toRat| < 1 := by
  obtain ⟨_, scale, _, _, _, hvalue⟩ := ofRat?_spec h
  have hone : (1 : ℚ) ≤ (10 : ℚ) ^ scale := one_le_pow₀ (by norm_num)
  have hupper : (halfEven (q * (10 : ℚ) ^ scale) : ℚ) ≤ 0 := by
    have hle := halfEven_scaled_le (n := 0) (by simpa using hhigh) scale
    exact_mod_cast (by simpa using hle : halfEven (q * (10 : ℚ) ^ scale) ≤ 0)
  have hlower := sub_halfEven_le (q * (10 : ℚ) ^ scale)
  have hscaled : -(1 / 2) * (10 : ℚ) ^ scale < q * (10 : ℚ) ^ scale :=
    mul_lt_mul_of_pos_right hlow (by linarith)
  rw [hvalue, abs_lt, lt_div_iff₀ (by linarith), div_lt_iff₀ (by linarith)]
  constructor <;> linarith

theorem exists_ofParts?_of_int {z : ℤ} (hz : z.natAbs ≤ maxMagnitude) (hscale : scale ≤ maxScale) :
    ∃ d, ofParts? (decide (z < 0)) z.natAbs scale = some d ∧
      d.toRat = (z : ℚ) / (10 : ℚ) ^ scale := by
  have hsome : (ofParts? (decide (z < 0)) z.natAbs scale).isSome = true :=
    isSome_ofParts?.mpr ⟨hz, hscale⟩
  obtain ⟨d, hd⟩ := Option.isSome_iff_exists.mp hsome
  refine ⟨d, hd, (toRat_ofParts? hd).trans ?_⟩
  by_cases hneg : z < 0
  · have habs : ((z.natAbs : ℕ) : ℚ) = -(z : ℚ) := by
      rw [← Int.cast_natCast, Int.ofNat_natAbs_of_nonpos hneg.le, Int.cast_neg]
    simp [hneg, habs, neg_div]
  · have habs : ((z.natAbs : ℕ) : ℚ) = (z : ℚ) := by
      rw [← Int.cast_natCast, Int.natAbs_of_nonneg (not_lt.mp hneg)]
    simp [hneg, habs]

theorem exists_ofRat?_of_units {z : ℤ} (hunits : q * (10 : ℚ) ^ scale = z)
    (hz : z.natAbs ≤ maxMagnitude) (hscale : scale ≤ maxScale) :
    ∃ e, ofRat? q = some e ∧ e.toRat = q := by
  obtain ⟨d, _, hd⟩ := exists_ofParts?_of_int hz hscale
  have hvalue : q = d.toRat := by
    rw [hd, ← hunits, mul_div_cancel_right₀ _ (by positivity)]
  exact ⟨d.normalize, ofRat?_eq_some_of_value hvalue, by rw [toRat_normalize, hvalue]⟩

/-- The decimal of this value, or none where no decimal has it. -/
inductive Stores (q : ℚ) : Option Decimal → Prop
  | stored {e : Decimal} (h : e.toRat = q) : Stores q (some e)
  | overflow (h : ∀ e : Decimal, e.toRat ≠ q) : Stores q none

theorem toRat_ne_of_large {n : ℤ} (h : maxMagnitude < n.natAbs) (d : Decimal) : d.toRat ≠ n := by
  intro heq
  have hle := abs_toRat_le d
  rw [heq, ← Int.cast_abs, Int.abs_eq_natAbs] at hle
  exact absurd (by exact_mod_cast hle) (not_le.mpr h)

theorem stores_ofRat?_intCast (n : ℤ) : Stores n (ofRat? n) := by
  have hunits : (n : ℚ) * (10 : ℚ) ^ 0 = n := by simp
  by_cases hn : n.natAbs ≤ maxMagnitude
  · obtain ⟨e, he, hvalue⟩ := exists_ofRat?_of_units hunits hn (Nat.zero_le _)
    rw [he]
    exact .stored hvalue
  · have hlarge := not_le.mp hn
    rw [ofRat?_eq_none_iff.mpr (not_fits_of_units hunits hlarge le_rfl)]
    exact .overflow (toRat_ne_of_large hlarge)

theorem exists_toRat_eq_sub {k : ℕ} (h : |d.toRat - k| ≤ |d.toRat|) :
    ∃ r : Decimal, r.toRat = d.toRat - k := by
  have hpow : (0 : ℚ) < (10 : ℚ) ^ d.scale := by positivity
  have hscaled := toRat_mul_pow d le_rfl
  set z : ℤ := (if d.negative then -1 else 1) * (d.magnitude * 10 ^ (d.scale - d.scale) : ℕ)
  have hdiff : (d.toRat - k) * (10 : ℚ) ^ d.scale = ((z - k * 10 ^ d.scale : ℤ) : ℚ) := by
    rw [sub_mul, hscaled]
    push_cast
    ring
  have hmagnitude : |d.toRat| * (10 : ℚ) ^ d.scale = d.magnitude := by
    rw [abs_toRat, div_mul_cancel₀ _ hpow.ne']
  have hsmall : (z - k * 10 ^ d.scale).natAbs ≤ maxMagnitude := by
    have hle : |((z - k * 10 ^ d.scale : ℤ) : ℚ)| ≤ d.magnitude := by
      rw [← hdiff, abs_mul, abs_of_pos hpow, ← hmagnitude]
      exact mul_le_mul_of_nonneg_right h hpow.le
    have hnat : (z - k * 10 ^ d.scale).natAbs ≤ d.magnitude := by
      rw [← Int.cast_abs, Int.abs_eq_natAbs] at hle
      exact_mod_cast hle
    exact hnat.trans d.magnitude_le
  obtain ⟨r, _, hr⟩ := exists_ofParts?_of_int hsmall d.scale_le
  exact ⟨r, by rw [hr, ← hdiff, mul_div_cancel_right₀ _ hpow.ne']⟩

end XPathValues.Decimal
