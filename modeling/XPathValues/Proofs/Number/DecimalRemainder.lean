import Mathlib.Tactic
import XPathValues.Proofs.Number.DecimalQuotient

/-!
# Division with remainder

Quotient and remainder of two decimals, the quotient cut off toward zero. The remainder is always
smaller than the divisor and has the sign of the dividend. It is what the exact quotient leaves over
as long as the long division of the magnitudes loses no word.
-/

namespace XPathValues

namespace LongDivision

variable {divisor dividend : ℕ}

/-- No leading part of the dividend leaves a rest that begins with the word of the divisor. -/
def KeepsWords (divisor dividend : ℕ) : Prop :=
  ∀ count, leadingWord (dividend / wordSize ^ (count + 1) % divisor) ≠ leadingWord divisor

/-- The last word is dropped from the dividend and from each of its leading parts. -/
theorem KeepsWords.dropLast (h : KeepsWords divisor dividend) :
    KeepsWords divisor (dividend / wordSize) := by
  intro count
  rw [Nat.div_div_eq_div_mul, ← pow_succ']
  exact h (count + 1)

/-- The step takes every word without loss, so each leading part is reduced by the divisor. -/
theorem scan_eq_mod_of_keepsWords (dividend : ℕ) (h : KeepsWords divisor dividend) :
    scan divisor dividend = dividend % divisor := by
  induction dividend using Nat.strongRecOn with
  | ind dividend ih =>
    unfold scan
    split
    · next hzero => rw [hzero, Nat.zero_mod]
    · next hpos =>
      have hsmaller : dividend / wordSize < dividend := Nat.div_lt_self (by omega) (by decide)
      -- The scan of all words but the last is one leading part; `h 0` is about its rest.
      have hlead := h 0
      rw [zero_add, pow_one] at hlead
      rw [ih _ hsmaller h.dropLast, step_eq_mod hlead, Nat.add_mod, Nat.mod_mul_mod,
        ← Nat.add_mod, Nat.div_add_mod']

/-- A divisor of two words, a dividend of three, or no lost word: the remainder is exact. -/
def IsExact (dividend divisor : ℕ) : Prop :=
  divisor < wordSize * wordSize ∨ dividend ≤ Decimal.maxMagnitude ∨
    KeepsWords (divisor * fullShift divisor) (dividend * fullShift divisor)

theorem IsExact.remainder_eq_mod (h : IsExact dividend divisor) :
    remainder dividend divisor = dividend % divisor := by
  rcases h with hnarrow | hshort | hkeeps
  · exact if_pos hnarrow
  · exact LongDivision.remainder_eq_mod (Nat.lt_succ_of_le hshort) divisor
  · unfold remainder
    split
    · rfl
    · dsimp only
      rw [scan_eq_mod_of_keepsWords _ hkeeps, Nat.mul_mod_mul_right,
        Nat.mul_div_cancel _ (fullShift_pos divisor)]

theorem remainder_zero (divisor : ℕ) : remainder 0 divisor = 0 := by
  rw [remainder_eq_mod (by decide), Nat.zero_mod]

end LongDivision

/-! ## Quotient and remainder of two numbers -/

/-- Quotient and remainder add up to the dividend; the remainder is smaller than the divisor and on
the side of the dividend. -/
structure IsDivision (x y : ℚ) (n : ℤ) (m : ℚ) : Prop where
  law : x = n * y + m
  small : |m| < |y|
  side : m = 0 ∨ 0 < m * x

theorem IsDivision.ne_zero {x y m : ℚ} {n : ℤ} (h : IsDivision x y n m) : y ≠ 0 :=
  abs_pos.mp ((abs_nonneg m).trans_lt h.small)

theorem IsDivision.quotient_eq {x y m : ℚ} {n : ℤ} (h : IsDivision x y n m) :
    n = Rounding.towardZero (x / y) := by
  have hy := h.ne_zero
  have hrest : x / y - n = m / y := by
    have hlaw := h.law
    field_simp
    linarith
  refine (Rounding.towardZero_eq_of ?_ ?_).symm
  · rw [hrest, abs_div, div_lt_one (abs_pos.mpr hy)]
    exact h.small
  · have hproduct : (x / y - n) * (x / y) = m * x / (y * y) := by
      rw [hrest, div_mul_div_comm]
    have hside : 0 ≤ m * x := by
      rcases h.side with rfl | hpos
      · rw [zero_mul]
      · exact hpos.le
    rw [hproduct]
    exact div_nonneg hside (mul_self_nonneg y)

namespace Decimal

open LongDivision Rounding

variable {a b q r : Decimal} {scale : ℕ}

/-- The number with the sign of a decimal and with so many units of a scale. -/
def signedLike (d : Decimal) (units scale : ℕ) : ℚ :=
  (if d.negative then -1 else 1) * ((units : ℚ) / (10 : ℚ) ^ scale)

theorem toRat_eq_signedLike {d : Decimal} (h : d.scale ≤ scale) :
    d.toRat = d.signedLike (d.magnitudeAt scale) scale := by
  have hpow : (10 : ℚ) ^ scale ≠ 0 := by positivity
  have hscaled := toRat_mul_pow d h
  rw [signedLike, magnitudeAt, ← mul_div_assoc, eq_div_iff hpow, hscaled, Nat.pow_eq]
  split <;> push_cast <;> ring

theorem abs_signedLike (d : Decimal) (units scale : ℕ) :
    |d.signedLike units scale| = (units : ℚ) / (10 : ℚ) ^ scale := by
  have hnonneg : (0 : ℚ) ≤ (units : ℚ) / (10 : ℚ) ^ scale := by positivity
  unfold signedLike
  split
  · rw [neg_one_mul, abs_neg, abs_of_nonneg hnonneg]
  · rw [one_mul, abs_of_nonneg hnonneg]

theorem signedLike_inj {d : Decimal} {m n : ℕ} :
    d.signedLike m scale = d.signedLike n scale ↔ m = n := by
  have hpow : (10 : ℚ) ^ scale ≠ 0 := by positivity
  constructor
  · intro h
    have habs : |d.signedLike m scale| = |d.signedLike n scale| := by rw [h]
    rw [abs_signedLike, abs_signedLike, div_left_inj' hpow] at habs
    exact_mod_cast habs
  · rintro rfl
    rfl

/-- The magnitudes at the greater of the two scales, which are what is divided. -/
def dividendOf (a b : Decimal) : ℕ :=
  a.magnitudeAt (max a.scale b.scale)

def divisorOf (a b : Decimal) : ℕ :=
  b.magnitudeAt (max a.scale b.scale)

theorem divisorOf_pos (hb : b.toRat ≠ 0) : 0 < divisorOf a b := by
  rw [toRat_eq_signedLike (le_max_right a.scale b.scale)] at hb
  refine Nat.pos_of_ne_zero fun hzero => hb ?_
  rw [show b.magnitudeAt (max a.scale b.scale) = 0 from hzero]
  simp [signedLike]

theorem toRat_rem? (h : a.rem? b = some r) :
    r.toRat =
      a.signedLike (remainder (dividendOf a b) (divisorOf a b)) (max a.scale b.scale) := by
  unfold rem? at h
  split at h
  · cases h
  · obtain ⟨rest, hrest, rfl⟩ := Option.map_eq_some_iff.mp h
    rw [toRat_normalize, toRat_ofParts? hrest, signedLike, dividendOf, divisorOf]
    split <;> ring

theorem abs_signedLike_lt {units : ℕ} (h : units < divisorOf a b) :
    |a.signedLike units (max a.scale b.scale)| < |b.toRat| := by
  rw [toRat_eq_signedLike (le_max_right a.scale b.scale), abs_signedLike, abs_signedLike]
  apply div_lt_div_of_pos_right _ (by positivity)
  exact_mod_cast h

theorem side_signedLike {units : ℕ} (h : dividendOf a b = 0 → units = 0) :
    a.signedLike units (max a.scale b.scale) = 0 ∨
      0 < a.signedLike units (max a.scale b.scale) * a.toRat := by
  rcases Nat.eq_zero_or_pos units with rfl | hunits
  · exact Or.inl (by simp [signedLike])
  · have hdividend : 0 < dividendOf a b := Nat.pos_of_ne_zero fun hzero => by
      have hnone := h hzero
      omega
    right
    rw [toRat_eq_signedLike (le_max_left a.scale b.scale), ← dividendOf]
    unfold signedLike
    have hpositive : (0 : ℚ) < (units : ℚ) / (10 : ℚ) ^ max a.scale b.scale *
        ((dividendOf a b : ℚ) / (10 : ℚ) ^ max a.scale b.scale) := by
      positivity
    split <;> linarith

theorem isDivision_mod (hb : b.toRat ≠ 0) :
    IsDivision a.toRat b.toRat (towardZero (a.toRat / b.toRat))
      (a.signedLike (dividendOf a b % divisorOf a b) (max a.scale b.scale)) := by
  -- The quotient of the magnitudes, with the sign of both, is a quotient; there is only one.
  obtain ⟨count, hcount⟩ : ∃ count, count = dividendOf a b / divisorOf a b := ⟨_, rfl⟩
  have hdivision : IsDivision a.toRat b.toRat
      ((if a.negative then -1 else 1) * (if b.negative then -1 else 1) * (count : ℤ))
      (a.signedLike (dividendOf a b % divisorOf a b) (max a.scale b.scale)) := by
    have hsmall : dividendOf a b % divisorOf a b < divisorOf a b := Nat.mod_lt _ (divisorOf_pos hb)
    refine ⟨?_, abs_signedLike_lt hsmall, side_signedLike fun hzero => ?_⟩
    · have hparts : (dividendOf a b : ℚ) =
          (count : ℚ) * divisorOf a b + ((dividendOf a b % divisorOf a b : ℕ) : ℚ) := by
        rw [hcount]
        exact_mod_cast (Nat.div_add_mod' (dividendOf a b) (divisorOf a b)).symm
      rw [toRat_eq_signedLike (le_max_left a.scale b.scale),
        toRat_eq_signedLike (le_max_right a.scale b.scale), ← dividendOf, ← divisorOf]
      unfold signedLike
      conv_lhs => rw [hparts]
      push_cast
      split <;> split <;> ring
    · rw [hzero, Nat.zero_mod]
  rw [← hdivision.quotient_eq]
  exact hdivision

/-- The remainder is smaller than the divisor and on the side of the dividend, also where the long
division loses a word. -/
theorem rem?_bounds (hb : b.toRat ≠ 0) (h : a.rem? b = some r) :
    |r.toRat| < |b.toRat| ∧ (r.toRat = 0 ∨ 0 < r.toRat * a.toRat) := by
  rw [toRat_rem? h]
  refine ⟨abs_signedLike_lt (remainder_lt (divisorOf_pos hb) _), side_signedLike fun hzero => ?_⟩
  rw [hzero, remainder_zero]

/-- The remainder of the magnitudes decides whether the decimal is the exact remainder. -/
theorem toRat_rem?_eq_iff (hb : b.toRat ≠ 0) (h : a.rem? b = some r) :
    r.toRat = a.toRat - towardZero (a.toRat / b.toRat) * b.toRat ↔
      remainder (dividendOf a b) (divisorOf a b) = dividendOf a b % divisorOf a b := by
  have hlaw := (isDivision_mod (a := a) hb).law
  have hexact : a.toRat - towardZero (a.toRat / b.toRat) * b.toRat =
      a.signedLike (dividendOf a b % divisorOf a b) (max a.scale b.scale) := by
    linarith
  rw [toRat_rem? h, hexact, signedLike_inj]

theorem toInt_div? (hb : b.toRat ≠ 0) (h : a.div? b = some q) :
    q.toInt = signedWhole (a.toRat / b.toRat) := by
  rw [div?, isZero_eq_false_iff.mpr hb] at h
  exact toInt_ofRat? h

/-- What the operators give for two decimals: `n` for the quotient and `m` for what is left over. -/
structure IsRoundedDivision (a b : Decimal) (n : ℤ) (m : ℚ) : Prop where
  /-- The quotient is cut off after it has been rounded. -/
  quotient : n = signedWhole (a.toRat / b.toRat)
  quotient_exact : n = towardZero (a.toRat / b.toRat) ↔ ¬ ReachesNext |a.toRat / b.toRat|
  small : |m| < |b.toRat|
  side : m = 0 ∨ 0 < m * a.toRat
  rest_exact : IsExact (dividendOf a b) (divisorOf a b) →
    m = a.toRat - towardZero (a.toRat / b.toRat) * b.toRat
  /-- The two fit together where the quotient does not reach the next integer and the magnitudes
  leave the exact remainder, and nowhere else. -/
  law : a.toRat = n * b.toRat + m ↔
    ¬ ReachesNext |a.toRat / b.toRat| ∧
      remainder (dividendOf a b) (divisorOf a b) = dividendOf a b % divisorOf a b

theorem isRoundedDivision (hb : b.toRat ≠ 0) (hq : a.div? b = some q) (hr : a.rem? b = some r) :
    IsRoundedDivision a b q.toInt r.toRat := by
  obtain ⟨hsmall, hside⟩ := rem?_bounds hb hr
  have hquotient := toInt_div? hb hq
  have hexact : q.toInt = towardZero (a.toRat / b.toRat) ↔ ¬ ReachesNext |a.toRat / b.toRat| := by
    rw [hquotient]
    exact signedWhole_eq_iff _
  refine ⟨hquotient, hexact, hsmall, hside, ?_, ?_⟩
  · intro hkeeps
    exact (toRat_rem?_eq_iff hb hr).mpr hkeeps.remainder_eq_mod
  · rw [← toRat_rem?_eq_iff hb hr, ← hexact]
    constructor
    · intro hlaw
      have hcut := (IsDivision.mk hlaw hsmall hside).quotient_eq
      refine ⟨hcut, ?_⟩
      rw [← hcut]
      linarith
    · rintro ⟨hcut, hrest⟩
      rw [hcut, hrest]
      ring

/-- Dividing `2 ^ 32` by a number just above one loses a word. -/
example : remainder (4294967296 * 10 ^ 20) (10 ^ 20 + 1) ≠
    4294967296 * 10 ^ 20 % (10 ^ 20 + 1) := by decide +kernel

end Decimal

end XPathValues
