import Mathlib.Tactic
import XPathValues.Proofs.Number.BinaryRounding

/-!
# The numbers of binary operations

Seen through the number that a finite value denotes, every operation is the exact one followed by
rounding to the nearest number of the format. That rounding is monotone and odd, and it leaves the
numbers of the format alone.
-/

namespace XPathValues

namespace Rounding

variable {a : ℚ}

theorem halfAway_nonneg (ha : 0 ≤ a) : 0 ≤ halfAway a := by
  unfold halfAway
  rw [if_pos ha]
  exact Rat.le_floor_iff.mpr (by push_cast; linarith)

theorem halfAway_nonpos (ha : a ≤ 0) : halfAway a ≤ 0 := by
  unfold halfAway
  split
  · next hge =>
    obtain rfl := le_antisymm ha hge
    decide +kernel
  · exact neg_nonpos.mpr (Rat.le_floor_iff.mpr (by push_cast; linarith))

theorem halfAway_le (ha : 0 ≤ a) : (halfAway a : ℚ) ≤ a + 1 / 2 := by
  unfold halfAway
  rw [if_pos ha]
  exact Rat.floor_le _

end Rounding

namespace BinaryFormat

variable {f : BinaryFormat} {q r : ℚ}

/-- The number of the format that is nearest to a rational, exponents going as high as needed. -/
def nearest (f : BinaryFormat) (q : ℚ) : ℚ :=
  if q < 0 then -f.rounded (-q) else f.rounded q

theorem nearest_of_nonneg (hq : 0 ≤ q) : f.nearest q = f.rounded q :=
  if_neg hq.not_gt

@[simp] theorem nearest_zero (f : BinaryFormat) : f.nearest 0 = 0 := by
  rw [nearest_of_nonneg le_rfl, rounded_zero]

theorem nearest_neg (f : BinaryFormat) (q : ℚ) : f.nearest (-q) = -f.nearest q := by
  unfold nearest
  rcases lt_trichotomy q 0 with hq | rfl | hq
  · rw [if_pos hq, if_neg (by linarith), neg_neg]
  · simp
  · rw [if_pos (by linarith), if_neg hq.not_gt, neg_neg]

theorem nearest_nonneg (hq : 0 ≤ q) : 0 ≤ f.nearest q := by
  rw [nearest_of_nonneg hq]
  exact rounded_nonneg hq

theorem nearest_mono (hf : 0 < f.precision) (h : q ≤ r) : f.nearest q ≤ f.nearest r := by
  rcases le_total 0 q with hq | hq
  · rw [nearest_of_nonneg hq, nearest_of_nonneg (hq.trans h)]
    exact rounded_mono hf hq h
  rcases le_total 0 r with hr | hr
  · have hneg := nearest_nonneg (f := f) (neg_nonneg.mpr hq)
    rw [nearest_neg] at hneg
    linarith [nearest_nonneg (f := f) hr]
  · have hneg := rounded_mono (f := f) hf (neg_nonneg.mpr hr) (neg_le_neg h)
    rw [← nearest_of_nonneg (neg_nonneg.mpr hr), ← nearest_of_nonneg (neg_nonneg.mpr hq),
      nearest_neg, nearest_neg] at hneg
    linarith

theorem nearest_eq_self {m : ℕ} {e : ℤ} (hm : m < 2 ^ f.precision) (he : f.minExponent ≤ e) :
    f.nearest ((m : ℚ) * (2 : ℚ) ^ e) = (m : ℚ) * (2 : ℚ) ^ e := by
  rw [nearest_of_nonneg (by positivity), rounded_eq_self hm he]

end BinaryFormat

namespace BinaryFloat

open BinaryFormat Rounding

variable {f : BinaryFormat} {x y : BinaryFloat f} {q a b : ℚ}

theorem toRat?_round_eq_nearest (hf : f.Proper) (negative : Bool) (hq : 0 ≤ q)
    (hmax : q ≤ (2 : ℚ) ^ f.maxExponent) :
    (round negative q : BinaryFloat f).toRat? = some (f.nearest (if negative then -q else q)) := by
  rw [toRat?_round hf negative hq hmax, ← nearest_of_nonneg hq, ← nearest_neg]
  cases negative <;> rfl

theorem toRat?_ofRat (hf : f.Proper) (h : |q| ≤ (2 : ℚ) ^ f.maxExponent) :
    (ofRat q : BinaryFloat f).toRat? = some (f.nearest q) := by
  rw [abs_le] at h
  unfold ofRat
  split
  · next hq =>
    rw [toRat?_round_eq_nearest hf true (by linarith) (by linarith)]
    simp
  · next hq => exact toRat?_round_eq_nearest hf false (not_lt.mp hq) h.2

theorem compare?_of_toRat? (hx : x.toRat? = some a) (hy : y.toRat? = some b) :
    x.compare? y = some (compareExact a b) := by
  cases x <;> cases hx
  cases y <;> cases hy
  rfl

theorem toRat?_neg (hx : x.toRat? = some a) : x.neg.toRat? = some (-a) := by
  cases x <;> cases hx
  next negative m e _ => cases negative <;> simp [neg, toRat?, signed]

theorem toRat?_add (hf : f.Proper) (hx : x.toRat? = some a) (hy : y.toRat? = some b)
    (h : |a + b| ≤ (2 : ℚ) ^ f.maxExponent) : (x.add y).toRat? = some (f.nearest (a + b)) := by
  cases x <;> cases hx
  cases y <;> cases hy
  simp only [add]
  split
  · next hzero => rw [toRat?_zero hf, hzero, nearest_zero]
  · exact toRat?_ofRat hf h

theorem magnitude_nonneg (m : ℕ) (e : ℤ) : 0 ≤ magnitude m e := by
  unfold magnitude
  positivity

theorem signed_mul (s t : Bool) (m n : ℕ) (j k : ℤ) :
    signed s m j * signed t n k =
      if s ^^ t then -(magnitude m j * magnitude n k) else magnitude m j * magnitude n k := by
  cases s <;> cases t <;> simp [signed]

theorem signed_div (s t : Bool) (m n : ℕ) (j k : ℤ) :
    signed s m j / signed t n k =
      if s ^^ t then -(magnitude m j / magnitude n k) else magnitude m j / magnitude n k := by
  cases s <;> cases t <;> simp [signed, neg_div, div_neg]

theorem abs_ite_neg (negative : Bool) (hq : 0 ≤ q) : |if negative then -q else q| = q := by
  cases negative <;> simp [abs_of_nonneg hq]

theorem toRat?_mul (hf : f.Proper) (hx : x.toRat? = some a) (hy : y.toRat? = some b)
    (h : |a * b| ≤ (2 : ℚ) ^ f.maxExponent) : (x.mul y).toRat? = some (f.nearest (a * b)) := by
  cases x <;> cases hx
  cases y <;> cases hy
  next s m j _ t n k _ =>
    have hnonneg := mul_nonneg (magnitude_nonneg m j) (magnitude_nonneg n k)
    rw [signed_mul] at h ⊢
    rw [abs_ite_neg _ hnonneg] at h
    exact toRat?_round_eq_nearest hf _ hnonneg h

theorem toRat?_div (hf : f.Proper) (hx : x.toRat? = some a) (hy : y.toRat? = some b) (hb : b ≠ 0)
    (h : |a / b| ≤ (2 : ℚ) ^ f.maxExponent) : (x.div y).toRat? = some (f.nearest (a / b)) := by
  cases x <;> cases hx
  cases y <;> cases hy
  next s m j _ t n k _ =>
    have hn : n ≠ 0 := by
      rintro rfl
      exact hb (by cases t <;> simp [signed, magnitude])
    have hnonneg := div_nonneg (magnitude_nonneg m j) (magnitude_nonneg n k)
    rw [signed_div] at h ⊢
    rw [abs_ite_neg _ hnonneg] at h
    simp only [div, if_neg hn]
    exact toRat?_round_eq_nearest hf _ hnonneg h

theorem toRat?_roundIntegral (hf : f.Proper) {rule : ℚ → ℤ} (hx : x.toRat? = some a)
    (hnonneg : 0 ≤ a → 0 ≤ rule a) (hnonpos : a ≤ 0 → rule a ≤ 0)
    (h : |(rule a : ℚ)| ≤ (2 : ℚ) ^ f.maxExponent) :
    (roundIntegral rule x).toRat? = some (f.nearest (rule a)) := by
  cases x <;> cases hx
  next negative m e _ =>
    have hmagnitude := magnitude_nonneg m e
    have habs : (((rule (signed negative m e)).natAbs : ℕ) : ℚ) =
        |(rule (signed negative m e) : ℚ)| := by
      rw [← Int.cast_abs, Int.abs_eq_natAbs, Int.cast_natCast]
    rw [roundIntegral, toRat?_round_eq_nearest hf negative (by positivity) (habs ▸ h), habs]
    cases negative with
    | false =>
      have hrule : (0 : ℚ) ≤ (rule (signed false m e) : ℚ) := mod_cast hnonneg hmagnitude
      simp [abs_of_nonneg hrule]
    | true =>
      have hrule : (rule (signed true m e) : ℚ) ≤ 0 := mod_cast hnonpos (neg_nonpos.mpr hmagnitude)
      simp [abs_of_nonpos hrule]

theorem toRat?_roundHalfAway (hf : f.Proper) (hx : x.toRat? = some a)
    (h : |(halfAway a : ℚ)| ≤ (2 : ℚ) ^ f.maxExponent) :
    x.roundHalfAway.toRat? = some (f.nearest (halfAway a)) :=
  toRat?_roundIntegral hf hx halfAway_nonneg halfAway_nonpos h

/-- Doubling a number of the format gives another one, exponents going as high as needed. -/
theorem nearest_two_pow_mul (hx : x.toRat? = some a) (ha : 0 ≤ a) (k : ℕ) :
    f.nearest ((2 : ℚ) ^ k * a) = (2 : ℚ) ^ k * a := by
  cases x <;> cases hx
  next negative m e hcanonical =>
    have hsigned : signed negative m e = magnitude m e := by
      cases negative with
      | false => rfl
      | true =>
        have hzero := le_antisymm (neg_nonneg.mp ha) (magnitude_nonneg m e)
        simp [signed, hzero]
    have hshift : (2 : ℚ) ^ k * magnitude m e = (m : ℚ) * (2 : ℚ) ^ (e + k) := by
      rw [magnitude, zpow_add₀ two_ne_zero, zpow_natCast]
      ring
    have hlimit : m < 2 ^ f.precision := hcanonical.1
    rw [hsigned, hshift, nearest_eq_self hlimit (by have := hcanonical.2.1; omega)]

end BinaryFloat

/-! ## Bounds -/

/-- A number of the format, within the range of the exponents. -/
structure BinaryFormat.IsBound (f : BinaryFormat) (b : ℚ) : Prop where
  nearest : f.nearest b = b
  le_max : b ≤ (2 : ℚ) ^ f.maxExponent

namespace BinaryFormat

variable {f : BinaryFormat} {q b : ℚ}

theorem IsBound.abs_le_max (hb : f.IsBound b) (h0 : 0 ≤ q) (h : q ≤ b) :
    |q| ≤ (2 : ℚ) ^ f.maxExponent := by
  rw [abs_of_nonneg h0]
  exact h.trans hb.le_max

theorem isBound_two_pow (hf : 0 < f.precision) {k : ℕ} (hmin : f.minExponent ≤ k)
    (hmax : (k : ℤ) ≤ f.maxExponent) : f.IsBound ((2 : ℚ) ^ k) where
  nearest := by
    have h := nearest_eq_self (f := f) (m := 1) (Nat.one_lt_two_pow hf.ne') hmin
    simpa using h
  le_max := by
    rw [← zpow_natCast]
    exact zpow_le_zpow_right₀ one_le_two hmax

end BinaryFormat

namespace BinaryFloat

open BinaryFormat Rounding

variable {f : BinaryFormat} {x y : BinaryFloat f} {q a b c : ℚ}

def IsUpTo (x : BinaryFloat f) (b : ℚ) : Prop :=
  ∃ a, x.toRat? = some a ∧ 0 ≤ a ∧ a ≤ b

theorem isUpTo_of_nearest (hf : f.Proper) (hb : f.IsBound b) (h0 : 0 ≤ q) (hle : q ≤ b)
    (h : x.toRat? = some (f.nearest q)) : x.IsUpTo b :=
  ⟨_, h, nearest_nonneg h0, (nearest_mono hf.1 hle).trans_eq hb.nearest⟩

theorem isUpTo_ofNat (hf : f.Proper) (hb : f.IsBound b) {n : ℕ} (h : (n : ℚ) ≤ b) :
    (ofInt n : BinaryFloat f).IsUpTo b := by
  have habs := hb.abs_le_max n.cast_nonneg h
  exact isUpTo_of_nearest hf hb n.cast_nonneg h (toRat?_ofRat hf habs)

theorem IsUpTo.add (hf : f.Proper) (hc : f.IsBound c) (hx : x.IsUpTo a) (hy : y.IsUpTo b)
    (h : a + b ≤ c) : (x.add y).IsUpTo c := by
  obtain ⟨p, hp, hp0, hpa⟩ := hx
  obtain ⟨q, hq, hq0, hqb⟩ := hy
  have h0 : 0 ≤ p + q := add_nonneg hp0 hq0
  have hle : p + q ≤ c := (add_le_add hpa hqb).trans h
  exact isUpTo_of_nearest hf hc h0 hle (toRat?_add hf hp hq (hc.abs_le_max h0 hle))

theorem IsUpTo.mul (hf : f.Proper) (hb : f.IsBound (b * c)) (hx : x.IsUpTo b)
    (hy : y.toRat? = some c) (hc : 0 ≤ c) : (x.mul y).IsUpTo (b * c) := by
  obtain ⟨p, hp, hp0, hpb⟩ := hx
  have h0 : 0 ≤ p * c := mul_nonneg hp0 hc
  have hle : p * c ≤ b * c := mul_le_mul_of_nonneg_right hpb hc
  exact isUpTo_of_nearest hf hb h0 hle (toRat?_mul hf hp hy (hb.abs_le_max h0 hle))

theorem IsUpTo.div (hf : f.Proper) (hb : f.IsBound b) (hx : x.IsUpTo (b * c))
    (hy : y.toRat? = some c) (hc : 0 < c) : (x.div y).IsUpTo b := by
  obtain ⟨p, hp, hp0, hpb⟩ := hx
  have h0 : 0 ≤ p / c := div_nonneg hp0 hc.le
  have hle : p / c ≤ b := (div_le_iff₀ hc).mpr hpb
  exact isUpTo_of_nearest hf hb h0 hle (toRat?_div hf hp hy hc.ne' (hb.abs_le_max h0 hle))

theorem IsUpTo.roundHalfAway (hf : f.Proper) (hc : f.IsBound c) (hx : x.IsUpTo b)
    (h : b + 1 / 2 ≤ c) : x.roundHalfAway.IsUpTo c := by
  obtain ⟨p, hp, hp0, hpb⟩ := hx
  have h0 : (0 : ℚ) ≤ halfAway p := mod_cast halfAway_nonneg hp0
  have hle : (halfAway p : ℚ) ≤ c := by linarith [halfAway_le hp0]
  exact isUpTo_of_nearest hf hc h0 hle (toRat?_roundHalfAway hf hp (hc.abs_le_max h0 hle))

end BinaryFloat

end XPathValues
