import Mathlib.Tactic
import XPathValues.Proofs.Number.BinaryValue
import XPathValues.Proofs.Number.NearestMultiple

/-!
# Integers in a binary format

The number of a format that is nearest to an integer is an integer. Halfway between two integers
there is a number of the format only as long as one bit is left for the half. From there on, the sum
of an integer and one half is rounded to an even integer, and so an odd one moves to the next.
-/

namespace XPathValues

namespace BinaryFormat

open Rounding

variable {f : BinaryFormat} {q : ℚ} {n s : ℤ} {e : ℤ}

theorem le_unitExponent (h : (2 : ℚ) ^ (e - 1 + f.precision) ≤ q) : e ≤ f.unitExponent q := by
  have hq : 0 < q := (zpow_pos two_pos _).trans_le h
  by_contra hlt
  have hsmall : f.unitExponent q ≤ e - 1 := by omega
  exact absurd ((unitExponent_le_iff hq).mp hsmall).2 (not_lt.mpr h)

theorem nearest_of_abs (h : f.nearest |q| = |q|) : f.nearest q = q := by
  rcases abs_choice q with hq | hq <;> rw [hq] at h
  · exact h
  · rwa [nearest_neg, neg_inj] at h

/-- A unit below one divides every integer, and a multiple of a larger one is an integer. -/
theorem exists_rounded_intCast (f : BinaryFormat) (n : ℤ) : ∃ z : ℤ, f.rounded n = z := by
  rcases le_total (f.unitExponent n) 0 with hsmall | hlarge
  · exact ⟨n, rounded_eq_of_multiple (m := n) hsmall (by simp)⟩
  · obtain ⟨k, hk⟩ := Int.eq_ofNat_of_zero_le hlarge
    refine ⟨halfEven (n / (2 : ℚ) ^ f.unitExponent n) * 2 ^ k, ?_⟩
    rw [rounded, hk]
    push_cast
    rw [zpow_natCast]

def nearestInteger (f : BinaryFormat) (n : ℤ) : ℤ :=
  ⌊f.nearest n⌋

theorem cast_nearestInteger (f : BinaryFormat) (n : ℤ) :
    (f.nearestInteger n : ℚ) = f.nearest n := by
  have hinteger : ∃ z : ℤ, f.nearest n = z := by
    rcases le_total 0 (n : ℚ) with hnonneg | hnonpos
    · rw [nearest_of_nonneg hnonneg]
      exact f.exists_rounded_intCast n
    · obtain ⟨z, hz⟩ := f.exists_rounded_intCast (-n)
      refine ⟨-z, ?_⟩
      rw [← neg_neg (n : ℚ), nearest_neg, nearest_of_nonneg (neg_nonneg.mpr hnonpos), Int.cast_neg,
        ← hz, Int.cast_neg]
  obtain ⟨z, hz⟩ := hinteger
  rw [nearestInteger, hz, Int.floor_intCast]

theorem nearestInteger_eq_self (hmin : f.minExponent ≤ 0) (h : n.natAbs < 2 ^ f.precision) :
    f.nearestInteger n = n := by
  have hfixed : f.nearest n = n := by
    apply nearest_of_abs
    rw [← Int.cast_abs, Int.abs_eq_natAbs, Int.cast_natCast]
    simpa using nearest_eq_self (f := f) (e := 0) h hmin
  rw [nearestInteger, hfixed, Int.floor_intCast]

/-! ## One half more or less -/

/-- Next to a multiple of its unit, a number is rounded as to an integer: a unit of one is the
integers, and with a larger one that multiple is the nearest, and even. -/
theorem rounded_eq_halfEven (hunit : 0 ≤ f.unitExponent q) {k : ℤ}
    (hs : (s : ℚ) = k * (2 : ℚ) ^ f.unitExponent q) (hnear : |q - s| ≤ 1 / 2) :
    f.rounded q = halfEven q := by
  obtain ⟨j, hj⟩ := Int.eq_ofNat_of_zero_le hunit
  rw [rounded]
  rw [hj, zpow_natCast] at hs ⊢
  cases j with
  | zero => simp
  | succ j =>
    have hinteger : s = 2 * (k * 2 ^ j) := by
      have hpow : (s : ℚ) = ((2 * (k * 2 ^ j) : ℤ) : ℚ) := by
        rw [hs]
        push_cast
        ring
      exact_mod_cast hpow
    have heven : halfEven q = s := halfEven_eq_of hnear fun _ => by omega
    have hpow : (0 : ℚ) < 2 ^ (j + 1) := by positivity
    have htwo : (2 : ℚ) ≤ 2 ^ (j + 1) := by
      have hone : (1 : ℚ) ≤ 2 ^ j := one_le_pow₀ one_le_two
      rw [pow_succ]
      linarith
    have hclose : |q / 2 ^ (j + 1) - k| < 1 / 2 := by
      have hdiff : q / 2 ^ (j + 1) - k = (q - s) / 2 ^ (j + 1) := by
        rw [hs]
        field_simp
      rw [hdiff, abs_div, abs_of_pos hpow, div_lt_iff₀ hpow]
      linarith
    rw [halfEven_eq_of hclose.le fun htie => absurd htie hclose.ne, ← hs, heven]

theorem exists_multiple (hfixed : f.rounded s = s) (h : f.unitExponent q ≤ f.unitExponent s) :
    ∃ k : ℤ, (s : ℚ) = k * (2 : ℚ) ^ f.unitExponent q := by
  obtain ⟨k, hk⟩ := mul_two_zpow_eq h (halfEven ((s : ℚ) / (2 : ℚ) ^ f.unitExponent s))
  exact ⟨k, hfixed.symm.trans hk⟩

theorem unitExponent_add_half (hs : 0 < s) (hunit : 0 ≤ f.unitExponent s) :
    f.unitExponent ((s : ℚ) + 1 / 2) ≤ f.unitExponent s := by
  have hpos : (0 : ℚ) < s := by exact_mod_cast hs
  obtain ⟨hmin, hlt⟩ := (unitExponent_le_iff hpos).mp le_rfl
  obtain ⟨j, hj⟩ := Int.eq_ofNat_of_zero_le hunit
  refine (unitExponent_le_iff (by linarith)).mpr ⟨hmin, ?_⟩
  rw [hj, ← Nat.cast_add, zpow_natCast] at hlt ⊢
  have hstep : s + 1 ≤ 2 ^ (j + f.precision) := by exact_mod_cast hlt
  have hcast : (s : ℚ) + 1 ≤ 2 ^ (j + f.precision) := by exact_mod_cast hstep
  linarith

theorem rounded_eq_halfEven_of_fixed (hfixed : f.rounded s = s)
    (hlarge : (2 : ℚ) ^ ((f.precision : ℤ) - 1) ≤ q) (hle : f.unitExponent q ≤ f.unitExponent s)
    (hnear : |q - s| ≤ 1 / 2) : f.rounded q = halfEven q := by
  obtain ⟨k, hk⟩ := exists_multiple hfixed hle
  have hunit : 0 ≤ f.unitExponent q := le_unitExponent (by rwa [zero_sub, neg_add_eq_sub])
  exact rounded_eq_halfEven hunit hk hnear

/-- Without a bit for the half, the sum of an integer and one half is rounded to an integer. -/
theorem nearest_add_half (hf : 0 < f.precision) {p : ℤ} (hfixed : f.nearest p = p)
    (hlarge : (2 : ℚ) ^ (f.precision - 1) ≤ |(p : ℚ) + 1 / 2|) :
    f.nearest ((p : ℚ) + 1 / 2) = halfEven ((p : ℚ) + 1 / 2) := by
  have hone : (1 : ℚ) ≤ (2 : ℚ) ^ (f.precision - 1) := one_le_pow₀ one_le_two
  have hzpow : (2 : ℚ) ^ ((f.precision : ℤ) - 1) = (2 : ℚ) ^ (f.precision - 1) := by
    rw [← zpow_natCast, Nat.cast_sub hf, Nat.cast_one]
  rcases le_total 0 ((p : ℚ) + 1 / 2) with hnonneg | hnonpos
  · rw [abs_of_nonneg hnonneg] at hlarge
    have hp : 2 ^ (f.precision - 1) ≤ p := by
      have hlt : (2 : ℚ) ^ (f.precision - 1) < ((p + 1 : ℤ) : ℚ) := by
        push_cast
        linarith
      exact Int.lt_add_one_iff.mp (by exact_mod_cast hlt)
    have hpcast : (2 : ℚ) ^ ((f.precision : ℤ) - 1) ≤ p := by
      rw [hzpow]
      exact_mod_cast hp
    have hpos : (0 : ℚ) < p := by linarith
    rw [nearest_of_nonneg hpos.le] at hfixed
    rw [nearest_of_nonneg hnonneg]
    refine rounded_eq_halfEven_of_fixed hfixed (hzpow.trans_le hlarge)
      (unitExponent_add_half (by exact_mod_cast hpos)
        (le_unitExponent (by rwa [zero_sub, neg_add_eq_sub]))) ?_
    rw [add_sub_cancel_left]
    norm_num
  · -- Seen from the other side of zero, the half is taken off.
    rw [abs_of_nonpos hnonpos] at hlarge
    have hpos : (0 : ℚ) < ((-p : ℤ) : ℚ) - 1 / 2 := by
      push_cast
      linarith
    have hmirror : f.rounded ((-p : ℤ) : ℚ) = ((-p : ℤ) : ℚ) := by
      rw [← nearest_of_nonneg (by linarith), Int.cast_neg, nearest_neg, hfixed]
    have hhalf : f.rounded (((-p : ℤ) : ℚ) - 1 / 2) = halfEven (((-p : ℤ) : ℚ) - 1 / 2) := by
      apply rounded_eq_halfEven_of_fixed hmirror
      · rw [hzpow]
        push_cast
        linarith
      · exact unitExponent_mono hpos (by linarith)
      · rw [sub_sub_cancel_left, abs_neg]
        norm_num
    have hopposite : (p : ℚ) + 1 / 2 = -(((-p : ℤ) : ℚ) - 1 / 2) := by
      push_cast
      ring
    rw [hopposite, nearest_neg, nearest_of_nonneg hpos.le, hhalf, halfEven_neg]
    push_cast
    rfl

theorem abs_add_half (p : ℤ) :
    |(p : ℚ) + 1 / 2| = ((2 * p + 1).natAbs : ℚ) * (2 : ℚ) ^ (-1 : ℤ) := by
  have hscaled : (p : ℚ) + 1 / 2 = ((2 * p + 1 : ℤ) : ℚ) * (2 : ℚ) ^ (-1 : ℤ) := by
    push_cast
    ring
  rw [hscaled, abs_mul, abs_of_pos (a := (2 : ℚ) ^ (-1 : ℤ)) (by positivity), Nat.cast_natAbs,
    Int.cast_abs]

theorem nearest_add_half_of_small (hmin : f.minExponent ≤ -1) {p : ℤ}
    (hsmall : (2 * p + 1).natAbs < 2 ^ f.precision) :
    f.nearest ((p : ℚ) + 1 / 2) = (p : ℚ) + 1 / 2 := by
  apply nearest_of_abs
  rw [abs_add_half]
  exact nearest_eq_self hsmall hmin

end BinaryFormat

open BinaryFormat Rounding

/-- The integer that is left of the sum of an integer double and one half: an odd one that leaves no
bit for the half becomes the next integer. -/
def halfUp (p : ℤ) : ℤ :=
  if p % 2 = 1 ∧ 2 ^ 52 < |p| then p + 1 else p

theorem halfUp_eq_self {p : ℤ} (h : p % 2 = 1 → |p| ≤ 2 ^ 52) : halfUp p = p :=
  if_neg fun ⟨hodd, hlarge⟩ => absurd (h hodd) (not_le.mpr hlarge)

theorem nearest_double_add_half {p : ℤ} (hfixed : double.nearest p = p) :
    halfUp p = p ∧ double.nearest ((p : ℚ) + 1 / 2) = p + 1 / 2 ∨
      double.nearest ((p : ℚ) + 1 / 2) = halfUp p := by
  unfold halfUp
  rw [Int.abs_eq_natAbs]
  rcases lt_or_ge (2 * p + 1).natAbs (2 ^ 53) with hsmall | hlarge
  · exact Or.inl ⟨if_neg (by omega), nearest_add_half_of_small (by decide) hsmall⟩
  · right
    have hhalf : (2 : ℚ) ^ (double.precision - 1) ≤ |(p : ℚ) + 1 / 2| := by
      have hcast : (2 : ℚ) ^ 53 ≤ (2 * p + 1).natAbs := by exact_mod_cast hlarge
      have hdigits : double.precision - 1 = 52 := rfl
      rw [abs_add_half, hdigits, zpow_neg_one]
      linarith
    have hodd : (p % 2 = 1 ∧ 2 ^ 52 < (p.natAbs : ℤ)) ↔ ¬ p % 2 = 0 := by omega
    rw [nearest_add_half proper_double.1 hfixed hhalf, halfEven_add_half]
    simp only [hodd, ite_not]

theorem floor_nearest_add_half {p : ℤ} (hfixed : double.nearest p = p) :
    ⌊double.nearest ((p : ℚ) + 1 / 2)⌋ = halfUp p := by
  rcases nearest_double_add_half hfixed with ⟨hstays, hexact⟩ | hmoved
  · rw [hstays, hexact, Int.floor_eq_iff]
    constructor <;> linarith
  · rw [hmoved, Int.floor_intCast]

theorem BinaryFloat.nearest_of_toRat? {f : BinaryFormat} {x : BinaryFloat f} {a : ℚ}
    (hx : x.toRat? = some a) : f.nearest a = a := by
  rcases le_total 0 a with hnonneg | hnonpos
  · simpa using nearest_two_pow_mul hx hnonneg 0
  · have hmirror := nearest_two_pow_mul (toRat?_neg hx) (neg_nonneg.mpr hnonpos) 0
    rw [pow_zero, one_mul, nearest_neg, neg_inj] at hmirror
    exact hmirror

theorem BinaryFormat.IsBound.abs_nearest_le {f : BinaryFormat} (hf : 0 < f.precision) {q b : ℚ}
    (hb : f.IsBound b) (h : |q| ≤ b) : |f.nearest q| ≤ b := by
  obtain ⟨hlow, hhigh⟩ := abs_le.mp h
  have hle := nearest_mono hf hhigh
  have hge := nearest_mono hf hlow
  rw [nearest_neg, hb.nearest] at hge
  rw [hb.nearest] at hle
  exact abs_le.mpr ⟨hge, hle⟩

end XPathValues
