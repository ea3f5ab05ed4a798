import Mathlib.Tactic
import XPathValues.Proofs.Number.HalfEven

/-!
# The nearest multiple of a unit

Rounding half to even is pinned by what it is for: no integer is nearer to the number, and of two
nearest integers the result is the even one. So the count of units that is nearest to a number is
the rounded quotient, and there is only one such count.
-/

namespace XPathValues.Rounding

variable {q unit : ℚ} {m n : ℤ}

/-- So many units are nearest to the number, and of two nearest counts this is the even one. -/
structure IsNearestMultiple (q unit : ℚ) (n : ℤ) : Prop where
  nearest : ∀ m : ℤ, |q - n * unit| ≤ |q - m * unit|
  tie : ∀ m : ℤ, m ≠ n → |q - n * unit| = |q - m * unit| → n % 2 = 0

theorem abs_sub_mul (hunit : 0 < unit) (q : ℚ) (m : ℤ) :
    |q - m * unit| = |q / unit - m| * unit := by
  rw [← abs_of_pos hunit, ← abs_mul, abs_of_pos hunit, sub_mul, div_mul_cancel₀ _ hunit.ne']

theorem one_le_abs_sub (h : m ≠ n) : (1 : ℚ) ≤ |(n : ℚ) - m| := by
  exact_mod_cast Int.one_le_abs (sub_ne_zero.mpr h.symm)

theorem one_half_le_abs_sub (hnear : |q - n| ≤ 1 / 2) (h : m ≠ n) : 1 / 2 ≤ |q - m| := by
  have hsplit : |(n : ℚ) - m| ≤ |q - m| + |q - n| := by
    calc |(n : ℚ) - m| = |(q - m) - (q - n)| := by ring_nf
      _ ≤ |q - m| + |q - n| := abs_sub _ _
  linarith [one_le_abs_sub h]

theorem isNearestMultiple_of (hunit : 0 < unit) (hnear : |q / unit - n| ≤ 1 / 2)
    (htie : |q / unit - n| = 1 / 2 → n % 2 = 0) : IsNearestMultiple q unit n where
  nearest m := by
    rw [abs_sub_mul hunit, abs_sub_mul hunit]
    apply mul_le_mul_of_nonneg_right _ hunit.le
    by_cases h : m = n
    · rw [h]
    · exact hnear.trans (one_half_le_abs_sub hnear h)
  tie m hm heq := by
    rw [abs_sub_mul hunit, abs_sub_mul hunit, mul_left_inj' hunit.ne'] at heq
    exact htie (le_antisymm hnear (heq ▸ one_half_le_abs_sub hnear hm))

/-- Two even counts at one distance would have a nearer one halfway between them. -/
theorem IsNearestMultiple.unique (hunit : 0 < unit) (hm : IsNearestMultiple q unit m)
    (hn : IsNearestMultiple q unit n) : m = n := by
  by_contra hne
  have hsame : |q - m * unit| = |q - n * unit| := le_antisymm (hm.nearest n) (hn.nearest m)
  obtain ⟨k, hk⟩ : ∃ k, m + n = 2 * k := by
    have hmeven := hm.tie n (Ne.symm hne) hsame
    have hneven := hn.tie m hne hsame.symm
    exact ⟨(m + n) / 2, by omega⟩
  have hmiddle : q = k * unit := by
    have hcast : (m : ℚ) + n = 2 * k := by exact_mod_cast hk
    rcases abs_eq_abs.mp hsame with h | h
    · have hmn : (m : ℚ) = n := mul_right_cancel₀ hunit.ne' (by linarith)
      exact absurd (by exact_mod_cast hmn) hne
    · have hsum : ((m : ℚ) + n) * unit = 2 * k * unit := by rw [hcast]
      linarith
  have hzero : |q - m * unit| = 0 := by
    have hle := hm.nearest k
    rw [sub_eq_zero.mpr hmiddle, abs_zero] at hle
    exact le_antisymm hle (abs_nonneg _)
  have hmk : (m : ℚ) = k := mul_right_cancel₀ hunit.ne' (by linarith [abs_eq_zero.mp hzero])
  have hmk' : m = k := by exact_mod_cast hmk
  omega

theorem abs_sub_halfEven_le (q : ℚ) : |q - halfEven q| ≤ 1 / 2 :=
  abs_le.mpr ⟨by linarith [halfEven_sub_le q], sub_halfEven_le q⟩

theorem halfEven_even_of_tie (h : |q - halfEven q| = 1 / 2) : halfEven q % 2 = 0 := by
  have hlow := Rat.floor_le q
  have hhigh := Rat.lt_floor_add_one q
  push_cast at hhigh
  unfold halfEven at *
  dsimp only at *
  split_ifs at * with hbelow habove heven
  · rw [abs_of_nonneg (by linarith)] at h
    linarith
  · push_cast at h
    rw [abs_of_nonpos (by linarith)] at h
    linarith
  · exact heven
  · omega

theorem isNearestMultiple_halfEven (hunit : 0 < unit) (q : ℚ) :
    IsNearestMultiple q unit (halfEven (q / unit)) :=
  isNearestMultiple_of hunit (abs_sub_halfEven_le _) halfEven_even_of_tie

theorem isNearestMultiple_iff (hunit : 0 < unit) :
    IsNearestMultiple q unit n ↔ halfEven (q / unit) = n := by
  constructor
  · intro h
    exact (isNearestMultiple_halfEven hunit q).unique hunit h
  · rintro rfl
    exact isNearestMultiple_halfEven hunit q

theorem isNearestMultiple_powerOfTen_iff {p : ℤ} :
    IsNearestMultiple q ((10 : ℚ) ^ (-p)) n ↔ halfEven (q * (10 : ℚ) ^ p) = n := by
  rw [isNearestMultiple_iff (by positivity), zpow_neg, div_inv_eq_mul]

theorem halfEven_eq_of (hnear : |q - n| ≤ 1 / 2) (htie : |q - n| = 1 / 2 → n % 2 = 0) :
    halfEven q = n := by
  rw [← div_one q] at hnear htie ⊢
  exact (isNearestMultiple_iff one_pos).mp (isNearestMultiple_of one_pos hnear htie)

theorem halfEven_add_half (n : ℤ) : halfEven ((n : ℚ) + 1 / 2) = if n % 2 = 0 then n else n + 1 := by
  split
  · next heven =>
    refine halfEven_eq_of ?_ fun _ => heven
    rw [add_sub_cancel_left]
    norm_num
  · next hodd =>
    refine halfEven_eq_of ?_ fun _ => by omega
    push_cast
    rw [add_sub_add_left_eq_sub]
    norm_num

theorem halfEven_div_eq_of {a b : ℤ} (hb : 0 < b) (hnear : 2 * |a - n * b| ≤ b)
    (htie : 2 * |a - n * b| = b → n % 2 = 0) : halfEven ((a : ℚ) / b) = n := by
  have hbq : (0 : ℚ) < b := by exact_mod_cast hb
  have hdist : 2 * b * |(a : ℚ) / b - n| = ((2 * |a - n * b| : ℤ) : ℚ) := by
    rw [mul_assoc, mul_comm (b : ℚ), ← abs_sub_mul hbq]
    push_cast
    ring
  apply halfEven_eq_of
  · have hle : ((2 * |a - n * b| : ℤ) : ℚ) ≤ b := by exact_mod_cast hnear
    rw [← hdist] at hle
    nlinarith
  · intro h
    rw [h] at hdist
    apply htie
    have heq : ((2 * |a - n * b| : ℤ) : ℚ) = b := by linarith
    exact_mod_cast heq

end XPathValues.Rounding
