import Mathlib.Tactic
import XPathValues.Number.Rounding

/-!
# Bounds on rounding half to even

Rounding never leaves the interval between two integers, and it moves a number by at most one half.
A number at most one half below an even integer is rounded up to it, the tie included.
-/

namespace XPathValues.Rounding

theorem le_halfEven {n : ℤ} {q : ℚ} (h : (n : ℚ) ≤ q) : n ≤ halfEven q := by
  have hfloor : n ≤ q.floor := Rat.le_floor_iff.mpr h
  rcases halfEven_eq_floor_or q with heq | heq <;> omega

theorem halfEven_le {n : ℤ} {q : ℚ} (h : q ≤ n) : halfEven q ≤ n := by
  rcases eq_or_lt_of_le h with rfl | hlt
  · rw [halfEven_intCast]
  · have hfloor : q.floor < n := Rat.floor_lt_iff.mpr hlt
    rcases halfEven_eq_floor_or q with heq | heq <;> omega

/-- Where the two numbers have one floor, their distances from it decide. -/
theorem halfEven_mono {q r : ℚ} (h : q ≤ r) : halfEven q ≤ halfEven r := by
  by_cases hfloor : r.floor = q.floor
  · unfold halfEven
    dsimp only
    rw [hfloor]
    split_ifs <;> first | omega | linarith
  · have hle : q.floor ≤ r.floor := Rat.floor_monotone h
    have hstep : ((q.floor + 1 : ℤ) : ℚ) ≤ r := Rat.le_floor_iff.mp (by omega)
    have hup : q ≤ ((q.floor + 1 : ℤ) : ℚ) := (Rat.lt_floor_add_one q).le
    exact (halfEven_le hup).trans (le_halfEven hstep)

theorem halfEven_sub_le (q : ℚ) : (halfEven q : ℚ) - q ≤ 1 / 2 := by
  have hle := Rat.floor_le q
  unfold halfEven
  dsimp only
  split_ifs <;> push_cast <;> linarith

theorem sub_halfEven_le (q : ℚ) : q - (halfEven q : ℚ) ≤ 1 / 2 := by
  have hlt := Rat.lt_floor_add_one q
  push_cast at hlt
  unfold halfEven
  dsimp only
  split_ifs <;> push_cast <;> linarith

theorem halfEven_eq_of_even {n : ℤ} {q : ℚ} (hn : n % 2 = 0) (hlo : (n : ℚ) - q ≤ 1 / 2)
    (hhi : q ≤ n) : halfEven q = n := by
  apply le_antisymm (halfEven_le hhi)
  rcases eq_or_lt_of_le hhi with rfl | hlt
  · rw [halfEven_intCast]
  · have hfloor : q.floor = n - 1 := by
      apply le_antisymm
      · have := Rat.floor_lt_iff.mpr hlt
        omega
      · apply Rat.le_floor_iff.mpr
        push_cast
        linarith
    unfold halfEven
    dsimp only
    rw [hfloor]
    push_cast
    rw [if_neg (by linarith)]
    split_ifs <;> omega

theorem halfEven_le_iff_of_odd {n : ℤ} {q : ℚ} (hn : n % 2 = 1) :
    halfEven q ≤ n ↔ q < n + 1 / 2 := by
  constructor
  · intro hle
    by_contra hfar
    have htie : halfEven ((n : ℚ) + 1 / 2) = n + 1 :=
      halfEven_eq_of_even (by omega) (by push_cast; linarith) (by push_cast; linarith)
    have hmono := halfEven_mono (not_lt.mp hfar)
    omega
  · intro hlt
    have hnear := halfEven_sub_le q
    have hcast : (halfEven q : ℚ) < n + 1 := by linarith
    have hstep : halfEven q < n + 1 := by exact_mod_cast hcast
    omega

theorem floor_neg_of_ne {q : ℚ} (h : q ≠ q.floor) : (-q).floor = -q.floor - 1 := by
  have hlow : (q.floor : ℚ) < q := lt_of_le_of_ne (Rat.floor_le q) (Ne.symm h)
  have hhigh := Rat.lt_floor_add_one q
  push_cast at hhigh
  apply le_antisymm
  · have hlt : (-q).floor < -q.floor := Rat.floor_lt_iff.mpr (by push_cast; linarith)
    omega
  · apply Rat.le_floor_iff.mpr
    push_cast
    linarith

theorem halfEven_neg (q : ℚ) : halfEven (-q) = -halfEven q := by
  by_cases hinteger : q = q.floor
  · have hneg : -q = ((-q.floor : ℤ) : ℚ) := by
      push_cast
      exact congrArg Neg.neg hinteger
    rw [hneg, halfEven_intCast]
    conv_rhs => rw [hinteger, halfEven_intCast]
  · unfold halfEven
    dsimp only
    rw [floor_neg_of_ne hinteger]
    push_cast
    split_ifs <;> first | omega | linarith

theorem natAbs_halfEven (q : ℚ) : ((halfEven q).natAbs : ℤ) = halfEven |q| := by
  rcases le_total 0 q with hnonneg | hnonpos
  · rw [abs_of_nonneg hnonneg]
    exact Int.natAbs_of_nonneg (le_halfEven (by exact_mod_cast hnonneg))
  · rw [abs_of_nonpos hnonpos, halfEven_neg]
    exact Int.ofNat_natAbs_of_nonpos (halfEven_le (by exact_mod_cast hnonpos))

end XPathValues.Rounding
