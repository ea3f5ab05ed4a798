import Mathlib.Tactic
import XPathValues.Number.Binary.Arithmetic
import XPathValues.Proofs.Number.HalfEven

/-!
# Rounding to a binary format

The number that a rational is rounded to is a whole multiple of a power of two, its unit, which
grows with the rational. Rounding is monotone: below a power of two the unit divides it, so no
number is rounded across the places where the unit changes. A multiple of a small enough power of
two is not rounded at all.
-/

namespace XPathValues

namespace BinaryFormat

open Rounding

variable {f : BinaryFormat} {q r : ℚ}

/-- There is a significand, and an exponent. -/
def Proper (f : BinaryFormat) : Prop := 0 < f.precision ∧ f.minExponent ≤ f.maxExponent

theorem proper_double : double.Proper := by unfold Proper; decide

/-! ## The unit of a rational -/

theorem two_zpow_log2_le_and_lt {n : ℕ} (hn : n ≠ 0) :
    (2 : ℚ) ^ (n.log2 : ℤ) ≤ n ∧ (n : ℚ) < (2 : ℚ) ^ ((n.log2 : ℤ) + 1) := by
  rw [← Nat.cast_succ, zpow_natCast, zpow_natCast]
  exact ⟨mod_cast Nat.log2_self_le hn, mod_cast Nat.lt_log2_self⟩

/-- The logarithms of two numbers leave two candidates for that of the quotient. -/
theorem two_zpow_sub_log2_le_and_lt {n d : ℕ} (hn : n ≠ 0) (hd : d ≠ 0) :
    (2 : ℚ) ^ ((n.log2 : ℤ) - d.log2 - 1) ≤ (n : ℚ) / d ∧
      (n : ℚ) / d < (2 : ℚ) ^ ((n.log2 : ℤ) - d.log2 + 1) := by
  obtain ⟨hnle, hnlt⟩ := two_zpow_log2_le_and_lt hn
  obtain ⟨hdle, hdlt⟩ := two_zpow_log2_le_and_lt hd
  have hpos : (0 : ℚ) < d := mod_cast Nat.pos_of_ne_zero hd
  constructor
  · rw [le_div_iff₀ hpos]
    calc (2 : ℚ) ^ ((n.log2 : ℤ) - d.log2 - 1) * d
        ≤ (2 : ℚ) ^ ((n.log2 : ℤ) - d.log2 - 1) * 2 ^ ((d.log2 : ℤ) + 1) := by gcongr
      _ = (2 : ℚ) ^ (n.log2 : ℤ) := by
          rw [← zpow_add₀ two_ne_zero]
          congr 1
          ring
      _ ≤ n := hnle
  · rw [div_lt_iff₀ hpos]
    calc (n : ℚ) < (2 : ℚ) ^ ((n.log2 : ℤ) + 1) := hnlt
      _ = (2 : ℚ) ^ ((n.log2 : ℤ) - d.log2 + 1) * 2 ^ (d.log2 : ℤ) := by
          rw [← zpow_add₀ two_ne_zero]
          congr 1
          ring
      _ ≤ (2 : ℚ) ^ ((n.log2 : ℤ) - d.log2 + 1) * d := by gcongr

theorem two_zpow_floorLog2_le_and_lt (hq : 0 < q) :
    (2 : ℚ) ^ BinaryFloat.floorLog2 q ≤ q ∧ q < (2 : ℚ) ^ (BinaryFloat.floorLog2 q + 1) := by
  have hnum : 0 < q.num := Rat.num_pos.mpr hq
  have hquotient : (q.num.natAbs : ℚ) / (q.den : ℚ) = q := by
    have habs : ((q.num.natAbs : ℤ) : ℚ) = q.num := by rw [Int.natAbs_of_nonneg hnum.le]
    rw [← Int.cast_natCast q.num.natAbs, habs, Rat.num_div_den]
  have hbounds := two_zpow_sub_log2_le_and_lt (Int.natAbs_ne_zero.mpr hnum.ne') q.den_nz
  rw [hquotient] at hbounds
  unfold BinaryFloat.floorLog2
  dsimp only
  split
  · next h => exact ⟨h, hbounds.2⟩
  · next h => exact ⟨hbounds.1, by rw [sub_add_cancel]; exact not_le.mp h⟩

theorem floorLog2_lt_iff (hq : 0 < q) {e : ℤ} : BinaryFloat.floorLog2 q < e ↔ q < (2 : ℚ) ^ e := by
  obtain ⟨hle, hlt⟩ := two_zpow_floorLog2_le_and_lt hq
  constructor
  · intro h
    exact hlt.trans_le (zpow_le_zpow_right₀ one_le_two h)
  · intro h
    exact (zpow_lt_zpow_iff_right₀ one_lt_two).mp (hle.trans_lt h)

/-- The exponent of the unit: as many bits as the precision below the leading one, but not below the
least exponent. -/
def unitExponent (f : BinaryFormat) (q : ℚ) : ℤ :=
  max f.minExponent (BinaryFloat.floorLog2 q + 1 - (f.precision : ℤ))

theorem unitExponent_le_iff (hq : 0 < q) {e : ℤ} :
    f.unitExponent q ≤ e ↔ f.minExponent ≤ e ∧ q < (2 : ℚ) ^ (e + f.precision) := by
  rw [unitExponent, max_le_iff, ← floorLog2_lt_iff hq]
  refine and_congr_right fun _ => ?_
  omega

theorem minExponent_le_unitExponent (f : BinaryFormat) (q : ℚ) :
    f.minExponent ≤ f.unitExponent q :=
  le_max_left _ _

theorem two_zpow_le_of_ne_minExponent (hq : 0 < q) (h : f.unitExponent q ≠ f.minExponent) :
    (2 : ℚ) ^ (f.unitExponent q - 1 + f.precision) ≤ q := by
  have hmin := f.minExponent_le_unitExponent q
  have hnot : ¬ f.unitExponent q ≤ f.unitExponent q - 1 := by omega
  rw [unitExponent_le_iff hq] at hnot
  exact not_lt.mp fun hlt => hnot ⟨by omega, hlt⟩

theorem unitExponent_mono (hq : 0 < q) (h : q ≤ r) : f.unitExponent q ≤ f.unitExponent r := by
  obtain ⟨hmin, hlt⟩ := (unitExponent_le_iff (hq.trans_le h)).mp (le_refl (f.unitExponent r))
  exact (unitExponent_le_iff hq).mpr ⟨hmin, h.trans_lt hlt⟩

/-! ## Rounding to the unit -/

/-- The nearest multiple of the unit. -/
def rounded (f : BinaryFormat) (q : ℚ) : ℚ :=
  (halfEven (q / (2 : ℚ) ^ f.unitExponent q) : ℚ) * (2 : ℚ) ^ f.unitExponent q

theorem mul_two_zpow_eq {e : ℤ} (he : f.unitExponent q ≤ e) (m : ℤ) :
    ∃ n : ℤ, (m : ℚ) * (2 : ℚ) ^ e = (n : ℚ) * (2 : ℚ) ^ f.unitExponent q := by
  obtain ⟨k, hk⟩ := Int.eq_ofNat_of_zero_le (sub_nonneg.mpr he)
  refine ⟨m * 2 ^ k, ?_⟩
  obtain rfl : e = k + f.unitExponent q := by omega
  rw [zpow_add₀ two_ne_zero, zpow_natCast]
  push_cast
  ring

theorem le_rounded {m e : ℤ} (he : f.unitExponent q ≤ e) (h : (m : ℚ) * (2 : ℚ) ^ e ≤ q) :
    (m : ℚ) * (2 : ℚ) ^ e ≤ f.rounded q := by
  obtain ⟨n, hn⟩ := mul_two_zpow_eq he m
  have hpow : (0 : ℚ) < (2 : ℚ) ^ f.unitExponent q := by positivity
  rw [hn] at h ⊢
  unfold rounded
  gcongr
  exact mod_cast le_halfEven ((le_div_iff₀ hpow).mpr h)

theorem rounded_le {m e : ℤ} (he : f.unitExponent q ≤ e) (h : q ≤ (m : ℚ) * (2 : ℚ) ^ e) :
    f.rounded q ≤ (m : ℚ) * (2 : ℚ) ^ e := by
  obtain ⟨n, hn⟩ := mul_two_zpow_eq he m
  have hpow : (0 : ℚ) < (2 : ℚ) ^ f.unitExponent q := by positivity
  rw [hn] at h ⊢
  unfold rounded
  gcongr
  exact mod_cast halfEven_le ((div_le_iff₀ hpow).mpr h)

@[simp] theorem rounded_zero (f : BinaryFormat) : f.rounded 0 = 0 := by
  have hzero : halfEven 0 = 0 := halfEven_intCast 0
  simp [rounded, hzero]

theorem rounded_nonneg (hq : 0 ≤ q) : 0 ≤ f.rounded q := by
  have h := le_rounded (f := f) (q := q) (m := 0) le_rfl (by simpa using hq)
  simpa using h

/-- A multiple of the unit, or of a larger power of two, is not rounded. -/
theorem rounded_eq_of_multiple {m e : ℤ} (he : f.unitExponent q ≤ e)
    (h : q = (m : ℚ) * (2 : ℚ) ^ e) : f.rounded q = q := by
  have hle := le_rounded he h.ge
  have hge := rounded_le he h.le
  rw [← h] at hle hge
  exact le_antisymm hge hle

theorem rounded_eq_self {m : ℕ} {e : ℤ} (hm : m < 2 ^ f.precision) (he : f.minExponent ≤ e) :
    f.rounded ((m : ℚ) * (2 : ℚ) ^ e) = (m : ℚ) * (2 : ℚ) ^ e := by
  rcases Nat.eq_zero_or_pos m with rfl | hpos
  · simp
  have hunit : f.unitExponent ((m : ℚ) * (2 : ℚ) ^ e) ≤ e := by
    rw [unitExponent_le_iff (by positivity), zpow_add₀ two_ne_zero, zpow_natCast, mul_comm]
    refine ⟨he, ?_⟩
    gcongr
    exact mod_cast hm
  exact rounded_eq_of_multiple (m := m) hunit (by push_cast; rfl)

/-- Where two numbers have different units, the place of the change lies between them. -/
theorem rounded_mono (hf : 0 < f.precision) (hq : 0 ≤ q) (h : q ≤ r) :
    f.rounded q ≤ f.rounded r := by
  rcases hq.eq_or_lt with rfl | hq
  · rw [rounded_zero]
    exact rounded_nonneg h
  have hr : 0 < r := hq.trans_le h
  have hunit : f.unitExponent q ≤ f.unitExponent r := unitExponent_mono hq h
  rcases hunit.eq_or_lt with heq | hlt
  · -- With one unit, the order of the numbers is that of the multiples.
    unfold rounded
    rw [heq]
    have hpow : (0 : ℚ) < (2 : ℚ) ^ f.unitExponent r := by positivity
    gcongr
    exact mod_cast halfEven_mono (by gcongr)
  · -- The power of two from which on the unit is that of `r` is a multiple of both units.
    have hplace : (2 : ℚ) ^ (f.unitExponent r - 1 + f.precision) =
        ((2 ^ (f.precision - 1) : ℕ) : ℤ) * (2 : ℚ) ^ f.unitExponent r := by
      push_cast
      rw [← zpow_natCast, ← zpow_add₀ two_ne_zero]
      congr 1
      omega
    have hbelow : q < (2 : ℚ) ^ (f.unitExponent r - 1 + f.precision) :=
      ((unitExponent_le_iff hq).mp (by omega)).2
    have habove : (2 : ℚ) ^ (f.unitExponent r - 1 + f.precision) ≤ r :=
      two_zpow_le_of_ne_minExponent hr
        (ne_of_gt ((f.minExponent_le_unitExponent q).trans_lt hlt))
    rw [hplace] at hbelow habove
    exact (rounded_le hunit hbelow.le).trans (le_rounded le_rfl habove)

/-! ## Significands -/

/-- The multiple of the unit that a nonnegative number is rounded to. -/
def significand (f : BinaryFormat) (q : ℚ) : ℕ :=
  (halfEven (q / (2 : ℚ) ^ f.unitExponent q)).natAbs

theorem cast_significand (hq : 0 ≤ q) :
    (f.significand q : ℤ) = halfEven (q / (2 : ℚ) ^ f.unitExponent q) := by
  have hdiv : ((0 : ℤ) : ℚ) ≤ q / (2 : ℚ) ^ f.unitExponent q := by
    rw [Int.cast_zero]
    positivity
  rw [significand, Int.natAbs_of_nonneg (le_halfEven hdiv)]

theorem rounded_eq_magnitude (hq : 0 ≤ q) :
    f.rounded q = BinaryFloat.magnitude (f.significand q) (f.unitExponent q) := by
  rw [rounded, ← cast_significand hq, Int.cast_natCast]
  rfl

/-- One carry out of the bits of the precision is possible. -/
theorem significand_le (hq : 0 < q) : f.significand q ≤ 2 ^ f.precision := by
  have hpow : (0 : ℚ) < (2 : ℚ) ^ f.unitExponent q := by positivity
  have hlt := ((unitExponent_le_iff hq).mp (le_refl (f.unitExponent q))).2
  rw [zpow_add₀ two_ne_zero, zpow_natCast] at hlt
  have hdiv : q / (2 : ℚ) ^ f.unitExponent q ≤ ((2 ^ f.precision : ℕ) : ℤ) := by
    rw [div_le_iff₀ hpow]
    push_cast
    linarith
  have hle := halfEven_le hdiv
  rw [← cast_significand hq.le] at hle
  exact mod_cast hle

theorem le_significand (hf : 0 < f.precision) (hq : 0 < q)
    (h : f.unitExponent q ≠ f.minExponent) : 2 ^ (f.precision - 1) ≤ f.significand q := by
  have hpow : (0 : ℚ) < (2 : ℚ) ^ f.unitExponent q := by positivity
  have hdiv : (((2 ^ (f.precision - 1) : ℕ) : ℤ) : ℚ) ≤ q / (2 : ℚ) ^ f.unitExponent q := by
    rw [le_div_iff₀ hpow]
    refine le_trans (le_of_eq ?_) (two_zpow_le_of_ne_minExponent hq h)
    push_cast
    rw [← zpow_natCast, ← zpow_add₀ two_ne_zero]
    congr 1
    omega
  have hle := le_halfEven hdiv
  rw [← cast_significand hq.le] at hle
  exact mod_cast hle

theorem unitExponent_le_maxExponent (hf : f.Proper) (hq : 0 < q)
    (hmax : q ≤ (2 : ℚ) ^ f.maxExponent) : f.unitExponent q ≤ f.maxExponent := by
  have hpos := hf.1
  refine (unitExponent_le_iff hq).mpr ⟨hf.2, hmax.trans_lt ?_⟩
  exact zpow_lt_zpow_right₀ one_lt_two (by omega)

theorem unitExponent_lt_of_carry (hf : f.Proper) (hq : 0 < q)
    (hmax : q ≤ (2 : ℚ) ^ f.maxExponent) (hcarry : 2 ^ f.precision ≤ f.significand q) :
    f.unitExponent q < f.maxExponent := by
  by_contra hge
  have hone : q / (2 : ℚ) ^ f.unitExponent q ≤ ((1 : ℤ) : ℚ) := by
    rw [div_le_iff₀ (by positivity), Int.cast_one, one_mul]
    exact hmax.trans (zpow_le_zpow_right₀ one_le_two (not_lt.mp hge))
  have hle := halfEven_le hone
  rw [← cast_significand hq.le] at hle
  have htwo : 2 ^ 1 ≤ 2 ^ f.precision := Nat.pow_le_pow_right (by norm_num) hf.1
  omega

theorem two_pow_precision (hf : 0 < f.precision) :
    f.significandLimit = 2 * 2 ^ (f.precision - 1) := by
  obtain ⟨p, hp⟩ := Nat.exists_eq_add_of_lt hf
  have hprecision : f.precision - 1 = p := by omega
  rw [significandLimit, hprecision, Nat.pow_eq, hp, zero_add, pow_succ']

theorem canonical_significand (hf : f.Proper) (hq : 0 < q) (hmax : q ≤ (2 : ℚ) ^ f.maxExponent)
    (hlt : f.significand q < f.significandLimit) :
    f.Canonical (f.significand q) (f.unitExponent q) := by
  refine ⟨hlt, f.minExponent_le_unitExponent q, unitExponent_le_maxExponent hf hq hmax, ?_⟩
  by_cases hmin : f.unitExponent q = f.minExponent
  · exact Or.inr hmin
  · have hle := le_significand hf.1 hq hmin
    rw [two_pow_precision hf.1]
    omega

theorem canonical_carry (hf : f.Proper) (hq : 0 < q) (hmax : q ≤ (2 : ℚ) ^ f.maxExponent)
    (hcarry : f.significand q = f.significandLimit) :
    f.Canonical (f.significand q / 2) (f.unitExponent q + 1) := by
  have hlimit := two_pow_precision hf.1
  have hpos : 0 < 2 ^ (f.precision - 1) := Nat.two_pow_pos _
  have hmin := f.minExponent_le_unitExponent q
  have hexponent := unitExponent_lt_of_carry hf hq hmax hcarry.ge
  refine ⟨?_, ?_, ?_, Or.inl ?_⟩ <;> omega

end BinaryFormat

namespace BinaryFloat

open BinaryFormat Rounding

variable {f : BinaryFormat} {q : ℚ}

theorem toRat?_assemble (negative : Bool) {significand : ℕ} {exponent : ℤ}
    (h : f.Canonical significand exponent) :
    (assemble negative significand exponent : BinaryFloat f).toRat? =
      some (signed negative significand exponent) := by
  rw [assemble, dif_pos h]
  rfl

theorem toRat?_zero (hf : f.Proper) (negative : Bool) :
    (zero negative : BinaryFloat f).toRat? = some 0 := by
  have hcanonical : f.Canonical 0 f.minExponent :=
    ⟨Nat.two_pow_pos _, le_rfl, hf.2, Or.inr rfl⟩
  rw [zero, toRat?_assemble negative hcanonical]
  cases negative <;> simp [signed, magnitude]

/-- Within the range of the exponents, rounding is to the nearest multiple of the unit. -/
theorem toRat?_round (hf : f.Proper) (negative : Bool) (hq : 0 ≤ q)
    (hmax : q ≤ (2 : ℚ) ^ f.maxExponent) :
    (round negative q : BinaryFloat f).toRat? =
      some (if negative then -f.rounded q else f.rounded q) := by
  rcases hq.eq_or_lt with rfl | hq
  · rw [round, if_pos rfl, toRat?_zero hf, rounded_zero, neg_zero, ite_self]
  have hround : (round negative q : BinaryFloat f) =
      if f.significand q < f.significandLimit then
        assemble negative (f.significand q) (f.unitExponent q)
      else assemble negative (f.significand q / 2) (f.unitExponent q + 1) := by
    rw [round, if_neg hq.ne']
    rfl
  rw [hround, rounded_eq_magnitude hq.le]
  split
  · next hlt =>
    rw [toRat?_assemble negative (canonical_significand hf hq hmax hlt)]
    rfl
  · next hge =>
    have hcarry := le_antisymm (significand_le hq) (not_lt.mp hge)
    have hhalf : f.significand q = 2 * (f.significand q / 2) := by
      have hlimit := two_pow_precision hf.1
      rw [significandLimit, Nat.pow_eq] at hlimit
      omega
    have hmagnitude : magnitude (f.significand q / 2) (f.unitExponent q + 1) =
        magnitude (f.significand q) (f.unitExponent q) := by
      unfold magnitude
      nth_rewrite 2 [hhalf]
      rw [zpow_add_one₀ two_ne_zero]
      push_cast
      ring
    rw [toRat?_assemble negative (canonical_carry hf hq hmax hcarry), signed, hmagnitude]

end BinaryFloat

end XPathValues
