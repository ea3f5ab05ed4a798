import Mathlib.Tactic
import XPathValues.Function.Rounding
import XPathValues.Proofs.Number.RoundedTwice
import XPathValues.Proofs.Value.IntegerArithmetic

/-!
# Rounding integers to multiples of a power of ten

The quotient by the power is cut off toward zero, and what it leaves over tells whether it is the
nearest one. Only the doubling of the rest can outgrow storage. Every integer is nearer to zero than
to a multiple of a power of ten that cannot be stored.
-/

namespace XPathValues

open Rounding

namespace Integer

variable {n unit rest : ℤ} {k : ℕ}

theorem stored?_eq_some (h : Stored n) : stored? n = some n :=
  if_pos h

theorem powerOfTen?_of_le (h : k ≤ 38) : powerOfTen? k = some (10 ^ k) := by
  rw [powerOfTen?, if_pos h, Nat.pow_eq]
  push_cast
  rfl

theorem powerOfTen?_of_lt (h : 38 < k) : powerOfTen? k = none :=
  if_neg (not_le.mpr h)

theorem abs_tmod_lt_of_pos (n : ℤ) (hunit : 0 < unit) : |n.tmod unit| < unit := by
  simpa only [abs_of_pos hunit] using abs_tmod_lt n hunit.ne'

/-- The step away from zero turns the rest around. -/
theorem abs_sub_sign (hside : 0 < rest * n) (hsmall : |rest| ≤ unit) :
    |rest - n.sign * unit| = unit - |rest| := by
  rcases pos_and_pos_or_neg_and_neg_of_mul_pos hside with ⟨hrest, hn⟩ | ⟨hrest, hn⟩
  · rw [Int.sign_eq_one_of_pos hn, one_mul, abs_of_pos hrest] at *
    rw [abs_of_nonpos (by omega)]
    ring
  · rw [Int.sign_eq_neg_one_of_neg hn, abs_of_neg hrest] at *
    rw [abs_of_nonneg (by omega)]
    ring

/-- Twice the rest tells on which side of halfway the number is. -/
theorem halfEven_div_eq (hunit : 0 < unit) :
    halfEven ((n : ℚ) / unit) =
      if 2 * |n.tmod unit| < unit ∨ 2 * |n.tmod unit| = unit ∧ n.tdiv unit % 2 = 0 then
        n.tdiv unit
      else n.tdiv unit + n.sign := by
  have hlaw := Int.tdiv_mul_add_tmod n unit
  have hsmall := abs_tmod_lt_of_pos n hunit
  split
  · next hkept =>
    have hrest : n - n.tdiv unit * unit = n.tmod unit := by omega
    apply halfEven_div_eq_of hunit
    · rw [hrest]
      rcases hkept with hlt | ⟨heq, _⟩ <;> omega
    · rw [hrest]
      intro htie
      rcases hkept with hlt | ⟨_, heven⟩ <;> omega
  · next hstep =>
    have hside : 0 < n.tmod unit * n := by
      rcases tmod_eq_zero_or_side n unit with hzero | hside
      · rw [hzero, abs_zero] at hstep
        omega
      · exact hside
    have hrest : |n - (n.tdiv unit + n.sign) * unit| = unit - |n.tmod unit| := by
      rw [← abs_sub_sign hside hsmall.le, add_mul]
      congr 1
      omega
    apply halfEven_div_eq_of hunit
    · rw [hrest]
      omega
    · rw [hrest]
      intro htie
      have hodd : n.tdiv unit % 2 = 1 := by omega
      have hsign : n.sign = 1 ∨ n.sign = -1 := by
        rcases pos_and_pos_or_neg_and_neg_of_mul_pos hside with ⟨_, hn⟩ | ⟨_, hn⟩
        · exact Or.inl (Int.sign_eq_one_of_pos hn)
        · exact Or.inr (Int.sign_eq_neg_one_of_neg hn)
      rcases hsign with hsign | hsign <;> omega

theorem stored_tdiv_add_sign (hn : Stored n) (hunit : 2 ≤ unit) :
    Stored (n.tdiv unit + n.sign) := by
  have hsize : (n.tdiv unit).natAbs = n.natAbs / unit.natAbs := Int.natAbs_tdiv n unit
  have hhalf : n.natAbs / unit.natAbs ≤ n.natAbs / 2 := Nat.div_le_div_left (by omega) (by decide)
  have hsign : n.sign.natAbs ≤ 1 := by
    rw [Int.natAbs_sign]
    split <;> decide
  unfold Stored minStored maxStored at *
  omega

/-- Nothing on the way outgrows storage unless the doubled rest does. -/
theorem nearestQuotient?_eq_some (hn : Stored n) (hunit : 2 ≤ unit)
    (hdouble : 2 * |n.tmod unit| ≤ maxStored) :
    nearestQuotient? n unit = some (halfEven ((n : ℚ) / unit)) := by
  have hquotient : Stored (n.tdiv unit) := (stored_tdiv_iff hn (by omega)).mpr (by omega)
  have hsize : Stored ((n.tmod unit).natAbs : ℤ) ∧ Stored (((n.tmod unit).natAbs : ℤ) * 2) := by
    rw [Int.abs_eq_natAbs] at hdouble
    unfold Stored minStored maxStored at *
    omega
  rw [nearestQuotient?, stored?_eq_some hquotient, stored?_eq_some (stored_tmod hn unit)]
  simp only [Option.bind_eq_bind, Option.bind_some, stored?_eq_some hsize.1,
    stored?_eq_some hsize.2, stored?_eq_some (stored_tdiv_add_sign hn hunit)]
  rw [halfEven_div_eq (by omega), Int.abs_eq_natAbs, mul_comm]
  split_ifs <;> rfl

theorem double_tmod_le (hk : k ≤ 38) (h : k = 38 → |n.tmod (10 ^ 38)| < 2 ^ 126) :
    2 * |n.tmod (10 ^ k)| ≤ maxStored := by
  rcases eq_or_lt_of_le hk with rfl | hlt
  · have hsmall := h rfl
    unfold maxStored
    omega
  · have hpower : (10 : ℤ) ^ k ≤ 10 ^ 37 := pow_le_pow_right₀ (by decide) (by omega)
    have hrest := abs_tmod_lt_of_pos n (by positivity : (0 : ℤ) < 10 ^ k)
    unfold maxStored
    omega

theorem nearestQuotient?_powerOfTen (hn : Stored n) (hpos : 0 < k) (hk : k ≤ 38)
    (h : k = 38 → |n.tmod (10 ^ 38)| < 2 ^ 126) :
    nearestQuotient? n (10 ^ k) = some (halfEven ((n : ℚ) / (10 : ℚ) ^ k)) := by
  have hunit : (2 : ℤ) ≤ 10 ^ k := by
    have hten : (10 : ℤ) ^ 1 ≤ 10 ^ k := pow_le_pow_right₀ (by decide) hpos
    omega
  rw [nearestQuotient?_eq_some hn hunit (double_tmod_le hk h)]
  push_cast
  rfl

theorem halfEven_mul_zpow_eq_zero {p : ℤ} (hn : Stored n) (h : p < -38) :
    halfEven ((n : ℚ) * (10 : ℚ) ^ p) = 0 := by
  apply halfEven_eq_zero
  have hsize : |(n : ℚ)| ≤ 170141183460469231731687303715884105728 := by
    rw [← Int.cast_abs, Int.abs_eq_natAbs]
    unfold Stored minStored maxStored at hn
    exact_mod_cast (by omega : n.natAbs ≤ 170141183460469231731687303715884105728)
  have hpower : (10 : ℚ) ^ p ≤ (10 : ℚ) ^ (-39 : ℤ) :=
    zpow_le_zpow_right₀ (by norm_num) (by omega)
  rw [abs_mul, abs_of_pos (a := (10 : ℚ) ^ p) (by positivity)]
  calc |(n : ℚ)| * (10 : ℚ) ^ p
      ≤ 170141183460469231731687303715884105728 * (10 : ℚ) ^ (-39 : ℤ) :=
        mul_le_mul hsize hpower (by positivity) (by norm_num)
    _ ≤ 1 / 2 := by norm_num

open NumericRule (roundIntegerToEven)

variable {i : Integer} {p : ℤ}

theorem roundIntegerToEven_of_nonneg (i : Integer) (h : 0 ≤ p) :
    roundIntegerToEven i p = orError .numericOverflow (plain? i.value) := by
  rw [roundIntegerToEven, if_pos h, NumericRule.keepInteger, plain?, dif_pos i.stored]
  rfl

theorem roundIntegerToEven_of_beyond (i : Integer) (h : p < -38) :
    roundIntegerToEven i p = orError .numericOverflow (plain? 0) := by
  rw [roundIntegerToEven, if_neg (by omega), powerOfTen?_of_lt (by omega)]
  rfl

theorem roundIntegerToEven_of_within (i : Integer) (hpos : 0 < k) (hk : k ≤ 38)
    (h : k = 38 → |i.value.tmod (10 ^ 38)| < 2 ^ 126) :
    roundIntegerToEven i (-k) =
      orError .numericOverflow (plain? (halfEven ((i.value : ℚ) / (10 : ℚ) ^ k) * 10 ^ k)) := by
  rw [roundIntegerToEven, if_neg (by omega), Int.natAbs_neg, Int.natAbs_natCast,
    powerOfTen?_of_le hk]
  simp only [nearestQuotient?_powerOfTen i.stored hpos hk h, Option.bind_some]

theorem isSome_nearestQuotient? (i : Integer) (hneg : p < 0)
    (h : p = -38 → |i.value.tmod (10 ^ 38)| < 2 ^ 126)
    (hunit : powerOfTen? p.natAbs = some unit) :
    (nearestQuotient? i.value unit).isSome = true := by
  rcases Nat.lt_or_ge 38 p.natAbs with hbeyond | hwithin
  · rw [powerOfTen?_of_lt hbeyond] at hunit
    cases hunit
  · rw [powerOfTen?_of_le hwithin] at hunit
    obtain rfl := Option.some.inj hunit
    rw [nearestQuotient?_powerOfTen i.stored (by omega) hwithin fun hk => h (by omega)]
    rfl

/-- The result is the nearest multiple, if that can be stored. -/
theorem exists_roundIntegerToEven (i : Integer)
    (h : p = -38 → |i.value.tmod (10 ^ 38)| < 2 ^ 126) :
    ∃ multiple : ℤ, (multiple : ℚ) = halfEven ((i.value : ℚ) * (10 : ℚ) ^ p) * (10 : ℚ) ^ (-p) ∧
      (0 ≤ p → multiple = i.value) ∧
      roundIntegerToEven i p = orError .numericOverflow (plain? multiple) := by
  rcases le_or_gt 0 p with hnonneg | hneg
  · obtain ⟨k, rfl⟩ := Int.eq_ofNat_of_zero_le hnonneg
    refine ⟨i.value, ?_, fun _ => rfl, roundIntegerToEven_of_nonneg i hnonneg⟩
    have hscaled : (i.value : ℚ) * (10 : ℚ) ^ (k : ℤ) = ((i.value * 10 ^ k : ℤ) : ℚ) := by
      push_cast
      rw [zpow_natCast]
    rw [hscaled, halfEven_intCast, ← hscaled, mul_assoc, ← zpow_add₀ (by norm_num),
      add_neg_cancel, zpow_zero, mul_one]
  · rcases lt_or_ge p (-38) with hbeyond | hwithin
    · refine ⟨0, ?_, fun hnonneg => by omega, roundIntegerToEven_of_beyond i hbeyond⟩
      rw [halfEven_mul_zpow_eq_zero i.stored hbeyond]
      simp
    · obtain ⟨k, rfl⟩ : ∃ k : ℕ, p = -k := ⟨p.natAbs, by omega⟩
      refine ⟨_, ?_, fun hnonneg => by omega,
        roundIntegerToEven_of_within i (by omega) (by omega) fun hk => h (by omega)⟩
      rw [neg_neg, zpow_neg, zpow_natCast, ← div_eq_mul_inv]
      push_cast
      rfl

end Integer

end XPathValues
