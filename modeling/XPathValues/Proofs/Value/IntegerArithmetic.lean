import Mathlib.Tactic
import XPathValues.Proofs.Number.DecimalRemainder
import XPathValues.Proofs.Value.ResultKind

/-!
# Arithmetic on integers

Operators on integers of any of the integer types give the exact result as a plain integer, and an
overflow where it cannot be stored. One pair of operands is an exception: the remainder of the least
integer by minus one is refused, although it is zero, because the quotient cannot be stored.
-/

namespace XPathValues

variable {x y n : ℤ}

theorem tmod_eq_zero_or_side (x y : ℤ) : x.tmod y = 0 ∨ 0 < x.tmod y * x := by
  rcases lt_trichotomy x 0 with hneg | rfl | hpos
  · have hle : 0 ≤ (-x).tmod y := Int.tmod_nonneg y (by omega)
    rw [Int.neg_tmod] at hle
    rcases eq_or_lt_of_le hle with hzero | hlt
    · exact Or.inl (by omega)
    · exact Or.inr (mul_pos_of_neg_of_neg (by omega) hneg)
  · exact Or.inl (Int.zero_tmod y)
  · rcases eq_or_lt_of_le (Int.tmod_nonneg y hpos.le) with hzero | hlt
    · exact Or.inl hzero.symm
    · exact Or.inr (mul_pos hlt hpos)

namespace Integer

theorem stored_tdiv_iff (hx : Stored x) (hy : y ≠ 0) :
    Stored (x.tdiv y) ↔ ¬ (x = minStored ∧ y = -1) := by
  have hsize := Int.natAbs_tdiv x y
  unfold Stored minStored maxStored at *
  constructor
  · rintro hstored ⟨rfl, rfl⟩
    revert hstored
    decide
  · intro hother
    rcases Nat.lt_or_ge y.natAbs 2 with hunit | hlarge
    · rcases (by omega : y = 1 ∨ y = -1) with rfl | rfl
      · rwa [Int.tdiv_one]
      · rw [Int.tdiv_neg, Int.tdiv_one]
        omega
    · have hhalf : x.natAbs / y.natAbs ≤ x.natAbs / 2 := Nat.div_le_div_left hlarge (by decide)
      change _ = x.natAbs / y.natAbs at hsize
      omega

theorem stored_tmod (hx : Stored x) (y : ℤ) : Stored (x.tmod y) := by
  have hsize : (x.tmod y).natAbs ≤ x.natAbs := by
    rw [Int.natAbs_tmod]
    exact Nat.mod_le _ _
  unfold Stored minStored maxStored at *
  rcases tmod_eq_zero_or_side x y with hzero | hside
  · omega
  · rcases pos_and_pos_or_neg_and_neg_of_mul_pos hside with ⟨_, _⟩ | ⟨_, _⟩ <;> omega

theorem stored_neg_iff (hx : Stored x) : Stored (-x) ↔ x ≠ minStored := by
  unfold Stored minStored maxStored at *
  omega

end Integer

theorem abs_tmod_lt (x : ℤ) (hy : y ≠ 0) : |x.tmod y| < |y| := by
  rw [Int.abs_eq_natAbs, Int.abs_eq_natAbs, Int.natAbs_tmod]
  exact_mod_cast Nat.mod_lt _ (Int.natAbs_pos.mpr hy)

theorem isDivision_tdiv (hy : y ≠ 0) : IsDivision x y (x.tdiv y) (x.tmod y : ℤ) where
  law := by exact_mod_cast (Int.tdiv_mul_add_tmod x y).symm
  small := by exact_mod_cast abs_tmod_lt x hy
  side := by exact_mod_cast tmod_eq_zero_or_side x y

theorem IsDivision.eq_tdiv {r : ℤ} (h : IsDivision x y n r) : n = x.tdiv y ∧ r = x.tmod y := by
  have hexact := isDivision_tdiv (x := x) (y := y) (by exact_mod_cast h.ne_zero)
  have hquotient : n = x.tdiv y := h.quotient_eq.trans hexact.quotient_eq.symm
  have hrest : (r : ℚ) = (x.tmod y : ℤ) := by
    have hlaw := h.law.symm.trans hexact.law
    rw [hquotient] at hlaw
    linarith
  exact ⟨hquotient, by exact_mod_cast hrest⟩

/-! ## Operators -/

/-- The operator gives this integer for the two integers in exact arithmetic. Division by zero gives
none, and the operator `div` never gives an integer. -/
inductive ArithmeticOperator.GivesExactly (x y : ℤ) : ArithmeticOperator → ℤ → Prop
  | add : GivesExactly x y .add (x + y)
  | subtract : GivesExactly x y .subtract (x - y)
  | multiply : GivesExactly x y .multiply (x * y)
  | integerDivide {quotient rest : ℤ} (h : IsDivision x y quotient rest) :
      GivesExactly x y .integerDivide quotient
  | modulo {quotient rest : ℤ} (h : IsDivision x y quotient rest) :
      GivesExactly x y .modulo rest

namespace ArithmeticOperator

variable {op : ArithmeticOperator}

theorem exists_givesExactly_iff (hop : op ≠ .divide) :
    (∃ n, op.GivesExactly x y n) ↔ ¬ ((op = .integerDivide ∨ op = .modulo) ∧ y = 0) := by
  constructor
  · rintro ⟨n, hn⟩ ⟨hdivision, rfl⟩
    cases hn with
    | integerDivide h => exact h.ne_zero Int.cast_zero
    | modulo h => exact h.ne_zero Int.cast_zero
    | _ => simp at hdivision
  · intro hdefined
    cases op with
    | add => exact ⟨_, .add⟩
    | subtract => exact ⟨_, .subtract⟩
    | multiply => exact ⟨_, .multiply⟩
    | divide => exact absurd rfl hop
    | integerDivide => exact ⟨_, .integerDivide (isDivision_tdiv (by simpa using hdefined))⟩
    | modulo => exact ⟨_, .modulo (isDivision_tdiv (by simpa using hdefined))⟩

end ArithmeticOperator

namespace AtomicValue

open Integer (Stored minStored)

/-- The outcome is the number as a plain integer if it can be stored, and otherwise an overflow. -/
inductive GivesInteger (n : ℤ) : Except Error AtomicValue → Prop
  | stored (h : Stored n) : GivesInteger n (.ok (integer (.plain n h)))
  | overflow (h : ¬ Stored n) : GivesInteger n (.error .numericOverflow)

theorem givesInteger_plainInteger? (n : ℤ) :
    GivesInteger n (orError .numericOverflow (plainInteger? n)) := by
  unfold plainInteger? Integer.plain?
  split
  · next h => exact .stored h
  · next h => exact .overflow h

theorem arithmetic_of_integers (i j : Integer) (op : ArithmeticOperator) (zone : Timezone) :
    (integer i).arithmetic op (integer j) zone = integerArithmetic i.value op j.value := by
  rw [arithmetic_of_numbers rfl rfl]
  rfl

theorem integerArithmetic_zero {op : ArithmeticOperator} (hop : op = .integerDivide ∨ op = .modulo) :
    integerArithmetic x op 0 = .error .divisionByZero := by
  rcases hop with rfl | rfl <;> rfl

theorem integerArithmetic_modulo (hx : Stored x) (hy : y ≠ 0) :
    integerArithmetic x .modulo y =
      if x = minStored ∧ y = -1 then .error .numericOverflow
      else orError .numericOverflow (plainInteger? (x.tmod y)) := by
  simp only [integerArithmetic, if_neg hy, Integer.stored_tdiv_iff hx hy]
  split_ifs <;> rfl

theorem givesInteger_integerArithmetic (hx : Stored x) {op : ArithmeticOperator}
    (h : op.GivesExactly x y n) (hother : ¬ (op = .modulo ∧ x = minStored ∧ y = -1)) :
    GivesInteger n (integerArithmetic x op y) := by
  cases h with
  | add | subtract | multiply => exact givesInteger_plainInteger? _
  | integerDivide h =>
    rw [h.eq_tdiv.1, integerArithmetic, if_neg (by exact_mod_cast h.ne_zero)]
    exact givesInteger_plainInteger? _
  | modulo h =>
    rw [h.eq_tdiv.2, integerArithmetic_modulo hx (by exact_mod_cast h.ne_zero),
      if_neg (by simpa using hother)]
    exact givesInteger_plainInteger? _

theorem refused_modulo {op : ArithmeticOperator} (h : op.GivesExactly x y n)
    (hrefused : op = .modulo ∧ x = minStored ∧ y = -1) :
    n = 0 ∧ integerArithmetic x op y = .error .numericOverflow := by
  obtain ⟨rfl, rfl, rfl⟩ := hrefused
  cases h with
  | modulo h => exact ⟨h.eq_tdiv.2.trans (by decide +kernel), by decide +kernel⟩

/-- Operators on integers are exact: the result is a plain integer, and there is an overflow where
it cannot be stored. Only the remainder of the least integer by minus one is refused although it is
zero. Division by zero is the one operation without a result. -/
theorem integer_arithmetic (i j : Integer) (zone : Timezone) :
    (∀ (op : ArithmeticOperator) (n : ℤ), op.GivesExactly i.value j.value n →
        if op = .modulo ∧ i.value = minStored ∧ j.value = -1 then
          n = 0 ∧ (integer i).arithmetic op (integer j) zone = .error .numericOverflow
        else GivesInteger n ((integer i).arithmetic op (integer j) zone)) ∧
      (∀ op : ArithmeticOperator, op ≠ .divide → ((∃ n, op.GivesExactly i.value j.value n) ↔
        ¬ ((op = .integerDivide ∨ op = .modulo) ∧ j.value = 0))) ∧
      (∀ op : ArithmeticOperator, op = .integerDivide ∨ op = .modulo → j.value = 0 →
        (integer i).arithmetic op (integer j) zone = .error .divisionByZero) ∧
      GivesInteger (-i.value) (integer i).negate ∧
      (Stored (-i.value) ↔ i.value ≠ minStored) := by
  simp only [arithmetic_of_integers]
  refine ⟨fun op n h => ?_, fun op hop => ArithmeticOperator.exists_givesExactly_iff hop,
    fun op hop hzero => ?_, givesInteger_plainInteger? _, Integer.stored_neg_iff i.stored⟩
  · split
    · next hrefused => exact refused_modulo h hrefused
    · next hother => exact givesInteger_integerArithmetic i.stored h hother
  · rw [hzero]
    exact integerArithmetic_zero hop

/-- The least integer by minus one, which is a byte: the quotient is an overflow, and the remainder
is refused although it is zero. -/
theorem integer_arithmetic_least :
    let least : Integer := .plain minStored (by decide)
    let minusOne : Integer := ⟨.byte, -1, by decide, by decide⟩
    (ArithmeticOperator.modulo.GivesExactly least.value minusOne.value 0 ∧
        (integer least).arithmetic .modulo (integer minusOne) .utc = .error .numericOverflow) ∧
      ∃ n, ArithmeticOperator.integerDivide.GivesExactly least.value minusOne.value n ∧
        GivesInteger n ((integer least).arithmetic .integerDivide (integer minusOne) .utc) := by
  intro least minusOne
  obtain ⟨hexact, hdefined, _⟩ := integer_arithmetic least minusOne .utc
  obtain ⟨rest, hrest⟩ := (hdefined .modulo (by decide)).mpr (by decide)
  obtain ⟨quotient, hquotient⟩ := (hdefined .integerDivide (by decide)).mpr (by decide)
  obtain ⟨rfl, hrefused⟩ := hexact _ _ hrest
  exact ⟨⟨hrest, hrefused⟩, quotient, hquotient, hexact _ _ hquotient⟩

end AtomicValue

end XPathValues
