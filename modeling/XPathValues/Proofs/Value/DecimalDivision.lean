import Mathlib.Tactic
import XPathValues.Proofs.Number.DecimalRemainder
import XPathValues.Proofs.Value.ExactOrder
import XPathValues.Proofs.Value.ResultKind

/-!
# Integer quotient and remainder of decimals

The two operators on decimals, and on a decimal beside an integer that is in the range of decimals.
The remainder keeps its bounds in every case. The quotient is cut off toward zero after it has been
rounded, so the two fit together unless the rounding reaches the next integer, or the long division
that makes the remainder loses a word.
-/

namespace XPathValues.AtomicValue

open Decimal Rounding

variable {x y quotient rest : AtomicValue} {a b : Decimal}

def asDecimal? : AtomicValue → Option Decimal
  | decimal d => some d
  | integer i => Decimal.ofInt? i.value
  | _ => none

theorem exactNumber?_of_asDecimal? (h : x.asDecimal? = some a) : x.exactNumber? = some a.toRat := by
  cases x with
  | decimal d =>
    obtain rfl := Option.some.inj h
    rfl
  | integer i => exact congrArg some (toRat_ofInt? h).symm
  | _ => cases h

theorem arithmetic_of_decimals (hx : x.asDecimal? = some a) (hy : y.asDecimal? = some b)
    (hkind : x.kind = .decimal ∨ y.kind = .decimal) (op : ArithmeticOperator) (zone : Timezone) :
    x.arithmetic op y zone = decimalArithmetic a op b := by
  cases x with
  | decimal d =>
    obtain rfl := Option.some.inj hx
    cases y with
    | decimal e =>
      obtain rfl := Option.some.inj hy
      rw [arithmetic_of_numbers rfl rfl]
      rfl
    | integer j =>
      have hj : Decimal.ofInt? j.value = some b := hy
      rw [arithmetic_of_numbers rfl rfl, Numeric.promote, hj]
      rfl
    | _ => cases hy
  | integer i =>
    have hi : Decimal.ofInt? i.value = some a := hx
    cases y with
    | decimal e =>
      obtain rfl := Option.some.inj hy
      rw [arithmetic_of_numbers rfl rfl, Numeric.promote, hi]
      rfl
    | integer j => rcases hkind with h | h <;> cases h
    | _ => cases hy
  | _ => cases hx

/-- The quotient is an integer, and it is the integer part of a decimal. -/
theorem exists_of_integerDivide (hb : b.toRat ≠ 0)
    (h : decimalArithmetic a .integerDivide b = .ok quotient) :
    ∃ q, a.div? b = some q ∧ quotient.asInteger? = some q.toInt := by
  simp only [decimalArithmetic, isZero_eq_false_iff.mpr hb, Bool.false_eq_true, if_false] at h
  obtain ⟨q, hq, hplain⟩ := Option.bind_eq_some_iff.mp (eq_some_of_orError h)
  obtain ⟨i, hi, rfl⟩ := Option.map_eq_some_iff.mp hplain
  exact ⟨q, hq, congrArg some (Integer.plain?_eq_some_iff.mp hi).2⟩

theorem exists_of_modulo (hb : b.toRat ≠ 0) (h : decimalArithmetic a .modulo b = .ok rest) :
    ∃ r, a.rem? b = some r ∧ rest = decimal r := by
  simp only [decimalArithmetic, isZero_eq_false_iff.mpr hb, Bool.false_eq_true, if_false] at h
  obtain ⟨r, hr, rfl⟩ := Option.map_eq_some_iff.mp (eq_some_of_orError h)
  exact ⟨r, hr, rfl⟩

/-- Wherever both operators have a result, these are the rounded division of the two numbers. -/
theorem decimal_division (zone : Timezone) (hx : x.asDecimal? = some a)
    (hy : y.asDecimal? = some b) (hkind : x.kind = .decimal ∨ y.kind = .decimal)
    (hzero : b.toRat ≠ 0) (hquotient : x.arithmetic .integerDivide y zone = .ok quotient)
    (hrest : x.arithmetic .modulo y zone = .ok rest) :
    ∃ n m, quotient.asInteger? = some n ∧ rest.exactNumber? = some m ∧
      x.exactNumber? = some a.toRat ∧ y.exactNumber? = some b.toRat ∧
      IsRoundedDivision a b n m := by
  rw [arithmetic_of_decimals hx hy hkind] at hquotient hrest
  obtain ⟨q, hq, hinteger⟩ := exists_of_integerDivide hzero hquotient
  obtain ⟨r, hr, rfl⟩ := exists_of_modulo hzero hrest
  exact ⟨q.toInt, r.toRat, hinteger, rfl, exactNumber?_of_asDecimal? hx,
    exactNumber?_of_asDecimal? hy, isRoundedDivision hzero hq hr⟩

/-- One unit of the last place below sixty, divided by the integer sixty: the quotient reaches one,
and the remainder is the dividend. -/
theorem decimal_division_sixty :
    let below : Decimal := ⟨false, 59999999999999999999999999999, 27, by decide, by decide⟩
    let sixty : AtomicValue := integer (.plain 60 (by decide))
    (decimal below).arithmetic .integerDivide sixty .utc = .ok (integer (.plain 1 (by decide))) ∧
      (decimal below).arithmetic .modulo sixty .utc = .ok (decimal below) ∧
      IsRoundedDivision below (.ofNat 60) 1 below.toRat ∧ ReachesNext |below.toRat / 60| ∧
      (1 : ℤ) ≠ towardZero (below.toRat / 60) ∧ below.toRat ≠ 1 * 60 + below.toRat := by
  intro below sixty
  have hquotient : (decimal below).arithmetic .integerDivide sixty .utc =
      .ok (integer (.plain 1 (by decide))) := by decide +kernel
  have hrest : (decimal below).arithmetic .modulo sixty .utc = .ok (decimal below) := by
    decide +kernel
  have hsixty : (Decimal.ofNat 60).toRat = 60 := by simp
  have hreaches : ReachesNext |below.toRat / 60| := by decide +kernel
  obtain ⟨n, m, hn, hm, _, _, hdivision⟩ := decimal_division .utc (a := below) (b := .ofNat 60) rfl
    (by decide +kernel) (Or.inl rfl) (by rw [hsixty]; norm_num) hquotient hrest
  obtain rfl := Option.some.inj hn
  obtain rfl := Option.some.inj hm
  refine ⟨hquotient, hrest, hdivision, hreaches, ?_, ?_⟩
  · intro hexact
    have hstays := hdivision.quotient_exact
    rw [hsixty] at hstays
    exact hstays.mp hexact hreaches
  · linarith

end XPathValues.AtomicValue
