import Mathlib.Tactic
import XPathValues.Proofs.Number.DecimalQuotient
import XPathValues.Proofs.Value.CastSoundness
import XPathValues.Proofs.Value.ExactOrder

/-!
# Casts between exact numbers

Integers, decimals and truth values stand for exact numbers. A cast from one of their types to
another converts the number as the target asks: an integer drops the fraction, a truth value tells
whether the number is zero, and a decimal keeps it. Two things can go wrong. An integer can be too
large for a decimal, which ends below `2 ^ 96`, and the whole number can lie outside the range of
the integer type.
-/

namespace XPathValues

open Rounding

namespace AtomicKind

def isExact : AtomicKind → Bool
  | integer _ | decimal | boolean => true
  | _ => false

/-- What is left of a number in a value of the exact type. -/
def converted (target : AtomicKind) (q : ℚ) : ℚ :=
  match target with
  | integer _ => towardZero q
  | boolean => if q = 0 then 0 else 1
  | _ => q

end AtomicKind

namespace AtomicValue

variable {v w : AtomicValue} {target : AtomicKind} {q : ℚ} {bindings : Bindings}

/-- The number of an exact value, where the two truths count as one and zero. -/
def exactCastNumber? : AtomicValue → Option ℚ
  | boolean b => some (if b then 1 else 0)
  | v => v.exactNumber?

/-- An integer is cast to a decimal, and it is too large for one. -/
def ExceedsDecimal (v : AtomicValue) (target : AtomicKind) : Prop :=
  target = .decimal ∧ ∃ n, v.asInteger? = some n ∧ 2 ^ 96 ≤ |n|

/-- A number is cast to an integer type, and without its fraction it is outside the range. -/
def LeavesRange (q : ℚ) (target : AtomicKind) : Prop :=
  ∃ k, target = .integer k ∧ k.admits (towardZero q) = false

/-- The outcomes of a cast of an exact value to an exact type, by the number of the value. -/
inductive CastsAs (q : ℚ) : AtomicKind → Except Error AtomicValue → Prop
  | truth (b : Bool) (h : b = true ↔ q ≠ 0) : CastsAs q .boolean (.ok (boolean b))
  | decimal (d : Decimal) (h : d.toRat = q) : CastsAs q .decimal (.ok (decimal d))
  | tooLarge (n : ℤ) (hq : q = n) (h : 2 ^ 96 ≤ |n|) :
      CastsAs q .decimal (.error (.tooLargeForDecimal (toString n)))
  | integer {k : IntegerKind} (i : Integer) (hkind : i.kind = k) (h : i.value = towardZero q) :
      CastsAs q (.integer k) (.ok (integer i))
  | outOfRange (k : IntegerKind) (h : k.admits (towardZero q) = false) :
      CastsAs q (.integer k) (.error (.outOfRange k (towardZero q)))

/-! ## Every such cast has one of the outcomes -/

theorem castsAs_ofStored {i : Integer} (h : i.value = towardZero q) (k : IntegerKind) :
    CastsAs q (.integer k) ((Integer.ofStored k i).map integer) := by
  cases hadmits : k.admits i.value with
  | true =>
    have hstored : Integer.ofStored k i = .ok ⟨k, i.value, i.stored, hadmits⟩ :=
      Integer.ofStored_eq_ok_iff.mpr ⟨rfl, rfl⟩
    rw [hstored]
    exact .integer _ rfl h
  | false =>
    have hrelabel : i.relabel? k = none := dif_neg (by simp [hadmits])
    have hstored : Integer.ofStored k i = .error (.outOfRange k i.value) := by
      simp only [Integer.ofStored, hrelabel]
    rw [hstored, h]
    exact .outOfRange k (h ▸ hadmits)

theorem castsAs_decimal_of_int (n : ℤ) :
    CastsAs n .decimal ((Numeric.toDecimal (.integer n)).map decimal) := by
  cases hn : Decimal.ofInt? n with
  | none =>
    simp only [Numeric.toDecimal, hn]
    exact .tooLarge n rfl (two_pow_le_abs (Decimal.ofInt?_eq_none_iff.mp hn))
  | some d =>
    simp only [Numeric.toDecimal, hn]
    exact .decimal d (Decimal.toRat_ofInt? hn)

theorem castsAs_castNumber_int {n : ℤ} {source : AtomicKind} (hstored : Integer.Stored n)
    (htarget : target.isExact = true) : CastsAs n target (castNumber (.integer n) source target) := by
  cases target <;> cases htarget
  case boolean => exact .truth (n != 0) (by simp)
  case decimal => exact castsAs_decimal_of_int n
  case integer k =>
    have hinteger : (Numeric.integer n).toInteger (.integer k) = .ok (.plain n hstored) := by
      simp only [Numeric.toInteger, Integer.plain?_eq_some hstored]
    rw [castNumber, hinteger]
    exact castsAs_ofStored (towardZero_intCast n).symm k

theorem castsAs_castNumber_decimal (d : Decimal) {source : AtomicKind}
    (htarget : target.isExact = true) :
    CastsAs d.toRat target (castNumber (.decimal d) source target) := by
  cases target <;> cases htarget
  case boolean => exact .truth (!d.isZero) (by simp [Decimal.isZero_eq_false_iff])
  case decimal => exact .decimal d rfl
  case integer k =>
    rw [castNumber]
    exact castsAs_ofStored d.toInt_eq_towardZero k

theorem cast_of_castNumber {x : Numeric} (hrule : castRule v.kind target = .numeric)
    (hx : v.asCastNumber? = some x) : v.cast target bindings = castNumber x v.kind target := by
  obtain ⟨y, hy, hcast⟩ := cast_of_numeric bindings hrule
  rw [hcast, Option.some.inj (hy.symm.trans hx)]

theorem castsAs_cast (hv : v.exactCastNumber? = some q) (htarget : target.isExact = true)
    (bindings : Bindings) : CastsAs q target (v.cast target bindings) := by
  cases v <;> cases hv
  case boolean b =>
    have hstored : Integer.Stored (if b then 1 else 0) := by cases b <;> decide
    have hnumber : (if b then 1 else 0 : ℚ) = (if b then 1 else 0 : ℤ) := by cases b <;> rfl
    rw [hnumber]
    cases target <;> cases htarget
    case boolean =>
      rw [cast_of_identity rfl]
      exact .truth b (by cases b <;> simp)
    case decimal | integer =>
      rw [cast_of_castNumber rfl rfl]
      exact castsAs_castNumber_int hstored rfl
  case integer i =>
    cases target <;> cases htarget
    case integer k =>
      have hrule : castRule (kind (integer i)) (.integer k) = .identity := by
        simp [castRule_eq, kind, AtomicKind.isInteger]
      rw [cast_of_identity hrule, restrict_integer]
      exact castsAs_ofStored (towardZero_intCast i.value).symm k
    case decimal | boolean =>
      rw [cast_of_castNumber rfl rfl]
      exact castsAs_castNumber_int i.stored rfl
  case decimal d =>
    cases target <;> cases htarget
    case decimal =>
      rw [cast_of_identity rfl]
      exact .decimal d rfl
    case boolean | integer =>
      rw [cast_of_castNumber rfl rfl]
      exact castsAs_castNumber_decimal d rfl

/-! ## What the outcomes say -/

namespace CastsAs

variable {outcome : Except Error AtomicValue} {e : Error}

theorem number_eq (h : CastsAs q target (.ok w)) :
    w.kind = target ∧ w.exactCastNumber? = some (target.converted q) := by
  cases h with
  | truth b hb =>
    refine ⟨rfl, congrArg some ?_⟩
    by_cases hq : q = 0
    · simp [AtomicKind.converted, hb, hq]
    · simp [AtomicKind.converted, hb, hq]
  | decimal d hd => exact ⟨rfl, congrArg some hd⟩
  | integer i hkind hi =>
    exact ⟨congrArg AtomicKind.integer hkind, congrArg some (congrArg Int.cast hi)⟩

theorem code_eq (h : CastsAs q target (.error e)) :
    e.code = .FOCA0001 ∨ e.code = .FORG0001 ∧ e.category = .facet := by
  cases h with
  | tooLarge => exact Or.inl rfl
  | outOfRange => exact Or.inr ⟨rfl, rfl⟩

theorem tooLarge_iff (h : CastsAs q target outcome) :
    (∃ e, outcome = .error e ∧ e.code = .FOCA0001) ↔
      target = .decimal ∧ ∃ n : ℤ, q = n ∧ 2 ^ 96 ≤ |n| := by
  cases h with
  | tooLarge n hq hn => exact iff_of_true ⟨_, rfl, rfl⟩ ⟨rfl, n, hq, hn⟩
  | decimal d hd =>
    refine iff_of_false (by rintro ⟨_, ⟨⟩, _⟩) ?_
    rintro ⟨_, n, hq, hn⟩
    -- A decimal has the number, so it is not that large.
    have hsmall := d.abs_toRat_lt
    rw [hd, hq, ← Int.cast_abs] at hsmall
    exact absurd hn (not_le.mpr (mod_cast hsmall))
  | truth => exact iff_of_false (by rintro ⟨_, ⟨⟩, _⟩) (by rintro ⟨⟨⟩, _⟩)
  | integer => exact iff_of_false (by rintro ⟨_, ⟨⟩, _⟩) (by rintro ⟨⟨⟩, _⟩)
  | outOfRange => exact iff_of_false (by rintro ⟨_, ⟨⟩, ⟨⟩⟩) (by rintro ⟨⟨⟩, _⟩)

theorem outOfRange_iff (h : CastsAs q target outcome) :
    FailsWith outcome .FORG0001 .facet ↔ LeavesRange q target := by
  cases h with
  | outOfRange k hk => exact iff_of_true ⟨_, rfl, rfl, rfl⟩ ⟨k, rfl, hk⟩
  | integer i hkind hi =>
    refine iff_of_false (by rintro ⟨_, ⟨⟩, _⟩) ?_
    rintro ⟨_, ⟨⟩, hk⟩
    rw [← hi, ← hkind, i.admitted] at hk
    cases hk
  | tooLarge => exact iff_of_false (by rintro ⟨_, ⟨⟩, ⟨⟩, _⟩) (by rintro ⟨_, ⟨⟩, _⟩)
  | truth | decimal => exact iff_of_false (by rintro ⟨_, ⟨⟩, _⟩) (by rintro ⟨_, ⟨⟩, _⟩)

theorem exists_ok_iff (h : CastsAs q target outcome) :
    (∃ w, outcome = .ok w) ↔
      ¬ (∃ e, outcome = .error e ∧ e.code = .FOCA0001) ∧ ¬ FailsWith outcome .FORG0001 .facet := by
  cases houtcome : outcome with
  | ok w => exact iff_of_true ⟨w, rfl⟩ ⟨by rintro ⟨_, ⟨⟩, _⟩, by rintro ⟨_, ⟨⟩, _⟩⟩
  | error e =>
    refine iff_of_false (by rintro ⟨_, ⟨⟩⟩) fun hnone => ?_
    rcases (houtcome ▸ h).code_eq with hcode | ⟨hcode, hcategory⟩
    · exact hnone.1 ⟨e, rfl, hcode⟩
    · exact hnone.2 ⟨e, rfl, hcode, hcategory⟩

theorem eq_integer {i : Integer} (h : CastsAs i.value (.integer i.kind) outcome) :
    outcome = .ok (AtomicValue.integer i) := by
  cases h with
  | integer j hkind hj =>
    rw [towardZero_intCast] at hj
    cases i
    cases j
    cases hkind
    cases hj
    rfl
  | outOfRange k hk =>
    rw [towardZero_intCast, i.admitted] at hk
    cases hk

end CastsAs

/-- Of the exact values only integers are as large as `2 ^ 96`. -/
theorem exists_large_iff (hv : v.exactCastNumber? = some q) :
    (∃ n : ℤ, q = n ∧ 2 ^ 96 ≤ |n|) ↔ ∃ n, v.asInteger? = some n ∧ 2 ^ 96 ≤ |n| := by
  constructor
  · rintro ⟨n, rfl, hn⟩
    have hlarge : (2 : ℚ) ^ 96 ≤ |(n : ℚ)| := by
      rw [← Int.cast_abs]
      exact mod_cast hn
    cases v
    case boolean b =>
      have hnumber : (if b then 1 else 0 : ℚ) = n := Option.some.inj hv
      rw [← hnumber] at hlarge
      cases b <;> norm_num at hlarge
    case integer i =>
      have hnumber : (i.value : ℚ) = n := Option.some.inj hv
      exact ⟨n, congrArg some (Int.cast_inj.mp hnumber), hn⟩
    case decimal d =>
      have hnumber : d.toRat = n := Option.some.inj hv
      exact absurd (hnumber ▸ d.abs_toRat_lt) (not_lt.mpr hlarge)
    all_goals cases hv
  · rintro ⟨n, hinteger, hn⟩
    obtain ⟨i, rfl, rfl⟩ := eq_integer_of_asInteger? hinteger
    exact ⟨i.value, (Option.some.inj hv).symm, hn⟩

theorem cast_decimal_cast {i : Integer} (h : (integer i).cast .decimal bindings = .ok w) :
    w.cast (.integer i.kind) bindings = .ok (integer i) := by
  have hdecimal := (castsAs_cast (v := integer i) rfl rfl bindings : CastsAs _ .decimal _)
  rw [h] at hdecimal
  exact (castsAs_cast hdecimal.number_eq.2 rfl bindings).eq_integer

/-- A cast between the types of exact numbers gives the number as the target type has it. It fails
for an integer that is too large for a decimal, for a whole number that is outside the range of the
integer type, and for no other reason. An integer that has become a decimal comes back unchanged. -/
theorem cast_exactNumber (hv : v.exactCastNumber? = some q) (htarget : target.isExact = true)
    (bindings : Bindings) :
    ((∃ w, v.cast target bindings = .ok w) ↔
        ¬ v.ExceedsDecimal target ∧ ¬ LeavesRange q target) ∧
      (∀ w, v.cast target bindings = .ok w →
        w.kind = target ∧ w.exactCastNumber? = some (target.converted q)) ∧
      ((∃ e, v.cast target bindings = .error e ∧ e.code = .FOCA0001) ↔ v.ExceedsDecimal target) ∧
      (FailsWith (v.cast target bindings) .FORG0001 .facet ↔ LeavesRange q target) ∧
      (∀ e, v.cast target bindings = .error e →
        e.code = .FOCA0001 ∨ e.code = .FORG0001 ∧ e.category = .facet) ∧
      ∀ i w, v = integer i → v.cast .decimal bindings = .ok w →
        w.cast (.integer i.kind) bindings = .ok v := by
  have hcast := castsAs_cast hv htarget bindings
  have hlarge : (∃ e, v.cast target bindings = .error e ∧ e.code = .FOCA0001) ↔
      v.ExceedsDecimal target := by
    rw [hcast.tooLarge_iff, exists_large_iff hv]
    rfl
  refine ⟨?_, fun w hw => (hw ▸ hcast).number_eq, hlarge, hcast.outOfRange_iff,
    fun e he => (he ▸ hcast).code_eq, ?_⟩
  · rw [← hlarge, ← hcast.outOfRange_iff]
    exact hcast.exists_ok_iff
  · rintro i w rfl hw
    exact cast_decimal_cast hw

/-- A decimal above the greatest byte is cut to it, the next whole number is outside the range, and
an integer can be too large for a decimal. -/
theorem cast_exactNumber_byte :
    let most : AtomicValue := decimal ⟨false, 1279, 1, by decide, by decide⟩
    let more : AtomicValue := decimal ⟨false, 128, 0, by decide, by decide⟩
    let large : AtomicValue := integer ⟨.integer, 2 ^ 96, by decide, rfl⟩
    (∃ w, most.cast (.integer .byte) .empty = .ok w ∧ w.kind = .integer .byte ∧
        w.exactCastNumber? = some 127) ∧
      FailsWith (more.cast (.integer .byte) .empty) .FORG0001 .facet ∧
      ∃ e, large.cast .decimal .empty = .error e ∧ e.code = .FOCA0001 := by
  intro most more large
  obtain ⟨hexists, hnumber, _⟩ := cast_exactNumber (v := most) (q := 1279 / 10)
    (by decide +kernel) (rfl : (AtomicKind.integer .byte).isExact = true) .empty
  obtain ⟨_, _, _, hrange, _⟩ := cast_exactNumber (v := more) (q := 128) (by decide +kernel)
    (rfl : (AtomicKind.integer .byte).isExact = true) .empty
  obtain ⟨_, _, hlarge, _⟩ := cast_exactNumber (v := large) (q := 2 ^ 96) (by decide +kernel)
    (rfl : AtomicKind.decimal.isExact = true) .empty
  refine ⟨?_, hrange.mpr ⟨.byte, rfl, by decide +kernel⟩,
    hlarge.mpr ⟨rfl, 2 ^ 96, rfl, by decide⟩⟩
  have hwithin : ¬ LeavesRange (1279 / 10) (.integer .byte) := by
    rintro ⟨k, ⟨⟩, hk⟩
    have hadmits : IntegerKind.byte.admits (towardZero (1279 / 10)) = true := by decide +kernel
    cases hadmits.symm.trans hk
  obtain ⟨w, hw⟩ := hexists.mpr ⟨by rintro ⟨⟨⟩, _⟩, hwithin⟩
  have hconverted : (AtomicKind.integer .byte).converted (1279 / 10) = 127 := by decide +kernel
  exact ⟨w, hw, hconverted ▸ hnumber w hw⟩

end AtomicValue

end XPathValues
