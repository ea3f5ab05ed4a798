import Mathlib.Tactic
import XPathValues.Proofs.Value.ResultKind

/-!
# Operands in either order

Sums and products do not depend on the order of their operands, be they numbers, texts that are read
as numbers, durations or calendar values. Two operands that fail do so in either order, with one
code; which of them the message is about may change.
-/

namespace XPathValues

/-- The same value, or two failures with the same code. -/
inductive SameOutcome {α : Type} : Except Error α → Except Error α → Prop
  | value (x : α) : SameOutcome (.ok x) (.ok x)
  | failure {e e' : Error} (h : e.code = e'.code) : SameOutcome (.error e) (.error e')

theorem SameOutcome.refl {α : Type} (x : Except Error α) : SameOutcome x x := by
  cases x with
  | error e => exact .failure rfl
  | ok y => exact .value y

/-- The operators that take their operands in either order. -/
inductive ArithmeticOperator.IsCommutative : ArithmeticOperator → Prop
  | add : IsCommutative .add
  | multiply : IsCommutative .multiply

theorem or_comm_of_disjoint {α : Type} {x y : Option α} (h : x = none ∨ y = none) :
    x.or y = y.or x := by
  rcases h with rfl | rfl
  · rw [Option.none_or, Option.or_none]
  · rw [Option.none_or, Option.or_none]

namespace AtomicValue

variable {op : ArithmeticOperator} {a b v w : AtomicValue} {zone : Timezone} {e : Error}

/-! ## Numbers -/

theorem numericArithmetic_swap (hop : op.IsCommutative) (pair : Numeric.Pair) :
    numericArithmetic op pair = numericArithmetic op pair.swap := by
  cases hop with
  | add =>
    cases pair with
    | integers m n =>
      exact congrArg (fun k => orError .numericOverflow (plainInteger? k)) (Int.add_comm m n)
    | decimals c d =>
      exact congrArg (fun o => orError .numericOverflow (o.map decimal)) (c.add?_comm d)
    | floats x y => exact congrArg (fun z => Except.ok (float z)) (x.add_comm y)
    | doubles x y => exact congrArg (fun z => Except.ok (double z)) (x.add_comm y)
  | multiply =>
    cases pair with
    | integers m n =>
      exact congrArg (fun k => orError .numericOverflow (plainInteger? k)) (Int.mul_comm m n)
    | decimals c d =>
      exact congrArg (fun o => orError .numericOverflow (o.map decimal)) (c.mul?_comm d)
    | floats x y => exact congrArg (fun z => Except.ok (float z)) (x.mul_comm y)
    | doubles x y => exact congrArg (fun z => Except.ok (double z)) (x.mul_comm y)

/-! ## Durations and calendar values -/

theorem addDurations?_comm (a b : AtomicValue) : addDurations? a b = addDurations? b a := by
  cases a with
  | yearMonthDuration c =>
    cases b with
    | yearMonthDuration d =>
      have hmonths : c.add d = d.add c := by
        unfold YearMonthDuration.add YearMonthDuration.add?
        rw [Int.add_comm]
      exact congrArg (fun sum => some (sum.map yearMonthDuration)) hmonths
    | _ => rfl
  | dayTimeDuration c =>
    cases b with
    | dayTimeDuration d =>
      have hseconds : c.add d = d.add c := by
        unfold DayTimeDuration.add DayTimeDuration.add?
        rw [Decimal.add?_comm]
      exact congrArg (fun sum => some (sum.map dayTimeDuration)) hseconds
    | _ => rfl
  | _ => cases b <;> rfl

theorem move?_disjoint (a b : AtomicValue) : move? a b = none ∨ move? b a = none := by
  cases a with
  | dateTime x | date x | time x => cases b <;> first | exact Or.inl rfl | exact Or.inr rfl
  | _ => exact Or.inl rfl

theorem scale?_disjoint (a b : AtomicValue) :
    b.asNumeric?.bind a.scale? = none ∨ a.asNumeric?.bind b.scale? = none := by
  cases a with
  | yearMonthDuration d | dayTimeDuration d => exact Or.inr rfl
  | _ =>
    left
    cases b.asNumeric? <;> rfl

theorem temporalArithmetic?_comm (hop : op.IsCommutative) (a b : AtomicValue) (zone : Timezone) :
    temporalArithmetic? a op b zone = temporalArithmetic? b op a zone := by
  rw [temporalArithmetic?_eq, temporalArithmetic?_eq]
  cases hop with
  | add =>
    dsimp only
    rw [Option.or_assoc, Option.or_assoc, addDurations?_comm a b,
      or_comm_of_disjoint (move?_disjoint a b)]
  | multiply => exact or_comm_of_disjoint (scale?_disjoint a b)

/-! ## Untyped operands -/

theorem untypedAsDouble_untypedAtomic (given : String) :
    (untypedAtomic given).untypedAsDouble =
      orInvalid .double given (BinaryFloat.read? (Text.collapse given).toList) double :=
  cast_of_parse rfl

theorem untypedAsDouble_spec (v : AtomicValue) :
    (∃ w, v.untypedAsDouble = .ok w ∧ w.isUntyped = false) ∨
      ∃ e, v.untypedAsDouble = .error e ∧ e.code = .FORG0001 := by
  cases v with
  | untypedAtomic given =>
    rw [untypedAsDouble_untypedAtomic]
    cases BinaryFloat.read? (Text.collapse given).toList with
    | some x => exact Or.inl ⟨double x, rfl, rfl⟩
    | none => exact Or.inr ⟨_, rfl, rfl⟩
  | _ => exact Or.inl ⟨_, rfl, rfl⟩

theorem arithmetic_of_untypedAsDouble (ha : a.untypedAsDouble = .ok v)
    (hb : b.untypedAsDouble = .ok w) (hv : v.isUntyped = false) (hw : w.isUntyped = false) :
    a.arithmetic op b zone = v.arithmetic op w zone := by
  unfold arithmetic
  rw [ha, hb, untypedAsDouble_of_typed hv, untypedAsDouble_of_typed hw]

theorem arithmetic_of_left_error (ha : a.untypedAsDouble = .error e) :
    a.arithmetic op b zone = .error e := by
  unfold arithmetic
  rw [ha]
  rfl

theorem arithmetic_of_right_error (ha : a.untypedAsDouble = .ok v)
    (hb : b.untypedAsDouble = .error e) : a.arithmetic op b zone = .error e := by
  unfold arithmetic
  rw [ha, hb]
  rfl

/-! ## All operands -/

theorem sameOutcome_of_typed (hop : op.IsCommutative) (ha : a.isUntyped = false)
    (hb : b.isUntyped = false) (zone : Timezone) :
    SameOutcome (a.arithmetic op b zone) (b.arithmetic op a zone) := by
  by_cases hnumbers : a.kind.isNumeric = true ∧ b.kind.isNumeric = true
  · have hnumeric := hnumbers
    simp only [← isSome_asNumeric?, Option.isSome_iff_exists] at hnumeric
    obtain ⟨⟨x, hx⟩, y, hy⟩ := hnumeric
    rw [arithmetic_of_numbers hx hy, arithmetic_of_numbers hy hx, numericArithmetic_swap hop,
      Numeric.promote_swap]
    exact .refl _
  · rw [arithmetic_of_not_numbers ha hb hnumbers,
      arithmetic_of_not_numbers hb ha (mt And.symm hnumbers), temporalArithmetic?_comm hop]
    cases temporalArithmetic? b op a zone with
    | none => exact .failure rfl
    | some outcome => exact .refl outcome

/-- Where a text is no number, the first such text is reported, in either order with one code. -/
theorem sameOutcome_arithmetic (hop : op.IsCommutative) (a b : AtomicValue) (zone : Timezone) :
    SameOutcome (a.arithmetic op b zone) (b.arithmetic op a zone) := by
  rcases a.untypedAsDouble_spec with ⟨v, ha, hv⟩ | ⟨e, ha, he⟩
  · rcases b.untypedAsDouble_spec with ⟨w, hb, hw⟩ | ⟨e', hb, he'⟩
    · rw [arithmetic_of_untypedAsDouble ha hb hv hw, arithmetic_of_untypedAsDouble hb ha hw hv]
      exact sameOutcome_of_typed hop hv hw zone
    · rw [arithmetic_of_right_error ha hb, arithmetic_of_left_error hb]
      exact .failure rfl
  · rcases b.untypedAsDouble_spec with ⟨w, hb, hw⟩ | ⟨e', hb, he'⟩
    · rw [arithmetic_of_left_error ha, arithmetic_of_right_error hb ha]
      exact .failure rfl
    · rw [arithmetic_of_left_error ha, arithmetic_of_left_error hb]
      exact .failure (he.trans he'.symm)

/-- Sums and products of any two values, in any implicit zone, do not depend on the order of their
operands. There is one NaN in each format, so two results that are NaN are the same value, too. -/
theorem arithmetic_comm (a b : AtomicValue) (zone : Timezone) :
    SameOutcome (a.arithmetic .add b zone) (b.arithmetic .add a zone) ∧
      SameOutcome (a.arithmetic .multiply b zone) (b.arithmetic .multiply a zone) :=
  ⟨sameOutcome_arithmetic .add a b zone, sameOutcome_arithmetic .multiply a b zone⟩

end AtomicValue

end XPathValues
