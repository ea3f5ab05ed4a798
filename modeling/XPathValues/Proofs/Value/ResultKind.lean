import Mathlib.Tactic
import XPathValues.Proofs.Number.DecimalValue
import XPathValues.Proofs.Value.Failure
import XPathValues.Proofs.Value.TemporalRows

/-!
# The types of arithmetic results

Whether an operator is defined, and of which type its result is, follows from the types of the
operands. Where the operator is defined, only a value can make it fail. One value decides more than
that: an integer that is too large for a decimal meets a decimal as a double.
-/

namespace XPathValues

/-! ## Steps that fail in values -/

/-- The step fails only for a reason that lies in a value. -/
def FailsInValue {α : Type} (x : Except Error α) : Prop :=
  ∀ e, x = .error e → e.IsOfValue

section Steps

variable {α β : Type} {x : Except Error α} {e : Error}

theorem failsInValue_ok (y : α) : FailsInValue (.ok y) := fun _ h => by cases h

theorem failsInValue_error (he : e.IsOfValue) : FailsInValue (.error e : Except Error α) :=
  fun _ h => Except.error.inj h ▸ he

theorem failsInValue_orError {o : Option α} (he : e.IsOfValue) : FailsInValue (orError e o) :=
  fun _ => isOfValue_of_orError he

theorem FailsInValue.map (h : FailsInValue x) (f : α → β) : FailsInValue (x.map f) :=
  fun _ => isOfValue_of_map h

theorem FailsInValue.bind (h : FailsInValue x) {f : α → Except Error β}
    (hf : ∀ y, FailsInValue (f y)) : FailsInValue (x >>= f) := by
  intro e he
  rcases eq_error_of_bind he with hx | ⟨y, _, hy⟩
  · exact h e hx
  · exact hf y e hy

end Steps

namespace YearMonthDuration

theorem failsInValue_add (a b : YearMonthDuration) : FailsInValue (a.add b) :=
  failsInValue_orError rfl

theorem failsInValue_neg (d : YearMonthDuration) : FailsInValue d.neg :=
  failsInValue_orError rfl

theorem failsInValue_multiply (d : YearMonthDuration) (factor : Double) :
    FailsInValue (d.multiply factor) :=
  failsInValue_orError rfl

theorem failsInValue_divide (d : YearMonthDuration) (divisor : Double) :
    FailsInValue (d.divide divisor) := by
  unfold divide
  split
  · exact failsInValue_error rfl
  · exact failsInValue_orError rfl

theorem failsInValue_ratio (a b : YearMonthDuration) : FailsInValue (a.ratio b) := by
  unfold ratio
  split
  · exact failsInValue_error rfl
  · split
    · exact failsInValue_orError rfl
    · exact failsInValue_error rfl

end YearMonthDuration

namespace DayTimeDuration

theorem failsInValue_add (a b : DayTimeDuration) : FailsInValue (a.add b) :=
  failsInValue_orError rfl

theorem failsInValue_multiply (d : DayTimeDuration) (factor : Double) :
    FailsInValue (d.multiply factor) :=
  failsInValue_orError rfl

theorem failsInValue_divide (d : DayTimeDuration) (divisor : Double) :
    FailsInValue (d.divide divisor) := by
  unfold divide
  split
  · exact failsInValue_error rfl
  · split
    · exact failsInValue_ok _
    · exact failsInValue_orError rfl

theorem failsInValue_ratio (a b : DayTimeDuration) : FailsInValue (a.ratio b) := by
  unfold ratio
  split
  · exact failsInValue_error rfl
  · exact failsInValue_orError rfl

end DayTimeDuration

theorem DateTime.failsInValue_addMonths (x : DateTime) (d : YearMonthDuration) :
    FailsInValue (x.addMonths d) :=
  (failsInValue_orError (e := .dateTimeOutOfRange) rfl).bind fun _ =>
    (failsInValue_orError (e := .dateTimeOutOfRange) rfl).bind fun _ => failsInValue_ok _

theorem DateTime.failsInValue_addSeconds (x : DateTime) (d : DayTimeDuration) :
    FailsInValue (x.addSeconds d) := by
  unfold addSeconds
  split
  · exact failsInValue_ok _
  · exact failsInValue_error rfl

theorem Date.failsInValue_addMonths (x : Date) (d : YearMonthDuration) :
    FailsInValue (x.addMonths d) :=
  (DateTime.failsInValue_addMonths x.startOfDay d).map _

theorem Date.failsInValue_addSeconds (x : Date) (d : DayTimeDuration) :
    FailsInValue (x.addSeconds d) :=
  (DateTime.failsInValue_addSeconds x.startOfDay d).map _

theorem Time.failsInValue_addSeconds (x : Time) (d : DayTimeDuration) :
    FailsInValue (x.addSeconds d) := by
  unfold addSeconds
  split
  · exact failsInValue_ok _
  · exact failsInValue_error rfl

namespace Zoned

variable {α : Type} [CalendarPart α]

theorem failsInValue_instant (x : Zoned α) (zone : Timezone) : FailsInValue (x.instant zone) := by
  unfold instant
  split
  · exact failsInValue_ok _
  · exact failsInValue_error rfl

theorem failsInValue_difference (a b : Zoned α) (zone : Timezone) :
    FailsInValue (a.difference b zone) :=
  (failsInValue_instant a zone).bind fun _ =>
    (failsInValue_instant b zone).bind fun _ => failsInValue_ok _

end Zoned

theorem AtomicValue.failsInValue_factor (x : Numeric) : FailsInValue (factor x) := by
  unfold factor
  split
  · exact failsInValue_error rfl
  · exact failsInValue_ok _

/-! ## The types of results -/

namespace AtomicKind

/-- The type in which numbers of two types meet. -/
def promoted (a b : AtomicKind) : AtomicKind :=
  if a = double ∨ b = double then double
  else if a = float ∨ b = float then float
  else if a = decimal ∨ b = decimal then decimal
  else .integer .integer

/-- The two types of durations that have an order. -/
def isOrderedDuration : AtomicKind → Bool
  | yearMonthDuration | dayTimeDuration => true
  | _ => false

/-- A calendar type that durations of the other type move. -/
def isMovedBy : AtomicKind → AtomicKind → Bool
  | dateTime, d | date, d => d.isOrderedDuration
  | time, dayTimeDuration => true
  | _, _ => false

/-- Two values of the calendar type have a distance. -/
def hasDistance : AtomicKind → Bool
  | dateTime | date | time => true
  | _ => false

def sum? (a b : AtomicKind) : Option AtomicKind :=
  if a.isOrderedDuration ∧ a = b then some a else none

def moved? (a b : AtomicKind) : Option AtomicKind :=
  if a.isMovedBy b then some a else none

def distance? (a b : AtomicKind) : Option AtomicKind :=
  if a.hasDistance ∧ a = b then some .dayTimeDuration else none

def scaled? (a b : AtomicKind) : Option AtomicKind :=
  if a.isOrderedDuration ∧ b.isNumeric then some a else none

def ratio? (a b : AtomicKind) : Option AtomicKind :=
  if a.isOrderedDuration ∧ a = b then some .decimal else none

end AtomicKind

namespace ArithmeticOperator

open AtomicKind

def ofNumbers (op : ArithmeticOperator) (common : AtomicKind) : AtomicKind :=
  match op with
  | integerDivide => .integer .integer
  | divide => if common.isInteger then .decimal else common
  | _ => common

/-- The type of the result where durations or calendar values take part. -/
def ofTemporal? (op : ArithmeticOperator) (a b : AtomicKind) : Option AtomicKind :=
  match op with
  | add => ((sum? a b).or (moved? a b)).or (moved? b a)
  | subtract => ((sum? a b).or (moved? a b)).or (distance? a b)
  | multiply => (scaled? a b).or (scaled? b a)
  | divide => (scaled? a b).or (AtomicKind.ratio? a b)
  | integerDivide | modulo => none

/-- The type of the result for operands of two types, if the operator is defined for them. -/
def result? (op : ArithmeticOperator) (a b : AtomicKind) : Option AtomicKind :=
  if a.isNumeric ∧ b.isNumeric then some (op.ofNumbers (promoted a b)) else op.ofTemporal? a b

end ArithmeticOperator

/-! ## Typed outcomes -/

/-- The outcome is a value of the type, or a failure that lies in a value. -/
structure TypedAs (kind : AtomicKind) (outcome : Except Error AtomicValue) : Prop where
  kind : ∀ w, outcome = .ok w → w.kind = kind
  fails : FailsInValue outcome

section Typed

variable {α : Type} {kind : AtomicKind} {x : Except Error α} {f : α → AtomicValue} {e : Error}
  {o : Option AtomicValue}

theorem typedAs_ok {v : AtomicValue} (h : v.kind = kind) : TypedAs kind (.ok v) :=
  ⟨fun _ hw => Except.ok.inj hw ▸ h, failsInValue_ok v⟩

theorem typedAs_error (he : e.IsOfValue) : TypedAs kind (.error e) :=
  ⟨fun _ h => (by cases h), failsInValue_error he⟩

theorem typedAs_orError (he : e.IsOfValue) (h : ∀ w, o = some w → w.kind = kind) :
    TypedAs kind (orError e o) :=
  ⟨fun w hw => h w (eq_some_of_orError hw), failsInValue_orError he⟩

theorem FailsInValue.typedAs_map (h : FailsInValue x) (hf : ∀ y, (f y).kind = kind) :
    TypedAs kind (x.map f) := by
  refine ⟨fun w hw => ?_, h.map f⟩
  obtain ⟨y, _, rfl⟩ := exists_of_map_eq_ok hw
  exact hf y

theorem FailsInValue.typedAs_bind (h : FailsInValue x) {g : α → Except Error AtomicValue}
    (hg : ∀ y, TypedAs kind (g y)) : TypedAs kind (x >>= g) := by
  refine ⟨fun w hw => ?_, h.bind fun y => (hg y).fails⟩
  obtain ⟨y, _, hy⟩ := exists_of_bind_eq_ok hw
  exact (hg y).kind w hy

theorem rel_or {α β : Type} {r : α → β → Prop} {a a' : Option α} {b b' : Option β}
    (h : Option.Rel r a b) (h' : Option.Rel r a' b') : Option.Rel r (a.or a') (b.or b') := by
  cases h with
  | some h => exact .some h
  | none => exact h'

end Typed

/-! ## Numbers -/

namespace AtomicValue

theorem kind_of_map_decimal {o : Option Decimal} {w : AtomicValue} (h : o.map decimal = some w) :
    w.kind = .decimal := by
  obtain ⟨d, _, rfl⟩ := Option.map_eq_some_iff.mp h
  rfl

theorem typedAs_decimal (o : Option Decimal) :
    TypedAs .decimal (orError .numericOverflow (o.map decimal)) :=
  typedAs_orError rfl fun _ => kind_of_map_decimal

theorem typedAs_plainInteger (n : Int) :
    TypedAs (.integer .integer) (orError .numericOverflow (plainInteger? n)) :=
  typedAs_orError rfl fun _ => kind_plainInteger?

theorem typedAs_bind_plainInteger {α : Type} (o : Option α) (f : α → Int) :
    TypedAs (.integer .integer)
      (orError .numericOverflow (o.bind fun x => plainInteger? (f x))) := by
  refine typedAs_orError rfl fun w hw => ?_
  obtain ⟨x, _, hx⟩ := Option.bind_eq_some_iff.mp hw
  exact kind_plainInteger? hx

theorem typedAs_integerArithmetic (x : Int) (op : ArithmeticOperator) (y : Int) :
    TypedAs (op.ofNumbers (.integer .integer)) (integerArithmetic x op y) := by
  cases op with
  | add => exact typedAs_plainInteger _
  | subtract => exact typedAs_plainInteger _
  | multiply => exact typedAs_plainInteger _
  | divide =>
    simp only [integerArithmetic]
    split
    · exact typedAs_error rfl
    · split
      · exact typedAs_decimal _
      · exact typedAs_error rfl
  | integerDivide =>
    simp only [integerArithmetic]
    split
    · exact typedAs_error rfl
    · exact typedAs_plainInteger _
  | modulo =>
    simp only [integerArithmetic]
    split
    · exact typedAs_error rfl
    · split
      · exact typedAs_plainInteger _
      · exact typedAs_error rfl

theorem typedAs_decimalArithmetic (x : Decimal) (op : ArithmeticOperator) (y : Decimal) :
    TypedAs (op.ofNumbers .decimal) (decimalArithmetic x op y) := by
  cases op with
  | add => exact typedAs_decimal _
  | subtract => exact typedAs_decimal _
  | multiply => exact typedAs_decimal _
  | divide | modulo =>
    simp only [decimalArithmetic]
    split
    · exact typedAs_error rfl
    · exact typedAs_decimal _
  | integerDivide =>
    simp only [decimalArithmetic]
    split
    · exact typedAs_error rfl
    · exact typedAs_bind_plainInteger _ _

theorem typedAs_doubleQuotient (x y : Double) :
    TypedAs (.integer .integer) (doubleQuotient x y) := by
  unfold doubleQuotient
  split
  · exact typedAs_error rfl
  · split
    · exact typedAs_error rfl
    · exact typedAs_bind_plainInteger _ id

end AtomicValue

def Numeric.Pair.kind : Pair → AtomicKind
  | integers .. => .integer .integer
  | decimals .. => .decimal
  | floats .. => .float
  | doubles .. => .double

theorem AtomicValue.typedAs_numericArithmetic (op : ArithmeticOperator) (pair : Numeric.Pair) :
    TypedAs (op.ofNumbers pair.kind) (numericArithmetic op pair) := by
  cases pair with
  | integers x y => exact typedAs_integerArithmetic x op y
  | decimals x y => exact typedAs_decimalArithmetic x op y
  | floats x y => cases op <;> first | exact typedAs_ok rfl | exact typedAs_doubleQuotient _ _
  | doubles x y => cases op <;> first | exact typedAs_ok rfl | exact typedAs_doubleQuotient _ _

namespace AtomicValue

variable {a b v : AtomicValue} {x y : Numeric} {zone : Timezone}

/-- An integer beside a decimal is too large to be one itself. -/
def outgrows : AtomicValue → AtomicValue → Bool
  | integer i, decimal _ | decimal _, integer i => decide (Decimal.maxMagnitude < i.value.natAbs)
  | _, _ => false

/-- Two numbers meet in the type that theirs promote to, unless one of them outgrows it. -/
theorem kind_promote (ha : a.asNumeric? = some x) (hb : b.asNumeric? = some y) :
    (Numeric.promote x y).kind =
      if a.outgrows b then .double else a.kind.promoted b.kind := by
  have hfits (n : Int) : (Decimal.ofInt? n).isNone = decide (Decimal.maxMagnitude < n.natAbs) := by
    rw [Bool.eq_iff_iff, Option.isNone_iff_eq_none, Decimal.ofInt?_eq_none_iff, decide_eq_true_iff]
  cases a <;> cases ha <;> cases b <;> cases hb
  case integer.refl.decimal.refl i d =>
    simp only [outgrows, ← hfits, Numeric.promote]
    cases Decimal.ofInt? i.value <;> rfl
  case decimal.refl.integer.refl d i =>
    simp only [outgrows, ← hfits, Numeric.promote]
    cases Decimal.ofInt? i.value <;> rfl
  all_goals rfl

theorem typedAs_numbers (op : ArithmeticOperator) (ha : a.asNumeric? = some x)
    (hb : b.asNumeric? = some y) :
    TypedAs (op.ofNumbers (if a.outgrows b then .double else a.kind.promoted b.kind))
      (numericArithmetic op (Numeric.promote x y)) :=
  kind_promote ha hb ▸ typedAs_numericArithmetic op _

/-! ## Durations and calendar values -/

theorem rel_addDurations? (a b : AtomicValue) :
    Option.Rel TypedAs (a.kind.sum? b.kind) (addDurations? a b) := by
  cases a with
  | yearMonthDuration d =>
    cases b with
    | yearMonthDuration e => exact .some ((d.failsInValue_add e).typedAs_map fun _ => rfl)
    | _ => exact .none
  | dayTimeDuration d =>
    cases b with
    | dayTimeDuration e => exact .some ((d.failsInValue_add e).typedAs_map fun _ => rfl)
    | _ => exact .none
  | _ => exact .none

theorem rel_move? (a b : AtomicValue) :
    Option.Rel TypedAs (a.kind.moved? b.kind) (move? a b) := by
  cases a with
  | dateTime x =>
    cases b with
    | yearMonthDuration d => exact .some ((x.failsInValue_addMonths d).typedAs_map fun _ => rfl)
    | dayTimeDuration d => exact .some ((x.failsInValue_addSeconds d).typedAs_map fun _ => rfl)
    | _ => exact .none
  | date x =>
    cases b with
    | yearMonthDuration d => exact .some ((x.failsInValue_addMonths d).typedAs_map fun _ => rfl)
    | dayTimeDuration d => exact .some ((x.failsInValue_addSeconds d).typedAs_map fun _ => rfl)
    | _ => exact .none
  | time x =>
    cases b with
    | dayTimeDuration d => exact .some ((x.failsInValue_addSeconds d).typedAs_map fun _ => rfl)
    | _ => exact .none
  | _ => exact .none

theorem rel_subtractDuration? (a b : AtomicValue) :
    Option.Rel TypedAs ((a.kind.sum? b.kind).or (a.kind.moved? b.kind)) (subtractDuration? a b) := by
  cases a with
  | yearMonthDuration d =>
    cases b with
    | yearMonthDuration e =>
      exact .some (e.failsInValue_neg.typedAs_bind fun f =>
        (d.failsInValue_add f).typedAs_map fun _ => rfl)
    | _ => exact .none
  | dayTimeDuration d =>
    cases b with
    | dayTimeDuration e => exact .some ((d.failsInValue_add e.neg).typedAs_map fun _ => rfl)
    | _ => exact .none
  | dateTime x =>
    cases b with
    | yearMonthDuration d =>
      exact .some (d.failsInValue_neg.typedAs_bind fun e =>
        (x.failsInValue_addMonths e).typedAs_map fun _ => rfl)
    | dayTimeDuration d => exact .some ((x.failsInValue_addSeconds d.neg).typedAs_map fun _ => rfl)
    | _ => exact .none
  | date x =>
    cases b with
    | yearMonthDuration d =>
      exact .some (d.failsInValue_neg.typedAs_bind fun e =>
        (x.failsInValue_addMonths e).typedAs_map fun _ => rfl)
    | dayTimeDuration d => exact .some ((x.failsInValue_addSeconds d.neg).typedAs_map fun _ => rfl)
    | _ => exact .none
  | time x =>
    cases b with
    | dayTimeDuration d => exact .some ((x.failsInValue_addSeconds d.neg).typedAs_map fun _ => rfl)
    | _ => exact .none
  | _ => exact .none

theorem rel_difference? (a b : AtomicValue) :
    Option.Rel TypedAs (a.kind.distance? b.kind) (difference? zone a b) := by
  cases a with
  | dateTime x =>
    cases b with
    | dateTime y => exact .some ((x.failsInValue_difference y zone).typedAs_map fun _ => rfl)
    | _ => exact .none
  | date x =>
    cases b with
    | date y => exact .some ((x.failsInValue_difference y zone).typedAs_map fun _ => rfl)
    | _ => exact .none
  | time x =>
    cases b with
    | time y => exact .some ((x.failsInValue_difference y zone).typedAs_map fun _ => rfl)
    | _ => exact .none
  | _ => exact .none

theorem rel_ratio? (a b : AtomicValue) :
    Option.Rel TypedAs (a.kind.ratio? b.kind) (ratio? a b) := by
  cases a with
  | yearMonthDuration d =>
    cases b with
    | yearMonthDuration e => exact .some ((d.failsInValue_ratio e).typedAs_map fun _ => rfl)
    | _ => exact .none
  | dayTimeDuration d =>
    cases b with
    | dayTimeDuration e => exact .some ((d.failsInValue_ratio e).typedAs_map fun _ => rfl)
    | _ => exact .none
  | _ => exact .none

theorem rel_bind_asNumeric? {f : Numeric → Option (Except Error AtomicValue)} (b : AtomicValue)
    (hf : ∀ y, Option.Rel TypedAs (if a.kind.isOrderedDuration then some a.kind else none) (f y)) :
    Option.Rel TypedAs (a.kind.scaled? b.kind) (b.asNumeric?.bind f) := by
  unfold AtomicKind.scaled?
  rw [← isSome_asNumeric?]
  cases b.asNumeric? with
  | none =>
    rw [if_neg fun h => Bool.false_ne_true h.2]
    exact .none
  | some y =>
    simp only [Option.isSome_some, and_true, Option.bind_some]
    exact hf y

theorem typedAs_factor {α : Type} {step : Double → Except Error α} {make : α → AtomicValue}
    {kind : AtomicKind} (y : Numeric) (hstep : ∀ f, FailsInValue (step f))
    (hmake : ∀ d, (make d).kind = kind) :
    TypedAs kind (factor y >>= fun f => (step f).map make) :=
  (failsInValue_factor y).typedAs_bind fun f => (hstep f).typedAs_map hmake

theorem rel_scale? (a : AtomicValue) (y : Numeric) :
    Option.Rel TypedAs (if a.kind.isOrderedDuration then some a.kind else none) (a.scale? y) := by
  cases a with
  | yearMonthDuration d => exact .some (typedAs_factor y d.failsInValue_multiply fun _ => rfl)
  | dayTimeDuration d => exact .some (typedAs_factor y d.failsInValue_multiply fun _ => rfl)
  | _ => exact .none

theorem rel_shrink? (a : AtomicValue) (y : Numeric) :
    Option.Rel TypedAs (if a.kind.isOrderedDuration then some a.kind else none) (a.shrink? y) := by
  cases a with
  | yearMonthDuration d => exact .some (typedAs_factor y d.failsInValue_divide fun _ => rfl)
  | dayTimeDuration d => exact .some (typedAs_factor y d.failsInValue_divide fun _ => rfl)
  | _ => exact .none

theorem rel_temporalArithmetic? (a : AtomicValue) (op : ArithmeticOperator) (b : AtomicValue)
    (zone : Timezone) :
    Option.Rel TypedAs (op.ofTemporal? a.kind b.kind) (temporalArithmetic? a op b zone) := by
  rw [temporalArithmetic?_eq]
  cases op with
  | add => exact rel_or (rel_or (rel_addDurations? a b) (rel_move? a b)) (rel_move? b a)
  | subtract => exact rel_or (rel_subtractDuration? a b) (rel_difference? a b)
  | multiply =>
    exact rel_or (rel_bind_asNumeric? b a.rel_scale?) (rel_bind_asNumeric? a b.rel_scale?)
  | divide => exact rel_or (rel_bind_asNumeric? b a.rel_shrink?) (rel_ratio? a b)
  | integerDivide => exact .none
  | modulo => exact .none

/-! ## All operands -/

theorem isUntyped_eq_kind (v : AtomicValue) : v.isUntyped = (v.kind == .untypedAtomic) := by
  cases v <;> rfl

/-- The type of the result for two values: that of their types, unless an integer outgrows it. -/
def resultKind? (a : AtomicValue) (op : ArithmeticOperator) (b : AtomicValue) :
    Option AtomicKind :=
  if a.outgrows b then some (op.ofNumbers .double) else op.result? a.kind b.kind

theorem outgrows_eq_false (h : ¬ (a.kind.isNumeric = true ∧ b.kind.isNumeric = true)) :
    a.outgrows b = false := by
  cases a <;> cases b <;> first | rfl | exact absurd ⟨rfl, rfl⟩ h

theorem untypedAsDouble_of_typed (h : v.isUntyped = false) : v.untypedAsDouble = .ok v :=
  if_neg (by simp [h])

theorem arithmetic_of_numbers {x y : Numeric} (hx : a.asNumeric? = some x)
    (hy : b.asNumeric? = some y) (op : ArithmeticOperator) (zone : Timezone) :
    a.arithmetic op b zone = numericArithmetic op (Numeric.promote x y) := by
  have ha : a.isUntyped = false := by cases a <;> first | rfl | cases hx
  have hb : b.isUntyped = false := by cases b <;> first | rfl | cases hy
  unfold arithmetic
  rw [untypedAsDouble_of_typed ha, untypedAsDouble_of_typed hb]
  simp only [bind, Except.bind, hx, hy]

theorem arithmetic_of_not_numbers (ha : a.isUntyped = false) (hb : b.isUntyped = false)
    (hnumbers : ¬ (a.kind.isNumeric = true ∧ b.kind.isNumeric = true)) (op : ArithmeticOperator)
    (zone : Timezone) :
    a.arithmetic op b zone =
      (temporalArithmetic? a op b zone).getD (.error (.undefinedOperator op a.kind b.kind)) := by
  simp only [← isSome_asNumeric?, Option.isSome_iff_exists] at hnumbers
  unfold arithmetic
  rw [untypedAsDouble_of_typed ha, untypedAsDouble_of_typed hb]
  simp only [bind, Except.bind]
  split
  · next x y hx hy => exact absurd ⟨⟨x, hx⟩, y, hy⟩ hnumbers
  · rfl

/-- Without untyped operands, arithmetic is typed where there is a type for the result, and
undefined everywhere else. -/
theorem arithmetic_cases (ha : a.isUntyped = false) (hb : b.isUntyped = false)
    (op : ArithmeticOperator) (zone : Timezone) :
    (∃ kind, resultKind? a op b = some kind ∧ TypedAs kind (a.arithmetic op b zone)) ∨
      (resultKind? a op b = none ∧
        a.arithmetic op b zone = .error (.undefinedOperator op a.kind b.kind)) := by
  unfold resultKind? ArithmeticOperator.result?
  by_cases hnumbers : a.kind.isNumeric = true ∧ b.kind.isNumeric = true
  · rw [if_pos hnumbers]
    simp only [← isSome_asNumeric?, Option.isSome_iff_exists] at hnumbers
    obtain ⟨⟨x, hx⟩, y, hy⟩ := hnumbers
    rw [arithmetic_of_numbers hx hy]
    refine Or.inl ⟨_, ?_, typedAs_numbers op hx hy⟩
    split <;> rfl
  · rw [outgrows_eq_false hnumbers, if_neg Bool.false_ne_true, if_neg hnumbers,
      arithmetic_of_not_numbers ha hb hnumbers]
    -- The table of types and the operation are defined for the same operands.
    have htemporal := rel_temporalArithmetic? a op b zone
    revert htemporal
    cases op.ofTemporal? a.kind b.kind <;> cases temporalArithmetic? a op b zone
    · exact fun _ => Or.inr ⟨rfl, rfl⟩
    · rintro ⟨⟩
    · rintro ⟨⟩
    · rintro ⟨htyped⟩
      exact Or.inl ⟨_, rfl, htyped⟩

theorem result?_of_outgrows (h : a.outgrows b = true) (op : ArithmeticOperator) :
    op.result? a.kind b.kind = some (op.ofNumbers .decimal) := by
  cases a with
  | integer i => cases b <;> first | rfl | cases h
  | decimal d => cases b <;> first | rfl | cases h
  | _ => cases h

/-- Two pairs of operands of the same types have results of one type if the promotion treats them
alike, and the integer quotient has one type anyway. -/
theorem resultKind?_eq_iff {a' b' : AtomicValue} (ha : a.kind = a'.kind) (hb : b.kind = b'.kind)
    (op : ArithmeticOperator) :
    resultKind? a op b = resultKind? a' op b' ↔
      a.outgrows b = a'.outgrows b' ∨ op = .integerDivide := by
  have hdiffer : op.ofNumbers .double = op.ofNumbers .decimal ↔ op = .integerDivide := by
    cases op <;> decide
  unfold resultKind?
  rw [← ha, ← hb]
  cases h : a.outgrows b <;> cases h' : a'.outgrows b'
  · simp
  · rw [ha, hb, result?_of_outgrows h']
    simpa [eq_comm] using hdiffer
  · rw [result?_of_outgrows h]
    simpa using hdiffer
  · simp

theorem raisesTypeError_arithmetic_iff (ha : a.isUntyped = false) (hb : b.isUntyped = false)
    (op : ArithmeticOperator) (zone : Timezone) :
    RaisesTypeError (a.arithmetic op b zone) ↔ op.result? a.kind b.kind = none := by
  have hnone : resultKind? a op b = none ↔ op.result? a.kind b.kind = none := by
    unfold resultKind?
    split
    · next houtgrows => simp [result?_of_outgrows houtgrows]
    · rfl
  rw [← hnone]
  rcases arithmetic_cases ha hb op zone with ⟨kind, hkind, htyped⟩ | ⟨hnone, herror⟩
  · refine iff_of_false ?_ (by simp [hkind])
    rintro ⟨e, he, hcode⟩
    exact (htyped.fails e he).code_ne hcode
  · exact iff_of_true ⟨_, herror, rfl⟩ hnone

theorem kind_arithmetic (ha : a.isUntyped = false) (hb : b.isUntyped = false)
    {op : ArithmeticOperator} {w : AtomicValue} (h : a.arithmetic op b zone = .ok w) :
    some w.kind = resultKind? a op b := by
  rcases arithmetic_cases ha hb op zone with ⟨kind, hkind, htyped⟩ | ⟨_, herror⟩
  · rw [hkind, htyped.kind w h]
  · cases h.symm.trans herror

/-- Arithmetic is typed by its operands. Whether an operator is defined depends on their types only,
and so does the type of the result, but an integer that is too large for a decimal beside one makes
the result a double where others make it a decimal. -/
theorem arithmetic_typed (op : ArithmeticOperator) (zone zone' : Timezone)
    {a a' b b' : AtomicValue} (hkinds : a.kind = a'.kind ∧ b.kind = b'.kind)
    (huntyped : a.isUntyped = false ∧ b.isUntyped = false) :
    (RaisesTypeError (a.arithmetic op b zone) ↔ RaisesTypeError (a'.arithmetic op b' zone')) ∧
      (RaisesTypeError (a.arithmetic op b zone) ↔ op.result? a.kind b.kind = none) ∧
      (∀ w, a.arithmetic op b zone = .ok w →
        some w.kind =
          if a.outgrows b then some (op.ofNumbers .double) else op.result? a.kind b.kind) ∧
      ∀ w w', a.arithmetic op b zone = .ok w → a'.arithmetic op b' zone' = .ok w' →
        (w.kind = w'.kind ↔ a.outgrows b = a'.outgrows b' ∨ op = .integerDivide) := by
  obtain ⟨ha, hb⟩ := hkinds
  obtain ⟨hua, hub⟩ := huntyped
  have hua' : a'.isUntyped = false := by rw [isUntyped_eq_kind] at hua ⊢; rwa [← ha]
  have hub' : b'.isUntyped = false := by rw [isUntyped_eq_kind] at hub ⊢; rwa [← hb]
  refine ⟨?_, raisesTypeError_arithmetic_iff hua hub op zone, fun w hw => kind_arithmetic hua hub hw,
    fun w w' hw hw' => ?_⟩
  · rw [raisesTypeError_arithmetic_iff hua hub, raisesTypeError_arithmetic_iff hua' hub', ha, hb]
  · rw [← resultKind?_eq_iff ha hb, ← kind_arithmetic hua hub hw, ← kind_arithmetic hua' hub' hw',
      Option.some_inj]

/-- A small and a large integer minus the same decimal. -/
theorem arithmetic_typed_difference :
    let large : AtomicValue := integer ⟨.integer, 2 ^ 96, by decide, rfl⟩
    let small : AtomicValue := integer ⟨.integer, 2, by decide, rfl⟩
    let one : AtomicValue := decimal ⟨false, 10, 1, by decide, by decide⟩
    (large.kind = small.kind ∧ one.kind = one.kind) ∧
      (large.isUntyped = false ∧ one.isUntyped = false) ∧
      ¬ RaisesTypeError (large.arithmetic .subtract one .utc) ∧
      ∀ w, large.arithmetic .subtract one .utc = .ok w → w.kind = .double := by
  intro large small one
  have hkinds : large.kind = small.kind ∧ one.kind = one.kind := ⟨rfl, rfl⟩
  have huntyped : large.isUntyped = false ∧ one.isUntyped = false := ⟨rfl, rfl⟩
  obtain ⟨_, hdefined, hkind, _⟩ := arithmetic_typed .subtract .utc .utc hkinds huntyped
  refine ⟨hkinds, huntyped, ?_, fun w hw => ?_⟩
  · rw [hdefined]
    decide
  · exact Option.some.inj (hkind w hw)

/-- The two differences are not of one type. -/
theorem arithmetic_kind_not_determined_by_kinds :
    ¬ ∀ (op : ArithmeticOperator) (zone : Timezone) (a a' b b' w w' : AtomicValue),
      a.kind = a'.kind → b.kind = b'.kind → a.isUntyped = false → b.isUntyped = false →
        a.arithmetic op b zone = .ok w → a'.arithmetic op b' zone = .ok w' → w.kind = w'.kind := by
  intro h
  let large : AtomicValue := integer ⟨.integer, 2 ^ 96, by decide, rfl⟩
  let small : AtomicValue := integer ⟨.integer, 2, by decide, rfl⟩
  let one : AtomicValue := decimal ⟨false, 10, 1, by decide, by decide⟩
  have hlarge : (large.arithmetic .subtract one .utc).map kind = .ok .double := by decide +kernel
  have hsmall : (small.arithmetic .subtract one .utc).map kind = .ok .decimal := by decide +kernel
  obtain ⟨w, hw, hdouble⟩ := exists_of_map_eq_ok hlarge
  obtain ⟨w', hw', hdecimal⟩ := exists_of_map_eq_ok hsmall
  have hkind := h .subtract .utc large small one one w w' rfl rfl rfl rfl hw hw'
  cases (hdouble.trans hkind).trans hdecimal.symm

end AtomicValue

end XPathValues
