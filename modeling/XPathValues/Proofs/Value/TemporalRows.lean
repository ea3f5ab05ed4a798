import XPathValues.Arithmetic

/-!
# The rows of temporal arithmetic

The table of operators on durations and calendar values lists a row for each pair of types, and for
both orders of the operands where it allows them. The rows fall into families: durations that are
added, values that are moved, distances, scales and ratios. For each operator the table is one
family after the other, and a family that holds in both orders is there twice.
-/

namespace XPathValues.AtomicValue

/-- A duration times a number, or nothing if the operands are no such pair. -/
def scale? (v : AtomicValue) (x : Numeric) : Option (Except Error AtomicValue) :=
  match v with
  | yearMonthDuration d =>
    some (factor x >>= fun f => (d.multiply f).map yearMonthDuration)
  | dayTimeDuration d => some (factor x >>= fun f => (d.multiply f).map dayTimeDuration)
  | _ => none

def shrink? (v : AtomicValue) (x : Numeric) : Option (Except Error AtomicValue) :=
  match v with
  | yearMonthDuration d => some (factor x >>= fun f => (d.divide f).map yearMonthDuration)
  | dayTimeDuration d => some (factor x >>= fun f => (d.divide f).map dayTimeDuration)
  | _ => none

/-- A calendar value moved by a duration. -/
def move? : AtomicValue → AtomicValue → Option (Except Error AtomicValue)
  | dateTime x, yearMonthDuration d => some ((x.addMonths d).map dateTime)
  | dateTime x, dayTimeDuration d => some ((x.addSeconds d).map dateTime)
  | date x, yearMonthDuration d => some ((x.addMonths d).map date)
  | date x, dayTimeDuration d => some ((x.addSeconds d).map date)
  | time x, dayTimeDuration d => some ((x.addSeconds d).map time)
  | _, _ => none

def addDurations? : AtomicValue → AtomicValue → Option (Except Error AtomicValue)
  | yearMonthDuration a, yearMonthDuration b => some ((a.add b).map yearMonthDuration)
  | dayTimeDuration a, dayTimeDuration b => some ((a.add b).map dayTimeDuration)
  | _, _ => none

/-- The distance of two calendar values of one type. -/
def difference? (implicitZone : Timezone) :
    AtomicValue → AtomicValue → Option (Except Error AtomicValue)
  | dateTime a, dateTime b => some ((a.difference b implicitZone).map dayTimeDuration)
  | date a, date b => some ((a.difference b implicitZone).map dayTimeDuration)
  | time a, time b => some ((a.difference b implicitZone).map dayTimeDuration)
  | _, _ => none

def ratio? : AtomicValue → AtomicValue → Option (Except Error AtomicValue)
  | yearMonthDuration a, yearMonthDuration b => some ((a.ratio b).map decimal)
  | dayTimeDuration a, dayTimeDuration b => some ((a.ratio b).map decimal)
  | _, _ => none

/-- Add the negated duration to a duration or a calendar value that it can be added to. -/
def subtractDuration? (a b : AtomicValue) : Option (Except Error AtomicValue) :=
  match a, b with
  | yearMonthDuration x, yearMonthDuration y =>
    some (y.neg >>= fun z => (x.add z).map yearMonthDuration)
  | dayTimeDuration x, dayTimeDuration y => some ((x.add y.neg).map dayTimeDuration)
  | dateTime x, yearMonthDuration d => some (d.neg >>= fun e => (x.addMonths e).map dateTime)
  | dateTime x, dayTimeDuration d => some ((x.addSeconds d.neg).map dateTime)
  | date x, yearMonthDuration d => some (d.neg >>= fun e => (x.addMonths e).map date)
  | date x, dayTimeDuration d => some ((x.addSeconds d.neg).map date)
  | time x, dayTimeDuration d => some ((x.addSeconds d.neg).map time)
  | _, _ => none

theorem temporalArithmetic?_eq (a : AtomicValue) (op : ArithmeticOperator) (b : AtomicValue)
    (implicitZone : Timezone) :
    temporalArithmetic? a op b implicitZone =
      match op with
      | .add => ((addDurations? a b).or (move? a b)).or (move? b a)
      | .subtract => (subtractDuration? a b).or (difference? implicitZone a b)
      | .multiply => (b.asNumeric?.bind a.scale?).or (a.asNumeric?.bind b.scale?)
      | .divide => (b.asNumeric?.bind a.shrink?).or (ratio? a b)
      | .integerDivide | .modulo => none := by
  cases op <;> cases a <;> cases b <;> rfl

end XPathValues.AtomicValue
