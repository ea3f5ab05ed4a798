import XPathValues.Calendar.Seconds
import XPathValues.Cast

/-!
# Arithmetic

Numbers are promoted to a common type and combined there. Durations add and subtract within their
type, scale by numbers and divide by each other. Calendar values move by durations, and two of one
type have a distance. An untyped operand counts as a double.
-/

namespace XPathValues

/-- A result that may be out of range, with the error to report then. -/
def orError {α : Type} (error : Error) : Option α → Except Error α
  | some x => .ok x
  | none => .error error

namespace AtomicValue

/-- An integer quotient is exact; the remainder is refused where the quotient cannot be stored. -/
def integerArithmetic (x : Int) (op : ArithmeticOperator) (y : Int) : Except Error AtomicValue :=
  match op with
  | .add => orError .numericOverflow (plainInteger? (x + y))
  | .subtract => orError .numericOverflow (plainInteger? (x - y))
  | .multiply => orError .numericOverflow (plainInteger? (x * y))
  | .divide =>
    if y = 0 then .error .divisionByZero
    else
      match Decimal.ofInt? x, Decimal.ofInt? y with
      | some a, some b => orError .numericOverflow ((a.div? b).map decimal)
      | _, _ => .error .numericOverflow
  | .integerDivide =>
    if y = 0 then .error .divisionByZero
    else orError .numericOverflow (plainInteger? (x.tdiv y))
  | .modulo =>
    if y = 0 then .error .divisionByZero
    else if Integer.Stored (x.tdiv y) then orError .numericOverflow (plainInteger? (x.tmod y))
    else .error .numericOverflow

/-- The integer quotient cuts off the rounded quotient. -/
def decimalArithmetic (x : Decimal) (op : ArithmeticOperator) (y : Decimal) :
    Except Error AtomicValue :=
  let result (d? : Option Decimal) : Except Error AtomicValue :=
    orError .numericOverflow (d?.map decimal)
  match op with
  | .add => result (x.add? y)
  | .subtract => result (x.sub? y)
  | .multiply => result (x.mul? y)
  | .divide => if y.isZero then .error .divisionByZero else result (x.div? y)
  | .integerDivide =>
    if y.isZero then .error .divisionByZero
    else orError .numericOverflow ((x.div? y).bind fun q => plainInteger? q.toInt)
  | .modulo => if y.isZero then .error .divisionByZero else result (x.rem? y)

/-- The integer part of a quotient of doubles. -/
def doubleQuotient (x y : Double) : Except Error AtomicValue :=
  if y.isZero then .error .divisionByZero
  else if x.isNaN || y.isNaN || x.isInfinite then .error .undefinedQuotient
  else orError .numericOverflow ((x.div y).truncate?.bind plainInteger?)

/-- The operators whose result is of the operands' own type. -/
def binaryArithmetic? {f : BinaryFormat} (x : BinaryFloat f) (op : ArithmeticOperator)
    (y : BinaryFloat f) : Option (BinaryFloat f) :=
  match op with
  | .add => some (x.add y)
  | .subtract => some (x.sub y)
  | .multiply => some (x.mul y)
  | .divide => some (x.div y)
  | .modulo => some (x.rem y)
  | .integerDivide => none

def numericArithmetic (op : ArithmeticOperator) : Numeric.Pair → Except Error AtomicValue
  | .integers x y => integerArithmetic x op y
  | .decimals x y => decimalArithmetic x op y
  | .floats x y =>
    match binaryArithmetic? x op y with
    | some z => .ok (float z)
    | none => doubleQuotient x.convert y.convert
  | .doubles x y =>
    match binaryArithmetic? x op y with
    | some z => .ok (double z)
    | none => doubleQuotient x y

end AtomicValue

namespace YearMonthDuration

def add (a b : YearMonthDuration) : Except Error YearMonthDuration :=
  orError .durationOutOfRange (a.add? b)

def neg (d : YearMonthDuration) : Except Error YearMonthDuration :=
  orError .durationOutOfRange d.neg?

/-- The nearest count of months, a half going up. -/
def ofDouble (months : Double) : Except Error YearMonthDuration :=
  let rounded := (months.add (BinaryFloat.ofRat (1 / 2))).floor
  orError .durationOutOfRange
    ((rounded.truncate?.filter fun n => decide (n.natAbs < 9223372036854775808)).bind ofMonths?)

def multiply (d : YearMonthDuration) (factor : Double) : Except Error YearMonthDuration :=
  ofDouble ((BinaryFloat.ofInt d.months).mul factor)

def divide (d : YearMonthDuration) (divisor : Double) : Except Error YearMonthDuration :=
  if divisor.isZero then .error .durationOutOfRange
  else ofDouble ((BinaryFloat.ofInt d.months).div divisor)

def ratio (a b : YearMonthDuration) : Except Error Decimal :=
  if b.months = 0 then .error .divisionByZero
  else
    match Decimal.ofInt? a.months, Decimal.ofInt? b.months with
    | some x, some y => orError .numericOverflow (x.div? y)
    | _, _ => .error .numericOverflow

end YearMonthDuration

namespace DayTimeDuration

def add (a b : DayTimeDuration) : Except Error DayTimeDuration :=
  orError .durationOutOfRange (a.add? b)

/-- The factor is taken as a decimal, so it must be one. -/
def multiply (d : DayTimeDuration) (factor : Double) : Except Error DayTimeDuration :=
  orError .durationOutOfRange
    (((Decimal.ofDouble? factor).bind d.seconds.mul?).map .mk)

/-- An infinite divisor leaves nothing. -/
def divide (d : DayTimeDuration) (divisor : Double) : Except Error DayTimeDuration :=
  if divisor.isZero then .error .durationOutOfRange
  else if divisor.isInfinite then .ok .zero
  else
    orError .durationOutOfRange (((Decimal.ofDouble? divisor).bind d.seconds.div?).map .mk)

def ratio (a b : DayTimeDuration) : Except Error Decimal :=
  if b.seconds.isZero then .error .divisionByZero
  else orError .numericOverflow (a.seconds.div? b.seconds)

end DayTimeDuration

/-- The number, if it fits into 32 bits. -/
def toUInt32? (n : Nat) : Option UInt32 :=
  if h : n < UInt32.size then some (.ofNatLT n h) else none

namespace DateTime

/-- Move the date by whole months, on or back; the clock stays. -/
def addMonths (x : DateTime) (d : YearMonthDuration) : Except Error DateTime := do
  let magnitude ← orError .dateTimeOutOfRange (toUInt32? d.months.natAbs)
  let date ← orError .dateTimeOutOfRange
    (if 0 ≤ d.months then x.value.date.addMonths? magnitude
      else x.value.date.subtractMonths? magnitude)
  return ⟨⟨date, x.value.time⟩, x.zone⟩

/-- Move by the span of a count of seconds. -/
def addSeconds (x : DateTime) (d : DayTimeDuration) : Except Error DateTime :=
  match (TimeSpan.ofDecimal? d.seconds).bind fun span => x.value.shift? span.length with
  | some m => .ok ⟨m, x.zone⟩
  | none => .error .dateTimeOutOfRange

end DateTime

namespace Date

def addMonths (x : Date) (d : YearMonthDuration) : Except Error Date :=
  (x.startOfDay.addMonths d).map DateTime.date

/-- The day that the moved start of the day falls into. -/
def addSeconds (x : Date) (d : DayTimeDuration) : Except Error Date :=
  (x.startOfDay.addSeconds d).map DateTime.date

end Date

namespace Time

/-- Turn the clock; the day plays no part. -/
def addSeconds (x : Time) (d : DayTimeDuration) : Except Error Time :=
  match TimeSpan.ofDecimal? d.seconds with
  | some span => .ok ⟨x.value.shift span.length, x.zone⟩
  | none => .error .dateTimeOutOfRange

end Time

namespace Zoned

variable {α : Type} [CalendarPart α]

/-- The seconds from the second instant to the first. -/
def difference (a b : Zoned α) (implicitZone : Timezone) : Except Error DayTimeDuration := do
  let x ← a.instant implicitZone
  let y ← b.instant implicitZone
  return ⟨x.secondsSince y⟩

end Zoned

namespace AtomicValue

def factor (x : Numeric) : Except Error Double :=
  if x.toDouble.isNaN then .error .factorNotANumber else .ok x.toDouble

/-- Arithmetic that involves durations or calendar values, where the operator is defined. A row asks
for a number where it binds one. -/
def temporalArithmetic? (a : AtomicValue) (op : ArithmeticOperator) (b : AtomicValue)
    (implicitZone : Timezone) : Option (Except Error AtomicValue) :=
  match a, a.asNumeric?, op, b, b.asNumeric? with
  | yearMonthDuration x, _, .add, yearMonthDuration y, _ => some ((x.add y).map yearMonthDuration)
  | yearMonthDuration x, _, .subtract, yearMonthDuration y, _ =>
    some (y.neg >>= fun z => (x.add z).map yearMonthDuration)
  | dayTimeDuration x, _, .add, dayTimeDuration y, _ => some ((x.add y).map dayTimeDuration)
  | dayTimeDuration x, _, .subtract, dayTimeDuration y, _ =>
    some ((x.add y.neg).map dayTimeDuration)
  | yearMonthDuration d, _, .multiply, _, some n
  | _, some n, .multiply, yearMonthDuration d, _ =>
    some (factor n >>= fun f => (d.multiply f).map yearMonthDuration)
  | yearMonthDuration d, _, .divide, _, some n =>
    some (factor n >>= fun f => (d.divide f).map yearMonthDuration)
  | yearMonthDuration x, _, .divide, yearMonthDuration y, _ => some ((x.ratio y).map decimal)
  | dayTimeDuration d, _, .multiply, _, some n
  | _, some n, .multiply, dayTimeDuration d, _ =>
    some (factor n >>= fun f => (d.multiply f).map dayTimeDuration)
  | dayTimeDuration d, _, .divide, _, some n =>
    some (factor n >>= fun f => (d.divide f).map dayTimeDuration)
  | dayTimeDuration x, _, .divide, dayTimeDuration y, _ => some ((x.ratio y).map decimal)
  | dateTime x, _, .add, yearMonthDuration d, _
  | yearMonthDuration d, _, .add, dateTime x, _ => some ((x.addMonths d).map dateTime)
  | dateTime x, _, .subtract, yearMonthDuration d, _ =>
    some (d.neg >>= fun e => (x.addMonths e).map dateTime)
  | dateTime x, _, .add, dayTimeDuration d, _
  | dayTimeDuration d, _, .add, dateTime x, _ => some ((x.addSeconds d).map dateTime)
  | dateTime x, _, .subtract, dayTimeDuration d, _ => some ((x.addSeconds d.neg).map dateTime)
  | date x, _, .add, yearMonthDuration d, _
  | yearMonthDuration d, _, .add, date x, _ => some ((x.addMonths d).map date)
  | date x, _, .subtract, yearMonthDuration d, _ =>
    some (d.neg >>= fun e => (x.addMonths e).map date)
  | date x, _, .add, dayTimeDuration d, _
  | dayTimeDuration d, _, .add, date x, _ => some ((x.addSeconds d).map date)
  | date x, _, .subtract, dayTimeDuration d, _ => some ((x.addSeconds d.neg).map date)
  | time x, _, .add, dayTimeDuration d, _
  | dayTimeDuration d, _, .add, time x, _ => some ((x.addSeconds d).map time)
  | time x, _, .subtract, dayTimeDuration d, _ => some ((x.addSeconds d.neg).map time)
  | dateTime x, _, .subtract, dateTime y, _ =>
    some ((x.difference y implicitZone).map dayTimeDuration)
  | date x, _, .subtract, date y, _ => some ((x.difference y implicitZone).map dayTimeDuration)
  | time x, _, .subtract, time y, _ => some ((x.difference y implicitZone).map dayTimeDuration)
  | _, _, _, _, _ => none

/-- An untyped value counts as the double that its text denotes. -/
def untypedAsDouble (v : AtomicValue) : Except Error AtomicValue :=
  if v.isUntyped then v.cast .double .empty else .ok v

def arithmetic (a : AtomicValue) (op : ArithmeticOperator) (b : AtomicValue)
    (implicitZone : Timezone) : Except Error AtomicValue := do
  let a ← a.untypedAsDouble
  let b ← b.untypedAsDouble
  match a.asNumeric?, b.asNumeric? with
  | some x, some y => numericArithmetic op (Numeric.promote x y)
  | _, _ =>
    (temporalArithmetic? a op b implicitZone).getD
      (.error (.undefinedOperator op a.kind b.kind))

def negate (v : AtomicValue) : Except Error AtomicValue := do
  let v ← v.untypedAsDouble
  match v with
  | integer i => orError .numericOverflow (plainInteger? (-i.value))
  | decimal d => .ok (decimal d.neg)
  | float x => .ok (float x.neg)
  | double x => .ok (double x.neg)
  | yearMonthDuration d => d.neg.map yearMonthDuration
  | dayTimeDuration d => .ok (dayTimeDuration d.neg)
  | v => .error (.undefinedMinus v.kind)

end AtomicValue

end XPathValues
