import XPathValues.Arithmetic
import XPathValues.Function.Body

/-!
# Rounding functions

Each of these functions works on any of the numeric types and keeps it, except that the result for
an integer type is a plain integer. Binary floating point of either precision is rounded as a
double.
-/

namespace XPathValues

namespace Integer

def stored? (n : Int) : Option Int :=
  if Stored n then some n else none

def powerOfTen? (exponent : Nat) : Option Int :=
  if exponent ≤ 38 then some (Nat.pow 10 exponent) else none

/-- The integer nearest to a quotient, a tie going to the even neighbour. The quotient is cut off
toward zero, and twice the size of the rest tells whether the next integer away from zero is
nearer. There is none if a number on the way cannot be stored. -/
def nearestQuotient? (n unit : Int) : Option Int := do
  let quotient ← stored? (n.tdiv unit)
  let rest ← stored? (n.tmod unit)
  let size ← stored? rest.natAbs
  let twice ← stored? (size * 2)
  if twice < unit ∨ twice = unit ∧ quotient % 2 = 0 then some quotient
  else stored? (quotient + n.sign)

end Integer

/-- A power of ten as a decimal, by repeated multiplication. -/
def Decimal.powerOfTen? : Nat → Option Decimal
  | 0 => some .one
  | count + 1 => (powerOfTen? count).bind fun power => power.mul? (.ofNat 10)

/-- What a numeric function does with the numbers of each type. -/
structure NumericRule where
  onInteger : Integer → Except Error Integer
  onDecimal : Decimal → Except Error Decimal
  onDouble : Double → Double

namespace NumericRule

def apply (rule : NumericRule) (v : AtomicValue) : Except Error AtomicValue :=
  match v with
  | .integer i => (rule.onInteger i).map .integer
  | .decimal d => (rule.onDecimal d).map fun e => .decimal e.normalize
  | .float x => .ok (.float (rule.onDouble x.convert).convert)
  | .double x => .ok (.double (rule.onDouble x))
  | v => .error (.unexpectedNonNumeric v.kind)

def keepInteger (i : Integer) : Except Error Integer :=
  .ok (.plain i.value i.stored)

def absolute : NumericRule where
  onInteger i := orError .numericOverflow (Integer.plain? i.value.natAbs)
  onDecimal d := .ok d.abs
  onDouble x := x.abs

def ceiling : NumericRule where
  onInteger := keepInteger
  onDecimal d := .ok d.ceil
  onDouble x := x.ceil

def floor : NumericRule where
  onInteger := keepInteger
  onDecimal d := .ok d.floor
  onDouble x := x.floor

def decimalHalf : Decimal := ⟨false, 5, 1, by decide, by decide⟩

/-- The value, or the negative zero where rounding a negative value has given zero. -/
def keepSign (given rounded : Double) : Double :=
  if rounded.isZero && given.isNegative then BinaryFloat.zero true else rounded

/-- The floor of the value and a half, both of them rounded. -/
def roundDouble (x : Double) : Double :=
  if !x.isFinite || x.isZero then x
  else keepSign x (x.add (BinaryFloat.ofRat (1 / 2))).floor

/-- The nearest integer, a half going up. -/
def round : NumericRule where
  onInteger := keepInteger
  onDecimal d := orError .numericOverflow ((d.add? decimalHalf).map Decimal.floor)
  onDouble := roundDouble

/-- The nearest multiple of a power of ten. Where the power cannot be stored, that is zero. -/
def roundIntegerToEven (i : Integer) (precision : Int) : Except Error Integer :=
  if 0 ≤ precision then keepInteger i
  else
    match Integer.powerOfTen? precision.natAbs with
    | none => .ok (.plain 0 (by decide))
    | some unit =>
      orError .numericOverflow
        ((Integer.nearestQuotient? i.value unit).bind fun count => Integer.plain? (count * unit))

/-- A negative precision goes through the quotient by the power of ten, which is itself rounded. -/
def roundDecimalToEven (d : Decimal) (precision : Int) : Except Error Decimal :=
  if 0 ≤ precision then
    orError .numericOverflow (d.roundToPlaces? (min precision.toNat Decimal.maxScale))
  else if Decimal.maxScale < precision.natAbs then .ok .zero
  else
    orError .numericOverflow do
      let unit ← Decimal.powerOfTen? precision.natAbs
      let quotient ← d.div? unit
      let rounded ← quotient.roundToPlaces? 0
      rounded.mul? unit

/-- The value is scaled, rounded and scaled back. Where the scaled value is not finite there is
nothing to round, and where the scale vanishes nothing is left. -/
def roundDoubleToEven (x : Double) (precision : Int) : Double :=
  if !x.isFinite || x.isZero then x
  else
    let scale : Double := BinaryFloat.power (BinaryFloat.ofInt 10) precision
    if scale.isZero then BinaryFloat.zero x.isNegative
    else
      let scaled := x.mul scale
      if !scaled.isFinite then x
      else keepSign x (scaled.roundHalfEven.div scale)

/-- The nearest number with so many fraction digits, a tie going to the even neighbour. -/
def roundHalfToEven (precision : Int) : NumericRule where
  onInteger i := roundIntegerToEven i precision
  onDecimal d := roundDecimalToEven d precision
  onDouble x := roundDoubleToEven x precision

def maxPrecision : Int := 2147483647

def clampPrecision (precision : Int) : Int :=
  max (-maxPrecision) (min precision maxPrecision)

end NumericRule

namespace FunctionBody

def numeric (rule : NumericRule) : FunctionBody :=
  fun _ arguments =>
    match (argument arguments 0).firstValue? with
    | some v => (rule.apply v).map Sequence.single
    | none => .ok []

/-- The precision comes from the second argument; without one it is zero. -/
def roundHalfToEven : FunctionBody :=
  fun context arguments =>
    let precision := ((argument arguments 1).firstValue?.bind AtomicValue.asInteger?).getD 0
    numeric (.roundHalfToEven (NumericRule.clampPrecision precision)) context arguments

end FunctionBody

end XPathValues
