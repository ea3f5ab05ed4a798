import XPathValues.Number.Binary.Basic

/-!
# The shortest decimal digits of a binary floating point value

The rationals that round to a finite value form an interval around it, which holds its two ends
exactly when the significand is even. Among the decimal grids of one significant digit, two digits
and so on, the first with a point inside the interval fixes the number of digits; of the two points
of that grid next to the value, the nearer one is chosen, and the upper one when both are equally
near.
-/

namespace XPathValues.BinaryFloat

variable {f : BinaryFormat}

structure DecimalForm where
  coefficient : Nat
  exponent : Int
deriving DecidableEq

namespace DecimalForm

def toRat (form : DecimalForm) : Rat :=
  (form.coefficient : Rat) * (10 : Rat) ^ form.exponent

end DecimalForm

/-- The interval of the rationals that round to one value. -/
structure RoundingInterval where
  center : Rat
  lower : Rat
  upper : Rat
  closed : Bool

namespace RoundingInterval

/-- Halfway to the neighbours of a positive finite value. Below a power of two the neighbour is
half as far away, unless the exponent is already the least one. -/
def around (f : BinaryFormat) (significand : Nat) (exponent : Int) : RoundingInterval :=
  let center := magnitude significand exponent
  let half := (2 : Rat) ^ (exponent - 1)
  let narrow := f.significandLimit == 2 * significand && decide (f.minExponent < exponent)
  { center
    lower := center - (if narrow then half / 2 else half)
    upper := center + half
    closed := significand % 2 == 0 }

def contains (interval : RoundingInterval) (q : Rat) : Bool :=
  if interval.closed then decide (interval.lower ≤ q) && decide (q ≤ interval.upper)
  else decide (interval.lower < q) && decide (q < interval.upper)

/-- The point next to the center, on the grid of the given power of ten, that lies inside. -/
def onGrid? (interval : RoundingInterval) (exponent : Int) : Option DecimalForm :=
  let count := (interval.center / (10 : Rat) ^ exponent).floor.natAbs
  let below : DecimalForm := ⟨count, exponent⟩
  let above : DecimalForm := ⟨count + 1, exponent⟩
  match interval.contains below.toRat, interval.contains above.toRat with
  | true, true =>
    if interval.center - below.toRat < above.toRat - interval.center then some below
    else some above
  | true, false => some below
  | false, true => some above
  | false, false => none

/-- Refine the grid until a point is inside. -/
def search (interval : RoundingInterval) (exponent : Int) : Nat → DecimalForm
  | 0 => ⟨(interval.center / (10 : Rat) ^ exponent).floor.natAbs, exponent⟩
  | steps + 1 =>
    match interval.onGrid? exponent with
    | some form => form
    | none => interval.search (exponent - 1) steps

end RoundingInterval

/-- The exponent of the greatest power of ten that is not above a positive rational. -/
def floorLog10 (q : Rat) : Int :=
  let estimate : Int :=
    ((Nat.toDigits 10 q.num.natAbs).length : Int) - ((Nat.toDigits 10 q.den).length : Int)
  if (10 : Rat) ^ estimate ≤ q then estimate else estimate - 1

/-- The shortest digits of a positive finite value. As many digits as the significand has bits are
always enough. -/
def shortest (f : BinaryFormat) (significand : Nat) (exponent : Int) : DecimalForm :=
  let interval := RoundingInterval.around f significand exponent
  interval.search (floorLog10 interval.center) f.precision

end XPathValues.BinaryFloat
