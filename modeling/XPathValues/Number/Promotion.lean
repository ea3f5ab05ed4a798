import XPathValues.Number.Conversion

/-!
# Numeric promotion

A number is an integer, a decimal or a binary floating point value. Two numbers are brought to a
common type before they are compared or combined: integers and decimals meet as decimals, a float
wins over both, and a double over all. An integer that is too large for a decimal meets one as a
double.
-/

namespace XPathValues

inductive Numeric where
  | integer (n : Int)
  | decimal (d : Decimal)
  | float (x : Single)
  | double (x : Double)

namespace Numeric

def toDouble : Numeric → Double
  | integer n => BinaryFloat.ofInt n
  | decimal d => d.toDouble
  | float x => x.convert
  | double x => x

def toSingle : Numeric → Single
  | integer n => BinaryFloat.ofInt n
  | decimal d => d.toSingle
  | float x => x
  | double x => x.convert

/-- The number is neither zero nor NaN. -/
def isTrue : Numeric → Bool
  | integer n => n != 0
  | decimal d => !d.isZero
  | float x => !x.isZero && !x.isNaN
  | double x => !x.isZero && !x.isNaN

inductive Pair where
  | integers (a b : Int)
  | decimals (a b : Decimal)
  | floats (a b : Single)
  | doubles (a b : Double)

def promote : Numeric → Numeric → Pair
  | double x, y => .doubles x y.toDouble
  | x, double y => .doubles x.toDouble y
  | float x, y => .floats x y.toSingle
  | x, float y => .floats x.toSingle y
  | decimal a, decimal b => .decimals a b
  | decimal a, integer n =>
    match Decimal.ofInt? n with
    | some b => .decimals a b
    | none => .doubles a.toDouble (BinaryFloat.ofInt n)
  | integer n, decimal b =>
    match Decimal.ofInt? n with
    | some a => .decimals a b
    | none => .doubles (BinaryFloat.ofInt n) b.toDouble
  | integer m, integer n => .integers m n

namespace Pair

def swap : Pair → Pair
  | integers a b => integers b a
  | decimals a b => decimals b a
  | floats a b => floats b a
  | doubles a b => doubles b a

/-- The order of the two numbers; NaN has none. -/
def compare? : Pair → Option Ordering
  | integers a b => some (if a < b then .lt else if a = b then .eq else .gt)
  | decimals a b => some (a.compare b)
  | floats a b => a.compare? b
  | doubles a b => a.compare? b

end Pair

theorem promote_swap (x y : Numeric) : (promote x y).swap = promote y x := by
  cases x <;> cases y <;> simp only [promote, Pair.swap, toDouble, toSingle]
  · next n d => cases Decimal.ofInt? n <;> rfl
  · next d n => cases Decimal.ofInt? n <;> rfl

end Numeric

end XPathValues
