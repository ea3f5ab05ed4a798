import XPathValues.Number.Rounding

/-!
# Binary floating point

A format fixes the bits of the significand and the exponents of the unit that the significand
counts. A value of the format is not a number, an infinity, or a sign with a significand and an
exponent in canonical form: the leading bit is set, or the exponent is the least one. Canonical
forms are unique, so two finite values are equal exactly when sign and number are.

Operations are exact on rationals and round once at the end. `round` is that step: to the nearest
value, a tie going to the even significand, and to an infinity above the greatest finite value.
-/

namespace XPathValues

/-- Significand bits, and the least and greatest exponent of the unit. -/
structure BinaryFormat where
  precision : Nat
  minExponent : Int
  maxExponent : Int
deriving DecidableEq

namespace BinaryFormat

/-- 24 significand bits in 32. -/
def single : BinaryFormat := ⟨24, -149, 104⟩

/-- 53 significand bits in 64. -/
def double : BinaryFormat := ⟨53, -1074, 971⟩

/-- One more than the greatest significand. -/
def significandLimit (f : BinaryFormat) : Nat :=
  Nat.pow 2 f.precision

/-- In range, and with the leading bit set unless the exponent is the least one. -/
def Canonical (f : BinaryFormat) (significand : Nat) (exponent : Int) : Prop :=
  significand < f.significandLimit ∧
    f.minExponent ≤ exponent ∧ exponent ≤ f.maxExponent ∧
    (f.significandLimit ≤ 2 * significand ∨ exponent = f.minExponent)

instance (f : BinaryFormat) (significand : Nat) (exponent : Int) :
    Decidable (f.Canonical significand exponent) := by
  unfold Canonical
  infer_instance

end BinaryFormat

inductive BinaryFloat (f : BinaryFormat) where
  | nan
  | infinity (negative : Bool)
  | finite (negative : Bool) (significand : Nat) (exponent : Int)
      (canonical : f.Canonical significand exponent)
deriving DecidableEq

abbrev Single := BinaryFloat .single

abbrev Double := BinaryFloat .double

namespace BinaryFloat

variable {f : BinaryFormat}

def magnitude (significand : Nat) (exponent : Int) : Rat :=
  (significand : Rat) * (2 : Rat) ^ exponent

def signed (negative : Bool) (significand : Nat) (exponent : Int) : Rat :=
  if negative then -magnitude significand exponent else magnitude significand exponent

def toRat? : BinaryFloat f → Option Rat
  | finite negative significand exponent _ => some (signed negative significand exponent)
  | _ => none

def isNaN : BinaryFloat f → Bool
  | nan => true
  | _ => false

def isInfinite : BinaryFloat f → Bool
  | infinity _ => true
  | _ => false

def isFinite : BinaryFloat f → Bool
  | finite .. => true
  | _ => false

/-- Both zeros. -/
def isZero : BinaryFloat f → Bool
  | finite _ significand _ _ => significand == 0
  | _ => false

/-- The sign bit; it is also set for a negative zero. -/
def isNegative : BinaryFloat f → Bool
  | nan => false
  | infinity negative => negative
  | finite negative _ _ _ => negative

/-- The finite value of these parts, or the infinity of that sign when they are beyond the
format. -/
def assemble (negative : Bool) (significand : Nat) (exponent : Int) : BinaryFloat f :=
  if h : f.Canonical significand exponent then finite negative significand exponent h
  else infinity negative

def zero (negative : Bool) : BinaryFloat f :=
  assemble negative 0 f.minExponent

/-- The exponent of the greatest power of two that is not above a positive rational. -/
def floorLog2 (q : Rat) : Int :=
  let estimate : Int := (q.num.natAbs.log2 : Int) - (q.den.log2 : Int)
  if (2 : Rat) ^ estimate ≤ q then estimate else estimate - 1

/-- The value nearest to a nonnegative rational, with the given sign. -/
def round (negative : Bool) (q : Rat) : BinaryFloat f :=
  if q = 0 then zero negative
  else
    let exponent := max f.minExponent (floorLog2 q + 1 - (f.precision : Int))
    let significand := (Rounding.halfEven (q / (2 : Rat) ^ exponent)).natAbs
    if significand < f.significandLimit then assemble negative significand exponent
    else assemble negative (significand / 2) (exponent + 1)

/-- The value nearest to a rational; zero becomes the positive zero. -/
def ofRat (q : Rat) : BinaryFloat f :=
  if q < 0 then round true (-q) else round false q

def ofInt (n : Int) : BinaryFloat f :=
  ofRat n

/-- The value nearest to a coefficient times a power of ten. Powers whose size alone decides the
answer are not computed: ten exceeds two, so the digits and the exponent together bound the
binary exponent from both sides. -/
def ofScientific (negative : Bool) (coefficient : Nat) (exponent : Int) : BinaryFloat f :=
  let digits : Int := (Nat.toDigits 10 coefficient).length
  if coefficient = 0 || digits + exponent < f.minExponent - 1 then zero negative
  else if f.maxExponent + f.precision + 1 < digits + exponent then infinity negative
  else round negative ((coefficient : Rat) * (10 : Rat) ^ exponent)

def convert {g : BinaryFormat} : BinaryFloat f → BinaryFloat g
  | nan => nan
  | infinity negative => infinity negative
  | finite negative significand exponent _ => round negative (magnitude significand exponent)

/-- The order of two values: zeros are equal, and what is not a number has no place. -/
def compare? : BinaryFloat f → BinaryFloat f → Option Ordering
  | nan, _ => none
  | _, nan => none
  | infinity a, infinity b => some (if a = b then .eq else if a then .lt else .gt)
  | infinity a, finite .. => some (if a then .lt else .gt)
  | finite .., infinity b => some (if b then .gt else .lt)
  | finite a m j _, finite b n k _ => some (Rounding.compareExact (signed a m j) (signed b n k))

/-- The equality of numbers: zeros are equal, and what is not a number equals nothing. -/
def equalValue (x y : BinaryFloat f) : Bool :=
  x.compare? y == some .eq

end BinaryFloat

end XPathValues
