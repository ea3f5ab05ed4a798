import XPathValues.Number.Binary.Arithmetic
import XPathValues.Number.Decimal.Basic

/-!
# Between decimals and binary floating point

A binary value becomes a decimal by trading its powers of two for powers of ten, one at a time,
while the magnitude stays in 96 bits; then digits beyond the precision of the format are rounded
away, half up. A decimal becomes a binary value through its integer part and its fraction, which
are rounded one after the other. Neither direction is the nearest value in every case.
-/

namespace XPathValues

structure Scaled where
  magnitude : Nat
  exponent : Int

namespace Scaled

/-- Pay off so many factors of one fifth, by a factor five where it fits and else by giving up the
last bit for a factor ten. -/
def multiplyFives : Nat → Scaled → Scaled
  | 0, s => s
  | count + 1, s =>
    if s.magnitude % 2 = 0 then multiplyFives count ⟨s.magnitude / 2, s.exponent + 1⟩
    else if s.magnitude * 5 ≤ Decimal.maxMagnitude then
      multiplyFives count ⟨s.magnitude * 5, s.exponent⟩
    else multiplyFives count ⟨s.magnitude / 2, s.exponent + 1⟩

/-- Half of the range of magnitudes. -/
def doublingLimit : Nat := 39614081257132168796771975168

/-- Pay off so many factors of five, by doubling where it fits and else by dividing. The number is
too large when the power of ten outweighs the factors that are left. -/
def divideFives? : Nat → Scaled → Option Scaled
  | 0, s => some s
  | count + 1, s =>
    if s.magnitude < doublingLimit then divideFives? count ⟨s.magnitude * 2, s.exponent - 1⟩
    else if ((count + 1 : Nat) : Int) < 2 * s.exponent then none
    else divideFives? count ⟨s.magnitude / 5, s.exponent⟩

def expandTens? : Nat → Nat → Option Nat
  | 0, magnitude => some magnitude
  | count + 1, magnitude =>
    if magnitude * 10 ≤ Decimal.maxMagnitude then expandTens? count (magnitude * 10) else none

/-- Drop so many digits, rounding half up at each one; a magnitude that vanishes is zero at once. -/
def dropDigits : Nat → Scaled → Scaled
  | 0, s => s
  | count + 1, s =>
    let kept := s.magnitude / 10
    if kept = 0 then ⟨0, 0⟩
    else
      dropDigits count ⟨if 5 ≤ s.magnitude % 10 then kept + 1 else kept, s.exponent + 1⟩

/-- Drop fraction digits, at most as many as there are, while the magnitude reaches the limit. -/
def dropExcess (limit : Nat) : Nat → Nat → Nat × Nat
  | magnitude, 0 => (magnitude, 0)
  | magnitude, scale + 1 =>
    if limit ≤ magnitude then
      let kept := magnitude / 10
      dropExcess limit (if 5 ≤ magnitude % 10 then kept + 1 else kept) scale
    else (magnitude, scale + 1)

/-- The number as a magnitude and a count of fraction digits. -/
def toParts? (limit : Nat) (s : Scaled) : Option (Nat × Nat) :=
  if 0 < s.exponent then (expandTens? s.exponent.toNat s.magnitude).map fun m => (m, 0)
  else
    let short := dropDigits (-(Decimal.maxScale : Int) - s.exponent).toNat s
    let (magnitude, scale) := dropExcess limit short.magnitude (-short.exponent).toNat
    some (Decimal.stripZeros magnitude scale)

end Scaled

namespace Decimal

/-- The decimal that a finite binary value becomes, if it fits. Fraction digits are dropped while
the magnitude reaches the limit. -/
def ofBinary? {f : BinaryFormat} (limit : Nat) : BinaryFloat f → Option Decimal
  | .finite negative significand exponent _ => do
    let start : Scaled := ⟨significand, exponent⟩
    let scaled ←
      if exponent < 0 then some (Scaled.multiplyFives (-exponent).toNat start)
      else Scaled.divideFives? exponent.toNat start
    let (magnitude, scale) ← scaled.toParts? limit
    ofParts? negative magnitude scale
  | _ => none

/-- Of a double at most 52 bits are kept, one less than its precision. -/
def ofDouble? (x : Double) : Option Decimal :=
  ofBinary? 4503599627370496 x

/-- Of a single at most 24 bits are kept, its full precision. -/
def ofSingle? (x : Single) : Option Decimal :=
  ofBinary? 16777216 x

/-- The integer part and the fraction, each as the nearest double, put together at the scale of the
decimal. -/
def magnitudeToDouble (d : Decimal) : Double :=
  let whole : Double := BinaryFloat.ofInt d.wholePart
  if d.fractionPart = 0 then whole
  else
    let fraction : Double :=
      BinaryFloat.div (BinaryFloat.ofInt d.fractionPart) (BinaryFloat.ofInt (Nat.pow 10 d.scale))
    let unit : Double := BinaryFloat.power (BinaryFloat.ofInt 10) d.scale
    let scaled : Double := BinaryFloat.mul (BinaryFloat.add whole fraction) unit
    BinaryFloat.div (BinaryFloat.roundHalfAway scaled) unit

/-- The double of a decimal. Only a zero with fraction digits keeps its sign. -/
def toDouble (d : Decimal) : Double :=
  if d.negative && (d.scale != 0 || d.magnitude != 0) then d.magnitudeToDouble.neg
  else d.magnitudeToDouble

def toSingle (d : Decimal) : Single :=
  d.toDouble.convert

end Decimal

end XPathValues
