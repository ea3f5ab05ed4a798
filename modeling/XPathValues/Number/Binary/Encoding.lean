import XPathValues.Number.Binary.Basic

/-!
# The bit patterns of binary floating point

From the highest bit down a pattern holds the sign, an exponent field and the significand without
its leading bit. The field zero means the least exponent without a leading bit; the field of all
ones means an infinity, or not a number if any other bit is set below it.
-/

namespace XPathValues

namespace BinaryFormat

/-- The value of the leading bit of the significand, which a pattern does not hold. -/
def leadingBit (f : BinaryFormat) : Nat :=
  f.significandLimit / 2

/-- The exponent field of the infinities, one above that of the greatest exponent. -/
def topField (f : BinaryFormat) : Nat :=
  (f.maxExponent - f.minExponent + 2).toNat

end BinaryFormat

namespace BinaryFloat

def ofBits {f : BinaryFormat} (bits : Nat) : BinaryFloat f :=
  let fraction := bits % f.leadingBit
  let field := bits / f.leadingBit % (f.topField + 1)
  let negative := bits / f.leadingBit / (f.topField + 1) % 2 == 1
  if field = f.topField then if fraction = 0 then infinity negative else nan
  else if field = 0 then assemble negative fraction f.minExponent
  else assemble negative (f.leadingBit + fraction) (f.minExponent + field - 1)

end BinaryFloat

end XPathValues
