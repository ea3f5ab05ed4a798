import XPathValues.Text.Digits

/-!
# Numeric literals

A decimal literal is an optional sign and digits with an optional point among or around them; at
least one digit stands on one side of the point. A scientific literal may add an exponent: the
letter `e` or `E`, an optional sign, and digits. A whole literal has neither point nor exponent.
-/

namespace XPathValues

open Text

/-- The digits on the two sides of the point. -/
structure PointedDigits where
  whole : List Char
  fraction : List Char

namespace PointedDigits

/-- Split at the first point; a text without one is all on the left. -/
def read? (text : List Char) : Option PointedDigits :=
  let sides := (cutAt? (· == '.') text).getD (text, [])
  if (sides.1.isEmpty && sides.2.isEmpty) || !allDigits sides.1 || !allDigits sides.2 then none
  else some ⟨sides.1, sides.2⟩

/-- The digits without the zeros around them. A single zero is left of an integer part that holds
nothing else. -/
def trim (digits : PointedDigits) : PointedDigits :=
  let whole := dropLeadingZeros digits.whole
  ⟨if whole.isEmpty then ['0'] else whole, dropTrailingZeros digits.fraction⟩

/-- All digits read as one number, a count of the last fraction digit's unit. -/
def coefficient (digits : PointedDigits) : Nat :=
  digitsValue (digits.whole ++ digits.fraction)

end PointedDigits

/-- A sign, digits and a power of ten. -/
structure ScientificLiteral where
  negative : Bool
  digits : PointedDigits
  exponent : Int

namespace ScientificLiteral

def readExponent? (text : List Char) : Option Int :=
  let (negative, digits) := splitSign text
  (wholeNumber? digits).map fun n => if negative then -(n : Int) else n

def read? (text : List Char) : Option ScientificLiteral :=
  let (negative, body) := splitSign text
  match cutAt? (fun c => c == 'e' || c == 'E') body with
  | none => (PointedDigits.read? body).map fun digits => ⟨negative, digits, 0⟩
  | some (mantissa, exponent) => do
    let digits ← PointedDigits.read? mantissa
    let power ← readExponent? exponent
    some ⟨negative, digits, power⟩

/-- The power of ten that the coefficient of the digits is multiplied by. -/
def decimalExponent (literal : ScientificLiteral) : Int :=
  literal.exponent - literal.digits.fraction.length

end ScientificLiteral

/-- The integer that an optional sign and digits denote. -/
def readWhole? (text : List Char) : Option Int :=
  let (negative, digits) := splitSign text
  (wholeNumber? digits).map fun n => if negative then -(n : Int) else n

end XPathValues
