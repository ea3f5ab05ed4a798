import XPathValues.Number.Binary.Shortest
import XPathValues.Number.Literal

/-!
# Reading and writing binary floating point

The reader knows `INF`, `-INF`, `NaN` and the scientific literals and rounds a literal once. The
writer gives the shortest digits, positionally from one millionth up to below one million and with
an exponent elsewhere.
-/

namespace XPathValues.BinaryFloat

open Text

variable {f : BinaryFormat}

def read? (text : List Char) : Option (BinaryFloat f) :=
  if text = "INF".toList then some (infinity false)
  else if text = "-INF".toList then some (infinity true)
  else if text = "NaN".toList then some nan
  else (ScientificLiteral.read? text).map fun literal =>
    ofScientific literal.negative literal.digits.coefficient literal.decimalExponent

namespace DecimalForm

/-- The form of the same value whose coefficient does not end in a zero. -/
def trimmed (form : DecimalForm) : DecimalForm :=
  let digits := Nat.toDigits 10 form.coefficient
  let kept := dropTrailingZeros digits
  ⟨digitsValue kept, form.exponent + ((digits.length - kept.length : Nat) : Int)⟩

/-- All digits around the point, filled up with zeros. -/
def positional (form : DecimalForm) : List Char :=
  let digits := Nat.toDigits 10 form.coefficient
  if 0 ≤ form.exponent then digits ++ List.replicate form.exponent.toNat '0'
  else
    let places := form.exponent.natAbs
    if places < digits.length then
      digits.take (digits.length - places) ++ '.' :: digits.drop (digits.length - places)
    else '0' :: '.' :: List.replicate (places - digits.length) '0' ++ digits

/-- One digit before the point, at least one after it, and the power of ten. -/
def scientific (form : DecimalForm) : List Char :=
  let digits := Nat.toDigits 10 form.coefficient
  let fraction := if digits.length ≤ 1 then ['0'] else digits.drop 1
  let power := form.exponent + (digits.length : Int) - 1
  digits.take 1 ++ '.' :: fraction ++ 'E' :: (toString power).toList

end DecimalForm

/-- Magnitudes that are written without an exponent. -/
def isPositional (f : BinaryFormat) (significand : Nat) (exponent : Int) : Bool :=
  let size := magnitude significand exponent
  let least := ((ofScientific false 1 (-6) : BinaryFloat f).toRat?).getD 0
  decide (least ≤ size) && decide (size < 1000000)

def signChars (negative : Bool) : List Char :=
  if negative then ['-'] else []

def toChars : BinaryFloat f → List Char
  | nan => "NaN".toList
  | infinity negative => signChars negative ++ "INF".toList
  | finite negative significand exponent _ =>
    signChars negative ++
      if significand = 0 then ['0']
      else
        let form := (shortest f significand exponent).trimmed
        if isPositional f significand exponent then form.positional else form.scientific

def toText (x : BinaryFloat f) : String :=
  String.ofList x.toChars

/-- The shortest digits of a value without an exponent, whatever its size. -/
def toPositionalText : BinaryFloat f → String
  | nan => "NaN"
  | infinity negative => String.ofList (signChars negative ++ "inf".toList)
  | finite negative significand exponent _ =>
    String.ofList (signChars negative ++
      if significand = 0 then ['0'] else (shortest f significand exponent).trimmed.positional)

end XPathValues.BinaryFloat
