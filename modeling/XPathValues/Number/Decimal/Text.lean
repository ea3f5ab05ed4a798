import XPathValues.Number.Decimal.Basic
import XPathValues.Number.Literal

/-!
# Reading and writing decimals

The reader takes digits while they fit and rounds at the first that does not, half up on that digit
alone. The writer gives the digits of the normal form, a point only in front of a fraction, and a
single `0` for every zero.
-/

namespace XPathValues.Decimal

open Text

/-- The digits of the integer part, as long as they fit. -/
def takeWhole? (magnitude : Nat) : List Char → Option Nat
  | [] => some magnitude
  | c :: rest =>
    let next := 10 * magnitude + digitOf c
    if next ≤ maxMagnitude then takeWhole? next rest else none

/-- Round up by one unit of the last digit. When that no longer fits, the last digit is given up,
which an integer cannot do. -/
def bump? (magnitude scale : Nat) : Option (Nat × Nat) :=
  if magnitude < maxMagnitude then some (magnitude + 1, scale)
  else if scale = 0 then none
  else some ((magnitude + 1 + 4) / 10, scale - 1)

/-- The digits of the fraction, as long as they fit; the first that does not decides whether the
magnitude is rounded up. -/
def takeFraction? (magnitude scale : Nat) : List Char → Option (Nat × Nat)
  | [] => some (magnitude, scale)
  | c :: rest =>
    let next := 10 * magnitude + digitOf c
    if scale < maxScale && next ≤ maxMagnitude then takeFraction? next (scale + 1) rest
    else if 5 ≤ digitOf c then bump? magnitude scale
    else some (magnitude, scale)

/-- The decimal nearest to the digits, if their integer part fits. -/
def ofDigits? (negative : Bool) (digits : PointedDigits) : Option Decimal := do
  let whole ← takeWhole? 0 digits.whole
  let (magnitude, scale) ← takeFraction? whole 0 digits.fraction
  ofParts? negative magnitude scale

inductive ReadFailure where
  | malformed
  | tooLarge
deriving DecidableEq

/-- Read a decimal literal. Zeros around it do not count as digits. -/
def read (text : List Char) : Except ReadFailure Decimal :=
  let (negative, body) := splitSign text
  match PointedDigits.read? body with
  | none => .error .malformed
  | some digits =>
    match ofDigits? negative digits.trim with
    | none => .error .tooLarge
    | some d => .ok d

def normalChars (d : Decimal) : List Char :=
  let sign := if d.negative then ['-'] else []
  let whole := Nat.toDigits 10 d.wholePart
  if d.scale = 0 then sign ++ whole
  else sign ++ whole ++ '.' :: padded d.scale d.fractionPart

/-- The shortest decimal literal of the value. -/
def toChars (d : Decimal) : List Char :=
  d.normalize.normalChars

def toText (d : Decimal) : String :=
  String.ofList d.toChars

end XPathValues.Decimal
