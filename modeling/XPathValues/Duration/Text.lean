import XPathValues.Duration.Basic
import XPathValues.Number.Decimal.Text

/-!
# Reading and writing durations

A duration is written as an optional minus, the letter `P`, fields for years, months and days, and,
behind the letter `T`, fields for hours, minutes and seconds. Each field is a number in front of its
letter; the fields keep their order, each of them may be missing, but not all, and `T` does not
stand at the end. Only the seconds may have a fraction. The writer leaves out the fields that are
zero.
-/

namespace XPathValues

open Text

namespace Duration

/-- The characters of a number in a field. -/
def isFieldChar (c : Char) : Bool :=
  c.isDigit || c == '.'

/-- Take the field of a letter off the front of a text, if that is the next letter. -/
def takeField (letter : Char) (text : List Char) : Option (List Char) × List Char :=
  let number := text.takeWhile isFieldChar
  match text.dropWhile isFieldChar with
  | [] => (none, text)
  | c :: rest => if c = letter && !number.isEmpty then (some number, rest) else (none, text)

/-- Three fields in order and nothing else. -/
def readFields? (first second third : Char) (text : List Char) :
    Option (Option (List Char) × Option (List Char) × Option (List Char)) :=
  let (a, rest) := takeField first text
  let (b, rest) := takeField second rest
  let (c, rest) := takeField third rest
  if rest.isEmpty then some (a, b, c) else none

def maxCount : Nat := 9223372036854775807

/-- A whole number times a unit, up to the limit. A missing field counts nothing. -/
def countOf? (unit : Nat) : Option (List Char) → Option Nat
  | none => some 0
  | some digits => do
    let n ← wholeNumber? digits
    if n ≤ maxCount ∧ n * unit ≤ maxCount then some (n * unit) else none

/-- The seconds of a field. A point in it has digits on both sides. -/
def secondsOf? : Option (List Char) → Option Decimal
  | none => some .zero
  | some text =>
    match cutAt? (· == '.') text with
    | none => if allDigits text then Decimal.ofDigits? false ⟨text, []⟩ else none
    | some (whole, fraction) =>
      if whole.isEmpty || fraction.isEmpty || !allDigits whole || !allDigits fraction then none
      else Decimal.ofDigits? false ⟨whole, fraction⟩

/-- What the fields of a text add up to, and which of the two families they come from. -/
structure Fields where
  negative : Bool
  months : Nat
  seconds : Decimal
  hasYearMonth : Bool
  hasDayTime : Bool

namespace Fields

/-- The text behind the letter `P`, split at the letter `T`. -/
def splitAtTime? (text : List Char) : Option (List Char × List Char) :=
  match cutAt? (· == 'T') text with
  | some (before, after) => if after.isEmpty then none else some (before, after)
  | none => if text.isEmpty then none else some (text, [])

/-- Add up whole seconds and the seconds of the last field. -/
def sumSeconds? (whole : Nat) (seconds : Decimal) : Option Decimal := do
  let count ← Decimal.ofInt? whole
  count.add? seconds

def readBody? (negative : Bool) (text : List Char) : Option Fields := do
  let (dateText, timeText) ← splitAtTime? text
  let (years, months, days) ← readFields? 'Y' 'M' 'D' dateText
  let (hours, minutes, seconds) ← readFields? 'H' 'M' 'S' timeText
  let yearCount ← countOf? 12 years
  let monthCount ← countOf? 1 months
  let dayCount ← countOf? 86400 days
  let hourCount ← countOf? 3600 hours
  let minuteCount ← countOf? 60 minutes
  let secondCount ← secondsOf? seconds
  let total ← sumSeconds? (dayCount + hourCount + minuteCount) secondCount
  if yearCount + monthCount ≤ maxCount then
    some ⟨negative, yearCount + monthCount, total, years.isSome || months.isSome,
      days.isSome || hours.isSome || minutes.isSome || seconds.isSome⟩
  else none

def read? : List Char → Option Fields
  | '-' :: 'P' :: text => readBody? true text
  | 'P' :: text => readBody? false text
  | _ => none

def yearMonth? (fields : Fields) : Option YearMonthDuration :=
  YearMonthDuration.ofMonths? (if fields.negative then -(fields.months : Int) else fields.months)

def dayTime (fields : Fields) : DayTimeDuration :=
  ⟨if fields.negative then fields.seconds.neg else fields.seconds⟩

end Fields

def read? (text : List Char) : Option Duration := do
  let fields ← Fields.read? text
  let yearMonth ← fields.yearMonth?
  ofParts? yearMonth fields.dayTime

/-- The whole units in a count of seconds, and what they leave over. -/
def splitUnits (seconds unit : Decimal) : Decimal × Decimal :=
  let count := DayTimeDuration.wholeUnits seconds unit
  (count, ((count.mul? unit).bind seconds.sub?).getD .zero)

/-- A field of the written form; zero is left out. -/
def fieldChars (count : Decimal) (letter : Char) : List Char :=
  if count.isZero then [] else count.toChars ++ [letter]

def monthFields (months : Nat) : List Char :=
  let years := if months / 12 = 0 then [] else Nat.toDigits 10 (months / 12) ++ ['Y']
  let rest := if months % 12 = 0 then [] else Nat.toDigits 10 (months % 12) ++ ['M']
  years ++ rest

def secondFields (seconds : Decimal) : List Char :=
  let (days, rest) := splitUnits seconds DayTimeDuration.day
  let (hours, rest) := splitUnits rest DayTimeDuration.hour
  let (minutes, seconds) := splitUnits rest DayTimeDuration.minute
  let clock := fieldChars hours 'H' ++ fieldChars minutes 'M' ++ fieldChars seconds 'S'
  fieldChars days 'D' ++ if clock.isEmpty then [] else 'T' :: clock

/-- The sign, the letter `P` and the fields; a duration of no length is written as given. -/
def componentChars (months : Int) (seconds : Decimal) (ofZero : String) : List Char :=
  if months = 0 && seconds.isZero then ofZero.toList
  else
    let sign := if months < 0 || (seconds.negative && !seconds.isZero) then ['-'] else []
    sign ++ 'P' :: monthFields months.natAbs ++ secondFields seconds.abs

def toText (d : Duration) : String :=
  String.ofList (componentChars d.yearMonth.months d.dayTime.seconds "PT0S")

end Duration

namespace YearMonthDuration

/-- Only fields for years and months are allowed. -/
def read? (text : List Char) : Option YearMonthDuration := do
  let fields ← Duration.Fields.read? text
  if fields.hasDayTime then none else fields.yearMonth?

def toText (d : YearMonthDuration) : String :=
  String.ofList (Duration.componentChars d.months .zero "P0M")

end YearMonthDuration

namespace DayTimeDuration

/-- Only fields for days and for the time are allowed. -/
def read? (text : List Char) : Option DayTimeDuration := do
  let fields ← Duration.Fields.read? text
  if fields.hasYearMonth then none else some fields.dayTime

def toText (d : DayTimeDuration) : String :=
  String.ofList (Duration.componentChars 0 d.seconds "PT0S")

end DayTimeDuration

end XPathValues
