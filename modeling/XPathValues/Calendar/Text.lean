import XPathValues.Calendar.Moment
import XPathValues.Text.Digits

/-!
# Reading and writing dates and times of day

A year has at least four digits and no other zero in front than those that fill it up to four; the
year 0 has no lexical form, though the calendar has that year and writes it `0000`. Months, days,
hours, minutes and seconds have two digits each. The end of a day, `24:00:00`, is read as the
midnight after it. A fraction of a second may have any number of digits, of which nine are kept.
-/

namespace XPathValues

open Text

namespace Calendar

def readYear? (text : List Char) : Option (Int × List Char) :=
  let (negative, body) :=
    match text with
    | '-' :: rest => (true, rest)
    | _ => (false, text)
  let digits := body.takeWhile Char.isDigit
  let year : Int := digitsValue digits
  if digits.length < 4 || (4 < digits.length && digits.head? == some '0') || year == 0 then none
  else some (if negative then -year else year, body.dropWhile Char.isDigit)

def yearChars (year : Int) : List Char :=
  if year < 0 then '-' :: padded 4 year.natAbs else padded 4 year.natAbs

def readMonthDay? : List Char → Option (Nat × Nat)
  | [m₁, m₂, hyphen, d₁, d₂] =>
    if hyphen = '-' then do
      let month ← twoDigits? [m₁, m₂]
      let day ← twoDigits? [d₁, d₂]
      some (month, day)
    else none
  | _ => none

def monthDayChars (month day : Nat) : List Char :=
  padded 2 month ++ '-' :: padded 2 day

end Calendar

namespace CalendarDate

open Calendar

def read? (text : List Char) : Option CalendarDate := do
  let (year, rest) ← readYear? text
  match rest with
  | '-' :: rest => do
    let (month, day) ← readMonthDay? rest
    ofParts? year month day
  | _ => none

def toChars (date : CalendarDate) : List Char :=
  yearChars date.year ++ '-' :: monthDayChars date.month date.day

def next? (date : CalendarDate) : Option CalendarDate :=
  ofDayNumber? (date.dayNumber + 1)

end CalendarDate

namespace TimeOfDay

/-- The nanoseconds that a fraction denotes. No fraction at all is also allowed. -/
def readFraction? : List Char → Option Nat
  | [] => some 0
  | '.' :: digits =>
    if digits.isEmpty || !allDigits digits then none
    else some (digitsValue ((digits ++ List.replicate 9 '0').take 9))
  | _ => none

/-- The time, and whether it stands at the end of its day. -/
def readClock? : List Char → Option (TimeOfDay × Bool)
  | h₁ :: h₂ :: colon :: m₁ :: m₂ :: colon' :: s₁ :: s₂ :: rest =>
    if colon = ':' ∧ colon' = ':' then do
      let hours ← twoDigits? [h₁, h₂]
      let minutes ← twoDigits? [m₁, m₂]
      let seconds ← twoDigits? [s₁, s₂]
      let fraction ← readFraction? rest
      if hours = 24 then
        if minutes = 0 ∧ seconds = 0 ∧ fraction = 0 then some (midnight, true) else none
      else (ofParts? hours minutes seconds fraction).map fun time => (time, false)
    else none
  | _ => none

/-- The time alone; the end of the day is midnight. -/
def read? (text : List Char) : Option TimeOfDay :=
  (readClock? text).map Prod.fst

/-- The digits of the fraction behind the point, without zeros at the end. -/
def fractionChars (time : TimeOfDay) : List Char :=
  if time.fraction = 0 then [] else '.' :: dropTrailingZeros (padded 9 time.fraction)

def toChars (time : TimeOfDay) : List Char :=
  padded 2 time.hours ++ ':' :: padded 2 time.minutes ++ ':' :: padded 2 time.seconds ++
    time.fractionChars

end TimeOfDay

namespace Moment

def read? (text : List Char) : Option Moment := do
  let (dateText, timeText) ← cutAt? (· == 'T') text
  let date ← CalendarDate.read? dateText
  let (time, atEnd) ← TimeOfDay.readClock? timeText
  if atEnd then date.next?.map fun next => ⟨next, time⟩ else some ⟨date, time⟩

def toChars (m : Moment) : List Char :=
  m.date.toChars ++ 'T' :: m.time.toChars

def toText (m : Moment) : String :=
  String.ofList m.toChars

end Moment

end XPathValues
