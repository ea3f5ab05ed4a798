import XPathValues.Calendar.Seconds
import XPathValues.Function.Body

/-!
# Functions that take values apart

The components of dates, times, durations and qualified names.
-/

namespace XPathValues

theorem CalendarDate.natAbs_year_le (date : CalendarDate) :
    date.year.natAbs ≤ 79228162514264337593543950335 := by
  obtain ⟨hlo, hhi, _⟩ := date.valid
  unfold Calendar.minYear at hlo
  unfold Calendar.maxYear at hhi
  omega

theorem CalendarDate.day_le (date : CalendarDate) : date.day ≤ 31 :=
  Nat.le_trans date.valid.2.2.2.2.2
    (monthLength_le_december date.year date.month)

theorem YearMonthDuration.natAbs_years_le (d : YearMonthDuration) :
    d.years.natAbs ≤ 79228162514264337593543950335 := by
  have h := d.inRange
  unfold InRange at h
  have hdiv := Int.natAbs_tdiv_le_natAbs d.months 12
  unfold years
  omega

theorem YearMonthDuration.natAbs_monthsOfYear_le (d : YearMonthDuration) :
    d.monthsOfYear.natAbs ≤ 79228162514264337593543950335 := by
  have h : d.monthsOfYear.natAbs = d.months.natAbs % 12 := Int.natAbs_tmod ..
  omega

namespace FunctionBody

def ofDateTime (f : DateTime → Sequence) : FunctionBody :=
  map .dateTime AtomicValue.asDateTimeOnly? f

def ofDate (f : Date → Sequence) : FunctionBody :=
  map .date AtomicValue.asDate? f

def ofTime (f : Time → Sequence) : FunctionBody :=
  map .time AtomicValue.asTime? f

def ofDuration (f : Duration → Sequence) : FunctionBody :=
  map .duration AtomicValue.asDuration? f

def ofQName (f : QName → Sequence) : FunctionBody :=
  map .qname AtomicValue.asQName? f

end FunctionBody

namespace Sequence

def yearOf (date : CalendarDate) : Sequence :=
  ofInteger date.year date.natAbs_year_le

def monthOf (date : CalendarDate) : Sequence :=
  ofInteger date.month (by have h := date.month_bounds; omega)

def dayOf (date : CalendarDate) : Sequence :=
  ofInteger date.day (by have h := date.day_le; omega)

def hoursOf (time : TimeOfDay) : Sequence :=
  ofInteger time.hours (by have h := time.hours_lt; omega)

def minutesOf (time : TimeOfDay) : Sequence :=
  ofInteger time.minutes (by have h := time.minutes_lt; omega)

def secondsOf (time : TimeOfDay) : Sequence :=
  single (.decimal time.secondsWithFraction)

def yearsOfDuration (d : Duration) : Sequence :=
  ofInteger d.yearMonth.years d.yearMonth.natAbs_years_le

def monthsOfDuration (d : Duration) : Sequence :=
  ofInteger d.yearMonth.monthsOfYear d.yearMonth.natAbs_monthsOfYear_le

def daysOfDuration (d : Duration) : Sequence :=
  ofInteger d.dayTime.days (Decimal.natAbs_toInt_le _)

def hoursOfDuration (d : Duration) : Sequence :=
  ofInteger d.dayTime.hoursOfDay (Decimal.natAbs_toInt_le _)

def minutesOfDuration (d : Duration) : Sequence :=
  ofInteger d.dayTime.minutesOfHour (Decimal.natAbs_toInt_le _)

def secondsOfDuration (d : Duration) : Sequence :=
  single (.decimal d.dayTime.secondsOfMinute)

def qualifierOf (name : QName) : Sequence :=
  match name.qualifier with
  | some qualifier => ofText qualifier
  | none => []

/-- A name without a namespace has the empty one. -/
def namespaceOf (name : QName) : Sequence :=
  single (.anyURI (name.uri.getD ""))

end Sequence

end XPathValues
