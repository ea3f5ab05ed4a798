import XPathValues.Calendar.Moment
import XPathValues.Calendar.TimeSpan

/-!
# Seconds on the calendar

Clocks count nanoseconds, durations count seconds as decimals, and spans of time go between the two.
Any two moments of the calendar are near enough to each other for a span.
-/

namespace XPathValues

/-- The seconds of the clock together with their fraction, which always fit a decimal. -/
def TimeOfDay.secondsWithFraction (time : TimeOfDay) : Decimal :=
  (Decimal.ofSeconds? time.seconds time.fraction).getD .zero

namespace Moment

open Calendar

theorem nanos_bounds (m : Moment) :
    -9000000000000000000000 ≤ m.nanos ∧ m.nanos ≤ 9000000000000000000000 := by
  have hday := CalendarDate.dayOfYear_lt m.date
  have hyear : yearLength m.date.year ≤ 366 := by
    unfold yearLength
    split <;> decide
  obtain ⟨hlo, hhi, _⟩ := m.date.valid
  have htime := m.time.bounded
  unfold minYear at hlo
  unfold maxYear at hhi
  unfold nanos CalendarDate.dayNumber daysBeforeYear
  unfold TimeOfDay.dayLength at *
  omega

/-- The span from one moment to another, negative when the other is earlier. -/
def since (m start : Moment) : TimeSpan :=
  ⟨(m.nanos - start.nanos) / 1000000000, ((m.nanos - start.nanos) % 1000000000).toNat, by
    have h := m.nanos_bounds
    have h' := start.nanos_bounds
    unfold TimeSpan.InRange TimeSpan.maxNanos
    omega⟩

/-- The seconds from one moment to another, which always fit a decimal. -/
def secondsSince (m start : Moment) : Decimal :=
  (m.since start).toDecimal?.getD .zero

theorem length_since (m start : Moment) : (m.since start).length = m.nanos - start.nanos := by
  unfold TimeSpan.length since
  dsimp only
  omega

end Moment

end XPathValues
