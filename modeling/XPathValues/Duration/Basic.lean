import XPathValues.Calendar.Timezone
import XPathValues.Number.Decimal.Basic

/-!
# Durations

A duration is a count of months and a count of seconds, which never have opposite signs. A duration
of months alone and a duration of seconds alone are types of their own, since only those are
ordered. Months have 64 bits; seconds are a decimal.
-/

namespace XPathValues

namespace YearMonthDuration

/-- The count of months fits into 64 bits. -/
def InRange (months : Int) : Prop :=
  -9223372036854775808 ≤ months ∧ months ≤ 9223372036854775807

instance (months : Int) : Decidable (InRange months) := by
  unfold InRange
  infer_instance

end YearMonthDuration

structure YearMonthDuration where
  months : Int
  inRange : YearMonthDuration.InRange months
deriving DecidableEq

namespace YearMonthDuration

def zero : YearMonthDuration := ⟨0, by decide⟩

def ofMonths? (months : Int) : Option YearMonthDuration :=
  if h : InRange months then some ⟨months, h⟩ else none

def years (d : YearMonthDuration) : Int :=
  d.months.tdiv 12

/-- The months beyond whole years, with the sign of the duration. -/
def monthsOfYear (d : YearMonthDuration) : Int :=
  d.months.tmod 12

def add? (a b : YearMonthDuration) : Option YearMonthDuration :=
  ofMonths? (a.months + b.months)

def neg? (d : YearMonthDuration) : Option YearMonthDuration :=
  ofMonths? (-d.months)

theorem ofMonths?_eq_some_iff {months : Int} {d : YearMonthDuration} :
    ofMonths? months = some d ↔ d.months = months := by
  unfold ofMonths?
  constructor
  · intro h
    split at h
    · obtain rfl := Option.some.inj h
      rfl
    · cases h
  · rintro rfl
    exact dif_pos d.inRange

theorem ofMonths?_eq_none_iff {months : Int} : ofMonths? months = none ↔ ¬ InRange months := by
  unfold ofMonths?
  split <;> simp_all

theorem years_mul_add (d : YearMonthDuration) : d.years * 12 + d.monthsOfYear = d.months :=
  Int.tdiv_mul_add_tmod d.months 12

end YearMonthDuration

structure DayTimeDuration where
  seconds : Decimal
deriving DecidableEq

namespace DayTimeDuration

def zero : DayTimeDuration := ⟨.zero⟩

/-- The quotient by a unit of so many seconds, without its fraction. -/
def wholeUnits (seconds unit : Decimal) : Decimal :=
  ((seconds.div? unit).map Decimal.truncate).getD .zero

def minute : Decimal := .ofNat 60

def hour : Decimal := .ofNat 3600

def day : Decimal := .ofNat 86400

/-- What whole units leave over, with the sign of the count. -/
def beyond (seconds unit : Decimal) : Decimal :=
  (seconds.rem? unit).getD .zero

def days (d : DayTimeDuration) : Int :=
  (wholeUnits d.seconds day).toInt

/-- The whole hours beyond whole days, with the sign of the duration. -/
def hoursOfDay (d : DayTimeDuration) : Int :=
  (wholeUnits (beyond d.seconds day) hour).toInt

/-- The whole minutes beyond whole hours, with the sign of the duration. -/
def minutesOfHour (d : DayTimeDuration) : Int :=
  (wholeUnits (beyond d.seconds hour) minute).toInt

/-- The seconds beyond whole minutes, with the sign of the duration. -/
def secondsOfMinute (d : DayTimeDuration) : Decimal :=
  (beyond d.seconds minute).normalize

def add? (a b : DayTimeDuration) : Option DayTimeDuration :=
  (a.seconds.add? b.seconds).map .mk

def neg (d : DayTimeDuration) : DayTimeDuration := ⟨d.seconds.neg⟩

def ofTimezone (zone : Timezone) : DayTimeDuration :=
  ⟨⟨decide (zone.seconds < 0), zone.seconds.natAbs, 0, by
    have h := zone.bounded
    unfold Decimal.maxMagnitude
    omega, Nat.zero_le _⟩⟩

/-- The timezone with this offset: whole minutes within fourteen hours of UTC. The minutes are
counted in 32 bits. -/
def toTimezone? (d : DayTimeDuration) : Option Timezone := do
  if (beyond d.seconds minute).isZero then
    let minutes ← (wholeUnits d.seconds minute).toInt? 32
    Timezone.ofMinutes? minutes
  else none

end DayTimeDuration

namespace Duration

/-- Neither is negative while the other is positive. -/
def Agree (months : YearMonthDuration) (seconds : DayTimeDuration) : Prop :=
  ¬ (months.months < 0 ∧ 0 < seconds.seconds.toRat) ∧
    ¬ (0 < months.months ∧ seconds.seconds.toRat < 0)

instance (months : YearMonthDuration) (seconds : DayTimeDuration) :
    Decidable (Agree months seconds) := by
  unfold Agree
  infer_instance

theorem agree_zero_seconds (months : YearMonthDuration) : Agree months .zero := by
  constructor <;> rintro ⟨_, h⟩ <;> revert h <;> simp [DayTimeDuration.zero]

theorem agree_zero_months (seconds : DayTimeDuration) : Agree .zero seconds :=
  ⟨fun h => absurd h.1 (by decide), fun h => absurd h.1 (by decide)⟩

end Duration

structure Duration where
  yearMonth : YearMonthDuration
  dayTime : DayTimeDuration
  agree : Duration.Agree yearMonth dayTime
deriving DecidableEq

namespace Duration

/-- The two counts together, unless their signs are opposite. -/
def ofParts? (yearMonth : YearMonthDuration) (dayTime : DayTimeDuration) : Option Duration :=
  if h : Agree yearMonth dayTime then some ⟨yearMonth, dayTime, h⟩ else none

def ofYearMonth (d : YearMonthDuration) : Duration := ⟨d, .zero, agree_zero_seconds d⟩

def ofDayTime (d : DayTimeDuration) : Duration := ⟨.zero, d, agree_zero_months d⟩

/-- Equality in value; the scale of the seconds does not count. -/
def equalValue (a b : Duration) : Bool :=
  a.yearMonth.months == b.yearMonth.months && a.dayTime.seconds.equalValue b.dayTime.seconds

theorem equalValue_iff {a b : Duration} :
    a.equalValue b = true ↔ a.yearMonth.months = b.yearMonth.months ∧
      a.dayTime.seconds.toRat = b.dayTime.seconds.toRat := by
  simp [equalValue, Decimal.equalValue]

end Duration

end XPathValues
