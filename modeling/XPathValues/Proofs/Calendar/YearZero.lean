import Mathlib.Tactic
import XPathValues.Proofs.Calendar.Reading

/-!
# The year 0

No text names the year 0, but the end of the last day before it is read as its first moment. This is
the only value in that year that a reader gives.
-/

namespace XPathValues

open Calendar

namespace CalendarDate

variable {date next : CalendarDate} {text : List Char}

theorem year_ne_zero_of_read? (h : read? text = some date) : date.year ≠ 0 := by
  obtain ⟨l, _, hdenotes⟩ := read?_eq_some_iff.mp h
  rw [hdenotes.year]
  exact l.year.value_ne_zero

theorem dayNumber_inj {a b : CalendarDate} (h : a.dayNumber = b.dayNumber) : a = b := by
  have ha := ofDayNumber?_dayNumber a
  rw [h, ofDayNumber?_dayNumber] at ha
  exact (Option.some.inj ha).symm

theorem dayNumber_bounds (date : CalendarDate) :
    daysBeforeYear date.year ≤ date.dayNumber ∧
      date.dayNumber < daysBeforeYear (date.year + 1) := by
  have hlt := dayOfYear_lt date
  have hsucc := daysBeforeYear_succ date.year
  unfold dayNumber
  constructor <;> omega

def firstOfYearZero : CalendarDate := ⟨0, 1, 1, by decide⟩

theorem eq_firstOfYearZero_of_next? (h : date.next? = some next) (hdate : date.year ≠ 0)
    (hnext : next.year = 0) : next = firstOfYearZero := by
  have hnumber : next.dayNumber = date.dayNumber + 1 := dayNumber_of_ofDayNumber? h
  have hbounds := dayNumber_bounds next
  rw [hnext] at hbounds
  have hbefore : date.dayNumber < daysBeforeYear 0 := by
    by_contra hge
    have hyear : yearOfDay date.dayNumber = 0 := yearOfDay_unique (not_lt.mp hge) (by omega)
    have hself := yearOfDay_unique (dayNumber_bounds date).1 (dayNumber_bounds date).2
    exact hdate (hself.symm.trans hyear)
  apply dayNumber_inj
  have hfirst : firstOfYearZero.dayNumber = daysBeforeYear 0 := by decide
  omega

end CalendarDate

namespace Moment

def startOfYearZero : Moment := .startOfDay CalendarDate.firstOfYearZero

theorem eq_startOfYearZero_of_read? {text : List Char} {m : Moment} (h : read? text = some m)
    (hyear : m.date.year = 0) : m = startOfYearZero := by
  obtain ⟨l, _, hdenotes⟩ := read?_eq_some_iff.mp h
  have hne := l.date.year.value_ne_zero
  obtain ⟨date, time⟩ := m
  cases hdenotes with
  | within hdate htime => exact absurd (hdate.year.symm.trans hyear) hne
  | endOfDay hdate htime hnext =>
    obtain rfl := htime.eq_midnight
    obtain rfl := CalendarDate.eq_firstOfYearZero_of_next?
      (CalendarDate.next?_eq_some_iff.mpr hnext) (hdate.year.trans_ne hne) hyear
    rfl

end Moment

theorem YearMonth.year_ne_zero_of_read? {text : List Char} {x : YearMonth}
    (h : read? text = some x) : x.year ≠ 0 := by
  obtain ⟨l, _, hdenotes⟩ := read?_eq_some_iff.mp h
  rw [hdenotes.year]
  exact l.year.value_ne_zero

theorem CalendarYear.year_ne_zero_of_read? {text : List Char} {x : CalendarYear}
    (h : read? text = some x) : x.year ≠ 0 := by
  obtain ⟨l, _, hyear⟩ := read?_eq_some_iff.mp h
  rw [hyear]
  exact l.value_ne_zero

end XPathValues
