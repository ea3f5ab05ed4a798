import XPathValues.Calendar.Clock
import XPathValues.Calendar.Date

/-!
# Moments

A moment is a date and a time of day on one calendar, without a zone. Moments are numbered by the
nanoseconds since the start of year 1, and that number carries their order and their arithmetic.
-/

namespace XPathValues

structure Moment where
  date : CalendarDate
  time : TimeOfDay
deriving DecidableEq

namespace Moment

def startOfDay (date : CalendarDate) : Moment := ⟨date, .midnight⟩

/-- Nanoseconds since the start of year 1. -/
def nanos (m : Moment) : Int :=
  m.date.dayNumber * TimeOfDay.dayLength + m.time.nanos

def ofNanos? (n : Int) : Option Moment :=
  (CalendarDate.ofDayNumber? (n / TimeOfDay.dayLength)).map fun date =>
    ⟨date, TimeOfDay.midnight.shift n⟩

/-- Move by so many nanoseconds, within the calendar. -/
def shift? (m : Moment) (nanos : Int) : Option Moment :=
  ofNanos? (m.nanos + nanos)

def shiftSeconds? (m : Moment) (seconds : Int) : Option Moment :=
  m.shift? (seconds * TimeOfDay.second)

def compare (a b : Moment) : Ordering :=
  if a.nanos < b.nanos then .lt else if a.nanos = b.nanos then .eq else .gt

private theorem dayLength_pos : (0 : Int) < TimeOfDay.dayLength := by decide

private theorem nanos_midnight : (TimeOfDay.midnight.nanos : Int) = 0 := rfl

theorem nanos_ofNanos? {n : Int} {m : Moment} (h : ofNanos? n = some m) : m.nanos = n := by
  obtain ⟨date, hdate, rfl⟩ := Option.map_eq_some_iff.mp h
  have hday := CalendarDate.dayNumber_of_ofDayNumber? hdate
  have hdiv := Int.mul_ediv_add_emod n TimeOfDay.dayLength
  unfold nanos
  simp only [hday, TimeOfDay.nanos_shift, nanos_midnight, Int.zero_add]
  rw [Int.mul_comm]
  exact hdiv

theorem ofNanos?_nanos (m : Moment) : ofNanos? m.nanos = some m := by
  have hlt : (m.time.nanos : Int) < TimeOfDay.dayLength := by
    exact_mod_cast m.time.bounded
  have hdiv : m.nanos / TimeOfDay.dayLength = m.date.dayNumber := by
    unfold nanos
    rw [Int.add_comm, Int.add_mul_ediv_right _ _ (Int.ne_of_gt dayLength_pos),
      Int.ediv_eq_zero_of_lt (Int.natCast_nonneg _) hlt, Int.zero_add]
  have hmod : m.nanos % TimeOfDay.dayLength = m.time.nanos := by
    unfold nanos
    rw [Int.add_comm, Int.add_mul_emod_self_right, Int.emod_eq_of_lt (Int.natCast_nonneg _) hlt]
  have htime : ((TimeOfDay.midnight.shift m.nanos).nanos : Int) = m.time.nanos := by
    rw [TimeOfDay.nanos_shift, nanos_midnight, Int.zero_add, hmod]
  unfold ofNanos?
  rw [hdiv, CalendarDate.ofDayNumber?_dayNumber, Option.map_some,
    TimeOfDay.eq_of_nanos_eq htime]

theorem nanos_inj {a b : Moment} (h : a.nanos = b.nanos) : a = b := by
  have ha := ofNanos?_nanos a
  rw [h, ofNanos?_nanos b] at ha
  exact (Option.some.inj ha).symm

theorem nanos_shift? {m moved : Moment} {n : Int} (h : m.shift? n = some moved) :
    moved.nanos = m.nanos + n :=
  nanos_ofNanos? h

theorem shift?_eq_some_iff {m moved : Moment} {n : Int} :
    m.shift? n = some moved ↔ moved.nanos = m.nanos + n := by
  refine ⟨nanos_shift?, fun h => ?_⟩
  rw [shift?, ← h]
  exact ofNanos?_nanos moved

theorem compare_eq_eq_iff {a b : Moment} : compare a b = .eq ↔ a = b := by
  unfold compare
  constructor
  · intro h
    split at h
    · cases h
    · split at h
      · next heq => exact nanos_inj heq
      · cases h
  · rintro rfl
    simp

end Moment

end XPathValues
