import Mathlib.Tactic
import XPathValues.Proofs.Calendar.YearZero

/-!
# The ends of the calendar

The days of the calendar are numbered without a gap, and so are its moments. A number therefore
belongs to one of them if and only if it lies between the numbers of the first and the last, and a
value has an instant exactly when its place, moved to UTC, stays within these ends. Between two
moments there is no leap second.
-/

namespace XPathValues

open Calendar

namespace CalendarDate

variable {n year : ℤ}

def first : CalendarDate := ⟨minYear, 1, 1, by decide⟩

def last : CalendarDate := ⟨maxYear, 12, 31, by decide⟩

theorem splitMonths_bounds (year : ℤ) (steps month offset : ℕ)
    (h : daysBeforeMonth year month + offset < daysBeforeMonth year (month + steps + 1)) :
    month ≤ (splitMonths year steps month offset).1 ∧
      (splitMonths year steps month offset).1 ≤ month + steps ∧
      1 ≤ (splitMonths year steps month offset).2 ∧
      (splitMonths year steps month offset).2 ≤
        monthLength year (splitMonths year steps month offset).1 := by
  induction steps generalizing month offset with
  | zero =>
    have hstep : daysBeforeMonth year (month + 0 + 1) =
        daysBeforeMonth year month + monthLength year month := rfl
    simp only [splitMonths]
    omega
  | succ steps ih =>
    have hstep : daysBeforeMonth year (month + 1) =
        daysBeforeMonth year month + monthLength year month := rfl
    unfold splitMonths
    split
    · dsimp only
      omega
    · next hge =>
      rw [show month + (steps + 1) + 1 = month + 1 + steps + 1 by omega] at h
      have hnext := ih (month + 1) (offset - monthLength year month) (by omega)
      omega

theorem isSome_ofDayNumber?_of_year (hlo : minYear ≤ yearOfDay n) (hhi : yearOfDay n ≤ maxYear) :
    (ofDayNumber? n).isSome = true := by
  have hspec := yearOfDay_spec n
  have hsucc := daysBeforeYear_succ (yearOfDay n)
  have hone : daysBeforeMonth (yearOfDay n) 1 = 0 := rfl
  have hbounds := splitMonths_bounds (yearOfDay n) 11 1 (n - daysBeforeYear (yearOfDay n)).toNat
    (by rw [show 1 + 11 + 1 = 13 from rfl, daysBeforeMonth_thirteen]; omega)
  have hdate : IsDate (yearOfDay n)
      (splitMonths (yearOfDay n) 11 1 (n - daysBeforeYear (yearOfDay n)).toNat).1
      (splitMonths (yearOfDay n) 11 1 (n - daysBeforeYear (yearOfDay n)).toNat).2 := by
    refine ⟨hlo, hhi, hbounds.1, ?_, hbounds.2.2⟩
    exact hbounds.2.1
  simp [ofDayNumber?, ofParts?, hdate]

theorem isSome_ofDayNumber?_iff :
    (ofDayNumber? n).isSome = true ↔ first.dayNumber ≤ n ∧ n ≤ last.dayNumber := by
  have hfirst : first.dayNumber = daysBeforeYear minYear := by decide
  have hlast : last.dayNumber + 1 = daysBeforeYear (maxYear + 1) := by decide
  constructor
  · intro h
    obtain ⟨date, hdate⟩ := Option.isSome_iff_exists.mp h
    obtain rfl := dayNumber_of_ofDayNumber? hdate
    obtain ⟨hstart, hend⟩ := dayNumber_bounds date
    have hlo := daysBeforeYear_mono date.valid.1
    have hhi := daysBeforeYear_mono (show date.year + 1 ≤ maxYear + 1 by
      have h := date.valid.2.1
      omega)
    omega
  · rintro ⟨hlo, hhi⟩
    obtain ⟨hstart, hend⟩ := yearOfDay_spec n
    apply isSome_ofDayNumber?_of_year
    · by_contra hbefore
      have hmono := daysBeforeYear_mono (show yearOfDay n + 1 ≤ minYear by omega)
      omega
    · by_contra hafter
      have hmono := daysBeforeYear_mono (show maxYear + 1 ≤ yearOfDay n by omega)
      omega

end CalendarDate

def TimeOfDay.last : TimeOfDay := ⟨dayLength - 1, by decide⟩

namespace Moment

variable {n : ℤ} {m moved : Moment}

def first : Moment := .startOfDay .first

def last : Moment := ⟨.last, .last⟩

/-- The numbers of the moments of the calendar. -/
def InCalendar (n : ℤ) : Prop :=
  first.nanos ≤ n ∧ n ≤ last.nanos

instance (n : ℤ) : Decidable (InCalendar n) := by
  unfold InCalendar
  infer_instance

theorem isSome_ofNanos?_iff : (ofNanos? n).isSome = true ↔ InCalendar n := by
  have hfirst : first.nanos = CalendarDate.first.dayNumber * 86400000000000 := by decide
  have hlast : last.nanos = CalendarDate.last.dayNumber * 86400000000000 + 86399999999999 := by
    decide
  rw [ofNanos?, Option.isSome_map, CalendarDate.isSome_ofDayNumber?_iff, InCalendar, hfirst, hlast]
  unfold TimeOfDay.dayLength
  omega

theorem inCalendar_nanos (m : Moment) : InCalendar m.nanos := by
  rw [← isSome_ofNanos?_iff, ofNanos?_nanos]
  rfl

end Moment

namespace Zoned

variable {α : Type} [CalendarPart α] {x : Zoned α} {zone : Timezone} {m : Moment}

/-- The number that the instant has, or would have beyond the ends of the calendar. -/
def utcNanos (x : Zoned α) (implicitZone : Timezone) : ℤ :=
  x.anchor.nanos - (x.zone.getD implicitZone).seconds * TimeOfDay.second

theorem instant_eq_ok_iff_nanos : x.instant zone = .ok m ↔ m.nanos = x.utcNanos zone := by
  rw [instant_eq_ok_iff, Moment.shiftSeconds?, Moment.shift?_eq_some_iff, utcNanos, Int.neg_mul,
    Int.sub_eq_add_neg]

theorem exists_instant_iff :
    (∃ m, x.instant zone = .ok m) ↔ Moment.InCalendar (x.utcNanos zone) := by
  simp only [instant_eq_ok_iff_nanos]
  constructor
  · rintro ⟨m, hm⟩
    rw [← hm]
    exact m.inCalendar_nanos
  · intro h
    obtain ⟨m, hm⟩ := Option.isSome_iff_exists.mp (Moment.isSome_ofNanos?_iff.mpr h)
    exact ⟨m, Moment.nanos_ofNanos? hm⟩

end Zoned

end XPathValues
