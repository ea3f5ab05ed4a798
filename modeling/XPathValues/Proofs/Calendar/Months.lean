import Mathlib.Tactic
import XPathValues.Proofs.Calendar.Timeline

/-!
# Counting in months

The months of the calendar are numbered without a gap, and the first days of months follow each
other in that order. So dates are ordered by their month and then by their day, and moving two dates
by the same count of months keeps their order, even where a day is cut down to the last of its
month.
-/

namespace XPathValues

namespace Calendar

def monthOfIndex (index : ℤ) : ℕ := (index % 12).toNat + 1

def firstOfMonth (index : ℤ) : ℤ :=
  daysBeforeYear (index / 12) + daysBeforeMonth (index / 12) (monthOfIndex index)

/-- The year of a numbered month is in the calendar. -/
def IsMonthIndex (index : ℤ) : Prop :=
  minYear ≤ index / 12 ∧ index / 12 ≤ maxYear

instance (index : ℤ) : Decidable (IsMonthIndex index) := by
  unfold IsMonthIndex
  infer_instance

theorem monthOfIndex_bounds (index : ℤ) : 1 ≤ monthOfIndex index ∧ monthOfIndex index ≤ 12 := by
  unfold monthOfIndex
  omega

/-- The next month starts when the days of this one are over, also across the end of a year. -/
theorem firstOfMonth_succ (index : ℤ) :
    firstOfMonth (index + 1) =
      firstOfMonth index + monthLength (index / 12) (monthOfIndex index) := by
  -- Only a December is followed by a month of another year, where the days are counted anew.
  by_cases hdecember : index % 12 = 11
  · have hyear : (index + 1) / 12 = index / 12 + 1 := by omega
    have hjanuary : monthOfIndex (index + 1) = 1 := by
      unfold monthOfIndex
      omega
    have hmonth : monthOfIndex index = 12 := by
      unfold monthOfIndex
      omega
    have hone : daysBeforeMonth (index / 12 + 1) 1 = 0 := rfl
    have hwhole : daysBeforeMonth (index / 12) 13 =
        daysBeforeMonth (index / 12) 12 + monthLength (index / 12) 12 := rfl
    have hlength := CalendarDate.daysBeforeMonth_thirteen (index / 12)
    have hnext := CalendarDate.daysBeforeYear_succ (index / 12)
    rw [firstOfMonth, firstOfMonth, hyear, hjanuary, hmonth, hone, hnext]
    omega
  · have hyear : (index + 1) / 12 = index / 12 := by omega
    have hmonth : monthOfIndex (index + 1) = monthOfIndex index + 1 := by
      unfold monthOfIndex
      omega
    have hstep : daysBeforeMonth (index / 12) (monthOfIndex index + 1) =
        daysBeforeMonth (index / 12) (monthOfIndex index) +
          monthLength (index / 12) (monthOfIndex index) := rfl
    rw [firstOfMonth, firstOfMonth, hyear, hmonth, hstep]
    omega

theorem firstOfMonth_mono : Monotone firstOfMonth := by
  refine monotone_int_of_le_succ fun index => ?_
  rw [firstOfMonth_succ]
  omega

end Calendar

namespace CalendarDate

open Calendar

variable {a a' b b' : CalendarDate} {m : ℤ}

/-- The number of the month, counted from January of the year 0. -/
def monthIndex (date : CalendarDate) : ℤ := 12 * date.year + (date.month - 1)

theorem monthIndex_ediv (date : CalendarDate) : date.monthIndex / 12 = date.year := by
  obtain ⟨_, _, _, _, _⟩ := date.valid
  unfold monthIndex
  omega

theorem monthOfIndex_monthIndex (date : CalendarDate) :
    monthOfIndex date.monthIndex = date.month := by
  obtain ⟨_, _, _, _, _⟩ := date.valid
  unfold monthOfIndex monthIndex
  omega

theorem dayNumber_eq (date : CalendarDate) :
    date.dayNumber = firstOfMonth date.monthIndex + (date.day - 1 : ℕ) := by
  rw [firstOfMonth, monthIndex_ediv, monthOfIndex_monthIndex, dayNumber]

theorem dayNumber_lt_firstOfMonth (date : CalendarDate) :
    date.dayNumber < firstOfMonth (date.monthIndex + 1) := by
  obtain ⟨_, _, _, _, hday, hday'⟩ := date.valid
  rw [firstOfMonth_succ, dayNumber_eq, monthIndex_ediv, monthOfIndex_monthIndex]
  omega

theorem dayNumber_lt_of_monthIndex_lt (h : a.monthIndex < b.monthIndex) :
    a.dayNumber < b.dayNumber := by
  have hmonths := firstOfMonth_mono (show a.monthIndex + 1 ≤ b.monthIndex from h)
  have ha := a.dayNumber_lt_firstOfMonth
  have hb := b.dayNumber_eq
  omega

theorem dayNumber_le_iff :
    a.dayNumber ≤ b.dayNumber ↔
      a.monthIndex < b.monthIndex ∨ a.monthIndex = b.monthIndex ∧ a.day ≤ b.day := by
  rcases lt_trichotomy a.monthIndex b.monthIndex with hlt | heq | hgt
  · have hdays := dayNumber_lt_of_monthIndex_lt hlt
    exact iff_of_true hdays.le (Or.inl hlt)
  · obtain ⟨_, _, _, _, ha, _⟩ := a.valid
    obtain ⟨_, _, _, _, hb, _⟩ := b.valid
    rw [a.dayNumber_eq, b.dayNumber_eq, heq]
    omega
  · have hdays := dayNumber_lt_of_monthIndex_lt hgt
    omega

/-- The second date is so many months after the first, on the same day or on the last day of a
month that is too short for it. -/
structure MovesByMonths (m : ℤ) (a b : CalendarDate) : Prop where
  index : b.monthIndex = a.monthIndex + m
  day : b.day = min a.day (monthLength b.year b.month)

theorem shiftMonths?_eq (date : CalendarDate) (m : ℤ) :
    date.shiftMonths? m =
      ofParts? ((date.monthIndex + m) / 12) (monthOfIndex (date.monthIndex + m))
        (min date.day
          (monthLength ((date.monthIndex + m) / 12) (monthOfIndex (date.monthIndex + m)))) := by
  have hindex : date.year * 12 + (date.month : ℤ) - 1 + m = date.monthIndex + m := by
    unfold monthIndex
    omega
  unfold shiftMonths?
  dsimp only
  rw [hindex]
  rfl

theorem shiftMonths?_eq_some_iff : a.shiftMonths? m = some b ↔ MovesByMonths m a b := by
  rw [shiftMonths?_eq, ofParts?_eq_some_iff]
  constructor
  · rintro ⟨hyear, hmonth, hday⟩
    refine ⟨?_, ?_⟩
    · unfold monthOfIndex at hmonth
      unfold monthIndex at *
      omega
    · rw [hday, hyear, hmonth]
  · rintro ⟨hmoved, hday⟩
    rw [← hmoved, monthIndex_ediv, monthOfIndex_monthIndex]
    exact ⟨rfl, rfl, hday⟩

/-- Only the years of the calendar limit the move. -/
theorem isSome_shiftMonths?_iff :
    (a.shiftMonths? m).isSome = true ↔ IsMonthIndex (a.monthIndex + m) := by
  constructor
  · intro h
    obtain ⟨b, hb⟩ := Option.isSome_iff_exists.mp h
    rw [← (shiftMonths?_eq_some_iff.mp hb).index, IsMonthIndex, monthIndex_ediv]
    exact ⟨b.valid.1, b.valid.2.1⟩
  · rintro ⟨hlo, hhi⟩
    obtain ⟨hmonth, hmonth'⟩ := monthOfIndex_bounds (a.monthIndex + m)
    have hfirst := one_le_monthLength ((a.monthIndex + m) / 12) hmonth hmonth'
    have hday : 1 ≤ a.day := a.valid.2.2.2.2.1
    rw [shiftMonths?_eq, ofParts?,
      dif_pos ⟨hlo, hhi, hmonth, hmonth', le_min hday hfirst, min_le_right _ _⟩]
    rfl

theorem shiftMonths?_eq_none (h : UInt32.size ≤ m.natAbs) : a.shiftMonths? m = none := by
  rw [← Option.not_isSome_iff_eq_none, isSome_shiftMonths?_iff]
  obtain ⟨hlo, hhi, _, _, _⟩ := a.valid
  have hyear := a.monthIndex_ediv
  unfold UInt32.size at h
  unfold IsMonthIndex
  unfold minYear at *
  unfold maxYear at *
  omega

/-- A later day of a month is not cut down to one before an earlier day of it. -/
theorem MovesByMonths.dayNumber_le (ha : MovesByMonths m a a') (hb : MovesByMonths m b b')
    (hle : a.dayNumber ≤ b.dayNumber) : a'.dayNumber ≤ b'.dayNumber := by
  rw [dayNumber_le_iff] at hle ⊢
  rcases hle with hlt | ⟨heq, hday⟩
  · have hmonths : a'.monthIndex < b'.monthIndex := by
      rw [ha.index, hb.index]
      omega
    exact Or.inl hmonths
  · have hmonths : a'.monthIndex = b'.monthIndex := by rw [ha.index, hb.index, heq]
    refine Or.inr ⟨hmonths, ?_⟩
    rw [ha.day, hb.day, ← monthIndex_ediv a', ← monthOfIndex_monthIndex a', hmonths,
      monthIndex_ediv, monthOfIndex_monthIndex]
    exact min_le_min_right _ hday

end CalendarDate

end XPathValues
