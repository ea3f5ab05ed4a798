/-!
# The calendar

The Gregorian calendar, extended to all years of a fixed range. The years are numbered without a
gap, so there is a year 0, which no lexical form can name. Days are also numbered one after the
other; `dayNumber` and `ofDayNumber?` are inverse to each other.
-/

namespace XPathValues

namespace Calendar

def minYear : Int := -262143

def maxYear : Int := 262142

def isLeapYear (year : Int) : Bool :=
  year % 4 == 0 && (year % 100 != 0 || year % 400 == 0)

def monthLength (year : Int) : Nat → Nat
  | 1 => 31
  | 2 => if isLeapYear year then 29 else 28
  | 3 => 31
  | 4 => 30
  | 5 => 31
  | 6 => 30
  | 7 => 31
  | 8 => 31
  | 9 => 30
  | 10 => 31
  | 11 => 30
  | 12 => 31
  | _ => 0

def yearLength (year : Int) : Nat :=
  if isLeapYear year then 366 else 365

def daysBeforeMonth (year : Int) : Nat → Nat
  | 0 => 0
  | month + 1 => daysBeforeMonth year month + monthLength year month

/-- The number of the first day of a year, counted from the first day of year 1. -/
def daysBeforeYear (year : Int) : Int :=
  365 * (year - 1) + (year - 1) / 4 - (year - 1) / 100 + (year - 1) / 400

/-- The year and the month of the calendar, and a day that the month has. -/
def IsDate (year : Int) (month day : Nat) : Prop :=
  minYear ≤ year ∧ year ≤ maxYear ∧ 1 ≤ month ∧ month ≤ 12 ∧
    1 ≤ day ∧ day ≤ monthLength year month

instance (year : Int) (month day : Nat) : Decidable (IsDate year month day) := by
  unfold IsDate
  infer_instance

def IsMonth (year : Int) (month : Nat) : Prop :=
  minYear ≤ year ∧ year ≤ maxYear ∧ 1 ≤ month ∧ month ≤ 12

instance (year : Int) (month : Nat) : Decidable (IsMonth year month) := by
  unfold IsMonth
  infer_instance

end Calendar

structure CalendarDate where
  year : Int
  month : Nat
  day : Nat
  valid : Calendar.IsDate year month day
deriving DecidableEq

namespace CalendarDate

open Calendar

def ofParts? (year : Int) (month day : Nat) : Option CalendarDate :=
  if h : IsDate year month day then some ⟨year, month, day, h⟩ else none

/-- The number of a day, counted from the first day of year 1. -/
def dayNumber (date : CalendarDate) : Int :=
  daysBeforeYear date.year + daysBeforeMonth date.year date.month + (date.day - 1 : Nat)

/-- The year that a numbered day falls into. Its mean length gives a year that is right or one
off. -/
def yearOfDay (n : Int) : Int :=
  let estimate := n * 400 / 146097 + 1
  if n < daysBeforeYear estimate then estimate - 1
  else if daysBeforeYear (estimate + 1) ≤ n then estimate + 1
  else estimate

/-- Take whole months, starting with the given one, off a count of days; the rest is the day. -/
def splitMonths (year : Int) : Nat → Nat → Nat → Nat × Nat
  | 0, month, offset => (month, offset + 1)
  | steps + 1, month, offset =>
    if offset < monthLength year month then (month, offset + 1)
    else splitMonths year steps (month + 1) (offset - monthLength year month)

/-- The day of a number, if its year is in the calendar. -/
def ofDayNumber? (n : Int) : Option CalendarDate :=
  let year := yearOfDay n
  let (month, day) := splitMonths year 11 1 (n - daysBeforeYear year).toNat
  ofParts? year month day

/-- Move by whole months; a day that the month does not have becomes its last day. -/
def shiftMonths? (date : CalendarDate) (months : Int) : Option CalendarDate :=
  let index := date.year * 12 + (date.month : Int) - 1 + months
  let year := index / 12
  let month := (index % 12).toNat + 1
  ofParts? year month (min date.day (monthLength year month))

def addMonths? (date : CalendarDate) (months : UInt32) : Option CalendarDate :=
  date.shiftMonths? months.toNat

def subtractMonths? (date : CalendarDate) (months : UInt32) : Option CalendarDate :=
  date.shiftMonths? (-months.toNat)

theorem ofParts?_eq_some_iff {year : Int} {month day : Nat} {date : CalendarDate} :
    ofParts? year month day = some date ↔
      date.year = year ∧ date.month = month ∧ date.day = day := by
  unfold ofParts?
  constructor
  · intro h
    split at h
    · obtain rfl := Option.some.inj h
      exact ⟨rfl, rfl, rfl⟩
    · cases h
  · rintro ⟨rfl, rfl, rfl⟩
    exact dif_pos date.valid

theorem daysBeforeYear_succ (year : Int) :
    daysBeforeYear (year + 1) = daysBeforeYear year + yearLength year := by
  unfold daysBeforeYear yearLength isLeapYear
  by_cases h4 : year % 4 = 0 <;> by_cases h100 : year % 100 = 0 <;>
    by_cases h400 : year % 400 = 0 <;> simp [h4, h100, h400] <;> omega

/-- The first day of the year is not after the numbered day, and the next year starts after it. -/
theorem yearOfDay_spec (n : Int) :
    daysBeforeYear (yearOfDay n) ≤ n ∧ n < daysBeforeYear (yearOfDay n + 1) := by
  unfold yearOfDay
  dsimp only
  split
  · next h => unfold daysBeforeYear at *; omega
  · split
    · next h => unfold daysBeforeYear at *; omega
    · omega

theorem daysBeforeMonth_thirteen (year : Int) : daysBeforeMonth year 13 = yearLength year := by
  simp only [daysBeforeMonth, monthLength, yearLength]
  split <;> rfl

theorem daysBeforeMonth_mono (year : Int) {a b : Nat} (h : a ≤ b) :
    daysBeforeMonth year a ≤ daysBeforeMonth year b := by
  induction b with
  | zero => simp [Nat.le_zero.mp h]
  | succ b ih =>
    rcases Nat.eq_or_lt_of_le h with rfl | hlt
    · exact Nat.le_refl _
    · exact Nat.le_trans (ih (Nat.le_of_lt_succ hlt)) (Nat.le_add_right _ _)

theorem daysBeforeYear_mono {a b : Int} (h : a ≤ b) : daysBeforeYear a ≤ daysBeforeYear b := by
  unfold daysBeforeYear
  rcases Int.lt_or_eq_of_le h with hlt | rfl
  · have h4 : (a - 1) / 4 ≤ (b - 1) / 4 := by omega
    have h100 : (b - 1) / 100 ≤ (a - 1) / 100 + (b - a) / 100 + 1 := by omega
    have h400 : (a - 1) / 400 ≤ (b - 1) / 400 := by omega
    omega
  · exact Int.le_refl _

theorem yearOfDay_unique {n year : Int} (hlo : daysBeforeYear year ≤ n)
    (hhi : n < daysBeforeYear (year + 1)) : yearOfDay n = year := by
  obtain ⟨hlo', hhi'⟩ := yearOfDay_spec n
  rcases Int.lt_trichotomy (yearOfDay n) year with hlt | heq | hgt
  · have h := daysBeforeYear_mono (show yearOfDay n + 1 ≤ year by omega)
    omega
  · exact heq
  · have h := daysBeforeYear_mono (show year + 1 ≤ yearOfDay n by omega)
    omega

theorem splitMonths_eq (year : Int) (steps month target day : Nat) (hlo : month ≤ target)
    (hhi : target ≤ month + steps) (hday : 1 ≤ day ∧ day ≤ monthLength year target) :
    splitMonths year steps month
        (daysBeforeMonth year target + (day - 1) - daysBeforeMonth year month) = (target, day) := by
  induction steps generalizing month with
  | zero =>
    obtain rfl : month = target := by omega
    unfold splitMonths
    simp only [Prod.mk.injEq, true_and]
    omega
  | succ steps ih =>
    unfold splitMonths
    rcases Nat.eq_or_lt_of_le hlo with rfl | hlt
    · rw [if_pos (by omega)]
      simp only [Prod.mk.injEq, true_and]
      omega
    · have hmono := daysBeforeMonth_mono year (show month + 1 ≤ target from hlt)
      have hstep : daysBeforeMonth year (month + 1) =
          daysBeforeMonth year month + monthLength year month := rfl
      rw [if_neg (by omega)]
      have h := ih (month + 1) hlt (by omega)
      rw [hstep] at h
      rwa [show daysBeforeMonth year target + (day - 1) - daysBeforeMonth year month -
          monthLength year month = daysBeforeMonth year target + (day - 1) -
          (daysBeforeMonth year month + monthLength year month) by omega]

theorem dayOfYear_lt (date : CalendarDate) :
    daysBeforeMonth date.year date.month + (date.day - 1) < yearLength date.year := by
  obtain ⟨year, month, day, _, _, hmonth, hmonth', hday, hday'⟩ := date
  have hstep : daysBeforeMonth year (month + 1) =
      daysBeforeMonth year month + monthLength year month := rfl
  have hmono := daysBeforeMonth_mono year (show month + 1 ≤ 13 by omega)
  rw [daysBeforeMonth_thirteen] at hmono
  dsimp only
  omega

theorem ofDayNumber?_dayNumber (date : CalendarDate) : ofDayNumber? date.dayNumber = some date := by
  have hlt := dayOfYear_lt date
  have hsucc := daysBeforeYear_succ date.year
  have hyear : yearOfDay date.dayNumber = date.year := by
    apply yearOfDay_unique <;> unfold dayNumber <;> omega
  have hrest : (date.dayNumber - daysBeforeYear date.year).toNat =
      daysBeforeMonth date.year date.month + (date.day - 1) - daysBeforeMonth date.year 1 := by
    unfold dayNumber
    have hone : daysBeforeMonth date.year 1 = 0 := rfl
    omega
  obtain ⟨_, _, hmonth, hmonth', hday⟩ := date.valid
  unfold ofDayNumber?
  simp only [hyear, hrest, splitMonths_eq date.year 11 1 date.month date.day hmonth (by omega) hday]
  exact ofParts?_eq_some_iff.mpr ⟨rfl, rfl, rfl⟩

theorem splitMonths_spec (year : Int) (steps month offset : Nat)
    (hlt : daysBeforeMonth year month + offset < daysBeforeMonth year (month + steps + 1)) :
    daysBeforeMonth year (splitMonths year steps month offset).1 +
        ((splitMonths year steps month offset).2 - 1) = daysBeforeMonth year month + offset := by
  induction steps generalizing month offset with
  | zero => simp [splitMonths]
  | succ steps ih =>
    unfold splitMonths
    split
    · simp
    · next hge =>
      have hstep : daysBeforeMonth year (month + 1) =
          daysBeforeMonth year month + monthLength year month := rfl
      have h := ih (month + 1) (offset - monthLength year month)
        (by rw [show month + 1 + steps + 1 = month + (steps + 1) + 1 by omega]; omega)
      omega

theorem dayNumber_of_ofDayNumber? {n : Int} {date : CalendarDate}
    (h : ofDayNumber? n = some date) : date.dayNumber = n := by
  unfold ofDayNumber? at h
  dsimp only at h
  obtain ⟨hyear, hmonth, hday⟩ := ofParts?_eq_some_iff.mp h
  have hspec := yearOfDay_spec n
  have hsucc := daysBeforeYear_succ (yearOfDay n)
  have hone : daysBeforeMonth (yearOfDay n) 1 = 0 := rfl
  have hsplit := splitMonths_spec (yearOfDay n) 11 1 (n - daysBeforeYear (yearOfDay n)).toNat
    (by rw [show 1 + 11 + 1 = 13 from rfl, daysBeforeMonth_thirteen]; omega)
  unfold dayNumber
  rw [hyear, hmonth, hday]
  omega

end CalendarDate

end XPathValues
