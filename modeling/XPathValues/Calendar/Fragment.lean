import XPathValues.Calendar.Text

/-!
# Fragments of the calendar

A fragment gives some of the fields of a date: a year and a month, a year, a month and a day, a day
of some month, or a month. Its first day in a reference year places it on the calendar. The
reference year is a leap year, so a fragment without a year may name February 29, and a day without
a month is placed in December, which has all days.
-/

namespace XPathValues

open Text Calendar

namespace Calendar

/-- The year that fragments without a year are placed in. -/
def referenceYear : Int := 1972

theorem one_le_monthLength (year : Int) :
    ∀ {month : Nat}, 1 ≤ month → month ≤ 12 → 1 ≤ monthLength year month
  | 0, hlo, _ => absurd hlo (by decide)
  | 2, _, _ => by
    change 1 ≤ if isLeapYear year then 29 else 28
    split <;> decide
  | 1, _, _ | 3, _, _ | 4, _, _ | 5, _, _ | 6, _, _ | 7, _, _ | 8, _, _ | 9, _, _ | 10, _, _
  | 11, _, _ | 12, _, _ => Nat.le_of_ble_eq_true rfl
  | n + 13, _, hhi => absurd hhi (by omega)

theorem IsMonth.isDate_one {year : Int} {month : Nat} (h : IsMonth year month) :
    IsDate year month 1 :=
  ⟨h.1, h.2.1, h.2.2.1, h.2.2.2, Nat.le_refl 1, one_le_monthLength year h.2.2.1 h.2.2.2⟩

theorem IsDate.isMonth {year : Int} {month day : Nat} (h : IsDate year month day) :
    IsMonth year month :=
  ⟨h.1, h.2.1, h.2.2.1, h.2.2.2.1⟩

end Calendar

structure YearMonth where
  year : Int
  month : Nat
  valid : IsMonth year month
deriving DecidableEq

namespace YearMonth

def ofParts? (year : Int) (month : Nat) : Option YearMonth :=
  if h : IsMonth year month then some ⟨year, month, h⟩ else none

theorem ofParts?_eq_some_iff {year : Int} {month : Nat} {x : YearMonth} :
    ofParts? year month = some x ↔ x.year = year ∧ x.month = month := by
  constructor
  · intro h
    unfold ofParts? at h
    split at h
    · obtain rfl := Option.some.inj h
      exact ⟨rfl, rfl⟩
    · cases h
  · rintro ⟨rfl, rfl⟩
    exact dif_pos x.valid

def firstDay (x : YearMonth) : CalendarDate := ⟨x.year, x.month, 1, x.valid.isDate_one⟩

def read? (text : List Char) : Option YearMonth := do
  let (year, rest) ← readYear? text
  match rest with
  | '-' :: rest => do
    let month ← twoDigits? rest
    ofParts? year month
  | _ => none

def toChars (x : YearMonth) : List Char :=
  yearChars x.year ++ '-' :: padded 2 x.month

end YearMonth

structure CalendarYear where
  year : Int
  valid : IsMonth year 1
deriving DecidableEq

namespace CalendarYear

def ofYear? (year : Int) : Option CalendarYear :=
  if h : IsMonth year 1 then some ⟨year, h⟩ else none

theorem ofYear?_eq_some_iff {year : Int} {x : CalendarYear} :
    ofYear? year = some x ↔ x.year = year := by
  constructor
  · intro h
    unfold ofYear? at h
    split at h
    · obtain rfl := Option.some.inj h
      rfl
    · cases h
  · rintro rfl
    exact dif_pos x.valid

def firstDay (x : CalendarYear) : CalendarDate := ⟨x.year, 1, 1, x.valid.isDate_one⟩

def read? (text : List Char) : Option CalendarYear := do
  let (year, rest) ← readYear? text
  if rest.isEmpty then ofYear? year else none

def toChars (x : CalendarYear) : List Char :=
  yearChars x.year

end CalendarYear

structure MonthDay where
  month : Nat
  day : Nat
  valid : IsDate referenceYear month day
deriving DecidableEq

namespace MonthDay

def ofParts? (month day : Nat) : Option MonthDay :=
  if h : IsDate referenceYear month day then some ⟨month, day, h⟩ else none

theorem ofParts?_eq_some_iff {month day : Nat} {x : MonthDay} :
    ofParts? month day = some x ↔ x.month = month ∧ x.day = day := by
  constructor
  · intro h
    unfold ofParts? at h
    split at h
    · obtain rfl := Option.some.inj h
      exact ⟨rfl, rfl⟩
    · cases h
  · rintro ⟨rfl, rfl⟩
    exact dif_pos x.valid

def inReferenceYear (x : MonthDay) : CalendarDate := ⟨referenceYear, x.month, x.day, x.valid⟩

def read? : List Char → Option MonthDay
  | '-' :: '-' :: rest => do
    let (month, day) ← readMonthDay? rest
    ofParts? month day
  | _ => none

def toChars (x : MonthDay) : List Char :=
  '-' :: '-' :: monthDayChars x.month x.day

end MonthDay

structure DayOfMonth where
  day : Nat
  valid : IsDate referenceYear 12 day
deriving DecidableEq

namespace DayOfMonth

def ofDay? (day : Nat) : Option DayOfMonth :=
  if h : IsDate referenceYear 12 day then some ⟨day, h⟩ else none

theorem ofDay?_eq_some_iff {day : Nat} {x : DayOfMonth} :
    ofDay? day = some x ↔ x.day = day := by
  constructor
  · intro h
    unfold ofDay? at h
    split at h
    · obtain rfl := Option.some.inj h
      rfl
    · cases h
  · rintro rfl
    exact dif_pos x.valid

def inReferenceYear (x : DayOfMonth) : CalendarDate := ⟨referenceYear, 12, x.day, x.valid⟩

def read? : List Char → Option DayOfMonth
  | '-' :: '-' :: '-' :: rest => do
    let day ← twoDigits? rest
    ofDay? day
  | _ => none

def toChars (x : DayOfMonth) : List Char :=
  '-' :: '-' :: '-' :: padded 2 x.day

end DayOfMonth

structure MonthOfYear where
  month : Nat
  valid : IsMonth referenceYear month
deriving DecidableEq

namespace MonthOfYear

def ofMonth? (month : Nat) : Option MonthOfYear :=
  if h : IsMonth referenceYear month then some ⟨month, h⟩ else none

theorem ofMonth?_eq_some_iff {month : Nat} {x : MonthOfYear} :
    ofMonth? month = some x ↔ x.month = month := by
  constructor
  · intro h
    unfold ofMonth? at h
    split at h
    · obtain rfl := Option.some.inj h
      rfl
    · cases h
  · rintro rfl
    exact dif_pos x.valid

def firstDay (x : MonthOfYear) : CalendarDate := ⟨referenceYear, x.month, 1, x.valid.isDate_one⟩

def read? : List Char → Option MonthOfYear
  | '-' :: '-' :: rest => do
    let month ← twoDigits? rest
    ofMonth? month
  | _ => none

def toChars (x : MonthOfYear) : List Char :=
  '-' :: '-' :: padded 2 x.month

end MonthOfYear

namespace CalendarDate

theorem month_bounds (date : CalendarDate) : 1 ≤ date.month ∧ date.month ≤ 12 :=
  ⟨date.valid.2.2.1, date.valid.2.2.2.1⟩

theorem monthLength_le_referenceYear (year : Int) :
    ∀ month, monthLength year month ≤ monthLength referenceYear month
  | 2 => by
    change (if isLeapYear year then 29 else 28) ≤ 29
    split <;> decide
  | 0 | 1 | 3 | 4 | 5 | 6 | 7 | 8 | 9 | 10 | 11 | 12 | _ + 13 => Nat.le_refl _

theorem monthLength_le_december (year : Int) (month : Nat) :
    monthLength year month ≤ monthLength referenceYear 12 := by
  refine Nat.le_trans (monthLength_le_referenceYear year month) ?_
  unfold monthLength
  split <;> decide

def yearMonth (date : CalendarDate) : YearMonth := ⟨date.year, date.month, date.valid.isMonth⟩

def calendarYear (date : CalendarDate) : CalendarYear :=
  ⟨date.year, date.valid.1, date.valid.2.1, by decide, by decide⟩

def monthDay (date : CalendarDate) : MonthDay :=
  ⟨date.month, date.day, by decide, by decide, date.valid.2.2.1, date.valid.2.2.2.1,
    date.valid.2.2.2.2.1,
    Nat.le_trans date.valid.2.2.2.2.2 (monthLength_le_referenceYear date.year date.month)⟩

def dayOfMonth (date : CalendarDate) : DayOfMonth :=
  ⟨date.day, by decide, by decide, by decide, by decide, date.valid.2.2.2.2.1,
    Nat.le_trans date.valid.2.2.2.2.2 (monthLength_le_december date.year date.month)⟩

def monthOfYear (date : CalendarDate) : MonthOfYear :=
  ⟨date.month, by decide, by decide, date.valid.2.2.1, date.valid.2.2.2.1⟩

end CalendarDate

end XPathValues
