import Mathlib.Tactic
import XPathValues.Proofs.Calendar.Parts

/-!
# The law of the parts of the calendar

The eight calendar types share one law: the text of a part determines it, announces no offset, and
is read back unless the part lies in the year 0. A value with a zone obeys the same law, because the
zone is cut off again where it was put.
-/

namespace XPathValues

open Text Calendar Timezone

/-- A part of the calendar whose writer and reader fit together. Some parts have a year. -/
class LawfulPart (α : Type) [CalendarPart α] where
  year? : α → Option ℤ
  isBodyChar : ∀ x : α, ∀ c ∈ CalendarPart.toChars x, IsBodyChar c
  quiet : ∀ x : α, announcesOffset (CalendarPart.toChars x) = false
  read?_toChars : ∀ x : α, CalendarPart.read? (CalendarPart.toChars x) =
    if year? x = some 0 then none else some x
  toChars_inj : ∀ {x y : α}, CalendarPart.toChars x = CalendarPart.toChars y → x = y

theorem Calendar.quiet_of_isDateChar {text : List Char} (h : ∀ c ∈ text, IsDateChar c) :
    announcesOffset text = false :=
  announcesOffset_of_no_colon (not_mem_of_isDateChar not_isDateChar_colon h)

instance : LawfulPart CalendarDate where
  year? date := some date.year
  isBodyChar date c hc := (date.isDateChar_toChars c hc).isBodyChar
  quiet date := quiet_of_isDateChar date.isDateChar_toChars
  read?_toChars date := date.read?_toChars.trans (by simp only [Option.some.injEq])
  toChars_inj := CalendarDate.toChars_inj

instance : LawfulPart TimeOfDay where
  year? _ := none
  isBodyChar := TimeOfDay.isBodyChar_toChars
  quiet := TimeOfDay.announcesOffset_append_toChars []
  read?_toChars time := congrArg (Option.map Prod.fst) time.readClock?_toChars
  toChars_inj := TimeOfDay.toChars_inj

instance : LawfulPart Moment where
  year? m := some m.date.year
  isBodyChar m := List.forall_mem_append.mpr
    ⟨fun c hc => (m.date.isDateChar_toChars c hc).isBodyChar,
      List.forall_mem_cons.mpr ⟨Or.inr (Or.inr (Or.inr (Or.inr rfl))), m.time.isBodyChar_toChars⟩⟩
  quiet m := by
    have hquiet := TimeOfDay.announcesOffset_append_toChars (m.date.toChars ++ ['T']) m.time
    rwa [List.append_assoc] at hquiet
  read?_toChars m := m.read?_toChars.trans (by simp only [Option.some.injEq])
  toChars_inj := Moment.toChars_inj

namespace YearMonth

variable {a b : YearMonth}

theorem isDateChar_toChars (x : YearMonth) : ∀ c ∈ x.toChars, IsDateChar c :=
  List.forall_mem_append.mpr
    ⟨isDateChar_yearChars _, isDateChar_minus_cons (isDateChar_padded _ _)⟩

theorem read?_toChars (x : YearMonth) : read? x.toChars = if x.year = 0 then none else some x := by
  rw [read?, toChars, readYear?_yearChars _ (endsDigits_minus _)]
  split
  · rfl
  · simp only [Option.bind_eq_bind, Option.bind_some, twoDigits?_padded x.valid.month_lt]
    exact dif_pos x.valid

theorem toChars_inj (h : a.toChars = b.toChars) : a = b := by
  obtain ⟨hyear, hrest⟩ := yearChars_append_inj (endsDigits_minus _) (endsDigits_minus _) h
  have hmonth := padded_inj (List.cons.inj hrest).2
  obtain ⟨_, _, _⟩ := a
  obtain ⟨_, _, _⟩ := b
  simp_all

end YearMonth

instance : LawfulPart YearMonth where
  year? x := some x.year
  isBodyChar x c hc := (x.isDateChar_toChars c hc).isBodyChar
  quiet x := quiet_of_isDateChar x.isDateChar_toChars
  read?_toChars x := x.read?_toChars.trans (by simp only [Option.some.injEq])
  toChars_inj := YearMonth.toChars_inj

namespace CalendarYear

variable {a b : CalendarYear}

theorem read?_toChars (x : CalendarYear) :
    read? x.toChars = if x.year = 0 then none else some x := by
  have hread := readYear?_yearChars x.year endsDigits_nil
  rw [List.append_nil] at hread
  rw [read?, toChars, hread]
  split
  · rfl
  · exact dif_pos x.valid

theorem toChars_inj (h : a.toChars = b.toChars) : a = b := by
  have hyear : a.year = b.year :=
    (yearChars_append_inj endsDigits_nil endsDigits_nil
      (by rw [List.append_nil, List.append_nil]; exact h)).1
  obtain ⟨_, _⟩ := a
  obtain ⟨_, _⟩ := b
  simp_all

end CalendarYear

instance : LawfulPart CalendarYear where
  year? x := some x.year
  isBodyChar x c hc := (isDateChar_yearChars x.year c hc).isBodyChar
  quiet x := quiet_of_isDateChar (isDateChar_yearChars x.year)
  read?_toChars x := x.read?_toChars.trans (by simp only [Option.some.injEq])
  toChars_inj := CalendarYear.toChars_inj

namespace MonthDay

variable {a b : MonthDay}

theorem isDateChar_toChars (x : MonthDay) : ∀ c ∈ x.toChars, IsDateChar c :=
  isDateChar_minus_cons (isDateChar_minus_cons (isDateChar_monthDayChars _ _))

theorem read?_toChars (x : MonthDay) : read? x.toChars = some x := by
  simp only [read?, toChars, Option.bind_eq_bind,
    readMonthDay?_monthDayChars x.valid.isMonth.month_lt x.valid.day_lt, Option.bind_some]
  exact dif_pos x.valid

end MonthDay

namespace DayOfMonth

theorem isDateChar_toChars (x : DayOfMonth) : ∀ c ∈ x.toChars, IsDateChar c :=
  isDateChar_minus_cons (isDateChar_minus_cons (isDateChar_minus_cons (isDateChar_padded _ _)))

theorem read?_toChars (x : DayOfMonth) : read? x.toChars = some x := by
  simp only [read?, toChars, Option.bind_eq_bind, twoDigits?_padded x.valid.day_lt,
    Option.bind_some]
  exact dif_pos x.valid

end DayOfMonth

namespace MonthOfYear

theorem isDateChar_toChars (x : MonthOfYear) : ∀ c ∈ x.toChars, IsDateChar c :=
  isDateChar_minus_cons (isDateChar_minus_cons (isDateChar_padded _ _))

theorem read?_toChars (x : MonthOfYear) : read? x.toChars = some x := by
  simp only [read?, toChars, Option.bind_eq_bind, twoDigits?_padded x.valid.month_lt,
    Option.bind_some]
  exact dif_pos x.valid

end MonthOfYear

/-- A text that is always read back determines what was written. -/
theorem CalendarPart.toChars_inj_of_read {α : Type} [CalendarPart α]
    (hread : ∀ x : α, CalendarPart.read? (CalendarPart.toChars x) = some x) {x y : α}
    (h : CalendarPart.toChars x = CalendarPart.toChars y) : x = y := by
  have hx := hread x
  rw [h, hread y] at hx
  exact (Option.some.inj hx).symm

instance : LawfulPart MonthDay where
  year? _ := none
  isBodyChar x c hc := (x.isDateChar_toChars c hc).isBodyChar
  quiet x := quiet_of_isDateChar x.isDateChar_toChars
  read?_toChars := MonthDay.read?_toChars
  toChars_inj := CalendarPart.toChars_inj_of_read MonthDay.read?_toChars

instance : LawfulPart DayOfMonth where
  year? _ := none
  isBodyChar x c hc := (x.isDateChar_toChars c hc).isBodyChar
  quiet x := quiet_of_isDateChar x.isDateChar_toChars
  read?_toChars := DayOfMonth.read?_toChars
  toChars_inj := CalendarPart.toChars_inj_of_read DayOfMonth.read?_toChars

instance : LawfulPart MonthOfYear where
  year? _ := none
  isBodyChar x c hc := (x.isDateChar_toChars c hc).isBodyChar
  quiet x := quiet_of_isDateChar x.isDateChar_toChars
  read?_toChars := MonthOfYear.read?_toChars
  toChars_inj := CalendarPart.toChars_inj_of_read MonthOfYear.read?_toChars

namespace Zoned

variable {α : Type} [CalendarPart α] [LawfulPart α] {x y : Zoned α}

def year? (x : Zoned α) : Option ℤ :=
  LawfulPart.year? x.value

theorem read?_toChars (hzone : ∀ z, x.zone = some z → z.WithinFourteenHours) :
    read? x.toChars =
      if x.year? = some 0 then none else some ⟨x.value, x.zone.map wholeMinutes⟩ := by
  rw [read?, toChars,
    split?_append (LawfulPart.isBodyChar x.value) (LawfulPart.quiet x.value) hzone]
  simp only [Option.bind_eq_bind, Option.bind_some, LawfulPart.read?_toChars]
  by_cases hyear : x.year? = some 0
  · have hpart : LawfulPart.year? x.value = some 0 := hyear
    rw [if_pos hpart, if_pos hyear]
    rfl
  · have hpart : ¬ LawfulPart.year? x.value = some 0 := hyear
    rw [if_neg hpart, if_neg hyear]
    rfl

theorem toChars_inj (hx : ∀ z, x.zone = some z → z.seconds % 60 = 0)
    (hy : ∀ z, y.zone = some z → z.seconds % 60 = 0) (h : x.toChars = y.toChars) : x = y := by
  obtain ⟨hvalue, hzone⟩ := append_optionalChars_inj (LawfulPart.isBodyChar x.value)
    (LawfulPart.isBodyChar y.value) (LawfulPart.quiet x.value) (LawfulPart.quiet y.value) hx hy h
  obtain ⟨_, _⟩ := x
  obtain ⟨_, _⟩ := y
  rw [Zoned.mk.injEq]
  exact ⟨LawfulPart.toChars_inj hvalue, hzone⟩

theorem not_isSpace_toChars (x : Zoned α) : ∀ c ∈ x.toChars, isSpace c = false := by
  intro c hc
  rcases mem_append_optionalChars (LawfulPart.isBodyChar x.value) hc with h | rfl | rfl
  · rcases h with h | rfl | rfl | rfl | rfl
    · exact isSpace_of_isDigit h
    all_goals rfl
  · rfl
  · rfl

end Zoned

end XPathValues
