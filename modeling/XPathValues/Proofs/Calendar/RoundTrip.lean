import Mathlib.Tactic
import XPathValues.Proofs.Calendar.LawfulPart
import XPathValues.Proofs.Value.Reading

/-!
# Reading a written calendar value

A value of the eight calendar types is read back as itself, its zone included, unless it lies in the
year 0. An offset with seconds is read back without them, since they are not written. No text stands
for a clock within a leap second, and there are no such values here.
-/

namespace XPathValues.AtomicValue

open Text Timezone

variable {v : AtomicValue}

def isCalendar : AtomicValue → Bool
  | dateTime _ | date _ | time _ | gYearMonth _ | gYear _ | gMonthDay _ | gDay _ | gMonth _ => true
  | _ => false

def year? : AtomicValue → Option ℤ
  | dateTime x => x.year?
  | date x => x.year?
  | gYearMonth x => x.year?
  | gYear x => x.year?
  | _ => none

def zone? : AtomicValue → Option Timezone
  | dateTime x => x.zone
  | date x => x.zone
  | time x => x.zone
  | gYearMonth x => x.zone
  | gYear x => x.zone
  | gMonthDay x => x.zone
  | gDay x => x.zone
  | gMonth x => x.zone
  | _ => none

/-- Every offset of a calendar value loses the seconds beyond whole minutes. -/
def withWholeMinutes : AtomicValue → AtomicValue
  | dateTime x => dateTime ⟨x.value, x.zone.map wholeMinutes⟩
  | date x => date ⟨x.value, x.zone.map wholeMinutes⟩
  | time x => time ⟨x.value, x.zone.map wholeMinutes⟩
  | gYearMonth x => gYearMonth ⟨x.value, x.zone.map wholeMinutes⟩
  | gYear x => gYear ⟨x.value, x.zone.map wholeMinutes⟩
  | gMonthDay x => gMonthDay ⟨x.value, x.zone.map wholeMinutes⟩
  | gDay x => gDay ⟨x.value, x.zone.map wholeMinutes⟩
  | gMonth x => gMonth ⟨x.value, x.zone.map wholeMinutes⟩
  | v => v

theorem map_wholeMinutes {zone : Option Timezone} (h : ∀ z, zone = some z → z.Lexical) :
    zone.map wholeMinutes = zone := by
  cases zone with
  | none => rfl
  | some z => exact congrArg some (h z rfl).wholeMinutes_eq

theorem withWholeMinutes_eq (h : ∀ z, v.zone? = some z → z.Lexical) : v.withWholeMinutes = v := by
  have hzone := map_wholeMinutes h
  cases v <;> first | rfl | simp_all [withWholeMinutes, zone?]

/-- The readers of the calendar types differ in the part that they read and in nothing else. -/
theorem read_zoned {α : Type} [CalendarPart α] [LawfulPart α] {kind : AtomicKind}
    {make : Zoned α → AtomicValue} {bindings : Bindings} (x : Zoned α)
    (hreader : ∀ given, read kind given bindings =
      orInvalid kind given (Zoned.read? (collapse given).toList) make)
    (hzone : ∀ z, x.zone = some z → z.WithinFourteenHours) :
    read kind x.toText bindings =
      if x.year? = some 0 then .error (.invalidLexical kind x.toText)
      else .ok (make ⟨x.value, x.zone.map wholeMinutes⟩) := by
  rw [Zoned.toText, read_ofList hreader x.not_isSpace_toChars, Zoned.read?_toChars hzone]
  split <;> rfl

/-- A calendar value is read back with the whole minutes of its zone, but for those in the year 0,
which are not read. -/
theorem read_calendarText_eq (hcalendar : v.isCalendar = true)
    (hzone : ∀ z, v.zone? = some z → z.WithinFourteenHours) (bindings : Bindings) :
    read v.kind v.text bindings =
      if v.year? = some 0 then .error (.invalidLexical v.kind v.text)
      else .ok v.withWholeMinutes := by
  cases v
  case dateTime x => exact read_zoned x (fun _ => rfl) hzone
  case date x => exact read_zoned x (fun _ => rfl) hzone
  case time x => exact read_zoned x (fun _ => rfl) hzone
  case gYearMonth x => exact read_zoned x (fun _ => rfl) hzone
  case gYear x => exact read_zoned x (fun _ => rfl) hzone
  case gMonthDay x => exact read_zoned x (fun _ => rfl) hzone
  case gDay x => exact read_zoned x (fun _ => rfl) hzone
  case gMonth x => exact read_zoned x (fun _ => rfl) hzone
  all_goals cases hcalendar

/-- A calendar value in another year than 0, whose zone has a lexical form, is read back as
itself. -/
theorem read_calendarText (hcalendar : v.isCalendar = true)
    (hzone : ∀ z, v.zone? = some z → z.Lexical) (hyear : v.year? ≠ some 0) (bindings : Bindings) :
    read v.kind v.text bindings = .ok v := by
  rw [read_calendarText_eq hcalendar (fun z hz => (hzone z hz).withinFourteenHours) bindings,
    if_neg hyear, withWholeMinutes_eq hzone]

/-- The last nanosecond of a leap day before the common era, west of UTC. -/
theorem read_calendarText_leapDay :
    read .dateTime "-0004-02-29T23:59:59.999999999-14:00" .empty =
      .ok (dateTime ⟨⟨⟨-4, 2, 29, by decide⟩, ⟨86399999999999, by decide⟩⟩,
        some ⟨-50400, by decide⟩⟩) := by
  have hread := read_calendarText (v := dateTime
    ⟨⟨⟨-4, 2, 29, by decide⟩, ⟨86399999999999, by decide⟩⟩, some ⟨-50400, by decide⟩⟩)
    rfl (fun z hz => by obtain rfl := Option.some.inj hz; decide) (by decide) .empty
  have htext : (dateTime
      ⟨⟨⟨-4, 2, 29, by decide⟩, ⟨86399999999999, by decide⟩⟩, some ⟨-50400, by decide⟩⟩).text =
      "-0004-02-29T23:59:59.999999999-14:00" := by decide +kernel
  rw [htext] at hread
  exact hread

end XPathValues.AtomicValue
