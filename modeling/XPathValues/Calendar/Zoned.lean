import XPathValues.Calendar.Fragment
import XPathValues.Calendar.Timezone
import XPathValues.Error

/-!
# Calendar values with an optional zone

The eight calendar types differ in the part of the calendar that they give; each of them may carry
a timezone. A value without a zone is not the same as one in UTC, but every value can be placed on
the common timeline once a zone is assumed for those that have none.
-/

namespace XPathValues

/-- A part of the calendar that has a lexical form and a place on the calendar. -/
class CalendarPart (α : Type) where
  anchor : α → Moment
  read? : List Char → Option α
  toChars : α → List Char

instance : CalendarPart Moment := ⟨id, Moment.read?, Moment.toChars⟩

instance : CalendarPart CalendarDate :=
  ⟨Moment.startOfDay, CalendarDate.read?, CalendarDate.toChars⟩

instance : CalendarPart YearMonth :=
  ⟨fun x => .startOfDay x.firstDay, YearMonth.read?, YearMonth.toChars⟩

instance : CalendarPart CalendarYear :=
  ⟨fun x => .startOfDay x.firstDay, CalendarYear.read?, CalendarYear.toChars⟩

instance : CalendarPart MonthDay :=
  ⟨fun x => .startOfDay x.inReferenceYear, MonthDay.read?, MonthDay.toChars⟩

instance : CalendarPart DayOfMonth :=
  ⟨fun x => .startOfDay x.inReferenceYear, DayOfMonth.read?, DayOfMonth.toChars⟩

instance : CalendarPart MonthOfYear :=
  ⟨fun x => .startOfDay x.firstDay, MonthOfYear.read?, MonthOfYear.toChars⟩

/-- The day on which times of day are placed. -/
def TimeOfDay.referenceDay : CalendarDate := ⟨Calendar.referenceYear, 12, 31, by decide⟩

instance : CalendarPart TimeOfDay :=
  ⟨fun time => ⟨TimeOfDay.referenceDay, time⟩, TimeOfDay.read?, TimeOfDay.toChars⟩

structure Zoned (α : Type) where
  value : α
  zone : Option Timezone
deriving DecidableEq

abbrev DateTime := Zoned Moment

abbrev Date := Zoned CalendarDate

abbrev Time := Zoned TimeOfDay

abbrev GYearMonth := Zoned YearMonth

abbrev GYear := Zoned CalendarYear

abbrev GMonthDay := Zoned MonthDay

abbrev GDay := Zoned DayOfMonth

abbrev GMonth := Zoned MonthOfYear

namespace Zoned

variable {α : Type}

def map {β : Type} (f : α → β) (x : Zoned α) : Zoned β := ⟨f x.value, x.zone⟩

/-- The same value of the calendar in another zone, or in none. -/
def withZone (x : Zoned α) (zone : Option Timezone) : Zoned α := ⟨x.value, zone⟩

variable [CalendarPart α]

/-- The place on the calendar, as the clocks of the zone show it. -/
def anchor (x : Zoned α) : Moment := CalendarPart.anchor x.value

/-- The moment in UTC. A value without a zone is placed in the one given. -/
def instant (x : Zoned α) (implicitZone : Timezone) : Except Error Moment :=
  match x.anchor.shiftSeconds? (-(x.zone.getD implicitZone).seconds) with
  | some m => .ok m
  | none => .error .dateTimeOutOfRange

def read? (text : List Char) : Option (Zoned α) := do
  let (body, zone) ← Timezone.split? text
  let value ← CalendarPart.read? body
  some ⟨value, zone⟩

def toChars (x : Zoned α) : List Char :=
  CalendarPart.toChars x.value ++ Timezone.optionalChars x.zone

def toText (x : Zoned α) : String :=
  String.ofList x.toChars

/-- A value has an instant when its place, moved by the offset, is still in the calendar. -/
theorem instant_eq_ok_iff {x : Zoned α} {implicitZone : Timezone} {m : Moment} :
    x.instant implicitZone = .ok m ↔
      x.anchor.shiftSeconds? (-(x.zone.getD implicitZone).seconds) = some m := by
  unfold instant
  cases x.anchor.shiftSeconds? (-(x.zone.getD implicitZone).seconds) <;> simp

theorem instant_of_zone {x : Zoned α} {zone : Timezone} (h : x.zone = some zone)
    (a b : Timezone) : x.instant a = x.instant b := by
  have hzone : x.zone.getD a = x.zone.getD b := by rw [h]; rfl
  unfold instant
  rw [hzone]

end Zoned

namespace Date

def startOfDay (date : Date) : DateTime := date.map .startOfDay

end Date

namespace DateTime

def date (x : DateTime) : Date := x.map Moment.date

def time (x : DateTime) : Time := x.map Moment.time

/-- A date and a time together. Two zones must agree, one is enough. -/
def ofDateAndTime (date : Date) (time : Time) : Except Error DateTime :=
  match date.zone, time.zone with
  | some a, some b =>
    if a = b then .ok ⟨⟨date.value, time.value⟩, some a⟩ else .error (.timezoneConflict a b)
  | a, b => .ok ⟨⟨date.value, time.value⟩, a.or b⟩

/-- The same instant in another zone. A value without a zone only gains the zone, and without a
target the zone is dropped; neither moves the clock. -/
def adjust (x : DateTime) (target : Option Timezone) : Except Error DateTime :=
  match x.zone, target with
  | some current, some target =>
    match x.value.shiftSeconds? (target.seconds - current.seconds) with
    | some m => .ok ⟨m, some target⟩
    | none => .error .dateTimeOutOfRange
  | _, _ => .ok (x.withZone target)

end DateTime

namespace Date

/-- The day, in the target zone, of the instant at which the date starts. -/
def adjust (date : Date) (target : Option Timezone) : Except Error Date :=
  (date.startOfDay.adjust target).map DateTime.date

end Date

namespace Time

/-- The clock in the target zone; the day plays no part. -/
def adjust (time : Time) (target : Option Timezone) : Time :=
  match time.zone, target with
  | some current, some target =>
    ⟨time.value.shift ((target.seconds - current.seconds) * TimeOfDay.second), some target⟩
  | _, _ => time.withZone target

end Time

end XPathValues
