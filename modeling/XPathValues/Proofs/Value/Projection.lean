import Mathlib.Tactic
import XPathValues.Proofs.Calendar.RoundTrip
import XPathValues.Proofs.Calendar.Translation
import XPathValues.Proofs.Value.CastSoundness

/-!
# Parts of a date and time

A value of one of the calendar types shows some of the fields of a date and time: the year, the
month, the day and the clock. These and its zone are all that there is to the value. A cast of a
date and time, or of a date, to a type that shows fewer of them keeps those that it shows, and the
zone; so it does not matter whether a fragment is taken from the date and time or from its date.
-/

namespace XPathValues

attribute [ext] Moment CalendarDate YearMonth CalendarYear MonthDay DayOfMonth MonthOfYear

/-- The fields of a date and time that are known. -/
structure CalendarFields where
  year : Option ℤ
  month : Option ℕ
  day : Option ℕ
  clock : Option TimeOfDay
deriving DecidableEq

namespace CalendarFields

def shownBy (fields : CalendarFields) : AtomicKind → CalendarFields
  | .dateTime => fields
  | .date => ⟨fields.year, fields.month, fields.day, none⟩
  | .time => ⟨none, none, none, fields.clock⟩
  | .gYearMonth => ⟨fields.year, fields.month, none, none⟩
  | .gYear => ⟨fields.year, none, none, none⟩
  | .gMonthDay => ⟨none, fields.month, fields.day, none⟩
  | .gDay => ⟨none, none, fields.day, none⟩
  | .gMonth => ⟨none, fields.month, none, none⟩
  | _ => ⟨none, none, none, none⟩

variable {target : AtomicKind}

theorem shownBy_date_shownBy (fields : CalendarFields) (h : target.isFragment = true) :
    (fields.shownBy .date).shownBy target = fields.shownBy target := by
  cases target <;> first | rfl | cases h

end CalendarFields

namespace AtomicKind

variable {source target : AtomicKind}

theorem castRule_of_projectsTo (h : source.projectsTo target = true) :
    castRule source target = .project := by
  cases source <;> cases target <;> first | rfl | cases h

theorem projectsTo_of_isFragment (h : target.isFragment = true) :
    dateTime.projectsTo target = true ∧ date.projectsTo target = true := by
  cases target <;> first | exact ⟨rfl, rfl⟩ | cases h

end AtomicKind

namespace AtomicValue

variable {u v w : AtomicValue} {x : DateTime} {source target : AtomicKind} {bindings : Bindings}

def calendarFields : AtomicValue → CalendarFields
  | dateTime x =>
    ⟨some x.value.date.year, some x.value.date.month, some x.value.date.day, some x.value.time⟩
  | date x => ⟨some x.value.year, some x.value.month, some x.value.day, none⟩
  | time x => ⟨none, none, none, some x.value⟩
  | gYearMonth x => ⟨some x.value.year, some x.value.month, none, none⟩
  | gYear x => ⟨some x.value.year, none, none, none⟩
  | gMonthDay x => ⟨none, some x.value.month, some x.value.day, none⟩
  | gDay x => ⟨none, none, some x.value.day, none⟩
  | gMonth x => ⟨none, some x.value.month, none, none⟩
  | _ => ⟨none, none, none, none⟩

theorem eq_of_calendarFields_eq (hcalendar : v.isCalendar = true) (hkind : v.kind = w.kind)
    (hfields : v.calendarFields = w.calendarFields) (hzone : v.zone? = w.zone?) : v = w := by
  cases v <;> cases hcalendar <;> cases w <;> cases hkind
  all_goals
    refine congrArg _ (Zoned.eq_of_value_eq ?_ hzone)
    simpa [calendarFields, Moment.ext_iff, CalendarDate.ext_iff, YearMonth.ext_iff,
      CalendarYear.ext_iff, MonthDay.ext_iff, DayOfMonth.ext_iff, MonthOfYear.ext_iff,
      and_assoc] using hfields

/-- A value of the type that has the zone of another value, and of its fields those that the type
shows. -/
structure IsProjection (v : AtomicValue) (target : AtomicKind) (w : AtomicValue) : Prop where
  kind : w.kind = target
  fields : w.calendarFields = v.calendarFields.shownBy target
  zone : w.zone? = v.zone?

namespace IsProjection

theorem isCalendar (h : IsProjection v target w)
    (htarget : AtomicKind.dateTime.projectsTo target = true) : w.isCalendar = true := by
  obtain rfl := h.kind
  cases w <;> first | rfl | cases htarget

theorem unique (h : IsProjection v target u) (h' : IsProjection v target w)
    (htarget : AtomicKind.dateTime.projectsTo target = true) : u = w :=
  eq_of_calendarFields_eq (h.isCalendar htarget) (h.kind.trans h'.kind.symm)
    (h.fields.trans h'.fields.symm) (h.zone.trans h'.zone.symm)

theorem of_date (h : IsProjection v .date u) (h' : IsProjection u target w)
    (htarget : target.isFragment = true) : IsProjection v target w where
  kind := h'.kind
  fields := by rw [h'.fields, h.fields, CalendarFields.shownBy_date_shownBy _ htarget]
  zone := h'.zone.trans h.zone

end IsProjection

/-- What a cast to a type with fewer fields gives is such a projection. -/
theorem isProjection_of_project (hx : v.asDateTime? = some x)
    (hsource : v.kind.projectsTo target = true) (htarget : target ≠ .dateTime)
    (h : project x v.kind target = .ok w) : IsProjection v target w := by
  cases v <;> cases hx <;> cases target <;> cases hsource
  all_goals first | exact absurd rfl htarget | (cases h; exact ⟨rfl, rfl, rfl⟩)

theorem exists_isProjection (bindings : Bindings) (hsource : v.kind.projectsTo target = true)
    (htarget : target ≠ .dateTime) :
    ∃ w, v.cast target bindings = .ok w ∧ IsProjection v target w := by
  obtain ⟨x, hx, hcast⟩ := cast_of_project bindings (AtomicKind.castRule_of_projectsTo hsource)
  obtain ⟨w, hw⟩ := exists_project hsource x
  exact ⟨w, hcast.trans hw, isProjection_of_project hx hsource htarget hw⟩

theorem cast_date_cast (x : DateTime) (bindings : Bindings) (htarget : target.isFragment = true) :
    ((dateTime x).cast .date bindings >>= fun v => v.cast target bindings) =
      (dateTime x).cast target bindings := by
  have hne : target ≠ .dateTime := by rintro rfl; cases htarget
  obtain ⟨hdateTime, hdate⟩ := AtomicKind.projectsTo_of_isFragment htarget
  have hday : (dateTime x).kind.projectsTo .date = true := rfl
  obtain ⟨u, hu, hfirst⟩ := exists_isProjection bindings hday (by decide)
  obtain ⟨v, hv, hsecond⟩ := exists_isProjection bindings (hfirst.kind ▸ hdate) hne
  obtain ⟨w, hw, hdirect⟩ := exists_isProjection bindings (v := dateTime x) hdateTime hne
  rw [hu, hw, hdirect.unique (hfirst.of_date hsecond htarget) hdateTime]
  exact hv

end AtomicValue

end XPathValues
