import Mathlib.Tactic
import XPathValues.Proofs.Calendar.YearZero
import XPathValues.Proofs.Value.Provenance

/-!
# Values that operations produce

Whatever sequence of readings, casts, operators and adjustments a calendar value comes from, its
text is read back unless the value lies in the year 0. There are three ways into that year: the end
of the last day before it, a duration added or subtracted, and another zone. Casts do not lead
there.
-/

namespace XPathValues.AtomicValue

open Timezone

/-- The values that come out of a finite sequence of operations. The zones that are adjusted to are
within fourteen hours of UTC; operands without a zone may be placed in any. -/
inductive Reachable : AtomicValue → Prop
  | text {kind given bindings v} (h : read kind given bindings = .ok v) : Reachable v
  | cast {v w target bindings} (hv : Reachable v) (h : v.cast target bindings = .ok w) :
      Reachable w
  | operator {a b w op zone} (ha : Reachable a) (hb : Reachable b)
      (h : a.arithmetic op b zone = .ok w) : Reachable w
  | minus {v w} (hv : Reachable v) (h : v.negate = .ok w) : Reachable w
  | adjustDateTime {x y : DateTime} {target} (hx : Reachable (dateTime x))
      (htarget : ∀ z, target = some z → z.WithinFourteenHours) (h : x.adjust target = .ok y) :
      Reachable (dateTime y)
  | adjustDate {x y : Date} {target} (hx : Reachable (date x))
      (htarget : ∀ z, target = some z → z.WithinFourteenHours) (h : x.adjust target = .ok y) :
      Reachable (date y)
  | adjustTime {x : Time} {target} (hx : Reachable (time x))
      (htarget : ∀ z, target = some z → z.WithinFourteenHours) : Reachable (time (x.adjust target))

variable {v : AtomicValue} {kind : AtomicKind} {given : String} {bindings : Bindings}

/-- No operation leads out of the fourteen hours. -/
theorem Reachable.withinFourteenHours (h : Reachable v) :
    ∀ z, v.zone? = some z → z.WithinFourteenHours := by
  induction h with
  | text h => exact fun z hz => (lexical_of_read h z hz).withinFourteenHours
  | cast _ h ih =>
    intro z hz
    rcases zone?_of_cast h z hz with hlexical | hkept
    · exact hlexical.withinFourteenHours
    · exact ih z hkept
  | operator _ _ h iha ihb =>
    intro z hz
    rcases zone?_of_arithmetic h z hz with hleft | hright
    · exact iha z hleft
    · exact ihb z hright
  | minus _ h _ =>
    intro z hz
    rw [zone?_of_not_isCalendar (not_isCalendar_negate h)] at hz
    cases hz
  | adjustDateTime _ htarget h _ => exact fun z hz => htarget z (DateTime.zone_of_adjust h ▸ hz)
  | adjustDate _ htarget h _ => exact fun z hz => htarget z (Date.zone_of_adjust h ▸ hz)
  | @adjustTime x target _ htarget _ =>
    exact fun z hz => htarget z (Time.zone_adjust x target ▸ hz)

theorem eq_startOfYearZero_of_read (h : read kind given bindings = .ok v)
    (hyear : v.year? = some 0) : ∃ zone, v = dateTime ⟨Moment.startOfYearZero, zone⟩ := by
  have hkind := kind_read h
  unfold read at h
  cases kind
  case dateTime =>
    obtain ⟨⟨m, zone⟩, hx, rfl⟩ := eq_of_orInvalid h
    obtain ⟨body, _, hm⟩ := Zoned.exists_of_read? hx
    obtain rfl := Moment.eq_startOfYearZero_of_read? hm (Option.some.inj hyear)
    exact ⟨zone, rfl⟩
  case date =>
    obtain ⟨x, hx, rfl⟩ := eq_of_orInvalid h
    obtain ⟨body, _, hvalue⟩ := Zoned.exists_of_read? hx
    exact absurd (Option.some.inj hyear) (CalendarDate.year_ne_zero_of_read? hvalue)
  case gYearMonth =>
    obtain ⟨x, hx, rfl⟩ := eq_of_orInvalid h
    obtain ⟨body, _, hvalue⟩ := Zoned.exists_of_read? hx
    exact absurd (Option.some.inj hyear) (YearMonth.year_ne_zero_of_read? hvalue)
  case gYear =>
    obtain ⟨x, hx, rfl⟩ := eq_of_orInvalid h
    obtain ⟨body, _, hvalue⟩ := Zoned.exists_of_read? hx
    exact absurd (Option.some.inj hyear) (CalendarYear.year_ne_zero_of_read? hvalue)
  all_goals
    have hnone : v.year? = none := by cases v <;> first | rfl | cases hkind
    rw [hnone] at hyear
    cases hyear

/-- The ways into the year 0. -/
inductive EntersYearZero : AtomicValue → Prop
  | endOfDay (zone : Option Timezone) : EntersYearZero (dateTime ⟨Moment.startOfYearZero, zone⟩)
  | move {a b w op zone} (ha : Reachable a) (hb : Reachable b)
      (h : a.arithmetic op b zone = .ok w) (hyear : w.year? = some 0) : EntersYearZero w
  | adjustDateTime {x y : DateTime} {target} (hx : Reachable (dateTime x))
      (h : x.adjust target = .ok y) (hyear : y.year? = some 0) : EntersYearZero (dateTime y)
  | adjustDate {x y : Date} {target} (hx : Reachable (date x)) (h : x.adjust target = .ok y)
      (hyear : y.year? = some 0) : EntersYearZero (date y)
  | project {v w target bindings} (hv : EntersYearZero v) (h : v.cast target bindings = .ok w)
      (hyear : w.year? = some 0) : EntersYearZero w

example : (date ⟨⟨1, 1, 1, by decide⟩, none⟩).arithmetic .subtract
    (dayTimeDuration ⟨.ofNat 86400⟩) .utc = .ok (date ⟨⟨0, 12, 31, by decide⟩, none⟩) := by
  decide +kernel

/-- A cast into the year 0 starts there, unless it reads a text. -/
theorem Reachable.entersYearZero (h : Reachable v) (hyear : v.year? = some 0) :
    EntersYearZero v := by
  induction h with
  | text h =>
    obtain ⟨zone, rfl⟩ := eq_startOfYearZero_of_read h hyear
    exact .endOfDay zone
  | cast _ h ih =>
    -- Reading a text, dropping the year, keeping it, or leaving the calendar types.
    rcases cast_cases h with ⟨_, hread⟩ | ⟨_, hnone | hkept⟩ | hnone
    · obtain ⟨zone, rfl⟩ := eq_startOfYearZero_of_read hread hyear
      exact .endOfDay zone
    · rw [hnone] at hyear
      cases hyear
    · exact .project (ih (hkept ▸ hyear)) h hyear
    · rw [year?_of_not_isCalendar hnone] at hyear
      cases hyear
  | operator ha hb h _ _ => exact .move ha hb h hyear
  | minus _ h _ =>
    rw [year?_of_not_isCalendar (not_isCalendar_negate h)] at hyear
    cases hyear
  | adjustDateTime hx _ h _ => exact .adjustDateTime hx h hyear
  | adjustDate hx _ h _ => exact .adjustDate hx h hyear
  | adjustTime _ _ _ => cases hyear

/-- A calendar value that operations produce is read back from its text, up to the seconds of its
offset, unless it lies in the year 0, and it got there in one of the ways above. -/
theorem Reachable.read_text (h : Reachable v) (hcalendar : v.isCalendar = true)
    (bindings : Bindings) :
    (v.year? ≠ some 0 → read v.kind v.text bindings = .ok v.withWholeMinutes) ∧
      (v.year? = some 0 → EntersYearZero v ∧
        read v.kind v.text bindings = .error (.invalidLexical v.kind v.text)) := by
  have hread := read_calendarText_eq hcalendar h.withinFourteenHours bindings
  constructor
  · intro hyear
    rw [hread, if_neg hyear]
  · intro hyear
    exact ⟨h.entersYearZero hyear, by rw [hread, if_pos hyear]⟩

/-- The end of the last day before the year 0 is read, but what it is read as is not. -/
theorem Reachable.read_text_endOfDay :
    read .dateTime "-0001-12-31T24:00:00" .empty =
        .ok (dateTime ⟨Moment.startOfYearZero, none⟩) ∧
      read .dateTime "0000-01-01T00:00:00" .empty =
        .error (.invalidLexical .dateTime "0000-01-01T00:00:00") := by
  have hread : read .dateTime "-0001-12-31T24:00:00" .empty =
      .ok (dateTime ⟨Moment.startOfYearZero, none⟩) := by decide +kernel
  have htext : (dateTime ⟨Moment.startOfYearZero, none⟩).text = "0000-01-01T00:00:00" := by
    decide +kernel
  have hunread := ((Reachable.text hread).read_text rfl .empty).2 rfl
  rw [htext] at hunread
  exact ⟨hread, hunread.2⟩

end XPathValues.AtomicValue
