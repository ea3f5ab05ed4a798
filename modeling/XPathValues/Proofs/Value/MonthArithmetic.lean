import Mathlib.Tactic
import XPathValues.Proofs.Calendar.Months
import XPathValues.Proofs.Calendar.Translation
import XPathValues.Proofs.Value.Difference
import XPathValues.Proofs.Value.DurationSum

/-!
# Adding months

A duration of months moves the date of a moment, or a date, to the month that is so many further on.
Everything else stays, but for a day that the month does not have. Whatever the count of months,
only the years of the calendar limit the move.
-/

namespace XPathValues

/-- A count that fits is split into a size and a direction and put together again by the calendar;
one that does not fit leads out of the calendar. -/
theorem DateTime.addMonths_eq (x : DateTime) (d : YearMonthDuration) :
    x.addMonths d = orError .dateTimeOutOfRange
      ((x.value.date.shiftMonths? d.months).map fun date => ⟨⟨date, x.value.time⟩, x.zone⟩) := by
  unfold addMonths toUInt32?
  by_cases hfits : d.months.natAbs < UInt32.size
  · have hmoved : (if 0 ≤ d.months then x.value.date.addMonths? (.ofNatLT d.months.natAbs hfits)
        else x.value.date.subtractMonths? (.ofNatLT d.months.natAbs hfits)) =
        x.value.date.shiftMonths? d.months := by
      split
      · next hon =>
        rw [CalendarDate.addMonths?, UInt32.toNat_ofNatLT, Int.natAbs_of_nonneg hon]
      · next hback =>
        rw [CalendarDate.subtractMonths?, UInt32.toNat_ofNatLT,
          Int.ofNat_natAbs_of_nonpos (not_le.mp hback).le, neg_neg]
    rw [dif_pos hfits]
    change (orError Error.dateTimeOutOfRange (ite _ _ _) >>= _) = _
    rw [hmoved]
    cases x.value.date.shiftMonths? d.months <;> rfl
  · rw [dif_neg hfits, CalendarDate.shiftMonths?_eq_none (not_lt.mp hfits)]
    rfl

theorem Date.addMonths_eq (x : Date) (d : YearMonthDuration) :
    x.addMonths d = orError .dateTimeOutOfRange
      ((x.value.shiftMonths? d.months).map fun date => ⟨date, x.zone⟩) := by
  rw [addMonths, DateTime.addMonths_eq, map_orError, Option.map_map]
  rfl

theorem Date.utcNanos_le_iff {x y : Date} {zone : Timezone} (hzone : x.zone = y.zone) :
    x.utcNanos zone ≤ y.utcNanos zone ↔ x.value.dayNumber ≤ y.value.dayNumber := by
  rw [Zoned.utcNanos, Zoned.utcNanos, x.nanos_anchor, y.nanos_anchor, hzone]
  unfold TimeOfDay.dayLength
  omega

theorem Moment.holds_le_compare {m n : Moment} :
    ComparisonOperator.le.holds (m.compare n) = true ↔ m.nanos ≤ n.nanos := by
  unfold Moment.compare
  rcases lt_trichotomy m.nanos n.nanos with hlt | heq | hgt
  · rw [if_pos hlt]
    exact iff_of_true rfl hlt.le
  · rw [if_neg heq.not_lt, if_pos heq]
    exact iff_of_true rfl heq.le
  · rw [if_neg hgt.not_gt, if_neg hgt.ne']
    exact iff_of_false Bool.false_ne_true hgt.not_ge

namespace AtomicValue

variable {v : AtomicValue} {day : CalendarDate} {d : YearMonthDuration} {zone : Timezone}

def calendarDate? : AtomicValue → Option CalendarDate
  | dateTime x => some x.value.date
  | date x => some x.value
  | _ => none

/-- The value on another date; its clock and its zone stay. -/
def withDate (v : AtomicValue) (day : CalendarDate) : AtomicValue :=
  match v with
  | dateTime x => dateTime ⟨⟨day, x.value.time⟩, x.zone⟩
  | date x => date ⟨day, x.zone⟩
  | v => v

theorem add_yearMonthDuration (h : v.calendarDate? = some day) (d : YearMonthDuration)
    (zone : Timezone) :
    v.arithmetic .add (yearMonthDuration d) zone =
      orError .dateTimeOutOfRange ((day.shiftMonths? d.months).map v.withDate) := by
  cases v with
  | dateTime x =>
    obtain rfl := Option.some.inj h
    change (x.addMonths d).map dateTime = _
    rw [x.addMonths_eq, map_orError, Option.map_map]
    rfl
  | date x =>
    obtain rfl := Option.some.inj h
    change (x.addMonths d).map date = _
    rw [x.addMonths_eq, map_orError, Option.map_map]
    rfl
  | _ => cases h

theorem add_of_isMonthIndex (h : v.calendarDate? = some day)
    (hmonth : Calendar.IsMonthIndex (day.monthIndex + d.months)) :
    ∃ moved, CalendarDate.MovesByMonths d.months day moved ∧
      v.arithmetic .add (yearMonthDuration d) zone = .ok (v.withDate moved) := by
  obtain ⟨moved, hmoved⟩ :=
    Option.isSome_iff_exists.mp (CalendarDate.isSome_shiftMonths?_iff.mpr hmonth)
  refine ⟨moved, CalendarDate.shiftMonths?_eq_some_iff.mp hmoved, ?_⟩
  rw [add_yearMonthDuration h, hmoved]
  rfl

theorem add_of_not_isMonthIndex (h : v.calendarDate? = some day)
    (hmonth : ¬ Calendar.IsMonthIndex (day.monthIndex + d.months)) :
    v.arithmetic .add (yearMonthDuration d) zone = .error .dateTimeOutOfRange := by
  have hnone : day.shiftMonths? d.months = none := by
    rw [← CalendarDate.isSome_shiftMonths?_iff, Bool.not_eq_true, Option.isSome_eq_false_iff,
      Option.isNone_iff_eq_none] at hmonth
    exact hmonth
  rw [add_yearMonthDuration h, hnone]
  rfl

/-- Taking months off is adding the opposite months, which are there for all counts but one. -/
theorem subtract_eq_add_negate (h : v.calendarDate? = some day)
    (hmonths : d.months ≠ -9223372036854775808) :
    ∃ e, (yearMonthDuration d).negate = .ok (yearMonthDuration e) ∧ e.months = -d.months ∧
      v.arithmetic .subtract (yearMonthDuration d) zone =
        v.arithmetic .add (yearMonthDuration e) zone := by
  obtain ⟨e, he, hopposite⟩ := YearMonthDuration.exists_neg hmonths
  refine ⟨e, congrArg (Except.map yearMonthDuration) he, hopposite, ?_⟩
  cases v with
  | dateTime x =>
    change (d.neg >>= fun e => (x.addMonths e).map dateTime) = _
    rw [he]
    rfl
  | date x =>
    change (d.neg >>= fun e => (x.addMonths e).map date) = _
    rw [he]
    rfl
  | _ => cases h

/-! ## The order of dates -/

theorem onTimeline_of_compare {a b : AtomicValue} {op : ComparisonOperator} {answer : Bool}
    (hkind : a.kind = b.kind) (h : a.compare op b zone = .ok answer) :
    a.OnTimeline zone ∧ b.OnTimeline zone := by
  by_contra hleave
  have hfail := congrFun (compare_of_leaveCalendar ((leaveCalendar_iff hkind).mpr hleave)) op
  cases h.symm.trans hfail

theorem compare_le_dates {x y : Date} (hzone : x.zone = y.zone)
    (htimeline : (date x).OnTimeline zone ∧ (date y).OnTimeline zone) :
    (date x).compare .le (date y) zone = .ok true ↔ x.value.dayNumber ≤ y.value.dayNumber := by
  obtain ⟨m, hm, hm'⟩ := exists_instant? (v := date x) rfl htimeline.1
  obtain ⟨n, hn, hn'⟩ := exists_instant? (v := date y) rfl htimeline.2
  have hkind : (date x).kind = (date y).kind := rfl
  rw [compare_of_instants hkind rfl hm hn, Except.ok.injEq, Moment.holds_le_compare, hm', hn',
    Date.utcNanos_le_iff hzone]

theorem movesByMonths_of_add {x y : Date}
    (h : (date x).arithmetic .add (yearMonthDuration d) zone = .ok (date y)) :
    CalendarDate.MovesByMonths d.months x.value y.value ∧ y.zone = x.zone := by
  rw [add_yearMonthDuration rfl] at h
  obtain ⟨day, hday, heq⟩ := Option.map_eq_some_iff.mp (eq_some_of_orError h)
  obtain rfl := AtomicValue.date.inj heq
  exact ⟨CalendarDate.shiftMonths?_eq_some_iff.mp hday, rfl⟩

theorem dates_keep_order {x y x' y' : Date} (hzone : x.zone = y.zone)
    (hx : (date x).arithmetic .add (yearMonthDuration d) zone = .ok (date x'))
    (hy : (date y).arithmetic .add (yearMonthDuration d) zone = .ok (date y')) :
    (x.value.dayNumber ≤ y.value.dayNumber → x'.value.dayNumber ≤ y'.value.dayNumber) ∧
      ((date x').OnTimeline zone ∧ (date y').OnTimeline zone →
        (date x).compare .le (date y) zone = .ok true →
          (date x').compare .le (date y') zone = .ok true) := by
  obtain ⟨hxmoves, hxzone⟩ := movesByMonths_of_add hx
  obtain ⟨hymoves, hyzone⟩ := movesByMonths_of_add hy
  have hdays := hxmoves.dayNumber_le hymoves
  have hzone' : x'.zone = y'.zone := by rw [hxzone, hyzone, hzone]
  have hkind : (date x).kind = (date y).kind := rfl
  refine ⟨hdays, fun htimeline hle => ?_⟩
  rw [compare_le_dates hzone' htimeline]
  exact hdays ((compare_le_dates hzone (onTimeline_of_compare hkind hle)).mp hle)

/-- Months move a moment or a date to the month so many further on, on the same day or on the last
one of that month, and nothing else changes. They fail, as out of range, if and only if the year of
that month is not in the calendar. They are taken off by adding the opposite months. So dates of one
zone keep their order, on the calendar and on the timeline. -/
theorem month_arithmetic (d : YearMonthDuration) (zone : Timezone) :
    (∀ (v : AtomicValue) (day : CalendarDate), v.calendarDate? = some day →
        (Calendar.IsMonthIndex (day.monthIndex + d.months) →
          ∃ moved, CalendarDate.MovesByMonths d.months day moved ∧
            v.arithmetic .add (yearMonthDuration d) zone = .ok (v.withDate moved)) ∧
        (¬ Calendar.IsMonthIndex (day.monthIndex + d.months) →
          v.arithmetic .add (yearMonthDuration d) zone = .error .dateTimeOutOfRange) ∧
        (d.months ≠ -9223372036854775808 →
          ∃ e, (yearMonthDuration d).negate = .ok (yearMonthDuration e) ∧ e.months = -d.months ∧
            v.arithmetic .subtract (yearMonthDuration d) zone =
              v.arithmetic .add (yearMonthDuration e) zone)) ∧
      ∀ x y x' y' : Date, x.zone = y.zone →
        (date x).arithmetic .add (yearMonthDuration d) zone = .ok (date x') →
          (date y).arithmetic .add (yearMonthDuration d) zone = .ok (date y') →
            (x.value.dayNumber ≤ y.value.dayNumber → x'.value.dayNumber ≤ y'.value.dayNumber) ∧
              ((date x').OnTimeline zone ∧ (date y').OnTimeline zone →
                (date x).compare .le (date y) zone = .ok true →
                  (date x').compare .le (date y') zone = .ok true) := by
  constructor
  · intro v day h
    exact ⟨add_of_isMonthIndex h, add_of_not_isMonthIndex h, subtract_eq_add_negate h⟩
  · intro x y x' y' hzone hx hy
    exact dates_keep_order hzone hx hy

/-- The last day of a January moves to the leap day of the year 0, and back to the same day of
January as that. The day after it moves to March. The last month of the calendar has no next one. -/
theorem month_arithmetic_leapDay :
    let month : YearMonthDuration := ⟨1, by decide⟩
    let zone : Timezone := ⟨50400, by decide⟩
    let x : Date := ⟨⟨0, 1, 31, by decide⟩, some zone⟩
    let y : Date := ⟨⟨0, 2, 1, by decide⟩, some zone⟩
    let x' : Date := ⟨⟨0, 2, 29, by decide⟩, some zone⟩
    let y' : Date := ⟨⟨0, 3, 1, by decide⟩, some zone⟩
    let last : AtomicValue := dateTime ⟨.last, none⟩
    (Calendar.IsMonthIndex (x.value.monthIndex + month.months) ∧
        ∃ moved, CalendarDate.MovesByMonths month.months x.value moved ∧
          (date x).arithmetic .add (yearMonthDuration month) .utc =
            .ok ((date x).withDate moved)) ∧
      (¬ Calendar.IsMonthIndex (CalendarDate.last.monthIndex + month.months) ∧
        last.arithmetic .add (yearMonthDuration month) .utc = .error .dateTimeOutOfRange) ∧
      (month.months ≠ -9223372036854775808 ∧
        ∃ e, (yearMonthDuration month).negate = .ok (yearMonthDuration e) ∧
          (date x').arithmetic .subtract (yearMonthDuration month) .utc =
            (date x').arithmetic .add (yearMonthDuration e) .utc) ∧
      (date x).arithmetic .add (yearMonthDuration month) .utc = .ok (date x') ∧
      (date x').arithmetic .subtract (yearMonthDuration month) .utc =
        .ok (date ⟨⟨0, 1, 29, by decide⟩, some zone⟩) ∧
      x.value.dayNumber ≤ y.value.dayNumber ∧ x'.value.dayNumber ≤ y'.value.dayNumber ∧
      (date x).compare .le (date y) .utc = .ok true ∧
      (date x').compare .le (date y') .utc = .ok true := by
  intro month zone x y x' y' last
  have hmonth : Calendar.IsMonthIndex (x.value.monthIndex + month.months) := by decide
  have hnoMonth : ¬ Calendar.IsMonthIndex (CalendarDate.last.monthIndex + month.months) := by
    decide
  have hmonths : month.months ≠ -9223372036854775808 := by decide
  have hx : (date x).arithmetic .add (yearMonthDuration month) .utc = .ok (date x') := by
    decide +kernel
  have hy : (date y).arithmetic .add (yearMonthDuration month) .utc = .ok (date y') := by
    decide +kernel
  have hdays : x.value.dayNumber ≤ y.value.dayNumber := by decide +kernel
  have hle : (date x).compare .le (date y) .utc = .ok true := by decide +kernel
  have htimeline : (date x').OnTimeline .utc ∧ (date y').OnTimeline .utc := by decide +kernel
  obtain ⟨hmoved, horder⟩ := month_arithmetic month .utc
  obtain ⟨hkeep, hkeep'⟩ := horder x y x' y' rfl hx hy
  obtain ⟨e, he, _, hsubtract⟩ := (hmoved (date x') x'.value rfl).2.2 hmonths
  exact ⟨⟨hmonth, (hmoved (date x) x.value rfl).1 hmonth⟩,
    ⟨hnoMonth, (hmoved last _ rfl).2.1 hnoMonth⟩, ⟨hmonths, e, he, hsubtract⟩, hx,
    by decide +kernel, hdays, hkeep hdays, hle, hkeep' htimeline hle⟩

end AtomicValue

end XPathValues
