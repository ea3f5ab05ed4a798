import Mathlib.Tactic
import XPathValues.Proofs.Calendar.Distance
import XPathValues.Proofs.Outcome

/-!
# Moving a calendar value by seconds

A moment moves by the nanoseconds of the shift as long as it stays in the calendar. A date moves to
the day into which the moved start of its day falls. A clock is turned by as much, so that whole
days do not show, and only the length of the shift is limited.
-/

namespace XPathValues

namespace Moment

variable {n : ℤ} {date : CalendarDate}

theorem nanos_startOfDay (date : CalendarDate) :
    (startOfDay date).nanos = date.dayNumber * TimeOfDay.dayLength := by
  simp [startOfDay, nanos, TimeOfDay.midnight]

/-- A date has the moments from its start up to a day later, and no others. -/
theorem exists_date_eq_iff :
    (∃ m : Moment, m.nanos = n ∧ m.date = date) ↔
      (startOfDay date).nanos ≤ n ∧ n < (startOfDay date).nanos + TimeOfDay.dayLength := by
  constructor
  · rintro ⟨m, rfl, rfl⟩
    have hclock := m.time.bounded
    rw [nanos_startOfDay]
    unfold nanos
    omega
  · rintro ⟨hstart, hend⟩
    have hnumber := nanos_startOfDay date
    refine ⟨⟨date, ⟨(n - (startOfDay date).nanos).toNat, by omega⟩⟩, ?_, rfl⟩
    change date.dayNumber * TimeOfDay.dayLength + ((n - (startOfDay date).nanos).toNat : ℤ) = n
    omega

end Moment

theorem Zoned.eq_of_value_eq {α : Type} {x y : Zoned α} (hvalue : x.value = y.value)
    (hzone : x.zone = y.zone) : x = y := by
  obtain ⟨value, zone⟩ := x
  obtain rfl := hvalue
  obtain rfl := hzone
  rfl

namespace DateTime

variable {x y : DateTime} {d : DayTimeDuration}

theorem addSeconds_eq_ok_iff :
    x.addSeconds d = .ok y ↔
      y.zone = x.zone ∧ y.value.nanos = x.value.nanos + d.seconds.billionths := by
  unfold addSeconds
  constructor
  · intro h
    split at h
    · next m hm =>
      obtain rfl := Except.ok.inj h
      obtain ⟨span, hspan, hmoved⟩ := Option.bind_eq_some_iff.mp hm
      rw [TimeSpan.ofDecimal?_eq_some_iff] at hspan
      exact ⟨rfl, hspan ▸ Moment.nanos_shift? hmoved⟩
    · cases h
  · rintro ⟨hzone, hnanos⟩
    obtain ⟨span, hspan⟩ := TimeSpan.exists_ofNanos? (Moment.natAbs_le_maxNanos hnanos)
    rw [← TimeSpan.ofDecimal?_eq] at hspan
    rw [← TimeSpan.ofDecimal?_eq_some_iff.mp hspan] at hnanos
    rw [hspan, Option.bind_some, Moment.shift?_eq_some_iff.mpr hnanos, ← hzone]

end DateTime

namespace Date

variable {x y : Date} {d : DayTimeDuration}

theorem nanos_anchor (x : Date) : x.anchor.nanos = x.value.dayNumber * TimeOfDay.dayLength :=
  Moment.nanos_startOfDay x.value

theorem addSeconds_eq_ok_iff :
    x.addSeconds d = .ok y ↔
      y.zone = x.zone ∧ y.anchor.nanos ≤ x.anchor.nanos + d.seconds.billionths ∧
        x.anchor.nanos + d.seconds.billionths < y.anchor.nanos + TimeOfDay.dayLength := by
  constructor
  · intro h
    obtain ⟨moved, hmoved, rfl⟩ := exists_of_map_eq_ok h
    obtain ⟨hzone, hnanos⟩ := DateTime.addSeconds_eq_ok_iff.mp hmoved
    exact ⟨hzone, Moment.exists_date_eq_iff.mp ⟨moved.value, hnanos, rfl⟩⟩
  · rintro ⟨hzone, hday⟩
    obtain ⟨m, hnanos, hdate⟩ := Moment.exists_date_eq_iff.mpr hday
    have hmoved : x.startOfDay.addSeconds d = .ok ⟨m, x.zone⟩ :=
      DateTime.addSeconds_eq_ok_iff.mpr ⟨rfl, hnanos⟩
    rw [addSeconds, hmoved, ← hzone]
    change Except.ok (Zoned.mk m.date y.zone) = _
    rw [hdate]

theorem addSeconds_eq_ok_iff_of_wholeDays {k : ℤ}
    (h : d.seconds.billionths = k * TimeOfDay.dayLength) :
    x.addSeconds d = .ok y ↔
      y.zone = x.zone ∧ y.anchor.nanos = x.anchor.nanos + d.seconds.billionths := by
  rw [addSeconds_eq_ok_iff, x.nanos_anchor, y.nanos_anchor, h]
  refine and_congr_right fun _ => ?_
  unfold TimeOfDay.dayLength
  omega

end Date

namespace Time

variable {x y : Time} {d : DayTimeDuration}

theorem addSeconds_eq_ok_iff :
    x.addSeconds d = .ok y ↔
      d.seconds.billionths.natAbs ≤ TimeSpan.maxNanos ∧ y.zone = x.zone ∧
        (y.value.nanos : ℤ) = (x.value.nanos + d.seconds.billionths) % TimeOfDay.dayLength := by
  unfold addSeconds
  constructor
  · intro h
    split at h
    · next span hspan =>
      obtain rfl := Except.ok.inj h
      rw [TimeSpan.ofDecimal?_eq_some_iff] at hspan
      rw [← hspan]
      exact ⟨span.natAbs_length_le, rfl, TimeOfDay.nanos_shift _ _⟩
    · cases h
  · rintro ⟨hreach, hzone, hnanos⟩
    obtain ⟨span, hspan⟩ := TimeSpan.exists_ofNanos? hreach
    rw [← TimeSpan.ofDecimal?_eq] at hspan
    have hclock : x.value.shift span.length = y.value := by
      apply TimeOfDay.eq_of_nanos_eq
      rw [TimeOfDay.nanos_shift, TimeSpan.ofDecimal?_eq_some_iff.mp hspan, hnanos]
    rw [hspan]
    change Except.ok (Zoned.mk (x.value.shift span.length) x.zone) = _
    rw [hclock, ← hzone]

end Time

end XPathValues
