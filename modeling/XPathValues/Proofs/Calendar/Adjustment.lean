import Mathlib.Tactic
import XPathValues.Proofs.Calendar.Translation

/-!
# Adjusting to a timezone

Three types are adjusted to a timezone: a moment keeps its instant, a time keeps its distance from
UTC on the clock, and a date becomes the day in the new zone of the instant at which it started. One
adjustment after another is therefore the last of them, but for dates, which forget the instant. A
value without a zone only gains one, and without a target the zone is only dropped. Clocks that read
within a leap second are left out.
-/

namespace XPathValues

namespace Zoned

variable {α : Type} [CalendarPart α] {x : Zoned α} {current : Timezone}

theorem utcNanos_of_zone (h : x.zone = some current) (zone : Timezone) :
    x.utcNanos zone = x.anchor.nanos - current.seconds * TimeOfDay.second := by
  rw [utcNanos, h]
  rfl

/-- The number of an instant decides whether it exists, and which it is. -/
theorem instant_eq (x : Zoned α) (zone : Timezone) :
    x.instant zone = orError .dateTimeOutOfRange (Moment.ofNanos? (x.utcNanos zone)) := by
  have hshift : x.anchor.shiftSeconds? (-(x.zone.getD zone).seconds) =
      Moment.ofNanos? (x.utcNanos zone) := by
    rw [Moment.shiftSeconds?, Moment.shift?, utcNanos, Int.neg_mul, Int.sub_eq_add_neg]
  unfold instant
  rw [hshift]
  cases Moment.ofNanos? (x.utcNanos zone) <;> rfl

end Zoned

namespace DateTime

variable {x y u : DateTime} {current target t₁ t₂ : Timezone}

theorem adjust_of_zone (h : x.zone = some current) (target zone : Timezone) :
    x.adjust (some target) = orError .dateTimeOutOfRange
      ((Moment.ofNanos? (x.utcNanos zone + target.seconds * TimeOfDay.second)).map
        fun m => ⟨m, some target⟩) := by
  have hshift : x.value.shiftSeconds? (target.seconds - current.seconds) =
      Moment.ofNanos? (x.utcNanos zone + target.seconds * TimeOfDay.second) := by
    rw [Moment.shiftSeconds?, Moment.shift?, Zoned.utcNanos_of_zone h]
    congr 1
    change x.value.nanos + _ = x.value.nanos - _ + _
    ring
  unfold adjust
  rw [h]
  dsimp only
  rw [hshift]
  cases Moment.ofNanos? (x.utcNanos zone + target.seconds * TimeOfDay.second) <;> rfl

theorem adjust_eq_ok_iff (h : x.zone = some current) (zone : Timezone) :
    x.adjust (some target) = .ok y ↔
      y.zone = some target ∧ y.utcNanos zone = x.utcNanos zone := by
  rw [x.adjust_of_zone h target zone]
  constructor
  · intro hadjust
    obtain ⟨m, hm, rfl⟩ := Option.map_eq_some_iff.mp (eq_some_of_orError hadjust)
    refine ⟨rfl, ?_⟩
    have htarget : (⟨m, some target⟩ : DateTime).zone = some target := rfl
    have hnanos := Moment.nanos_ofNanos? hm
    rw [Zoned.utcNanos_of_zone htarget]
    change m.nanos - _ = _
    omega
  · rintro ⟨hzone, hinstant⟩
    have hnanos : x.utcNanos zone + target.seconds * TimeOfDay.second = y.value.nanos := by
      rw [← hinstant, Zoned.utcNanos_of_zone hzone]
      exact sub_add_cancel _ _
    rw [hnanos, Moment.ofNanos?_nanos, Option.map_some, ← hzone]
    rfl

theorem exists_adjust_iff (h : x.zone = some current) (target zone : Timezone) :
    (∃ y, x.adjust (some target) = .ok y) ↔
      Moment.InCalendar (x.utcNanos zone + target.seconds * TimeOfDay.second) := by
  rw [x.adjust_of_zone h target zone, ← Moment.isSome_ofNanos?_iff]
  cases Moment.ofNanos? (x.utcNanos zone + target.seconds * TimeOfDay.second) <;> simp [orError]

theorem adjust_adjust (h : x.zone = some current) (hu : x.adjust (some t₁) = .ok u) :
    u.adjust (some t₂) = x.adjust (some t₂) := by
  obtain ⟨hzone, hinstant⟩ := (adjust_eq_ok_iff h .utc).mp hu
  rw [u.adjust_of_zone hzone t₂ .utc, x.adjust_of_zone h t₂ .utc, hinstant]

theorem adjust_of_none {target : Option Timezone} (h : x.zone = none ∨ target = none) :
    x.adjust target = .ok (x.withZone target) := by
  unfold adjust
  rcases h with h | rfl
  · rw [h]
  · cases x.zone <;> rfl

theorem adjust_self (x : DateTime) : x.adjust x.zone = .ok x := by
  cases h : x.zone with
  | none => exact (adjust_of_none (Or.inl h)).trans (by rw [Zoned.withZone, ← h])
  | some current => exact (adjust_eq_ok_iff h .utc).mpr ⟨h, rfl⟩

end DateTime

namespace Date

variable {x y : Date} {current target : Timezone}

/-- The day of the moment in the target zone that has the instant of the start of the date. -/
theorem adjust_eq_ok_iff (h : x.zone = some current) (zone : Timezone) :
    x.adjust (some target) = .ok y ↔
      ∃ start : DateTime, start.zone = some target ∧ start.utcNanos zone = x.utcNanos zone ∧
        y = start.date := by
  have hstart (start : DateTime) : x.startOfDay.adjust (some target) = .ok start ↔
      start.zone = some target ∧ start.utcNanos zone = x.utcNanos zone :=
    DateTime.adjust_eq_ok_iff (x := x.startOfDay) h zone
  constructor
  · intro hadjust
    obtain ⟨start, hok, rfl⟩ := exists_of_map_eq_ok hadjust
    exact ⟨start, ((hstart start).mp hok).1, ((hstart start).mp hok).2, rfl⟩
  · rintro ⟨start, hzone, hinstant, rfl⟩
    exact congrArg (Except.map DateTime.date) ((hstart start).mpr ⟨hzone, hinstant⟩)

theorem adjust_of_none {target : Option Timezone} (h : x.zone = none ∨ target = none) :
    x.adjust target = .ok (x.withZone target) :=
  congrArg (Except.map DateTime.date) (DateTime.adjust_of_none (x := x.startOfDay) h)

theorem adjust_self (x : Date) : x.adjust x.zone = .ok x :=
  congrArg (Except.map DateTime.date) x.startOfDay.adjust_self

end Date

theorem TimeOfDay.shift_zero (time : TimeOfDay) : time.shift 0 = time := by
  apply eq_of_nanos_eq
  have hclock := time.bounded
  rw [nanos_shift, add_zero, Int.emod_eq_of_lt] <;> omega

theorem Moment.nanos_time (m : Moment) : (m.time.nanos : ℤ) = m.nanos % TimeOfDay.dayLength := by
  have hclock := m.time.bounded
  unfold nanos
  rw [add_comm, Int.add_mul_emod_self_right, Int.emod_eq_of_lt] <;> omega

namespace Time

variable {x y : Time} {current target : Timezone}

theorem adjust_of_zone (h : x.zone = some current) (target : Timezone) :
    x.adjust (some target) =
      ⟨x.value.shift ((target.seconds - current.seconds) * TimeOfDay.second), some target⟩ := by
  unfold adjust
  rw [h]

theorem adjust_of_none {target : Option Timezone} (h : x.zone = none ∨ target = none) :
    x.adjust target = x.withZone target := by
  unfold adjust
  rcases h with h | rfl
  · rw [h]
  · cases x.zone <;> rfl

theorem adjust_self (x : Time) : x.adjust x.zone = x := by
  cases h : x.zone with
  | none => rw [adjust_of_none (Or.inl h), Zoned.withZone, ← h]
  | some current => rw [adjust_of_zone h, sub_self, zero_mul, TimeOfDay.shift_zero, ← h]

theorem adjust_adjust (h : x.zone = some current) (t₁ t₂ : Timezone) :
    (x.adjust (some t₁)).adjust (some t₂) = x.adjust (some t₂) := by
  have hturn : (t₁.seconds - current.seconds) * (TimeOfDay.second : ℤ) +
      (t₂.seconds - t₁.seconds) * TimeOfDay.second =
        (t₂.seconds - current.seconds) * TimeOfDay.second := by ring
  rw [adjust_of_zone h t₁, adjust_of_zone h t₂, adjust_of_zone rfl, TimeOfDay.shift_shift, hturn]

theorem nanos_adjust (h : x.zone = some current) (target : Timezone) :
    ((x.adjust (some target)).value.nanos - target.seconds * TimeOfDay.second : ℤ) ≡
      x.value.nanos - current.seconds * TimeOfDay.second [ZMOD TimeOfDay.dayLength] := by
  rw [adjust_of_zone h, TimeOfDay.nanos_shift]
  calc ((x.value.nanos + (target.seconds - current.seconds) * TimeOfDay.second) %
          TimeOfDay.dayLength - target.seconds * TimeOfDay.second : ℤ)
      ≡ x.value.nanos + (target.seconds - current.seconds) * TimeOfDay.second -
          target.seconds * TimeOfDay.second [ZMOD TimeOfDay.dayLength] :=
        (Int.mod_modEq _ _).sub_right _
    _ = x.value.nanos - current.seconds * TimeOfDay.second := by ring

theorem adjust_eq_iff (h : x.zone = some current) :
    x.adjust (some target) = y ↔
      y.zone = some target ∧
        (y.value.nanos - target.seconds * TimeOfDay.second : ℤ) ≡
          x.value.nanos - current.seconds * TimeOfDay.second [ZMOD TimeOfDay.dayLength] := by
  constructor
  · rintro rfl
    refine ⟨?_, nanos_adjust h target⟩
    rw [adjust_of_zone h]
  · rintro ⟨hzone, hclock⟩
    have hsame := ((nanos_adjust h target).trans hclock.symm).add_right
      (target.seconds * TimeOfDay.second)
    rw [sub_add_cancel, sub_add_cancel] at hsame
    have hadjusted := (x.adjust (some target)).value.bounded
    have hy := y.value.bounded
    refine Zoned.eq_of_value_eq (TimeOfDay.eq_of_nanos_eq ?_) ?_
    · rw [← Int.emod_eq_of_lt (by omega) (Int.ofNat_lt.mpr hadjusted), hsame,
        Int.emod_eq_of_lt (by omega) (Int.ofNat_lt.mpr hy)]
    · rw [hzone, adjust_of_zone h]

def onReferenceDay (x : Time) : DateTime := ⟨x.anchor, x.zone⟩

theorem utcNanos_onReferenceDay (h : x.zone = some current) (zone : Timezone) :
    x.onReferenceDay.utcNanos zone =
      TimeOfDay.referenceDay.dayNumber * TimeOfDay.dayLength + x.value.nanos -
        current.seconds * TimeOfDay.second :=
  Zoned.utcNanos_of_zone (x := x.onReferenceDay) h zone

/-- Two offsets never lead from the reference day beyond the ends of the calendar. -/
theorem exists_adjust_onReferenceDay (h : x.zone = some current) (target : Timezone) :
    ∃ y, x.onReferenceDay.adjust (some target) = .ok y := by
  have hfirst : Moment.first.nanos + 2 * TimeOfDay.dayLength ≤
      TimeOfDay.referenceDay.dayNumber * TimeOfDay.dayLength := by decide +kernel
  have hlast : TimeOfDay.referenceDay.dayNumber * TimeOfDay.dayLength + 3 * TimeOfDay.dayLength ≤
      Moment.last.nanos := by decide +kernel
  have hclock := x.value.bounded
  have hcurrent := current.bounded
  have htarget := target.bounded
  have hplaced : x.onReferenceDay.zone = some current := h
  -- Each offset is less than a day, so the clock ends within two days of the reference day.
  rw [DateTime.exists_adjust_iff hplaced target .utc, utcNanos_onReferenceDay h, Moment.InCalendar]
  unfold TimeOfDay.dayLength TimeOfDay.second at *
  omega

/-- A time is adjusted as its moment on the reference day is, which never fails. -/
theorem adjust_onReferenceDay (x : Time) (target : Option Timezone) :
    (x.onReferenceDay.adjust target).map DateTime.time = .ok (x.adjust target) := by
  by_cases hnone : x.zone = none ∨ target = none
  · rw [DateTime.adjust_of_none (x := x.onReferenceDay) hnone, adjust_of_none hnone]
    rfl
  · obtain ⟨hzone, htarget⟩ := not_or.mp hnone
    obtain ⟨current, hcurrent⟩ := Option.ne_none_iff_exists'.mp hzone
    obtain ⟨target, rfl⟩ := Option.ne_none_iff_exists'.mp htarget
    obtain ⟨y, hy⟩ := x.exists_adjust_onReferenceDay hcurrent target
    have hplaced : x.onReferenceDay.zone = some current := hcurrent
    obtain ⟨hyzone, hinstant⟩ := (DateTime.adjust_eq_ok_iff hplaced .utc).mp hy
    rw [Zoned.utcNanos_of_zone hyzone, utcNanos_onReferenceDay hcurrent] at hinstant
    have hnanos : y.value.nanos =
        x.value.nanos + (target.seconds - current.seconds) * TimeOfDay.second +
          TimeOfDay.referenceDay.dayNumber * TimeOfDay.dayLength := by
      change y.value.nanos - _ = _ at hinstant
      linarith
    have hclock : y.value.time =
        x.value.shift ((target.seconds - current.seconds) * TimeOfDay.second) := by
      apply TimeOfDay.eq_of_nanos_eq
      rw [y.value.nanos_time, TimeOfDay.nanos_shift, hnanos, Int.add_mul_emod_self_right]
    rw [hy, adjust_of_zone hcurrent]
    exact congrArg Except.ok (Zoned.eq_of_value_eq hclock hyzone)

end Time

/-- A moment with a zone becomes the one of the target with its instant, a time with a zone becomes
the one of the target with its clock less its offset, which never fails, and a date with a zone
becomes the day in the target zone of the instant at which it starts. For moments and times the last
target alone counts, and their own zone changes nothing. Without a zone or without a target, only
the zone is set. -/
theorem adjustment_keeps_instant :
    (∀ (x u : DateTime) (current t₁ t₂ zone : Timezone), x.zone = some current →
        (x.adjust (some t₁) = .ok u ↔
          u.zone = some t₁ ∧ u.utcNanos zone = x.utcNanos zone) ∧
        (x.adjust (some t₁) = .ok u →
          u.instant zone = x.instant zone ∧ u.adjust (some t₂) = x.adjust (some t₂))) ∧
      (∀ x : DateTime, x.adjust x.zone = .ok x) ∧
      (∀ (x u : Time) (current t₁ t₂ : Timezone), x.zone = some current →
        (x.onReferenceDay.adjust (some t₁)).map DateTime.time = .ok (x.adjust (some t₁)) ∧
          (x.adjust (some t₁) = u ↔
            u.zone = some t₁ ∧
              (u.value.nanos - t₁.seconds * TimeOfDay.second : ℤ) ≡
                x.value.nanos - current.seconds * TimeOfDay.second [ZMOD TimeOfDay.dayLength]) ∧
          (x.adjust (some t₁)).adjust (some t₂) = x.adjust (some t₂)) ∧
      (∀ x : Time, x.adjust x.zone = x) ∧
      (∀ (x y : Date) (current target zone : Timezone), x.zone = some current →
        (x.adjust (some target) = .ok y ↔
          ∃ start : DateTime, start.zone = some target ∧
            start.utcNanos zone = x.utcNanos zone ∧ y = start.date)) ∧
      ∀ zone target : Option Timezone, zone = none ∨ target = none →
        (∀ m : Moment, DateTime.adjust ⟨m, zone⟩ target = .ok ⟨m, target⟩) ∧
          (∀ date : CalendarDate, Date.adjust ⟨date, zone⟩ target = .ok ⟨date, target⟩) ∧
          ∀ clock : TimeOfDay, Time.adjust ⟨clock, zone⟩ target = ⟨clock, target⟩ := by
  refine ⟨?_, DateTime.adjust_self, ?_, Time.adjust_self, ?_, ?_⟩
  · intro x u current t₁ t₂ zone h
    refine ⟨DateTime.adjust_eq_ok_iff h zone, fun hu => ⟨?_, DateTime.adjust_adjust h hu⟩⟩
    rw [u.instant_eq, x.instant_eq, ((DateTime.adjust_eq_ok_iff h zone).mp hu).2]
  · intro x u current t₁ t₂ h
    exact ⟨x.adjust_onReferenceDay _, Time.adjust_eq_iff h, Time.adjust_adjust h t₁ t₂⟩
  · intro x y current target zone h
    exact Date.adjust_eq_ok_iff h zone
  · intro zone target h
    exact ⟨fun _ => DateTime.adjust_of_none h, fun _ => Date.adjust_of_none h,
      fun _ => Time.adjust_of_none h⟩

/-- A nanosecond after the start of a year far in the east is two days earlier far in the west. -/
theorem adjustment_keeps_instant_newYear :
    let east : Timezone := ⟨50400, by decide⟩
    let west : Timezone := ⟨-50400, by decide⟩
    let clock : TimeOfDay := ⟨1, by decide⟩
    let evening : TimeOfDay := ⟨72000000000001, by decide⟩
    let x : DateTime := ⟨⟨⟨2000, 1, 1, by decide⟩, clock⟩, some east⟩
    let u : DateTime := ⟨⟨⟨1999, 12, 30, by decide⟩, evening⟩, some west⟩
    let time : Time := ⟨clock, some east⟩
    x.adjust (some west) = .ok u ∧ u.instant .utc = x.instant .utc ∧
      u.adjust (some .utc) = x.adjust (some .utc) ∧
      time.adjust (some west) = ⟨evening, some west⟩ ∧
      (time.onReferenceDay.adjust (some west)).map DateTime.time = .ok ⟨evening, some west⟩ ∧
      x.date.adjust (some west) = .ok u.date ∧
      Date.adjust ⟨x.value.date, none⟩ (some west) = .ok ⟨x.value.date, some west⟩ := by
  intro east west clock evening x u time
  have hadjust : x.adjust (some west) = .ok u := by decide +kernel
  let start : DateTime := ⟨⟨u.value.date, ⟨72000000000000, by decide⟩⟩, some west⟩
  have hstart : start.utcNanos .utc = x.date.utcNanos .utc := by decide +kernel
  obtain ⟨hmoment, _, hclock, _, hdate, hset⟩ := adjustment_keeps_instant
  obtain ⟨hinstant, hlast⟩ := (hmoment x u east west .utc .utc rfl).2 hadjust
  obtain ⟨hplaced, hturned, _⟩ := hclock time ⟨evening, some west⟩ east west .utc rfl
  have htime := hturned.mpr ⟨rfl, by decide +kernel⟩
  rw [htime] at hplaced
  exact ⟨hadjust, hinstant, hlast, htime, hplaced,
    (hdate x.date u.date east west .utc rfl).mpr ⟨start, rfl, hstart, rfl⟩,
    (hset none (some west) (Or.inl rfl)).2.1 x.value.date⟩

end XPathValues
