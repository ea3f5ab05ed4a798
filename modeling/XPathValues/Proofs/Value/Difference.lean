import Mathlib.Tactic
import XPathValues.Proofs.Calendar.Translation
import XPathValues.Proofs.Value.Equality
import XPathValues.Proofs.Value.ResultKind

/-!
# The distance of two calendar values

Moments, dates and times of one type are as far apart as their instants are, exact to the
nanosecond, and they compare as their distance compares with no time at all. A moment that is moved
by its distance from another falls on the instant of that other. Instants within a leap second are
left out.
-/

namespace XPathValues

namespace Zoned

variable {α : Type} [CalendarPart α] {x y : Zoned α} {zone : Timezone} {d : DayTimeDuration}

theorem difference_eq_ok_iff :
    x.difference y zone = .ok d ↔
      ∃ m n, x.instant zone = .ok m ∧ y.instant zone = .ok n ∧ d = ⟨m.secondsSince n⟩ := by
  constructor
  · intro h
    obtain ⟨m, hm, h⟩ := exists_of_bind_eq_ok h
    obtain ⟨n, hn, h⟩ := exists_of_bind_eq_ok h
    exact ⟨m, n, hm, hn, (Except.ok.inj h).symm⟩
  · rintro ⟨m, n, hm, hn, rfl⟩
    unfold difference
    rw [hm, hn]
    rfl

theorem map_difference (x y : Zoned α) (zone : Timezone) :
    (x.difference y zone).map AtomicValue.dayTimeDuration = do
      let m ← x.instant zone
      let n ← y.instant zone
      return .dayTimeDuration ⟨m.secondsSince n⟩ := by
  unfold difference
  cases x.instant zone <;> cases y.instant zone <;> rfl

theorem billionths_of_difference (h : x.difference y zone = .ok d) :
    d.seconds.billionths = x.utcNanos zone - y.utcNanos zone := by
  obtain ⟨m, n, hm, hn, rfl⟩ := difference_eq_ok_iff.mp h
  rw [Moment.billionths_secondsSince, instant_eq_ok_iff_nanos.mp hm, instant_eq_ok_iff_nanos.mp hn]

end Zoned

namespace AtomicKind

variable {kind : AtomicKind}

theorem isCalendar_of_hasDistance (h : kind.hasDistance = true) : kind.isCalendar = true := by
  cases kind <;> first | rfl | cases h

theorem isOrdered_of_hasDistance (h : kind.hasDistance = true) : kind.isOrdered = true := by
  cases kind <;> first | rfl | cases h

end AtomicKind

namespace AtomicValue

variable {a b w : AtomicValue} {zone : Timezone} {x y : Moment} {d : DayTimeDuration}

/-- Two values of a type with distances are subtracted through their instants. -/
theorem subtract_of_instants {x y : Except Error Moment} (hkind : a.kind = b.kind)
    (hdistance : a.kind.hasDistance = true) (ha : a.instant? zone = some x)
    (hb : b.instant? zone = some y) :
    a.arithmetic .subtract b zone = do
      let m ← x
      let n ← y
      return dayTimeDuration ⟨m.secondsSince n⟩ := by
  cases a with
  | dateTime _ | date _ | time _ =>
    cases b <;> cases hkind
    obtain rfl := Option.some.inj ha
    obtain rfl := Option.some.inj hb
    exact Zoned.map_difference _ _ zone
  | _ => cases hdistance

theorem compare_of_instants (hkind : a.kind = b.kind) (hdistance : a.kind.hasDistance = true)
    (ha : a.instant? zone = some (.ok x)) (hb : b.instant? zone = some (.ok y))
    (op : ComparisonOperator) : a.compare op b zone = .ok (op.holds (x.compare y)) := by
  have hrelate := relate_of_instants hkind ha hb
  rw [AtomicKind.isOrdered_of_hasDistance hdistance] at hrelate
  exact congrFun (compare_of_relate hrelate) op

theorem compare_dayTimeDurations (d e : DayTimeDuration) (op : ComparisonOperator)
    (zone : Timezone) :
    (dayTimeDuration d).compare op (dayTimeDuration e) zone =
      .ok (op.holds (d.seconds.compare e.seconds)) :=
  rfl

/-- The duration is the distance of the instants, and every operator answers for the two values as
it does for the distance and no time at all. -/
structure IsDistance (a b : AtomicValue) (zone : Timezone) (d : DayTimeDuration) : Prop where
  exact : ∃ x y, a.instant? zone = some (.ok x) ∧ b.instant? zone = some (.ok y) ∧
    d.seconds.toRat * 1000000000 = (x.nanos - y.nanos : ℤ)
  compared : ∀ op, ∃ answer, a.compare op b zone = .ok answer ∧
    (dayTimeDuration d).compare op (dayTimeDuration .zero) zone = .ok answer

theorem isDistance_of_instants (hkind : a.kind = b.kind) (hdistance : a.kind.hasDistance = true)
    (ha : a.instant? zone = some (.ok x)) (hb : b.instant? zone = some (.ok y)) :
    IsDistance a b zone ⟨x.secondsSince y⟩ where
  exact := ⟨x, y, ha, hb, x.toRat_secondsSince y⟩
  compared op := by
    refine ⟨_, compare_of_instants hkind hdistance ha hb op, ?_⟩
    rw [compare_dayTimeDurations, DayTimeDuration.zero, x.compare_secondsSince y]

theorem exists_isDistance (hkind : a.kind = b.kind) (hdistance : a.kind.hasDistance = true)
    (htimeline : a.OnTimeline zone ∧ b.OnTimeline zone) :
    ∃ d, a.arithmetic .subtract b zone = .ok (dayTimeDuration d) ∧ IsDistance a b zone d := by
  have hcalendar := AtomicKind.isCalendar_of_hasDistance hdistance
  obtain ⟨x, hx⟩ := exists_instant?_of_isCalendar hcalendar htimeline.1
  obtain ⟨y, hy⟩ := exists_instant?_of_isCalendar (hkind ▸ hcalendar) htimeline.2
  refine ⟨⟨x.secondsSince y⟩, ?_, isDistance_of_instants hkind hdistance hx hy⟩
  rw [subtract_of_instants hkind hdistance hx hy]
  rfl

theorem subtract_of_leaveCalendar (hdistance : a.kind.hasDistance = true)
    (h : LeaveCalendar a b zone) :
    a.arithmetic .subtract b zone = .error .dateTimeOutOfRange := by
  obtain ⟨x, y, hx, hy, hfail⟩ := h.exists_instants
  rw [subtract_of_instants h.1 hdistance hx hy]
  exact hfail _

/-- A moment that is moved by its distance from another has the instant of that other, in its own
zone. -/
theorem add_difference {x y : DateTime}
    (hdifference : (dateTime x).arithmetic .subtract (dateTime y) zone = .ok (dayTimeDuration d))
    (hsum : (dateTime y).arithmetic .add (dayTimeDuration d) zone = .ok w) :
    ∃ z m, w = dateTime z ∧ z.zone = y.zone ∧ z.instant zone = .ok m ∧ x.instant zone = .ok m := by
  obtain ⟨e, he, heq⟩ := exists_of_map_eq_ok (x := x.difference y zone) hdifference
  obtain rfl := AtomicValue.dayTimeDuration.inj heq
  obtain ⟨z, hz, rfl⟩ := exists_of_map_eq_ok (x := y.addSeconds d) hsum
  obtain ⟨hzone, hnanos⟩ := DateTime.addSeconds_eq_ok_iff.mp hz
  rw [Zoned.billionths_of_difference he] at hnanos
  -- The zone of the sum is that of y, so the offset that the difference took into account cancels.
  have hinstants : z.utcNanos zone = x.utcNanos zone := by
    have hy : y.utcNanos zone = y.value.nanos - _ := rfl
    have hz' : z.utcNanos zone = z.value.nanos - _ := rfl
    rw [hz', hzone]
    omega
  obtain ⟨m, _, hm, _⟩ := Zoned.difference_eq_ok_iff.mp he
  refine ⟨z, m, rfl, hzone, ?_, hm⟩
  rw [Zoned.instant_eq_ok_iff_nanos, hinstants]
  exact Zoned.instant_eq_ok_iff_nanos.mp hm

/-- Two moments, two dates or two times have a distance if and only if they compare, which is if
both have an instant. The distance is exact, and its sign is the order of the two. A moment that is
moved by its distance from another equals that other, and it keeps its zone. -/
theorem subtraction_agrees (zone : Timezone) :
    (∀ a b : AtomicValue, a.kind = b.kind → a.kind.hasDistance = true →
        (a.OnTimeline zone ∧ b.OnTimeline zone →
          ∃ d, a.arithmetic .subtract b zone = .ok (dayTimeDuration d) ∧ IsDistance a b zone d) ∧
        (¬ (a.OnTimeline zone ∧ b.OnTimeline zone) →
          a.arithmetic .subtract b zone = .error .dateTimeOutOfRange ∧
            ∀ op, a.compare op b zone = .error .dateTimeOutOfRange)) ∧
      ∀ (x y : DateTime) (d : DayTimeDuration) (w : AtomicValue),
        (dateTime x).arithmetic .subtract (dateTime y) zone = .ok (dayTimeDuration d) →
          (dateTime y).arithmetic .add (dayTimeDuration d) zone = .ok w →
            w.kind = .dateTime ∧ w.zone? = y.zone ∧ w.compare .eq (dateTime x) zone = .ok true := by
  constructor
  · intro a b hkind hdistance
    refine ⟨exists_isDistance hkind hdistance, fun hleave => ?_⟩
    rw [← leaveCalendar_iff hkind] at hleave
    exact ⟨subtract_of_leaveCalendar hdistance hleave,
      fun op => congrFun (compare_of_leaveCalendar hleave) op⟩
  · intro x y d w hdifference hsum
    obtain ⟨z, m, rfl, hzone, hz, hx⟩ := add_difference hdifference hsum
    refine ⟨rfl, hzone, ?_⟩
    have hcompare := compare_of_instants (a := dateTime z) (b := dateTime x) rfl rfl
      (congrArg some hz) (congrArg some hx) .eq
    rwa [Moment.compare_eq_eq_iff.mpr rfl] at hcompare

/-- A moment east of UTC and one without a zone that is placed west of it: the first has the later
clock and the earlier instant, by one nanosecond less than four hours. The first day of the calendar
starts too early east of UTC to have a distance from anything. -/
theorem subtraction_agrees_acrossZones :
    let x : DateTime := ⟨⟨⟨2000, 1, 1, by decide⟩, ⟨1, by decide⟩⟩, some ⟨50400, by decide⟩⟩
    let y : DateTime := ⟨.startOfDay ⟨1999, 12, 31, by decide⟩, none⟩
    let zone : Timezone := ⟨-50400, by decide⟩
    let d : DayTimeDuration := ⟨⟨true, 14399999999999, 9, by decide, by decide⟩⟩
    let z : DateTime := ⟨⟨⟨1999, 12, 30, by decide⟩, ⟨72000000000001, by decide⟩⟩, none⟩
    let first : AtomicValue := date ⟨.first, some ⟨50400, by decide⟩⟩
    ((dateTime x).OnTimeline zone ∧ (dateTime y).OnTimeline zone) ∧
      (dateTime x).arithmetic .subtract (dateTime y) zone = .ok (dayTimeDuration d) ∧
      IsDistance (dateTime x) (dateTime y) zone d ∧
      (dateTime y).arithmetic .add (dayTimeDuration d) zone = .ok (dateTime z) ∧
      (dateTime z).compare .eq (dateTime x) zone = .ok true ∧
      ¬ (first.OnTimeline zone ∧ first.OnTimeline zone) ∧
      first.arithmetic .subtract first zone = .error .dateTimeOutOfRange := by
  intro x y zone d z first
  have htimeline : (dateTime x).OnTimeline zone ∧ (dateTime y).OnTimeline zone := by
    decide +kernel
  have hdifference : (dateTime x).arithmetic .subtract (dateTime y) zone =
      .ok (dayTimeDuration d) := by decide +kernel
  have hsum : (dateTime y).arithmetic .add (dayTimeDuration d) zone = .ok (dateTime z) := by
    decide +kernel
  obtain ⟨hdistance, hreturn⟩ := subtraction_agrees zone
  obtain ⟨e, he, hisDistance⟩ :=
    (hdistance (dateTime x) (dateTime y) (Eq.refl AtomicKind.dateTime) rfl).1 htimeline
  obtain rfl := AtomicValue.dayTimeDuration.inj (Except.ok.inj (hdifference.symm.trans he))
  have hleave : ¬ (first.OnTimeline zone ∧ first.OnTimeline zone) := by decide +kernel
  exact ⟨htimeline, hdifference, hisDistance, hsum, (hreturn x y _ _ hdifference hsum).2.2, hleave,
    ((hdistance first first rfl rfl).2 hleave).1⟩

end AtomicValue

end XPathValues
