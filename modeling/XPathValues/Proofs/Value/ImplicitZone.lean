import Mathlib.Tactic
import XPathValues.Proofs.Calendar.RoundTrip
import XPathValues.Proofs.Value.Difference

/-!
# The implicit timezone

Calendar values of one type are compared and subtracted by their instants, and all that counts of
two instants is the time between them. The implicit timezone moves the instants of values without a
zone by its offset: two such values move together, so the time between them stays, and two values
with zones of their own do not move at all. It matters where only one of two values has no zone,
and there it acts as the zone of that value. Values within a leap second are left out.
-/

namespace XPathValues

namespace Moment

variable {a b c d : Moment}

theorem compare_eq_of_sub_eq (h : a.nanos - b.nanos = c.nanos - d.nanos) :
    a.compare b = c.compare d := by
  have hlt : a.nanos < b.nanos ↔ c.nanos < d.nanos := by omega
  have heq : a.nanos = b.nanos ↔ c.nanos = d.nanos := by omega
  simp only [compare, hlt, heq]

theorem secondsSince_eq_of_sub_eq (h : a.nanos - b.nanos = c.nanos - d.nanos) :
    a.secondsSince b = c.secondsSince d := by
  simp only [secondsSince, since, h]

end Moment

namespace Zoned

variable {α : Type} [CalendarPart α] {x : Zoned α} {s t : Timezone} {m n : Moment}

/-- A zone of its own places a value as an implicit one would. -/
theorem instant_withZone (h : x.zone = none) (s t : Timezone) :
    (x.withZone (some t)).instant s = x.instant t := by
  have hzone : x.zone.getD t = t := by rw [h]; rfl
  unfold instant
  rw [hzone]
  rfl

theorem nanos_add_of_unzoned (h : x.zone = none) (hm : x.instant s = .ok m) :
    m.nanos + s.seconds * TimeOfDay.second = x.anchor.nanos := by
  rw [instant_eq_ok_iff_nanos.mp hm, utcNanos, h]
  exact sub_add_cancel _ _

end Zoned

namespace AtomicValue

variable {α : Type} {a b a' b' v : AtomicValue} {s t : Timezone} {kind : AtomicKind}
  {outcome : AtomicValue → AtomicValue → Timezone → Except Error α}

/-! ## Zones and instants -/

def withZone (zone : Option Timezone) : AtomicValue → AtomicValue
  | dateTime x => dateTime (x.withZone zone)
  | date x => date (x.withZone zone)
  | time x => time (x.withZone zone)
  | gYearMonth x => gYearMonth (x.withZone zone)
  | gYear x => gYear (x.withZone zone)
  | gMonthDay x => gMonthDay (x.withZone zone)
  | gDay x => gDay (x.withZone zone)
  | gMonth x => gMonth (x.withZone zone)
  | v => v

@[simp] theorem kind_withZone (zone : Option Timezone) (v : AtomicValue) :
    (v.withZone zone).kind = v.kind := by
  cases v <;> rfl

theorem instant?_of_zoned (h : v.zone?.isSome = true) (s t : Timezone) :
    v.instant? s = v.instant? t := by
  obtain ⟨zone, hzone⟩ := Option.isSome_iff_exists.mp h
  cases v
  case dateTime | date | time | gYearMonth | gYear | gMonthDay | gDay | gMonth =>
    exact congrArg some (Zoned.instant_of_zone hzone s t)
  all_goals cases hzone

theorem instant?_withZone (h : v.zone? = none) (s t : Timezone) :
    (v.withZone (some t)).instant? s = v.instant? t := by
  cases v
  case dateTime | date | time | gYearMonth | gYear | gMonthDay | gDay | gMonth =>
    exact congrArg some (Zoned.instant_withZone h s t)
  all_goals rfl

/-- Under two implicit zones the instants of a value without a zone differ by the two offsets. -/
theorem exists_nanos_of_unzoned (h : v.zone? = none) (hcalendar : v.kind.isCalendar = true) :
    ∃ n : ℤ, ∀ s m, v.instant? s = some (.ok m) → m.nanos + s.seconds * TimeOfDay.second = n := by
  cases v
  case dateTime | date | time | gYearMonth | gYear | gMonthDay | gDay | gMonth =>
    exact ⟨_, fun s m hm => Zoned.nanos_add_of_unzoned h (Option.some.inj hm)⟩
  all_goals cases hcalendar

/-! ## Outcomes that come from two instants -/

/-- Two values of the type are combined by way of their instants, of which only the time between
them counts. -/
def CombinesInstants (kind : AtomicKind)
    (outcome : AtomicValue → AtomicValue → Timezone → Except Error α) : Prop :=
  ∃ f : Moment → Moment → Except Error α,
    (∀ m n m' n', m.nanos - n.nanos = m'.nanos - n'.nanos → f m n = f m' n') ∧
      ∀ a b zone x y, a.kind = kind → b.kind = kind → a.instant? zone = some x →
        b.instant? zone = some y →
          outcome a b zone = do
            let m ← x
            let n ← y
            f m n

theorem combinesInstants_compare (kind : AtomicKind) (op : ComparisonOperator) :
    CombinesInstants kind fun a b zone => a.compare op b zone := by
  refine ⟨fun m n => ComparisonOperator.answerTo (some (.ofInstants kind.isOrdered m n))
    (.incomparable · kind kind) op, ?_, ?_⟩
  · intro m n m' n' h
    simp only [Relation.ofInstants, Moment.compare_eq_of_sub_eq h]
  · rintro a b zone x y rfl hkind hx hy
    have hrelate := relate_of_instants hkind.symm hx hy
    cases x with
    | error e => simp only [compare, hrelate]; rfl
    | ok m =>
      cases y with
      | error e => simp only [compare, hrelate]; rfl
      | ok n =>
        have hcompare := congrFun (compare_of_relate hrelate) op
        rw [hkind] at hcompare
        exact hcompare

theorem combinesInstants_subtract (hdistance : kind.hasDistance = true) :
    CombinesInstants kind fun a b zone => a.arithmetic .subtract b zone := by
  refine ⟨fun m n => .ok (dayTimeDuration ⟨m.secondsSince n⟩), ?_, ?_⟩
  · intro m n m' n' h
    simp only [Moment.secondsSince_eq_of_sub_eq h]
  · rintro a b zone x y rfl hkind hx hy
    exact subtract_of_instants hkind.symm hdistance hx hy

namespace CombinesInstants

theorem eq_of_instants (h : CombinesInstants kind outcome) (hcalendar : kind.isCalendar = true)
    (ha : a.kind = kind) (hb : b.kind = kind) (ha' : a'.kind = kind) (hb' : b'.kind = kind)
    (hleft : a.instant? s = a'.instant? t) (hright : b.instant? s = b'.instant? t) :
    outcome a b s = outcome a' b' t := by
  obtain ⟨f, _, houtcome⟩ := h
  obtain ⟨x, hx⟩ := Option.isSome_iff_exists.mp ((isSome_instant? a s).trans (ha ▸ hcalendar))
  obtain ⟨y, hy⟩ := Option.isSome_iff_exists.mp ((isSome_instant? b s).trans (hb ▸ hcalendar))
  rw [houtcome a b s x y ha hb hx hy,
    houtcome a' b' t x y ha' hb' (hleft.symm.trans hx) (hright.symm.trans hy)]

theorem exists_instants (h : CombinesInstants kind outcome) (hcalendar : kind.isCalendar = true)
    (ha : a.kind = kind) (hb : b.kind = kind)
    (hs : outcome a b s ≠ .error .dateTimeOutOfRange) :
    ∃ m n, a.instant? s = some (.ok m) ∧ b.instant? s = some (.ok n) := by
  obtain ⟨f, _, houtcome⟩ := h
  obtain ⟨x, hx⟩ := Option.isSome_iff_exists.mp ((isSome_instant? a s).trans (ha ▸ hcalendar))
  obtain ⟨y, hy⟩ := Option.isSome_iff_exists.mp ((isSome_instant? b s).trans (hb ▸ hcalendar))
  rw [houtcome a b s x y ha hb hx hy] at hs
  cases x with
  | error e => exact absurd (congrArg Except.error (instant?_eq_error hx)) hs
  | ok m =>
    cases y with
    | error e => exact absurd (congrArg Except.error (instant?_eq_error hy)) hs
    | ok n => exact ⟨m, n, hx, hy⟩

/-- The offsets of two values without a zone cancel. -/
theorem eq_of_unzoned (h : CombinesInstants kind outcome) (hcalendar : kind.isCalendar = true)
    (ha : a.kind = kind) (hb : b.kind = kind) (hleft : a.zone? = none) (hright : b.zone? = none)
    (hs : outcome a b s ≠ .error .dateTimeOutOfRange)
    (ht : outcome a b t ≠ .error .dateTimeOutOfRange) : outcome a b s = outcome a b t := by
  obtain ⟨m, n, hm, hn⟩ := h.exists_instants hcalendar ha hb hs
  obtain ⟨m', n', hm', hn'⟩ := h.exists_instants hcalendar ha hb ht
  obtain ⟨p, hp⟩ := exists_nanos_of_unzoned hleft (ha ▸ hcalendar)
  obtain ⟨q, hq⟩ := exists_nanos_of_unzoned hright (hb ▸ hcalendar)
  have hdistance : m.nanos - n.nanos = m'.nanos - n'.nanos := by
    have hms := hp s m hm
    have hns := hq s n hn
    have hmt := hp t m' hm'
    have hnt := hq t n' hn'
    omega
  obtain ⟨f, hf, houtcome⟩ := h
  rw [houtcome a b s _ _ ha hb hm hn, houtcome a b t _ _ ha hb hm' hn']
  exact hf m n m' n' hdistance

end CombinesInstants

/-- What comes of two values depends on the implicit zone if one of them has a zone and the other
has none, which it then takes for its own, and otherwise not, but for the ends of the calendar. -/
structure ZoneCountsIfMixed (a b : AtomicValue)
    (outcome : AtomicValue → AtomicValue → Timezone → Except Error α) : Prop where
  zoned : a.zone?.isSome = true → b.zone?.isSome = true → ∀ s t, outcome a b s = outcome a b t
  unzoned : a.zone? = none → b.zone? = none → ∀ s t,
    outcome a b s ≠ .error .dateTimeOutOfRange → outcome a b t ≠ .error .dateTimeOutOfRange →
      outcome a b s = outcome a b t
  left : a.zone? = none → b.zone?.isSome = true → ∀ s t,
    outcome a b t = outcome (a.withZone (some t)) b s
  right : a.zone?.isSome = true → b.zone? = none → ∀ s t,
    outcome a b t = outcome a (b.withZone (some t)) s

theorem zoneCountsIfMixed (h : CombinesInstants a.kind outcome) (hkind : a.kind = b.kind)
    (hcalendar : a.kind.isCalendar = true) : ZoneCountsIfMixed a b outcome where
  zoned ha hb s t := h.eq_of_instants hcalendar rfl hkind.symm rfl hkind.symm
    (instant?_of_zoned ha s t) (instant?_of_zoned hb s t)
  unzoned ha hb _ _ hs ht := h.eq_of_unzoned hcalendar rfl hkind.symm ha hb hs ht
  left ha hb s t := h.eq_of_instants hcalendar rfl hkind.symm (kind_withZone ..) hkind.symm
    (instant?_withZone ha s t).symm (instant?_of_zoned hb t s)
  right ha hb s t := h.eq_of_instants hcalendar rfl hkind.symm rfl
    ((kind_withZone ..).trans hkind.symm) (instant?_of_zoned ha t s)
    (instant?_withZone hb s t).symm

/-- The implicit timezone matters to the comparison and the distance of two calendar values of one
type only where one of them has a zone and the other has none. -/
theorem implicit_zone_counts_if_mixed (hkind : a.kind = b.kind)
    (hcalendar : a.kind.isCalendar = true) :
    (∀ op, ZoneCountsIfMixed a b fun a b zone => a.compare op b zone) ∧
      (a.kind.hasDistance = true →
        ZoneCountsIfMixed a b fun a b zone => a.arithmetic .subtract b zone) :=
  ⟨fun op => zoneCountsIfMixed (combinesInstants_compare _ op) hkind hcalendar,
    fun hdistance => zoneCountsIfMixed (combinesInstants_subtract hdistance) hkind hcalendar⟩

/-- A nanosecond after midnight is that much after midnight in the far east and in the far west, but
whether it is after midnight in UTC differs. -/
theorem implicit_zone_counts_if_mixed_midnight :
    let east : Timezone := ⟨50400, by decide⟩
    let west : Timezone := ⟨-50400, by decide⟩
    let after : AtomicValue := time ⟨⟨1, by decide⟩, none⟩
    let midnight : AtomicValue := time ⟨.midnight, none⟩
    let inUtc : AtomicValue := time ⟨.midnight, some .utc⟩
    let nanosecond : Decimal := ⟨false, 1, 9, by decide, by decide⟩
    (after.kind = midnight.kind ∧ after.kind = inUtc.kind ∧ after.kind.isCalendar = true ∧
        after.kind.hasDistance = true) ∧
      after.arithmetic .subtract midnight east = .ok (dayTimeDuration ⟨nanosecond⟩) ∧
      after.arithmetic .subtract midnight west = .ok (dayTimeDuration ⟨nanosecond⟩) ∧
      after.compare .gt inUtc west = .ok true ∧
      (after.withZone (some west)).compare .gt inUtc east = .ok true ∧
      after.compare .gt inUtc east = .ok false ∧
      (after.withZone (some east)).compare .gt inUtc west = .ok false := by
  intro east west after midnight inUtc nanosecond
  obtain ⟨_, hdistance⟩ := implicit_zone_counts_if_mixed (a := after) (b := midnight) rfl rfl
  obtain ⟨hcompare, _⟩ := implicit_zone_counts_if_mixed (a := after) (b := inUtc) rfl rfl
  have heast : after.arithmetic .subtract midnight east = .ok (dayTimeDuration ⟨nanosecond⟩) := by
    decide +kernel
  have hwest : after.arithmetic .subtract midnight west ≠ .error .dateTimeOutOfRange := by
    decide +kernel
  have hsame := (hdistance rfl).unzoned rfl rfl east west (by rw [heast]; nofun) hwest
  have hlater : after.compare .gt inUtc west = .ok true := by decide +kernel
  have hearlier : after.compare .gt inUtc east = .ok false := by decide +kernel
  exact ⟨⟨rfl, rfl, rfl, rfl⟩, heast, hsame.symm.trans heast, hlater,
    ((hcompare .gt).left rfl rfl east west).symm.trans hlater, hearlier,
    ((hcompare .gt).left rfl rfl west east).symm.trans hearlier⟩

end AtomicValue

end XPathValues
