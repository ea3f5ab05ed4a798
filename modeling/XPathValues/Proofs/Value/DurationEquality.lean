import Mathlib.Tactic
import XPathValues.Proofs.Value.Casting
import XPathValues.Proofs.Value.Equality

/-!
# Equality of durations of all types

Durations of months, durations of seconds and those of both are comparable with each other, for
equality at least. The comparison takes its own way for each of the two types with an order and a
third one for everything else; all of them come down to the months and the seconds that the two
durations have, and so do the casts between the types.
-/

namespace XPathValues.AtomicValue

variable {a b v : AtomicValue} {d e : Duration} {zone : Timezone} {bindings : Bindings}

/-- The durations of the three types. -/
abbrev OfDurations : Type := { v : AtomicValue // v.kind.isDuration = true }

theorem OfDurations.exists_asDuration? (v : OfDurations) : ∃ d, v.1.asDuration? = some d :=
  Option.isSome_iff_exists.mp ((isSome_asDuration? v.1).trans v.2)

/-! ## Casts -/

/-- The value as one of each type of durations. -/
structure CastsToParts (v : AtomicValue) (d : Duration) (bindings : Bindings) : Prop where
  whole : v.cast .duration bindings = .ok (duration d)
  months : v.cast .yearMonthDuration bindings = .ok (yearMonthDuration d.yearMonth)
  seconds : v.cast .dayTimeDuration bindings = .ok (dayTimeDuration d.dayTime)

theorem castsToParts (h : v.asDuration? = some d) : CastsToParts v d bindings := by
  cases v <;> cases h <;> exact ⟨rfl, rfl, rfl⟩

theorem cast_duration_cast (h : v.asDuration? = some d) :
    (duration d).cast v.kind bindings = .ok v := by
  cases v <;> cases h <;> rfl

/-! ## Comparison -/

theorem relateDurations_of_asDuration? (ha : a.asDuration? = some d) (hb : b.asDuration? = some e) :
    relateDurations a b = some (.equality (d.equalValue e)) := by
  simp only [relateDurations, ha, hb]

/-- Two values of one type with an order are related by it, and all others by equality alone. Both
tell whether the months and the seconds are the same. -/
theorem exists_relation_of_asDuration? (zone : Timezone) (ha : a.asDuration? = some d)
    (hb : b.asDuration? = some e) :
    ∃ relation, relate a b zone = .ok (some relation) ∧
      relation.hasOrder = decide (a.kind = b.kind ∧ a.kind ≠ .duration) ∧
      relation.Decides (d.equalValue e = true) := by
  -- Two of the nine pairs have an order; the others are compared as values of the general type.
  cases a <;> cases ha <;> cases b <;> cases hb
  case yearMonthDuration.refl.yearMonthDuration.refl m n =>
    refine ⟨_, rfl, rfl, compareIntegers_eq_eq_iff.trans ?_⟩
    simp [Duration.equalValue_iff, Duration.ofYearMonth]
  case dayTimeDuration.refl.dayTimeDuration.refl s t =>
    refine ⟨_, rfl, rfl, Rounding.compareExact_eq_eq_iff.trans ?_⟩
    simp [Duration.equalValue_iff, Duration.ofDayTime]
  all_goals exact ⟨_, rfl, rfl, Iff.rfl⟩

theorem compare_eq_of_asDuration? (zone : Timezone) (ha : a.asDuration? = some d)
    (hb : b.asDuration? = some e) : a.compare .eq b zone = .ok (d.equalValue e) := by
  obtain ⟨relation, hrelate, _, hdecides⟩ := exists_relation_of_asDuration? zone ha hb
  have hanswer := congrFun (compare_of_relate hrelate) .eq
  rw [hanswer, ComparisonOperator.answerTo, Option.bind_some, hdecides.answer?_eq,
    Bool.decide_eq_true]
  rfl

/-- Two durations are equal when they are the same as values of the general type, and when both
their months and their seconds are. -/
structure EqualAsCast (a b : AtomicValue) (zone : Timezone) (bindings : Bindings) : Prop where
  whole : ∃ x y, a.cast .duration bindings = .ok x ∧ b.cast .duration bindings = .ok y ∧
    a.compare .eq b zone = .ok (x.sameAs y) ∧ x.compare .eq y zone = .ok (x.sameAs y)
  parts : ∃ m n s t, a.cast .yearMonthDuration bindings = .ok m ∧
    b.cast .yearMonthDuration bindings = .ok n ∧ a.cast .dayTimeDuration bindings = .ok s ∧
    b.cast .dayTimeDuration bindings = .ok t ∧
    ∃ sameMonths sameSeconds, m.compare .eq n zone = .ok sameMonths ∧
      s.compare .eq t zone = .ok sameSeconds ∧
      a.compare .eq b zone = .ok (sameMonths && sameSeconds)

theorem equalAsCast (ha : a.asDuration? = some d) (hb : b.asDuration? = some e) :
    EqualAsCast a b zone bindings where
  whole := ⟨duration d, duration e, (castsToParts ha).whole, (castsToParts hb).whole,
    compare_eq_of_asDuration? zone ha hb, compare_eq_of_asDuration? zone rfl rfl⟩
  parts := by
    refine ⟨_, _, _, _, (castsToParts ha).months, (castsToParts hb).months,
      (castsToParts ha).seconds, (castsToParts hb).seconds, _, _,
      compare_eq_of_asDuration? zone rfl rfl, compare_eq_of_asDuration? zone rfl rfl, ?_⟩
    rw [compare_eq_of_asDuration? zone ha hb, Except.ok.injEq, Bool.eq_iff_iff, Bool.and_eq_true]
    simp [Duration.equalValue_iff, Duration.ofYearMonth, Duration.ofDayTime]

/-- As far as equality goes, the relation of two values is that of durations whatever their types
are, also where they have an order. -/
def RelationsAgree (a b : AtomicValue) (zone : Timezone) : Prop :=
  ∃ relation equal, relate a b zone = .ok (some relation) ∧
    relation.hasOrder = decide (a.kind = b.kind ∧ a.kind ≠ .duration) ∧
    relateDurations a b = some (.equality equal) ∧
    relation.answer? .eq = some equal ∧ relation.answer? .ne = some !equal

theorem relationsAgree (ha : a.asDuration? = some d) (hb : b.asDuration? = some e) :
    RelationsAgree a b zone := by
  obtain ⟨relation, hrelate, horder, hdecides⟩ := exists_relation_of_asDuration? zone ha hb
  have heq : relation.answer? .eq = some (d.equalValue e) := by
    rw [hdecides.answer?_eq, Bool.decide_eq_true]
  have hne : relation.answer? .ne = some !d.equalValue e := by
    rw [relation.answer?_ne, heq, Option.map_some]
  exact ⟨relation, _, hrelate, horder, relateDurations_of_asDuration? ha hb, heq, hne⟩

def counts? (v : AtomicValue) : Option (ℤ × ℚ) :=
  v.asDuration?.map fun d => (d.yearMonth.months, d.dayTime.seconds.toRat)

theorem equivalence_durations (zone : Timezone) :
    Equivalence fun a b : OfDurations => a.1.compare .eq b.1 zone = .ok true := by
  have heq (a b : OfDurations) : a.1.compare .eq b.1 zone = .ok true ↔
      a.1.counts? = b.1.counts? := by
    obtain ⟨d, hd⟩ := a.exists_asDuration?
    obtain ⟨e, he⟩ := b.exists_asDuration?
    rw [compare_eq_of_asDuration? zone hd he, Except.ok.injEq, Duration.equalValue_iff, counts?,
      counts?, hd, he, Option.map_some, Option.map_some, Option.some.injEq, Prod.mk.injEq]
  simp only [heq]
  exact ⟨fun _ => rfl, Eq.symm, Eq.trans⟩

/-- Any two durations are equal exactly when their casts to the general type are, or both their
casts to the types with one count. This is an equivalence, it does not depend on how durations of the
two types are related, and the cast to the general type loses nothing. -/
theorem duration_equality (zone : Timezone) (bindings : Bindings) :
    (∀ a b : OfDurations, EqualAsCast a.1 b.1 zone bindings ∧ RelationsAgree a.1 b.1 zone) ∧
      (Equivalence fun a b : OfDurations => a.1.compare .eq b.1 zone = .ok true) ∧
      ∀ v : OfDurations, ∃ w, v.1.cast .duration bindings = .ok w ∧
        w.cast v.1.kind bindings = .ok v.1 := by
  refine ⟨fun a b => ?_, equivalence_durations zone, fun v => ?_⟩
  · obtain ⟨d, hd⟩ := a.exists_asDuration?
    obtain ⟨e, he⟩ := b.exists_asDuration?
    exact ⟨equalAsCast hd he, relationsAgree hd he⟩
  · obtain ⟨d, hd⟩ := v.exists_asDuration?
    exact ⟨_, (castsToParts hd).whole, cast_duration_cast hd⟩

/-- No months are no seconds, but a month is not thirty days. -/
example : (yearMonthDuration .zero).compare .eq (dayTimeDuration .zero) .utc = .ok true ∧
    (yearMonthDuration ⟨1, by decide⟩).compare .eq (dayTimeDuration ⟨.ofNat 2592000⟩) .utc =
      .ok false := by
  decide +kernel

end XPathValues.AtomicValue
