import Mathlib.Tactic
import XPathValues.Proofs.Number.DecimalQuotient
import XPathValues.Proofs.Outcome

/-!
# Sums and differences of durations

Months are added as integers and seconds as decimals, and what cannot be stored is out of range. A
difference is the sum with the negated duration. The least count of months has no negation, so
nothing can be taken off by it, although it fits to take it off any negative count.
-/

namespace XPathValues

namespace YearMonthDuration

variable {d : YearMonthDuration}

theorem exists_neg (h : d.months ≠ -9223372036854775808) :
    ∃ e, d.neg = .ok e ∧ e.months = -d.months := by
  have hrange : InRange (-d.months) := by
    have hd := d.inRange
    unfold InRange at *
    omega
  have hneg : d.neg? = some ⟨-d.months, hrange⟩ := ofMonths?_eq_some_iff.mpr rfl
  exact ⟨⟨-d.months, hrange⟩, congrArg (orError .durationOutOfRange) hneg, rfl⟩

theorem neg_eq_error (h : d.months = -9223372036854775808) : d.neg = .error .durationOutOfRange := by
  have hnone : d.neg? = none := by
    apply ofMonths?_eq_none_iff.mpr
    rw [h]
    decide
  exact congrArg (orError .durationOutOfRange) hnone

end YearMonthDuration

namespace AtomicValue

open Decimal (maxMagnitude)

variable {q : ℚ} {n : ℤ}

/-- The outcome is this count of months if it fits into 64 bits, and is out of range otherwise. -/
inductive GivesMonths (n : ℤ) : Except Error AtomicValue → Prop
  | stored {d : YearMonthDuration} (h : d.months = n) : GivesMonths n (.ok (yearMonthDuration d))
  | outOfRange (h : ¬ YearMonthDuration.InRange n) : GivesMonths n (.error .durationOutOfRange)

/-- The outcome is this count of seconds if a decimal has it, and at most half a second off in any
case. It is out of range only if the count is nearer to the next integer than to the largest decimal
or just as near. -/
inductive GivesSeconds (q : ℚ) : Except Error AtomicValue → Prop
  | stored {d : DayTimeDuration} (hrange : |q| < maxMagnitude + 1 / 2)
      (hnear : |d.seconds.toRat - q| ≤ 1 / 2)
      (hexact : ∀ e : Decimal, e.toRat = q → d.seconds.toRat = q) :
      GivesSeconds q (.ok (dayTimeDuration d))
  | outOfRange (h : (maxMagnitude : ℚ) + 1 / 2 ≤ |q|) :
      GivesSeconds q (.error .durationOutOfRange)

theorem givesMonths_ofMonths? (n : ℤ) :
    GivesMonths n
      ((orError .durationOutOfRange (YearMonthDuration.ofMonths? n)).map yearMonthDuration) := by
  cases h : YearMonthDuration.ofMonths? n with
  | some d => exact .stored (YearMonthDuration.ofMonths?_eq_some_iff.mp h)
  | none => exact .outOfRange (YearMonthDuration.ofMonths?_eq_none_iff.mp h)

/-- One outcome is right for two counts if they are the same or neither fits. -/
theorem GivesMonths.givesMonths_iff {m n : ℤ} {outcome : Except Error AtomicValue}
    (h : GivesMonths m outcome) :
    GivesMonths n outcome ↔
      m = n ∨ ¬ YearMonthDuration.InRange m ∧ ¬ YearMonthDuration.InRange n := by
  cases h with
  | @stored d hm =>
    have hfits : YearMonthDuration.InRange m := hm ▸ d.inRange
    constructor
    · intro hn
      cases hn with
      | stored hn => exact Or.inl (hm.symm.trans hn)
    · rintro (rfl | ⟨hbeyond, _⟩)
      · exact .stored hm
      · exact absurd hfits hbeyond
  | outOfRange hm =>
    constructor
    · intro hn
      cases hn with
      | outOfRange hn => exact Or.inr ⟨hm, hn⟩
    · rintro (rfl | ⟨_, hn⟩)
      · exact .outOfRange hm
      · exact .outOfRange hn

theorem givesSeconds_ofRat? (q : ℚ) :
    GivesSeconds q
      ((orError .durationOutOfRange ((Decimal.ofRat? q).map .mk)).map dayTimeDuration) := by
  cases h : Decimal.ofRat? q with
  | some d =>
    refine .stored (Decimal.exists_ofRat?_iff.mp ⟨d, h⟩) (Decimal.abs_toRat_sub_le h) fun e he => ?_
    obtain rfl := Option.some.inj (h.symm.trans (Decimal.ofRat?_eq_some_of_value he.symm))
    rw [Decimal.toRat_normalize, he]
  | none =>
    apply GivesSeconds.outOfRange
    rw [← not_lt, ← Decimal.exists_ofRat?_iff, h]
    simp

theorem add_dayTimeDurations (x y : DayTimeDuration) (zone : Timezone) :
    GivesSeconds (x.seconds.toRat + y.seconds.toRat)
      ((dayTimeDuration x).arithmetic .add (dayTimeDuration y) zone) :=
  givesSeconds_ofRat? _

theorem subtract_dayTimeDurations (x y : DayTimeDuration) (zone : Timezone) :
    GivesSeconds (x.seconds.toRat - y.seconds.toRat)
      ((dayTimeDuration x).arithmetic .subtract (dayTimeDuration y) zone) := by
  have hsum := add_dayTimeDurations x y.neg zone
  rwa [DayTimeDuration.neg, Decimal.toRat_neg, ← sub_eq_add_neg] at hsum

theorem add_yearMonthDurations (x y : YearMonthDuration) (zone : Timezone) :
    GivesMonths (x.months + y.months)
      ((yearMonthDuration x).arithmetic .add (yearMonthDuration y) zone) :=
  givesMonths_ofMonths? _

theorem subtract_yearMonthDurations_eq (x y : YearMonthDuration) (zone : Timezone) :
    (yearMonthDuration x).arithmetic .subtract (yearMonthDuration y) zone =
      y.neg >>= fun z => (yearMonthDuration x).arithmetic .add (yearMonthDuration z) zone :=
  rfl

theorem subtract_yearMonthDurations {y : YearMonthDuration} (h : y.months ≠ -9223372036854775808)
    (x : YearMonthDuration) (zone : Timezone) :
    GivesMonths (x.months - y.months)
      ((yearMonthDuration x).arithmetic .subtract (yearMonthDuration y) zone) := by
  obtain ⟨z, hz, hmonths⟩ := YearMonthDuration.exists_neg h
  have hsum := add_yearMonthDurations x z zone
  rw [hmonths, ← sub_eq_add_neg] at hsum
  rw [subtract_yearMonthDurations_eq, hz]
  exact hsum

/-- The negation fails before it is known whether the difference fits. -/
theorem subtract_leastMonths {y : YearMonthDuration} (h : y.months = -9223372036854775808)
    (x : YearMonthDuration) (zone : Timezone) :
    (yearMonthDuration x).arithmetic .subtract (yearMonthDuration y) zone =
        .error .durationOutOfRange ∧
      (YearMonthDuration.InRange (x.months - y.months) ↔ x.months < 0) := by
  constructor
  · rw [subtract_yearMonthDurations_eq, YearMonthDuration.neg_eq_error h]
    rfl
  · have hx := x.inRange
    unfold YearMonthDuration.InRange at *
    omega

/-- Sums and differences of durations are exact: months fail only where 64 bits are too few for
them, and seconds only beyond the decimals. The one exception is to take off the least count of
months, which always fails and would fit for the negative counts. -/
theorem duration_sums (zone : Timezone) :
    (∀ x y : YearMonthDuration,
        GivesMonths (x.months + y.months)
            ((yearMonthDuration x).arithmetic .add (yearMonthDuration y) zone) ∧
          if y.months = -9223372036854775808 then
            (yearMonthDuration x).arithmetic .subtract (yearMonthDuration y) zone =
                .error .durationOutOfRange ∧
              (YearMonthDuration.InRange (x.months - y.months) ↔ x.months < 0)
          else GivesMonths (x.months - y.months)
            ((yearMonthDuration x).arithmetic .subtract (yearMonthDuration y) zone)) ∧
      ∀ x y : DayTimeDuration,
        GivesSeconds (x.seconds.toRat + y.seconds.toRat)
            ((dayTimeDuration x).arithmetic .add (dayTimeDuration y) zone) ∧
          GivesSeconds (x.seconds.toRat - y.seconds.toRat)
            ((dayTimeDuration x).arithmetic .subtract (dayTimeDuration y) zone) ∧
          (dayTimeDuration x).arithmetic .subtract (dayTimeDuration y) zone =
            (dayTimeDuration y).negate >>= fun z => (dayTimeDuration x).arithmetic .add z zone := by
  refine ⟨fun x y => ⟨add_yearMonthDurations x y zone, ?_⟩, fun x y =>
    ⟨add_dayTimeDurations x y zone, subtract_dayTimeDurations x y zone, rfl⟩⟩
  split
  · next hleast => exact subtract_leastMonths hleast x zone
  · next hother => exact subtract_yearMonthDurations hother x zone

/-- Minus one month less the least count would be the largest count, and is refused. The least count
of seconds has no room for half a second less, and four tenths less are rounded off. -/
theorem duration_sums_least :
    let least : YearMonthDuration := ⟨-9223372036854775808, by decide⟩
    let month : YearMonthDuration := ⟨-1, by decide⟩
    let seconds : DayTimeDuration := ⟨⟨true, maxMagnitude, 0, le_rfl, by decide⟩⟩
    let half : DayTimeDuration := ⟨⟨false, 5, 1, by decide, by decide⟩⟩
    let less : DayTimeDuration := ⟨⟨false, 4, 1, by decide, by decide⟩⟩
    ((yearMonthDuration month).arithmetic .subtract (yearMonthDuration least) .utc =
          .error .durationOutOfRange ∧
        YearMonthDuration.InRange (month.months - least.months)) ∧
      GivesMonths (month.months + least.months)
        ((yearMonthDuration month).arithmetic .add (yearMonthDuration least) .utc) ∧
      (dayTimeDuration seconds).arithmetic .subtract (dayTimeDuration half) .utc =
        .error .durationOutOfRange ∧
      (dayTimeDuration seconds).arithmetic .subtract (dayTimeDuration less) .utc =
        .ok (dayTimeDuration seconds) := by
  intro least month seconds half less
  obtain ⟨hmonths, hseconds⟩ := duration_sums .utc
  obtain ⟨hsum, hrefused⟩ := hmonths month least
  rw [if_pos rfl] at hrefused
  exact ⟨⟨hrefused.1, hrefused.2.mpr (by decide)⟩, hsum, by decide +kernel, by decide +kernel⟩

end AtomicValue

end XPathValues
