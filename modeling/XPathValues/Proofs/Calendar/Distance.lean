import Mathlib.Tactic
import XPathValues.Calendar.Seconds
import XPathValues.Proofs.Calendar.TimeSpan
import XPathValues.Proofs.Calendar.Timeline

/-!
# Distances in decimal seconds

A distance between two moments is a whole number of nanoseconds, and the decimal that counts its
seconds has exactly that value. The longest span reaches across the whole calendar.
-/

namespace XPathValues

/-- There is always a decimal for the clock, and it counts the time since the last whole minute. -/
theorem TimeOfDay.toRat_secondsWithFraction (time : TimeOfDay) :
    time.secondsWithFraction.toRat * 1000000000 = (time.nanos % 60000000000 : ℕ) := by
  have hseconds := time.seconds_lt
  have hfraction := time.fraction_lt
  have hfits : 60000000000 ≤ Decimal.maxMagnitude := by decide
  obtain ⟨d, hd, hvalue⟩ := Decimal.exists_ofSeconds? (m := time.seconds) (n := time.fraction)
    (by omega) (by omega) (by omega)
  have hclock : (time.seconds * 1000000000 + time.fraction : ℤ) =
      (time.nanos % 60000000000 : ℕ) := by
    unfold seconds fraction
    omega
  rw [secondsWithFraction, hd, Option.getD_some, hvalue, hclock, Int.cast_natCast]

namespace Moment

theorem natAbs_le_maxNanos {m start : Moment} {n : ℤ} (h : m.nanos = start.nanos + n) :
    n.natAbs ≤ TimeSpan.maxNanos := by
  have hlength := m.length_since start
  have hspan := (m.since start).natAbs_length_le
  omega

theorem toRat_secondsSince (m start : Moment) :
    (m.secondsSince start).toRat * 1000000000 = (m.nanos - start.nanos : ℤ) := by
  obtain ⟨d, hd, hvalue⟩ := (m.since start).exists_toDecimal?
  rw [secondsSince, hd, Option.getD_some, hvalue, m.length_since start]

theorem billionths_secondsSince (m start : Moment) :
    (m.secondsSince start).billionths = m.nanos - start.nanos :=
  Decimal.billionths_of_value (m.toRat_secondsSince start)

theorem compare_secondsSince (m start : Moment) :
    (m.secondsSince start).compare .zero = m.compare start := by
  have hdistance := m.toRat_secondsSince start
  rw [Decimal.compare, Decimal.toRat_zero, Moment.compare]
  rcases lt_trichotomy m.nanos start.nanos with hlt | heq | hgt
  · have hneg : (m.secondsSince start).toRat < 0 := by
      have hcast : ((m.nanos - start.nanos : ℤ) : ℚ) < 0 := by exact_mod_cast sub_neg_of_lt hlt
      linarith
    rw [if_pos hlt, Rounding.compareExact_eq_lt_iff]
    exact hneg
  · have hzero : (m.secondsSince start).toRat = 0 := by
      rw [heq, sub_self, Int.cast_zero] at hdistance
      linarith
    rw [if_neg heq.not_lt, if_pos heq, Rounding.compareExact_eq_eq_iff]
    exact hzero
  · have hpos : 0 < (m.secondsSince start).toRat := by
      have hcast : (0 : ℚ) < ((m.nanos - start.nanos : ℤ) : ℚ) := by
        exact_mod_cast sub_pos_of_lt hgt
      linarith
    rw [if_neg hgt.not_gt, if_neg hgt.ne', Rounding.compareExact, if_neg hpos.not_gt,
      if_neg hpos.ne']

end Moment

end XPathValues
