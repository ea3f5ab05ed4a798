import Mathlib.Tactic
import XPathValues.Proofs.Duration.Recomposition

/-!
# Timezones as durations

The duration of a timezone is its offset, and a timezone is found again from every duration of the
same value. The durations that have one are the whole minutes up to fourteen hours either way: the
remainder by a minute is exact, and so is the quotient where nothing remains.
-/

namespace XPathValues.DayTimeDuration

open Decimal Duration Rounding

variable {d : DayTimeDuration} {zone : Timezone} {seconds unit : Decimal} {n : ℕ} {k : ℤ}

/-! ## Multiples of a unit -/

theorem isZero_beyond_iff (hunit : unit.toRat = n) (hn : 0 < n) (hscale : unit.scale = 0) :
    (beyond seconds unit).isZero = true ↔ ∃ k : ℤ, seconds.toRat = k * n := by
  have hpos : (n : ℚ) ≠ 0 := by exact_mod_cast hn.ne'
  rw [isZero_iff, toRat_beyond hunit hn hscale, sub_eq_zero]
  constructor
  · intro h
    exact ⟨_, h⟩
  · rintro ⟨k, hk⟩
    rw [hk, mul_div_cancel_right₀ _ hpos, towardZero_intCast]

/-- A multiple of the unit is not rounded, since its quotient can be stored. -/
theorem toInt_wholeUnits_of_multiple (hunit : unit.toRat = n) (hn : 0 < n)
    (h : seconds.toRat = k * n) : (wholeUnits seconds unit).toInt = k := by
  have hpos : (0 : ℚ) < n := by exact_mod_cast hn
  have hquotient : seconds.toRat / n = k := by rw [h, mul_div_cancel_right₀ _ hpos.ne']
  have hstored : k.natAbs ≤ maxMagnitude := by
    have hone : (1 : ℚ) ≤ n := by exact_mod_cast hn
    have hle : |(k : ℚ)| ≤ maxMagnitude := by
      rw [← hquotient, abs_div, Nat.abs_cast]
      exact (div_le_self (abs_nonneg _) hone).trans (abs_toRat_le seconds)
    rw [← Int.cast_abs, Int.abs_eq_natAbs] at hle
    exact_mod_cast hle
  have hunits : (k : ℚ) * (10 : ℚ) ^ 0 = k := by simp
  obtain ⟨q, hq, hvalue⟩ := exists_ofRat?_of_units hunits hstored (Nat.zero_le _)
  rw [wholeUnits, div?_of_value hunit hn, hquotient, hq, Option.map_some, Option.getD_some,
    toInt_truncate, toInt_eq_towardZero, hvalue, towardZero_intCast]

theorem toRat_minute : minute.toRat = (60 : ℕ) := by
  decide +kernel

/-! ## Offsets -/

theorem toRat_ofTimezone (zone : Timezone) : (ofTimezone zone).seconds.toRat = zone.seconds := by
  simp only [ofTimezone, toRat, pow_zero, div_one, decide_eq_true_eq, Nat.cast_natAbs,
    Int.cast_abs]
  split
  · next hneg => rw [abs_of_neg (by exact_mod_cast hneg), neg_neg]
  · next hpos => exact abs_of_nonneg (by exact_mod_cast not_lt.mp hpos)

/-- The duration is a whole number of minutes, and at most fourteen hours either way. -/
def IsOffset (d : DayTimeDuration) : Prop :=
  ∃ minutes : ℤ, d.seconds.toRat = minutes * 60 ∧ |minutes| ≤ 840

/-- Minutes that do not fit into 32 bits are beyond fourteen hours. -/
theorem toTimezone?_eq (d : DayTimeDuration) :
    d.toTimezone? = if (beyond d.seconds minute).isZero then
      Timezone.ofMinutes? (wholeUnits d.seconds minute).toInt else none := by
  have hnarrow (count : Decimal) :
      (count.toInt? 32).bind Timezone.ofMinutes? = Timezone.ofMinutes? count.toInt := by
    unfold toInt?
    split
    · rfl
    · next hfits =>
      have hnone : Timezone.ofMinutes? count.toInt = none := by
        refine dif_neg fun hminutes => hfits ?_
        norm_num
        omega
      rw [hnone, Option.bind_none]
  rw [← hnarrow]
  rfl

theorem toTimezone?_eq_some_iff :
    d.toTimezone? = some zone ↔ zone.Lexical ∧ d.seconds.toRat = zone.seconds := by
  have hzero : (beyond d.seconds minute).isZero = true ↔ _ :=
    isZero_beyond_iff toRat_minute (by decide) rfl
  rw [toTimezone?_eq]
  constructor
  · intro h
    split at h
    · next hbeyond =>
      obtain ⟨minutes, hminutes⟩ := hzero.mp hbeyond
      rw [toInt_wholeUnits_of_multiple toRat_minute (by decide) hminutes,
        Timezone.ofMinutes?_eq_some_iff] at h
      refine ⟨h.2, ?_⟩
      rw [hminutes, h.1]
      push_cast
      rfl
    · cases h
  · rintro ⟨hlexical, hseconds⟩
    have hminutes : zone.seconds = zone.seconds / 60 * 60 := by
      have hwhole := hlexical.1
      omega
    have hmultiple : d.seconds.toRat = ((zone.seconds / 60 : ℤ) : ℚ) * (60 : ℕ) := by
      rw [hseconds]
      exact_mod_cast hminutes
    rw [if_pos (hzero.mpr ⟨_, hmultiple⟩),
      toInt_wholeUnits_of_multiple toRat_minute (by decide) hmultiple]
    exact Timezone.ofMinutes?_eq_some_iff.mpr ⟨hminutes, hlexical⟩

theorem exists_toTimezone?_iff : (∃ zone, d.toTimezone? = some zone) ↔ d.IsOffset := by
  simp only [toTimezone?_eq_some_iff]
  constructor
  · rintro ⟨zone, hlexical, hseconds⟩
    unfold Timezone.Lexical at hlexical
    refine ⟨zone.seconds / 60, ?_, by rw [abs_le]; omega⟩
    rw [hseconds]
    exact_mod_cast (by omega : zone.seconds = zone.seconds / 60 * 60)
  · rintro ⟨minutes, hseconds, hminutes⟩
    have hzone : Timezone.ofMinutes? minutes = some ⟨minutes * 60, _⟩ := dif_pos (abs_le.mp hminutes)
    refine ⟨_, Timezone.lexical_of_ofMinutes? hzone, ?_⟩
    rw [hseconds]
    push_cast
    rfl

theorem toTimezone?_ofTimezone (h : zone.Lexical) : (ofTimezone zone).toTimezone? = some zone :=
  toTimezone?_eq_some_iff.mpr ⟨h, toRat_ofTimezone zone⟩

end XPathValues.DayTimeDuration
