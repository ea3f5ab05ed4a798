import Mathlib.Tactic
import XPathValues.Proofs.Duration.Literal
import XPathValues.Proofs.Duration.Written

/-!
# Reading the fields of a duration

The fields of a written duration spell a literal of the counts that were written, unless a quotient
rounds up and leaves a negative rest. So they are read back exactly when that does not happen and no
count outgrows 64 bits.
-/

namespace XPathValues.Duration

open Decimal DayTimeDuration Text

variable {w : Written} {negative : Bool} {seconds sum : Decimal} {months : ℕ}

theorem isSome_countNumber (count : ℕ) : (countNumber count).isSome = decide (count ≠ 0) := by
  unfold countNumber
  split <;> simp_all

theorem countNumber_eq_none {count : ℕ} (h : countNumber count = none) : count = 0 := by
  have hsome := isSome_countNumber count
  rw [h] at hsome
  simpa using hsome

theorem isSome_secondsNumber (d : Decimal) : (secondsNumber d).isSome = !d.isZero := by
  unfold secondsNumber
  split <;> simp_all

/-! ## The literal of a written form -/

/-- The digits of a count in its field; zero has no field. -/
def countRun (count : ℕ) : Option DigitRun :=
  if count = 0 then none
  else some ⟨Nat.toDigits 10 count, Nat.toDigits_ne_nil, allDigits_toDigits count⟩

theorem chars_countRun (count : ℕ) : (countRun count).map DigitRun.chars = countNumber count := by
  unfold countRun countNumber
  split <;> rfl

theorem isSome_countRun (count : ℕ) : (countRun count).isSome = (countNumber count).isSome := by
  rw [← chars_countRun, Option.isSome_map]

theorem count_countRun (count : ℕ) : DurationLiteral.count (countRun count) = count := by
  unfold countRun
  split
  · next hzero => exact hzero.symm
  · exact digitsValue_toDigits count

/-- The digits of a decimal on the two sides of the point. -/
def secondsLiteral (d : Decimal) : SecondsNumber :=
  ⟨d.wholeRun, d.fractionRun?⟩

theorem body_secondsLiteral (d : Decimal) : (secondsLiteral d).body = d.literalBody := by
  unfold SecondsNumber.body secondsLiteral literalBody
  cases d.fractionRun? <;> rfl

theorem exists_seconds (h : 0 ≤ seconds.toRat) :
    ∃ number : Option SecondsNumber, number.map SecondsNumber.chars = secondsNumber seconds ∧
      (number.map SecondsNumber.value).getD 0 = seconds.toRat := by
  unfold secondsNumber
  split
  · next hzero => exact ⟨none, rfl, (isZero_iff.mp hzero).symm⟩
  · refine ⟨some (secondsLiteral seconds.normalize), ?_, ?_⟩
    · rw [Option.map_some, SecondsNumber.chars, body_secondsLiteral, chars_literalBody,
        toChars_of_nonneg h]
    · have hpositive : seconds.normalize.negative = false := negative_normalize_of_nonneg h
      rw [Option.map_some, Option.getD_some, SecondsNumber.value, body_secondsLiteral,
        value_literalBody, ← toRat_normalize seconds, toRat_of_positive hpositive]

namespace Written

/-- The seconds that the fields behind the months add up to. -/
def total (w : Written) : ℚ :=
  ((w.days * 86400 + w.hours * 3600 + w.minutes * 60 : ℕ) : ℚ) + w.seconds.toRat

theorem total_eq_zero_iff (h : 0 ≤ w.seconds.toRat) :
    w.total = 0 ↔ w.days = 0 ∧ w.hours = 0 ∧ w.minutes = 0 ∧ w.seconds.toRat = 0 := by
  have hcount : (0 : ℚ) ≤ ((w.days * 86400 + w.hours * 3600 + w.minutes * 60 : ℕ) : ℚ) :=
    Nat.cast_nonneg _
  rw [total, add_eq_zero_iff_of_nonneg hcount h, Nat.cast_eq_zero]
  constructor
  · rintro ⟨hzero, hseconds⟩
    exact ⟨by omega, by omega, by omega, hseconds⟩
  · rintro ⟨hdays, hhours, hminutes, hseconds⟩
    exact ⟨by omega, hseconds⟩

theorem hasYearMonth_eq (w : Written) :
    ((countNumber (w.months / 12)).isSome || (countNumber (w.months % 12)).isSome) =
      decide (w.months ≠ 0) := by
  rw [isSome_countNumber, isSome_countNumber, Bool.eq_iff_iff]
  simp only [Bool.or_eq_true, decide_eq_true_eq]
  omega

theorem hasDayTime_eq (h : 0 ≤ w.seconds.toRat) :
    ((countNumber w.days).isSome || (countNumber w.hours).isSome ||
      (countNumber w.minutes).isSome || (secondsNumber w.seconds).isSome) =
      decide (w.total ≠ 0) := by
  rw [isSome_countNumber, isSome_countNumber, isSome_countNumber, isSome_secondsNumber,
    Bool.eq_iff_iff]
  simp only [Bool.or_eq_true, decide_eq_true_eq, Bool.not_eq_true', isZero_eq_false_iff, ne_eq,
    total_eq_zero_iff h]
  tauto

/-- The literal has the numbers of the written form. -/
structure IsSpelledBy (w : Written) (l : DurationLiteral) : Prop where
  fields : l.fields = w.body
  months : l.monthCount = w.months
  days : DurationLiteral.count l.days = w.days
  hours : DurationLiteral.count l.hours = w.hours
  minutes : DurationLiteral.count l.minutes = w.minutes
  seconds : l.secondCount = w.total
  hasYearMonth : l.hasYearMonth = decide (w.months ≠ 0)
  hasDayTime : l.hasDayTime = decide (w.total ≠ 0)

/-- A written form without a negative rest is a literal. -/
theorem exists_literal (hne : w.body ≠ []) (hseconds : 0 ≤ w.seconds.toRat) (negative : Bool) :
    ∃ l : DurationLiteral, l.negative = negative ∧ w.IsSpelledBy l := by
  obtain ⟨seconds, hchars, hvalue⟩ := exists_seconds hseconds
  have hsome : seconds.isSome = (secondsNumber w.seconds).isSome := by
    rw [← hchars, Option.isSome_map]
  have hfields : (joinAtTime
      (optionalField ((countRun (w.months / 12)).map DigitRun.chars) 'Y' ++
        optionalField ((countRun (w.months % 12)).map DigitRun.chars) 'M' ++
          optionalField ((countRun w.days).map DigitRun.chars) 'D')
      (optionalField ((countRun w.hours).map DigitRun.chars) 'H' ++
        optionalField ((countRun w.minutes).map DigitRun.chars) 'M' ++
          optionalField (seconds.map SecondsNumber.chars) 'S')) = w.body := by
    rw [hchars]
    simp only [chars_countRun]
    rfl
  have hfield : ((countRun (w.months / 12)).isSome || (countRun (w.months % 12)).isSome ||
      (countRun w.days).isSome || (countRun w.hours).isSome || (countRun w.minutes).isSome ||
      seconds.isSome) = true := by
    by_contra hmissing
    simp only [Bool.or_eq_true, not_or, Bool.not_eq_true, Option.isSome_eq_false_iff,
      Option.isNone_iff_eq_none] at hmissing
    obtain ⟨⟨⟨⟨⟨hyears, hmonths⟩, hdays⟩, hhours⟩, hminutes⟩, rfl⟩ := hmissing
    rw [hyears, hmonths, hdays, hhours, hminutes] at hfields
    exact hne hfields.symm
  refine ⟨⟨negative, _, _, _, _, _, seconds, hfield⟩, rfl, ?_⟩
  constructor
  · exact hfields
  · rw [DurationLiteral.monthCount, count_countRun, count_countRun]
    omega
  · exact count_countRun _
  · exact count_countRun _
  · exact count_countRun _
  · rw [DurationLiteral.secondCount, DurationLiteral.wholeSeconds, hvalue, count_countRun,
      count_countRun, count_countRun, total, Nat.mul_comm 86400, Nat.mul_comm 3600, Nat.mul_comm 60]
  · rw [DurationLiteral.hasYearMonth, isSome_countRun, isSome_countRun, hasYearMonth_eq]
  · rw [DurationLiteral.hasDayTime, isSome_countRun, isSome_countRun, isSome_countRun, hsome,
      hasDayTime_eq hseconds]

theorem IsSpelledBy.fitsCounts_iff {l : DurationLiteral} (h : w.IsSpelledBy l)
    (hhours : w.hours ≤ 25) (hminutes : w.minutes ≤ 61) :
    l.FitsCounts ↔ w.months ≤ maxCount ∧ w.days * 86400 ≤ maxCount := by
  rw [Nat.mul_comm, ← h.months, ← h.days]
  constructor
  · intro hcounts
    exact ⟨hcounts.months, hcounts.days⟩
  · rintro ⟨hmonths, hdays⟩
    refine ⟨hmonths, hdays, ?_, ?_⟩
    · rw [h.hours]
      exact (Nat.mul_le_mul_left 3600 hhours).trans (by decide)
    · rw [h.minutes]
      exact (Nat.mul_le_mul_left 60 hminutes).trans (by decide)

theorem readBody?_body (hne : w.body ≠ []) (hseconds : 0 ≤ w.seconds.toRat)
    (hhours : w.hours ≤ 25) (hminutes : w.minutes ≤ 61) (hsum : w.total = sum.toRat) :
    Fields.readBody? negative w.body =
      if w.months ≤ maxCount ∧ w.days * 86400 ≤ maxCount then
        some ⟨negative, w.months, sum.normalize, decide (w.months ≠ 0), decide (w.total ≠ 0)⟩
      else none := by
  obtain ⟨l, rfl, hl⟩ := exists_literal hne hseconds negative
  rw [← hl.fields]
  split
  · next hlimit =>
    have hcounts := (hl.fitsCounts_iff hhours hminutes).mpr hlimit
    have hvalue : (l.wholeSeconds : ℚ) + l.secondDigits.value = sum.toRat := by
      rw [← l.secondCount_eq, hl.seconds, hsum]
    exact DurationLiteral.readBody?_fields_of_sumsTo hcounts
      ⟨rfl, hl.months.symm,
        sum_of_exact l.allDigits_secondDigits hcounts.wholeSeconds_le hvalue,
        hl.hasYearMonth.symm, hl.hasDayTime.symm⟩
  · next hlimit =>
    refine Option.eq_none_iff_forall_ne_some.mpr fun _ hread => hlimit ?_
    exact (hl.fitsCounts_iff hhours hminutes).mp
      (DurationLiteral.sumsTo_of_readBody?_fields hread).1

theorem readBody?_body_of_neg (h : w.seconds.toRat < 0) :
    Fields.readBody? negative w.body = none := by
  have hzero : w.seconds.isZero = false := isZero_eq_false_iff.mpr h.ne
  have hfield : '-' ∈ w.timeFields := by
    simp [timeFields, secondsNumber, hzero, optionalField, toChars_of_neg h]
  have hbody : '-' ∈ w.body := by
    have hne : w.timeFields.isEmpty = false := by
      simpa using List.ne_nil_of_mem hfield
    simp [body, hne, hfield]
  refine Option.eq_none_iff_forall_ne_some.mpr fun fields hread => ?_
  obtain ⟨l, _, hl⟩ := DurationLiteral.exists_of_readBody? hread
  rw [← hl] at hbody
  exact absurd (l.mem_fields hbody) (by decide)

theorem body_ne_nil (h : w.months ≠ 0 ∨ w.total ≠ 0) : w.body ≠ [] := by
  intro hbody
  obtain ⟨hdate, htime⟩ := List.append_eq_nil_iff.mp hbody
  have htime : w.timeFields = [] := by
    by_contra hne
    simp [hne] at htime
  obtain ⟨hyears, hdays⟩ := List.append_eq_nil_iff.mp hdate
  obtain ⟨hyears, hmonths⟩ := List.append_eq_nil_iff.mp hyears
  obtain ⟨hhours, hseconds⟩ := List.append_eq_nil_iff.mp htime
  obtain ⟨hhours, hminutes⟩ := List.append_eq_nil_iff.mp hhours
  have hyears := countNumber_eq_none (optionalField_eq_nil hyears)
  have hmonths := countNumber_eq_none (optionalField_eq_nil hmonths)
  have hdays := countNumber_eq_none (optionalField_eq_nil hdays)
  have hhours := countNumber_eq_none (optionalField_eq_nil hhours)
  have hminutes := countNumber_eq_none (optionalField_eq_nil hminutes)
  have hseconds : w.seconds.toRat = 0 := by
    have hnone := isSome_secondsNumber w.seconds
    rw [optionalField_eq_nil hseconds] at hnone
    exact isZero_iff.mp (by simpa using hnone)
  rcases h with h | h
  · exact h (by omega)
  · exact h (by simp [total, hdays, hhours, hminutes, hseconds])

end Written

def ReadsBack (months : ℕ) (x : ℚ) : Prop :=
  months ≤ maxCount ∧ SplitsExactly x ∧ ⌊x / 86400⌋₊ * 86400 ≤ maxCount

instance (months : ℕ) (x : ℚ) : Decidable (ReadsBack months x) :=
  inferInstanceAs (Decidable (_ ∧ _ ∧ _))

theorem total_written (months : ℕ) {rest : Decimal}
    (hrest : rest.toRat = (parts seconds.toRat).seconds) :
    (written months seconds.toRat rest).total = seconds.toRat := by
  simp only [Written.total, written, hrest]
  exact parts_sum seconds.toRat

theorem readBody?_written (h : 0 ≤ seconds.toRat) (hne : months ≠ 0 ∨ seconds.toRat ≠ 0) :
    Fields.readBody? negative (monthFields months ++ secondFields seconds) =
      if ReadsBack months seconds.toRat then
        some ⟨negative, months, seconds.normalize, decide (months ≠ 0),
          decide (seconds.toRat ≠ 0)⟩
      else none := by
  obtain ⟨rest, hrest, hbody⟩ := exists_written months h
  have htotal := total_written months hrest
  have hnil : (written months seconds.toRat rest).body ≠ [] :=
    Written.body_ne_nil (by rwa [htotal])
  have hsplit := parts_seconds_nonneg_iff h
  rw [hbody]
  by_cases hexact : SplitsExactly seconds.toRat
  · have hnonneg : 0 ≤ rest.toRat := hrest ▸ hsplit.mpr hexact
    rw [Written.readBody?_body hnil hnonneg (parts_hours_le _) (parts_minutes_le _) htotal, htotal]
    simp only [written, hexact.days_eq, ReadsBack, hexact, true_and]
  · have hneg : (written months seconds.toRat rest).seconds.toRat < 0 := by
      simp only [written, hrest]
      exact not_le.mp (mt hsplit.mp hexact)
    rw [Written.readBody?_body_of_neg hneg, if_neg fun hback => hexact hback.2.1]

end XPathValues.Duration
