import Mathlib.Tactic
import XPathValues.Proofs.Duration.RoundTrip

/-!
# One text for each duration

Durations of one length have one text, also those whose text is not read back: a quotient that
rounds up gives a field too many, but the fields still add up to the count of seconds.
-/

namespace XPathValues.Duration

open Decimal Text

variable {a b : Duration} {v w : Written} {number number' : Option (List Char)} {letter : Char}
  {rest rest' : List Char}

theorem countNumber_inj {m n : ℕ} (h : countNumber m = countNumber n) : m = n := by
  unfold countNumber at h
  split_ifs at h with hm hn
  · rw [hm, hn]
  · rw [← digitsValue_toDigits m, Option.some.inj h, digitsValue_toDigits]

theorem secondsNumber_eq_iff {x y : Decimal} :
    secondsNumber x = secondsNumber y ↔ x.toRat = y.toRat := by
  have hx : x.isZero = true ↔ x.toRat = 0 := isZero_iff
  have hy : y.isZero = true ↔ y.toRat = 0 := isZero_iff
  unfold secondsNumber
  split_ifs with hzero hzero' hzero'
  · rw [hx.mp hzero, hy.mp hzero']
    simp
  · rw [hx.mp hzero, eq_comm (a := (0 : ℚ)), ← hy]
    simp [hzero']
  · rw [hy.mp hzero', ← hx]
    simp [hzero]
  · rw [Option.some.injEq, toChars_eq_iff]

theorem optionalField_append_inj (hnumber : IsFieldNumber number) (hnumber' : IsFieldNumber number')
    (hletter : isFieldChar letter = false) (hrest : nextLetter rest ≠ some letter)
    (hrest' : nextLetter rest' ≠ some letter)
    (h : optionalField number letter ++ rest = optionalField number' letter ++ rest') :
    number = number' ∧ rest = rest' := by
  have htake := congrArg (takeField letter) h
  rw [takeField_optionalField hnumber hletter hrest,
    takeField_optionalField hnumber' hletter hrest'] at htake
  exact Prod.mk.inj htake

theorem optionalField_inj (h : optionalField number letter = optionalField number' letter) :
    number = number' := by
  match number, number' with
  | none, none => rfl
  | none, some digits => simp [optionalField] at h
  | some digits, none => simp [optionalField] at h
  | some digits, some digits' => exact congrArg some (List.append_cancel_right h)

theorem nextLetter_optionalField_ne {other : Char} (hnumber : IsFieldNumber number)
    (hletter : isFieldChar letter = false) (hne : letter ≠ other)
    (hrest : nextLetter rest ≠ some other) :
    nextLetter (optionalField number letter ++ rest) ≠ some other := by
  rw [nextLetter_optionalField hnumber hletter]
  split
  · simpa using hne
  · exact hrest

theorem optionalFields_inj {first second third : Char} {c c' : Option (List Char)} {m n m' n' : ℕ}
    (hfirst : isFieldChar first = false) (hsecond : isFieldChar second = false)
    (hne : second ≠ first)
    (hc : ∀ letter ∈ [first, second], nextLetter (optionalField c third) ≠ some letter)
    (hc' : ∀ letter ∈ [first, second], nextLetter (optionalField c' third) ≠ some letter)
    (h : optionalField (countNumber m) first ++ optionalField (countNumber n) second ++
        optionalField c third =
      optionalField (countNumber m') first ++ optionalField (countNumber n') second ++
        optionalField c' third) : m = m' ∧ n = n' ∧ c = c' := by
  rw [List.append_assoc, List.append_assoc] at h
  obtain ⟨hm, h⟩ := optionalField_append_inj (isFieldNumber_countNumber m)
    (isFieldNumber_countNumber m') hfirst
    (nextLetter_optionalField_ne (isFieldNumber_countNumber n) hsecond hne (hc first (by simp)))
    (nextLetter_optionalField_ne (isFieldNumber_countNumber n') hsecond hne (hc' first (by simp))) h
  obtain ⟨hn, h⟩ := optionalField_append_inj (isFieldNumber_countNumber n)
    (isFieldNumber_countNumber n') hsecond (hc second (by simp)) (hc' second (by simp)) h
  exact ⟨countNumber_inj hm, countNumber_inj hn, optionalField_inj h⟩

theorem nextLetter_seconds_ne (x : Decimal) :
    ∀ letter ∈ ['H', 'M'], nextLetter (optionalField (secondsNumber x) 'S') ≠ some letter := by
  intro letter hletter
  rcases le_or_gt 0 x.toRat with h | h
  · have hnext : nextLetter (optionalField (secondsNumber x) 'S' ++ []) ≠ some letter :=
      nextLetter_optionalField_ne (isFieldNumber_secondsNumber h) rfl
        (by rintro rfl; exact absurd hletter (by decide)) (by simp [nextLetter])
    rwa [List.append_nil] at hnext
  · have hzero : x.isZero = false := isZero_eq_false_iff.mpr h.ne
    have hminus : isFieldChar '-' = false := rfl
    have hne : '-' ≠ letter := by
      rintro rfl
      exact absurd hletter (by decide)
    simpa [secondsNumber, hzero, optionalField, toChars_of_neg h, nextLetter, hminus] using hne

theorem nextLetter_days_ne (days : ℕ) :
    ∀ letter ∈ ['Y', 'M'], nextLetter (optionalField (countNumber days) 'D') ≠ some letter := by
  intro letter hletter
  have hnext : nextLetter (optionalField (countNumber days) 'D' ++ []) ≠ some letter :=
    nextLetter_optionalField_ne (isFieldNumber_countNumber days) rfl
      (by rintro rfl; exact absurd hletter (by decide)) (by simp [nextLetter])
  rwa [List.append_nil] at hnext

namespace Written

theorem timeFields_inj (h : v.timeFields = w.timeFields) :
    v.hours = w.hours ∧ v.minutes = w.minutes ∧ v.seconds.toRat = w.seconds.toRat := by
  obtain ⟨hhours, hminutes, hseconds⟩ := optionalFields_inj rfl rfl (by decide)
    (nextLetter_seconds_ne _) (nextLetter_seconds_ne _) h
  exact ⟨hhours, hminutes, secondsNumber_eq_iff.mp hseconds⟩

theorem dateFields_inj (h : v.dateFields = w.dateFields) :
    v.months = w.months ∧ v.days = w.days := by
  obtain ⟨hyears, hmonths, hdays⟩ := optionalFields_inj rfl rfl (by decide)
    (nextLetter_days_ne _) (nextLetter_days_ne _) h
  exact ⟨by omega, countNumber_inj hdays⟩

theorem body_inj (hne : v.body ≠ []) (h : v.body = w.body) :
    v.months = w.months ∧ v.total = w.total := by
  have hsplit := splitAtTime?_body hne
  rw [h, splitAtTime?_body (h ▸ hne)] at hsplit
  obtain ⟨hdate, htime⟩ := Prod.mk.inj (Option.some.inj hsplit)
  obtain ⟨hmonths, hdays⟩ := dateFields_inj hdate.symm
  obtain ⟨hhours, hminutes, hseconds⟩ := timeFields_inj htime.symm
  exact ⟨hmonths, by rw [total, total, hdays, hhours, hminutes, hseconds]⟩

end Written

theorem fields_eq_iff {m n : ℕ} {x y : Decimal} (hx : 0 ≤ x.toRat) (hy : 0 ≤ y.toRat)
    (hne : m ≠ 0 ∨ x.toRat ≠ 0) :
    monthFields m ++ secondFields x = monthFields n ++ secondFields y ↔
      m = n ∧ x.toRat = y.toRat := by
  obtain ⟨r, hr, hbody⟩ := exists_written m hx
  obtain ⟨s, hs, hbody'⟩ := exists_written n hy
  have htotal := total_written m hr
  rw [hbody, hbody']
  constructor
  · intro h
    obtain ⟨hmonths, hsum⟩ := Written.body_inj (Written.body_ne_nil (by rwa [htotal])) h
    rw [htotal, total_written n hs] at hsum
    exact ⟨hmonths, hsum⟩
  · rintro ⟨rfl, heq⟩
    have hseconds : secondsNumber r = secondsNumber s :=
      secondsNumber_eq_iff.mpr (by rw [hr, hs, heq])
    have htime : (written m y.toRat r).timeFields = (written m y.toRat s).timeFields := by
      rw [Written.timeFields, Written.timeFields]
      simp only [written, hseconds]
    rw [heq, Written.body, Written.body, htime]
    rfl

/-- A text that is read as a duration of no length. -/
def ReadsAsNil (text : String) : Prop :=
  (Fields.read? text.toList).map (fun fields => (fields.months, fields.seconds)) = some (0, .zero)

theorem readsAsNil_seconds : ReadsAsNil "PT0S" := by
  unfold ReadsAsNil
  decide +kernel

theorem readsAsNil_months : ReadsAsNil "P0M" := by
  unfold ReadsAsNil
  decide +kernel

theorem Denotes.isNil {fields : Fields} (h : Denotes fields a) (hmonths : fields.months = 0)
    (hseconds : fields.seconds.toRat = 0) : a.IsNil := by
  constructor
  · rw [YearMonthDuration.ofMonths?_eq_some_iff.mp h.yearMonth, hmonths]
    simp
  · rw [← h.dayTime, Fields.dayTime]
    split <;> simp [hseconds]

theorem componentChars_ne_ofZero {ofZero : String} (h : ¬ a.IsNil) (hzero : ReadsAsNil ofZero) :
    componentChars a.yearMonth.months a.dayTime.seconds ofZero ≠ ofZero.toList := by
  intro heq
  obtain ⟨fields, hread, hfields⟩ := Option.map_eq_some_iff.mp hzero
  obtain ⟨hmonths, hseconds⟩ := Prod.mk.inj hfields
  by_cases hreadable : a.IsReadable
  · obtain ⟨fields', hread', hdenotes⟩ := exists_denotes h hreadable ofZero
    rw [heq, hread] at hread'
    obtain rfl := Option.some.inj hread'
    exact h (hdenotes.isNil hmonths (by rw [hseconds, toRat_zero]))
  · have hnone := read?_eq_none hreadable h ofZero
    rw [heq, hread] at hnone
    cases hnone

/-- Two durations of some length have one text exactly when sign and fields agree. -/
theorem componentChars_eq_iff_of_not_nil (ha : ¬ a.IsNil) (hb : ¬ b.IsNil) (ofZero : String) :
    componentChars a.yearMonth.months a.dayTime.seconds ofZero =
        componentChars b.yearMonth.months b.dayTime.seconds ofZero ↔
      a.yearMonth.months = b.yearMonth.months ∧
        a.dayTime.seconds.toRat = b.dayTime.seconds.toRat := by
  have hne : a.yearMonth.months.natAbs ≠ 0 ∨ a.dayTime.seconds.abs.toRat ≠ 0 := by
    rw [toRat_abs, abs_ne_zero, Int.natAbs_ne_zero]
    exact not_and_or.mp ha
  have hfields := fields_eq_iff (n := b.yearMonth.months.natAbs)
    (x := a.dayTime.seconds.abs) (y := b.dayTime.seconds.abs)
    (by rw [toRat_abs]; exact abs_nonneg _) (by rw [toRat_abs]; exact abs_nonneg _) hne
  rw [toRat_abs, toRat_abs] at hfields
  rw [componentChars_of_not_nil ha, componentChars_of_not_nil hb]
  constructor
  · intro h
    have hsign : a.isNegative = b.isNegative := by
      cases hna : a.isNegative <;> cases hnb : b.isNegative <;> simp_all
    rw [hsign] at h
    obtain ⟨hmonths, hseconds⟩ := hfields.mp (List.cons.inj (List.append_cancel_left h)).2
    rw [a.months_eq, b.months_eq, a.seconds_eq, b.seconds_eq, hsign, hmonths, hseconds]
    exact ⟨rfl, rfl⟩
  · rintro ⟨hmonths, hseconds⟩
    have hsign : a.isNegative = b.isNegative := by
      rw [isNegative_eq, isNegative_eq, hmonths, hseconds]
    rw [hsign, hfields.mpr ⟨by rw [hmonths], by rw [hseconds]⟩]

theorem componentChars_eq_iff {ofZero : String} (hzero : ReadsAsNil ofZero) :
    componentChars a.yearMonth.months a.dayTime.seconds ofZero =
        componentChars b.yearMonth.months b.dayTime.seconds ofZero ↔
      a.yearMonth.months = b.yearMonth.months ∧
        a.dayTime.seconds.toRat = b.dayTime.seconds.toRat := by
  by_cases ha : a.IsNil <;> by_cases hb : b.IsNil
  · rw [componentChars_of_nil ha, componentChars_of_nil hb, ha.1, ha.2, hb.1, hb.2]
    simp
  · rw [componentChars_of_nil ha, ha.1, ha.2]
    exact iff_of_false (componentChars_ne_ofZero hb hzero).symm
      fun h => hb ⟨h.1.symm, h.2.symm⟩
  · rw [componentChars_of_nil hb, hb.1, hb.2]
    exact iff_of_false (componentChars_ne_ofZero ha hzero) ha
  · exact componentChars_eq_iff_of_not_nil ha hb ofZero

end XPathValues.Duration
