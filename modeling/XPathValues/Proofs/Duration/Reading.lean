import Mathlib.Tactic
import XPathValues.Proofs.Duration.Literal
import XPathValues.Proofs.Number.DecimalQuotient
import XPathValues.Proofs.Value.Reading

/-!
# Reading durations

The seconds of the last field are rounded before they are added to the others, and the sum is
rounded again. Rounding twice fails exactly when the exact sum is half a second or more beyond the
greatest decimal, because a last field with a fraction that matters to the limit leaves no room
for digits behind the point. A sum that a decimal has is found without error.
-/

namespace XPathValues

open Text Decimal Duration

namespace Decimal

variable {d : Decimal} {n : ℕ}

theorem exists_ofRat?_natCast_iff : (∃ d, ofRat? (n : ℚ) = some d) ↔ n ≤ maxMagnitude := by
  rw [exists_ofRat?_iff, abs_of_nonneg (Nat.cast_nonneg n)]
  constructor
  · intro hlt
    have hstep : (n : ℚ) < (maxMagnitude + 1 : ℕ) := by
      push_cast
      linarith
    exact Nat.lt_succ_iff.mp (by exact_mod_cast hstep)
  · intro hle
    have hcast : (n : ℚ) ≤ maxMagnitude := by exact_mod_cast hle
    linarith

end Decimal

namespace Duration

variable {digits : PointedDigits} {whole : ℕ} {sum : Decimal}

/-- Rounding the last field and the sum fails together with rounding the exact sum. -/
theorem exists_sum_iff (h : digits.AllDigits) (hwhole : whole ≤ 3 * maxCount) :
    (∃ sum, (ofDigits? false digits).bind (Fields.sumSeconds? whole) = some sum) ↔
      (whole : ℚ) + digits.value < maxMagnitude + 1 / 2 := by
  have hfits : whole ≤ maxMagnitude := hwhole.trans maxCount_mul_three_le
  have hnonneg : (0 : ℚ) ≤ whole := Nat.cast_nonneg whole
  have hvalue := digits.value_nonneg
  cases hread : ofDigits? false digits with
  | none =>
    have hlarge := (ofDigits?_eq_none_iff false h).mp hread
    exact iff_of_false (by simp) (by linarith)
  | some d =>
    rw [Option.bind_some, sumSeconds?_eq_ofRat? hfits]
    by_cases hfull : maxMagnitude < 10 * digitsValue digits.whole
    · have hrat : (whole : ℚ) + d.toRat = ((whole + ⌊digits.value + 1 / 2⌋₊ : ℕ) : ℚ) := by
        rw [toRat_ofDigits?_of_full h hfull hread]
        push_cast
        rfl
      have hfloor : ⌊digits.value + 1 / 2⌋₊ < maxMagnitude + 1 - whole ↔
          digits.value + 1 / 2 < ((maxMagnitude + 1 - whole : ℕ) : ℚ) :=
        Nat.floor_lt (by linarith)
      rw [Nat.cast_sub (by omega)] at hfloor
      push_cast at hfloor
      rw [hrat, exists_ofRat?_natCast_iff]
      constructor
      · intro hle
        linarith [hfloor.mp (by omega)]
      · intro hlt
        have hlt := hfloor.mpr (by linarith)
        omega
    · -- Less than a tenth of the greatest decimal leaves room for every count.
      have htenth : (10 : ℚ) * digitsValue digits.whole ≤ maxMagnitude := by
        exact_mod_cast not_lt.mp hfull
      have hcount : (whole : ℚ) ≤ 3 * maxCount := by exact_mod_cast hwhole
      have hroom : (30 : ℚ) * maxCount + 20 ≤ 9 * maxMagnitude := by
        norm_num [maxCount, maxMagnitude]
      have hfraction : digits.value < digitsValue digits.whole + 1 := by
        have hlt := fractionValue_lt_one (allDigits_iff.mp h.fraction)
        rw [PointedDigits.value]
        linarith
      obtain ⟨hlow, hhigh⟩ := abs_le.mp (abs_ofDigits?_sub_le h hread)
      have hunsigned : withSign false digits.value = digits.value := rfl
      rw [hunsigned] at hlow hhigh
      refine iff_of_true (exists_ofRat?_of_abs_le ?_) (by linarith)
      rw [abs_le]
      constructor <;> linarith

theorem sum_nonneg (hwhole : whole ≤ 3 * maxCount)
    (hsum : (ofDigits? false digits).bind (Fields.sumSeconds? whole) = some sum) :
    0 ≤ sum.toRat := by
  obtain ⟨d, hd, hadd⟩ := Option.bind_eq_some_iff.mp hsum
  obtain ⟨_, m, s, _, hrat⟩ := exists_takeFraction?_of_ofDigits? hd
  have hnonneg : 0 ≤ d.toRat := by
    rw [hrat]
    exact div_nonneg (Nat.cast_nonneg m) (by positivity)
  rw [sumSeconds?_eq_ofRat? (hwhole.trans maxCount_mul_three_le)] at hadd
  exact toRat_nonneg_of_ofRat? (add_nonneg (Nat.cast_nonneg whole) hnonneg) hadd

end Duration

namespace DurationLiteral

variable {l : DurationLiteral} {f : Fields} {text : List Char}

/-- Every count has 64 bits, and the seconds are less than half a second beyond the greatest
decimal. -/
structure Fits (l : DurationLiteral) : Prop where
  counts : l.FitsCounts
  seconds : l.secondCount < 2 ^ 96 - 1 / 2

theorem fits_iff :
    l.Fits ↔ l.FitsCounts ∧ ∃ sum,
      (ofDigits? false l.secondDigits).bind (Fields.sumSeconds? l.wholeSeconds) = some sum := by
  have hlimit : (2 : ℚ) ^ 96 - 1 / 2 = maxMagnitude + 1 / 2 := by norm_num [maxMagnitude]
  constructor
  · rintro ⟨hcounts, hseconds⟩
    rw [secondCount_eq, hlimit] at hseconds
    exact ⟨hcounts,
      (exists_sum_iff l.allDigits_secondDigits hcounts.wholeSeconds_le).mpr hseconds⟩
  · rintro ⟨hcounts, hsum⟩
    have hseconds := (exists_sum_iff l.allDigits_secondDigits hcounts.wholeSeconds_le).mp hsum
    exact ⟨hcounts, by rwa [secondCount_eq, hlimit]⟩

theorem exists_read?_iff :
    (∃ f, Fields.read? text = some f) ↔ ∃ l : DurationLiteral, l.chars = text ∧ l.Fits := by
  constructor
  · rintro ⟨f, hf⟩
    obtain ⟨l, rfl⟩ := exists_of_read? hf
    obtain ⟨hcounts, hsums⟩ := read?_chars_eq_some_iff.mp hf
    exact ⟨l, rfl, fits_iff.mpr ⟨hcounts, f.seconds, hsums.seconds⟩⟩
  · rintro ⟨l, rfl, hfits⟩
    obtain ⟨hcounts, sum, hsum⟩ := fits_iff.mp hfits
    exact ⟨⟨l.negative, l.monthCount, sum, l.hasYearMonth, l.hasDayTime⟩,
      read?_chars_eq_some_iff.mpr ⟨hcounts, rfl, rfl, hsum, rfl, rfl⟩⟩

/-! ## The two counts of a duration -/

theorem SumsTo.exists_yearMonth? (h : l.SumsTo f) (hcounts : l.FitsCounts) :
    ∃ y, f.yearMonth? = some y ∧ y.months = l.signedMonths := by
  have hlimit := hcounts.months
  have hrange : YearMonthDuration.InRange l.signedMonths := by
    unfold YearMonthDuration.InRange signedMonths withSign
    unfold maxCount at hlimit
    split <;> omega
  refine ⟨⟨l.signedMonths, hrange⟩, ?_, rfl⟩
  rw [Fields.yearMonth?, h.negative, h.months, YearMonthDuration.ofMonths?_eq_some_iff]
  rfl

theorem SumsTo.seconds_nonneg (h : l.SumsTo f) (hcounts : l.FitsCounts) : 0 ≤ f.seconds.toRat :=
  sum_nonneg hcounts.wholeSeconds_le h.seconds

theorem SumsTo.toRat_dayTime (h : l.SumsTo f) :
    f.dayTime.seconds.toRat = withSign l.negative f.seconds.toRat := by
  rw [Fields.dayTime, h.negative, withSign]
  split <;> simp

theorem SumsTo.agree (h : l.SumsTo f) (hcounts : l.FitsCounts) {y : YearMonthDuration}
    (hy : y.months = l.signedMonths) : Agree y f.dayTime := by
  have hnonneg := h.seconds_nonneg hcounts
  rw [Agree, hy, h.toRat_dayTime, signedMonths, withSign, withSign]
  cases l.negative with
  | false =>
    simp only [Bool.false_eq_true, if_false]
    constructor
    · rintro ⟨hmonths, _⟩
      omega
    · rintro ⟨_, hseconds⟩
      linarith
  | true =>
    simp only [if_true]
    constructor
    · rintro ⟨_, hseconds⟩
      linarith
    · rintro ⟨hmonths, _⟩
      omega

theorem SumsTo.toRat_dayTime_of_exact (h : l.SumsTo f) (hcounts : l.FitsCounts) {e : Decimal}
    (he : e.toRat = l.signedSeconds) : f.dayTime.seconds.toRat = l.signedSeconds := by
  obtain ⟨c, hc⟩ : ∃ c : Decimal, l.secondCount = c.toRat := by
    unfold signedSeconds withSign at he
    split at he
    · exact ⟨e.neg, by rw [toRat_neg, he, neg_neg]⟩
    · exact ⟨e, he.symm⟩
  have htotal : f.seconds.toRat = l.secondCount := by
    have hsum := sum_of_exact l.allDigits_secondDigits hcounts.wholeSeconds_le
      (l.secondCount_eq.symm.trans hc)
    rw [Option.some.inj (h.seconds.symm.trans hsum), toRat_normalize, hc]
  rw [h.toRat_dayTime, htotal, signedSeconds]

end DurationLiteral

namespace Duration

open DurationLiteral

variable {text : List Char} {d : Duration} {f : Fields}

/-- The two counts that are read are those of the fields, and they always agree in sign. -/
theorem read?_eq_some_iff_fields :
    read? text = some d ↔ ∃ f, Fields.read? text = some f ∧ f.yearMonth? = some d.yearMonth ∧
      f.dayTime = d.dayTime := by
  constructor
  · intro h
    obtain ⟨f, hf, h⟩ := Option.bind_eq_some_iff.mp h
    obtain ⟨y, hy, h⟩ := Option.bind_eq_some_iff.mp h
    unfold ofParts? at h
    split at h
    · obtain rfl := Option.some.inj h
      exact ⟨f, hf, hy, rfl⟩
    · cases h
  · rintro ⟨f, hf, hy, hdayTime⟩
    refine Option.bind_eq_some_iff.mpr ⟨f, hf, Option.bind_eq_some_iff.mpr ⟨_, hy, ?_⟩⟩
    have hagree : Agree d.yearMonth f.dayTime := hdayTime ▸ d.agree
    rw [ofParts?, dif_pos hagree]
    obtain ⟨y, s, _⟩ := d
    obtain rfl : f.dayTime = s := hdayTime
    rfl

theorem exists_read?_of_fields (hf : Fields.read? text = some f) :
    ∃ d, read? text = some d ∧ f.yearMonth? = some d.yearMonth ∧ f.dayTime = d.dayTime := by
  obtain ⟨l, rfl⟩ := exists_of_read? hf
  obtain ⟨hcounts, hsums⟩ := read?_chars_eq_some_iff.mp hf
  obtain ⟨y, hy, hmonths⟩ := hsums.exists_yearMonth? hcounts
  let d : Duration := ⟨y, f.dayTime, hsums.agree hcounts hmonths⟩
  exact ⟨d, read?_eq_some_iff_fields.mpr ⟨f, hf, hy, rfl⟩, hy, rfl⟩

end Duration

theorem DurationLiteral.hasYearMonth_eq_of_read? {l : DurationLiteral} {text : List Char}
    {f : Fields} (hf : Fields.read? text = some f) (hl : l.chars = text) :
    f.hasYearMonth = l.hasYearMonth := by
  subst hl
  exact (read?_chars_eq_some_iff.mp hf).2.hasYearMonth

theorem DurationLiteral.hasDayTime_eq_of_read? {l : DurationLiteral} {text : List Char}
    {f : Fields} (hf : Fields.read? text = some f) (hl : l.chars = text) :
    f.hasDayTime = l.hasDayTime := by
  subst hl
  exact (read?_chars_eq_some_iff.mp hf).2.hasDayTime

theorem YearMonthDuration.read?_eq_some_iff {y : YearMonthDuration} {text : List Char} :
    read? text = some y ↔ ∃ d, Duration.read? text = some d ∧ d.yearMonth = y ∧
      ∃ l : DurationLiteral, l.chars = text ∧ l.hasDayTime = false := by
  constructor
  · intro h
    obtain ⟨f, hf, hy⟩ := Option.bind_eq_some_iff.mp h
    obtain ⟨d, hd, hyearMonth, _⟩ := exists_read?_of_fields hf
    obtain ⟨l, hl⟩ := DurationLiteral.exists_of_read? hf
    have hfamily := DurationLiteral.hasDayTime_eq_of_read? hf hl
    split at hy
    · cases hy
    · next hnone =>
      rw [hfamily, Bool.not_eq_true] at hnone
      exact ⟨d, hd, Option.some.inj (hyearMonth.symm.trans hy), l, hl, hnone⟩
  · rintro ⟨d, hd, rfl, l, hl, hnone⟩
    obtain ⟨f, hf, hy, _⟩ := read?_eq_some_iff_fields.mp hd
    rw [← DurationLiteral.hasDayTime_eq_of_read? hf hl] at hnone
    refine Option.bind_eq_some_iff.mpr ⟨f, hf, ?_⟩
    rw [hnone]
    exact hy

theorem DayTimeDuration.read?_eq_some_iff {s : DayTimeDuration} {text : List Char} :
    read? text = some s ↔ ∃ d, Duration.read? text = some d ∧ d.dayTime = s ∧
      ∃ l : DurationLiteral, l.chars = text ∧ l.hasYearMonth = false := by
  constructor
  · intro h
    obtain ⟨f, hf, hs⟩ := Option.bind_eq_some_iff.mp h
    obtain ⟨d, hd, _, hdayTime⟩ := exists_read?_of_fields hf
    obtain ⟨l, hl⟩ := DurationLiteral.exists_of_read? hf
    have hfamily := DurationLiteral.hasYearMonth_eq_of_read? hf hl
    split at hs
    · cases hs
    · next hnone =>
      rw [hfamily, Bool.not_eq_true] at hnone
      exact ⟨d, hd, hdayTime.symm.trans (Option.some.inj hs), l, hl, hnone⟩
  · rintro ⟨d, hd, rfl, l, hl, hnone⟩
    obtain ⟨f, hf, _, hdayTime⟩ := read?_eq_some_iff_fields.mp hd
    rw [← DurationLiteral.hasYearMonth_eq_of_read? hf hl] at hnone
    refine Option.bind_eq_some_iff.mpr ⟨f, hf, ?_⟩
    rw [hnone, ← hdayTime]
    rfl

namespace AtomicValue

variable {given : String} {bindings : Bindings} {v : AtomicValue}

/-- What a text is read as by the types of durations. -/
structure ReadsDuration (text : List Char)
    (duration yearMonthDuration dayTimeDuration : Except Error AtomicValue) : Prop where
  accepted : (∃ v, duration = .ok v) ↔ ∃ l : DurationLiteral, l.chars = text ∧ l.Fits
  value : ∀ l : DurationLiteral, l.chars = text → ∀ v, duration = .ok v →
    ∃ d, v = .duration d ∧ d.yearMonth.months = l.signedMonths ∧
      ∀ e : Decimal, e.toRat = l.signedSeconds → d.dayTime.seconds.toRat = l.signedSeconds
  yearMonth : ∀ v, yearMonthDuration = .ok v ↔
    ∃ d, duration = .ok (.duration d) ∧ v = .yearMonthDuration d.yearMonth ∧
      ∃ l : DurationLiteral, l.chars = text ∧ l.hasDayTime = false
  dayTime : ∀ v, dayTimeDuration = .ok v ↔
    ∃ d, duration = .ok (.duration d) ∧ v = .dayTimeDuration d.dayTime ∧
      ∃ l : DurationLiteral, l.chars = text ∧ l.hasYearMonth = false

theorem read_duration_eq_ok_iff :
    read .duration given bindings = .ok v ↔
      ∃ d, Duration.read? (collapse given).toList = some d ∧ v = .duration d :=
  read_eq_ok_iff_of_orInvalid rfl

theorem read_duration_eq_ok_duration_iff {d : Duration} :
    read .duration given bindings = .ok (.duration d) ↔
      Duration.read? (collapse given).toList = some d := by
  simp [read_duration_eq_ok_iff]

theorem read_yearMonthDuration_eq_ok_iff :
    read .yearMonthDuration given bindings = .ok v ↔
      ∃ y, YearMonthDuration.read? (collapse given).toList = some y ∧ v = .yearMonthDuration y :=
  read_eq_ok_iff_of_orInvalid rfl

theorem read_dayTimeDuration_eq_ok_iff :
    read .dayTimeDuration given bindings = .ok v ↔
      ∃ s, DayTimeDuration.read? (collapse given).toList = some s ∧ v = .dayTimeDuration s :=
  read_eq_ok_iff_of_orInvalid rfl

/-- A text is a duration exactly when a literal that fits spells it. Its months are those of the
literal, and so are its seconds where a decimal has them. The two kinds of durations with one count
take the texts without fields of the other count. -/
theorem duration_reading (given : String) (bindings : Bindings) :
    ReadsDuration (collapse given).toList (read .duration given bindings)
      (read .yearMonthDuration given bindings) (read .dayTimeDuration given bindings) where
  accepted := by
    rw [← DurationLiteral.exists_read?_iff]
    constructor
    · rintro ⟨v, hv⟩
      obtain ⟨d, hd, _⟩ := read_duration_eq_ok_iff.mp hv
      obtain ⟨f, hf, _⟩ := read?_eq_some_iff_fields.mp hd
      exact ⟨f, hf⟩
    · rintro ⟨f, hf⟩
      obtain ⟨d, hd, _⟩ := exists_read?_of_fields hf
      exact ⟨.duration d, read_duration_eq_ok_duration_iff.mpr hd⟩
  value := by
    intro l hl v hv
    obtain ⟨d, hd, rfl⟩ := read_duration_eq_ok_iff.mp hv
    obtain ⟨f, hf, hy, hdayTime⟩ := read?_eq_some_iff_fields.mp hd
    rw [← hl] at hf
    obtain ⟨hcounts, hsums⟩ := DurationLiteral.read?_chars_eq_some_iff.mp hf
    obtain ⟨y, hy', hmonths⟩ := hsums.exists_yearMonth? hcounts
    obtain rfl := Option.some.inj (hy'.symm.trans hy)
    refine ⟨d, rfl, hmonths, fun e he => ?_⟩
    rw [← hdayTime]
    exact hsums.toRat_dayTime_of_exact hcounts he
  yearMonth := by
    intro v
    constructor
    · intro hv
      obtain ⟨y, hy, rfl⟩ := read_yearMonthDuration_eq_ok_iff.mp hv
      obtain ⟨d, hd, rfl, hl⟩ := YearMonthDuration.read?_eq_some_iff.mp hy
      exact ⟨d, read_duration_eq_ok_duration_iff.mpr hd, rfl, hl⟩
    · rintro ⟨d, hd, rfl, hl⟩
      have hread := YearMonthDuration.read?_eq_some_iff.mpr
        ⟨d, read_duration_eq_ok_duration_iff.mp hd, rfl, hl⟩
      exact read_yearMonthDuration_eq_ok_iff.mpr ⟨d.yearMonth, hread, rfl⟩
  dayTime := by
    intro v
    constructor
    · intro hv
      obtain ⟨s, hs, rfl⟩ := read_dayTimeDuration_eq_ok_iff.mp hv
      obtain ⟨d, hd, rfl, hl⟩ := DayTimeDuration.read?_eq_some_iff.mp hs
      exact ⟨d, read_duration_eq_ok_duration_iff.mpr hd, rfl, hl⟩
    · rintro ⟨d, hd, rfl, hl⟩
      have hread := DayTimeDuration.read?_eq_some_iff.mpr
        ⟨d, read_duration_eq_ok_duration_iff.mp hd, rfl, hl⟩
      exact read_dayTimeDuration_eq_ok_iff.mpr ⟨d.dayTime, hread, rfl⟩

/-- A negative duration in surrounding space, and a sum that is rounded down to the greatest
decimal. -/
theorem duration_reading_limits :
    (∃ d, read .duration "\t-P1Y13MT60M0.25S\n" .empty = .ok (.duration d) ∧
      d.yearMonth.months = -25 ∧ d.dayTime.seconds.toRat = -(3600 + 1 / 4)) ∧
    ∃ v, read .duration "PT1M79228162514264337593543950275.49S" .empty = .ok v := by
  constructor
  · let one : DigitRun := ⟨['1'], by decide, by decide⟩
    let l : DurationLiteral := ⟨true, some one, some ⟨['1', '3'], by decide, by decide⟩, none, none,
      some ⟨['6', '0'], by decide, by decide⟩,
      some ⟨⟨['0'], by decide, by decide⟩, some ⟨['2', '5'], by decide, by decide⟩⟩, rfl⟩
    have hreads := duration_reading "\t-P1Y13MT60M0.25S\n" .empty
    have hspelled : l.chars = (collapse "\t-P1Y13MT60M0.25S\n").toList := by decide +kernel
    have hfits : l.Fits :=
      ⟨⟨by decide, by decide, by decide, by decide⟩, by decide +kernel⟩
    have hseconds : l.signedSeconds = -(3600 + 1 / 4) := by decide +kernel
    obtain ⟨v, hv⟩ := hreads.accepted.mpr ⟨l, hspelled, hfits⟩
    obtain ⟨d, rfl, hmonths, hexact⟩ := hreads.value l hspelled v hv
    refine ⟨d, hv, hmonths, ?_⟩
    rw [hexact ⟨true, 360025, 2, by decide, by decide⟩ (by decide +kernel), hseconds]
  · let l : DurationLiteral := ⟨false, none, none, none, none, some ⟨['1'], by decide, by decide⟩,
      some ⟨⟨"79228162514264337593543950275".toList, by decide, by decide⟩,
        some ⟨['4', '9'], by decide, by decide⟩⟩, rfl⟩
    refine (duration_reading "PT1M79228162514264337593543950275.49S" .empty).accepted.mpr
      ⟨l, by decide +kernel, ⟨⟨by decide, by decide, by decide, by decide⟩, by decide +kernel⟩⟩

end AtomicValue

end XPathValues
