import Mathlib.Tactic
import XPathValues.Proofs.Duration.Fields
import XPathValues.Proofs.Number.DecimalLiteral

/-!
# Duration literals

A literal has a number for some of the six fields and writes them in their order. The reader takes
a text apart into the fields of the literal that spells it, and the counts of the fields decide
whether it goes on.
-/

namespace XPathValues

open Text

/-- Digits, with a fraction behind a point if there is one. -/
structure SecondsNumber where
  whole : DigitRun
  fraction : Option DigitRun

namespace SecondsNumber

/-- The number as a decimal without a sign. -/
def body (number : SecondsNumber) : DecimalBody :=
  match number.fraction with
  | none => .whole number.whole
  | some fraction => .pointed number.whole (some fraction)

def chars (number : SecondsNumber) : List Char :=
  number.body.chars

def value (number : SecondsNumber) : ℚ :=
  number.body.value

end SecondsNumber

/-- An optional minus and six optional fields, not all of them missing. -/
structure DurationLiteral where
  negative : Bool
  years : Option DigitRun
  months : Option DigitRun
  days : Option DigitRun
  hours : Option DigitRun
  minutes : Option DigitRun
  seconds : Option SecondsNumber
  hasField : (years.isSome || months.isSome || days.isSome || hours.isSome || minutes.isSome ||
    seconds.isSome) = true

namespace DurationLiteral

open Duration

def dateFields (l : DurationLiteral) : List Char :=
  optionalField (l.years.map DigitRun.chars) 'Y' ++
    optionalField (l.months.map DigitRun.chars) 'M' ++
      optionalField (l.days.map DigitRun.chars) 'D'

def timeFields (l : DurationLiteral) : List Char :=
  optionalField (l.hours.map DigitRun.chars) 'H' ++
    optionalField (l.minutes.map DigitRun.chars) 'M' ++
      optionalField (l.seconds.map SecondsNumber.chars) 'S'

def fields (l : DurationLiteral) : List Char :=
  joinAtTime l.dateFields l.timeFields

def chars (l : DurationLiteral) : List Char :=
  (if l.negative then ['-'] else []) ++ 'P' :: l.fields

def hasYearMonth (l : DurationLiteral) : Bool :=
  l.years.isSome || l.months.isSome

def hasDayTime (l : DurationLiteral) : Bool :=
  l.days.isSome || l.hours.isSome || l.minutes.isSome || l.seconds.isSome

/-- The number of a field; a missing field counts nothing. -/
def count (digits : Option DigitRun) : ℕ :=
  (digits.map DigitRun.value).getD 0

def monthCount (l : DurationLiteral) : ℕ :=
  12 * count l.years + count l.months

/-- The seconds of the fields in front of the last one. -/
def wholeSeconds (l : DurationLiteral) : ℕ :=
  86400 * count l.days + 3600 * count l.hours + 60 * count l.minutes

def secondCount (l : DurationLiteral) : ℚ :=
  l.wholeSeconds + (l.seconds.map SecondsNumber.value).getD 0

def signedMonths (l : DurationLiteral) : ℤ :=
  withSign l.negative (l.monthCount : ℤ)

def signedSeconds (l : DurationLiteral) : ℚ :=
  withSign l.negative l.secondCount

/-- The digits of the last field on the two sides of the point. -/
def secondDigits (l : DurationLiteral) : PointedDigits :=
  (l.seconds.map fun number => number.body.sides).getD ⟨[], []⟩

theorem allDigits_secondDigits (l : DurationLiteral) : l.secondDigits.AllDigits := by
  unfold secondDigits
  cases l.seconds with
  | none => exact ⟨rfl, rfl⟩
  | some number => exact number.body.allDigits_sides

theorem secondCount_eq (l : DurationLiteral) :
    l.secondCount = l.wholeSeconds + l.secondDigits.value := by
  unfold secondCount secondDigits
  cases l.seconds with
  | none => simp [PointedDigits.value, digitsValue]
  | some number =>
    have hvalue : number.body.sides.value = number.value := number.body.value_sides
    simp [hvalue]

end DurationLiteral

namespace Duration

open DurationLiteral

variable {digits : Option DigitRun} {number : Option (List Char)} {seconds : Option SecondsNumber}

/-! ## The numbers of the fields -/

theorem isFieldNumber_digits (digits : Option DigitRun) :
    IsFieldNumber (digits.map DigitRun.chars) := by
  intro text h
  obtain ⟨run, _, rfl⟩ := Option.map_eq_some_iff.mp h
  refine ⟨run.ne_nil, fun c hc => ?_⟩
  rw [isFieldChar, run.isDigit_of_mem c hc]
  rfl

theorem isFieldNumber_seconds (seconds : Option SecondsNumber) :
    IsFieldNumber (seconds.map SecondsNumber.chars) := by
  have hdigit : ∀ run : DigitRun, ∀ c ∈ run.chars, isFieldChar c = true := fun run c hc => by
    rw [isFieldChar, run.isDigit_of_mem c hc]
    rfl
  intro text h
  obtain ⟨⟨whole, fraction⟩, _, rfl⟩ := Option.map_eq_some_iff.mp h
  cases fraction with
  | none => exact ⟨whole.ne_nil, hdigit whole⟩
  | some fraction =>
    refine ⟨by simp [SecondsNumber.chars, SecondsNumber.body, DecimalBody.chars], ?_⟩
    exact List.forall_mem_append.mpr
      ⟨hdigit whole, List.forall_mem_cons.mpr ⟨rfl, hdigit fraction⟩⟩

theorem countOf?_digits {unit n : ℕ} (hunit : 0 < unit) :
    countOf? unit (digits.map DigitRun.chars) = some n ↔
      unit * count digits ≤ maxCount ∧ n = unit * count digits := by
  cases digits with
  | none => simp [countOf?, count, eq_comm]
  | some run =>
    have hle : run.value ≤ run.value * unit := Nat.le_mul_of_pos_right run.value hunit
    have hiff : run.value ≤ maxCount ∧ run.value * unit ≤ maxCount ↔
        unit * run.value ≤ maxCount := by
      rw [Nat.mul_comm unit]
      exact and_iff_right_of_imp hle.trans
    simp [countOf?, count, hiff, Nat.mul_comm unit, eq_comm]

theorem exists_digits_of_countOf? {unit n : ℕ} (h : countOf? unit number = some n) :
    ∃ digits : Option DigitRun, digits.map DigitRun.chars = number := by
  cases number with
  | none => exact ⟨none, rfl⟩
  | some text =>
    obtain ⟨_, hwhole, _⟩ := Option.bind_eq_some_iff.mp h
    obtain ⟨run, rfl, _⟩ := wholeNumber?_eq_some_iff.mp hwhole
    exact ⟨some run, rfl⟩

theorem secondsOf?_seconds (l : DurationLiteral) :
    secondsOf? (l.seconds.map SecondsNumber.chars) = Decimal.ofDigits? false l.secondDigits := by
  unfold secondDigits
  cases l.seconds with
  | none => rfl
  | some number =>
    obtain ⟨whole, fraction⟩ := number
    cases fraction with
    | none =>
      have hcut : cutAt? (· == '.') whole.chars = none :=
        cutAt?_eq_none_iff.mpr DecimalBody.isPoint_of_mem
      simp [secondsOf?, SecondsNumber.chars, SecondsNumber.body, DecimalBody.chars,
        DecimalBody.sides, hcut, whole.digits]
    | some fraction =>
      have hcut : cutAt? (· == '.') (whole.chars ++ '.' :: fraction.chars) =
          some (whole.chars, fraction.chars) :=
        cutAt?_append_cons DecimalBody.isPoint_of_mem rfl
      simp [secondsOf?, SecondsNumber.chars, SecondsNumber.body, DecimalBody.chars,
        DecimalBody.sides, optionalDigits, hcut, whole.digits, fraction.digits]

theorem exists_seconds_of_secondsOf? {d : Decimal} (hnumber : IsFieldNumber number)
    (h : secondsOf? number = some d) :
    ∃ seconds : Option SecondsNumber, seconds.map SecondsNumber.chars = number := by
  cases number with
  | none => exact ⟨none, rfl⟩
  | some text =>
    rw [secondsOf?] at h
    split at h
    · split at h
      · next hdigits =>
        exact ⟨some ⟨⟨text, (hnumber text rfl).1, hdigits⟩, none⟩, rfl⟩
      · cases h
    · next whole fraction hcut =>
      split at h
      · cases h
      · next hdigits =>
        simp only [Bool.or_eq_true, List.isEmpty_iff, Bool.not_eq_true', not_or,
          Bool.not_eq_false] at hdigits
        obtain ⟨⟨⟨hwhole, hfraction⟩, hall⟩, hall'⟩ := hdigits
        obtain ⟨point, hpoint, _, rfl⟩ := cutAt?_eq_some hcut
        obtain rfl : point = '.' := by simpa using hpoint
        exact ⟨some ⟨⟨whole, hwhole, hall⟩, some ⟨fraction, hfraction, hall'⟩⟩, rfl⟩

/-! ## The sum of the seconds -/

section Sum

open Decimal

variable {whole : ℕ} {d sum : Decimal} {pointed : PointedDigits}

theorem maxCount_mul_three_le : 3 * maxCount ≤ maxMagnitude := by decide

theorem sumSeconds?_eq_ofRat? (hwhole : whole ≤ maxMagnitude) :
    Fields.sumSeconds? whole d = ofRat? (whole + d.toRat) := by
  have hcount : ofInt? (whole : ℤ) = some (Decimal.ofNat whole hwhole) := by
    have hnonneg : ¬ (whole : ℤ) < 0 := by omega
    simp [ofInt?, Decimal.ofParts?, hnonneg, hwhole, Decimal.ofNat]
  rw [Fields.sumSeconds?, hcount, Option.bind_eq_bind, Option.bind_some, Decimal.add?, toRat_ofNat]

theorem sumSeconds?_eq (hwhole : whole ≤ maxMagnitude)
    (h : (whole : ℚ) + d.toRat = sum.toRat) :
    Fields.sumSeconds? whole d = some sum.normalize := by
  rw [sumSeconds?_eq_ofRat? hwhole, h, ofRat?_toRat]

/-- A sum that a decimal has leaves nothing to be rounded, neither in the last field nor in all. -/
theorem sum_of_exact (h : pointed.AllDigits) (hwhole : whole ≤ 3 * maxCount)
    (hvalue : (whole : ℚ) + pointed.value = sum.toRat) :
    (ofDigits? false pointed).bind (Fields.sumSeconds? whole) = some sum.normalize := by
  have hnonneg := pointed.value_nonneg
  have hcast : (0 : ℚ) ≤ whole := Nat.cast_nonneg whole
  have hmagnitude : sum.toRat = (sum.magnitude : ℚ) / 10 ^ sum.scale := by
    rw [← abs_toRat, abs_of_nonneg (by linarith)]
  have hpow : (0 : ℚ) < 10 ^ sum.scale := by positivity
  have hle : whole * 10 ^ sum.scale ≤ sum.magnitude := by
    have hscaled : (whole : ℚ) * 10 ^ sum.scale ≤ sum.magnitude := by
      rw [← le_div_iff₀ hpow, ← hmagnitude]
      linarith
    exact_mod_cast hscaled
  have hdigits :
      pointed.value = ((sum.magnitude - whole * 10 ^ sum.scale : ℕ) : ℚ) / 10 ^ sum.scale := by
    rw [Nat.cast_sub hle, sub_div, ← hmagnitude]
    push_cast
    rw [mul_div_cancel_right₀ _ hpow.ne']
    linarith
  have hsmall := (Nat.sub_le sum.magnitude (whole * 10 ^ sum.scale)).trans sum.magnitude_le
  obtain ⟨d, hd, hrat⟩ := ofDigits?_of_exact false h sum.scale_le hsmall hdigits
  have htotal : (whole : ℚ) + d.toRat = sum.toRat := by
    rw [hrat, ← hvalue]
    rfl
  rw [hd, Option.bind_some, sumSeconds?_eq (hwhole.trans maxCount_mul_three_le) htotal]

end Sum

end Duration

namespace DurationLiteral

open Duration

variable {l : DurationLiteral} {f : Fields} {negative : Bool} {text : List Char}

/-! ## All fields -/

theorem readDate_eq (l : DurationLiteral) :
    readFields? 'Y' 'M' 'D' l.dateFields = some
      (l.years.map DigitRun.chars, l.months.map DigitRun.chars, l.days.map DigitRun.chars) :=
  readFields?_optionalFields (isFieldNumber_digits _) (isFieldNumber_digits _)
    (isFieldNumber_digits _) rfl rfl rfl (by decide)

theorem readTime_eq (l : DurationLiteral) :
    readFields? 'H' 'M' 'S' l.timeFields = some
      (l.hours.map DigitRun.chars, l.minutes.map DigitRun.chars,
        l.seconds.map SecondsNumber.chars) :=
  readFields?_optionalFields (isFieldNumber_digits _) (isFieldNumber_digits _)
    (isFieldNumber_seconds _) rfl rfl rfl (by decide)

theorem mem_dateFields (l : DurationLiteral) {c : Char} (h : c ∈ l.dateFields) :
    isFieldChar c = true ∨ c = 'Y' ∨ c = 'M' ∨ c = 'D' :=
  mem_optionalFields (isFieldNumber_digits _) (isFieldNumber_digits _) (isFieldNumber_digits _) h

theorem mem_fields (l : DurationLiteral) {c : Char} (h : c ∈ l.fields) :
    isFieldChar c = true ∨ c ∈ ['Y', 'M', 'D', 'T', 'H', 'S'] := by
  rcases List.mem_append.mp h with h | h
  · rcases l.mem_dateFields h with hchar | rfl | rfl | rfl
    · exact Or.inl hchar
    all_goals simp
  · split at h
    · cases h
    · rcases List.mem_cons.mp h with rfl | h
      · simp
      · rcases mem_optionalFields (isFieldNumber_digits _) (isFieldNumber_digits _)
          (isFieldNumber_seconds _) h with hchar | rfl | rfl | rfl
        · exact Or.inl hchar
        all_goals simp

theorem fields_ne_nil (l : DurationLiteral) : l.fields ≠ [] := by
  have hnone : ∀ {α : Type} {field : Option α} {f : α → List Char} {letter : Char},
      optionalField (field.map f) letter = [] → field.isSome = false := by
    intro α field f letter hempty
    rw [Option.isSome_eq_false_iff, Option.isNone_iff_eq_none]
    exact Option.map_eq_none_iff.mp (optionalField_eq_nil hempty)
  intro h
  have hfield := l.hasField
  obtain ⟨hdate, htime⟩ := List.append_eq_nil_iff.mp h
  obtain ⟨hdate, hdays⟩ := List.append_eq_nil_iff.mp hdate
  obtain ⟨hyears, hmonths⟩ := List.append_eq_nil_iff.mp hdate
  have htimeFields : l.timeFields = [] := by
    split at htime
    · next hempty => exact List.isEmpty_iff.mp hempty
    · cases htime
  obtain ⟨htime, hseconds⟩ := List.append_eq_nil_iff.mp htimeFields
  obtain ⟨hhours, hminutes⟩ := List.append_eq_nil_iff.mp htime
  rw [hnone hyears, hnone hmonths, hnone hdays, hnone hhours, hnone hminutes, hnone hseconds]
    at hfield
  cases hfield

theorem splitAtTime?_fields (l : DurationLiteral) :
    Fields.splitAtTime? l.fields = some (l.dateFields, l.timeFields) := by
  refine splitAtTime?_eq_some_iff.mpr ⟨fun hmem => ?_, l.fields_ne_nil, rfl⟩
  exact absurd (l.mem_dateFields hmem) (by decide)

/-- Every count has 64 bits, and then so have the numbers that it is made of. -/
structure FitsCounts (l : DurationLiteral) : Prop where
  months : l.monthCount ≤ maxCount
  days : 86400 * count l.days ≤ maxCount
  hours : 3600 * count l.hours ≤ maxCount
  minutes : 60 * count l.minutes ≤ maxCount

theorem FitsCounts.wholeSeconds_le (h : l.FitsCounts) : l.wholeSeconds ≤ 3 * maxCount := by
  have hdays := h.days
  have hhours := h.hours
  have hminutes := h.minutes
  unfold wholeSeconds
  omega

/-- What the fields of the literal add up to. -/
structure SumsTo (l : DurationLiteral) (f : Fields) : Prop where
  negative : f.negative = l.negative
  months : f.months = l.monthCount
  seconds : (Decimal.ofDigits? false l.secondDigits).bind (Fields.sumSeconds? l.wholeSeconds) =
    some f.seconds
  hasYearMonth : f.hasYearMonth = l.hasYearMonth
  hasDayTime : f.hasDayTime = l.hasDayTime

theorem readBody?_fields_of_sumsTo (hcounts : l.FitsCounts) (h : l.SumsTo f) :
    Fields.readBody? l.negative l.fields = some f := by
  obtain ⟨seconds, hseconds, htotal⟩ := Option.bind_eq_some_iff.mp h.seconds
  have hmonthCount : 12 * count l.years + 1 * count l.months = l.monthCount := by
    rw [Nat.one_mul, monthCount]
  have hmonths := hcounts.months
  unfold monthCount at hmonths
  refine Option.bind_eq_some_iff.mpr ⟨_, l.splitAtTime?_fields, ?_⟩
  refine Option.bind_eq_some_iff.mpr ⟨_, l.readDate_eq, ?_⟩
  refine Option.bind_eq_some_iff.mpr ⟨_, l.readTime_eq, ?_⟩
  refine Option.bind_eq_some_iff.mpr
    ⟨_, (countOf?_digits (by decide)).mpr ⟨by omega, rfl⟩, ?_⟩
  refine Option.bind_eq_some_iff.mpr
    ⟨_, (countOf?_digits (by decide)).mpr ⟨by omega, rfl⟩, ?_⟩
  refine Option.bind_eq_some_iff.mpr
    ⟨_, (countOf?_digits (by decide)).mpr ⟨hcounts.days, rfl⟩, ?_⟩
  refine Option.bind_eq_some_iff.mpr
    ⟨_, (countOf?_digits (by decide)).mpr ⟨hcounts.hours, rfl⟩, ?_⟩
  refine Option.bind_eq_some_iff.mpr
    ⟨_, (countOf?_digits (by decide)).mpr ⟨hcounts.minutes, rfl⟩, ?_⟩
  refine Option.bind_eq_some_iff.mpr ⟨seconds, (secondsOf?_seconds l).trans hseconds, ?_⟩
  refine Option.bind_eq_some_iff.mpr ⟨f.seconds, htotal, ?_⟩
  simp only [hmonthCount, Option.isSome_map]
  rw [if_pos hcounts.months, ← h.negative, ← h.months, ← hasYearMonth, ← hasDayTime,
    ← h.hasYearMonth, ← h.hasDayTime]

theorem sumsTo_of_readBody?_fields (h : Fields.readBody? l.negative l.fields = some f) :
    l.FitsCounts ∧ l.SumsTo f := by
  rw [Fields.readBody?] at h
  simp only [l.splitAtTime?_fields, l.readDate_eq, l.readTime_eq, secondsOf?_seconds,
    Option.bind_eq_bind, Option.bind_some, Option.isSome_map] at h
  obtain ⟨_, hyears, h⟩ := Option.bind_eq_some_iff.mp h
  obtain ⟨_, hmonths, h⟩ := Option.bind_eq_some_iff.mp h
  obtain ⟨_, hdays, h⟩ := Option.bind_eq_some_iff.mp h
  obtain ⟨_, hhours, h⟩ := Option.bind_eq_some_iff.mp h
  obtain ⟨_, hminutes, h⟩ := Option.bind_eq_some_iff.mp h
  obtain ⟨seconds, hseconds, h⟩ := Option.bind_eq_some_iff.mp h
  obtain ⟨total, htotal, hlimit⟩ := Option.bind_eq_some_iff.mp h
  obtain ⟨_, rfl⟩ := (countOf?_digits (by decide)).mp hyears
  obtain ⟨_, rfl⟩ := (countOf?_digits (by decide)).mp hmonths
  obtain ⟨hdayCount, rfl⟩ := (countOf?_digits (by decide)).mp hdays
  obtain ⟨hhourCount, rfl⟩ := (countOf?_digits (by decide)).mp hhours
  obtain ⟨hminuteCount, rfl⟩ := (countOf?_digits (by decide)).mp hminutes
  rw [Nat.one_mul] at hlimit
  split at hlimit
  · next hmonthCount =>
    obtain rfl := Option.some.inj hlimit
    exact ⟨⟨hmonthCount, hdayCount, hhourCount, hminuteCount⟩, rfl, rfl,
      Option.bind_eq_some_iff.mpr ⟨seconds, hseconds, htotal⟩, rfl, rfl⟩
  · cases hlimit

theorem exists_of_readBody? (h : Fields.readBody? negative text = some f) :
    ∃ l : DurationLiteral, l.negative = negative ∧ l.fields = text := by
  obtain ⟨⟨before, after⟩, hsplit, h⟩ := Option.bind_eq_some_iff.mp h
  obtain ⟨⟨years, months, days⟩, hdate, h⟩ := Option.bind_eq_some_iff.mp h
  obtain ⟨⟨hours, minutes, seconds⟩, htime, h⟩ := Option.bind_eq_some_iff.mp h
  obtain ⟨_, hyears, h⟩ := Option.bind_eq_some_iff.mp h
  obtain ⟨_, hmonths, h⟩ := Option.bind_eq_some_iff.mp h
  obtain ⟨_, hdays, h⟩ := Option.bind_eq_some_iff.mp h
  obtain ⟨_, hhours, h⟩ := Option.bind_eq_some_iff.mp h
  obtain ⟨_, hminutes, h⟩ := Option.bind_eq_some_iff.mp h
  obtain ⟨_, hseconds, _⟩ := Option.bind_eq_some_iff.mp h
  obtain ⟨_, hne, hjoin⟩ := splitAtTime?_eq_some_iff.mp hsplit
  obtain ⟨rfl, _, _, _⟩ := eq_of_readFields? hdate
  obtain ⟨rfl, _, _, hnumber⟩ := eq_of_readFields? htime
  obtain ⟨years, rfl⟩ := exists_digits_of_countOf? hyears
  obtain ⟨months, rfl⟩ := exists_digits_of_countOf? hmonths
  obtain ⟨days, rfl⟩ := exists_digits_of_countOf? hdays
  obtain ⟨hours, rfl⟩ := exists_digits_of_countOf? hhours
  obtain ⟨minutes, rfl⟩ := exists_digits_of_countOf? hminutes
  obtain ⟨seconds, rfl⟩ := exists_seconds_of_secondsOf? hnumber hseconds
  have hfield : (years.isSome || months.isSome || days.isSome || hours.isSome || minutes.isSome ||
      seconds.isSome) = true := by
    by_contra hmissing
    simp only [Bool.or_eq_true, not_or, Bool.not_eq_true, Option.isSome_eq_false_iff,
      Option.isNone_iff_eq_none] at hmissing
    obtain ⟨⟨⟨⟨⟨rfl, rfl⟩, rfl⟩, rfl⟩, rfl⟩, rfl⟩ := hmissing
    exact hne hjoin.symm
  exact ⟨⟨negative, years, months, days, hours, minutes, seconds, hfield⟩, rfl, hjoin⟩

theorem read?_chars (l : DurationLiteral) :
    Fields.read? l.chars = Fields.readBody? l.negative l.fields := by
  unfold chars
  cases l.negative <;> rfl

/-- The fields of a literal are read when its counts fit and its seconds have a sum. -/
theorem read?_chars_eq_some_iff :
    Fields.read? l.chars = some f ↔ l.FitsCounts ∧ l.SumsTo f := by
  rw [read?_chars]
  exact ⟨sumsTo_of_readBody?_fields, fun h => readBody?_fields_of_sumsTo h.1 h.2⟩

theorem exists_of_read? (h : Fields.read? text = some f) :
    ∃ l : DurationLiteral, l.chars = text := by
  unfold Fields.read? at h
  split at h
  · obtain ⟨l, hnegative, rfl⟩ := exists_of_readBody? h
    exact ⟨l, by rw [chars, hnegative]; rfl⟩
  · obtain ⟨l, hnegative, rfl⟩ := exists_of_readBody? h
    exact ⟨l, by rw [chars, hnegative]; rfl⟩
  · cases h

end DurationLiteral

end XPathValues
