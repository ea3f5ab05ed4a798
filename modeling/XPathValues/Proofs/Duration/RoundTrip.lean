import Mathlib.Tactic
import XPathValues.Proofs.Duration.Body
import XPathValues.Proofs.Value.Reading

/-!
# Reading a written duration

A written duration is read back as the same value exactly when no quotient rounds up, the whole
days fit into 64 bits as seconds, and the months are not the most negative count. It is never read
as another value.
-/

namespace XPathValues

open Decimal Text

namespace Duration

variable {d : Duration}

/-- The text of the duration is in the lexical space. -/
def IsReadable (d : Duration) : Prop :=
  ReadsBack d.yearMonth.months.natAbs |d.dayTime.seconds.toRat|

instance (d : Duration) : Decidable d.IsReadable :=
  inferInstanceAs (Decidable (ReadsBack _ _))

def isNegative (d : Duration) : Bool :=
  decide (d.yearMonth.months < 0) || (d.dayTime.seconds.negative && !d.dayTime.seconds.isZero)

theorem negative_and_not_isZero (d : Decimal) :
    (d.negative && !d.isZero) = decide (d.toRat < 0) := by
  rw [Bool.eq_iff_iff, Bool.and_eq_true, Bool.not_eq_true', decide_eq_true_eq,
    isZero_eq_false_iff]
  constructor
  · rintro ⟨hnegative, hne⟩
    exact (negative_iff hne).mp hnegative
  · intro hlt
    exact ⟨(negative_iff hlt.ne).mpr hlt, hlt.ne⟩

theorem isNegative_eq (d : Duration) :
    d.isNegative = decide (d.yearMonth.months < 0 ∨ d.dayTime.seconds.toRat < 0) := by
  rw [isNegative, negative_and_not_isZero, Bool.decide_or]

theorem months_eq (d : Duration) :
    d.yearMonth.months =
      if d.isNegative then -(d.yearMonth.months.natAbs : ℤ) else d.yearMonth.months.natAbs := by
  have hagree := d.agree
  rw [isNegative_eq]
  by_cases h : d.yearMonth.months < 0 ∨ d.dayTime.seconds.toRat < 0
  · have hle : d.yearMonth.months ≤ 0 := by
      rcases h with h | h
      · exact h.le
      · exact not_lt.mp fun hpos => hagree.2 ⟨hpos, h⟩
    rw [decide_eq_true h, if_pos rfl]
    omega
  · rw [decide_eq_false h, if_neg (by decide)]
    omega

theorem seconds_eq (d : Duration) :
    d.dayTime.seconds.toRat =
      if d.isNegative then -|d.dayTime.seconds.toRat| else |d.dayTime.seconds.toRat| := by
  have hagree := d.agree
  rw [isNegative_eq]
  by_cases h : d.yearMonth.months < 0 ∨ d.dayTime.seconds.toRat < 0
  · have hle : d.dayTime.seconds.toRat ≤ 0 := by
      rcases h with h | h
      · exact not_lt.mp fun hpos => hagree.1 ⟨h, hpos⟩
      · exact h.le
    rw [decide_eq_true h, if_pos rfl, abs_of_nonpos hle, neg_neg]
  · rw [decide_eq_false h, if_neg (by decide), abs_of_nonneg (not_lt.mp (not_or.mp h).2)]

/-- Nothing but a zero text is written for a duration of no length. -/
def IsNil (d : Duration) : Prop :=
  d.yearMonth.months = 0 ∧ d.dayTime.seconds.toRat = 0

/-- What a written duration is read as. -/
structure Denotes (fields : Fields) (d : Duration) : Prop where
  yearMonth : fields.yearMonth? = some d.yearMonth
  dayTime : fields.dayTime.seconds.toRat = d.dayTime.seconds.toRat
  hasYearMonth : fields.hasYearMonth = decide (d.yearMonth.months ≠ 0)
  hasDayTime : fields.hasDayTime = decide (d.dayTime.seconds.toRat ≠ 0)

theorem componentChars_of_nil (h : d.IsNil) (ofZero : String) :
    componentChars d.yearMonth.months d.dayTime.seconds ofZero = ofZero.toList := by
  rw [componentChars, if_pos (by simp [h.1, isZero_iff.mpr h.2])]

theorem componentChars_of_not_nil (h : ¬ d.IsNil) (ofZero : String) :
    componentChars d.yearMonth.months d.dayTime.seconds ofZero =
      (if d.isNegative then ['-'] else []) ++ 'P' ::
        (monthFields d.yearMonth.months.natAbs ++ secondFields d.dayTime.seconds.abs) := by
  have hzero : ¬ (decide (d.yearMonth.months = 0) && d.dayTime.seconds.isZero) = true := by
    rw [Bool.and_eq_true, decide_eq_true_eq, isZero_iff]
    exact h
  have hsign : (decide (d.yearMonth.months < 0) ||
      (d.dayTime.seconds.negative && !d.dayTime.seconds.isZero)) = d.isNegative := rfl
  rw [componentChars, if_neg hzero, hsign, List.append_assoc, List.cons_append]

theorem read?_componentChars (h : ¬ d.IsNil) (ofZero : String) :
    Fields.read? (componentChars d.yearMonth.months d.dayTime.seconds ofZero) =
      Fields.readBody? d.isNegative
        (monthFields d.yearMonth.months.natAbs ++ secondFields d.dayTime.seconds.abs) := by
  rw [componentChars_of_not_nil h]
  cases d.isNegative <;> rfl

theorem readBody?_eq (h : ¬ d.IsNil) :
    Fields.readBody? d.isNegative
      (monthFields d.yearMonth.months.natAbs ++ secondFields d.dayTime.seconds.abs) =
        if d.IsReadable then
          some ⟨d.isNegative, d.yearMonth.months.natAbs, d.dayTime.seconds.abs.normalize,
            decide (d.yearMonth.months ≠ 0), decide (d.dayTime.seconds.toRat ≠ 0)⟩
        else none := by
  have hne : d.yearMonth.months.natAbs ≠ 0 ∨ d.dayTime.seconds.abs.toRat ≠ 0 := by
    rw [toRat_abs, abs_ne_zero, Int.natAbs_ne_zero]
    exact not_and_or.mp h
  have hback : ReadsBack d.yearMonth.months.natAbs d.dayTime.seconds.abs.toRat ↔ d.IsReadable := by
    rw [toRat_abs, IsReadable]
  have hmonths : decide (d.yearMonth.months.natAbs ≠ 0) = decide (d.yearMonth.months ≠ 0) :=
    decide_eq_decide.mpr Int.natAbs_ne_zero
  have hseconds : decide (d.dayTime.seconds.abs.toRat ≠ 0) =
      decide (d.dayTime.seconds.toRat ≠ 0) :=
    decide_eq_decide.mpr (by rw [toRat_abs, abs_ne_zero])
  rw [readBody?_written (by rw [toRat_abs]; exact abs_nonneg _) hne, hmonths, hseconds]
  exact if_congr hback rfl rfl

/-- A duration of some length is read back exactly when its text is in the lexical space. -/
theorem exists_denotes (h : ¬ d.IsNil) (hreadable : d.IsReadable) (ofZero : String) :
    ∃ fields, Fields.read? (componentChars d.yearMonth.months d.dayTime.seconds ofZero) =
      some fields ∧ Denotes fields d := by
  refine ⟨_, by rw [read?_componentChars h, readBody?_eq h, if_pos hreadable], ?_, ?_, rfl, rfl⟩
  · rw [Fields.yearMonth?, YearMonthDuration.ofMonths?_eq_some_iff]
    exact d.months_eq
  · have hseconds := d.seconds_eq
    simp only [Fields.dayTime]
    split_ifs at hseconds ⊢ <;> simp [toRat_abs, ← hseconds]

theorem read?_eq_none (hreadable : ¬ d.IsReadable) (h : ¬ d.IsNil) (ofZero : String) :
    Fields.read? (componentChars d.yearMonth.months d.dayTime.seconds ofZero) = none := by
  rw [read?_componentChars h, readBody?_eq h, if_neg hreadable]

theorem IsNil.isReadable (h : d.IsNil) : d.IsReadable := by
  rw [IsReadable, h.1, h.2]
  decide +kernel

theorem not_isSpace_fieldChars {letter : Char} (hletter : isSpace letter = false) (x : Decimal) :
    ∀ c ∈ fieldChars x letter, isSpace c = false := by
  unfold fieldChars
  split
  · simp
  · refine List.forall_mem_append.mpr ⟨fun c hc => ?_, by simpa using hletter⟩
    rcases mem_toChars hc with hc | rfl | rfl
    · exact isSpace_of_isDigit hc
    · rfl
    · rfl

theorem not_isSpace_monthFields (months : ℕ) : ∀ c ∈ monthFields months, isSpace c = false := by
  have hdigits : ∀ n, ∀ c ∈ Nat.toDigits 10 n, isSpace c = false := fun n c hc =>
    isSpace_of_isDigit (allDigits_iff.mp (allDigits_toDigits n) c hc)
  unfold monthFields
  refine List.forall_mem_append.mpr ⟨?_, ?_⟩
  · split
    · simp
    · exact List.forall_mem_append.mpr ⟨hdigits _, by simp [isSpace]⟩
  · split
    · simp
    · exact List.forall_mem_append.mpr ⟨hdigits _, by simp [isSpace]⟩

theorem not_isSpace_secondFields (x : Decimal) : ∀ c ∈ secondFields x, isSpace c = false := by
  have hfield : ∀ (y : Decimal) (letter : Char), isSpace letter = false →
      ∀ c ∈ fieldChars y letter, isSpace c = false := fun y _ h => not_isSpace_fieldChars h y
  unfold secondFields
  dsimp only
  refine List.forall_mem_append.mpr ⟨hfield _ _ rfl, ?_⟩
  split
  · simp
  · refine List.forall_mem_cons.mpr ⟨rfl, ?_⟩
    refine List.forall_mem_append.mpr ⟨List.forall_mem_append.mpr ⟨?_, ?_⟩, ?_⟩
    all_goals exact hfield _ _ rfl

theorem not_isSpace_componentChars (months : ℤ) (x : Decimal) {ofZero : String}
    (hzero : ∀ c ∈ ofZero.toList, isSpace c = false) :
    ∀ c ∈ componentChars months x ofZero, isSpace c = false := by
  unfold componentChars
  split
  · exact hzero
  · refine List.forall_mem_append.mpr ⟨List.forall_mem_append.mpr ⟨?_, ?_⟩, ?_⟩
    · split <;> simp [isSpace]
    · exact List.forall_mem_cons.mpr ⟨rfl, not_isSpace_monthFields _⟩
    · exact not_isSpace_secondFields _

theorem Denotes.ofParts? {fields : Fields} (h : Denotes fields d) :
    ∃ e, ofParts? d.yearMonth fields.dayTime = some e ∧ d.equalValue e = true := by
  have hagree : Agree d.yearMonth fields.dayTime := by
    rw [Agree, h.dayTime]
    exact d.agree
  exact ⟨⟨d.yearMonth, fields.dayTime, hagree⟩, dif_pos hagree,
    equalValue_iff.mpr ⟨rfl, h.dayTime.symm⟩⟩

theorem read?_of_isReadable (h : d.IsReadable) :
    ∃ e, read? (componentChars d.yearMonth.months d.dayTime.seconds "PT0S") = some e ∧
      d.equalValue e = true := by
  by_cases hnil : d.IsNil
  · rw [componentChars_of_nil hnil]
    refine ⟨⟨.zero, .zero, agree_zero_months _⟩, by decide +kernel, ?_⟩
    simp [equalValue_iff, hnil.1, hnil.2, YearMonthDuration.zero, DayTimeDuration.zero]
  · obtain ⟨fields, hread, hdenotes⟩ := exists_denotes hnil h "PT0S"
    obtain ⟨e, he, hequal⟩ := hdenotes.ofParts?
    refine ⟨e, Option.bind_eq_some_iff.mpr ⟨fields, hread, ?_⟩, hequal⟩
    exact Option.bind_eq_some_iff.mpr ⟨d.yearMonth, hdenotes.yearMonth, he⟩

theorem read?_of_not_isReadable (h : ¬ d.IsReadable) :
    read? (componentChars d.yearMonth.months d.dayTime.seconds "PT0S") = none := by
  rw [read?, read?_eq_none h fun hnil => h hnil.isReadable]
  rfl

end Duration

namespace YearMonthDuration

variable {d : YearMonthDuration}

theorem read?_of_isReadable (h : (Duration.ofYearMonth d).IsReadable) :
    read? (Duration.componentChars d.months .zero "P0M") = some d := by
  by_cases hnil : (Duration.ofYearMonth d).IsNil
  · obtain rfl : d = zero := by
      obtain ⟨months, _⟩ := d
      obtain rfl : months = 0 := hnil.1
      rfl
    decide +kernel
  · obtain ⟨fields, hread, hdenotes⟩ := Duration.exists_denotes hnil h "P0M"
    have htime : fields.hasDayTime = false := by
      rw [hdenotes.hasDayTime]
      simp [Duration.ofYearMonth, DayTimeDuration.zero]
    refine Option.bind_eq_some_iff.mpr ⟨fields, hread, ?_⟩
    rw [htime]
    exact hdenotes.yearMonth

theorem read?_of_not_isReadable (h : ¬ (Duration.ofYearMonth d).IsReadable) :
    read? (Duration.componentChars d.months .zero "P0M") = none := by
  have hnone : Duration.Fields.read? (Duration.componentChars d.months .zero "P0M") = none :=
    Duration.read?_eq_none h (fun hnil => h hnil.isReadable) "P0M"
  rw [read?, hnone]
  rfl

end YearMonthDuration

namespace DayTimeDuration

variable {d : DayTimeDuration}

theorem read?_of_isReadable (h : (Duration.ofDayTime d).IsReadable) :
    ∃ e, read? (Duration.componentChars 0 d.seconds "PT0S") = some e ∧
      d.seconds.equalValue e.seconds = true := by
  by_cases hnil : (Duration.ofDayTime d).IsNil
  · have hchars : Duration.componentChars 0 d.seconds "PT0S" = "PT0S".toList :=
      Duration.componentChars_of_nil hnil "PT0S"
    have hzero : d.seconds.toRat = 0 := hnil.2
    rw [hchars]
    exact ⟨.zero, by decide +kernel, by simp [Decimal.equalValue, hzero, zero]⟩
  · obtain ⟨fields, hread, hdenotes⟩ := Duration.exists_denotes hnil h "PT0S"
    have hmonth : fields.hasYearMonth = false := by
      rw [hdenotes.hasYearMonth]
      rfl
    refine ⟨fields.dayTime, Option.bind_eq_some_iff.mpr ⟨fields, hread, ?_⟩, ?_⟩
    · rw [hmonth]
      rfl
    · rw [Decimal.equalValue, hdenotes.dayTime]
      exact decide_eq_true rfl

theorem read?_of_not_isReadable (h : ¬ (Duration.ofDayTime d).IsReadable) :
    read? (Duration.componentChars 0 d.seconds "PT0S") = none := by
  have hnone : Duration.Fields.read? (Duration.componentChars 0 d.seconds "PT0S") = none :=
    Duration.read?_eq_none h (fun hnil => h hnil.isReadable) "PT0S"
  rw [read?, hnone]
  rfl

end DayTimeDuration

namespace AtomicValue

variable {v : AtomicValue} {d : Duration}

theorem read_duration (x : Duration) (bindings : Bindings) :
    read .duration x.toText bindings = orInvalid .duration x.toText
      (Duration.read? (Duration.componentChars x.yearMonth.months x.dayTime.seconds "PT0S"))
      duration :=
  read_ofList (fun _ => rfl) (Duration.not_isSpace_componentChars _ _ (by simp [isSpace]))

theorem read_yearMonthDuration (x : YearMonthDuration) (bindings : Bindings) :
    read .yearMonthDuration x.toText bindings = orInvalid .yearMonthDuration x.toText
      (YearMonthDuration.read? (Duration.componentChars x.months .zero "P0M"))
      yearMonthDuration :=
  read_ofList (fun _ => rfl) (Duration.not_isSpace_componentChars _ _ (by simp [isSpace]))

theorem read_dayTimeDuration (x : DayTimeDuration) (bindings : Bindings) :
    read .dayTimeDuration x.toText bindings = orInvalid .dayTimeDuration x.toText
      (DayTimeDuration.read? (Duration.componentChars 0 x.seconds "PT0S")) dayTimeDuration :=
  read_ofList (fun _ => rfl) (Duration.not_isSpace_componentChars _ _ (by simp [isSpace]))

/-- A duration is read back from its text as an equal value, or its text is not read at all. -/
theorem read_durationText (h : v.asDuration? = some d) (bindings : Bindings) :
    (d.IsReadable → ∃ w, read v.kind v.text bindings = .ok w ∧ v.sameAs w = true) ∧
      (¬ d.IsReadable →
        read v.kind v.text bindings = .error (.invalidLexical v.kind v.text)) := by
  cases v
  case duration x =>
    obtain rfl : x = d := Option.some.inj h
    rw [kind, text, read_duration]
    exact orInvalid_iff Duration.read?_of_isReadable Duration.read?_of_not_isReadable
  case yearMonthDuration x =>
    obtain rfl : Duration.ofYearMonth x = d := Option.some.inj h
    rw [kind, text, read_yearMonthDuration]
    refine orInvalid_iff (fun hreadable => ?_) YearMonthDuration.read?_of_not_isReadable
    exact ⟨x, YearMonthDuration.read?_of_isReadable hreadable, by simp [sameAs]⟩
  case dayTimeDuration x =>
    obtain rfl : Duration.ofDayTime x = d := Option.some.inj h
    rw [kind, text, read_dayTimeDuration]
    exact orInvalid_iff DayTimeDuration.read?_of_isReadable DayTimeDuration.read?_of_not_isReadable
  all_goals cases h

/-- A minute less the last of twenty-eight digits. -/
def almostMinute : DayTimeDuration :=
  ⟨false, 59999999999999999999999999999, 27, by decide, by decide⟩

/-- A day and a second are read back, the time just short of a minute is not. -/
theorem read_durationText_seconds :
    (∃ w, read .dayTimeDuration (dayTimeDuration ⟨.ofNat 86401⟩).text .empty = .ok w ∧
      (dayTimeDuration ⟨.ofNat 86401⟩).sameAs w = true) ∧
    (dayTimeDuration almostMinute).text = "PT1M-0.000000000000000000000000001S" ∧
    read .dayTimeDuration (dayTimeDuration almostMinute).text .empty =
      .error (.invalidLexical .dayTimeDuration (dayTimeDuration almostMinute).text) :=
  ⟨(read_durationText (v := dayTimeDuration ⟨.ofNat 86401⟩) rfl .empty).1 (by decide +kernel),
    by decide +kernel,
    (read_durationText (v := dayTimeDuration almostMinute) rfl .empty).2 (by decide +kernel)⟩

end AtomicValue

end XPathValues
