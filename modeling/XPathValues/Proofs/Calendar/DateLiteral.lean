import Mathlib.Tactic
import XPathValues.Proofs.Calendar.Parts
import XPathValues.Proofs.Text.Literal

/-!
# Date literals

Years and pairs of digits are the pieces that the lexical forms of dates are put together from. Each
reader takes the texts that its literal spells, and finds what the literal denotes.
-/

namespace XPathValues

open Text Calendar Timezone

variable {text rest : List Char} {year : ℤ} {month day n : ℕ}

/-- At least four digits, of which the first is a zero only to fill up four. The year 0 has no
literal. -/
structure YearLiteral where
  negative : Bool
  digits : DigitRun
  four_le : 4 ≤ digits.chars.length
  head_ne_zero : 4 < digits.chars.length → digits.chars.head? ≠ some '0'
  digits_ne_zero : digits.value ≠ 0

namespace YearLiteral

def chars (l : YearLiteral) : List Char :=
  (if l.negative then ['-'] else []) ++ l.digits.chars

def value (l : YearLiteral) : ℤ :=
  withSign l.negative (l.digits.value : ℤ)

theorem value_ne_zero (l : YearLiteral) : l.value ≠ 0 := by
  have hne : (l.digits.value : ℤ) ≠ 0 := Int.natCast_ne_zero.mpr l.digits_ne_zero
  unfold value withSign
  split
  · exact neg_ne_zero.mpr hne
  · exact hne

theorem isDateChar_chars (l : YearLiteral) : ∀ c ∈ l.chars, IsDateChar c := by
  intro c hc
  rcases List.mem_append.mp hc with hc | hc
  · split at hc
    · exact Or.inr (List.mem_singleton.mp hc)
    · cases hc
  · exact Or.inl (l.digits.isDigit_of_mem c hc)

end YearLiteral

namespace Calendar

theorem endsDigits_dropWhile (body : List Char) : EndsDigits (body.dropWhile Char.isDigit) := by
  intro c hc
  have hhead := List.head?_dropWhile_not Char.isDigit body
  rw [hc] at hhead
  exact hhead

theorem readYearDigits?_eq_some_iff {negative : Bool} {body : List Char} :
    readYearDigits? negative body = some (year, rest) ↔
      ∃ l : YearLiteral, l.negative = negative ∧ l.digits.chars ++ rest = body ∧ EndsDigits rest ∧
        l.value = year := by
  constructor
  · intro h
    unfold readYearDigits? at h
    dsimp only at h
    split at h
    · cases h
    · next hdigits =>
      simp only [Bool.or_eq_true, decide_eq_true_eq, Bool.and_eq_true, beq_iff_eq, not_or,
        not_lt, not_and, Nat.cast_eq_zero] at hdigits
      obtain ⟨⟨hfour, hhead⟩, hzero⟩ := hdigits
      have hdigits : allDigits (body.takeWhile Char.isDigit) = true :=
        allDigits_iff.mpr fun c hc => List.mem_takeWhile_imp hc
      have hne : body.takeWhile Char.isDigit ≠ [] := by
        rw [← List.length_pos_iff_ne_nil]
        omega
      simp only [Option.some.injEq, Prod.mk.injEq] at h
      obtain ⟨rfl, rfl⟩ := h
      exact ⟨⟨negative, ⟨_, hne, hdigits⟩, hfour, hhead, hzero⟩, rfl,
        List.takeWhile_append_dropWhile, endsDigits_dropWhile body, rfl⟩
  · rintro ⟨l, rfl, rfl, hrest, rfl⟩
    have hshort : ¬ l.digits.chars.length < 4 := not_lt.mpr l.four_le
    have hhead :
        (decide (4 < l.digits.chars.length) && l.digits.chars.head? == some '0') = false := by
      rw [Bool.and_eq_false_iff, decide_eq_false_iff_not, beq_eq_false_iff_ne]
      exact or_iff_not_imp_left.mpr fun h => l.head_ne_zero (not_not.mp h)
    have hne : digitsValue l.digits.chars ≠ 0 := l.digits_ne_zero
    have hzero : ((digitsValue l.digits.chars : ℤ) == 0) = false := by simpa using hne
    unfold readYearDigits?
    simp only [takeWhile_isDigit_append l.digits.digits hrest,
      dropWhile_isDigit_append l.digits.digits hrest, hshort, hhead, hzero, decide_false,
      Bool.or_self, Bool.false_eq_true, if_false]
    rfl

theorem readYear?_eq_some_iff :
    readYear? text = some (year, rest) ↔
      ∃ l : YearLiteral, l.chars ++ rest = text ∧ EndsDigits rest ∧ l.value = year := by
  constructor
  · intro h
    have hcases : ∃ negative body, text = (if negative then ['-'] else []) ++ body ∧
        readYear? text = readYearDigits? negative body := by
      cases text with
      | nil => exact ⟨false, [], rfl, rfl⟩
      | cons c body =>
        by_cases hc : c = '-'
        · subst hc
          exact ⟨true, body, rfl, rfl⟩
        · exact ⟨false, c :: body, rfl, readYear?_of_ne_minus hc body⟩
    obtain ⟨negative, body, rfl, hread⟩ := hcases
    rw [hread, readYearDigits?_eq_some_iff] at h
    obtain ⟨l, rfl, rfl, hrest, hvalue⟩ := h
    exact ⟨l, by rw [YearLiteral.chars, List.append_assoc], hrest, hvalue⟩
  · rintro ⟨l, rfl, hrest, hvalue⟩
    have hread := readYearDigits?_eq_some_iff.mpr ⟨l, rfl, rfl, hrest, hvalue⟩
    rw [← hread, YearLiteral.chars]
    cases l.negative with
    | true => rfl
    | false =>
      obtain ⟨c, tail, hcons, hdigit⟩ := l.digits.exists_cons
      have hminus : c ≠ '-' := by
        rintro rfl
        cases hdigit
      simp only [hcons, Bool.false_eq_true, if_false, List.nil_append, List.cons_append]
      exact readYear?_of_ne_minus hminus _

end Calendar

structure MonthDayLiteral where
  month : DigitPair
  day : DigitPair

namespace MonthDayLiteral

def chars (l : MonthDayLiteral) : List Char :=
  l.month.chars ++ '-' :: l.day.chars

theorem isDateChar_chars (l : MonthDayLiteral) : ∀ c ∈ l.chars, IsDateChar c :=
  List.forall_mem_append.mpr ⟨fun c hc => Or.inl (l.month.isDigit_of_mem c hc),
    isDateChar_minus_cons fun c hc => Or.inl (l.day.isDigit_of_mem c hc)⟩

theorem readMonthDay?_eq_some_iff :
    readMonthDay? text = some (month, day) ↔
      ∃ l : MonthDayLiteral, l.chars = text ∧ l.month.value = month ∧ l.day.value = day := by
  constructor
  · intro h
    unfold readMonthDay? at h
    split at h
    · split at h
      · next hhyphen =>
        subst hhyphen
        obtain ⟨m, hm, h⟩ := Option.bind_eq_some_iff.mp h
        obtain ⟨d, hd, h⟩ := Option.bind_eq_some_iff.mp h
        obtain ⟨rfl, rfl⟩ := Prod.mk.inj (Option.some.inj h)
        obtain ⟨months, hmonths, rfl⟩ := twoDigits?_eq_some_iff.mp hm
        obtain ⟨days, hdays, rfl⟩ := twoDigits?_eq_some_iff.mp hd
        refine ⟨⟨months, days⟩, ?_, rfl, rfl⟩
        rw [chars, hmonths, hdays]
        rfl
      · cases h
    · cases h
  · rintro ⟨l, rfl, rfl, rfl⟩
    have hmonth := l.month.twoDigits?_chars
    have hday := l.day.twoDigits?_chars
    unfold DigitPair.chars at hmonth hday
    simp [chars, DigitPair.chars, readMonthDay?, hmonth, hday]

end MonthDayLiteral

structure DateLiteral where
  year : YearLiteral
  monthDay : MonthDayLiteral

namespace DateLiteral

def chars (l : DateLiteral) : List Char :=
  l.year.chars ++ '-' :: l.monthDay.chars

/-- The date has the fields of the literal, so there is such a day in the calendar. -/
structure Denotes (l : DateLiteral) (date : CalendarDate) : Prop where
  year : date.year = l.year.value
  month : date.month = l.monthDay.month.value
  day : date.day = l.monthDay.day.value

theorem isDateChar_chars (l : DateLiteral) : ∀ c ∈ l.chars, IsDateChar c :=
  List.forall_mem_append.mpr
    ⟨l.year.isDateChar_chars, isDateChar_minus_cons l.monthDay.isDateChar_chars⟩

end DateLiteral

theorem CalendarDate.read?_eq_some_iff {date : CalendarDate} :
    read? text = some date ↔ ∃ l : DateLiteral, l.chars = text ∧ l.Denotes date := by
  constructor
  · intro h
    obtain ⟨⟨year, rest⟩, hyear, h⟩ := Option.bind_eq_some_iff.mp h
    obtain ⟨years, rfl, _, rfl⟩ := readYear?_eq_some_iff.mp hyear
    dsimp only at h
    split at h
    · obtain ⟨⟨month, day⟩, hmonthDay, h⟩ := Option.bind_eq_some_iff.mp h
      obtain ⟨monthDays, rfl, rfl, rfl⟩ := MonthDayLiteral.readMonthDay?_eq_some_iff.mp hmonthDay
      obtain ⟨hyear, hmonth, hday⟩ := ofParts?_eq_some_iff.mp h
      exact ⟨⟨years, monthDays⟩, rfl, hyear, hmonth, hday⟩
    · cases h
  · rintro ⟨l, rfl, hdenotes⟩
    have hyear := readYear?_eq_some_iff.mpr
      ⟨l.year, rfl, endsDigits_minus l.monthDay.chars, rfl⟩
    have hmonthDay := MonthDayLiteral.readMonthDay?_eq_some_iff.mpr
      ⟨l.monthDay, rfl, rfl, rfl⟩
    refine Option.bind_eq_some_iff.mpr ⟨_, hyear, ?_⟩
    refine Option.bind_eq_some_iff.mpr ⟨_, hmonthDay, ?_⟩
    exact ofParts?_eq_some_iff.mpr ⟨hdenotes.year, hdenotes.month, hdenotes.day⟩

end XPathValues
