import Mathlib.Tactic
import XPathValues.Calendar.Zoned
import XPathValues.Proofs.Calendar.TimeLiteral
import XPathValues.Proofs.Calendar.ZoneSuffix

/-!
# Reading the parts of the calendar

Every part of the calendar is read back from its text, but for those in the year 0, whose text is
read by none of them. The text of a part determines the part, in that year too.
-/

namespace XPathValues

open Text Calendar Timezone

namespace Calendar

variable {text rest : List Char}

def IsDateChar (c : Char) : Prop :=
  c.isDigit = true ∨ c = '-'

theorem IsDateChar.isBodyChar {c : Char} (h : IsDateChar c) : IsBodyChar c :=
  h.imp_right Or.inl

theorem not_mem_of_isDateChar {c : Char} (hc : ¬ IsDateChar c) (h : ∀ d ∈ text, IsDateChar d) :
    c ∉ text :=
  fun hmem => hc (h c hmem)

theorem not_isDateChar_colon : ¬ IsDateChar ':' := by
  unfold IsDateChar
  decide

theorem not_isDateChar_upperT : ¬ IsDateChar 'T' := by
  unfold IsDateChar
  decide

theorem isDateChar_padded (width n : ℕ) : ∀ c ∈ padded width n, IsDateChar c :=
  fun c hc => Or.inl (allDigits_iff.mp (allDigits_padded width n) c hc)

theorem isDateChar_minus_cons (h : ∀ c ∈ text, IsDateChar c) : ∀ c ∈ '-' :: text, IsDateChar c :=
  List.forall_mem_cons.mpr ⟨Or.inr rfl, h⟩

/-- The text does not go on with a digit. -/
def EndsDigits (rest : List Char) : Prop :=
  ∀ c, rest.head? = some c → c.isDigit = false

theorem takeWhile_isDigit_append {digits : List Char} (hdigits : allDigits digits = true)
    (hrest : EndsDigits rest) : (digits ++ rest).takeWhile Char.isDigit = digits := by
  cases rest with
  | nil => rw [List.append_nil, takeWhile_of_all (allDigits_iff.mp hdigits)]
  | cons c rest => exact takeWhile_append_cons (allDigits_iff.mp hdigits) (hrest c rfl)

theorem dropWhile_isDigit_append {digits : List Char} (hdigits : allDigits digits = true)
    (hrest : EndsDigits rest) : (digits ++ rest).dropWhile Char.isDigit = rest := by
  cases rest with
  | nil => rw [List.append_nil, dropWhile_of_all (allDigits_iff.mp hdigits)]
  | cons c rest => exact dropWhile_append_cons (allDigits_iff.mp hdigits) (hrest c rfl)

def readYearDigits? (negative : Bool) (body : List Char) : Option (ℤ × List Char) :=
  let digits := body.takeWhile Char.isDigit
  let year : ℤ := digitsValue digits
  if digits.length < 4 || (4 < digits.length && digits.head? == some '0') || year == 0 then none
  else some (if negative then -year else year, body.dropWhile Char.isDigit)

theorem readYear?_minus (body : List Char) : readYear? ('-' :: body) = readYearDigits? true body :=
  rfl

theorem readYear?_of_ne_minus {c : Char} (h : c ≠ '-') (body : List Char) :
    readYear? (c :: body) = readYearDigits? false (c :: body) := by
  unfold readYear?
  split
  · next heq =>
    split at heq
    · next hminus => exact absurd (List.cons.inj hminus).1 h
    · obtain ⟨rfl, rfl⟩ := Prod.mk.inj heq
      rfl

theorem readYearDigits?_padded (negative : Bool) (n : ℕ) (hrest : EndsDigits rest) :
    readYearDigits? negative (padded 4 n ++ rest) =
      if n = 0 then none else some (if negative then -(n : ℤ) else n, rest) := by
  have hlength : ¬ (padded 4 n).length < 4 := not_lt.mpr (le_length_padded 4 n)
  unfold readYearDigits?
  simp only [takeWhile_isDigit_append (allDigits_padded 4 n) hrest,
    dropWhile_isDigit_append (allDigits_padded 4 n) hrest, digitsValue_padded, hlength,
    decide_false, Bool.false_or]
  by_cases hzero : n = 0
  · simp [hzero]
  · have hhead : (decide (4 < (padded 4 n).length) && (padded 4 n).head? == some '0') = false := by
      rw [Bool.and_eq_false_iff, decide_eq_false_iff_not, beq_eq_false_iff_ne]
      exact or_iff_not_imp_left.mpr fun h => head?_padded_ne_zero (not_not.mp h) hzero
    simp [hhead, hzero]

theorem readYear?_yearChars (year : ℤ) (hrest : EndsDigits rest) :
    readYear? (yearChars year ++ rest) = if year = 0 then none else some (year, rest) := by
  unfold yearChars
  by_cases hneg : year < 0
  · have hvalue : -(year.natAbs : ℤ) = year := by omega
    rw [if_pos hneg, List.cons_append, readYear?_minus, readYearDigits?_padded true _ hrest,
      if_neg (by omega), if_neg hneg.ne, if_pos rfl, hvalue]
  · have hvalue : (year.natAbs : ℤ) = year := by omega
    have hzero : year.natAbs = 0 ↔ year = 0 := Int.natAbs_eq_zero
    obtain ⟨c, digits, hcons⟩ := List.exists_cons_of_ne_nil (padded_ne_nil 4 year.natAbs)
    have hdigit : c.isDigit = true :=
      allDigits_iff.mp (allDigits_padded 4 year.natAbs) c (by simp [hcons])
    have hminus : c ≠ '-' := by
      rintro rfl
      exact absurd hdigit (by decide)
    have hread := readYearDigits?_padded false year.natAbs hrest
    rw [hcons, List.cons_append] at hread
    rw [if_neg hneg, hcons, List.cons_append, readYear?_of_ne_minus hminus, hread]
    simp only [hzero, hvalue, Bool.false_eq_true, if_false]

theorem isDateChar_yearChars (year : ℤ) : ∀ c ∈ yearChars year, IsDateChar c := by
  unfold yearChars
  split
  · exact isDateChar_minus_cons (isDateChar_padded _ _)
  · exact isDateChar_padded _ _

theorem padded_append_inj {width m n : ℕ} {r s : List Char} (hr : EndsDigits r)
    (hs : EndsDigits s) (h : padded width m ++ r = padded width n ++ s) : m = n ∧ r = s := by
  have htake := congrArg (List.takeWhile Char.isDigit) h
  have hdrop := congrArg (List.dropWhile Char.isDigit) h
  rw [takeWhile_isDigit_append (allDigits_padded width m) hr,
    takeWhile_isDigit_append (allDigits_padded width n) hs] at htake
  rw [dropWhile_isDigit_append (allDigits_padded width m) hr,
    dropWhile_isDigit_append (allDigits_padded width n) hs] at hdrop
  exact ⟨padded_inj htake, hdrop⟩

theorem minus_cons_ne_padded (rest : List Char) (width n : ℕ) (s : List Char) :
    '-' :: rest ≠ padded width n ++ s := by
  intro h
  obtain ⟨c, digits, hcons⟩ := List.exists_cons_of_ne_nil (padded_ne_nil width n)
  have hdigit : c.isDigit = true :=
    allDigits_iff.mp (allDigits_padded width n) c (by simp [hcons])
  rw [hcons, List.cons_append] at h
  obtain ⟨rfl, _⟩ := List.cons.inj h
  exact absurd hdigit (by decide)

theorem yearChars_append_inj {a b : ℤ} {r s : List Char} (hr : EndsDigits r) (hs : EndsDigits s)
    (h : yearChars a ++ r = yearChars b ++ s) : a = b ∧ r = s := by
  unfold yearChars at h
  split_ifs at h with ha hb hb
  · obtain ⟨habs, hrest⟩ := padded_append_inj hr hs (List.cons.inj h).2
    exact ⟨by omega, hrest⟩
  · exact absurd h (minus_cons_ne_padded _ _ _ _)
  · exact absurd h.symm (minus_cons_ne_padded _ _ _ _)
  · obtain ⟨habs, hrest⟩ := padded_append_inj hr hs h
    exact ⟨by omega, hrest⟩

theorem IsMonth.month_lt {year : ℤ} {month : ℕ} (h : IsMonth year month) : month < 100 :=
  lt_of_le_of_lt h.2.2.2 (by decide)

theorem IsDate.day_lt {year : ℤ} {month day : ℕ} (h : IsDate year month day) : day < 100 :=
  lt_of_le_of_lt (h.2.2.2.2.2.trans (CalendarDate.monthLength_le_december year month)) (by decide)

theorem readMonthDay?_monthDayChars {month day : ℕ} (hmonth : month < 100) (hday : day < 100) :
    readMonthDay? (monthDayChars month day) = some (month, day) := by
  obtain ⟨m₁, m₂, hm⟩ := exists_padded_two hmonth
  obtain ⟨d₁, d₂, hd⟩ := exists_padded_two hday
  have hreadm := twoDigits?_padded hmonth
  have hreadd := twoDigits?_padded hday
  rw [hm] at hreadm
  rw [hd] at hreadd
  simp [monthDayChars, hm, hd, readMonthDay?, hreadm, hreadd]

theorem isDateChar_monthDayChars (month day : ℕ) : ∀ c ∈ monthDayChars month day, IsDateChar c :=
  List.forall_mem_append.mpr
    ⟨isDateChar_padded _ _, isDateChar_minus_cons (isDateChar_padded _ _)⟩

theorem endsDigits_minus (rest : List Char) : EndsDigits ('-' :: rest) := by
  intro c h
  obtain rfl := Option.some.inj h
  rfl

theorem endsDigits_nil : EndsDigits [] := by
  intro c h
  cases h

theorem monthDayChars_inj {m d m' d' : ℕ} (h : monthDayChars m d = monthDayChars m' d') :
    m = m' ∧ d = d' := by
  obtain ⟨hmonth, hrest⟩ := padded_append_inj (endsDigits_minus _) (endsDigits_minus _) h
  exact ⟨hmonth, padded_inj (List.cons.inj hrest).2⟩

end Calendar

namespace CalendarDate

variable {a b date : CalendarDate}

theorem read?_toChars (date : CalendarDate) :
    read? date.toChars = if date.year = 0 then none else some date := by
  rw [read?, toChars, readYear?_yearChars _ (endsDigits_minus _)]
  split
  · rfl
  · simp only [Option.bind_eq_bind, Option.bind_some,
      readMonthDay?_monthDayChars date.valid.isMonth.month_lt date.valid.day_lt]
    exact ofParts?_eq_some_iff.mpr ⟨rfl, rfl, rfl⟩

theorem isDateChar_toChars (date : CalendarDate) : ∀ c ∈ date.toChars, IsDateChar c :=
  List.forall_mem_append.mpr
    ⟨isDateChar_yearChars _, isDateChar_minus_cons (isDateChar_monthDayChars _ _)⟩

theorem toChars_inj (h : a.toChars = b.toChars) : a = b := by
  obtain ⟨hyear, hrest⟩ := yearChars_append_inj (endsDigits_minus _) (endsDigits_minus _) h
  obtain ⟨hmonth, hday⟩ := monthDayChars_inj (List.cons.inj hrest).2
  obtain ⟨_, _, _, _⟩ := a
  obtain ⟨_, _, _, _⟩ := b
  simp_all

end CalendarDate

namespace TimeOfDay

variable {a b time : TimeOfDay}

theorem exists_fraction (time : TimeOfDay) :
    ∃ fraction : Option DigitRun, TimeLiteral.fractionChars fraction = time.fractionChars ∧
      TimeLiteral.nanosOf fraction = time.fraction := by
  unfold fractionChars
  by_cases hzero : time.fraction = 0
  · exact ⟨none, by rw [if_pos hzero]; rfl, by simp [TimeLiteral.nanosOf, hzero]⟩
  · have hlength : (padded 9 time.fraction).length = 9 :=
      length_padded (by decide) time.fraction_lt
    have hvalue : fractionValue (dropTrailingZeros (padded 9 time.fraction)) * 10 ^ 9 =
        time.fraction := by
      rw [fractionValue_dropTrailingZeros, fractionValue, digitsValue_padded, hlength,
        div_mul_cancel₀ _ (by positivity)]
    have hne : dropTrailingZeros (padded 9 time.fraction) ≠ [] := by
      intro hnil
      rw [hnil, fractionValue_nil, zero_mul] at hvalue
      exact hzero (by exact_mod_cast hvalue.symm)
    have hdigits : allDigits (dropTrailingZeros (padded 9 time.fraction)) = true :=
      allDigits_dropTrailingZeros (allDigits_padded 9 time.fraction)
    refine ⟨some ⟨_, hne, hdigits⟩, by rw [if_neg hzero]; rfl, ?_⟩
    rw [TimeLiteral.nanosOf, Option.map_some, Option.getD_some, DigitRun.fraction, hvalue,
      Nat.floor_natCast]

theorem exists_literal (time : TimeOfDay) :
    ∃ l : TimeLiteral, l.chars = time.toChars ∧ l.Denotes time false := by
  have hhours := time.hours_lt
  have hminutes := time.minutes_lt
  have hseconds := time.seconds_lt
  obtain ⟨hours, hhourChars, hhour⟩ := DigitPair.exists_padded
    (show time.hours < 100 by omega)
  obtain ⟨minutes, hminuteChars, hminute⟩ := DigitPair.exists_padded
    (show time.minutes < 100 by omega)
  obtain ⟨seconds, hsecondChars, hsecond⟩ := DigitPair.exists_padded
    (show time.seconds < 100 by omega)
  obtain ⟨fraction, hfractionChars, hfraction⟩ := exists_fraction time
  refine ⟨⟨hours, minutes, seconds, fraction⟩, ?_,
    .within hhour.symm hminute.symm hsecond.symm hfraction.symm⟩
  rw [TimeLiteral.chars, hhourChars, hminuteChars, hsecondChars, hfractionChars, toChars]
  simp only [List.append_assoc, List.cons_append]

theorem readClock?_toChars (time : TimeOfDay) : readClock? time.toChars = some (time, false) :=
  readClock?_eq_some_iff.mpr (exists_literal time)

theorem isBodyChar_toChars (time : TimeOfDay) : ∀ c ∈ time.toChars, IsBodyChar c := by
  obtain ⟨l, hchars, _⟩ := exists_literal time
  rw [← hchars]
  exact l.isBodyChar_chars

theorem announcesOffset_append_toChars (before : List Char) (time : TimeOfDay) :
    announcesOffset (before ++ time.toChars) = false := by
  obtain ⟨l, hchars, _⟩ := exists_literal time
  rw [← hchars]
  exact TimeLiteral.announcesOffset_append_chars before l

theorem toChars_inj (h : a.toChars = b.toChars) : a = b := by
  have hread := readClock?_toChars a
  rw [h, readClock?_toChars b] at hread
  simpa using hread.symm

end TimeOfDay

namespace Moment

variable {a b m : Moment}

theorem cutAt?_toChars (m : Moment) :
    cutAt? (· == 'T') m.toChars = some (m.date.toChars, m.time.toChars) := by
  refine cutAt?_append_cons (fun c hc => beq_eq_false_iff_ne.mpr ?_) rfl
  rintro rfl
  exact not_mem_of_isDateChar not_isDateChar_upperT m.date.isDateChar_toChars hc

theorem read?_toChars (m : Moment) :
    read? m.toChars = if m.date.year = 0 then none else some m := by
  rw [read?, cutAt?_toChars, Option.bind_eq_bind, Option.bind_some]
  dsimp only
  rw [m.date.read?_toChars]
  split
  · rfl
  · rw [Option.bind_eq_bind, Option.bind_some, m.time.readClock?_toChars]
    rfl

theorem toChars_inj (h : a.toChars = b.toChars) : a = b := by
  have hcut := cutAt?_toChars a
  rw [h, cutAt?_toChars b] at hcut
  obtain ⟨hdate, htime⟩ := Prod.mk.inj (Option.some.inj hcut)
  obtain ⟨_, _⟩ := a
  obtain ⟨_, _⟩ := b
  rw [Moment.mk.injEq]
  exact ⟨(CalendarDate.toChars_inj hdate).symm, (TimeOfDay.toChars_inj htime).symm⟩

end Moment

end XPathValues
