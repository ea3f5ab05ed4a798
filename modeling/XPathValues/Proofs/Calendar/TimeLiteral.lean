import Mathlib.Tactic
import XPathValues.Calendar.Text
import XPathValues.Proofs.Calendar.ZoneLiteral

/-!
# Time literals

A time has pairs of digits for its hours, minutes and seconds, and a fraction of any length of which
nine digits count. The reader takes the texts that a literal spells, and finds what the literal
denotes.
-/

namespace XPathValues

open Text Timezone

variable {text : List Char} {n : ℕ}

structure TimeLiteral where
  hours : DigitPair
  minutes : DigitPair
  seconds : DigitPair
  fraction : Option DigitRun

namespace TimeLiteral

def fractionChars : Option DigitRun → List Char
  | none => []
  | some digits => '.' :: digits.chars

/-- The nanoseconds of a fraction; what is less than a nanosecond is cut off. -/
def nanosOf (fraction : Option DigitRun) : ℕ :=
  ⌊(fraction.map DigitRun.fraction).getD 0 * 10 ^ 9⌋₊

def chars (l : TimeLiteral) : List Char :=
  l.hours.chars ++ ':' :: (l.minutes.chars ++ ':' :: (l.seconds.chars ++ fractionChars l.fraction))

def nanos (l : TimeLiteral) : ℕ :=
  nanosOf l.fraction

/-- A time has the fields of its literal. The end of the day is the midnight after it, and what is
less than a nanosecond does not count there either. -/
inductive Denotes (l : TimeLiteral) : TimeOfDay → Bool → Prop
  | within {time : TimeOfDay} (hours : time.hours = l.hours.value)
    (minutes : time.minutes = l.minutes.value) (seconds : time.seconds = l.seconds.value)
    (fraction : time.fraction = l.nanos) : Denotes l time false
  | endOfDay (hours : l.hours.value = 24) (minutes : l.minutes.value = 0)
    (seconds : l.seconds.value = 0) (fraction : l.nanos = 0) : Denotes l .midnight true

theorem Denotes.eq_midnight {l : TimeLiteral} {time : TimeOfDay} (h : l.Denotes time true) :
    time = .midnight := by
  cases h
  rfl

theorem isBodyChar_fractionChars (fraction : Option DigitRun) :
    ∀ c ∈ fractionChars fraction, IsBodyChar c := by
  cases fraction with
  | none => simp [fractionChars]
  | some digits =>
    exact List.forall_mem_cons.mpr ⟨Or.inr (Or.inr (Or.inr (Or.inl rfl))),
      fun c hc => Or.inl (digits.isDigit_of_mem c hc)⟩

theorem isBodyChar_chars (l : TimeLiteral) : ∀ c ∈ l.chars, IsBodyChar c := by
  have hpair : ∀ pair : DigitPair, ∀ c ∈ pair.chars, IsBodyChar c :=
    fun pair c hc => Or.inl (pair.isDigit_of_mem c hc)
  have hcolon : IsBodyChar ':' := Or.inr (Or.inr (Or.inl rfl))
  refine List.forall_mem_append.mpr ⟨hpair l.hours, List.forall_mem_cons.mpr ⟨hcolon, ?_⟩⟩
  refine List.forall_mem_append.mpr ⟨hpair l.minutes, List.forall_mem_cons.mpr ⟨hcolon, ?_⟩⟩
  exact List.forall_mem_append.mpr ⟨hpair l.seconds, isBodyChar_fractionChars l.fraction⟩

/-- The colon three characters before the end is the last one, and a colon is before it. -/
theorem announcesOffset_append_chars (before : List Char) (l : TimeLiteral) :
    announcesOffset (before ++ l.chars) = false := by
  unfold chars
  cases l.fraction with
  | none => simp [announcesOffset, fractionChars, DigitPair.chars]
  | some digits =>
    have htail : ':' ∉ l.seconds.chars ++ '.' :: digits.chars := by
      intro hcolon
      rcases List.mem_append.mp hcolon with hcolon | hcolon
      · exact absurd (l.seconds.isDigit_of_mem _ hcolon) (by decide)
      · rcases List.mem_cons.mp hcolon with hcolon | hcolon
        · exact absurd hcolon (by decide)
        · exact absurd (digits.isDigit_of_mem _ hcolon) (by decide)
    have hlength : 3 ≤ (l.seconds.chars ++ '.' :: digits.chars).length := by
      simp [DigitPair.chars]
    have hquiet := announcesOffset_append hlength htail
      (before ++ l.hours.chars ++ ':' :: l.minutes.chars ++ [':'])
    simpa [fractionChars] using hquiet

theorem readFraction?_eq_some_iff :
    TimeOfDay.readFraction? text = some n ↔
      ∃ fraction : Option DigitRun, fractionChars fraction = text ∧ nanosOf fraction = n := by
  have hnanos : ∀ digits : DigitRun,
      digitsValue ((digits.chars ++ List.replicate 9 '0').take 9) = nanosOf (some digits) :=
    fun digits => digitsValue_take digits.isDigit_of_mem 9
  constructor
  · intro h
    unfold TimeOfDay.readFraction? at h
    split at h
    · obtain rfl := Option.some.inj h
      exact ⟨none, rfl, by simp [nanosOf]⟩
    · next digits =>
      split at h
      · cases h
      · next hdigits =>
        simp only [Bool.or_eq_true, List.isEmpty_iff, Bool.not_eq_true', not_or,
          Bool.not_eq_false] at hdigits
        let run : DigitRun := ⟨digits, hdigits.1, hdigits.2⟩
        exact ⟨some run, rfl, (hnanos run).symm.trans (Option.some.inj h)⟩
    · cases h
  · rintro ⟨fraction, rfl, rfl⟩
    cases fraction with
    | none => simp [fractionChars, TimeOfDay.readFraction?, nanosOf]
    | some digits =>
      rw [← hnanos digits]
      simp [fractionChars, TimeOfDay.readFraction?, digits.digits]

end TimeLiteral

namespace TimeOfDay

theorem readClock?_eq_some_iff {time : TimeOfDay} {atEnd : Bool} :
    readClock? text = some (time, atEnd) ↔
      ∃ l : TimeLiteral, l.chars = text ∧ l.Denotes time atEnd := by
  constructor
  · intro h
    unfold readClock? at h
    split at h
    · split at h
      · next hcolons =>
        obtain ⟨rfl, rfl⟩ := hcolons
        obtain ⟨hours, hhours, h⟩ := Option.bind_eq_some_iff.mp h
        obtain ⟨minutes, hminutes, h⟩ := Option.bind_eq_some_iff.mp h
        obtain ⟨seconds, hseconds, h⟩ := Option.bind_eq_some_iff.mp h
        obtain ⟨nanos, hnanos, hclock⟩ := Option.bind_eq_some_iff.mp h
        obtain ⟨hourPair, hhourChars, rfl⟩ := twoDigits?_eq_some_iff.mp hhours
        obtain ⟨minutePair, hminuteChars, rfl⟩ := twoDigits?_eq_some_iff.mp hminutes
        obtain ⟨secondPair, hsecondChars, rfl⟩ := twoDigits?_eq_some_iff.mp hseconds
        obtain ⟨fraction, rfl, rfl⟩ := TimeLiteral.readFraction?_eq_some_iff.mp hnanos
        refine ⟨⟨hourPair, minutePair, secondPair, fraction⟩, ?_, ?_⟩
        · rw [TimeLiteral.chars, hhourChars, hminuteChars, hsecondChars]
          rfl
        · split at hclock
          · next hend =>
            split at hclock
            · next hzero =>
              obtain ⟨rfl, rfl⟩ := Prod.mk.inj (Option.some.inj hclock)
              exact .endOfDay hend hzero.1 hzero.2.1 hzero.2.2
            · cases hclock
          · obtain ⟨time, htime, heq⟩ := Option.map_eq_some_iff.mp hclock
            obtain ⟨rfl, rfl⟩ := Prod.mk.inj heq
            obtain ⟨hhour, hminute, hsecond, hfraction⟩ := ofParts?_eq_some_iff.mp htime
            exact .within hhour hminute hsecond hfraction
      · cases h
    · cases h
  · rintro ⟨l, rfl, hdenotes⟩
    have hhours := l.hours.twoDigits?_chars
    have hminutes := l.minutes.twoDigits?_chars
    have hseconds := l.seconds.twoDigits?_chars
    have hfraction : readFraction? (TimeLiteral.fractionChars l.fraction) = some l.nanos :=
      TimeLiteral.readFraction?_eq_some_iff.mpr ⟨l.fraction, rfl, rfl⟩
    unfold DigitPair.chars at hhours hminutes hseconds
    simp only [TimeLiteral.chars, DigitPair.chars, List.cons_append, List.nil_append, readClock?,
      and_self, if_true, hhours, hminutes, hseconds, hfraction, Option.bind_eq_bind,
      Option.bind_some]
    cases hdenotes with
    | within hhour hminute hsecond hnanos =>
      have hlt := time.hours_lt
      have hne : ¬ l.hours.value = 24 := by omega
      rw [if_neg hne, ofParts?_eq_some_iff.mpr ⟨hhour, hminute, hsecond, hnanos⟩]
      rfl
    | endOfDay hend hminute hsecond hnanos =>
      rw [if_pos hend, if_pos ⟨hminute, hsecond, hnanos⟩]

end TimeOfDay

end XPathValues
