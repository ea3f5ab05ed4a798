import Mathlib.Tactic
import XPathValues.Proofs.Duration.Fields

/-!
# The written form of a duration

The text behind the letter `P` is six optional fields, of which the last three follow the letter
`T`. When no quotient rounds up they are read back one by one, and their sum is the count of
seconds that was written. A negative rest of seconds makes the text unreadable.
-/

namespace XPathValues.Duration

open Decimal DayTimeDuration Text

variable {seconds rest d : Decimal} {letter : Char} {n : ℕ}

/-- The number of a count in its field; zero has no field. -/
def countNumber (count : ℕ) : Option (List Char) :=
  if count = 0 then none else some (Nat.toDigits 10 count)

def secondsNumber (seconds : Decimal) : Option (List Char) :=
  if seconds.isZero then none else some seconds.toChars

theorem fieldChars_eq (d : Decimal) (letter : Char) :
    fieldChars d letter = optionalField (secondsNumber d) letter := by
  unfold fieldChars secondsNumber
  split <;> rfl

theorem secondsNumber_of_natCast (h : d.toRat = n) : secondsNumber d = countNumber n := by
  have hzero : d.isZero = true ↔ n = 0 := by
    rw [isZero_iff, h, Nat.cast_eq_zero]
  simp only [secondsNumber, countNumber, hzero, toChars_of_natCast h]

theorem isFieldNumber_countNumber (count : ℕ) : IsFieldNumber (countNumber count) := by
  intro digits h
  unfold countNumber at h
  split at h
  · cases h
  · obtain rfl := Option.some.inj h
    refine ⟨Nat.toDigits_ne_nil, fun c hc => ?_⟩
    simp [isFieldChar, allDigits_iff.mp (allDigits_toDigits count) c hc]

theorem isFieldNumber_secondsNumber (h : 0 ≤ d.toRat) : IsFieldNumber (secondsNumber d) := by
  intro digits hdigits
  unfold secondsNumber at hdigits
  split at hdigits
  · cases hdigits
  · obtain rfl := Option.some.inj hdigits
    refine ⟨toChars_ne_nil d, fun c hc => ?_⟩
    rw [toChars_of_nonneg h] at hc
    rcases mem_unsignedChars hc with hc | rfl
    · simp [isFieldChar, hc]
    · rfl

/-- The numbers of a written duration. -/
structure Written where
  months : ℕ
  days : ℕ
  hours : ℕ
  minutes : ℕ
  seconds : Decimal

namespace Written

def dateFields (w : Written) : List Char :=
  optionalField (countNumber (w.months / 12)) 'Y' ++
    optionalField (countNumber (w.months % 12)) 'M' ++ optionalField (countNumber w.days) 'D'

def timeFields (w : Written) : List Char :=
  optionalField (countNumber w.hours) 'H' ++
    optionalField (countNumber w.minutes) 'M' ++ optionalField (secondsNumber w.seconds) 'S'

def body (w : Written) : List Char :=
  w.dateFields ++ if w.timeFields.isEmpty then [] else 'T' :: w.timeFields

end Written

/-- The numbers that are written for a count of months and a count of seconds. -/
def written (months : ℕ) (x : ℚ) (rest : Decimal) : Written where
  months := months
  days := (parts x).days
  hours := (parts x).hours
  minutes := (parts x).minutes
  seconds := rest

theorem monthFields_eq (months : ℕ) :
    monthFields months = optionalField (countNumber (months / 12)) 'Y' ++
      optionalField (countNumber (months % 12)) 'M' := by
  unfold monthFields countNumber
  dsimp only
  split_ifs <;> rfl

theorem splitUnits_of_lt {unit : Decimal} {k : ℕ} (hunit : unit.toRat = n) (hn : 0 < n)
    (hlow : -(n : ℚ) < 2 * seconds.toRat) (hhigh : seconds.toRat ≤ (k : ℚ) * n)
    (hk : (k + 1) * (n + 10000) ≤ maxMagnitude) :
    (splitUnits seconds unit).1.toRat = countedUnits n seconds.toRat ∧
      (splitUnits seconds unit).2.toRat = restOf n seconds.toRat := by
  have hquotient : (k + 1) * 10000 ≤ maxMagnitude :=
    (Nat.mul_le_mul_left (k + 1) (Nat.le_add_left 10000 n)).trans hk
  have hproduct : countedUnits n seconds.toRat * n ≤ maxMagnitude :=
    (Nat.mul_le_mul (countedUnits_le_of_le hn hhigh) (Nat.le_add_right n 10000)).trans hk
  exact splitUnits_spec hunit hn hlow (moderate_of_le hn hhigh hquotient) hproduct

theorem splitUnits_parts (h : 0 ≤ seconds.toRat) :
    (splitUnits seconds day).1.toRat = ((parts seconds.toRat).days : ℚ) ∧
      (splitUnits (splitUnits seconds day).2 hour).1.toRat = ((parts seconds.toRat).hours : ℚ) ∧
        (splitUnits (splitUnits (splitUnits seconds day).2 hour).2 minute).1.toRat =
          ((parts seconds.toRat).minutes : ℚ) ∧
        (splitUnits (splitUnits (splitUnits seconds day).2 hour).2 minute).2.toRat =
          (parts seconds.toRat).seconds := by
  have hmax := seconds.toRat_le
  have hday : day.toRat = (86400 : ℕ) := toRat_ofNat _ _
  have hhour : hour.toRat = (3600 : ℕ) := toRat_ofNat _ _
  have hminute : minute.toRat = (60 : ℕ) := toRat_ofNat _ _
  obtain ⟨hdays, hclock⟩ := splitUnits_spec hday (by decide) (by push_cast; linarith)
    (moderate_days hmax) (countedUnits_days_le h hmax)
  -- A rounded-up day leaves at most five seconds too few, far less than half an hour or a minute.
  have hclocklow := neg_five_le_restOf (by decide) le_rfl (moderate_days hmax) (by linarith)
  have hclockhigh := restOf_lt (n := 86400) (by decide) seconds.toRat
  rw [← hclock] at hclocklow hclockhigh
  push_cast at hclockhigh
  obtain ⟨hhours, hrest⟩ := splitUnits_of_lt (k := 24) hhour (by decide) (by push_cast; linarith)
    (by push_cast; linarith) (by decide)
  have hrestlow := neg_five_le_restOf (n := 3600) (by decide) (by decide)
    (moderate_of_le (k := 24) (by decide) (by push_cast; linarith) (by decide)) hclocklow
  have hresthigh := restOf_lt (n := 3600) (by decide) (splitUnits seconds day).2.toRat
  rw [← hrest] at hrestlow hresthigh
  push_cast at hresthigh
  obtain ⟨hminutes, hleft⟩ := splitUnits_of_lt (k := 60) hminute (by decide)
    (by push_cast; linarith) (by push_cast; linarith) (by decide)
  rw [hrest, hclock] at hminutes hleft
  rw [hclock] at hhours
  exact ⟨hdays, hhours, hminutes, hleft⟩

/-- The writer's fields are those of the parts, with some decimal for the seconds that remain. -/
theorem exists_written (months : ℕ) (h : 0 ≤ seconds.toRat) :
    ∃ rest : Decimal, rest.toRat = (parts seconds.toRat).seconds ∧
      monthFields months ++ secondFields seconds = (written months seconds.toRat rest).body := by
  obtain ⟨hdays, hhours, hminutes, hrest⟩ := splitUnits_parts h
  refine ⟨(splitUnits (splitUnits (splitUnits seconds day).2 hour).2 minute).2, hrest, ?_⟩
  unfold secondFields
  dsimp only
  rw [monthFields_eq, fieldChars_eq, fieldChars_eq, fieldChars_eq, fieldChars_eq,
    secondsNumber_of_natCast hdays, secondsNumber_of_natCast hhours,
    secondsNumber_of_natCast hminutes]
  exact (List.append_assoc _ _ _).symm

namespace Written

variable {w : Written}

theorem mem_dateFields {c : Char} (hc : c ∈ w.dateFields) :
    isFieldChar c = true ∨ c = 'Y' ∨ c = 'M' ∨ c = 'D' :=
  mem_optionalFields (isFieldNumber_countNumber _) (isFieldNumber_countNumber _)
    (isFieldNumber_countNumber _) hc

theorem splitAtTime?_body (hne : w.body ≠ []) :
    Fields.splitAtTime? w.body = some (w.dateFields, w.timeFields) :=
  splitAtTime?_eq_some_iff.mpr
    ⟨fun hmem => absurd (mem_dateFields hmem) (by decide), hne, rfl⟩

end Written

end XPathValues.Duration
