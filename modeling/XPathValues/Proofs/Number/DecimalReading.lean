import Mathlib.Tactic
import XPathValues.Proofs.Number.DecimalText
import XPathValues.Proofs.Text.Literal

/-!
# Reading the digits of a decimal

Digits behind the point are taken one by one while there is room for them, and the first for which
there is none decides the rounding. The result is within half a unit of its own last place, a value
that a decimal has is not rounded at all, and there is no result only when the value is half a unit
or more beyond the greatest decimal.
-/

namespace XPathValues

open Text

namespace PointedDigits

/-- Nothing but digits on both sides of the point. -/
structure AllDigits (digits : PointedDigits) : Prop where
  whole : allDigits digits.whole = true
  fraction : allDigits digits.fraction = true

def value (digits : PointedDigits) : ℚ :=
  digitsValue digits.whole + fractionValue digits.fraction

theorem value_nonneg (digits : PointedDigits) : 0 ≤ digits.value :=
  add_nonneg (Nat.cast_nonneg _) (fractionValue_nonneg _)

theorem value_eq (digits : PointedDigits) :
    digits.value = digits.coefficient / 10 ^ digits.fraction.length := by
  have hsplit : digits.coefficient =
      digitsValue digits.whole * 10 ^ digits.fraction.length + digitsValue digits.fraction := by
    rw [coefficient, digitsValue, Nat.ofDigitChars_append, ofDigitChars_eq]
    rfl
  rw [hsplit, value, fractionValue]
  push_cast
  field_simp

variable {digits : PointedDigits}

@[simp] theorem value_trim (digits : PointedDigits) : digits.trim.value = digits.value := by
  have hwhole : digitsValue digits.trim.whole = digitsValue digits.whole := by
    rw [← digitsValue_dropLeadingZeros digits.whole, trim]
    dsimp only
    split
    · next hempty =>
      rw [List.isEmpty_iff.mp hempty]
      rfl
    · rfl
  rw [value, hwhole, trim, fractionValue_dropTrailingZeros, value]

theorem AllDigits.trim (h : digits.AllDigits) : digits.trim.AllDigits where
  whole := by
    rw [PointedDigits.trim]
    dsimp only
    split
    · rfl
    · exact allDigits_iff.mpr fun c hc =>
        allDigits_iff.mp h.whole c ((List.dropWhile_sublist _).subset hc)
  fraction := allDigits_dropTrailingZeros h.fraction

end PointedDigits

namespace Decimal

variable {m m' s s' : ℕ} {fraction whole : List Char} {c : Char} {negative : Bool}
  {digits : PointedDigits} {d : Decimal} {q : ℚ}

/-! ## The integer part -/

theorem takeWhole?_eq_none (h : maxMagnitude < Nat.ofDigitChars 10 whole m)
    (hm : m ≤ maxMagnitude) : takeWhole? m whole = none := by
  induction whole generalizing m with
  | nil =>
    rw [Nat.ofDigitChars_nil] at h
    omega
  | cons c rest ih =>
    rw [takeWhole?]
    split
    · next hnext => exact ih h hnext
    · rfl

theorem takeWhole?_eq (whole : List Char) :
    takeWhole? 0 whole =
      if digitsValue whole ≤ maxMagnitude then some (digitsValue whole) else none := by
  split
  · next h => exact takeWhole?_of_le h
  · next h => exact takeWhole?_eq_none (not_le.mp h) (Nat.zero_le _)

/-! ## The fraction -/

theorem taken_add_fractionValue (m : ℕ) (c : Char) (rest : List Char) :
    ((10 * m + digitOf c : ℕ) : ℚ) + fractionValue rest = 10 * (m + fractionValue (c :: rest)) := by
  rw [fractionValue_cons]
  push_cast
  ring

theorem taken_add_fractionValue_div (m s : ℕ) (c : Char) (rest : List Char) :
    (((10 * m + digitOf c : ℕ) : ℚ) + fractionValue rest) / 10 ^ (s + 1) =
      (m + fractionValue (c :: rest)) / 10 ^ s := by
  rw [taken_add_fractionValue, pow_succ]
  field_simp

/-- The digits in front of the point are no more than those of the whole number in units of a
later place. -/
theorem le_of_add_fractionValue_mul {n z : ℕ}
    (h : ((m : ℚ) + fractionValue fraction) * 10 ^ n = z) : m ≤ z := by
  have hone : (1 : ℚ) ≤ 10 ^ n := one_le_pow₀ (by norm_num)
  have hnonneg := fractionValue_nonneg fraction
  have hm : (0 : ℚ) ≤ m := Nat.cast_nonneg m
  have hle : (m : ℚ) ≤ z := by
    calc (m : ℚ) ≤ m + fractionValue fraction := le_add_of_nonneg_right hnonneg
      _ ≤ (m + fractionValue fraction) * 10 ^ n := le_mul_of_one_le_right (by positivity) hone
      _ = z := h
  exact_mod_cast hle

/-- A magnitude and a scale that can be stored, within half a unit of the last place. -/
structure RoundsTo (q : ℚ) (m s : ℕ) : Prop where
  magnitude_le : m ≤ maxMagnitude
  scale_le : s ≤ maxScale
  near : |(m : ℚ) - q * 10 ^ s| ≤ 1 / 2

/-- Rounding up is right for a fraction of at least one half. Where the last digit is given up, the
unit of the result is ten times as large. -/
theorem roundsTo_of_bump? {x : ℚ} (hm : m ≤ maxMagnitude) (hs : s ≤ maxScale) (hlow : 1 / 2 ≤ x)
    (hhigh : x < 1) (h : bump? m s = some (m', s')) :
    RoundsTo ((m + x) / 10 ^ s) m' s' := by
  unfold bump? at h
  split at h
  · next hlt =>
    obtain ⟨rfl, rfl⟩ := Prod.mk.inj (Option.some.inj h)
    refine ⟨hlt, hs, ?_⟩
    rw [div_mul_cancel₀ _ (by positivity), abs_le]
    push_cast
    constructor <;> linarith
  · next hge =>
    split at h
    · cases h
    · next hscale =>
      obtain ⟨rfl, rfl⟩ := Prod.mk.inj (Option.some.inj h)
      obtain rfl : m = maxMagnitude := by omega
      obtain ⟨k, rfl⟩ := Nat.exists_eq_succ_of_ne_zero hscale
      have hcarry : (maxMagnitude + 1 + 4) / 10 = 7922816251426433759354395034 := rfl
      have hunit : ((maxMagnitude : ℚ) + x) / 10 ^ (k + 1) * 10 ^ k = (maxMagnitude + x) / 10 := by
        rw [pow_succ]
        field_simp
      refine ⟨by rw [hcarry]; decide, by omega, ?_⟩
      rw [Nat.succ_sub_one, Nat.succ_eq_add_one, hunit, hcarry, abs_le]
      norm_num [maxMagnitude]
      constructor <;> linarith

theorem roundsTo_of_takeFraction? (hdigits : ∀ c ∈ fraction, c.isDigit = true)
    (hm : m ≤ maxMagnitude) (hs : s ≤ maxScale)
    (h : takeFraction? m s fraction = some (m', s')) :
    RoundsTo ((m + fractionValue fraction) / 10 ^ s) m' s' := by
  induction fraction generalizing m s with
  | nil =>
    obtain ⟨rfl, rfl⟩ := Prod.mk.inj (Option.some.inj h)
    refine ⟨hm, hs, ?_⟩
    rw [fractionValue_nil, add_zero, div_mul_cancel₀ _ (by positivity), sub_self, abs_zero]
    norm_num
  | cons c rest ih =>
    rw [takeFraction?] at h
    split at h
    · next hroom =>
      rw [Bool.and_eq_true, decide_eq_true_eq, decide_eq_true_eq] at hroom
      have hrounds := ih (fun d hd => hdigits d (by simp [hd])) hroom.2 hroom.1 h
      rwa [taken_add_fractionValue_div] at hrounds
    · split at h
      · next hfive =>
        exact roundsTo_of_bump? hm hs ((half_le_fractionValue_iff hdigits).mpr hfive)
          (fractionValue_lt_one hdigits) h
      · next hfive =>
        obtain ⟨rfl, rfl⟩ := Prod.mk.inj (Option.some.inj h)
        have hsmall := not_le.mp (mt (half_le_fractionValue_iff hdigits).mp hfive)
        have hnonneg := fractionValue_nonneg (c :: rest)
        refine ⟨hm, hs, ?_⟩
        rw [div_mul_cancel₀ _ (by positivity), abs_le]
        constructor <;> linarith

theorem isSome_bump?_of_pos (hs : 0 < s) : (bump? m s).isSome = true := by
  unfold bump?
  split
  · rfl
  · rw [if_neg hs.ne']
    rfl

theorem isSome_takeFraction?_of_pos (hs : 0 < s) : (takeFraction? m s fraction).isSome = true := by
  induction fraction generalizing m s with
  | nil => rfl
  | cons c rest ih =>
    rw [takeFraction?]
    split
    · exact ih (Nat.succ_pos s)
    · split
      · exact isSome_bump?_of_pos hs
      · rfl

theorem takeFraction?_eq_none_iff (hdigits : ∀ c ∈ fraction, c.isDigit = true)
    (hm : m ≤ maxMagnitude) :
    takeFraction? m 0 fraction = none ↔ m = maxMagnitude ∧ 1 / 2 ≤ fractionValue fraction := by
  cases fraction with
  | nil =>
    refine iff_of_false (by simp [takeFraction?]) fun h => ?_
    rw [fractionValue_nil] at h
    linarith [h.2]
  | cons c rest =>
    rw [half_le_fractionValue_iff hdigits, takeFraction?]
    split
    · next hroom =>
      rw [Bool.and_eq_true, decide_eq_true_eq, decide_eq_true_eq] at hroom
      have hsome : (takeFraction? (10 * m + digitOf c) 1 rest).isSome = true :=
        isSome_takeFraction?_of_pos Nat.one_pos
      refine iff_of_false (fun hnone => by simp [hnone] at hsome) fun h => ?_
      have hlarge : 10 * m ≤ maxMagnitude := le_trans (Nat.le_add_right _ _) hroom.2
      rw [h.1] at hlarge
      exact absurd hlarge (by decide)
    · split
      · next hfive =>
        unfold bump?
        split
        · exact iff_of_false (by simp) fun h => by omega
        · exact iff_of_true (by simp) ⟨by omega, hfive⟩
      · next hfive => exact iff_of_false (by simp) fun h => hfive h.2

theorem takeFraction?_of_exact {n z : ℕ} (hdigits : ∀ c ∈ fraction, c.isDigit = true)
    (hvalue : ((m : ℚ) + fractionValue fraction) * 10 ^ n = z) (hz : z ≤ maxMagnitude)
    (hscale : s + n ≤ maxScale) :
    ∃ m' s', takeFraction? m s fraction = some (m', s') ∧
      (m' : ℚ) / 10 ^ s' = (m + fractionValue fraction) / 10 ^ s := by
  induction fraction generalizing m s n z with
  | nil => exact ⟨m, s, rfl, by rw [fractionValue_nil, add_zero]⟩
  | cons c rest ih =>
    have hnext := taken_add_fractionValue_div m s c rest
    have hrest := fractionValue_nonneg rest
    have htail : ∀ d ∈ rest, d.isDigit = true := fun d hd => hdigits d (by simp [hd])
    rw [takeFraction?]
    cases n with
    | zero =>
      -- No digit counts any more, so the next one is a zero, whether there is room for it or not.
      rw [pow_zero, mul_one] at hvalue
      have hzero := fractionValue_eq_zero hdigits hvalue
      have hc : digitOf c = 0 ∧ fractionValue rest = 0 := by
        rw [fractionValue_cons, div_eq_zero_iff] at hzero
        have hsum := (add_eq_zero_iff_of_nonneg (Nat.cast_nonneg _) hrest).mp
          (hzero.resolve_right (by norm_num))
        exact ⟨by exact_mod_cast hsum.1, hsum.2⟩
      split
      · next hroom =>
        rw [Bool.and_eq_true, decide_eq_true_eq, decide_eq_true_eq] at hroom
        have hwhole : (((10 * m + digitOf c : ℕ) : ℚ) + fractionValue rest) * 10 ^ 0 =
            (10 * m + digitOf c : ℕ) := by
          rw [hc.2, add_zero, pow_zero, mul_one]
        have hnextScale : s + 1 + 0 ≤ maxScale := hroom.1
        obtain ⟨m', s', htaken, heq⟩ := ih htail hwhole hroom.2 hnextScale
        exact ⟨m', s', htaken, heq.trans hnext⟩
      · rw [hc.1, if_neg (by decide)]
        exact ⟨m, s, rfl, by rw [hzero, add_zero]⟩
    | succ n =>
      have hscaled : (((10 * m + digitOf c : ℕ) : ℚ) + fractionValue rest) * 10 ^ n = z := by
        rw [taken_add_fractionValue, ← hvalue, pow_succ]
        ring
      have hfits : 10 * m + digitOf c ≤ maxMagnitude :=
        (le_of_add_fractionValue_mul hscaled).trans hz
      have hroom : s < maxScale := by omega
      simp only [hroom, hfits, decide_true, Bool.and_self, if_true]
      have hnextScale : s + 1 + n ≤ maxScale := by omega
      obtain ⟨m', s', htaken, heq⟩ := ih htail hscaled hz hnextScale
      exact ⟨m', s', htaken, heq.trans hnext⟩

/-! ## Both sides of the point -/

theorem exists_ofParts? (negative : Bool) (hm : m ≤ maxMagnitude) (hs : s ≤ maxScale) :
    ∃ d, ofParts? negative m s = some d ∧ d.toRat = withSign negative ((m : ℚ) / 10 ^ s) := by
  obtain ⟨d, hd⟩ := Option.isSome_iff_exists.mp (isSome_ofParts?.mpr ⟨hm, hs⟩)
  exact ⟨d, hd, toRat_ofParts? hd⟩

theorem abs_withSign_sub_withSign (negative : Bool) (x y : ℚ) :
    |withSign negative x - withSign negative y| = |x - y| := by
  unfold withSign
  split
  · rw [neg_sub_neg, abs_sub_comm]
  · rfl

theorem exists_takeFraction?_of_ofDigits? (h : ofDigits? negative digits = some d) :
    digitsValue digits.whole ≤ maxMagnitude ∧
      ∃ m s, takeFraction? (digitsValue digits.whole) 0 digits.fraction = some (m, s) ∧
        d.toRat = withSign negative ((m : ℚ) / 10 ^ s) := by
  rw [ofDigits?, takeWhole?_eq] at h
  split at h
  · next hfits =>
    rw [Option.bind_eq_bind, Option.bind_some] at h
    obtain ⟨⟨m, s⟩, htaken, hparts⟩ := Option.bind_eq_some_iff.mp h
    exact ⟨hfits, m, s, htaken, toRat_ofParts? hparts⟩
  · cases h

/-- The error is at most half a unit. -/
theorem abs_ofDigits?_sub_le (h : digits.AllDigits) (hd : ofDigits? negative digits = some d) :
    |d.toRat - withSign negative digits.value| ≤ 1 / 2 := by
  obtain ⟨hfits, m, s, htaken, hrat⟩ := exists_takeFraction?_of_ofDigits? hd
  have hrounds := roundsTo_of_takeFraction? (allDigits_iff.mp h.fraction) hfits (Nat.zero_le _)
    htaken
  rw [pow_zero, div_one, ← PointedDigits.value] at hrounds
  have hunit : (1 : ℚ) ≤ 10 ^ s := one_le_pow₀ (by norm_num)
  have hpow : (0 : ℚ) < 10 ^ s := by positivity
  have hscaled : (m : ℚ) / 10 ^ s - digits.value = (m - digits.value * 10 ^ s) / 10 ^ s := by
    field_simp
  rw [hrat, abs_withSign_sub_withSign, hscaled, abs_div, abs_of_pos hpow, div_le_iff₀ hpow]
  linarith [hrounds.near]

/-- Where there is no room for a digit of the fraction, the first one decides. -/
theorem takeFraction?_of_full (hdigits : ∀ c ∈ fraction, c.isDigit = true)
    (hfull : maxMagnitude < 10 * m) (h : takeFraction? m 0 fraction = some (m', s')) :
    s' = 0 ∧ m' = ⌊(m : ℚ) + fractionValue fraction + 1 / 2⌋₊ := by
  have hlow := fractionValue_nonneg fraction
  have hhigh := fractionValue_lt_one hdigits
  have hfloor : ∀ n : ℕ, (n : ℚ) ≤ m + fractionValue fraction + 1 / 2 →
      (m : ℚ) + fractionValue fraction + 1 / 2 < n + 1 →
        n = ⌊(m : ℚ) + fractionValue fraction + 1 / 2⌋₊ :=
    fun n hle hlt => ((Nat.floor_eq_iff (by positivity)).mpr ⟨hle, hlt⟩).symm
  cases fraction with
  | nil =>
    obtain ⟨rfl, rfl⟩ := Prod.mk.inj (Option.some.inj h)
    rw [fractionValue_nil] at hfloor ⊢
    exact ⟨rfl, hfloor m (by linarith) (by linarith)⟩
  | cons c rest =>
    have hroom : ¬ 10 * m + digitOf c ≤ maxMagnitude := by omega
    rw [takeFraction?] at h
    simp only [hroom, decide_false, Bool.and_false, Bool.false_eq_true, if_false] at h
    split at h
    · next hfive =>
      have hhalf := (half_le_fractionValue_iff hdigits).mpr hfive
      unfold bump? at h
      split at h
      · obtain ⟨rfl, rfl⟩ := Prod.mk.inj (Option.some.inj h)
        exact ⟨rfl, hfloor (m + 1) (by push_cast; linarith) (by push_cast; linarith)⟩
      · cases h
    · next hfive =>
      have hsmall := not_le.mp (mt (half_le_fractionValue_iff hdigits).mp hfive)
      obtain ⟨rfl, rfl⟩ := Prod.mk.inj (Option.some.inj h)
      exact ⟨rfl, hfloor m (by linarith) (by linarith)⟩

theorem toRat_ofDigits?_of_full (h : digits.AllDigits)
    (hfull : maxMagnitude < 10 * digitsValue digits.whole)
    (hd : ofDigits? negative digits = some d) :
    d.toRat = withSign negative (⌊digits.value + 1 / 2⌋₊ : ℚ) := by
  obtain ⟨_, m, s, htaken, hrat⟩ := exists_takeFraction?_of_ofDigits? hd
  obtain ⟨rfl, rfl⟩ := takeFraction?_of_full (allDigits_iff.mp h.fraction) hfull htaken
  rw [hrat, pow_zero, div_one, PointedDigits.value]

/-- The reader fails exactly for a number that is half a unit or more beyond the greatest
decimal. -/
theorem ofDigits?_eq_none_iff (negative : Bool) (h : digits.AllDigits) :
    ofDigits? negative digits = none ↔ (maxMagnitude : ℚ) + 1 / 2 ≤ digits.value := by
  have hfraction := allDigits_iff.mp h.fraction
  have hlow := fractionValue_nonneg digits.fraction
  have hhigh := fractionValue_lt_one hfraction
  rw [ofDigits?, takeWhole?_eq, PointedDigits.value]
  split
  · next hfits =>
    simp only [Option.bind_eq_bind, Option.bind_some]
    cases htaken : takeFraction? (digitsValue digits.whole) 0 digits.fraction with
    | none =>
      obtain ⟨hmax, hhalf⟩ := (takeFraction?_eq_none_iff hfraction hfits).mp htaken
      rw [hmax]
      exact iff_of_true rfl (by linarith)
    | some parts =>
      have hrounds := roundsTo_of_takeFraction? hfraction hfits (Nat.zero_le _) htaken
      obtain ⟨d, hd, _⟩ := exists_ofParts? negative hrounds.magnitude_le hrounds.scale_le
      rw [Option.bind_some, hd]
      refine iff_of_false (by simp) fun hlarge => ?_
      have hmax : digitsValue digits.whole = maxMagnitude := by
        have hcast : (maxMagnitude : ℚ) < (digitsValue digits.whole + 1 : ℕ) := by
          push_cast
          linarith
        have hlt : maxMagnitude < digitsValue digits.whole + 1 := by exact_mod_cast hcast
        omega
      rw [hmax] at hlarge
      have hnone := (takeFraction?_eq_none_iff hfraction hfits).mpr ⟨hmax, by linarith⟩
      rw [htaken] at hnone
      cases hnone
  · next hlarge =>
    have hcast : ((maxMagnitude + 1 : ℕ) : ℚ) ≤ digitsValue digits.whole := by
      exact_mod_cast not_le.mp hlarge
    push_cast at hcast
    exact iff_of_true rfl (by linarith)

theorem ofDigits?_of_exact (negative : Bool) (h : digits.AllDigits) {n z : ℕ}
    (hn : n ≤ maxScale) (hz : z ≤ maxMagnitude) (hvalue : digits.value = z / 10 ^ n) :
    ∃ d, ofDigits? negative digits = some d ∧ d.toRat = withSign negative digits.value := by
  have hfraction := allDigits_iff.mp h.fraction
  have hscaled : ((digitsValue digits.whole : ℚ) + fractionValue digits.fraction) * 10 ^ n = z := by
    rw [← PointedDigits.value, hvalue, div_mul_cancel₀ _ (by positivity)]
  have hfits : digitsValue digits.whole ≤ maxMagnitude :=
    (le_of_add_fractionValue_mul hscaled).trans hz
  obtain ⟨m, s, htaken, heq⟩ := takeFraction?_of_exact (s := 0) hfraction hscaled hz
    (by omega)
  have hrounds := roundsTo_of_takeFraction? hfraction hfits (Nat.zero_le _) htaken
  obtain ⟨d, hd, hrat⟩ := exists_ofParts? negative hrounds.magnitude_le hrounds.scale_le
  refine ⟨d, ?_, ?_⟩
  · rw [ofDigits?, takeWhole?_eq, if_pos hfits, Option.bind_eq_bind, Option.bind_some, htaken]
    exact hd
  · rw [hrat, heq, pow_zero, div_one, PointedDigits.value]

end Decimal

end XPathValues
