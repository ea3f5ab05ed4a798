import Mathlib.Tactic
import XPathValues.Proofs.Text.Layout

/-!
# Digits behind a point

Digits behind a point denote a number from zero on and below one. Their first digit tells whether
it reaches one half, zeros at their end do not count, and cutting them off after some digits rounds
the number down.
-/

namespace XPathValues.Text

/-- The number that digits behind the point denote. -/
def fractionValue (digits : List Char) : ℚ :=
  digitsValue digits / 10 ^ digits.length

theorem digitOf_le {c : Char} (h : c.isDigit = true) : digitOf c ≤ 9 := by
  simp only [Char.isDigit, Bool.and_eq_true, decide_eq_true_eq] at h
  have hle : c.toNat ≤ '9'.toNat := h.2
  unfold digitOf
  simp only [Char.reduceToNat] at *
  omega

theorem ofDigitChars_eq (digits : List Char) (n : ℕ) :
    Nat.ofDigitChars 10 digits n = n * 10 ^ digits.length + digitsValue digits := by
  rw [Nat.ofDigitChars_eq_ofDigitChars_zero, digitsValue, Nat.mul_comm]

@[simp] theorem fractionValue_nil : fractionValue [] = 0 := by
  simp [fractionValue, digitsValue]

theorem fractionValue_cons (c : Char) (rest : List Char) :
    fractionValue (c :: rest) = (digitOf c + fractionValue rest) / 10 := by
  have hvalue : digitsValue (c :: rest) = digitOf c * 10 ^ rest.length + digitsValue rest := by
    rw [digitsValue, Nat.ofDigitChars_cons, ofDigitChars_eq, Nat.mul_zero, Nat.zero_add]
    rfl
  rw [fractionValue, fractionValue, hvalue, List.length_cons, pow_succ]
  push_cast
  field_simp

theorem fractionValue_nonneg (digits : List Char) : 0 ≤ fractionValue digits := by
  unfold fractionValue
  positivity

theorem fractionValue_lt_one {digits : List Char} (h : ∀ c ∈ digits, c.isDigit = true) :
    fractionValue digits < 1 := by
  induction digits with
  | nil => simp
  | cons c rest ih =>
    have hc : (digitOf c : ℚ) ≤ 9 := by exact_mod_cast digitOf_le (h c (by simp))
    have hrest := ih fun d hd => h d (by simp [hd])
    rw [fractionValue_cons]
    linarith

theorem half_le_fractionValue_iff {c : Char} {rest : List Char}
    (h : ∀ d ∈ c :: rest, d.isDigit = true) :
    1 / 2 ≤ fractionValue (c :: rest) ↔ 5 ≤ digitOf c := by
  have hrest := fractionValue_lt_one fun d hd => h d (List.mem_cons_of_mem c hd)
  have hnonneg := fractionValue_nonneg rest
  rw [fractionValue_cons]
  constructor
  · intro hhalf
    by_contra hlt
    have hsmall : (digitOf c : ℚ) ≤ 4 := by exact_mod_cast (by omega : digitOf c ≤ 4)
    linarith
  · intro hge
    have hlarge : (5 : ℚ) ≤ digitOf c := by exact_mod_cast hge
    linarith

theorem fractionValue_eq_zero {digits : List Char} (h : ∀ c ∈ digits, c.isDigit = true) {m z : ℕ}
    (hvalue : (m : ℚ) + fractionValue digits = z) : fractionValue digits = 0 := by
  have hnonneg := fractionValue_nonneg digits
  have hlt := fractionValue_lt_one h
  have hle : m ≤ z := by
    have hcast : (m : ℚ) ≤ z := by linarith
    exact_mod_cast hcast
  have hge : z < m + 1 := by
    have hcast : (z : ℚ) < (m + 1 : ℕ) := by
      push_cast
      linarith
    exact_mod_cast hcast
  obtain rfl : m = z := by omega
  linarith

theorem fractionValue_append_zeros (digits : List Char) (count : ℕ) :
    fractionValue (digits ++ List.replicate count '0') = fractionValue digits := by
  induction digits with
  | nil =>
    induction count with
    | zero => rfl
    | succ count ih =>
      have hzero : digitOf '0' = 0 := rfl
      rw [List.nil_append] at *
      rw [List.replicate_succ, fractionValue_cons, ih, hzero]
      simp
  | cons c rest ih => rw [List.cons_append, fractionValue_cons, fractionValue_cons, ih]

theorem fractionValue_dropTrailingZeros (digits : List Char) :
    fractionValue (dropTrailingZeros digits) = fractionValue digits := by
  obtain ⟨count, hdigits⟩ := dropTrailingZeros_append digits
  conv_rhs => rw [hdigits]
  exact (fractionValue_append_zeros _ _).symm

theorem allDigits_dropTrailingZeros {digits : List Char} (h : allDigits digits = true) :
    allDigits (dropTrailingZeros digits) = true := by
  obtain ⟨count, hdigits⟩ := dropTrailingZeros_append digits
  refine allDigits_iff.mpr fun c hc => allDigits_iff.mp h c ?_
  rw [hdigits]
  exact List.mem_append_left _ hc

theorem digitsValue_dropLeadingZeros (digits : List Char) :
    digitsValue (dropLeadingZeros digits) = digitsValue digits := by
  induction digits with
  | nil => rfl
  | cons c rest ih =>
    unfold dropLeadingZeros at *
    by_cases hc : c = '0'
    · subst hc
      rw [List.dropWhile_cons_of_pos (by simp), ih]
      simp [digitsValue, Nat.ofDigitChars_cons]
    · rw [List.dropWhile_cons_of_neg (by simpa using hc)]

theorem fractionValue_append (digits rest : List Char) :
    fractionValue (digits ++ rest) =
      (digitsValue digits + fractionValue rest) / 10 ^ digits.length := by
  have hvalue : digitsValue (digits ++ rest) =
      digitsValue digits * 10 ^ rest.length + digitsValue rest := by
    rw [digitsValue, Nat.ofDigitChars_append, ofDigitChars_eq]
    rfl
  rw [fractionValue, fractionValue, hvalue, List.length_append, pow_add]
  push_cast
  field_simp

theorem digitsValue_take {digits : List Char} (h : ∀ c ∈ digits, c.isDigit = true) (count : ℕ) :
    digitsValue ((digits ++ List.replicate count '0').take count) =
      ⌊fractionValue digits * 10 ^ count⌋₊ := by
  set filled := digits ++ List.replicate count '0' with hfilled
  have hlength : (filled.take count).length = count := by
    rw [List.length_take, hfilled, List.length_append, List.length_replicate]
    omega
  have hrest : ∀ c ∈ filled.drop count, c.isDigit = true := by
    intro c hc
    rcases List.mem_append.mp (List.mem_of_mem_drop hc) with hc | hc
    · exact h c hc
    · rw [(List.mem_replicate.mp hc).2]
      rfl
  have hsplit : fractionValue digits * 10 ^ count =
      digitsValue (filled.take count) + fractionValue (filled.drop count) := by
    rw [← fractionValue_append_zeros digits count, ← hfilled,
      ← List.take_append_drop count filled, fractionValue_append, hlength,
      List.take_append_drop, div_mul_cancel₀ _ (by positivity)]
  have hlow := fractionValue_nonneg (filled.drop count)
  have hhigh := fractionValue_lt_one hrest
  refine ((Nat.floor_eq_iff ?_).mpr ⟨?_, ?_⟩).symm
  · rw [hsplit]
    positivity
  · rw [hsplit]
    linarith
  · rw [hsplit]
    linarith

end XPathValues.Text
