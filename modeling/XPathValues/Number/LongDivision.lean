/-!
# Long division in words

The remainder of a long division with words of 32 bits and a divisor of up to three words. The
dividend is read from its first word on; each word is put at the end of the remainder so far, which
is then reduced by the divisor.

A divisor of three words is first shifted until its highest bit is set, because then the leading
words of remainder and divisor yield the next digit of the quotient. Where these two words are
equal, the digit needs more than one word, and the remainder loses its leading word instead. So the
result is smaller than the divisor (`remainder_lt`) but not always what is left over. It is what is
left over for a divisor of two words and for a dividend of three (`remainder_eq_mod`).
-/

namespace XPathValues.LongDivision

def wordSize : Nat := 4294967296

/-- The word above the two lowest ones. -/
def leadingWord (n : Nat) : Nat :=
  n / (wordSize * wordSize)

/-- The remainder after one more word of the dividend. -/
def step (divisor remainder word : Nat) : Nat :=
  let extended := remainder * wordSize + word
  if leadingWord remainder = leadingWord divisor then
    extended % (wordSize * wordSize * wordSize) % divisor
  else extended % divisor

/-- The remainder after all words of the dividend, the last of which is its lowest. -/
def scan (divisor dividend : Nat) : Nat :=
  if dividend = 0 then 0
  else step divisor (scan divisor (dividend / wordSize)) (dividend % wordSize)
termination_by dividend
decreasing_by exact Nat.div_lt_self (by omega) (by decide)

/-- The power of two that brings a divisor of three words to its full 96 bits. -/
def fullShift (divisor : Nat) : Nat :=
  Nat.pow 2 (95 - divisor.log2)

/-- Dividend and divisor are shifted alike, and the remainder is shifted back. -/
def remainder (dividend divisor : Nat) : Nat :=
  if divisor < wordSize * wordSize then dividend % divisor
  else
    let shift := fullShift divisor
    scan (divisor * shift) (dividend * shift) / shift

theorem fullShift_pos (divisor : Nat) : 0 < fullShift divisor :=
  Nat.pow_pos (by decide)

theorem step_lt {divisor : Nat} (h : 0 < divisor) (rest word : Nat) :
    step divisor rest word < divisor := by
  unfold step
  dsimp only
  split <;> exact Nat.mod_lt _ h

theorem scan_lt {divisor : Nat} (h : 0 < divisor) (dividend : Nat) :
    scan divisor dividend < divisor := by
  unfold scan
  split
  · exact h
  · exact step_lt h _ _

theorem remainder_lt {divisor : Nat} (h : 0 < divisor) (dividend : Nat) :
    remainder dividend divisor < divisor := by
  unfold remainder
  split
  · exact Nat.mod_lt _ h
  · exact Nat.div_lt_of_lt_mul
      (Nat.mul_comm divisor _ ▸ scan_lt (Nat.mul_pos h (fullShift_pos divisor)) _)

/-- A word is taken without loss where the leading words differ. -/
theorem step_eq_mod {divisor rest : Nat} (h : leadingWord rest ≠ leadingWord divisor)
    (word : Nat) : step divisor rest word = (rest * wordSize + word) % divisor :=
  if_neg h

/-- With its highest bit set, the divisor has a leading word that no remainder reaches before the
last word of a dividend of less than 127 bits. -/
theorem scan_eq_mod {divisor : Nat} (hdivisor : 39614081257132168796771975168 ≤ divisor)
    (dividend : Nat) (hdividend : dividend < 170141183460469231731687303715884105728) :
    scan divisor dividend = dividend % divisor := by
  induction dividend using Nat.strongRecOn with
  | ind dividend ih =>
    unfold scan
    split
    · next hzero => rw [hzero, Nat.zero_mod]
    · next hpos =>
      have hshort : dividend / wordSize < 39614081257132168796771975168 := by
        unfold wordSize
        omega
      have hprevious : scan divisor (dividend / wordSize) = dividend / wordSize := by
        rw [ih _ (Nat.div_lt_self (by omega) (by decide)) (by omega)]
        exact Nat.mod_eq_of_lt (by omega)
      have hlead : leadingWord (dividend / wordSize) ≠ leadingWord divisor := by
        unfold leadingWord wordSize at *
        omega
      rw [hprevious, step_eq_mod hlead, Nat.div_add_mod']

theorem le_mul_fullShift {divisor : Nat} (h : divisor ≠ 0) :
    39614081257132168796771975168 ≤ divisor * fullShift divisor := by
  have hlog : Nat.pow 2 divisor.log2 ≤ divisor := Nat.log2_self_le h
  rcases Nat.le_total divisor.log2 95 with hle | hge
  · calc 39614081257132168796771975168
        = Nat.pow 2 (divisor.log2 + (95 - divisor.log2)) := by rw [Nat.add_sub_cancel' hle]
      _ = Nat.pow 2 divisor.log2 * fullShift divisor := Nat.pow_add 2 _ _
      _ ≤ divisor * fullShift divisor := Nat.mul_le_mul_right _ hlog
  · calc 39614081257132168796771975168
        ≤ Nat.pow 2 divisor.log2 := Nat.pow_le_pow_right Nat.two_pos hge
      _ ≤ divisor := hlog
      _ ≤ divisor * fullShift divisor := Nat.le_mul_of_pos_right _ (fullShift_pos divisor)

theorem fullShift_le {divisor : Nat} (h : wordSize * wordSize ≤ divisor) :
    fullShift divisor ≤ 2147483648 := by
  have hlog : 64 ≤ divisor.log2 := (Nat.le_log2 (by unfold wordSize at h; omega)).mpr h
  have hshift : 95 - divisor.log2 ≤ 31 := by omega
  exact Nat.pow_le_pow_right Nat.two_pos hshift

theorem remainder_eq_mod {dividend : Nat} (h : dividend < 79228162514264337593543950336)
    (divisor : Nat) : remainder dividend divisor = dividend % divisor := by
  unfold remainder
  split
  · rfl
  · next hwide =>
    have hwide := Nat.le_of_not_lt hwide
    have hshift := fullShift_le hwide
    dsimp only
    rw [scan_eq_mod (le_mul_fullShift (by unfold wordSize at hwide; omega)),
      Nat.mul_mod_mul_right, Nat.mul_div_cancel _ (fullShift_pos divisor)]
    calc dividend * fullShift divisor
        ≤ dividend * 2147483648 := Nat.mul_le_mul_left _ hshift
      _ < 170141183460469231731687303715884105728 := by omega

end XPathValues.LongDivision
