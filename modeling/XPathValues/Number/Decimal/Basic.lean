import XPathValues.Number.LongDivision
import XPathValues.Number.Rounding

/-!
# Decimal numbers of bounded size

A decimal is a sign, a magnitude of 96 bits and a count of fraction digits, at most 28 of them. Its
meaning is the rational `toRat`. Several decimals have one meaning, and zero may carry a sign; the
normal form has no zeros at the end of the fraction and a positive zero.

Sum, difference, product and quotient go through `ofRat?`: it keeps as many fraction digits as fit
and rounds the rest half to even, and it fails only when not even the integer fits. The remainder
is a long division of the magnitudes (`rem?`). It always fits, and it is exact unless the dividend
outgrows 96 bits when it is brought to the scale of the divisor.
-/

namespace XPathValues

namespace Decimal

/-- The greatest magnitude, with all 96 bits set. -/
def maxMagnitude : Nat := 79228162514264337593543950335

def maxScale : Nat := 28

end Decimal

structure Decimal where
  negative : Bool
  magnitude : Nat
  scale : Nat
  magnitude_le : magnitude ≤ Decimal.maxMagnitude
  scale_le : scale ≤ Decimal.maxScale
deriving DecidableEq

namespace Decimal

/-- The magnitude over the power of ten that the scale counts, with the sign. -/
def toRat (d : Decimal) : Rat :=
  let size : Rat := (d.magnitude : Rat) / (10 : Rat) ^ d.scale
  if d.negative then -size else size

def isZero (d : Decimal) : Bool :=
  d.magnitude == 0

/-- Two decimals are equal in value when their meanings are; the scale does not count. -/
def equalValue (a b : Decimal) : Bool :=
  decide (a.toRat = b.toRat)

def compare (a b : Decimal) : Ordering :=
  Rounding.compareExact a.toRat b.toRat

def zero : Decimal := ⟨false, 0, 0, by decide, by decide⟩

/-- Both parts in range. A zero is positive. -/
def ofParts? (negative : Bool) (magnitude scale : Nat) : Option Decimal :=
  if h : magnitude ≤ maxMagnitude ∧ scale ≤ maxScale then
    some ⟨negative && magnitude != 0, magnitude, scale, h.1, h.2⟩
  else none

/-- A nonnegative integer that is known to fit. -/
def ofNat (n : Nat) (h : n ≤ maxMagnitude := by decide) : Decimal :=
  ⟨false, n, 0, h, Nat.zero_le _⟩

def one : Decimal := .ofNat 1

def ofInt? (n : Int) : Option Decimal :=
  ofParts? (decide (n < 0)) n.natAbs 0

/-- Shift zeros out of the end of the fraction. -/
def stripZeros (magnitude : Nat) : Nat → Nat × Nat
  | 0 => (magnitude, 0)
  | scale + 1 =>
    if magnitude % 10 = 0 then stripZeros (magnitude / 10) scale else (magnitude, scale + 1)

theorem stripZeros_le (magnitude scale : Nat) :
    (stripZeros magnitude scale).1 ≤ magnitude ∧ (stripZeros magnitude scale).2 ≤ scale := by
  induction scale generalizing magnitude with
  | zero => exact ⟨Nat.le_refl _, Nat.le_refl _⟩
  | succ scale ih =>
    unfold stripZeros
    split
    · have h := ih (magnitude / 10)
      omega
    · exact ⟨Nat.le_refl _, Nat.le_refl _⟩

/-- The decimal of the same value with the fewest fraction digits, and a positive zero. -/
def normalize (d : Decimal) : Decimal :=
  let parts := stripZeros d.magnitude d.scale
  ⟨d.negative && parts.1 != 0, parts.1, parts.2,
    Nat.le_trans (stripZeros_le _ _).1 d.magnitude_le,
    Nat.le_trans (stripZeros_le _ _).2 d.scale_le⟩

/-- The nearest decimal with the given scale, a tie going to the even neighbour, if it fits. -/
def atScale? (q : Rat) (scale : Nat) : Option Decimal :=
  ofParts? (decide (q < 0)) (Rounding.halfEven (q * (10 : Rat) ^ scale)).natAbs scale

/-- The first scale that fits, from the given one downwards. -/
def atMostScale? (q : Rat) : Nat → Option Decimal
  | 0 => atScale? q 0
  | scale + 1 => (atScale? q (scale + 1)).or (atMostScale? q scale)

/-- The decimal nearest to a rational at the finest scale at which it fits, in normal form. -/
def ofRat? (q : Rat) : Option Decimal :=
  (atMostScale? q maxScale).map normalize

def neg (d : Decimal) : Decimal :=
  { d with negative := !d.negative }

def abs (d : Decimal) : Decimal :=
  { d with negative := false }

def wholePart (d : Decimal) : Nat :=
  d.magnitude / Nat.pow 10 d.scale

/-- The digits after the point, as a count of the unit of the scale. -/
def fractionPart (d : Decimal) : Nat :=
  d.magnitude % Nat.pow 10 d.scale

theorem wholePart_le (d : Decimal) : d.wholePart ≤ maxMagnitude :=
  Nat.le_trans (Nat.div_le_self _ _) d.magnitude_le

theorem wholePart_succ_le (d : Decimal) (h : d.fractionPart ≠ 0) :
    d.wholePart + 1 ≤ maxMagnitude := by
  have hmag := d.magnitude_le
  have hpow : 1 < Nat.pow 10 d.scale := by
    rcases Nat.lt_or_ge 1 (Nat.pow 10 d.scale) with hlt | hge
    · exact hlt
    · have hone : Nat.pow 10 d.scale = 1 :=
        Nat.le_antisymm hge (Nat.pos_of_ne_zero (by simp [Nat.pow_eq]))
      exact absurd (by rw [fractionPart, hone, Nat.mod_one]) h
  have hfrac : d.magnitude ≠ 0 := by
    intro hzero
    exact h (by simp [fractionPart, hzero])
  have hlt : d.magnitude / Nat.pow 10 d.scale < d.magnitude :=
    Nat.div_lt_self (Nat.pos_of_ne_zero hfrac) hpow
  unfold wholePart
  omega

def truncate (d : Decimal) : Decimal :=
  ⟨d.negative && d.wholePart != 0, d.wholePart, 0, d.wholePart_le, Nat.zero_le _⟩

/-- The integer next to a decimal with a fraction on the side away from zero. -/
def awayFromZero (d : Decimal) (h : d.fractionPart ≠ 0) : Decimal :=
  ⟨d.negative, d.wholePart + 1, 0, d.wholePart_succ_le h, Nat.zero_le _⟩

def floor (d : Decimal) : Decimal :=
  if h : d.fractionPart ≠ 0 then
    if d.negative then d.awayFromZero h else d.truncate
  else d.truncate

def ceil (d : Decimal) : Decimal :=
  if h : d.fractionPart ≠ 0 then
    if d.negative then d.truncate else d.awayFromZero h
  else d.truncate

def toInt (d : Decimal) : Int :=
  if d.negative then -(d.wholePart : Int) else d.wholePart

/-- The integer part, if it fits into so many bits with its sign. -/
def toInt? (d : Decimal) (bits : Nat) : Option Int :=
  if -(Int.pow 2 (bits - 1)) ≤ d.toInt ∧ d.toInt < Int.pow 2 (bits - 1) then some d.toInt
  else none

def add? (a b : Decimal) : Option Decimal := ofRat? (a.toRat + b.toRat)

def sub? (a b : Decimal) : Option Decimal := ofRat? (a.toRat - b.toRat)

def mul? (a b : Decimal) : Option Decimal := ofRat? (a.toRat * b.toRat)

/-- The quotient; a zero divisor has none. -/
def div? (a b : Decimal) : Option Decimal :=
  if b.isZero then none else ofRat? (a.toRat / b.toRat)

/-- The magnitude at a scale that is not below the decimal's own. -/
def magnitudeAt (d : Decimal) (scale : Nat) : Nat :=
  d.magnitude * Nat.pow 10 (scale - d.scale)

/-- The remainder of the magnitudes at the greater of the two scales, with the sign of the
dividend. A zero divisor has none. -/
def rem? (a b : Decimal) : Option Decimal :=
  if b.isZero then none
  else
    let scale := max a.scale b.scale
    let rest := LongDivision.remainder (a.magnitudeAt scale) (b.magnitudeAt scale)
    (ofParts? a.negative rest scale).map normalize

/-- The nearest decimal with at most the given count of fraction digits. -/
def roundToPlaces? (d : Decimal) (places : Nat) : Option Decimal :=
  if d.scale ≤ places then some d
  else ofRat? ((Rounding.halfEven (d.toRat * (10 : Rat) ^ places) : Rat) / (10 : Rat) ^ places)

@[simp] theorem toRat_zero : zero.toRat = 0 := by
  decide +kernel

@[simp] theorem toRat_neg (d : Decimal) : d.neg.toRat = -d.toRat := by
  cases hd : d.negative
  · simp [toRat, neg, hd]
  · simp only [toRat, neg, hd, Bool.not_true, Bool.false_eq_true, if_false, if_true]
    exact (Rat.neg_neg _).symm

theorem natAbs_toInt_le (d : Decimal) : d.toInt.natAbs ≤ maxMagnitude := by
  have h := d.wholePart_le
  unfold toInt
  split <;> omega

theorem toInt?_eq_some_iff {d : Decimal} {bits : Nat} {n : Int} :
    d.toInt? bits = some n ↔
      n = d.toInt ∧ -(Int.pow 2 (bits - 1)) ≤ n ∧ n < Int.pow 2 (bits - 1) := by
  unfold toInt?
  split
  · next h =>
    constructor
    · rintro ⟨⟩
      exact ⟨rfl, h⟩
    · rintro ⟨rfl, _⟩
      rfl
  · next h =>
    constructor
    · rintro ⟨⟩
    · rintro ⟨rfl, hfits⟩
      exact absurd hfits h

theorem magnitudeAt_of_le {d : Decimal} {scale : Nat} (h : scale ≤ d.scale) :
    d.magnitudeAt scale = d.magnitude := by
  rw [magnitudeAt, Nat.sub_eq_zero_of_le h]
  exact Nat.mul_one _

theorem remainder_magnitudeAt_of_le {a b : Decimal} (h : b.scale ≤ a.scale) :
    LongDivision.remainder (a.magnitudeAt (max a.scale b.scale))
      (b.magnitudeAt (max a.scale b.scale)) = a.magnitude % b.magnitudeAt a.scale := by
  rw [Nat.max_eq_left h, magnitudeAt_of_le (Nat.le_refl _)]
  exact LongDivision.remainder_eq_mod (Nat.lt_succ_of_le a.magnitude_le) _

theorem isSome_rem? {a b : Decimal} (h : b.isZero = false) : (a.rem? b).isSome = true := by
  have hb : b.magnitude ≠ 0 := by simpa [isZero] using h
  have hfits : LongDivision.remainder (a.magnitudeAt (max a.scale b.scale))
      (b.magnitudeAt (max a.scale b.scale)) ≤ maxMagnitude := by
    rcases Nat.le_total b.scale a.scale with hle | hge
    · rw [remainder_magnitudeAt_of_le hle]
      exact Nat.le_trans (Nat.mod_le _ _) a.magnitude_le
    · rw [Nat.max_eq_right hge, magnitudeAt_of_le (d := b) (Nat.le_refl _)]
      exact Nat.le_trans (Nat.le_of_lt (LongDivision.remainder_lt (Nat.pos_of_ne_zero hb) _))
        b.magnitude_le
  have hscale : max a.scale b.scale ≤ maxScale := Nat.max_le.mpr ⟨a.scale_le, b.scale_le⟩
  simp [rem?, h, ofParts?, hfits, hscale]

theorem add?_comm (a b : Decimal) : add? a b = add? b a := by
  rw [add?, add?, Rat.add_comm]

theorem mul?_comm (a b : Decimal) : mul? a b = mul? b a := by
  rw [mul?, mul?, Rat.mul_comm]

end Decimal

end XPathValues
