import Mathlib.Tactic
import XPathValues.Proofs.Number.DecimalReading

/-!
# Decimal literals

The reader takes the texts that a literal spells, and only those. It finds the number of the
literal without error where a decimal has that number, and gives up only for numbers beyond the
greatest decimal. The writer spells a literal without anything superfluous.
-/

namespace XPathValues

open Text

/-- Digits with at most one point, and digits on at least one side of it. -/
inductive DecimalBody where
  | whole (digits : DigitRun)
  | pointed (digits : DigitRun) (behind : Option DigitRun)
  | fraction (digits : DigitRun)

namespace DecimalBody

def chars : DecimalBody → List Char
  | whole digits => digits.chars
  | pointed digits behind => digits.chars ++ '.' :: optionalDigits behind
  | fraction digits => '.' :: digits.chars

def value : DecimalBody → ℚ
  | whole digits => digits.value
  | pointed digits behind => digits.value + (behind.map DigitRun.fraction).getD 0
  | fraction digits => digits.fraction

def sides : DecimalBody → PointedDigits
  | whole digits => ⟨digits.chars, []⟩
  | pointed digits behind => ⟨digits.chars, optionalDigits behind⟩
  | fraction digits => ⟨[], digits.chars⟩

theorem value_sides (body : DecimalBody) : body.sides.value = body.value := by
  cases body with
  | whole digits => simp [sides, value, PointedDigits.value, DigitRun.value]
  | pointed digits behind =>
    cases behind with
    | none => simp [sides, value, PointedDigits.value, DigitRun.value, optionalDigits]
    | some behind => rfl
  | fraction digits => simp [sides, value, PointedDigits.value, DigitRun.fraction, digitsValue]

theorem allDigits_sides (body : DecimalBody) : body.sides.AllDigits := by
  cases body with
  | whole digits => exact ⟨digits.digits, rfl⟩
  | pointed digits behind => exact ⟨digits.digits, allDigits_optionalDigits behind⟩
  | fraction digits => exact ⟨rfl, digits.digits⟩

theorem isPoint_of_mem {digits : DigitRun} : ∀ c ∈ digits.chars, (c == '.') = false :=
  fun c hc => Decimal.ne_point_of_isDigit (digits.isDigit_of_mem c hc)

theorem read?_chars (body : DecimalBody) : PointedDigits.read? body.chars = some body.sides := by
  cases body with
  | whole digits =>
    have hcut : cutAt? (· == '.') digits.chars = none := cutAt?_eq_none_iff.mpr isPoint_of_mem
    simp [PointedDigits.read?, chars, sides, hcut, digits.digits]
  | pointed digits behind =>
    have hcut : cutAt? (· == '.') (digits.chars ++ '.' :: optionalDigits behind) =
        some (digits.chars, optionalDigits behind) := cutAt?_append_cons isPoint_of_mem rfl
    simp [PointedDigits.read?, chars, sides, hcut, digits.digits, allDigits_optionalDigits]
  | fraction digits =>
    have hcut : cutAt? (· == '.') ('.' :: digits.chars) = some ([], digits.chars) := rfl
    simp [PointedDigits.read?, chars, sides, hcut, digits.digits]

theorem exists_of_read? {text : List Char} {digits : PointedDigits}
    (h : PointedDigits.read? text = some digits) :
    ∃ body : DecimalBody, body.chars = text ∧ body.sides = digits := by
  unfold PointedDigits.read? at h
  cases hcut : cutAt? (· == '.') text with
  | none =>
    simp only [hcut, Option.getD_none] at h
    split at h
    · cases h
    · next hdigits =>
      simp only [List.isEmpty_nil, Bool.and_true, Bool.or_eq_true, List.isEmpty_iff,
        Bool.not_eq_true', not_or, Bool.not_eq_false] at hdigits
      exact ⟨whole ⟨text, hdigits.1.1, hdigits.1.2⟩, rfl, Option.some.inj h⟩
  | some parts =>
    obtain ⟨before, after⟩ := parts
    obtain ⟨point, hpoint, _, rfl⟩ := cutAt?_eq_some hcut
    obtain rfl : point = '.' := by simpa using hpoint
    simp only [hcut, Option.getD_some] at h
    split at h
    · cases h
    · next hdigits =>
      simp only [Bool.or_eq_true, Bool.and_eq_true, List.isEmpty_iff, Bool.not_eq_true', not_or,
        Bool.not_eq_false] at hdigits
      obtain ⟨⟨hne, hwhole⟩, hfraction⟩ := hdigits
      by_cases hnil : before = []
      · subst hnil
        exact ⟨fraction ⟨after, fun hempty => hne ⟨rfl, hempty⟩, hfraction⟩, rfl,
          Option.some.inj h⟩
      · obtain ⟨run, rfl⟩ := exists_optionalDigits hfraction
        exact ⟨pointed ⟨before, hnil, hwhole⟩ run, rfl, Option.some.inj h⟩

theorem head?_chars (body : DecimalBody) {c : Char} (hc : c.isDigit = false) (hpoint : c ≠ '.') :
    body.chars.head? ≠ some c := by
  have hrun : ∀ (run : DigitRun) (rest : List Char), (run.chars ++ rest).head? ≠ some c := by
    intro run rest hhead
    obtain ⟨d, tail, hcons, hd⟩ := run.exists_cons
    rw [hcons, List.cons_append, List.head?_cons, Option.some.injEq] at hhead
    rw [hhead, hc] at hd
    cases hd
  cases body with
  | whole digits => simpa [chars] using hrun digits []
  | pointed digits behind => exact hrun digits _
  | fraction digits => simpa [chars] using Ne.symm hpoint

end DecimalBody

structure DecimalLiteral where
  sign : Sign
  body : DecimalBody

namespace DecimalLiteral

def chars (l : DecimalLiteral) : List Char :=
  l.sign.chars ++ l.body.chars

def value (l : DecimalLiteral) : ℚ :=
  withSign l.sign.isMinus l.body.value

/-- Nothing in front of the digits or behind them could be left out. -/
def IsCanonical (l : DecimalLiteral) : Prop :=
  l.sign ≠ .plus ∧
    match l.body with
    | .whole digits => digits.chars.head? = some '0' → digits.chars = ['0']
    | .pointed digits (some behind) =>
      (digits.chars.head? = some '0' → digits.chars = ['0']) ∧ behind.chars.getLast? ≠ some '0'
    | .pointed _ none => False
    | .fraction _ => False

theorem splitSign_chars (l : DecimalLiteral) :
    splitSign l.chars = (l.sign.isMinus, l.body.chars) :=
  l.sign.splitSign_append (l.body.head?_chars rfl (by decide)) (l.body.head?_chars rfl (by decide))

theorem abs_value (l : DecimalLiteral) : |l.value| = l.body.value := by
  have hnonneg : 0 ≤ l.body.value := l.body.value_sides ▸ PointedDigits.value_nonneg _
  unfold value withSign
  split
  · rw [abs_neg, abs_of_nonneg hnonneg]
  · exact abs_of_nonneg hnonneg

end DecimalLiteral

namespace Decimal

variable {text : List Char} {d : Decimal}

theorem read_chars (l : DecimalLiteral) :
    read l.chars = match ofDigits? l.sign.isMinus l.body.sides.trim with
      | none => .error .tooLarge
      | some d => .ok d := by
  cases hdigits : ofDigits? l.sign.isMinus l.body.sides.trim with
  | none => simp only [read, l.splitSign_chars, l.body.read?_chars, hdigits]
  | some d => simp only [read, l.splitSign_chars, l.body.read?_chars, hdigits]

theorem read_of_not_literal (h : ¬ ∃ l : DecimalLiteral, l.chars = text) :
    read text = .error .malformed := by
  have hnone : PointedDigits.read? (splitSign text).2 = none := by
    cases hread : PointedDigits.read? (splitSign text).2 with
    | none => rfl
    | some digits =>
      obtain ⟨body, hbody, _⟩ := DecimalBody.exists_of_read? hread
      obtain ⟨sign, htext, _⟩ := Sign.exists_splitSign_eq text
      refine absurd ⟨⟨sign, body⟩, ?_⟩ h
      rw [DecimalLiteral.chars, hbody]
      exact htext.symm
  simp only [read, hnone]

theorem read_eq_malformed_iff :
    read text = .error .malformed ↔ ¬ ∃ l : DecimalLiteral, l.chars = text := by
  constructor
  · rintro h ⟨l, rfl⟩
    rw [read_chars] at h
    split at h <;> cases h
  · exact read_of_not_literal

theorem read_chars_eq_tooLarge_iff (l : DecimalLiteral) :
    read l.chars = .error .tooLarge ↔ (maxMagnitude : ℚ) + 1 / 2 ≤ |l.value| := by
  rw [l.abs_value, ← l.body.value_sides, ← PointedDigits.value_trim,
    ← ofDigits?_eq_none_iff l.sign.isMinus l.body.allDigits_sides.trim, read_chars]
  split
  · next hnone => exact iff_of_true rfl hnone
  · next hsome => exact iff_of_false (by simp) (by simp [hsome])

/-- The sign of the numerator is that of the literal, so its size is what has to be stored. -/
theorem read_chars_of_exact (l : DecimalLiteral) {m : ℤ} {n : ℕ} (hm : m.natAbs ≤ maxMagnitude)
    (hn : n ≤ maxScale) (hvalue : l.value = m / 10 ^ n) :
    ∃ d, read l.chars = .ok d ∧ d.toRat = l.value := by
  have hsize : l.body.sides.trim.value = (m.natAbs : ℚ) / 10 ^ n := by
    rw [PointedDigits.value_trim, l.body.value_sides, ← l.abs_value, hvalue, abs_div, abs_pow,
      Nat.cast_natAbs, Int.cast_abs, Nat.abs_ofNat]
  obtain ⟨d, hd, hrat⟩ := ofDigits?_of_exact l.sign.isMinus l.body.allDigits_sides.trim hn hm
    hsize
  refine ⟨d, by rw [read_chars, hd], ?_⟩
  rw [hrat, PointedDigits.value_trim, l.body.value_sides]
  rfl

/-! ## The literal of a written decimal -/

theorem value_pointedDigits (d : Decimal) :
    d.pointedDigits.value = (d.magnitude : ℚ) / 10 ^ d.scale := by
  rw [PointedDigits.value_eq, coefficient_pointedDigits, length_pointedDigits_fraction]

def wholeRun (d : Decimal) : DigitRun :=
  ⟨d.pointedDigits.whole, d.pointedDigits_whole_ne_nil,
    allDigits_iff.mpr d.isDigit_pointedDigits_whole⟩

theorem wholeRun_eq_zero (h : d.wholeRun.chars.head? = some '0') : d.wholeRun.chars = ['0'] := by
  by_cases hzero : d.wholePart = 0
  · simp [wholeRun, pointedDigits, hzero]
  · exact absurd h (head?_toDigits_ne_zero hzero)

theorem fraction_eq_nil_iff (d : Decimal) : d.pointedDigits.fraction = [] ↔ d.scale = 0 := by
  rw [← List.length_eq_zero_iff, length_pointedDigits_fraction]

def fractionRun? (d : Decimal) : Option DigitRun :=
  if h : d.pointedDigits.fraction = [] then none
  else some ⟨d.pointedDigits.fraction, h, allDigits_iff.mpr d.isDigit_pointedDigits_fraction⟩

theorem fractionRun?_eq_none_iff : d.fractionRun? = none ↔ d.scale = 0 := by
  rw [← fraction_eq_nil_iff, fractionRun?, dite_eq_left_iff]
  simp

theorem optionalDigits_fractionRun? (d : Decimal) :
    optionalDigits d.fractionRun? = d.pointedDigits.fraction := by
  unfold fractionRun?
  split
  · next h => exact h.symm
  · rfl

/-- The point stands only in front of a fraction. -/
def literalBody (d : Decimal) : DecimalBody :=
  match d.fractionRun? with
  | none => .whole d.wholeRun
  | some fraction => .pointed d.wholeRun (some fraction)

theorem chars_literalBody (d : Decimal) : d.literalBody.chars = d.unsignedChars := by
  have hfraction := optionalDigits_fractionRun? d
  unfold literalBody unsignedChars
  split
  · next hrun =>
    rw [if_pos (fractionRun?_eq_none_iff.mp hrun)]
    rfl
  · next fraction hrun =>
    have hscale : ¬ d.scale = 0 := by simp [← fractionRun?_eq_none_iff, hrun]
    rw [if_neg hscale, ← hfraction, hrun]
    rfl

theorem sides_literalBody (d : Decimal) : d.literalBody.sides = d.pointedDigits := by
  have hfraction := optionalDigits_fractionRun? d
  unfold literalBody
  split
  · next hrun =>
    rw [hrun] at hfraction
    exact congrArg (PointedDigits.mk _) hfraction
  · next fraction hrun =>
    rw [hrun] at hfraction
    exact congrArg (PointedDigits.mk _) hfraction

theorem value_literalBody (d : Decimal) :
    d.literalBody.value = (d.magnitude : ℚ) / 10 ^ d.scale := by
  rw [← DecimalBody.value_sides, sides_literalBody, value_pointedDigits]

/-- The literal that is written for a decimal in normal form. -/
def literal (d : Decimal) : DecimalLiteral :=
  ⟨if d.negative then .minus else .absent, d.literalBody⟩

theorem chars_literal (d : Decimal) : d.literal.chars = d.normalChars := by
  rw [normalChars_eq, DecimalLiteral.chars, literal, chars_literalBody]
  cases d.negative <;> rfl

theorem value_literal (d : Decimal) : d.literal.value = d.toRat := by
  rw [DecimalLiteral.value, literal, value_literalBody]
  cases hsign : d.negative with
  | false => exact (toRat_of_positive hsign).symm
  | true =>
    rw [toRat_of_negative hsign]
    rfl

theorem IsNormal.isCanonical_literal (hd : d.IsNormal) : d.literal.IsCanonical := by
  have hsign : d.literal.sign ≠ .plus := by
    unfold literal
    cases d.negative <;> simp
  refine ⟨hsign, ?_⟩
  have hfraction := optionalDigits_fractionRun? d
  unfold literal literalBody
  cases hrun : d.fractionRun? with
  | none => exact wholeRun_eq_zero
  | some fraction =>
    have hchars : fraction.chars = d.pointedDigits.fraction := by rw [← hfraction, hrun]; rfl
    exact ⟨wholeRun_eq_zero, hchars ▸ hd.getLast?_fraction⟩

/-! ## Reading and writing -/

/-- What a text is read as, in every case. -/
structure ReadsDecimal (text : List Char) (outcome : Except ReadFailure Decimal) : Prop where
  malformed : outcome = .error .malformed ↔ ¬ ∃ l : DecimalLiteral, l.chars = text
  exact : ∀ l : DecimalLiteral, l.chars = text → ∀ (m : ℤ) (n : ℕ), |m| < 2 ^ 96 → n ≤ 28 →
    l.value = m / 10 ^ n → ∃ d, outcome = .ok d ∧ d.toRat = l.value
  tooLarge : ∀ l : DecimalLiteral, l.chars = text → outcome = .error .tooLarge →
    2 ^ 96 - 1 < |l.value|

/-- A literal of the value without anything superfluous, which is read as that value. -/
structure WritesDecimal (d : Decimal) (text : List Char) : Prop where
  canonical : ∃ l : DecimalLiteral, l.chars = text ∧ l.IsCanonical ∧ l.value = d.toRat
  readBack : ∃ e, read text = .ok e ∧ e.equalValue d = true

theorem maxMagnitude_eq : maxMagnitude = 2 ^ 96 - 1 := by decide

theorem readsDecimal (text : List Char) : ReadsDecimal text (read text) where
  malformed := read_eq_malformed_iff
  exact := by
    rintro l rfl m n hm hn hvalue
    have hmagnitude : m.natAbs ≤ maxMagnitude := by
      rw [maxMagnitude_eq]
      rw [Int.abs_eq_natAbs] at hm
      omega
    exact read_chars_of_exact l hmagnitude hn hvalue
  tooLarge := by
    rintro l rfl h
    have hlarge := (read_chars_eq_tooLarge_iff l).mp h
    have hmax : (maxMagnitude : ℚ) = 2 ^ 96 - 1 := by norm_num [maxMagnitude]
    linarith

theorem writesDecimal (d : Decimal) : WritesDecimal d d.toText.toList := by
  have htext : d.toText.toList = d.toChars := String.toList_ofList
  rw [htext]
  refine ⟨⟨d.normalize.literal, ?_, ?_, ?_⟩, d.normalize, read_toChars d, ?_⟩
  · exact chars_literal d.normalize
  · exact (isNormal_normalize d).isCanonical_literal
  · rw [value_literal, toRat_normalize]
  · simp [equalValue]

/-- A text is a decimal exactly when a literal spells it. The number of the literal is found without
error where a decimal has it, and given up only beyond the greatest decimal. Every decimal is
written as a literal without anything superfluous that is read as its value. -/
theorem decimal_reading (text : String) :
    ReadsDecimal text.toList (read text.toList) ∧
      ∀ d : Decimal, WritesDecimal d d.toText.toList :=
  ⟨readsDecimal text.toList, writesDecimal⟩

/-- All digits that a decimal can have, among zeros, and one more than the greatest decimal. -/
theorem decimal_reading_limits :
    (∃ d, read "-007.92281625142643375935439503350".toList = .ok d ∧
      d.toRat = -(2 ^ 96 - 1) / 10 ^ 28) ∧
    (read "+79228162514264337593543950336".toList = .error .tooLarge ∧
      (2 : ℚ) ^ 96 - 1 < 79228162514264337593543950336) := by
  constructor
  · let l : DecimalLiteral := ⟨.minus, .pointed ⟨"007".toList, by decide, by decide⟩
      (some ⟨"92281625142643375935439503350".toList, by decide, by decide⟩)⟩
    have hvalue : l.value = ((-(2 ^ 96 - 1) : ℤ) : ℚ) / 10 ^ 28 := by decide +kernel
    obtain ⟨d, hd, hrat⟩ := (decimal_reading "-007.92281625142643375935439503350").1.exact l
      (by decide) _ 28 (by decide) (by decide) hvalue
    refine ⟨d, hd, ?_⟩
    rw [hrat, hvalue]
    norm_num
  · let l : DecimalLiteral := ⟨.plus, .whole ⟨"79228162514264337593543950336".toList, by decide,
      by decide⟩⟩
    have hread : read "+79228162514264337593543950336".toList = .error .tooLarge := by
      decide +kernel
    have hvalue : |l.value| = 79228162514264337593543950336 := by decide +kernel
    refine ⟨hread, ?_⟩
    rw [← hvalue]
    exact (decimal_reading "+79228162514264337593543950336").1.tooLarge l (by decide) hread

end Decimal

end XPathValues
