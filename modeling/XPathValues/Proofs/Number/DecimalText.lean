import Mathlib.Tactic
import XPathValues.Number.Decimal.Text
import XPathValues.Proofs.Number.DecimalValue
import XPathValues.Proofs.Text.Layout

/-!
# The text of a decimal

The written form of a decimal reads back as its normal form, so two decimals have one text exactly
when they have one value.
-/

namespace XPathValues.Decimal

open Text

variable {a b d : Decimal}

theorem le_ofDigitChars (digits : List Char) (magnitude : ℕ) :
    magnitude ≤ Nat.ofDigitChars 10 digits magnitude := by
  induction digits generalizing magnitude with
  | nil => simp
  | cons c rest ih =>
    rw [Nat.ofDigitChars_cons]
    exact le_trans (by omega) (ih _)

theorem takeWhole?_of_le {digits : List Char} {magnitude : ℕ}
    (h : Nat.ofDigitChars 10 digits magnitude ≤ maxMagnitude) :
    takeWhole? magnitude digits = some (Nat.ofDigitChars 10 digits magnitude) := by
  induction digits generalizing magnitude with
  | nil => simp [takeWhole?]
  | cons c rest ih =>
    rw [Nat.ofDigitChars_cons] at h ⊢
    have hnext := le_trans (le_ofDigitChars rest _) h
    have hfits : 10 * magnitude + digitOf c ≤ maxMagnitude := hnext
    rw [takeWhole?]
    simp only [if_pos hfits]
    exact ih h

theorem takeFraction?_of_le {digits : List Char} {magnitude scale : ℕ}
    (hscale : scale + digits.length ≤ maxScale)
    (h : Nat.ofDigitChars 10 digits magnitude ≤ maxMagnitude) :
    takeFraction? magnitude scale digits =
      some (Nat.ofDigitChars 10 digits magnitude, scale + digits.length) := by
  induction digits generalizing magnitude scale with
  | nil => simp [takeFraction?]
  | cons c rest ih =>
    rw [Nat.ofDigitChars_cons] at h ⊢
    rw [List.length_cons] at hscale ⊢
    have hnext := le_trans (le_ofDigitChars rest _) h
    have hfits : 10 * magnitude + digitOf c ≤ maxMagnitude := hnext
    have hroom : scale < maxScale := by omega
    rw [takeFraction?]
    simp only [hroom, hfits, decide_true, Bool.and_self, if_true]
    rw [show scale + (rest.length + 1) = scale + 1 + rest.length by omega]
    exact ih (by omega) h

theorem ofDigits?_of_le {negative : Bool} {digits : PointedDigits}
    (hscale : digits.fraction.length ≤ maxScale) (h : digits.coefficient ≤ maxMagnitude) :
    ofDigits? negative digits = ofParts? negative digits.coefficient digits.fraction.length := by
  rw [PointedDigits.coefficient, digitsValue, Nat.ofDigitChars_append] at h ⊢
  rw [ofDigits?, takeWhole?_of_le (le_trans (le_ofDigitChars digits.fraction _) h)]
  simp only [Option.bind_eq_bind, Option.bind_some]
  rw [takeFraction?_of_le (by omega) h]
  simp

def pointedDigits (d : Decimal) : PointedDigits :=
  ⟨Nat.toDigits 10 d.wholePart, if d.scale = 0 then [] else padded d.scale d.fractionPart⟩

def unsignedChars (d : Decimal) : List Char :=
  if d.scale = 0 then d.pointedDigits.whole
  else d.pointedDigits.whole ++ '.' :: d.pointedDigits.fraction

theorem normalChars_eq (d : Decimal) :
    d.normalChars = (if d.negative then ['-'] else []) ++ d.unsignedChars := by
  unfold normalChars unsignedChars pointedDigits
  by_cases h : d.scale = 0 <;> simp [h]

theorem fractionPart_lt (d : Decimal) : d.fractionPart < 10 ^ d.scale :=
  Nat.mod_lt _ (Nat.pow_pos (by decide))

theorem length_pointedDigits_fraction (d : Decimal) :
    d.pointedDigits.fraction.length = d.scale := by
  unfold pointedDigits
  by_cases h : d.scale = 0
  · simp [h]
  · simpa [h] using length_padded (Nat.pos_of_ne_zero h) d.fractionPart_lt

theorem coefficient_pointedDigits (d : Decimal) : d.pointedDigits.coefficient = d.magnitude := by
  have hlength := d.length_pointedDigits_fraction
  have hwhole := digitsValue_toDigits d.wholePart
  have hparts : 10 ^ d.scale * d.wholePart + d.fractionPart = d.magnitude :=
    Nat.div_add_mod d.magnitude (10 ^ d.scale)
  rw [PointedDigits.coefficient, digitsValue, Nat.ofDigitChars_append,
    Nat.ofDigitChars_eq_ofDigitChars_zero, hlength]
  unfold digitsValue at hwhole
  unfold pointedDigits
  by_cases h : d.scale = 0
  · have hzero : d.fractionPart = 0 := by
      have hlt := d.fractionPart_lt
      rw [h, pow_zero] at hlt
      omega
    rw [hwhole, if_pos h, Nat.ofDigitChars_nil, ← hparts, hzero]
  · have hfraction := digitsValue_padded d.scale d.fractionPart
    unfold digitsValue at hfraction
    rw [hwhole, if_neg h, hfraction, hparts]

theorem ofDigits?_pointedDigits (negative : Bool) (d : Decimal) :
    ofDigits? negative d.pointedDigits = ofParts? negative d.magnitude d.scale := by
  rw [ofDigits?_of_le (by rw [length_pointedDigits_fraction]; exact d.scale_le)
    (by rw [coefficient_pointedDigits]; exact d.magnitude_le), coefficient_pointedDigits,
    length_pointedDigits_fraction]

theorem isDigit_pointedDigits_whole (d : Decimal) :
    ∀ c ∈ d.pointedDigits.whole, c.isDigit = true :=
  allDigits_iff.mp (allDigits_toDigits _)

theorem isDigit_pointedDigits_fraction (d : Decimal) :
    ∀ c ∈ d.pointedDigits.fraction, c.isDigit = true := by
  unfold pointedDigits
  split
  · simp
  · exact allDigits_iff.mp (allDigits_padded _ _)

theorem ne_point_of_isDigit {c : Char} (h : c.isDigit = true) : (c == '.') = false := by
  by_contra hpoint
  obtain rfl : c = '.' := by simpa using hpoint
  simp at h

theorem cutAt?_unsignedChars (d : Decimal) :
    cutAt? (· == '.') d.unsignedChars =
      if d.scale = 0 then none else some (d.pointedDigits.whole, d.pointedDigits.fraction) := by
  unfold unsignedChars
  split
  · exact cutAt?_eq_none_iff.mpr fun c hc =>
      ne_point_of_isDigit (d.isDigit_pointedDigits_whole c hc)
  · exact cutAt?_append_cons
      (fun c hc => ne_point_of_isDigit (d.isDigit_pointedDigits_whole c hc)) rfl

theorem pointedDigits_whole_ne_nil (d : Decimal) : d.pointedDigits.whole ≠ [] :=
  Nat.toDigits_ne_nil

theorem pointedDigits_fraction_of_scale (h : d.scale = 0) : d.pointedDigits.fraction = [] := by
  simp [pointedDigits, h]

theorem read?_unsignedChars (d : Decimal) :
    PointedDigits.read? d.unsignedChars = some d.pointedDigits := by
  have hwhole := allDigits_iff.mpr d.isDigit_pointedDigits_whole
  have hfraction := allDigits_iff.mpr d.isDigit_pointedDigits_fraction
  rw [PointedDigits.read?, cutAt?_unsignedChars]
  by_cases h : d.scale = 0
  · have hnil := pointedDigits_fraction_of_scale h
    have hchars : d.unsignedChars = d.pointedDigits.whole := by simp [unsignedChars, h]
    simp only [h, if_true, hchars, ← hnil]
    simp [hwhole, hfraction, d.pointedDigits_whole_ne_nil]
  · simp [h, hwhole, hfraction, d.pointedDigits_whole_ne_nil]

theorem exists_unsignedChars (d : Decimal) :
    ∃ c rest, d.unsignedChars = c :: rest ∧ c.isDigit = true := by
  obtain ⟨c, rest, hcons⟩ := List.exists_cons_of_ne_nil d.pointedDigits_whole_ne_nil
  have hdigit := d.isDigit_pointedDigits_whole c (by simp [hcons])
  unfold unsignedChars
  split
  · exact ⟨c, rest, hcons, hdigit⟩
  · exact ⟨c, rest ++ '.' :: d.pointedDigits.fraction, by simp [hcons], hdigit⟩

theorem splitSign_normalChars (d : Decimal) :
    splitSign d.normalChars = (d.negative, d.unsignedChars) := by
  obtain ⟨c, rest, hcons, hdigit⟩ := d.exists_unsignedChars
  rw [normalChars_eq]
  cases d.negative
  · simp only [Bool.false_eq_true, if_false, List.nil_append]
    rw [hcons, splitSign_of_isDigit hdigit]
  · rfl

theorem digitChar_ne_zero {n : ℕ} (hlt : n < 10) (h : n ≠ 0) : n.digitChar ≠ '0' := by
  have hall : ∀ m < 10, m ≠ 0 → Nat.digitChar m ≠ '0' := by decide
  exact hall n hlt h

theorem IsNormal.getLast?_fraction (hd : d.IsNormal) :
    d.pointedDigits.fraction.getLast? ≠ some '0' := by
  unfold pointedDigits
  split
  · simp
  · next hscale =>
    have hlast : d.magnitude % 10 ≠ 0 := hd.no_zero.resolve_left hscale
    have hmod : d.fractionPart % 10 = d.magnitude % 10 :=
      Nat.mod_mod_of_dvd _ (dvd_pow_self 10 hscale)
    rw [padded, List.getLast?_append, getLast?_toDigits, hmod]
    simpa using digitChar_ne_zero (Nat.mod_lt _ (by decide)) hlast

theorem IsNormal.trim_pointedDigits (hd : d.IsNormal) : d.pointedDigits.trim = d.pointedDigits := by
  have hwhole : (if (dropLeadingZeros d.pointedDigits.whole).isEmpty then ['0']
      else dropLeadingZeros d.pointedDigits.whole) = d.pointedDigits.whole := by
    by_cases hzero : d.wholePart = 0
    · simp [pointedDigits, hzero, dropLeadingZeros]
    · have hhead : d.pointedDigits.whole.head? ≠ some '0' := head?_toDigits_ne_zero hzero
      rw [dropLeadingZeros_of_head? hhead]
      simp [d.pointedDigits_whole_ne_nil]
  simp only [PointedDigits.trim, hwhole, dropTrailingZeros_of_getLast? hd.getLast?_fraction]

theorem IsNormal.ofParts? (hd : d.IsNormal) :
    ofParts? d.negative d.magnitude d.scale = some d := by
  have hsign : (d.negative && d.magnitude != 0) = d.negative := by
    by_cases h : d.magnitude = 0
    · simp [hd.zero_positive h]
    · simp [h]
  rw [Decimal.ofParts?, dif_pos ⟨d.magnitude_le, d.scale_le⟩]
  congr

theorem IsNormal.read_normalChars (hd : d.IsNormal) : read d.normalChars = .ok d := by
  rw [read, splitSign_normalChars]
  simp only [read?_unsignedChars]
  rw [hd.trim_pointedDigits, ofDigits?_pointedDigits, hd.ofParts?]

theorem read_toChars (d : Decimal) : read d.toChars = .ok d.normalize :=
  (isNormal_normalize d).read_normalChars

theorem toChars_eq_iff : a.toChars = b.toChars ↔ a.toRat = b.toRat := by
  rw [← normalize_eq_normalize_iff]
  constructor
  · intro h
    have hread := read_toChars a
    rw [h, read_toChars b] at hread
    exact (Except.ok.inj hread).symm
  · intro h
    rw [toChars, h, ← toChars]

theorem toText_eq_iff : a.toText = b.toText ↔ a.toRat = b.toRat := by
  rw [toText, toText, String.ofList_inj, toChars_eq_iff]

theorem toRat_le (d : Decimal) : d.toRat ≤ maxMagnitude := by
  have hmagnitude : (d.magnitude : ℚ) ≤ maxMagnitude := by exact_mod_cast d.magnitude_le
  calc d.toRat ≤ |d.toRat| := le_abs_self _
    _ = (d.magnitude : ℚ) / (10 : ℚ) ^ d.scale := abs_toRat d
    _ ≤ d.magnitude := div_le_self (by positivity) (one_le_pow₀ (by norm_num))
    _ ≤ maxMagnitude := hmagnitude

theorem toChars_of_natCast {n : ℕ} (h : d.toRat = n) : d.toChars = Nat.toDigits 10 n := by
  have hn : n ≤ maxMagnitude := by
    have hle := d.toRat_le
    rw [h] at hle
    exact_mod_cast hle
  have hnormal : (ofNat n hn).IsNormal := ⟨fun _ => rfl, Or.inl rfl⟩
  have heq : d.normalize = ofNat n hn :=
    (isNormal_normalize d).eq_of_toRat_eq hnormal (by simp [h])
  rw [toChars, heq, normalChars_eq]
  simp [ofNat, unsignedChars, pointedDigits, wholePart]

theorem negative_normalize_of_nonneg (h : 0 ≤ d.toRat) : d.normalize.negative = false := by
  by_cases hzero : d.toRat = 0
  · have hmagnitude := isZero_iff.mpr (d.toRat_normalize.trans hzero)
    exact (isNormal_normalize d).zero_positive (by simpa [isZero] using hmagnitude)
  · rw [← Bool.not_eq_true, negative_iff (by simpa using hzero)]
    simpa using h

theorem toChars_of_nonneg (h : 0 ≤ d.toRat) : d.toChars = d.normalize.unsignedChars := by
  rw [toChars, normalChars_eq, negative_normalize_of_nonneg h]
  rfl

theorem toChars_of_neg (h : d.toRat < 0) : d.toChars = '-' :: d.normalize.unsignedChars := by
  have hnegative : d.normalize.negative = true := by
    rw [negative_iff (by simpa using h.ne)]
    simpa using h
  rw [toChars, normalChars_eq, hnegative]
  rfl

theorem mem_unsignedChars {c : Char} (h : c ∈ d.unsignedChars) : c.isDigit = true ∨ c = '.' := by
  unfold unsignedChars at h
  split at h
  · exact Or.inl (d.isDigit_pointedDigits_whole c h)
  · rcases List.mem_append.mp h with h | h
    · exact Or.inl (d.isDigit_pointedDigits_whole c h)
    · rcases List.mem_cons.mp h with rfl | h
      · exact Or.inr rfl
      · exact Or.inl (d.isDigit_pointedDigits_fraction c h)

theorem mem_toChars {c : Char} (h : c ∈ d.toChars) : c.isDigit = true ∨ c = '.' ∨ c = '-' := by
  rw [toChars, normalChars_eq] at h
  rcases List.mem_append.mp h with h | h
  · split at h
    · exact Or.inr (Or.inr (List.mem_singleton.mp h))
    · cases h
  · exact (mem_unsignedChars h).imp_right Or.inl

theorem toChars_ne_nil (d : Decimal) : d.toChars ≠ [] := by
  obtain ⟨c, rest, hcons, _⟩ := d.normalize.exists_unsignedChars
  rw [toChars, normalChars_eq, hcons]
  simp

end XPathValues.Decimal
