import Mathlib.Tactic
import XPathValues.Calendar.TimeSpan
import XPathValues.Proofs.Number.DecimalQuotient

/-!
# Spans and decimal seconds

A decimal count of seconds is split at the point, both parts are made into spans, and the spans are
added up. None of these steps rounds or overflows before the limit of a span does: the result is the
span of the whole nanoseconds in the decimal, if there is one. The decimal of a span is exact.
-/

namespace XPathValues

namespace Rounding

variable {q : ℚ}

theorem towardZero_neg (q : ℚ) : towardZero (-q) = -towardZero q := by
  rcases le_total 0 q with hpos | hneg
  · rw [Decimal.towardZero_of_nonpos (neg_nonpos.mpr hpos), neg_neg,
      Decimal.towardZero_of_nonneg hpos]
  · rw [Decimal.towardZero_of_nonneg (neg_nonneg.mpr hneg), Decimal.towardZero_of_nonpos hneg,
      neg_neg]

private theorem towardZero_mul_natCast_of_nonneg (hq : 0 ≤ q) (k : ℕ) :
    towardZero (q * k) = towardZero q * k + towardZero ((q - towardZero q) * k) := by
  have hwhole := Decimal.towardZero_of_nonneg hq
  have hrest : 0 ≤ (q - (⌊q⌋₊ : ℕ)) * (k : ℚ) :=
    mul_nonneg (sub_nonneg.mpr (Nat.floor_le hq)) (Nat.cast_nonneg k)
  have hsplit : q * k = (q - (⌊q⌋₊ : ℕ)) * k + (⌊q⌋₊ * k : ℕ) := by
    push_cast
    ring
  rw [hwhole, Int.cast_natCast, Decimal.towardZero_of_nonneg hrest,
    Decimal.towardZero_of_nonneg (mul_nonneg hq (Nat.cast_nonneg k)), hsplit,
    Nat.floor_add_natCast hrest]
  push_cast
  ring

/-- To cut a multiple off at the point is to cut the number off and then the multiple of the rest. -/
theorem towardZero_mul_natCast (q : ℚ) (k : ℕ) :
    towardZero (q * k) = towardZero q * k + towardZero ((q - towardZero q) * k) := by
  rcases le_total 0 q with hpos | hneg
  · exact towardZero_mul_natCast_of_nonneg hpos k
  · have hflip := towardZero_mul_natCast_of_nonneg (neg_nonneg.mpr hneg) k
    have hrest : (-q - (towardZero (-q) : ℤ)) * (k : ℚ) = -((q - towardZero q) * k) := by
      rw [towardZero_neg]
      push_cast
      ring
    rw [hrest, neg_mul, towardZero_neg, towardZero_neg, towardZero_neg] at hflip
    linarith

theorem towardZero_nonneg (h : 0 ≤ q) : 0 ≤ towardZero q := by
  rw [Decimal.towardZero_of_nonneg h]
  exact Int.natCast_nonneg _

theorem towardZero_le (h : 0 ≤ q) : (towardZero q : ℚ) ≤ q := by
  rw [Decimal.towardZero_of_nonneg h, Int.cast_natCast]
  exact Nat.floor_le h

theorem towardZero_nonpos (h : q ≤ 0) : towardZero q ≤ 0 := by
  have hflip := towardZero_nonneg (neg_nonneg.mpr h)
  rw [towardZero_neg] at hflip
  omega

theorem le_towardZero (h : q ≤ 0) : q ≤ towardZero q := by
  have hflip := towardZero_le (neg_nonneg.mpr h)
  rw [towardZero_neg, Int.cast_neg] at hflip
  exact neg_le_neg_iff.mp hflip

theorem abs_towardZero_le (q : ℚ) : |(towardZero q : ℚ)| ≤ |q| := by
  rcases le_total 0 q with h | h
  · rw [abs_of_nonneg h, abs_of_nonneg (by exact_mod_cast towardZero_nonneg h)]
    exact towardZero_le h
  · rw [abs_of_nonpos h, abs_of_nonpos (by exact_mod_cast towardZero_nonpos h)]
    exact neg_le_neg (le_towardZero h)

theorem abs_sub_towardZero_lt (q : ℚ) : |q - towardZero q| < 1 := by
  rcases le_total 0 q with h | h
  · rw [abs_of_nonneg (sub_nonneg.mpr (towardZero_le h)), Decimal.towardZero_of_nonneg h,
      Int.cast_natCast]
    linarith [Nat.lt_floor_add_one q]
  · rw [abs_of_nonpos (sub_nonpos.mpr (le_towardZero h)), Decimal.towardZero_of_nonpos h,
      Int.cast_neg, Int.cast_natCast]
    linarith [Nat.lt_floor_add_one (-q)]

end Rounding

namespace Decimal

variable {a b d : Decimal} {m n : ℤ}

/-- The billionths in a decimal, without what is less than one. -/
def billionths (d : Decimal) : ℤ :=
  Rounding.towardZero (d.toRat * 1000000000)

theorem billionths_of_value (h : d.toRat * 1000000000 = n) : d.billionths = n := by
  rw [billionths, h, Rounding.towardZero_intCast]

theorem billionths_neg (d : Decimal) : d.neg.billionths = -d.billionths := by
  rw [billionths, toRat_neg, neg_mul, Rounding.towardZero_neg, billionths]

theorem toRat_truncate_eq (d : Decimal) : d.truncate.toRat = d.toInt := by
  by_cases hzero : d.wholePart = 0
  · simp [truncate, toRat, toInt, hzero]
  · cases hneg : d.negative <;> simp [truncate, toRat, toInt, hneg]

/-- The digits behind the point are there without a loss. -/
theorem exists_sub?_truncate (d : Decimal) :
    ∃ e, d.sub? d.truncate = some e ∧ e.toRat = d.toRat - d.toInt := by
  have hunits : (d.toRat - d.toInt) * (10 : ℚ) ^ d.scale =
      (if d.negative then -(d.fractionPart : ℤ) else d.fractionPart : ℤ) := by
    have hpow : (10 : ℚ) ^ d.scale ≠ 0 := by positivity
    have hsplit : (d.magnitude : ℚ) = d.wholePart * (10 : ℚ) ^ d.scale + d.fractionPart := by
      exact_mod_cast (Nat.div_add_mod' d.magnitude (10 ^ d.scale)).symm
    cases hneg : d.negative <;> simp [toRat, toInt, hneg, hsplit] <;> field_simp <;> ring
  have hfits : (if d.negative then -(d.fractionPart : ℤ) else d.fractionPart : ℤ).natAbs ≤
      maxMagnitude := by
    have hle : d.fractionPart ≤ maxMagnitude := (Nat.mod_le _ _).trans d.magnitude_le
    split <;> omega
  obtain ⟨e, he, hvalue⟩ := exists_ofRat?_of_units hunits hfits d.scale_le
  exact ⟨e, by rw [sub?, toRat_truncate_eq, he], hvalue⟩

/-- A number below one has at most as many billionths as it has digits behind the point, or else
they make up a whole number. -/
theorem exists_mul?_billion (h : |d.toRat| < 1) :
    ∃ e, d.mul? (.ofNat 1000000000) = some e ∧ e.toRat = d.toRat * 1000000000 := by
  have hmul : d.mul? (.ofNat 1000000000) = ofRat? (d.toRat * 1000000000) := by
    rw [mul?, toRat_ofNat, Nat.cast_ofNat]
  rw [hmul]
  rcases le_total d.scale 9 with hle | hge
  · have hunits := toRat_mul_pow d hle
    generalize (if d.negative then -1 else 1) * ((d.magnitude * 10 ^ (9 - d.scale) : ℕ) : ℤ) = z
      at hunits
    have hsmall : |(z : ℚ)| < 1000000000 := by
      rw [← hunits, abs_mul]
      norm_num
      linarith
    have hfits : z.natAbs ≤ maxMagnitude := by
      rw [← Int.cast_abs, Int.abs_eq_natAbs] at hsmall
      have hlt : z.natAbs < 1000000000 := by exact_mod_cast hsmall
      unfold maxMagnitude
      omega
    have hwhole : d.toRat * 1000000000 * (10 : ℚ) ^ 0 = z := by
      rw [← hunits]
      norm_num
    exact exists_ofRat?_of_units hwhole hfits (Nat.zero_le _)
  · have hunits := toRat_mul_pow d le_rfl
    rw [Nat.sub_self, pow_zero, mul_one] at hunits
    have hfits : ((if d.negative then -1 else 1) * (d.magnitude : ℤ)).natAbs ≤ maxMagnitude := by
      have hmagnitude := d.magnitude_le
      split <;> omega
    refine exists_ofRat?_of_units ?_ hfits ((Nat.sub_le d.scale 9).trans d.scale_le)
    have hpow : (1000000000 : ℚ) * (10 : ℚ) ^ (d.scale - 9) = (10 : ℚ) ^ d.scale := by
      rw [show (1000000000 : ℚ) = 10 ^ 9 by norm_num, ← pow_add, Nat.add_sub_cancel' hge]
    rw [mul_assoc, hpow, hunits]

/-- The digits before the point and nine of those behind it, which have the same sign. -/
theorem exists_nanos (d : Decimal) :
    ∃ e f, d.sub? d.truncate = some e ∧ e.mul? (.ofNat 1000000000) = some f ∧
      d.billionths = d.toInt * 1000000000 + f.toInt ∧ f.toInt.natAbs < 1000000000 ∧
      (0 ≤ d.toInt ∧ 0 ≤ f.toInt ∨ d.toInt ≤ 0 ∧ f.toInt ≤ 0) := by
  obtain ⟨e, he, hfraction⟩ := d.exists_sub?_truncate
  rw [d.toInt_eq_towardZero] at hfraction
  have hone : |e.toRat| < 1 := by
    rw [hfraction]
    exact Rounding.abs_sub_towardZero_lt _
  obtain ⟨f, hf, hvalue⟩ := exists_mul?_billion hone
  have hsplit := Rounding.towardZero_mul_natCast d.toRat 1000000000
  rw [← hfraction, Nat.cast_ofNat, ← hvalue] at hsplit
  have hsmall : |(Rounding.towardZero f.toRat : ℚ)| < 1000000000 := by
    refine (Rounding.abs_towardZero_le _).trans_lt ?_
    rw [hvalue, abs_mul, abs_of_pos (by norm_num : (0 : ℚ) < 1000000000)]
    linarith
  refine ⟨e, f, he, hf, ?_⟩
  rw [d.toInt_eq_towardZero, f.toInt_eq_towardZero]
  refine ⟨by exact_mod_cast hsplit, ?_, ?_⟩
  · rw [← Int.cast_abs, Int.abs_eq_natAbs] at hsmall
    exact_mod_cast hsmall
  · rcases le_total 0 d.toRat with h | h
    · have hrest : 0 ≤ f.toRat := by linarith [Rounding.towardZero_le h]
      exact Or.inl ⟨Rounding.towardZero_nonneg h, Rounding.towardZero_nonneg hrest⟩
    · have hrest : f.toRat ≤ 0 := by linarith [Rounding.le_towardZero h]
      exact Or.inr ⟨Rounding.towardZero_nonpos h, Rounding.towardZero_nonpos hrest⟩

theorem toInt?_eq_some (h : d.toInt.natAbs < 9223372036854775808) :
    d.toInt? 64 = some d.toInt := by
  refine toInt?_eq_some_iff.mpr ⟨rfl, ?_⟩
  norm_num
  omega

theorem exists_add?_of_billionths (ha : a.toRat * 1000000000 = m) (hb : b.toRat * 1000000000 = n)
    (hsum : (m + n).natAbs ≤ maxMagnitude) :
    ∃ s, a.add? b = some s ∧ s.toRat * 1000000000 = (m + n : ℤ) := by
  have hunits : (a.toRat + b.toRat) * (10 : ℚ) ^ 9 = (m + n : ℤ) := by
    push_cast
    rw [← ha, ← hb]
    ring
  obtain ⟨s, hs, hvalue⟩ := exists_ofRat?_of_units hunits hsum (by decide)
  refine ⟨s, hs, ?_⟩
  rw [hvalue, ← hunits]
  norm_num

theorem exists_ofSeconds? (hm : m.natAbs ≤ maxMagnitude) (hn : n.natAbs ≤ maxMagnitude)
    (hsum : (m * 1000000000 + n).natAbs ≤ maxMagnitude) :
    ∃ d, ofSeconds? m n = some d ∧ d.toRat * 1000000000 = (m * 1000000000 + n : ℤ) := by
  obtain ⟨a, ha, hwhole⟩ := exists_ofParts?_of_int hm (Nat.zero_le _)
  obtain ⟨b, hb, hfraction⟩ := exists_ofParts?_of_int hn (show 9 ≤ maxScale by decide)
  have hseconds : a.toRat * 1000000000 = (m * 1000000000 : ℤ) := by
    rw [hwhole]
    push_cast
    ring
  have hnanos : b.toRat * 1000000000 = n := by
    rw [hfraction]
    norm_num
  obtain ⟨d, hd, hvalue⟩ := exists_add?_of_billionths hseconds hnanos hsum
  refine ⟨d, ?_, hvalue⟩
  rw [ofSeconds?, ofInt?, ha, Option.bind_eq_bind, Option.bind_some, hb]
  exact hd

end Decimal

namespace TimeSpan

variable {a b span : TimeSpan} {n : ℤ}

theorem ofNanos?_eq_some_iff : ofNanos? n = some span ↔ span.length = n := by
  refine ⟨length_ofNanos?, ?_⟩
  rintro rfl
  exact ofNanos?_length span

theorem ofNanos?_eq_none_iff : ofNanos? n = none ↔ maxNanos < n.natAbs := by
  rw [ofNanos?, ofParts?_eq_none_iff, InRange,
    show n / 1000000000 * 1000000000 + ((n % 1000000000).toNat : ℤ) = n by omega]
  omega

theorem exists_ofNanos? (h : n.natAbs ≤ maxNanos) : ∃ span, ofNanos? n = some span := by
  rw [← Option.ne_none_iff_exists']
  exact fun hnone => absurd (ofNanos?_eq_none_iff.mp hnone) (not_lt.mpr h)

theorem ofSeconds?_eq (n : ℤ) : ofSeconds? n = ofNanos? (n * 1000000000) := by
  rw [ofSeconds?, ofNanos?]
  exact congrArg₂ ofParts? (by omega) (by omega)

theorem add?_eq (a b : TimeSpan) : a.add? b = ofNanos? (a.length + b.length) := by
  have ha := a.nanos_lt
  have hb := b.nanos_lt
  unfold add? ofNanos? length
  dsimp only
  split <;> exact congrArg₂ ofParts? (by omega) (by omega)

/-- The steps lead to the span of the whole nanoseconds, if there is one. -/
theorem ofDecimal?_eq (d : Decimal) : ofDecimal? d = ofNanos? d.billionths := by
  obtain ⟨e, f, he, hf, hbillionths, hnanos, hsign⟩ := d.exists_nanos
  have hrest : f.truncate.toInt? 64 = some f.toInt := by
    rw [Decimal.toInt?_eq_some (by rw [Decimal.toInt_truncate]; omega), Decimal.toInt_truncate]
  obtain ⟨rest, hspan⟩ := exists_ofNanos? (n := f.toInt) (by unfold maxNanos; omega)
  have hsteps : ofDecimal? d = (d.truncate.toInt? 64).bind fun count =>
      (ofSeconds? count).bind fun start => start.add? rest := by
    simp only [ofDecimal?, he, hf, hrest, hspan, Option.bind_eq_bind, Option.bind_some]
  have hsum : ∀ start, ofSeconds? d.toInt = some start →
      start.add? rest = ofNanos? d.billionths := by
    intro start hstart
    rw [ofSeconds?_eq, ofNanos?_eq_some_iff] at hstart
    rw [add?_eq, hstart, ofNanos?_eq_some_iff.mp hspan, hbillionths]
  rw [hsteps]
  by_cases hreach : d.billionths.natAbs ≤ maxNanos
  · -- The whole seconds alone are no longer than all of it, since the rest has their sign.
    have hwhole : (d.toInt * 1000000000).natAbs ≤ maxNanos := by
      rw [hbillionths] at hreach
      omega
    obtain ⟨start, hstart⟩ := exists_ofNanos? hwhole
    rw [← ofSeconds?_eq] at hstart
    rw [Decimal.toInt?_eq_some (by rw [Decimal.toInt_truncate]; unfold maxNanos at hwhole; omega),
      Decimal.toInt_truncate, Option.bind_some, hstart, Option.bind_some, hsum start hstart]
  · rw [ofNanos?_eq_none_iff.mpr (not_le.mp hreach), Option.bind_eq_none_iff]
    intro count hcount
    obtain rfl : count = d.toInt := by
      rw [← Decimal.toInt_truncate]
      exact (Decimal.toInt?_eq_some_iff.mp hcount).1
    rw [Option.bind_eq_none_iff]
    intro start hstart
    rw [hsum start hstart, ofNanos?_eq_none_iff.mpr (not_le.mp hreach)]

theorem ofDecimal?_eq_some_iff {d : Decimal} :
    ofDecimal? d = some span ↔ span.length = d.billionths := by
  rw [ofDecimal?_eq, ofNanos?_eq_some_iff]

/-- A decimal has room for both parts of a span. -/
theorem exists_toDecimal? (span : TimeSpan) :
    ∃ d, span.toDecimal? = some d ∧ d.toRat * 1000000000 = span.length := by
  have hsum := span.wholeSeconds_mul_add
  have hreach := span.natAbs_length_le
  have hnanos : span.nanosOfSecond.natAbs < 1000000000 := by
    have hlt := span.nanos_lt
    unfold nanosOfSecond
    split <;> omega
  have hfits : maxNanos + 1000000000 ≤ Decimal.maxMagnitude := by decide
  obtain ⟨d, hd, hvalue⟩ := Decimal.exists_ofSeconds? (m := span.wholeSeconds)
    (n := span.nanosOfSecond) (by omega) (by omega) (by omega)
  refine ⟨d.normalize, ?_, ?_⟩
  · rw [toDecimal?, hd, Option.map_some]
  · rw [Decimal.toRat_normalize, hvalue, hsum]

end TimeSpan

end XPathValues
