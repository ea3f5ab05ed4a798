import Mathlib.Tactic
import XPathValues.Proofs.Number.DecimalToDouble
import XPathValues.Proofs.Number.DecimalValue
import XPathValues.Proofs.Value.Comparison

/-!
# The order of integers and decimals

Integers and decimals compare as the numbers that they are, with one exception. The integers from
`2 ^ 96` on are too large for decimals and meet them as doubles. The first few of them become the
double `2 ^ 96`, and so do the greatest decimals, so that these compare as equal.
-/

namespace XPathValues

open BinaryFormat BinaryFloat Rounding

theorem Rounding.compareExact_of_lt {a b : ℚ} (h : a < b) : compareExact a b = .lt :=
  compareExact_eq_lt_iff.mpr h

theorem Rounding.compareExact_of_gt {a b : ℚ} (h : b < a) : compareExact a b = .gt := by
  rw [← compareExact_swap, compareExact_of_lt h]
  rfl

theorem Rounding.compareExact_neg (a b : ℚ) : compareExact (-a) (-b) = compareExact b a := by
  unfold compareExact
  simp only [neg_lt_neg_iff, neg_inj, eq_comm]

/-! ## Where an integer and a decimal become one double -/

/-- A large positive integer and a decimal just below it that have the same double. -/
def Blurs (n : ℤ) (q : ℚ) : Prop :=
  2 ^ 96 ≤ n ∧ n ≤ 2 ^ 96 + 2 ^ 43 ∧ 2 ^ 96 - 2 ^ 42 ≤ q

/-- An integer and a decimal compare as equal although they differ. -/
def Coincide (n : ℤ) (q : ℚ) : Prop := Blurs n q ∨ Blurs (-n) (-q)

instance (n : ℤ) (q : ℚ) : Decidable (Blurs n q) := by
  unfold Blurs
  infer_instance

instance (n : ℤ) (q : ℚ) : Decidable (Coincide n q) := by
  unfold Coincide
  infer_instance

/-- What is known of the number of the double that a decimal becomes. -/
def IsDoubleOf (t q : ℚ) : Prop :=
  (∃ z : ℤ, q = z ∧ |z| < 2 ^ 96 ∧ t = double.nearest q) ∨ (|t| ≤ 2 ^ 95 ∧ |q| ≤ 2 ^ 95)

theorem IsDoubleOf.neg {t q : ℚ} (h : IsDoubleOf t q) : IsDoubleOf (-t) (-q) := by
  rcases h with ⟨z, rfl, hz, rfl⟩ | ⟨ht, hq⟩
  · exact Or.inl ⟨-z, by push_cast; rfl, by rwa [abs_neg], (nearest_neg _ _).symm⟩
  · exact Or.inr ⟨by rwa [abs_neg], by rwa [abs_neg]⟩

theorem Decimal.exists_isDoubleOf (d : Decimal) :
    ∃ t, d.toDouble.toRat? = some t ∧ IsDoubleOf t d.toRat := by
  obtain ⟨t, ht, hinteger, hfraction⟩ := d.exists_toRat?_toDouble
  refine ⟨t, ht, ?_⟩
  have hmagnitude := d.magnitude_le
  unfold maxMagnitude at hmagnitude
  by_cases hscale : d.scale = 0
  · refine Or.inl ⟨if d.negative then -d.magnitude else d.magnitude, ?_, ?_, hinteger hscale⟩
    · rw [toRat_of_scale_eq_zero hscale]
      split <;> push_cast <;> rfl
    · split <;> rw [abs_lt] <;> omega
  · refine Or.inr ⟨hfraction hscale, ?_⟩
    have hten : (10 : ℚ) ^ 1 ≤ (10 : ℚ) ^ d.scale :=
      pow_le_pow_right₀ (by norm_num) (Nat.one_le_iff_ne_zero.mpr hscale)
    have hsize : (d.magnitude : ℚ) ≤ 2 ^ 95 * (10 : ℚ) ^ 1 := by
      have : d.magnitude ≤ 2 ^ 95 * 10 ^ 1 := by omega
      exact mod_cast this
    rw [abs_toRat, div_le_iff₀ (by positivity)]
    exact hsize.trans (by gcongr)

theorem nearest_double_ends :
    double.nearest (2 ^ 96 - 2 ^ 42 - 1) = 2 ^ 96 - 2 ^ 43 ∧
      double.nearest (2 ^ 96 - 2 ^ 42) = 2 ^ 96 ∧
      double.nearest (2 ^ 96) = 2 ^ 96 ∧
      double.nearest (2 ^ 96 + 2 ^ 43) = 2 ^ 96 ∧
      double.nearest (2 ^ 96 + 2 ^ 43 + 1) = 2 ^ 96 + 2 ^ 44 := by
  decide +kernel

theorem nearest_double_mono {p q : ℚ} (h : p ≤ q) : double.nearest p ≤ double.nearest q :=
  nearest_mono proper_double.1 h

/-- A large positive integer is above every decimal, and so is its double unless the two meet. -/
theorem compareExact_nearest_of_large {n : ℤ} {t q : ℚ} (hn : 2 ^ 96 ≤ n) (h : IsDoubleOf t q) :
    compareExact (double.nearest n) t = if Blurs n q then .eq else .gt := by
  obtain ⟨hbelow, hlow, hplace, hhigh, habove⟩ := nearest_double_ends
  have hlarge : 2 ^ 96 ≤ double.nearest n := by
    rw [← hplace]
    exact nearest_double_mono (mod_cast hn)
  rcases h with ⟨z, rfl, hz, rfl⟩ | ⟨ht, hq⟩
  · have hz96 : double.nearest z ≤ 2 ^ 96 := by
      rw [← hplace]
      exact nearest_double_mono (mod_cast (abs_lt.mp hz).2.le)
    -- The doubles of both are monotone, so the ends of the range decide for all numbers inside.
    by_cases hblurs : Blurs n z
    · obtain ⟨_, hnhigh, hzlow⟩ := hblurs
      have hneq : double.nearest n = 2 ^ 96 :=
        le_antisymm (hhigh ▸ nearest_double_mono (mod_cast hnhigh)) hlarge
      have hzeq : double.nearest z = 2 ^ 96 := le_antisymm hz96 (hlow ▸ nearest_double_mono hzlow)
      rw [if_pos ⟨hn, hnhigh, hzlow⟩, hneq, hzeq, compareExact_eq_eq_iff]
    · rw [if_neg hblurs]
      apply compareExact_of_gt
      by_cases hnhigh : n ≤ 2 ^ 96 + 2 ^ 43
      · have hzlow : (z : ℚ) < 2 ^ 96 - 2 ^ 42 := not_le.mp fun h => hblurs ⟨hn, hnhigh, h⟩
        have hzlow' : z ≤ 2 ^ 96 - 2 ^ 42 - 1 := by
          have : z < 2 ^ 96 - 2 ^ 42 := mod_cast hzlow
          omega
        have hle : double.nearest z ≤ 2 ^ 96 - 2 ^ 43 :=
          hbelow ▸ nearest_double_mono (mod_cast hzlow')
        linarith
      · have hnhigh' : 2 ^ 96 + 2 ^ 43 + 1 ≤ n := by omega
        have hge : 2 ^ 96 + 2 ^ 44 ≤ double.nearest n :=
          habove ▸ nearest_double_mono (mod_cast hnhigh')
        linarith
  · -- The double of a decimal with fraction digits is far below `2 ^ 96`.
    have hq' := (abs_le.mp hq).2
    rw [if_neg fun hblurs => by linarith [hblurs.2.2]]
    exact compareExact_of_gt (by linarith [(abs_le.mp ht).2])

/-- An integer that is too large for decimals compares with one as it should, unless they meet. -/
theorem compareExact_nearest {n : ℤ} {t q : ℚ} (hn : 2 ^ 96 ≤ |n|) (hq : |q| < 2 ^ 96)
    (h : IsDoubleOf t q) :
    compareExact (double.nearest n) t = if Coincide n q then .eq else compareExact n q := by
  obtain ⟨hqlo, hqhi⟩ := abs_lt.mp hq
  rcases le_total 0 n with hsign | hsign
  · rw [abs_of_nonneg hsign] at hn
    have hn' : (2 : ℚ) ^ 96 ≤ n := mod_cast hn
    have hcoincide : Coincide n q ↔ Blurs n q :=
      or_iff_left fun hneg => by have := hneg.1; omega
    simp only [compareExact_nearest_of_large hn h, hcoincide,
      compareExact_of_gt (hqhi.trans_le hn')]
  · rw [abs_of_nonpos hsign] at hn
    have hn' : (2 : ℚ) ^ 96 ≤ ((-n : ℤ) : ℚ) := mod_cast hn
    have hcoincide : Coincide n q ↔ Blurs (-n) (-q) :=
      or_iff_right fun hpos => by have := hpos.1; omega
    have hmirrored := compareExact_nearest_of_large hn h.neg
    rw [Int.cast_neg, nearest_neg, compareExact_neg] at hmirrored
    have hlt : (n : ℚ) < q := by
      push_cast at hn'
      linarith
    rw [← compareExact_swap, hmirrored]
    simp only [hcoincide, compareExact_of_lt hlt]
    split <;> rfl

theorem Decimal.abs_toRat_lt (d : Decimal) : |d.toRat| < 2 ^ 96 := by
  have hmagnitude : (d.magnitude : ℚ) < 2 ^ 96 := mod_cast Nat.lt_of_le_of_lt d.magnitude_le (by decide)
  have hone : (1 : ℚ) ≤ (10 : ℚ) ^ d.scale := one_le_pow₀ (by norm_num)
  rw [abs_toRat]
  exact (div_le_self d.magnitude.cast_nonneg hone).trans_lt hmagnitude

theorem not_coincide_of_natAbs_le {n : ℤ} {q : ℚ} (h : n.natAbs ≤ Decimal.maxMagnitude) :
    ¬ Coincide n q := by
  unfold Decimal.maxMagnitude at h
  rintro (hblurs | hblurs)
  · have hle := hblurs.1
    omega
  · have hle := hblurs.1
    omega

theorem two_pow_le_abs {n : ℤ} (h : Decimal.maxMagnitude < n.natAbs) : 2 ^ 96 ≤ |n| := by
  unfold Decimal.maxMagnitude at h
  rw [Int.abs_eq_natAbs]
  omega

theorem Integer.abs_value_le (i : Integer) : |i.value| ≤ 2 ^ 127 := by
  have hstored := i.stored
  unfold Stored minStored maxStored at hstored
  rw [abs_le]
  omega

theorem Integer.toRat?_ofInt (i : Integer) :
    (BinaryFloat.ofInt i.value : Double).toRat? = some (double.nearest i.value) :=
  toRat?_ofInt_double (by norm_num) i.abs_value_le

/-! ## Comparison of exact numbers -/

namespace AtomicValue

variable {a b : AtomicValue} {x y : ℚ} {zone : Timezone}

def exactNumber? : AtomicValue → Option ℚ
  | integer i => some i.value
  | decimal d => some d.toRat
  | _ => none

/-- The two values are an integer and a decimal that become one double. -/
def Meets : AtomicValue → AtomicValue → Prop
  | integer i, decimal d | decimal d, integer i => Coincide i.value d.toRat
  | _, _ => False

instance (a b : AtomicValue) : Decidable (a.Meets b) := by
  unfold Meets
  split <;> infer_instance

/-- The order of two exact numbers, as far as the promotion keeps it. -/
def promotedOrder (a b : AtomicValue) (x y : ℚ) : Ordering :=
  if a.Meets b then .eq else compareExact x y

theorem compare?_integer_decimal (i : Integer) (d : Decimal) :
    (Numeric.promote (.integer i.value) (.decimal d)).compare? =
      some (if Coincide i.value d.toRat then .eq else compareExact i.value d.toRat) := by
  cases hinteger : Decimal.ofInt? i.value with
  | some e =>
    have hfits : i.value.natAbs ≤ Decimal.maxMagnitude :=
      not_lt.mp fun h => by cases hinteger.symm.trans (Decimal.ofInt?_eq_none_iff.mpr h)
    simp only [Numeric.promote, hinteger, if_neg (not_coincide_of_natAbs_le hfits),
      Numeric.Pair.compare?]
    rw [Decimal.compare, Decimal.toRat_ofInt? hinteger]
  | none =>
    obtain ⟨t, ht, hdouble⟩ := d.exists_isDoubleOf
    have hlarge := two_pow_le_abs (Decimal.ofInt?_eq_none_iff.mp hinteger)
    simp only [Numeric.promote, hinteger, Numeric.Pair.compare?]
    rw [compare?_of_toRat? i.toRat?_ofInt ht,
      compareExact_nearest hlarge d.abs_toRat_lt hdouble]

theorem compare?_integers (m n : ℤ) :
    (Numeric.promote (.integer m) (.integer n)).compare? = some (compareExact m n) := by
  simp [Numeric.promote, Numeric.Pair.compare?, compareExact]

theorem compare?_promote {p q : Numeric} (ha : a.exactNumber? = some x)
    (hb : b.exactNumber? = some y) (hp : a.asNumeric? = some p) (hq : b.asNumeric? = some q) :
    (Numeric.promote p q).compare? = some (promotedOrder a b x y) := by
  cases a <;> cases ha <;> cases hp <;> cases b <;> cases hb <;> cases hq
  case decimal.refl.refl.decimal.refl.refl d e => rfl
  case decimal.refl.refl.integer.refl.refl d i =>
    rw [← Numeric.promote_swap, Numeric.Pair.compare?_swap, compare?_integer_decimal,
      Option.map_some]
    by_cases hmeets : Coincide i.value d.toRat
    · simp [promotedOrder, Meets, hmeets]
    · simp [promotedOrder, Meets, hmeets, compareExact_swap]
  case integer.refl.refl.decimal.refl.refl i d => exact compare?_integer_decimal i d
  case integer.refl.refl.integer.refl.refl i j => exact compare?_integers _ _

theorem compare_of_exactNumber? (ha : a.exactNumber? = some x) (hb : b.exactNumber? = some y)
    (op : ComparisonOperator) (zone : Timezone) :
    a.compare op b zone = .ok (op.holds (promotedOrder a b x y)) := by
  have hp : ∃ p, a.asNumeric? = some p := by cases a <;> cases ha <;> exact ⟨_, rfl⟩
  have hq : ∃ q, b.asNumeric? = some q := by cases b <;> cases hb <;> exact ⟨_, rfl⟩
  obtain ⟨p, hp⟩ := hp
  obtain ⟨q, hq⟩ := hq
  have hrelation : IsRelation a b zone _ := isRelation_of_numbers hp hq
  rw [compare?_promote ha hb hp hq] at hrelation
  exact congrFun (compare_of_relate hrelation.relate) op

/-- Values of which no two meet have the order of their numbers. -/
structure IsExact (values : Set AtomicValue) : Prop where
  exact : ∀ a ∈ values, a.exactNumber?.isSome = true
  apart : ∀ a ∈ values, ∀ b ∈ values, ¬ a.Meets b

/-- All integers, and the decimals that are not next to `2 ^ 96`. -/
def moderate : Set AtomicValue :=
  {a | a.exactNumber?.isSome = true ∧ ∀ d, a = decimal d → |d.toRat| < 2 ^ 96 - 2 ^ 42}

theorem isExact_moderate : IsExact moderate where
  exact _ ha := ha.1
  apart := by
    have happart {n : ℤ} {q : ℚ} (hq : |q| < 2 ^ 96 - 2 ^ 42) : ¬ Coincide n q := by
      obtain ⟨hlo, hhi⟩ := abs_lt.mp hq
      rintro (hblurs | hblurs)
      · linarith [hblurs.2.2]
      · linarith [hblurs.2.2]
    intro a ha b hb hmeets
    unfold Meets at hmeets
    split at hmeets
    · exact happart (hb.2 _ rfl) hmeets
    · exact happart (ha.2 _ rfl) hmeets
    · exact hmeets

/-- The number of an integer or a decimal, and zero for values of other types. -/
def number (a : AtomicValue) : ℚ := a.exactNumber?.getD 0

section Exact

variable {values : Set AtomicValue} (h : IsExact values) (zone : Timezone)

include h

theorem IsExact.compare_eq {a b : AtomicValue} (ha : a ∈ values) (hb : b ∈ values)
    (op : ComparisonOperator) :
    a.compare op b zone = .ok (op.holds (compareExact a.number b.number)) := by
  obtain ⟨x, hx⟩ := Option.isSome_iff_exists.mp (h.exact a ha)
  obtain ⟨y, hy⟩ := Option.isSome_iff_exists.mp (h.exact b hb)
  rw [compare_of_exactNumber? hx hy, promotedOrder, if_neg (h.apart a ha b hb), number, number,
    hx, hy]
  rfl

theorem IsExact.equal_iff (a b : values) :
    a.1.compare .eq b.1 zone = .ok true ↔ a.1.number = b.1.number := by
  rw [h.compare_eq zone a.2 b.2, Except.ok.injEq, ← compareExact_eq_eq_iff]
  exact beq_iff_eq

theorem IsExact.less_iff (a b : values) :
    a.1.compare .lt b.1 zone = .ok true ↔ a.1.number < b.1.number := by
  rw [h.compare_eq zone a.2 b.2, Except.ok.injEq, ← compareExact_eq_lt_iff]
  exact beq_iff_eq

theorem IsExact.equivalence :
    Equivalence fun a b : values => a.1.compare .eq b.1 zone = .ok true := by
  simp only [h.equal_iff zone]
  exact ⟨fun _ => rfl, Eq.symm, Eq.trans⟩

theorem IsExact.isStrictWeakOrder :
    IsStrictWeakOrder values fun a b => a.1.compare .lt b.1 zone = .ok true := by
  simp only [h.less_iff zone]
  exact
    { irrefl := fun a => lt_irrefl a.1.number
      trans := fun a b c => lt_trans (a := a.1.number)
      incomp_trans := fun a b c hab hbc => by
        have heq : a.1.number = b.1.number := le_antisymm (not_lt.mp hab.2) (not_lt.mp hab.1)
        rwa [heq] }

end Exact

/-- Integers and decimals of whatever size compare as their numbers do, unless an integer of at
least `2 ^ 96` and one of the greatest decimals meet as one double, when they compare as equal. On
values of which no two meet like that, equality is an equivalence and the order a strict weak
order. -/
theorem compare_exactNumbers (zone : Timezone) :
    (∀ (a b : AtomicValue) (x y : ℚ) (op : ComparisonOperator), a.exactNumber? = some x →
        b.exactNumber? = some y →
          a.compare op b zone = .ok (op.holds (if a.Meets b then .eq else compareExact x y))) ∧
      ∀ values : Set AtomicValue, IsExact values →
        (Equivalence fun a b : values => a.1.compare .eq b.1 zone = .ok true) ∧
          IsStrictWeakOrder values fun a b => a.1.compare .lt b.1 zone = .ok true :=
  ⟨fun _ _ _ _ op ha hb => compare_of_exactNumber? ha hb op zone,
    fun _ h => ⟨h.equivalence zone, h.isStrictWeakOrder zone⟩⟩

/-- The integer `2 ^ 96` is greater than one and a half, and all moderate values are ordered. -/
theorem compare_exactNumbers_moderate :
    let large : AtomicValue := integer ⟨.integer, 2 ^ 96, by decide, rfl⟩
    let half : AtomicValue := decimal ⟨false, 15, 1, by decide, by decide⟩
    large.exactNumber? = some (2 ^ 96) ∧ half.exactNumber? = some (3 / 2) ∧
      large.compare .gt half .utc = .ok true ∧ IsExact moderate ∧
      IsStrictWeakOrder moderate fun a b => a.1.compare .lt b.1 .utc = .ok true := by
  intro large half
  have hlarge : large.exactNumber? = some (2 ^ 96) := by decide +kernel
  have hhalf : half.exactNumber? = some (3 / 2) := by decide +kernel
  obtain ⟨hcompare, horder⟩ := compare_exactNumbers .utc
  refine ⟨hlarge, hhalf, ?_, isExact_moderate, (horder moderate isExact_moderate).2⟩
  rw [hcompare large half _ _ .gt hlarge hhalf]
  decide +kernel

/-- The greatest decimal equals both the integer above it and the next one, which differ. -/
theorem compare_exactNumbers_coincidence :
    ¬ (∀ (a b : AtomicValue) (x y : ℚ) (op : ComparisonOperator) (zone : Timezone),
        a.exactNumber? = some x → b.exactNumber? = some y →
          a.compare op b zone = .ok (op.holds (compareExact x y))) ∧
      ¬ ∀ (a b c : AtomicValue) (zone : Timezone), a.exactNumber?.isSome = true →
        b.exactNumber?.isSome = true → c.exactNumber?.isSome = true →
          a.compare .eq b zone = .ok true → b.compare .eq c zone = .ok true →
            a.compare .eq c zone = .ok true := by
  let large : AtomicValue := integer ⟨.integer, 2 ^ 96, by decide, rfl⟩
  let next : AtomicValue := integer ⟨.integer, 2 ^ 96 + 1, by decide, rfl⟩
  let greatest : AtomicValue := decimal ⟨false, Decimal.maxMagnitude, 0, by decide, by decide⟩
  have hlarge : large.compare .eq greatest .utc = .ok true := by decide +kernel
  have hnext : greatest.compare .eq next .utc = .ok true := by decide +kernel
  constructor
  · intro h
    have hdiffer := h large greatest _ _ .eq .utc rfl rfl
    cases hlarge.symm.trans (hdiffer.trans (by decide +kernel : _ = .ok false))
  · intro h
    have hequal := h large greatest next .utc rfl rfl rfl hlarge hnext
    have hdiffer : large.compare .eq next .utc = .ok false := by decide +kernel
    cases hequal.symm.trans hdiffer

end AtomicValue

end XPathValues
