import Mathlib.Tactic
import XPathValues.Proofs.Function.Constructors
import XPathValues.Proofs.Number.DecimalHalf
import XPathValues.Proofs.Number.DecimalMultiple
import XPathValues.Proofs.Number.IntegerMultiple

/-!
# Functions that round

Integers are rounded exactly. A decimal is rounded to an integer by way of its sum with one half, and
to a power of ten by way of a quotient; both are rounded themselves, so that for some decimals the
result is not the nearest integer or multiple.
-/

namespace XPathValues

open Rounding

namespace NumericRule

theorem clampPrecision_eq_or (p : ℤ) :
    clampPrecision p = p ∨ 38 < p ∧ 38 < clampPrecision p ∨ p < -38 ∧ clampPrecision p < -38 := by
  unfold clampPrecision maxPrecision
  omega

theorem roundDecimalToEven_clampPrecision (d : Decimal) (p : ℤ) :
    roundDecimalToEven d (clampPrecision p) = roundDecimalToEven d p := by
  have hplaces : ∀ q : ℤ, 38 < q → min q.toNat Decimal.maxScale = Decimal.maxScale := by
    intro q hq
    unfold Decimal.maxScale
    omega
  rcases clampPrecision_eq_or p with h | ⟨h, hclamped⟩ | ⟨h, hclamped⟩
  · rw [h]
  · rw [Decimal.roundDecimalToEven_of_nonneg d (by omega), hplaces _ hclamped,
      Decimal.roundDecimalToEven_of_nonneg d (by omega), hplaces _ h]
  · rw [Decimal.roundDecimalToEven_of_beyond d (by omega),
      Decimal.roundDecimalToEven_of_beyond d (by omega)]

theorem roundIntegerToEven_clampPrecision (i : Integer) (p : ℤ) :
    roundIntegerToEven i (clampPrecision p) = roundIntegerToEven i p := by
  rcases clampPrecision_eq_or p with h | ⟨h, hclamped⟩ | ⟨h, hclamped⟩
  · rw [h]
  · rw [Integer.roundIntegerToEven_of_nonneg i (by omega),
      Integer.roundIntegerToEven_of_nonneg i (by omega)]
  · rw [Integer.roundIntegerToEven_of_beyond i hclamped, Integer.roundIntegerToEven_of_beyond i h]

end NumericRule

namespace AtomicValue

/-- The outcome is a decimal of this value, or an overflow where no decimal has it. -/
inductive GivesDecimal (q : ℚ) : Except Error AtomicValue → Prop
  | stored {e : Decimal} (h : e.toRat = q) : GivesDecimal q (.ok (decimal e))
  | overflow (h : ∀ e : Decimal, e.toRat ≠ q) : GivesDecimal q (.error .numericOverflow)

theorem givesDecimal_of_stores {q : ℚ} {rounded : Option Decimal}
    (h : Decimal.Stores q rounded) :
    GivesDecimal q ((orError .numericOverflow rounded).map fun e => decimal e.normalize) := by
  cases h with
  | stored h => exact .stored (by rw [Decimal.toRat_normalize, h])
  | overflow h => exact .overflow h

end AtomicValue

namespace Library

open AtomicValue (GivesDecimal GivesInteger)

variable {v : AtomicValue}

theorem accepts_number (hv : v.kind.isNumeric = true) :
    ParameterType.Accepts ⟨.numeric, .zeroOrOne⟩ (Sequence.single v) :=
  ParameterType.accepts_single rfl hv

theorem accepts_precision (p : Integer) :
    ParameterType.Accepts (.single (.integer .integer)) (Sequence.single (.integer p)) := by
  apply ParameterType.accepts_single rfl
  change AtomicKind.derivesFrom (.integer p.kind) (.integer .integer) = true
  simp [AtomicKind.derivesFrom, IntegerKind.derivesFrom_integer]

theorem evaluate_round (context : Context) (hv : v.kind.isNumeric = true) :
    standard.evaluate (.inFunctions "round") [.single v] context =
      (NumericRule.round.apply v).map Sequence.single :=
  evaluate_of_accepts (.standard "round" [⟨.numeric, .zeroOrOne⟩] (.numeric .round)) context
    (by simp [Function.mem_standardFunctions_iff, Function.numericFunctions]) rfl
    (.cons (accepts_number hv) .nil)

theorem evaluate_roundHalfToEven (context : Context) (hv : v.kind.isNumeric = true) (p : Integer) :
    standard.evaluate (.inFunctions "round-half-to-even") [.single v, .single (.integer p)] context =
      ((NumericRule.roundHalfToEven (NumericRule.clampPrecision p.value)).apply v).map
        Sequence.single :=
  evaluate_of_accepts
    (.standard "round-half-to-even" [⟨.numeric, .zeroOrOne⟩, .single (.integer .integer)]
      .roundHalfToEven) context
    (by simp [Function.mem_standardFunctions_iff, Function.numericFunctions]) rfl
    (.cons (accepts_number hv) (.cons (accepts_precision p) .nil))

/-- The floor of the sum with one half is the nearest integer, a half going up, unless the sum
reaches the next integer when it is rounded to a decimal. Among the integers themselves these are the
odd ones that leave no room for a digit behind the point. -/
theorem round_decimal (d : Decimal) (context : Context) :
    (∃ outcome, GivesDecimal (⌊d.toRat + 1 / 2⌋ + if d.HalfReachesNext then 1 else 0 : ℤ) outcome ∧
        standard.evaluate (.inFunctions "round") [.single (.decimal d)] context =
          outcome.map Sequence.single) ∧
      ∀ n : ℤ, d.toRat = n →
        (d.HalfReachesNext ↔ n % 2 = 1 ∧ (Decimal.maxMagnitude : ℤ) < |10 * n + 5|) := by
  refine ⟨⟨_, ?_, evaluate_round context rfl⟩, fun n h => Decimal.halfReachesNext_iff_of_integer h⟩
  have hhalf : NumericRule.decimalHalf.toRat = 1 / 2 := by decide +kernel
  have hstores := Decimal.stores_floor_half d
  rw [← hhalf] at hstores ⊢
  exact AtomicValue.givesDecimal_of_stores hstores

/-- One unit of the last place below seven and a half is rounded up, and the greatest decimal is
refused although it is an integer. -/
theorem round_decimal_below_half :
    let below : Decimal := ⟨false, 74999999999999999999999999999, 28, by decide, by decide⟩
    let greatest : Decimal := .ofNat Decimal.maxMagnitude
    let context := Context.Builder.start.build ⟨.startOfDay ⟨2000, 1, 1, by decide⟩, .utc⟩
    (⌊below.toRat + 1 / 2⌋ = 7 ∧ ∃ outcome, GivesDecimal 8 outcome ∧
        standard.evaluate (.inFunctions "round") [.single (.decimal below)] context =
          outcome.map Sequence.single) ∧
      ⌊greatest.toRat + 1 / 2⌋ = Decimal.maxMagnitude ∧ greatest.HalfReachesNext ∧
        standard.evaluate (.inFunctions "round") [.single (.decimal greatest)] context =
          .error .numericOverflow := by
  intro below greatest context
  obtain ⟨⟨outcome, hgives, hevaluate⟩, _⟩ := round_decimal below context
  obtain ⟨_, hintegers⟩ := round_decimal greatest context
  have hreaches : below.HalfReachesNext := by decide +kernel
  have hfloor : ⌊below.toRat + 1 / 2⌋ = 7 := by decide +kernel
  rw [if_pos hreaches, hfloor] at hgives
  have hgreatest : greatest.toRat = ((Decimal.maxMagnitude : ℤ) : ℚ) := by decide +kernel
  exact ⟨⟨hfloor, outcome, by exact_mod_cast hgives, hevaluate⟩, by decide +kernel,
    (hintegers _ hgreatest).mpr (by decide +kernel), by decide +kernel⟩

/-- The result is the multiple that is nearest to the decimal, a tie going to the even one, unless
that multiple is odd and is missed; then it is the even one on the other side. Where the quotient has
all its digits nothing is missed. At the first power of ten that cannot be stored the multiples next
to zero are missed. -/
theorem roundHalfToEven_decimal (d : Decimal) (p : Integer) (context : Context) :
    (∃ n : ℤ,
        (IsNearestMultiple d.toRat ((10 : ℚ) ^ (-p.value)) n ↔ ¬ d.MissesNearest p.value) ∧
        (d.MissesNearest p.value →
          n % 2 = 0 ∧ |d.toRat - n * (10 : ℚ) ^ (-p.value)| < (10 : ℚ) ^ (-p.value)) ∧
        ∃ outcome, GivesDecimal (n * (10 : ℚ) ^ (-p.value)) outcome ∧
          standard.evaluate (.inFunctions "round-half-to-even")
              [.single (.decimal d), .single (.integer p)] context =
            outcome.map Sequence.single) ∧
      ((d.scale : ℤ) ≤ 28 + p.value → ¬ d.MissesNearest p.value) ∧
      (d.MissesNearest (-29) ↔ 5 * 10 ^ 28 < |d.toRat|) := by
  refine ⟨⟨d.roundedCount p.value, Decimal.isNearestMultiple_roundedCount, fun h => ⟨?_,
    Decimal.abs_sub_roundedCount_lt h⟩, _, ?_, evaluate_roundHalfToEven context rfl p⟩,
    Decimal.not_missesNearest_of_scale_le, Decimal.missesNearest_first_iff⟩
  · rw [Decimal.roundedCount, if_pos h]
    exact halfEven_floor_add_half_even _
  · obtain ⟨rounded, hrounded, hstores⟩ := Decimal.givesUnits_roundDecimalToEven d p.value
    rw [← NumericRule.roundDecimalToEven_clampPrecision] at hrounded
    have hgives := AtomicValue.givesDecimal_of_stores hstores
    rw [← hrounded] at hgives
    exact hgives

/-- One unit of the last place above five is rounded down to zero, and so is a number that is nearer
to the first power of ten that cannot be stored. -/
theorem roundHalfToEven_decimal_above_half :
    let above : Decimal := ⟨false, 50000000000000000000000000001, 28, by decide, by decide⟩
    let large : Decimal := .ofNat 60000000000000000000000000000
    let context := Context.Builder.start.build ⟨.startOfDay ⟨2000, 1, 1, by decide⟩, .utc⟩
    (IsNearestMultiple above.toRat ((10 : ℚ) ^ (-(-1 : ℤ))) 1 ∧ above.MissesNearest (-1) ∧
        ∃ outcome, GivesDecimal 0 outcome ∧
          standard.evaluate (.inFunctions "round-half-to-even")
              [.single (.decimal above), .single (.integer (.plain (-1) (by decide)))] context =
            outcome.map Sequence.single) ∧
      large.MissesNearest (-29) := by
  intro above large context
  obtain ⟨⟨n, _, hmissed, houtcome⟩, _⟩ :=
    roundHalfToEven_decimal above (.plain (-1) (by decide)) context
  obtain ⟨_, _, hfirst⟩ := roundHalfToEven_decimal large (.plain (-29) (by decide)) context
  have hmisses : above.MissesNearest (-1) := by decide +kernel
  have hvalue : above.toRat = 50000000000000000000000000001 / 10 ^ 28 := by decide +kernel
  have hten : (10 : ℚ) ^ (-(-1 : ℤ)) = 10 := by norm_num
  obtain ⟨heven, hclose⟩ := hmissed hmisses
  change |above.toRat - n * (10 : ℚ) ^ (-(-1 : ℤ))| < (10 : ℚ) ^ (-(-1 : ℤ)) at hclose
  rw [hvalue, hten, abs_lt] at hclose
  obtain rfl : n = 0 := by
    have hlow : (-1 : ℚ) < n := by linarith
    have hhigh : (n : ℚ) < 2 := by linarith
    have hlow' : -1 < n := by exact_mod_cast hlow
    have hhigh' : n < 2 := by exact_mod_cast hhigh
    omega
  rw [Int.cast_zero, zero_mul] at houtcome
  exact ⟨⟨isNearestMultiple_powerOfTen_iff.mpr (by decide +kernel), hmisses, houtcome⟩,
    hfirst.mpr (by decide +kernel)⟩

/-- Integers are rounded to the nearest multiple, a tie going to the even one. There is an overflow
where that cannot be stored, and none on the way to it, but for the greatest power of ten, where the
rest may be too large to be doubled. -/
theorem roundHalfToEven_integer (i p : Integer) (context : Context)
    (h : p.value = -38 → |i.value.tmod (10 ^ 38)| < 2 ^ 126) :
    (∃ multiple count : ℤ, (multiple : ℚ) = count * (10 : ℚ) ^ (-p.value) ∧
        IsNearestMultiple i.value ((10 : ℚ) ^ (-p.value)) count ∧
        (0 ≤ p.value → multiple = i.value) ∧
        ∃ outcome, GivesInteger multiple outcome ∧
          standard.evaluate (.inFunctions "round-half-to-even")
              [.single (.integer i), .single (.integer p)] context =
            outcome.map Sequence.single) ∧
      (p.value < 0 → ∀ unit, Integer.powerOfTen? p.value.natAbs = some unit →
        (Integer.nearestQuotient? i.value unit).isSome = true) := by
  obtain ⟨multiple, hmultiple, hkept, hrounded⟩ := Integer.exists_roundIntegerToEven i h
  refine ⟨⟨multiple, _, hmultiple, isNearestMultiple_powerOfTen_iff.mpr rfl, hkept, _, ?_,
    evaluate_roundHalfToEven context rfl p⟩,
    fun hneg _ hunit => Integer.isSome_nearestQuotient? i hneg h hunit⟩
  rw [← NumericRule.roundIntegerToEven_clampPrecision] at hrounded
  have hgives := AtomicValue.givesInteger_plainInteger? multiple
  rw [AtomicValue.plainInteger?, ← map_orError, ← hrounded] at hgives
  exact hgives

/-- The greatest integer is nearest to twice the greatest power of ten, which is too large. Of two
nearest tens the even one is taken, on either side of zero. -/
theorem roundHalfToEven_integer_greatest :
    let greatest : Integer := .plain Integer.maxStored (by decide)
    let middle : Integer := ⟨.byte, -25, by decide, by decide⟩
    let context := Context.Builder.start.build ⟨.startOfDay ⟨2000, 1, 1, by decide⟩, .utc⟩
    ((Integer.plain (-38) (by decide)).value = -38 →
        |greatest.value.tmod (10 ^ 38)| < 2 ^ 126) ∧
      (∃ outcome, GivesInteger (2 * 10 ^ 38) outcome ∧
        standard.evaluate (.inFunctions "round-half-to-even")
            [.single (.integer greatest), .single (.integer (.plain (-38) (by decide)))] context =
          outcome.map Sequence.single) ∧
      ((Integer.plain (-1) (by decide)).value = -38 → |middle.value.tmod (10 ^ 38)| < 2 ^ 126) ∧
      ∃ outcome, GivesInteger (-20) outcome ∧
        standard.evaluate (.inFunctions "round-half-to-even")
            [.single (.integer middle), .single (.integer (.plain (-1) (by decide)))] context =
          outcome.map Sequence.single := by
  intro greatest middle context
  have hgreatest : (Integer.plain (-38) (by decide)).value = -38 →
      |greatest.value.tmod (10 ^ 38)| < 2 ^ 126 := fun _ => by decide +kernel
  have hmiddle : (Integer.plain (-1) (by decide)).value = -38 →
      |middle.value.tmod (10 ^ 38)| < 2 ^ 126 := fun _ => by decide +kernel
  obtain ⟨⟨large, twice, hlarge, htwice, _, hrefused⟩, _⟩ :=
    roundHalfToEven_integer greatest (.plain (-38) (by decide)) context hgreatest
  obtain ⟨⟨tens, count, htens, hcount, _, hrounded⟩, _⟩ :=
    roundHalfToEven_integer middle (.plain (-1) (by decide)) context hmiddle
  have hlarge : large = 2 * 10 ^ 38 := by
    have hcount : halfEven ((greatest.value : ℚ) * (10 : ℚ) ^ (-38 : ℤ)) = 2 := by decide +kernel
    obtain rfl : twice = 2 := (isNearestMultiple_powerOfTen_iff.mp htwice).symm.trans hcount
    have hvalue : (large : ℚ) = ((2 * 10 ^ 38 : ℤ) : ℚ) := hlarge.trans (by decide +kernel)
    exact_mod_cast hvalue
  have htens : tens = -20 := by
    have heven : halfEven ((middle.value : ℚ) * (10 : ℚ) ^ (-1 : ℤ)) = -2 := by decide +kernel
    obtain rfl : count = -2 := (isNearestMultiple_powerOfTen_iff.mp hcount).symm.trans heven
    have hvalue : (tens : ℚ) = ((-20 : ℤ) : ℚ) := htens.trans (by decide +kernel)
    exact_mod_cast hvalue
  exact ⟨hgreatest, hlarge ▸ hrefused, hmiddle, htens ▸ hrounded⟩

end Library

end XPathValues
