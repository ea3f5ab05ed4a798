import Mathlib.Tactic
import XPathValues.Proofs.Number.BinaryInteger
import XPathValues.Proofs.Value.DurationSum
import XPathValues.Proofs.Value.ExactOrder

/-!
# Months times an integer

The factors become doubles, and so does their product, to which one half is added before its
fraction is dropped. Up to fifty-two bits nothing is lost on this way. Beyond them, the months are
those of the rounded product or one more, and they are in range if these are, whatever the exact
product is.
-/

namespace XPathValues

open BinaryFormat BinaryFloat Rounding

/-- The integer that a product of integers becomes on its way through doubles. -/
def doubleProduct (m n : ℤ) : ℤ :=
  double.nearestInteger (double.nearestInteger m * double.nearestInteger n)

/-- The count of months that a count times an integer is taken for. -/
def scaledMonths (m n : ℤ) : ℤ :=
  halfUp (doubleProduct m n)

/-! ## Integers as doubles -/

section Product

variable {m n : ℤ} {j k : ℕ}

theorem abs_nearestInteger_le (hk : k ≤ 971) (h : |n| ≤ 2 ^ k) :
    |double.nearestInteger n| ≤ 2 ^ k := by
  have hcast : |(n : ℚ)| ≤ 2 ^ k := by exact_mod_cast h
  have hle := (isBound_double hk).abs_nearest_le proper_double.1 hcast
  rw [← cast_nearestInteger] at hle
  exact_mod_cast hle

theorem toRat?_ofInt (hk : k ≤ 971) (h : |n| ≤ 2 ^ k) :
    (ofInt n : Double).toRat? = some (double.nearestInteger n : ℚ) := by
  rw [cast_nearestInteger]
  exact toRat?_ofInt_double hk h

theorem abs_mul_nearestInteger_le (hjk : j + k ≤ 971) (hm : |m| ≤ 2 ^ j) (hn : |n| ≤ 2 ^ k) :
    |double.nearestInteger m * double.nearestInteger n| ≤ 2 ^ (j + k) := by
  rw [abs_mul, pow_add]
  exact mul_le_mul (abs_nearestInteger_le (by omega) hm) (abs_nearestInteger_le (by omega) hn)
    (abs_nonneg _) (by positivity)

theorem abs_doubleProduct_le (hjk : j + k ≤ 971) (hm : |m| ≤ 2 ^ j) (hn : |n| ≤ 2 ^ k) :
    |doubleProduct m n| ≤ 2 ^ (j + k) :=
  abs_nearestInteger_le hjk (abs_mul_nearestInteger_le hjk hm hn)

theorem toRat?_mul_ofInt (hjk : j + k ≤ 971) (hm : |m| ≤ 2 ^ j) (hn : |n| ≤ 2 ^ k) :
    ((ofInt m : Double).mul (ofInt n)).toRat? = some (doubleProduct m n : ℚ) := by
  have hsize : |(double.nearestInteger m * double.nearestInteger n : ℚ)| ≤ 2 ^ (j + k) := by
    exact_mod_cast abs_mul_nearestInteger_le hjk hm hn
  rw [doubleProduct, cast_nearestInteger, Int.cast_mul]
  exact toRat?_mul proper_double (toRat?_ofInt (by omega) hm) (toRat?_ofInt (by omega) hn)
    (abs_le_double hjk hsize)

/-- Up to 52 bits the factors and the product are doubles, with a bit left for the half. -/
theorem scaledMonths_eq_mul (h : |m * n| ≤ 2 ^ 52) : scaledMonths m n = m * n := by
  have hdouble : ∀ p : ℤ, |p| ≤ 2 ^ 52 → double.nearestInteger p = p := by
    intro p hp
    rw [Int.abs_eq_natAbs] at hp
    have hlimit : p.natAbs < 2 ^ 53 := by omega
    exact nearestInteger_eq_self (by decide) hlimit
  have hproduct : doubleProduct m n = m * n := by
    unfold doubleProduct
    rcases eq_or_ne m 0 with rfl | hm
    · simp [hdouble 0 (by norm_num)]
    rcases eq_or_ne n 0 with rfl | hn
    · simp [hdouble 0 (by norm_num)]
    have hm' : |m| ≤ |m * n| := by
      rw [abs_mul]
      exact le_mul_of_one_le_right (abs_nonneg m) (Int.one_le_abs hn)
    have hn' : |n| ≤ |m * n| := by
      rw [abs_mul]
      exact le_mul_of_one_le_left (abs_nonneg n) (Int.one_le_abs hm)
    rw [hdouble m (hm'.trans h), hdouble n (hn'.trans h), hdouble (m * n) h]
  rw [scaledMonths, hproduct, halfUp_eq_self fun _ => h]

end Product

/-! ## One half more -/

theorem abs_halfUp_le (p : ℤ) : |halfUp p| ≤ |p| + 1 := by
  unfold halfUp
  split
  · exact abs_add_le p 1
  · omega

theorem toRat?_floor_add_half {x : Double} {p : ℤ} (hx : x.toRat? = some (p : ℚ))
    (hp : |p| ≤ 2 ^ 191) : (x.add (ofRat (1 / 2))).floor.toRat? = some (halfUp p : ℚ) := by
  have hhalf : (ofRat (1 / 2) : Double).toRat? = some (1 / 2) := by
    decide +kernel
  have hpcast : |(p : ℚ)| ≤ 2 ^ 191 := by exact_mod_cast hp
  have hsize : |(p : ℚ) + 1 / 2| ≤ 2 ^ 192 := by
    have htriangle := abs_add_le (p : ℚ) (1 / 2)
    rw [abs_of_pos (a := (1 / 2 : ℚ)) (by norm_num)] at htriangle
    linarith
  have hfixed := nearest_of_toRat? hx
  have hsum : (x.add (ofRat (1 / 2))).toRat? = some (double.nearest (p + 1 / 2)) :=
    toRat?_add proper_double hx hhalf (abs_le_double (by norm_num) hsize)
  have hfloor : (double.nearest ((p : ℚ) + 1 / 2)).floor = halfUp p := floor_nearest_add_half hfixed
  have hstored : double.nearest (halfUp p) = halfUp p := by
    rcases nearest_double_add_half hfixed with ⟨hstays, _⟩ | hmoved
    · rw [hstays, hfixed]
    · rw [← hmoved, nearest_of_toRat? hsum]
  have hlimit : |(halfUp p : ℚ)| ≤ 2 ^ 192 := by
    have hle : |halfUp p| ≤ 2 ^ 192 := by linarith [abs_halfUp_le p]
    exact_mod_cast hle
  rw [← hfloor] at hlimit
  have hnonneg : ∀ q : ℚ, 0 ≤ q → 0 ≤ q.floor := fun q h => Rat.le_floor_iff.mpr (by exact_mod_cast h)
  have hnonpos : ∀ q : ℚ, q ≤ 0 → q.floor ≤ 0 := fun q h => by
    exact_mod_cast (Rat.floor_le q).trans h
  have hrounded := toRat?_roundIntegral proper_double hsum (hnonneg _) (hnonpos _)
    (abs_le_double (by norm_num) hlimit)
  rwa [hfloor, hstored] at hrounded

namespace YearMonthDuration

/-- An integer double is in range if its magnitude, after one half has been added, has 63 bits. -/
theorem ofDouble_of_integer {x : Double} {p : ℤ} (hx : x.toRat? = some (p : ℚ))
    (hp : |p| ≤ 2 ^ 191) :
    ofDouble x = orError .durationOutOfRange
      (if (halfUp p).natAbs < 9223372036854775808 then ofMonths? (halfUp p) else none) := by
  unfold ofDouble truncate?
  dsimp only
  rw [toRat?_floor_add_half hx hp, Option.map_some, towardZero_intCast, Option.filter_some]
  simp only [decide_eq_true_eq]
  split <;> rfl

theorem multiply_ofInt (d : YearMonthDuration) (i : Integer) :
    d.multiply (ofInt i.value) = orError .durationOutOfRange
      (if (scaledMonths d.months i.value).natAbs < 9223372036854775808 then
        ofMonths? (scaledMonths d.months i.value) else none) := by
  have hmonths : |d.months| ≤ 2 ^ 63 := by
    have hrange := d.inRange
    unfold InRange at hrange
    rw [abs_le]
    omega
  have hsize := abs_doubleProduct_le (by norm_num) hmonths i.abs_value_le
  exact ofDouble_of_integer (toRat?_mul_ofInt (by norm_num) hmonths i.abs_value_le)
    (hsize.trans (by norm_num))

end YearMonthDuration

namespace AtomicValue

theorem factor_integer (i : Integer) : factor (.integer i.value) = .ok (ofInt i.value) := by
  have hnumber : (ofInt i.value : Double).isNaN = false := by
    have hvalue := i.toRat?_ofInt
    cases hdouble : (ofInt i.value : Double) with
    | nan =>
      rw [hdouble] at hvalue
      cases hvalue
    | _ => rfl
  exact if_neg (Bool.eq_false_iff.mp hnumber)

theorem multiply_yearMonthDuration (d : YearMonthDuration) (i : Integer) (zone : Timezone) :
    (yearMonthDuration d).arithmetic .multiply (integer i) zone =
      (d.multiply (ofInt i.value)).map yearMonthDuration := by
  change (factor (.integer i.value) >>= fun f => (d.multiply f).map yearMonthDuration) = _
  rw [factor_integer]
  rfl

theorem multiply_comm_yearMonthDuration (d : YearMonthDuration) (i : Integer) (zone : Timezone) :
    (integer i).arithmetic .multiply (yearMonthDuration d) zone =
      (yearMonthDuration d).arithmetic .multiply (integer i) zone :=
  rfl

/-- The months are those of the product of doubles with one half added, if they fit. The least count
is left out, whose magnitude has one bit too many. -/
theorem givesMonths_multiply {d : YearMonthDuration} {i : Integer} (zone : Timezone)
    (h : scaledMonths d.months i.value ≠ -9223372036854775808) :
    GivesMonths (scaledMonths d.months i.value)
      ((yearMonthDuration d).arithmetic .multiply (integer i) zone) := by
  rw [multiply_yearMonthDuration, YearMonthDuration.multiply_ofInt]
  split
  · exact givesMonths_ofMonths? _
  · next hlarge =>
    have hbeyond : ¬ YearMonthDuration.InRange (scaledMonths d.months i.value) := by
      unfold YearMonthDuration.InRange
      omega
    exact .outOfRange hbeyond

/-- A count of months times an integer, on either side, is the product of the doubles nearest to
them, if that fits. This is what the exact product gives where the two are the same or neither fits,
and so up to 52 bits. Odd products of more than 52 bits and the least count of months are left
out. -/
theorem month_scaling (d : YearMonthDuration) (i : Integer) (zone : Timezone) :
    let p := doubleProduct d.months i.value
    let outcome := (yearMonthDuration d).arithmetic .multiply (integer i) zone
    (integer i).arithmetic .multiply (yearMonthDuration d) zone = outcome ∧
      ((p % 2 = 1 → |p| ≤ 2 ^ 52) → p ≠ -9223372036854775808 →
        GivesMonths p outcome ∧
          (GivesMonths (d.months * i.value) outcome ↔
            p = d.months * i.value ∨
              ¬ YearMonthDuration.InRange p ∧
                ¬ YearMonthDuration.InRange (d.months * i.value))) ∧
      (|d.months * i.value| ≤ 2 ^ 52 → GivesMonths (d.months * i.value) outcome) := by
  intro p outcome
  refine ⟨multiply_comm_yearMonthDuration d i zone, fun hodd hleast => ?_, fun hsmall => ?_⟩
  · have hstays : scaledMonths d.months i.value = p := halfUp_eq_self hodd
    have hgives : GivesMonths p outcome := hstays ▸ givesMonths_multiply zone (hstays ▸ hleast)
    exact ⟨hgives, hgives.givesMonths_iff⟩
  · have hexact := scaledMonths_eq_mul hsmall
    rw [Int.abs_eq_natAbs] at hsmall
    have hleast : d.months * i.value ≠ -9223372036854775808 := by omega
    exact hexact ▸ givesMonths_multiply zone (hexact.symm ▸ hleast)

/-- The product of a count of 54 bits with one is a double next to it. One of a few months with
three is exact. -/
theorem month_scaling_one :
    let many : YearMonthDuration := ⟨9007199254740993, by decide⟩
    let few : YearMonthDuration := ⟨14, by decide⟩
    let one : Integer := .plain 1 (by decide)
    let three : Integer := .plain 3 (by decide)
    ((doubleProduct many.months one.value % 2 = 1 →
          |doubleProduct many.months one.value| ≤ 2 ^ 52) ∧
        doubleProduct many.months one.value ≠ -9223372036854775808 ∧
        doubleProduct many.months one.value = 9007199254740992 ∧
        GivesMonths (doubleProduct many.months one.value)
          ((yearMonthDuration many).arithmetic .multiply (integer one) .utc)) ∧
      |few.months * three.value| ≤ 2 ^ 52 ∧
      GivesMonths (few.months * three.value)
        ((yearMonthDuration few).arithmetic .multiply (integer three) .utc) := by
  intro many few one three
  have hproduct : doubleProduct many.months one.value = 9007199254740992 := by decide +kernel
  have hodd : doubleProduct many.months one.value % 2 = 1 →
      |doubleProduct many.months one.value| ≤ 2 ^ 52 := by
    rw [hproduct]
    decide
  have hleast : doubleProduct many.months one.value ≠ -9223372036854775808 := by
    rw [hproduct]
    decide
  have hsmall : |few.months * three.value| ≤ 2 ^ 52 := by decide
  exact ⟨⟨hodd, hleast, hproduct, ((month_scaling many one .utc).2.1 hodd hleast).1⟩, hsmall,
    (month_scaling few three .utc).2.2 hsmall⟩

/-- A count of 54 bits is not kept when it is multiplied by one, and a product beyond 64 bits is
rounded into them. -/
theorem multiply_inexact :
    let many : YearMonthDuration := ⟨9007199254740993, by decide⟩
    let most : YearMonthDuration := ⟨89547301328687144, by decide⟩
    let one : Integer := .plain 1 (by decide)
    let factor : Integer := .plain 103 (by decide)
    ((yearMonthDuration many).arithmetic .multiply (integer one) .utc =
          .ok (yearMonthDuration ⟨9007199254740992, by decide⟩) ∧
        many.months * one.value ≠ 9007199254740992) ∧
      (yearMonthDuration most).arithmetic .multiply (integer factor) .utc =
          .ok (yearMonthDuration ⟨9223372036854774784, by decide⟩) ∧
        ¬ YearMonthDuration.InRange (most.months * factor.value) := by
  decide +kernel

end AtomicValue

end XPathValues
