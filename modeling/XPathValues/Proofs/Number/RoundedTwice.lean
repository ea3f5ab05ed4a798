import Mathlib.Tactic
import XPathValues.Proofs.Number.NearestMultiple

/-!
# Rounding twice

A number that has been rounded to so many places may lose its integer part or its side of a tie, and
a second rounding, to an integer, is then not the rounding of the number itself. Both floors and
nearest integers are off only where the first rounding hits the place where they change.
-/

namespace XPathValues.Rounding

variable {q : ℚ} {n : ℤ} {places : ℕ}

theorem le_rounded_places (h : (n : ℚ) ≤ q) (places : ℕ) :
    (n : ℚ) ≤ (halfEven (q * (10 : ℚ) ^ places) : ℚ) / (10 : ℚ) ^ places := by
  have hlower : n * 10 ^ places ≤ halfEven (q * (10 : ℚ) ^ places) := by
    apply le_halfEven
    push_cast
    exact mul_le_mul_of_nonneg_right h (by positivity)
  rw [le_div_iff₀ (by positivity)]
  exact_mod_cast hlower

theorem rounded_places_le (h : q ≤ n) (places : ℕ) :
    (halfEven (q * (10 : ℚ) ^ places) : ℚ) / (10 : ℚ) ^ places ≤ n := by
  have hupper : halfEven (q * (10 : ℚ) ^ places) ≤ n * 10 ^ places := by
    apply halfEven_le
    push_cast
    exact mul_le_mul_of_nonneg_right h (by positivity)
  rw [div_le_iff₀ (by positivity)]
  exact_mod_cast hupper

theorem le_floor_add_one (q : ℚ) : q ≤ ((⌊q⌋ + 1 : ℤ) : ℚ) := by
  exact_mod_cast (Int.lt_floor_add_one q).le

theorem floor_rounded (q : ℚ) (places : ℕ) :
    ⌊(halfEven (q * (10 : ℚ) ^ places) : ℚ) / (10 : ℚ) ^ places⌋ =
      ⌊q⌋ + if halfEven (q * (10 : ℚ) ^ places) = (⌊q⌋ + 1) * 10 ^ places then 1 else 0 := by
  have hpow : (0 : ℚ) < (10 : ℚ) ^ places := by positivity
  have hlower := le_rounded_places (Int.floor_le q) places
  have hupper := rounded_places_le (le_floor_add_one q) places
  split
  · next hnext =>
    rw [hnext]
    push_cast
    rw [mul_div_cancel_right₀ _ hpow.ne']
    exact_mod_cast Int.floor_intCast (R := ℚ) (⌊q⌋ + 1)
  · next hstays =>
    rw [add_zero, Int.floor_eq_iff]
    refine ⟨hlower, lt_of_le_of_ne (by exact_mod_cast hupper) fun heq => hstays ?_⟩
    rw [div_eq_iff hpow.ne'] at heq
    exact_mod_cast heq

/-! ## Ties -/

theorem halfEven_of_below (hlow : (n : ℚ) ≤ q) (hhigh : q < n + 1 / 2) : halfEven q = n := by
  have hdist : |q - n| = q - n := abs_of_nonneg (by linarith)
  exact halfEven_eq_of (by linarith) fun _ => by linarith

theorem halfEven_of_above (hlow : (n : ℚ) + 1 / 2 < q) (hhigh : q ≤ n + 1) :
    halfEven q = n + 1 := by
  have hdist : |q - ((n + 1 : ℤ) : ℚ)| = n + 1 - q := by
    push_cast
    rw [abs_sub_comm, abs_of_nonneg (by linarith)]
  exact halfEven_eq_of (by linarith) fun _ => by linarith

/-- At most half a unit of the last place away from halfway between two integers. -/
def NearTie (q : ℚ) (places : ℕ) : Prop :=
  |q - (⌊q⌋ + 1 / 2)| * (10 : ℚ) ^ places ≤ 1 / 2

instance (q : ℚ) (places : ℕ) : Decidable (NearTie q places) :=
  inferInstanceAs (Decidable (_ ≤ _))

/-- Halfway is a multiple of the last place, and an even one from the second place on. -/
theorem rounded_places_of_nearTie (hplaces : 2 ≤ places) (h : NearTie q places) :
    (halfEven (q * (10 : ℚ) ^ places) : ℚ) / (10 : ℚ) ^ places = ⌊q⌋ + 1 / 2 := by
  obtain ⟨k, rfl⟩ := Nat.exists_eq_add_of_le' hplaces
  have hunits : ((⌊q⌋ : ℚ) + 1 / 2) * (10 : ℚ) ^ (k + 2) =
      (((2 * ⌊q⌋ + 1) * 25 * 10 ^ k * 2 : ℤ) : ℚ) := by
    push_cast
    ring
  have htie : halfEven (q * (10 : ℚ) ^ (k + 2)) = (2 * ⌊q⌋ + 1) * 25 * 10 ^ k * 2 := by
    apply halfEven_eq_of
    · rw [← hunits, ← sub_mul, abs_mul, abs_of_pos (a := (10 : ℚ) ^ (k + 2)) (by positivity)]
      exact h
    · exact fun _ => Int.mul_emod_left _ _
  rw [htie, ← hunits, mul_div_cancel_right₀ _ (by positivity)]

/-- Next to a tie the tie is decided, whichever side of it the number is on. -/
theorem halfEven_rounded (q : ℚ) (hplaces : 2 ≤ places) :
    halfEven ((halfEven (q * (10 : ℚ) ^ places) : ℚ) / (10 : ℚ) ^ places) =
      if NearTie q places then halfEven (⌊q⌋ + 1 / 2) else halfEven q := by
  have hpow : (0 : ℚ) < (10 : ℚ) ^ places := by positivity
  split
  · next hnear => rw [rounded_places_of_nearTie hplaces hnear]
  · next hfar =>
    rw [NearTie, not_le] at hfar
    have hfloor := Int.floor_le q
    have hnext := le_floor_add_one q
    have hlower := le_rounded_places hfloor places
    have hupper := rounded_places_le hnext places
    push_cast at hnext hupper
    rcases le_total q (⌊q⌋ + 1 / 2) with hbelow | habove
    · rw [abs_of_nonpos (by linarith)] at hfar
      have hside : (halfEven (q * (10 : ℚ) ^ places) : ℚ) / (10 : ℚ) ^ places < ⌊q⌋ + 1 / 2 := by
        rw [div_lt_iff₀ hpow]
        linarith [halfEven_sub_le (q * (10 : ℚ) ^ places)]
      rw [halfEven_of_below hlower hside, halfEven_of_below hfloor (by nlinarith)]
    · rw [abs_of_nonneg (by linarith)] at hfar
      have hside : (⌊q⌋ : ℚ) + 1 / 2 < (halfEven (q * (10 : ℚ) ^ places) : ℚ) / (10 : ℚ) ^ places := by
        rw [lt_div_iff₀ hpow]
        linarith [sub_halfEven_le (q * (10 : ℚ) ^ places)]
      rw [halfEven_of_above hside hupper, halfEven_of_above (by nlinarith) hnext]

theorem halfEven_floor_add_half_even (q : ℚ) : halfEven ((⌊q⌋ : ℚ) + 1 / 2) % 2 = 0 := by
  rw [halfEven_add_half]
  split <;> omega

theorem halfEven_floor_add_half (h : halfEven q % 2 = 0) :
    halfEven ((⌊q⌋ : ℚ) + 1 / 2) = halfEven q := by
  have hcases : halfEven q = ⌊q⌋ ∨ halfEven q = ⌊q⌋ + 1 := halfEven_eq_floor_or q
  rw [halfEven_add_half]
  split <;> omega

theorem halfEven_eq_zero (h : |q| ≤ 1 / 2) : halfEven q = 0 :=
  halfEven_eq_of (by simpa using h) fun _ => by decide

theorem halfEven_odd_iff (h : |q| < 1) : halfEven q % 2 = 1 ↔ 1 / 2 < |q| := by
  obtain ⟨hlow, hhigh⟩ := abs_lt.mp h
  constructor
  · intro hodd
    by_contra hsmall
    rw [halfEven_eq_zero (not_lt.mp hsmall)] at hodd
    exact absurd hodd (by decide)
  · intro hlarge
    rcases lt_abs.mp hlarge with hpos | hneg
    · rw [halfEven_of_above (n := 0) (by push_cast; linarith) (by push_cast; linarith)]
      decide
    · rw [halfEven_of_below (n := -1) (by push_cast; linarith) (by push_cast; linarith)]
      decide

end XPathValues.Rounding
