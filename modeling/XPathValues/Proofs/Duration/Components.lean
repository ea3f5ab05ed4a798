import Mathlib.Tactic
import XPathValues.Proofs.Duration.Units
import XPathValues.Proofs.Number.DecimalQuotient

/-!
# The components of a count of seconds

Days, hours, minutes and seconds are each taken out of the exact remainder by the next greater unit.
The number of units may be one too large, where the quotient rounds up to it. The components add up
to the count if and only if this happens to none of them, and in any case they determine it.
-/

namespace XPathValues.Duration

open Decimal

variable {m n k : ℕ} {t u : ℚ}

/-! ## Exact remainders -/

/-- What the greatest possible number of units leaves over. -/
def leftOver (n : ℕ) (t : ℚ) : ℚ :=
  t - (⌊t / n⌋₊ : ℚ) * n

theorem floor_mul_add_leftOver (n : ℕ) (t : ℚ) : (⌊t / n⌋₊ : ℚ) * n + leftOver n t = t := by
  unfold leftOver
  ring

theorem leftOver_nonneg (hn : 0 < n) (ht : 0 ≤ t) : 0 ≤ leftOver n t := by
  have hpos : (0 : ℚ) < n := by exact_mod_cast hn
  have hfloor : (⌊t / n⌋₊ : ℚ) * n ≤ t := (le_div_iff₀ hpos).mp (Nat.floor_le (by positivity))
  unfold leftOver
  linarith

theorem leftOver_lt (hn : 0 < n) (t : ℚ) : leftOver n t < n := by
  have hpos : (0 : ℚ) < n := by exact_mod_cast hn
  have hfloor : t < ((⌊t / n⌋₊ : ℚ) + 1) * n := (div_lt_iff₀ hpos).mp (Nat.lt_floor_add_one _)
  unfold leftOver
  linarith

theorem leftOver_le (n : ℕ) (t : ℚ) : leftOver n t ≤ t := by
  have hproduct : (0 : ℚ) ≤ (⌊t / n⌋₊ : ℚ) * n := by positivity
  unfold leftOver
  linarith

theorem leftOver_eq_of (hn : 0 < n) (ht : t = k * n + u) (hu : 0 ≤ u) (hlt : u < n) :
    leftOver n t = u := by
  have hpos : (0 : ℚ) < n := by exact_mod_cast hn
  have hquotient : t / n = k + u / n := by
    rw [ht]
    field_simp
  have hfloor : ⌊t / n⌋₊ = k := by
    rw [hquotient, Nat.floor_eq_iff (by positivity)]
    have hbelow : u / n < 1 := (div_lt_one hpos).mpr hlt
    have habove : 0 ≤ u / n := by positivity
    constructor <;> linarith
  rw [leftOver, hfloor, ht]
  ring

theorem leftOver_leftOver (hn : 0 < n) (hk : 0 < k) (ht : 0 ≤ t) :
    leftOver n (leftOver (n * k) t) = leftOver n t := by
  have hnonneg := leftOver_nonneg (Nat.mul_pos hn hk) ht
  symm
  refine leftOver_eq_of (k := ⌊t / (n * k : ℕ)⌋₊ * k + ⌊leftOver (n * k) t / n⌋₊) hn ?_
    (leftOver_nonneg hn hnonneg) (leftOver_lt hn _)
  have houter := floor_mul_add_leftOver (n * k) t
  have hinner := floor_mul_add_leftOver n (leftOver (n * k) t)
  push_cast at houter hinner ⊢
  linarith

/-! ## Counted units -/

theorem restOf_eq_leftOver (h : ¬ RoundsUp (t / n)) : restOf n t = leftOver n t := by
  rw [restOf, countedUnits, if_neg h, leftOver]

/-- A number of units that is one too large is worth a whole unit too much. -/
theorem countedUnits_mul (n : ℕ) (t : ℚ) :
    (countedUnits n t : ℚ) * n = t - leftOver n t + if RoundsUp (t / n) then (n : ℚ) else 0 := by
  unfold countedUnits leftOver
  split
  · push_cast
    ring
  · ring

theorem finestScale_anti (h : m ≤ n) : finestScale n ≤ finestScale m := by
  rcases Nat.lt_or_ge maxMagnitude n with hlarge | hstored
  · rw [finestScale_eq_zero hlarge]
    exact Nat.zero_le _
  · exact le_finestScale (finestScale_le n)
      ((Nat.mul_le_mul_right _ h).trans (mul_pow_finestScale_le hstored))

/-- A number that is just as far below a greater integer rounds up, too: there are fewer fraction
digits to tell them apart. -/
theorem roundsUp_mono (h : RoundsUp t) (hfloor : ⌊t⌋₊ ≤ ⌊u⌋₊)
    (hgap : (⌊u⌋₊ : ℚ) - u = ⌊t⌋₊ - t) : RoundsUp u := by
  have hpow : (10 : ℚ) ^ finestScale (⌊u⌋₊ + 1) ≤ (10 : ℚ) ^ finestScale (⌊t⌋₊ + 1) :=
    pow_le_pow_right₀ (by norm_num) (finestScale_anti (by omega))
  have hpositive : 0 ≤ 2 * ((⌊t⌋₊ + 1 : ℕ) - t) := by
    have hnext := le_succ_floor t
    linarith
  unfold RoundsUp at *
  calc 2 * ((⌊u⌋₊ + 1 : ℕ) - u) * (10 : ℚ) ^ finestScale (⌊u⌋₊ + 1)
      = 2 * ((⌊t⌋₊ + 1 : ℕ) - t) * (10 : ℚ) ^ finestScale (⌊u⌋₊ + 1) := by
        push_cast
        linear_combination 2 * (10 : ℚ) ^ finestScale (⌊u⌋₊ + 1) * hgap
    _ ≤ 2 * ((⌊t⌋₊ + 1 : ℕ) - t) * (10 : ℚ) ^ finestScale (⌊t⌋₊ + 1) := by gcongr
    _ ≤ 1 := h

/-- Counts with the same rest are told apart by their counted units, rounded up or not. -/
theorem floor_le_of_countedUnits_le (hn : 0 < n) (hrest : leftOver n t = leftOver n u)
    (hcount : countedUnits n u ≤ countedUnits n t) : ⌊u / n⌋₊ ≤ ⌊t / n⌋₊ := by
  have hpos : (0 : ℚ) < n := by exact_mod_cast hn
  -- A greater quotient with the same rest would round up whenever the smaller one does.
  by_contra hlt
  rw [not_le] at hlt
  have hgap : (⌊u / n⌋₊ : ℚ) - u / n = ⌊t / n⌋₊ - t / n := by
    have ht := floor_mul_add_leftOver n t
    have hu := floor_mul_add_leftOver n u
    field_simp
    linarith
  have hmono : RoundsUp (t / n) → RoundsUp (u / n) := fun hup => roundsUp_mono hup hlt.le hgap
  by_cases hup : RoundsUp (t / n)
  · rw [countedUnits, countedUnits, if_pos hup, if_pos (hmono hup)] at hcount
    omega
  · rw [countedUnits, countedUnits, if_neg hup] at hcount
    split at hcount <;> omega

theorem eq_of_countedUnits_eq (hn : 0 < n) (hrest : leftOver n t = leftOver n u)
    (hcount : countedUnits n t = countedUnits n u) : t = u := by
  have hfloor : ⌊t / n⌋₊ = ⌊u / n⌋₊ :=
    le_antisymm (floor_le_of_countedUnits_le hn hrest.symm hcount.le)
      (floor_le_of_countedUnits_le hn hrest hcount.ge)
  rw [← floor_mul_add_leftOver n t, ← floor_mul_add_leftOver n u, hfloor, hrest]

/-! ## Components of a count of seconds -/

def components (t : ℚ) : Parts where
  days := countedUnits 86400 t
  hours := countedUnits 3600 (leftOver 86400 t)
  minutes := countedUnits 60 (leftOver 3600 t)
  seconds := leftOver 60 t

def Parts.total (parts : Parts) : ℚ :=
  parts.days * 86400 + parts.hours * 3600 + parts.minutes * 60 + parts.seconds

theorem Parts.eq_of_cast {p q : Parts} (hdays : (p.days : ℚ) = q.days)
    (hhours : (p.hours : ℚ) = q.hours) (hminutes : (p.minutes : ℚ) = q.minutes)
    (hseconds : p.seconds = q.seconds) : p = q := by
  obtain ⟨_, _, _, _⟩ := p
  obtain ⟨_, _, _, _⟩ := q
  simp_all

theorem leftOver_hour (ht : 0 ≤ t) : leftOver 3600 (leftOver 86400 t) = leftOver 3600 t :=
  leftOver_leftOver (n := 3600) (k := 24) (by decide) (by decide) ht

theorem leftOver_minute (ht : 0 ≤ t) : leftOver 60 (leftOver 3600 t) = leftOver 60 t :=
  leftOver_leftOver (n := 60) (k := 60) (by decide) (by decide) ht

/-- The quotients that the writer of durations takes are the same ones, as long as none of them
rounds up. -/
theorem splitsExactly_iff (ht : 0 ≤ t) :
    SplitsExactly t ↔ ¬ RoundsUp (t / 86400) ∧ ¬ RoundsUp (leftOver 86400 t / 3600) ∧
      ¬ RoundsUp (leftOver 3600 t / 60) := by
  unfold SplitsExactly
  refine and_congr_right fun hday => ?_
  rw [restOf_eq_leftOver (n := 86400) (by exact_mod_cast hday)]
  refine and_congr_right fun hhour => ?_
  rw [restOf_eq_leftOver (n := 3600) (by exact_mod_cast hhour), leftOver_hour ht]

/-- Every quotient that rounds up adds one of its units. -/
theorem total_components (ht : 0 ≤ t) :
    (components t).total = t + (if RoundsUp (t / 86400) then 86400 else 0) +
      (if RoundsUp (leftOver 86400 t / 3600) then 3600 else 0) +
      (if RoundsUp (leftOver 3600 t / 60) then 60 else 0) := by
  have hday := countedUnits_mul 86400 t
  have hhour := countedUnits_mul 3600 (leftOver 86400 t)
  have hminute := countedUnits_mul 60 (leftOver 3600 t)
  rw [leftOver_hour ht] at hhour
  rw [leftOver_minute ht] at hminute
  push_cast at hday hhour hminute
  simp only [components, Parts.total, hday, hhour, hminute]
  ring

theorem total_components_iff (ht : 0 ≤ t) : (components t).total = t ↔ SplitsExactly t := by
  rw [total_components ht, splitsExactly_iff ht]
  split_ifs with hday hhour hminute <;> simp [*] <;> linarith

/-- The components determine the count, whether or not they add up to it. -/
theorem components_injective (ht : 0 ≤ t) (hu : 0 ≤ u) (h : components t = components u) :
    t = u := by
  obtain ⟨hday, hhour, hminute, hsecond⟩ := Parts.mk.inj h
  -- From the seconds upward, each component fixes what is left over of the next greater unit.
  have hbelowHour : leftOver 3600 t = leftOver 3600 u := by
    refine eq_of_countedUnits_eq (n := 60) (by decide) ?_ hminute
    rw [leftOver_minute ht, leftOver_minute hu, hsecond]
  have hbelowDay : leftOver 86400 t = leftOver 86400 u := by
    refine eq_of_countedUnits_eq (n := 3600) (by decide) ?_ hhour
    rw [leftOver_hour ht, leftOver_hour hu, hbelowHour]
  exact eq_of_countedUnits_eq (by decide) hbelowDay hday

theorem components_zero : components 0 = ⟨0, 0, 0, 0⟩ := by
  have hrest (n : ℕ) : leftOver n 0 = 0 := by simp [leftOver]
  simp [components, hrest, countedUnits_of_nonpos]

theorem components_nonneg (ht : 0 ≤ t) : 0 ≤ (components t).seconds :=
  leftOver_nonneg (by decide) ht

theorem components_seconds_lt (t : ℚ) : (components t).seconds < 60 :=
  leftOver_lt (n := 60) (by decide) t

theorem floor_leftOver_lt (hn : 0 < n) (hk : 0 < k) (t : ℚ) : ⌊leftOver (n * k) t / n⌋₊ < k := by
  have hpos : (0 : ℚ) < n := by exact_mod_cast hn
  rw [Nat.floor_lt' hk.ne', div_lt_iff₀ hpos]
  have hlt := leftOver_lt (Nat.mul_pos hn hk) t
  push_cast at hlt
  linarith

theorem countedUnits_leftOver_le (hn : 0 < n) (hk : 0 < k) (t : ℚ) :
    countedUnits n (leftOver (n * k) t) ≤ k :=
  (countedUnits_le n _).trans (floor_leftOver_lt hn hk t)

theorem countedUnits_leftOver_lt (hn : 0 < n) (hk : 0 < k)
    (h : ¬ RoundsUp (leftOver (n * k) t / n)) : countedUnits n (leftOver (n * k) t) < k := by
  rw [countedUnits, if_neg h]
  exact floor_leftOver_lt hn hk t

theorem components_hours_le (t : ℚ) : (components t).hours ≤ 24 :=
  countedUnits_leftOver_le (n := 3600) (k := 24) (by decide) (by decide) t

theorem components_minutes_le (t : ℚ) : (components t).minutes ≤ 60 :=
  countedUnits_leftOver_le (n := 60) (k := 60) (by decide) (by decide) t

theorem components_lt (ht : 0 ≤ t) (h : SplitsExactly t) :
    (components t).hours < 24 ∧ (components t).minutes < 60 := by
  obtain ⟨_, hhour, hminute⟩ := (splitsExactly_iff ht).mp h
  constructor
  · exact countedUnits_leftOver_lt (n := 3600) (k := 24) (by decide) (by decide)
      (by exact_mod_cast hhour)
  · exact countedUnits_leftOver_lt (n := 60) (k := 60) (by decide) (by decide)
      (by exact_mod_cast hminute)

end XPathValues.Duration
