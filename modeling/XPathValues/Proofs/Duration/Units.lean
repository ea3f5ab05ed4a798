import Mathlib.Tactic
import XPathValues.Duration.Text
import XPathValues.Proofs.Number.DecimalWhole

/-!
# Splitting seconds into days, hours, minutes and seconds

The writer takes the whole units out of a count of seconds by a decimal division. The number of
units is the integer part of the quotient unless the quotient rounds up to the next integer; then
one unit too many is taken, and what is left over is negative from there on. In either case the
parts add up to the count of seconds.
-/

namespace XPathValues.Duration

open Decimal DayTimeDuration

variable {n : ℕ} {x : ℚ} {seconds unit : Decimal}

/-- The units of so many seconds that are taken out of a count of seconds. -/
def countedUnits (n : ℕ) (x : ℚ) : ℕ :=
  if RoundsUp (x / n) then ⌊x / n⌋₊ + 1 else ⌊x / n⌋₊

def restOf (n : ℕ) (x : ℚ) : ℚ :=
  x - countedUnits n x * n

/-- The quotient is far enough from the limit of storage to keep four fraction digits. -/
def Moderate (n : ℕ) (x : ℚ) : Prop :=
  (⌊x / n⌋₊ + 1) * 10000 ≤ maxMagnitude

theorem not_roundsUp_of_nonpos {q : ℚ} (h : q ≤ 0) : ¬ RoundsUp q := by
  intro hup
  have hone : (1 : ℚ) ≤ (10 : ℚ) ^ finestScale (⌊q⌋₊ + 1) := one_le_pow₀ (by norm_num)
  rw [RoundsUp, Nat.floor_of_nonpos h] at hup
  rw [Nat.floor_of_nonpos h] at hone
  push_cast at hup
  nlinarith

theorem countedUnits_of_nonpos (h : x ≤ 0) : countedUnits n x = 0 := by
  have hq : x / n ≤ 0 := div_nonpos_of_nonpos_of_nonneg h (Nat.cast_nonneg n)
  rw [countedUnits, if_neg (not_roundsUp_of_nonpos hq), Nat.floor_of_nonpos hq]

theorem restOf_of_nonpos (h : x ≤ 0) : restOf n x = x := by
  rw [restOf, countedUnits_of_nonpos h]
  simp

theorem floor_le_countedUnits (n : ℕ) (x : ℚ) : ⌊x / n⌋₊ ≤ countedUnits n x := by
  unfold countedUnits
  split <;> omega

theorem countedUnits_le (n : ℕ) (x : ℚ) : countedUnits n x ≤ ⌊x / n⌋₊ + 1 := by
  unfold countedUnits
  split <;> omega

theorem restOf_lt (hn : 0 < n) (x : ℚ) : restOf n x < n := by
  have hpos : (0 : ℚ) < n := by exact_mod_cast hn
  have hfloor : x < ((⌊x / n⌋₊ : ℕ) + 1 : ℚ) * n := (div_lt_iff₀ hpos).mp (Nat.lt_floor_add_one _)
  have hcount : ((⌊x / n⌋₊ : ℕ) : ℚ) * n ≤ (countedUnits n x : ℚ) * n :=
    mul_le_mul_of_nonneg_right (by exact_mod_cast floor_le_countedUnits n x) hpos.le
  unfold restOf
  linarith

theorem restOf_nonneg (hn : 0 < n) (hx : 0 ≤ x) (h : ¬ RoundsUp (x / n)) : 0 ≤ restOf n x := by
  have hpos : (0 : ℚ) < n := by exact_mod_cast hn
  have hfloor : ((⌊x / n⌋₊ : ℕ) : ℚ) * n ≤ x :=
    (le_div_iff₀ hpos).mp (Nat.floor_le (div_nonneg hx hpos.le))
  rw [restOf, countedUnits, if_neg h]
  linarith

theorem restOf_neg (hn : 0 < n) (h : RoundsUp (x / n)) : restOf n x < 0 := by
  have hpos : (0 : ℚ) < n := by exact_mod_cast hn
  have hfloor : x < ((⌊x / n⌋₊ : ℕ) + 1 : ℚ) * n := (div_lt_iff₀ hpos).mp (Nat.lt_floor_add_one _)
  rw [restOf, countedUnits, if_pos h]
  push_cast
  linarith

/-- A quotient that rounds up is within half a unit of its fourth fraction digit. -/
theorem le_restOf (hn : 0 < n) (hx : 0 ≤ x) (hmoderate : Moderate n x) :
    -((n : ℚ) / 20000) ≤ restOf n x := by
  have hpos : (0 : ℚ) < n := by exact_mod_cast hn
  by_cases hup : RoundsUp (x / n)
  · have hscale : 4 ≤ finestScale (⌊x / n⌋₊ + 1) :=
      le_finestScale (by decide) (by simpa [Moderate] using hmoderate)
    have hpow : (10 : ℚ) ^ 4 ≤ (10 : ℚ) ^ finestScale (⌊x / n⌋₊ + 1) :=
      pow_le_pow_right₀ (by norm_num) hscale
    have hgap : (0 : ℚ) ≤ (⌊x / n⌋₊ + 1 : ℕ) - x / n := by
      push_cast
      linarith [Nat.lt_floor_add_one (x / n)]
    have hsmall : ((⌊x / n⌋₊ + 1 : ℕ) - x / n) * 20000 ≤ 1 := by
      rw [RoundsUp] at hup
      nlinarith
    have hscaled : ((⌊x / n⌋₊ + 1 : ℕ) - x / n) * n = (⌊x / n⌋₊ + 1 : ℕ) * n - x := by
      rw [sub_mul, div_mul_cancel₀ _ hpos.ne']
    rw [restOf, countedUnits, if_pos hup]
    nlinarith
  · have hnonneg := restOf_nonneg hn hx hup
    linarith

theorem neg_five_le_restOf (hn : 0 < n) (hle : n ≤ 86400) (hmoderate : Moderate n x)
    (hx : -5 ≤ x) : -5 ≤ restOf n x := by
  rcases le_total x 0 with hneg | hpos
  · rwa [restOf_of_nonpos hneg]
  · have hlow := le_restOf hn hpos hmoderate
    have hcast : (n : ℚ) ≤ 86400 := by exact_mod_cast hle
    linarith

theorem abs_restOf_le (hn : 0 < n) (hmoderate : Moderate n x) : |restOf n x| ≤ |x| := by
  have hpos : (0 : ℚ) < n := by exact_mod_cast hn
  rcases le_total x 0 with hx | hx
  · rw [restOf_of_nonpos hx]
  · have hlow := le_restOf hn hx hmoderate
    have hproduct : (0 : ℚ) ≤ (countedUnits n x : ℚ) * n := by positivity
    rw [abs_of_nonneg hx, abs_le]
    refine ⟨?_, by unfold restOf; linarith⟩
    by_cases hup : RoundsUp (x / n)
    · have hunit : (n : ℚ) ≤ (countedUnits n x : ℚ) * n := by
        have hone : (1 : ℚ) ≤ countedUnits n x := by
          rw [countedUnits, if_pos hup]
          exact_mod_cast Nat.le_add_left 1 _
        nlinarith
      unfold restOf at *
      linarith
    · have hnonneg := restOf_nonneg hn hx hup
      linarith

theorem div?_of_value (hunit : unit.toRat = n) (hn : 0 < n) :
    seconds.div? unit = ofRat? (seconds.toRat / n) := by
  have hzero : unit.isZero = false := by
    rw [isZero_eq_false_iff, hunit]
    exact_mod_cast hn.ne'
  rw [div?, hzero, hunit]
  rfl

theorem toRat_wholeUnits (hunit : unit.toRat = n) (hn : 0 < n) (hlow : -(n : ℚ) < 2 * seconds.toRat)
    (hmoderate : Moderate n seconds.toRat) :
    (wholeUnits seconds unit).toRat = countedUnits n seconds.toRat := by
  have hpos : (0 : ℚ) < n := by exact_mod_cast hn
  rw [wholeUnits, div?_of_value hunit hn]
  rcases le_total 0 seconds.toRat with hx | hx
  · have hlimit : (⌊seconds.toRat / n⌋₊ + 1) * 10 ≤ maxMagnitude := by
      unfold Moderate at hmoderate
      omega
    obtain ⟨d, hd, hnonneg, hfloor⟩ := floor_ofRat? (div_nonneg hx hpos.le) hlimit
    rw [hd, Option.map_some, Option.getD_some, toRat_truncate_of_nonneg hnonneg, hfloor,
      countedUnits]
  · rw [countedUnits_of_nonpos hx, Nat.cast_zero]
    cases hd : ofRat? (seconds.toRat / n) with
    | none => simp
    | some d =>
      apply toRat_truncate_of_abs_lt_one
      refine abs_ofRat?_lt_one ?_ (div_nonpos_of_nonpos_of_nonneg hx hpos.le) hd
      rw [lt_div_iff₀ hpos]
      linarith

theorem splitUnits_spec (hunit : unit.toRat = n) (hn : 0 < n)
    (hlow : -(n : ℚ) < 2 * seconds.toRat) (hmoderate : Moderate n seconds.toRat)
    (hproduct : countedUnits n seconds.toRat * n ≤ maxMagnitude) :
    (splitUnits seconds unit).1.toRat = countedUnits n seconds.toRat ∧
      (splitUnits seconds unit).2.toRat = restOf n seconds.toRat := by
  have hcount := toRat_wholeUnits hunit hn hlow hmoderate
  refine ⟨hcount, ?_⟩
  have htotal : (wholeUnits seconds unit).toRat * unit.toRat =
      (Decimal.ofNat (countedUnits n seconds.toRat * n) hproduct).toRat := by
    rw [hcount, hunit, toRat_ofNat, Nat.cast_mul]
  have hcast : restOf n seconds.toRat =
      seconds.toRat - ((countedUnits n seconds.toRat * n : ℕ) : ℚ) := by
    rw [restOf, Nat.cast_mul]
  have habs := abs_restOf_le hn hmoderate
  rw [hcast] at habs ⊢
  obtain ⟨rest, hrest⟩ := exists_toRat_eq_sub habs
  have hsub : seconds.toRat -
      (Decimal.ofNat (countedUnits n seconds.toRat * n) hproduct).normalize.toRat = rest.toRat := by
    rw [toRat_normalize, toRat_ofNat, hrest]
  rw [splitUnits]
  simp only [mul?_of_value htotal, Option.bind_some, sub?_of_value hsub, Option.getD_some,
    toRat_normalize, hrest]

theorem floor_le_of_le (hn : 0 < n) {k : ℕ} (h : x ≤ (k : ℚ) * n) : ⌊x / n⌋₊ ≤ k :=
  Nat.floor_le_of_le ((div_le_iff₀ (by exact_mod_cast hn)).mpr h)

theorem moderate_of_le (hn : 0 < n) {k : ℕ} (h : x ≤ (k : ℚ) * n)
    (hk : (k + 1) * 10000 ≤ maxMagnitude) : Moderate n x :=
  (Nat.mul_le_mul_right 10000 (Nat.add_le_add_right (floor_le_of_le hn h) 1)).trans hk

theorem countedUnits_le_of_le (hn : 0 < n) {k : ℕ} (h : x ≤ (k : ℚ) * n) :
    countedUnits n x ≤ k + 1 :=
  (countedUnits_le n x).trans (Nat.add_le_add_right (floor_le_of_le hn h) 1)

theorem moderate_days (hx : x ≤ maxMagnitude) : Moderate 86400 x := by
  have hlimit : (maxMagnitude : ℚ) ≤ ((maxMagnitude / 86400 + 1 : ℕ) : ℚ) * (86400 : ℕ) := by
    exact_mod_cast (by unfold maxMagnitude; omega :
      maxMagnitude ≤ (maxMagnitude / 86400 + 1) * 86400)
  exact moderate_of_le (by decide) (hx.trans hlimit) (by unfold maxMagnitude; omega)

/-- A day too many still fits, since the limit of storage is not close below a whole day. -/
theorem countedUnits_days_le (hx : 0 ≤ x) (hmax : x ≤ maxMagnitude) :
    countedUnits 86400 x * 86400 ≤ maxMagnitude := by
  have hlow := le_restOf (by decide) hx (moderate_days hmax)
  have hlt : ((countedUnits 86400 x * 86400 : ℕ) : ℚ) < ((maxMagnitude + 5 : ℕ) : ℚ) := by
    unfold restOf at hlow
    push_cast at hlow ⊢
    linarith
  have hnat : countedUnits 86400 x * 86400 < maxMagnitude + 5 := by exact_mod_cast hlt
  unfold maxMagnitude at *
  omega

/-- The parts of a count of seconds that the writer gives. -/
structure Parts where
  days : ℕ
  hours : ℕ
  minutes : ℕ
  seconds : ℚ

def parts (x : ℚ) : Parts where
  days := countedUnits 86400 x
  hours := countedUnits 3600 (restOf 86400 x)
  minutes := countedUnits 60 (restOf 3600 (restOf 86400 x))
  seconds := restOf 60 (restOf 3600 (restOf 86400 x))

/-- None of the three quotients rounds up to the next integer. -/
def SplitsExactly (x : ℚ) : Prop :=
  ¬ RoundsUp (x / 86400) ∧ ¬ RoundsUp (restOf 86400 x / 3600) ∧
    ¬ RoundsUp (restOf 3600 (restOf 86400 x) / 60)

instance (x : ℚ) : Decidable (SplitsExactly x) :=
  inferInstanceAs (Decidable (_ ∧ _ ∧ _))

theorem parts_sum (x : ℚ) :
    (((parts x).days * 86400 + (parts x).hours * 3600 + (parts x).minutes * 60 : ℕ) : ℚ) +
      (parts x).seconds = x := by
  simp only [parts, restOf]
  push_cast
  ring

/-- One unit too many leaves a negative rest, which the smaller units do not change. -/
theorem parts_seconds_nonneg_iff (hx : 0 ≤ x) : 0 ≤ (parts x).seconds ↔ SplitsExactly x := by
  constructor
  · intro hnonneg
    simp only [parts] at hnonneg
    have hday : ¬ RoundsUp (x / 86400) := by
      intro hup
      have hneg := restOf_neg (n := 86400) (by decide) (by exact_mod_cast hup)
      rw [restOf_of_nonpos hneg.le, restOf_of_nonpos hneg.le] at hnonneg
      exact absurd hnonneg (not_le.mpr hneg)
    have hhour : ¬ RoundsUp (restOf 86400 x / 3600) := by
      intro hup
      have hneg := restOf_neg (n := 3600) (by decide) (by exact_mod_cast hup)
      rw [restOf_of_nonpos hneg.le] at hnonneg
      exact absurd hnonneg (not_le.mpr hneg)
    refine ⟨hday, hhour, fun hup => ?_⟩
    have hneg := restOf_neg (n := 60) (by decide) (by exact_mod_cast hup)
    exact absurd hnonneg (not_le.mpr hneg)
  · rintro ⟨hday, hhour, hminute⟩
    have hclock := restOf_nonneg (n := 86400) (by decide) hx (by exact_mod_cast hday)
    have hrest := restOf_nonneg (n := 3600) (by decide) hclock (by exact_mod_cast hhour)
    exact restOf_nonneg (n := 60) (by decide) hrest (by exact_mod_cast hminute)

theorem SplitsExactly.days_eq (h : SplitsExactly x) : (parts x).days = ⌊x / 86400⌋₊ := by
  have hday := h.1
  simp [parts, countedUnits, hday]

theorem parts_hours_le (x : ℚ) : (parts x).hours ≤ 25 := by
  apply countedUnits_le_of_le (k := 24) (by decide)
  have hlt := restOf_lt (n := 86400) (by decide) x
  push_cast at hlt ⊢
  linarith

theorem parts_minutes_le (x : ℚ) : (parts x).minutes ≤ 61 := by
  apply countedUnits_le_of_le (k := 60) (by decide)
  have hlt := restOf_lt (n := 3600) (by decide) (restOf 86400 x)
  push_cast at hlt ⊢
  linarith

end XPathValues.Duration
