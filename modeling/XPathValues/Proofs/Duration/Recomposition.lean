import Mathlib.Tactic
import XPathValues.Proofs.Duration.Components
import XPathValues.Proofs.Number.DecimalRemainder

/-!
# The components of a duration

The components lie on the side of zero on which the duration is, and their sizes are the components
of its size. So they add up to the duration unless a quotient has been rounded up, and durations
with the same components are equal.
-/

namespace XPathValues.DayTimeDuration

open Decimal Duration Rounding

variable {seconds unit : Decimal} {side : ℤ} {n : ℕ} {t : ℚ}

theorem toInt_wholeUnits (hunit : unit.toRat = n) (hn : 0 < n) :
    (wholeUnits seconds unit).toInt = signedWhole (seconds.toRat / n) := by
  have hone : (1 : ℚ) ≤ n := by exact_mod_cast hn
  have hrange : |seconds.toRat / n| ≤ maxMagnitude := by
    rw [abs_div, Nat.abs_cast]
    exact (div_le_self (abs_nonneg _) hone).trans (abs_toRat_le seconds)
  obtain ⟨q, hq⟩ := exists_ofRat?_of_abs_le hrange
  rw [wholeUnits, div?_of_value hunit hn, hq, Option.map_some, Option.getD_some, toInt_truncate,
    toInt_ofRat? hq]

theorem toRat_beyond (hunit : unit.toRat = n) (hn : 0 < n) (hscale : unit.scale = 0) :
    (beyond seconds unit).toRat = seconds.toRat - towardZero (seconds.toRat / n) * n := by
  have hzero : unit.toRat ≠ 0 := by
    rw [hunit]
    exact_mod_cast hn.ne'
  obtain ⟨rest, hrest⟩ :=
    Option.isSome_iff_exists.mp (isSome_rem? (a := seconds) (isZero_eq_false_iff.mpr hzero))
  have hshort : dividendOf seconds unit ≤ maxMagnitude := by
    rw [dividendOf, max_eq_left (by omega), magnitudeAt_of_le le_rfl]
    exact seconds.magnitude_le
  rw [beyond, hrest, Option.getD_some, ← hunit]
  exact (toRat_rem?_eq_iff hzero hrest).mpr
    (LongDivision.remainder_eq_mod (Nat.lt_succ_of_le hshort) _)

/-! ## Side and size -/

/-- The units on the side of the count are the counted units of its size. -/
theorem signedWhole_div (hside : side = 1 ∨ side = -1) (hn : 60 ≤ n) (ht : 0 ≤ t)
    (hmax : t ≤ maxMagnitude) : signedWhole (side * t / n) = side * countedUnits n t := by
  have hquotient : 0 ≤ t / n := by positivity
  have hlimit : (⌊t / n⌋₊ + 1) * 10 ≤ maxMagnitude := by
    have hscaled : t ≤ ((maxMagnitude / 60 + 1 : ℕ) : ℚ) * n := by
      have hcap : maxMagnitude ≤ (maxMagnitude / 60 + 1) * n :=
        (by unfold maxMagnitude; omega : maxMagnitude ≤ (maxMagnitude / 60 + 1) * 60).trans
          (Nat.mul_le_mul_left _ hn)
      exact hmax.trans (by exact_mod_cast hcap)
    have hfloor := floor_le_of_le (by omega) hscaled
    unfold maxMagnitude at *
    omega
  have hwhole : signedWhole (t / n) = countedUnits n t := by
    rw [signedWhole, if_neg (not_lt.mpr hquotient), roundedWhole_eq hquotient hlimit, countedUnits]
  rcases hside with rfl | rfl
  · rw [Int.cast_one, one_mul, one_mul, hwhole]
  · rw [Int.cast_neg, Int.cast_one, neg_one_mul, neg_one_mul, neg_div, signedWhole_neg, hwhole]

theorem sub_towardZero_div (hside : side = 1 ∨ side = -1) (ht : 0 ≤ t) (n : ℕ) :
    side * t - towardZero (side * t / n) * n = side * leftOver n t := by
  have hquotient : 0 ≤ t / n := by positivity
  rcases hside with rfl | rfl
  · rw [Int.cast_one, one_mul, towardZero_of_nonneg hquotient, leftOver]
    push_cast
    ring
  · have hneg : -(t / n) ≤ 0 := neg_nonpos.mpr hquotient
    rw [Int.cast_neg, Int.cast_one, neg_one_mul, neg_div, towardZero_of_nonpos hneg, neg_neg,
      leftOver]
    push_cast
    ring

/-- A duration of so many seconds on one side of zero, with its components. -/
structure SplitsInto (d : DayTimeDuration) (side : ℤ) (t : ℚ) : Prop where
  sign : side = 1 ∨ side = -1
  nonneg : 0 ≤ t
  seconds : d.seconds.toRat = side * t
  days : d.days = side * (components t).days
  hours : d.hoursOfDay = side * (components t).hours
  minutes : d.minutesOfHour = side * (components t).minutes
  rest : d.secondsOfMinute.toRat = side * (components t).seconds

theorem exists_splitsInto (d : DayTimeDuration) :
    ∃ side, d.SplitsInto side |d.seconds.toRat| := by
  have hmax := abs_toRat_le d.seconds
  obtain ⟨t, ht⟩ : ∃ t, t = |d.seconds.toRat| := ⟨_, rfl⟩
  have hnonneg : 0 ≤ t := ht ▸ abs_nonneg _
  rw [← ht] at hmax ⊢
  obtain ⟨side, hside, hseconds⟩ : ∃ side : ℤ, (side = 1 ∨ side = -1) ∧
      d.seconds.toRat = side * t := by
    rcases le_total 0 d.seconds.toRat with hpos | hneg
    · exact ⟨1, Or.inl rfl, by rw [ht, abs_of_nonneg hpos, Int.cast_one, one_mul]⟩
    · exact ⟨-1, Or.inr rfl, by rw [ht, abs_of_nonpos hneg]; push_cast; ring⟩
  have hbeyond {unit : Decimal} {n : ℕ} (hunit : unit.toRat = n) (hn : 0 < n)
      (hscale : unit.scale = 0) : (beyond d.seconds unit).toRat = side * leftOver n t := by
    rw [toRat_beyond hunit hn hscale, hseconds, sub_towardZero_div hside hnonneg]
  have hday : day.toRat = (86400 : ℕ) := toRat_ofNat ..
  have hhour : hour.toRat = (3600 : ℕ) := toRat_ofNat ..
  have hminute : minute.toRat = (60 : ℕ) := toRat_ofNat ..
  refine ⟨side, hside, hnonneg, hseconds, ?_, ?_, ?_, ?_⟩
  · rw [days, toInt_wholeUnits hday (by decide), hseconds]
    exact signedWhole_div hside (by decide) hnonneg hmax
  · rw [hoursOfDay, toInt_wholeUnits hhour (by decide), hbeyond hday (by decide) rfl]
    exact signedWhole_div hside (by decide) (leftOver_nonneg (by decide) hnonneg)
      ((leftOver_le _ t).trans hmax)
  · rw [minutesOfHour, toInt_wholeUnits hminute (by decide), hbeyond hhour (by decide) rfl]
    exact signedWhole_div hside (by decide) (leftOver_nonneg (by decide) hnonneg)
      ((leftOver_le _ t).trans hmax)
  · rw [secondsOfMinute, toRat_normalize, hbeyond hminute (by decide) rfl]
    rfl

/-! ## Recomposition -/

theorem SplitsInto.zero_or_side {d : DayTimeDuration} (h : d.SplitsInto side t) {part : ℚ}
    (hpart : 0 ≤ part) (hzero : t = 0 → part = 0) :
    side * part = 0 ∨ 0 < side * part * d.seconds.toRat := by
  rcases hpart.eq_or_lt with rfl | hpositive
  · exact Or.inl (mul_zero _)
  · have ht : 0 < t := h.nonneg.lt_of_ne fun hnone => hpositive.ne' (hzero hnone.symm)
    right
    rw [h.seconds]
    rcases h.sign with rfl | rfl
    · push_cast
      nlinarith
    · push_cast
      nlinarith

/-- The components of a duration: they are on its side of zero and below the next greater unit, up
to which rounding may take them, and they add up to it if nothing has been rounded up. -/
structure HasComponents (d : DayTimeDuration) : Prop where
  sum_iff : (d.days * 86400 + d.hoursOfDay * 3600 + d.minutesOfHour * 60 : ℤ) +
    d.secondsOfMinute.toRat = d.seconds.toRat ↔ SplitsExactly |d.seconds.toRat|
  days_side : (d.days : ℚ) = 0 ∨ 0 < d.days * d.seconds.toRat
  hours_side : (d.hoursOfDay : ℚ) = 0 ∨ 0 < d.hoursOfDay * d.seconds.toRat
  minutes_side : (d.minutesOfHour : ℚ) = 0 ∨ 0 < d.minutesOfHour * d.seconds.toRat
  seconds_side : d.secondsOfMinute.toRat = 0 ∨ 0 < d.secondsOfMinute.toRat * d.seconds.toRat
  hours_le : |d.hoursOfDay| ≤ 24
  minutes_le : |d.minutesOfHour| ≤ 60
  seconds_lt : |d.secondsOfMinute.toRat| < 60
  below : SplitsExactly |d.seconds.toRat| → |d.hoursOfDay| < 24 ∧ |d.minutesOfHour| < 60

theorem abs_mul_of_side (hside : side = 1 ∨ side = -1) (z : ℤ) : |side * z| = |z| := by
  rcases hside with rfl | rfl
  · rw [one_mul]
  · rw [neg_one_mul, abs_neg]

theorem hasComponents (d : DayTimeDuration) : d.HasComponents := by
  obtain ⟨side, h⟩ := d.exists_splitsInto
  obtain ⟨t, ht⟩ : ∃ t, t = |d.seconds.toRat| := ⟨_, rfl⟩
  rw [← ht] at h
  have hzero : t = 0 → components t = ⟨0, 0, 0, 0⟩ := by
    rintro rfl
    exact components_zero
  constructor
  · rw [← ht, ← total_components_iff h.nonneg, h.days, h.hours, h.minutes, h.rest, h.seconds,
      Parts.total]
    rcases h.sign with rfl | rfl
    · push_cast
      constructor <;> intro hsum <;> linarith
    · push_cast
      constructor <;> intro hsum <;> linarith
  · rw [h.days]
    push_cast
    exact h.zero_or_side (Nat.cast_nonneg _) fun hnone => by simp [hzero hnone]
  · rw [h.hours]
    push_cast
    exact h.zero_or_side (Nat.cast_nonneg _) fun hnone => by simp [hzero hnone]
  · rw [h.minutes]
    push_cast
    exact h.zero_or_side (Nat.cast_nonneg _) fun hnone => by simp [hzero hnone]
  · rw [h.rest]
    exact h.zero_or_side (components_nonneg h.nonneg) fun hnone => by simp [hzero hnone]
  · have hhours := components_hours_le t
    rw [h.hours, abs_mul_of_side h.sign, Nat.abs_cast]
    exact_mod_cast hhours
  · have hminutes := components_minutes_le t
    rw [h.minutes, abs_mul_of_side h.sign, Nat.abs_cast]
    exact_mod_cast hminutes
  · have hlt := components_seconds_lt t
    have hnonneg := components_nonneg h.nonneg
    rw [h.rest, abs_lt]
    rcases h.sign with rfl | rfl
    · push_cast
      constructor <;> linarith
    · push_cast
      constructor <;> linarith
  · intro hsplits
    obtain ⟨hhours, hminutes⟩ := components_lt h.nonneg (ht ▸ hsplits)
    rw [h.hours, h.minutes, abs_mul_of_side h.sign, abs_mul_of_side h.sign, Nat.abs_cast,
      Nat.abs_cast]
    exact ⟨by exact_mod_cast hhours, by exact_mod_cast hminutes⟩

theorem eq_of_sides {side other : ℤ} (hside : side = 1 ∨ side = -1)
    (hother : other = 1 ∨ other = -1) {p q : ℚ} (hp : 0 ≤ p) (hq : 0 ≤ q)
    (h : side * p = other * q) : p = q ∧ (side = other ∨ p = 0) := by
  rcases hside with rfl | rfl <;> rcases hother with rfl | rfl <;> push_cast at h
  · exact ⟨by linarith, Or.inl rfl⟩
  · exact ⟨by linarith, Or.inr (by linarith)⟩
  · exact ⟨by linarith, Or.inr (by linarith)⟩
  · exact ⟨by linarith, Or.inl rfl⟩

/-- Two durations with the same components are equal, also where these do not add up. On opposite
sides of zero only zeros agree. -/
theorem toRat_eq_of_components_eq {d e : DayTimeDuration} (hdays : d.days = e.days)
    (hhours : d.hoursOfDay = e.hoursOfDay) (hminutes : d.minutesOfHour = e.minutesOfHour)
    (hseconds : d.secondsOfMinute.toRat = e.secondsOfMinute.toRat) :
    d.seconds.toRat = e.seconds.toRat := by
  obtain ⟨side, hd⟩ := d.exists_splitsInto
  obtain ⟨other, he⟩ := e.exists_splitsInto
  obtain ⟨t, ht⟩ : ∃ t, t = |d.seconds.toRat| := ⟨_, rfl⟩
  obtain ⟨u, hu⟩ : ∃ u, u = |e.seconds.toRat| := ⟨_, rfl⟩
  rw [← ht] at hd
  rw [← hu] at he
  have hcount {m n : ℕ} (h : side * (m : ℤ) = other * (n : ℤ)) :
      (m : ℚ) = n ∧ (side = other ∨ (m : ℚ) = 0) :=
    eq_of_sides hd.sign he.sign (Nat.cast_nonneg m) (Nat.cast_nonneg n) (by exact_mod_cast h)
  obtain ⟨hday, hdaySide⟩ := hcount (hd.days ▸ he.days ▸ hdays)
  obtain ⟨hhour, hhourSide⟩ := hcount (hd.hours ▸ he.hours ▸ hhours)
  obtain ⟨hminute, hminuteSide⟩ := hcount (hd.minutes ▸ he.minutes ▸ hminutes)
  obtain ⟨hsecond, hsecondSide⟩ := eq_of_sides hd.sign he.sign (components_nonneg hd.nonneg)
    (components_nonneg he.nonneg) (hd.rest ▸ he.rest ▸ hseconds)
  have hsize : t = u := components_injective hd.nonneg he.nonneg
    (Parts.eq_of_cast hday hhour hminute hsecond)
  by_cases hsame : side = other
  · rw [hd.seconds, he.seconds, hsame, hsize]
  · have hnone : components t = components 0 := by
      rw [components_zero]
      exact Parts.eq_of_cast ((hdaySide.resolve_left hsame).trans Nat.cast_zero.symm)
        ((hhourSide.resolve_left hsame).trans Nat.cast_zero.symm)
        ((hminuteSide.resolve_left hsame).trans Nat.cast_zero.symm)
        (hsecondSide.resolve_left hsame)
    have hvanish : t = 0 := components_injective hd.nonneg le_rfl hnone
    rw [hd.seconds, he.seconds, ← hsize, hvanish, mul_zero, mul_zero]

end XPathValues.DayTimeDuration

namespace XPathValues.YearMonthDuration

/-- Years and months beyond them, on the side of the count of months. -/
structure HasComponents (d : YearMonthDuration) : Prop where
  sum : d.years * 12 + d.monthsOfYear = d.months
  months_lt : |d.monthsOfYear| < 12
  years_side : d.years = 0 ∨ 0 < d.years * d.months
  months_side : d.monthsOfYear = 0 ∨ 0 < d.monthsOfYear * d.months

/-- Whatever the side, the components are those of the size. -/
theorem exists_splitsInto (d : YearMonthDuration) :
    ∃ (side : ℤ) (count : ℕ), (side = 1 ∨ side = -1) ∧ d.months = side * count ∧
      d.years = side * (count / 12 : ℕ) ∧ d.monthsOfYear = side * (count % 12 : ℕ) := by
  unfold years monthsOfYear
  obtain ⟨count, hcount | hcount⟩ := Int.eq_nat_or_neg d.months
  · refine ⟨1, count, Or.inl rfl, by rw [one_mul, hcount], ?_, ?_⟩
    · rw [hcount, one_mul, Int.natCast_ediv]
      exact Int.tdiv_eq_ediv_of_nonneg (Int.natCast_nonneg count)
    · rw [hcount, one_mul, Int.natCast_emod]
      exact Int.tmod_eq_emod_of_nonneg (Int.natCast_nonneg count)
  · refine ⟨-1, count, Or.inr rfl, by rw [neg_one_mul, hcount], ?_, ?_⟩
    · rw [hcount, neg_one_mul, Int.neg_tdiv, Int.natCast_ediv]
      exact congrArg Neg.neg (Int.tdiv_eq_ediv_of_nonneg (Int.natCast_nonneg count))
    · rw [hcount, neg_one_mul, Int.neg_tmod, Int.natCast_emod]
      exact congrArg Neg.neg (Int.tmod_eq_emod_of_nonneg (Int.natCast_nonneg count))

theorem hasComponents (d : YearMonthDuration) : d.HasComponents := by
  obtain ⟨side, count, hside, hcount, hyears, hmonths⟩ := d.exists_splitsInto
  have hpart {part : ℕ} (hle : part ≤ count) :
      side * (part : ℤ) = 0 ∨ 0 < side * (part : ℤ) * d.months := by
    rcases Nat.eq_zero_or_pos part with rfl | hpos
    · exact Or.inl (mul_zero side)
    · have hproduct : 0 < (part : ℤ) * count := by exact_mod_cast Nat.mul_pos hpos (by omega)
      right
      rw [hcount]
      rcases hside with rfl | rfl <;> linarith
  refine ⟨d.years_mul_add, ?_, ?_, ?_⟩
  · rw [hmonths]
    rcases hside with rfl | rfl <;> rw [abs_lt] <;> omega
  · rw [hyears]
    exact hpart (Nat.div_le_self count 12)
  · rw [hmonths]
    exact hpart (Nat.mod_le count 12)

end XPathValues.YearMonthDuration
