import Mathlib.Tactic
import XPathValues.Proofs.Calendar.Translation
import XPathValues.Proofs.Value.ResultKind

/-!
# Adding seconds

A duration of seconds moves a moment or a time, and a date if it is a whole number of days, by its
whole nanoseconds; what is below a nanosecond is lost toward zero. The opposite duration moves back,
and two durations that lose nothing move as their sum does. This is arithmetic on clocks without leap
seconds, and values within one are left out.
-/

namespace XPathValues

namespace DayTimeDuration

/-- The duration ends at a midnight when it starts at one. -/
def IsWholeDays (d : DayTimeDuration) : Prop :=
  ∃ k : ℤ, d.seconds.toRat = k * 86400

/-- The duration has nothing below a nanosecond. -/
def IsWholeNanoseconds (d : DayTimeDuration) : Prop :=
  ∃ n : ℤ, d.seconds.toRat * 1000000000 = n

variable {d e : DayTimeDuration}

theorem exists_billionths_of_isWholeDays (h : d.IsWholeDays) :
    ∃ k : ℤ, d.seconds.billionths = k * TimeOfDay.dayLength := by
  obtain ⟨k, hk⟩ := h
  refine ⟨k, Decimal.billionths_of_value ?_⟩
  rw [hk]
  unfold TimeOfDay.dayLength
  push_cast
  ring

theorem IsWholeDays.neg (h : d.IsWholeDays) : d.neg.IsWholeDays := by
  obtain ⟨k, hk⟩ := h
  refine ⟨-k, ?_⟩
  rw [DayTimeDuration.neg, Decimal.toRat_neg, hk]
  push_cast
  ring

theorem IsWholeNanoseconds.toRat_eq (h : d.IsWholeNanoseconds) :
    d.seconds.toRat * 1000000000 = d.seconds.billionths := by
  obtain ⟨n, hn⟩ := h
  rw [hn, Decimal.billionths_of_value hn]

/-- Two durations without anything below a nanosecond add up as their nanoseconds do, unless they
are beyond every shift. -/
theorem exists_add_of_isWholeNanoseconds (hd : d.IsWholeNanoseconds) (he : e.IsWholeNanoseconds)
    (hd' : d.seconds.billionths.natAbs ≤ TimeSpan.maxNanos)
    (he' : e.seconds.billionths.natAbs ≤ TimeSpan.maxNanos) :
    ∃ s, d.add e = .ok s ∧ s.seconds.toRat = d.seconds.toRat + e.seconds.toRat ∧
      s.seconds.billionths = d.seconds.billionths + e.seconds.billionths := by
  have hsum : (d.seconds.billionths + e.seconds.billionths).natAbs ≤ Decimal.maxMagnitude := by
    unfold TimeSpan.maxNanos at hd' he'
    unfold Decimal.maxMagnitude
    omega
  obtain ⟨s, hs, hvalue⟩ := Decimal.exists_add?_of_billionths hd.toRat_eq he.toRat_eq hsum
  refine ⟨⟨s⟩, ?_, ?_, Decimal.billionths_of_value hvalue⟩
  · rw [add, add?, hs]
    rfl
  · change s.toRat = _
    have hscaled := hvalue
    push_cast at hscaled
    linarith [hd.toRat_eq, he.toRat_eq]

end DayTimeDuration

namespace AtomicValue

variable {u v w w' : AtomicValue} {d e s : DayTimeDuration} {m n : ℤ} {zone : Timezone}

/-- The second value is the first one, so many nanoseconds later. The zone stays, and a time starts
again after a day. -/
inductive MovesTo (n : ℤ) : AtomicValue → AtomicValue → Prop
  | dateTime {x y : DateTime} (zone : y.zone = x.zone) (nanos : y.value.nanos = x.value.nanos + n) :
    MovesTo n (.dateTime x) (.dateTime y)
  | date {x y : Date} (zone : y.zone = x.zone) (nanos : y.anchor.nanos = x.anchor.nanos + n) :
    MovesTo n (.date x) (.date y)
  | time {x y : Time} (zone : y.zone = x.zone)
    (nanos : (y.value.nanos : ℤ) = (x.value.nanos + n) % TimeOfDay.dayLength) :
    MovesTo n (.time x) (.time y)

namespace MovesTo

theorem kind_eq (h : MovesTo n v w) : w.kind = v.kind := by
  cases h <;> rfl

theorem symm (h : MovesTo n v w) : MovesTo (-n) w v := by
  cases h with
  | dateTime hzone hnanos => exact .dateTime hzone.symm (by omega)
  | date hzone hnanos => exact .date hzone.symm (by omega)
  | @time x y hzone hnanos =>
    refine .time hzone.symm ?_
    have hclock := x.value.bounded
    rw [hnanos, Int.emod_add_emod, add_neg_cancel_right, Int.emod_eq_of_lt] <;> omega

theorem trans (h : MovesTo m u v) (h' : MovesTo n v w) : MovesTo (m + n) u w := by
  cases h with
  | dateTime hzone hnanos =>
    cases h' with
    | dateTime hzone' hnanos' => exact .dateTime (hzone'.trans hzone) (by omega)
  | date hzone hnanos =>
    cases h' with
    | date hzone' hnanos' => exact .date (hzone'.trans hzone) (by omega)
  | time hzone hnanos =>
    cases h' with
    | time hzone' hnanos' =>
      refine .time (hzone'.trans hzone) ?_
      rw [hnanos', hnanos, Int.emod_add_emod, add_assoc]

theorem unique (h : MovesTo n v w) (h' : MovesTo n v w') : w' = w := by
  cases h with
  | dateTime hzone hnanos =>
    cases h' with
    | dateTime hzone' hnanos' =>
      exact congrArg _ (Zoned.eq_of_value_eq (Moment.nanos_inj (hnanos'.trans hnanos.symm))
        (hzone'.trans hzone.symm))
  | date hzone hnanos =>
    cases h' with
    | date hzone' hnanos' =>
      have hanchor := Moment.nanos_inj (hnanos'.trans hnanos.symm)
      exact congrArg _ (Zoned.eq_of_value_eq (congrArg Moment.date hanchor)
        (hzone'.trans hzone.symm))
  | time hzone hnanos =>
    cases h' with
    | time hzone' hnanos' =>
      exact congrArg _ (Zoned.eq_of_value_eq (TimeOfDay.eq_of_nanos_eq (hnanos'.trans hnanos.symm))
        (hzone'.trans hzone.symm))

end MovesTo

/-- A moment, a time, or a date that does not lose a part of a day. -/
def TakesExactly (v : AtomicValue) (d : DayTimeDuration) : Prop :=
  v.kind.hasDistance = true ∧ (v.kind = .date → d.IsWholeDays)

theorem TakesExactly.neg (h : v.TakesExactly d) : v.TakesExactly d.neg :=
  ⟨h.1, fun hdate => (h.2 hdate).neg⟩

theorem TakesExactly.of_kind_eq (h : v.TakesExactly d) (hkind : w.kind = v.kind) :
    w.TakesExactly d := by
  rw [TakesExactly, hkind]
  exact h

/-- A sum is the value moved by the whole nanoseconds. Only the length of the shift is limited, and
that can be felt by a time alone: any other value leaves the calendar before. -/
theorem add_eq_ok_iff (h : v.TakesExactly d) :
    v.arithmetic .add (dayTimeDuration d) zone = .ok w ↔
      d.seconds.billionths.natAbs ≤ TimeSpan.maxNanos ∧ MovesTo d.seconds.billionths v w := by
  obtain ⟨hdistance, hwhole⟩ := h
  cases v with
  | dateTime x =>
    constructor
    · intro hsum
      obtain ⟨y, hy, rfl⟩ := exists_of_map_eq_ok (x := x.addSeconds d) hsum
      obtain ⟨hzone, hnanos⟩ := DateTime.addSeconds_eq_ok_iff.mp hy
      -- No two moments of the calendar are too far apart for a shift.
      exact ⟨Moment.natAbs_le_maxNanos hnanos, .dateTime hzone hnanos⟩
    · rintro ⟨_, hmoves⟩
      cases hmoves with
      | dateTime hzone hnanos =>
        exact congrArg (Except.map dateTime) (DateTime.addSeconds_eq_ok_iff.mpr ⟨hzone, hnanos⟩)
  | date x =>
    obtain ⟨k, hk⟩ := DayTimeDuration.exists_billionths_of_isWholeDays (hwhole rfl)
    constructor
    · intro hsum
      obtain ⟨y, hy, rfl⟩ := exists_of_map_eq_ok (x := x.addSeconds d) hsum
      obtain ⟨hzone, hnanos⟩ := (Date.addSeconds_eq_ok_iff_of_wholeDays hk).mp hy
      exact ⟨Moment.natAbs_le_maxNanos hnanos, .date hzone hnanos⟩
    · rintro ⟨_, hmoves⟩
      cases hmoves with
      | date hzone hnanos =>
        exact congrArg (Except.map date)
          ((Date.addSeconds_eq_ok_iff_of_wholeDays hk).mpr ⟨hzone, hnanos⟩)
  | time x =>
    constructor
    · intro hsum
      obtain ⟨y, hy, rfl⟩ := exists_of_map_eq_ok (x := x.addSeconds d) hsum
      obtain ⟨hreach, hzone, hnanos⟩ := Time.addSeconds_eq_ok_iff.mp hy
      exact ⟨hreach, .time hzone hnanos⟩
    · rintro ⟨hreach, hmoves⟩
      cases hmoves with
      | time hzone hnanos =>
        exact congrArg (Except.map time) (Time.addSeconds_eq_ok_iff.mpr ⟨hreach, hzone, hnanos⟩)
  | _ => cases hdistance

theorem subtract_eq_add_neg (hdistance : v.kind.hasDistance = true) (d : DayTimeDuration)
    (zone : Timezone) :
    v.arithmetic .subtract (dayTimeDuration d) zone =
      v.arithmetic .add (dayTimeDuration d.neg) zone := by
  cases v with
  | dateTime _ | date _ | time _ => rfl
  | _ => cases hdistance

theorem subtract_of_add (h : v.TakesExactly d)
    (hsum : v.arithmetic .add (dayTimeDuration d) zone = .ok w) :
    w.arithmetic .subtract (dayTimeDuration d) zone = .ok v := by
  obtain ⟨hreach, hmoves⟩ := (add_eq_ok_iff h).mp hsum
  have hw := h.neg.of_kind_eq hmoves.kind_eq
  rw [subtract_eq_add_neg hw.1, add_eq_ok_iff hw]
  change (d.seconds.neg.billionths).natAbs ≤ _ ∧ MovesTo d.seconds.neg.billionths w v
  rw [Decimal.billionths_neg, Int.natAbs_neg]
  exact ⟨hreach, hmoves.symm⟩

theorem TakesExactly.of_sum (hd : v.TakesExactly d) (he : v.TakesExactly e)
    (hsum : s.seconds.toRat = d.seconds.toRat + e.seconds.toRat) : v.TakesExactly s := by
  refine ⟨hd.1, fun hdate => ?_⟩
  obtain ⟨k, hk⟩ := hd.2 hdate
  obtain ⟨l, hl⟩ := he.2 hdate
  refine ⟨k + l, ?_⟩
  rw [hsum, hk, hl]
  push_cast
  ring

theorem add_sum (hd : v.TakesExactly d) (he : v.TakesExactly e) (hd' : d.IsWholeNanoseconds)
    (he' : e.IsWholeNanoseconds) (hu : v.arithmetic .add (dayTimeDuration d) zone = .ok u)
    (hw : u.arithmetic .add (dayTimeDuration e) zone = .ok w) :
    ∃ s, (dayTimeDuration d).arithmetic .add (dayTimeDuration e) zone = .ok (dayTimeDuration s) ∧
      ∀ w', v.arithmetic .add (dayTimeDuration s) zone = .ok w' ↔
        s.seconds.billionths.natAbs ≤ TimeSpan.maxNanos ∧ w' = w := by
  obtain ⟨hdreach, hdmoves⟩ := (add_eq_ok_iff hd).mp hu
  obtain ⟨hereach, hemoves⟩ := (add_eq_ok_iff (he.of_kind_eq hdmoves.kind_eq)).mp hw
  obtain ⟨s, hs, hvalue, hnanos⟩ :=
    DayTimeDuration.exists_add_of_isWholeNanoseconds hd' he' hdreach hereach
  have hmoves := hdmoves.trans hemoves
  rw [← hnanos] at hmoves
  refine ⟨s, congrArg (Except.map dayTimeDuration) hs, fun w' => ?_⟩
  rw [add_eq_ok_iff (hd.of_sum he hvalue)]
  refine and_congr_right fun _ => ⟨hmoves.unique, ?_⟩
  rintro rfl
  exact hmoves

/-- A duration moves a moment, a time, or a date over whole days by its nanoseconds, cut off toward
zero, where the value moved to exists and the shift is not too long. Taking it off again gives the
value back. Durations of whole nanoseconds can be added up first. -/
theorem addition_translates (h : v.TakesExactly d) (zone : Timezone) :
    (∀ w, v.arithmetic .add (dayTimeDuration d) zone = .ok w ↔
        (Rounding.towardZero (d.seconds.toRat * 1000000000)).natAbs ≤ TimeSpan.maxNanos ∧
          MovesTo (Rounding.towardZero (d.seconds.toRat * 1000000000)) v w) ∧
      (∀ w, v.arithmetic .add (dayTimeDuration d) zone = .ok w →
        w.arithmetic .subtract (dayTimeDuration d) zone = .ok v) ∧
      ∀ e u w, v.TakesExactly e → d.IsWholeNanoseconds → e.IsWholeNanoseconds →
        v.arithmetic .add (dayTimeDuration d) zone = .ok u →
          u.arithmetic .add (dayTimeDuration e) zone = .ok w →
            ∃ s, (dayTimeDuration d).arithmetic .add (dayTimeDuration e) zone =
                .ok (dayTimeDuration s) ∧
              ∀ w', v.arithmetic .add (dayTimeDuration s) zone = .ok w' ↔
                s.seconds.billionths.natAbs ≤ TimeSpan.maxNanos ∧ w' = w :=
  ⟨fun _ => add_eq_ok_iff h, fun _ => subtract_of_add h,
    fun _ _ _ he hd he' hu hw => add_sum h he hd he' hu hw⟩

/-- A nanosecond and a half before midnight is the last nanosecond of the day. Two days lead over
the leap day of the year 0, one by one or together. -/
theorem addition_translates_midnight :
    let midnight : AtomicValue := time ⟨.midnight, some .utc⟩
    let before : AtomicValue := time ⟨.last, some .utc⟩
    let back : DayTimeDuration := ⟨⟨true, 15, 10, by decide, by decide⟩⟩
    let eve : AtomicValue := date ⟨⟨0, 2, 28, by decide⟩, none⟩
    let leapDay : AtomicValue := date ⟨⟨0, 2, 29, by decide⟩, none⟩
    let march : AtomicValue := date ⟨⟨0, 3, 1, by decide⟩, none⟩
    let oneDay : DayTimeDuration := ⟨⟨false, 86400, 0, by decide, by decide⟩⟩
    let twoDays : DayTimeDuration := ⟨⟨false, 172800, 0, by decide, by decide⟩⟩
    (midnight.TakesExactly back ∧ MovesTo (-1) midnight before ∧
        before.arithmetic .subtract (dayTimeDuration back) .utc = .ok midnight) ∧
      eve.TakesExactly oneDay ∧ oneDay.IsWholeNanoseconds ∧
        eve.arithmetic .add (dayTimeDuration oneDay) .utc = .ok leapDay ∧
        leapDay.arithmetic .add (dayTimeDuration oneDay) .utc = .ok march ∧
        eve.arithmetic .add (dayTimeDuration twoDays) .utc = .ok march := by
  intro midnight before back eve leapDay march oneDay twoDays
  have hback : midnight.TakesExactly back := ⟨rfl, fun h => by cases h⟩
  have hone : eve.TakesExactly oneDay := ⟨rfl, fun _ => ⟨1, by decide +kernel⟩⟩
  have hwhole : oneDay.IsWholeNanoseconds := ⟨86400000000000, by decide +kernel⟩
  have hsum : midnight.arithmetic .add (dayTimeDuration back) .utc = .ok before := by
    decide +kernel
  have hfirst : eve.arithmetic .add (dayTimeDuration oneDay) .utc = .ok leapDay := by
    decide +kernel
  have hsecond : leapDay.arithmetic .add (dayTimeDuration oneDay) .utc = .ok march := by
    decide +kernel
  have htwo : (dayTimeDuration oneDay).arithmetic .add (dayTimeDuration oneDay) .utc =
      .ok (dayTimeDuration twoDays) := by decide +kernel
  have hcut : Rounding.towardZero (back.seconds.toRat * 1000000000) = -1 := by decide +kernel
  obtain ⟨hmoves, hreturn, _⟩ := addition_translates hback .utc
  obtain ⟨_, _, htogether⟩ := addition_translates hone .utc
  obtain ⟨s, hs, hmarch⟩ := htogether oneDay _ _ hone hwhole hwhole hfirst hsecond
  obtain rfl := AtomicValue.dayTimeDuration.inj (Except.ok.inj (htwo.symm.trans hs))
  exact ⟨⟨hback, hcut ▸ ((hmoves before).mp hsum).2, hreturn before hsum⟩, hone, hwhole, hfirst,
    hsecond, (hmarch march).mpr ⟨by decide +kernel, rfl⟩⟩

end AtomicValue

end XPathValues
