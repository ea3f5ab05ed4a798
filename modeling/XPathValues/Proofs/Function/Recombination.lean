import Mathlib.Tactic
import XPathValues.Proofs.Function.Constructors
import XPathValues.Proofs.Function.ResultType
import XPathValues.Proofs.Value.Projection

/-!
# Taking dates and times apart and putting them together

A date and time is taken apart by casts to its date, to its time and to the fragments of its date,
and the function `dateTime` puts a date and a time together again. It refuses two zones that differ;
otherwise the result has the zone of either, and its date and time are those that it was made from,
with that zone.
-/

namespace XPathValues

namespace DateTime

variable {d : Date} {t : Time}

/-- The date and the time are in two zones. -/
def ZonesDiffer (d : Date) (t : Time) : Prop :=
  ∃ a b, d.zone = some a ∧ t.zone = some b ∧ a ≠ b

theorem ofDateAndTime_of_zonesDiffer (h : ZonesDiffer d t) :
    ∃ a b, ofDateAndTime d t = .error (.timezoneConflict a b) := by
  obtain ⟨a, b, ha, hb, hne⟩ := h
  refine ⟨a, b, ?_⟩
  unfold ofDateAndTime
  rw [ha, hb]
  exact if_neg hne

theorem ofDateAndTime_of_not_zonesDiffer (h : ¬ ZonesDiffer d t) :
    ofDateAndTime d t = .ok ⟨⟨d.value, t.value⟩, d.zone.or t.zone⟩ := by
  unfold ofDateAndTime
  cases hd : d.zone with
  | none => rfl
  | some a =>
    cases ht : t.zone with
    | none => rfl
    | some b =>
      have hsame : a = b := by_contra fun hne => h ⟨a, b, hd, ht, hne⟩
      exact if_pos hsame

theorem not_zonesDiffer_of_parts (x : DateTime) : ¬ ZonesDiffer x.date x.time := by
  rintro ⟨a, b, ha, hb, hne⟩
  exact hne (Option.some.inj (ha.symm.trans hb))

theorem ofDateAndTime_parts (x : DateTime) : ofDateAndTime x.date x.time = .ok x := by
  rw [ofDateAndTime_of_not_zonesDiffer x.not_zonesDiffer_of_parts]
  exact congrArg Except.ok (Zoned.eq_of_value_eq rfl Option.or_self)

end DateTime

namespace Library

open AtomicValue DateTime FunctionBody

theorem evaluate_dateTime (d : Date) (t : Time) (context : Context) :
    standard.evaluate (.inFunctions "dateTime") [.single (date d), .single (time t)] context =
      (ofDateAndTime d t).map fun x => .single (dateTime x) := by
  have hdate : (ParameterType.optional .date).Accepts (.single (date d)) :=
    ParameterType.accepts_single rfl (AtomicKind.derivesFrom_refl _)
  have htime : (ParameterType.optional .time).Accepts (.single (time t)) :=
    ParameterType.accepts_single rfl (AtomicKind.derivesFrom_refl _)
  have hevaluate := evaluate_of_accepts
    (.standard "dateTime" [.optional .date, .optional .time] .dateTimeOfParts) context
    (by simp [Function.mem_standardFunctions_iff, Function.calendarFunctions]) rfl
    (.cons hdate (.cons htime .nil))
  refine hevaluate.trans ((dateTimeOfParts_singles context rfl rfl).trans ?_)
  cases ofDateAndTime d t <;> rfl

/-- Every part of a date and time can be taken by a cast: it has those of the fields that its type
shows and the same zone, and it does not matter whether a fragment is taken by way of the date. The
date and the time together are the whole again. A date and a time make up a date and time if and only
if they are not in two zones, and then they are its parts, in the zone that there is. -/
theorem projections_recombine (bindings : Bindings) (context : Context) :
    (∀ (x : DateTime) (target : AtomicKind), AtomicKind.dateTime.projectsTo target = true →
        x.value.date.HasFragments ∧
          ∃ w, (dateTime x).cast target bindings = .ok w ∧ IsProjection (dateTime x) target w) ∧
      (∀ (x : DateTime) (target : AtomicKind), target.isFragment = true →
        ((dateTime x).cast .date bindings >>= fun v => v.cast target bindings) =
          (dateTime x).cast target bindings) ∧
      (∀ d : Date, ((date d).cast .dateTime bindings >>= fun v => v.cast .date bindings) =
        .ok (date d)) ∧
      (∀ x : DateTime, ∃ d t,
        standard.evaluate AtomicKind.date.expandedName [.single (dateTime x)] context = .ok d ∧
          standard.evaluate AtomicKind.time.expandedName [.single (dateTime x)] context = .ok t ∧
          standard.evaluate (.inFunctions "dateTime") [d, t] context =
            .ok (.single (dateTime x))) ∧
      ∀ (d : Date) (t : Time),
        let outcome :=
          standard.evaluate (.inFunctions "dateTime") [.single (date d), .single (time t)] context
        ((∃ e, outcome = .error e) ↔ ZonesDiffer d t) ∧
          (∀ e, outcome = .error e → e.code = .FORG0008) ∧
          (¬ ZonesDiffer d t → ∃ x, outcome = .ok (.single (dateTime x)) ∧
            (dateTime x).cast .date bindings = .ok (date (d.withZone (d.zone.or t.zone))) ∧
            (dateTime x).cast .time bindings = .ok (time (t.withZone (d.zone.or t.zone)))) := by
  refine ⟨?_, ?_, ?_, ?_, ?_⟩
  · intro x target htarget
    have hne : target ≠ .dateTime := by rintro rfl; cases htarget
    exact ⟨x.value.date.hasFragments, exists_isProjection bindings htarget hne⟩
  · intro x target htarget
    exact cast_date_cast x bindings htarget
  · intro d
    rfl
  · intro x
    refine ⟨.single (date x.date), .single (time x.time), ?_, ?_, ?_⟩
    · exact evaluate_constructor (v := dateTime x) rfl
    · exact evaluate_constructor (v := dateTime x) rfl
    · rw [evaluate_dateTime, ofDateAndTime_parts]
      rfl
  · intro d t outcome
    have houtcome : outcome = (ofDateAndTime d t).map fun x => .single (dateTime x) :=
      evaluate_dateTime d t context
    by_cases h : ZonesDiffer d t
    · obtain ⟨a, b, hconflict⟩ := ofDateAndTime_of_zonesDiffer h
      rw [houtcome, hconflict]
      refine ⟨iff_of_true ⟨_, rfl⟩ h, ?_, fun hsame => absurd h hsame⟩
      intro e he
      obtain rfl := Except.error.inj he
      rfl
    · rw [houtcome, ofDateAndTime_of_not_zonesDiffer h]
      exact ⟨iff_of_false nofun h, nofun, fun _ => ⟨_, rfl, rfl, rfl⟩⟩

/-- The last moment of a leap day in the far east. Its date does not go together with a time in UTC,
but with one that has no zone. -/
theorem projections_recombine_leapDay :
    let reading : ClockReading := ⟨.startOfDay ⟨2000, 1, 1, by decide⟩, .utc⟩
    let context := Context.Builder.start.build reading
    let east : Timezone := ⟨50400, by decide⟩
    let x : DateTime := ⟨⟨⟨2004, 2, 29, by decide⟩, .last⟩, some east⟩
    let leapDay : AtomicValue := gMonthDay ⟨⟨2, 29, by decide⟩, some east⟩
    let midnight : Time := ⟨.midnight, none⟩
    (AtomicKind.dateTime.projectsTo .gMonthDay = true ∧ AtomicKind.isFragment .gMonthDay = true) ∧
      (dateTime x).cast .gMonthDay .empty = .ok leapDay ∧
      IsProjection (dateTime x) .gMonthDay leapDay ∧
      ((dateTime x).cast .date .empty >>= fun v => v.cast .gMonthDay .empty) = .ok leapDay ∧
      (∃ e, standard.evaluate (.inFunctions "dateTime")
        [.single (date x.date), .single (time ⟨.midnight, some .utc⟩)] context = .error e) ∧
      ∃ start, standard.evaluate (.inFunctions "dateTime")
          [.single (date x.date), .single (time midnight)] context =
            .ok (.single (dateTime start)) ∧
        (dateTime start).cast .date .empty = .ok (date x.date) ∧
        (dateTime start).cast .time .empty = .ok (time ⟨.midnight, some east⟩) := by
  intro reading context east x leapDay midnight
  have hcast : (dateTime x).cast .gMonthDay .empty = .ok leapDay := by decide +kernel
  obtain ⟨hparts, hfragments, _, _, htogether⟩ := projections_recombine .empty context
  obtain ⟨_, w, hw, hprojection⟩ := hparts x .gMonthDay rfl
  obtain rfl := Except.ok.inj (hcast.symm.trans hw)
  have hdiffer : ZonesDiffer x.date ⟨.midnight, some .utc⟩ := ⟨east, .utc, rfl, rfl, by decide⟩
  have hagree : ¬ ZonesDiffer x.date midnight := by rintro ⟨_, _, _, hnone, _⟩; cases hnone
  exact ⟨⟨rfl, rfl⟩, hcast, hprojection, (hfragments x .gMonthDay rfl).trans hcast,
    (htogether x.date ⟨.midnight, some .utc⟩).1.mpr hdiffer, (htogether x.date midnight).2.2 hagree⟩

end Library

end XPathValues
