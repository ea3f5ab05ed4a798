import Mathlib.Tactic
import XPathValues.Proofs.Duration.Recomposition
import XPathValues.Proofs.Function.Constructors
import XPathValues.Proofs.Function.StandardForm

/-!
# Functions on the components of durations

The six functions give the components of any duration, whatever its type, and together they tell two
durations apart that are not equal in value.
-/

namespace XPathValues

open FunctionBody

theorem Sequence.eq_of_ofInteger_eq {m n : ℤ} {hm : m.natAbs ≤ 79228162514264337593543950335}
    {hn : n.natAbs ≤ 79228162514264337593543950335} (h : ofInteger m hm = ofInteger n hn) :
    m = n := by
  have hvalue := congrArg (fun items => items.firstValue?.bind AtomicValue.asInteger?) h
  exact Option.some.inj hvalue

namespace Library

variable {name : String} {v w : AtomicValue} {d e : Duration}
  {context other : Context}

theorem derivesFrom_duration_of_asDuration? (h : v.asDuration? = some d) :
    v.kind.derivesFrom .duration = true := by
  cases v <;> first | rfl | cases h

theorem evaluate_component {f : Duration → Sequence}
    (hmem : Function.standard name [.optional .duration] (ofDuration f) ∈
      Function.durationFunctions) (hv : v.asDuration? = some d) :
    standard.evaluate (.inFunctions name) [.single v] context = .ok (f d) :=
  evaluate_map context (Function.mem_standardFunctions_iff.mpr (.inr (.inr (.inl hmem))))
    (derivesFrom_duration_of_asDuration? hv) hv

/-- What the six functions give for a duration. -/
structure GivesComponents (v : AtomicValue) (d : Duration) (context : Context) : Prop where
  years : standard.evaluate (.inFunctions "years-from-duration") [.single v] context =
    .ok (.yearsOfDuration d)
  months : standard.evaluate (.inFunctions "months-from-duration") [.single v] context =
    .ok (.monthsOfDuration d)
  days : standard.evaluate (.inFunctions "days-from-duration") [.single v] context =
    .ok (.daysOfDuration d)
  hours : standard.evaluate (.inFunctions "hours-from-duration") [.single v] context =
    .ok (.hoursOfDuration d)
  minutes : standard.evaluate (.inFunctions "minutes-from-duration") [.single v] context =
    .ok (.minutesOfDuration d)
  seconds : standard.evaluate (.inFunctions "seconds-from-duration") [.single v] context =
    .ok (.secondsOfDuration d)

theorem givesComponents (context : Context) (h : v.asDuration? = some d) :
    GivesComponents v d context where
  years := evaluate_component (by simp [Function.durationFunctions]) h
  months := evaluate_component (by simp [Function.durationFunctions]) h
  days := evaluate_component (by simp [Function.durationFunctions]) h
  hours := evaluate_component (by simp [Function.durationFunctions]) h
  minutes := evaluate_component (by simp [Function.durationFunctions]) h
  seconds := evaluate_component (by simp [Function.durationFunctions]) h

theorem equalValue_of_evaluate_eq (hv : v.asDuration? = some d) (hw : w.asDuration? = some e)
    (h : ∀ function ∈ Function.durationFunctions,
      standard.evaluate function.signature.name [.single v] context =
        standard.evaluate function.signature.name [.single w] other) :
    d.equalValue e = true := by
  have hd := givesComponents context hv
  have he := givesComponents other hw
  simp only [Function.durationFunctions, List.forall_mem_cons] at h
  obtain ⟨hyears, hmonths, hdays, hhours, hminutes, hseconds, _⟩ := h
  have hyears := Except.ok.inj (hd.years.symm.trans (hyears.trans he.years))
  have hmonths := Except.ok.inj (hd.months.symm.trans (hmonths.trans he.months))
  have hdays := Except.ok.inj (hd.days.symm.trans (hdays.trans he.days))
  have hhours := Except.ok.inj (hd.hours.symm.trans (hhours.trans he.hours))
  have hminutes := Except.ok.inj (hd.minutes.symm.trans (hminutes.trans he.minutes))
  have hseconds := Except.ok.inj (hd.seconds.symm.trans (hseconds.trans he.seconds))
  have hcount : d.yearMonth.months = e.yearMonth.months := by
    rw [← d.yearMonth.years_mul_add, ← e.yearMonth.years_mul_add,
      Sequence.eq_of_ofInteger_eq hyears, Sequence.eq_of_ofInteger_eq hmonths]
  have hrest : d.dayTime.secondsOfMinute = e.dayTime.secondsOfMinute := by
    simpa [Sequence.secondsOfDuration, Sequence.single] using hseconds
  have htime : d.dayTime.seconds.toRat = e.dayTime.seconds.toRat :=
    DayTimeDuration.toRat_eq_of_components_eq (Sequence.eq_of_ofInteger_eq hdays)
      (Sequence.eq_of_ofInteger_eq hhours) (Sequence.eq_of_ofInteger_eq hminutes)
      (congrArg Decimal.toRat hrest)
  exact Duration.equalValue_iff.mpr ⟨hcount, htime⟩

/-- The components of the seconds of a duration are on its side and below the next greater unit or,
if a quotient has been rounded up, at it; they add up to the seconds if and only if none has been.
Its years and months always add up. The six functions give these components, and a duration for
which they give the same is equal in value. -/
theorem duration_components (context : Context) (hv : v.asDuration? = some d) :
    d.dayTime.HasComponents ∧ d.yearMonth.HasComponents ∧ GivesComponents v d context ∧
      ∀ w e other, w.asDuration? = some e →
        (∀ function ∈ Function.durationFunctions,
          standard.evaluate function.signature.name [.single v] context =
            standard.evaluate function.signature.name [.single w] other) →
        d.equalValue e = true := by
  refine ⟨d.dayTime.hasComponents, d.yearMonth.hasComponents, givesComponents context hv, ?_⟩
  intro w e other hw hsame
  exact equalValue_of_evaluate_eq hv hw hsame

/-- One unit of the last place below a minute counts as a whole minute, besides its seconds. Sixty
seconds have the same components in either of two types. -/
theorem duration_components_minute :
    let below : DayTimeDuration :=
      ⟨⟨false, 59999999999999999999999999999, 27, by decide, by decide⟩⟩
    let minute : DayTimeDuration := ⟨⟨false, 600, 1, by decide, by decide⟩⟩
    let context := Context.Builder.start.build ⟨.startOfDay ⟨2000, 1, 1, by decide⟩, .utc⟩
    ((AtomicValue.dayTimeDuration below).asDuration? = some (.ofDayTime below) ∧
        below.HasComponents ∧ below.minutesOfHour = 1 ∧ below.secondsOfMinute = below.seconds ∧
        (below.days * 86400 + below.hoursOfDay * 3600 + below.minutesOfHour * 60 : ℤ) +
          below.secondsOfMinute.toRat ≠ below.seconds.toRat) ∧
      (AtomicValue.dayTimeDuration minute).asDuration? = some (.ofDayTime minute) ∧
      (AtomicValue.duration (.ofDayTime ⟨.ofNat 60⟩)).asDuration? =
        some (.ofDayTime ⟨.ofNat 60⟩) ∧
      (∀ function ∈ Function.durationFunctions,
        standard.evaluate function.signature.name [.single (.dayTimeDuration minute)] context =
          standard.evaluate function.signature.name
            [.single (.duration (.ofDayTime ⟨.ofNat 60⟩))] context) ∧
      (Duration.ofDayTime minute).equalValue (.ofDayTime ⟨.ofNat 60⟩) = true := by
  intro below minute context
  obtain ⟨hbelow, _⟩ := duration_components context
    (rfl : (AtomicValue.dayTimeDuration below).asDuration? = some (.ofDayTime below))
  obtain ⟨_, _, _, hequal⟩ := duration_components context
    (rfl : (AtomicValue.dayTimeDuration minute).asDuration? = some (.ofDayTime minute))
  have hsame : ∀ function ∈ Function.durationFunctions,
      standard.evaluate function.signature.name [.single (.dayTimeDuration minute)] context =
        standard.evaluate function.signature.name
          [.single (.duration (.ofDayTime ⟨.ofNat 60⟩))] context := by decide +kernel
  refine ⟨⟨rfl, hbelow, by decide +kernel, by decide +kernel, ?_⟩, rfl, rfl, hsame, ?_⟩
  · exact mt hbelow.sum_iff.mp (by decide +kernel)
  · exact hequal _ _ context rfl hsame

end Library

end XPathValues
