import Mathlib.Tactic
import XPathValues.Proofs.Calendar.Adjustment
import XPathValues.Proofs.Duration.Zone
import XPathValues.Proofs.Function.Constructors
import XPathValues.Proofs.Value.ResultKind

/-!
# Timezones that functions give and take as durations

The functions on timezones give an offset as a duration, and the adjusting functions read it back.
A value without a timezone gives the empty sequence, which the adjusting functions take for having
none. So a value that is adjusted to what was read from it stays as it is, provided that its offset
is one that a duration can name.
-/

namespace XPathValues

open AtomicValue FunctionBody

namespace FunctionBody

variable {d : DayTimeDuration} {zone : Timezone} {target : Option Timezone} {context : Context}

theorem timezoneOf_eq_ok_iff : timezoneOf d = .ok zone ↔ d.toTimezone? = some zone := by
  rw [timezoneOf_eq_orError, orError_eq_ok_iff]

theorem code_of_timezoneOf {e : Error} (h : timezoneOf d = .error e) : e.code = .FODT0003 := by
  rw [timezoneOf_eq_orError] at h
  obtain rfl := eq_of_orError_eq_error h
  rfl

theorem timezoneOf_ofTimezone (h : zone.Lexical) : timezoneOf (.ofTimezone zone) = .ok zone :=
  timezoneOf_eq_ok_iff.mpr (DayTimeDuration.toTimezone?_ofTimezone h)

theorem targetZone_ofZone (items : Sequence) (h : ∀ z, target = some z → z.Lexical) :
    targetZone context [items, .ofZone target] = .ok target := by
  cases target with
  | none => rfl
  | some zone =>
    change (timezoneOf (.ofTimezone zone)).map some = _
    rw [timezoneOf_ofTimezone (h zone rfl)]
    rfl

end FunctionBody

namespace AtomicValue

def adjustTo (target : Option Timezone) : AtomicValue → Except Error AtomicValue
  | dateTime x => (x.adjust target).map dateTime
  | date x => (x.adjust target).map date
  | time x => .ok (time (x.adjust target))
  | v => .ok v

theorem adjustTo_self (v : AtomicValue) : v.adjustTo v.zone? = .ok v := by
  cases v
  case dateTime x => exact congrArg (Except.map dateTime) x.adjust_self
  case date x => exact congrArg (Except.map date) x.adjust_self
  case time x =>
    change Except.ok (time (x.adjust x.zone)) = _
    rw [x.adjust_self]
  all_goals rfl

end AtomicValue

theorem Function.mem_of_calendar {function : Function} (h : function ∈ Function.calendarFunctions) :
    function ∈ Function.standardFunctions :=
  Function.mem_standardFunctions_iff.mpr (.inr (.inl h))

namespace Library

variable {α : Type} {name : String} {kind : AtomicKind} {reader : AtomicValue → Option α}
  {v : AtomicValue} {x : α} {target : Option Timezone}

theorem accepts_ofZone (target : Option Timezone) :
    (ParameterType.optional .dayTimeDuration).Accepts (.ofZone target) := by
  cases target with
  | none => exact ⟨rfl, fun _ hitem => absurd hitem List.not_mem_nil⟩
  | some zone =>
    have hoffset : (ParameterType.optional .dayTimeDuration).item.Accepts
      (.atomic (dayTimeDuration (.ofTimezone zone))) := AtomicKind.derivesFrom_refl _
    exact ParameterType.accepts_single rfl hoffset

theorem evaluate_adjust {f : α → Option Timezone → Except Error Sequence} (context : Context)
    (hmem : Function.standard name [.optional kind, .optional .dayTimeDuration]
      (tryMap kind reader fun context arguments x => targetZone context arguments >>= f x) ∈
        Function.calendarFunctions)
    (hkind : v.kind = kind) (hx : reader v = some x) (h : ∀ z, target = some z → z.Lexical) :
    standard.evaluate (.inFunctions name) [.single v, .ofZone target] context = f x target := by
  have haccepts : (ParameterType.optional kind).Accepts (.single v) :=
    ParameterType.accepts_single rfl (hkind ▸ AtomicKind.derivesFrom_refl _)
  have hevaluate := evaluate_of_accepts _ context (Function.mem_of_calendar hmem) rfl
    (.cons haccepts (.cons (accepts_ofZone target) .nil))
  have hbody : tryMap kind reader (fun context arguments x => targetZone context arguments >>= f x)
      context [.single v, .ofZone target] = f x target := by
    rw [tryMap_single hx, targetZone_ofZone _ h]
    rfl
  exact hevaluate.trans hbody

theorem evaluate_timezone (context : Context) (hdistance : v.kind.hasDistance = true) :
    standard.evaluate (.inFunctions ("timezone-from-" ++ v.kind.localName)) [.single v] context =
      .ok (.ofZone v.zone?) := by
  cases v <;> cases hdistance
  case dateTime x =>
    have hmem : Function.standard "timezone-from-dateTime" [.optional .dateTime]
        (ofDateTime fun x => .ofZone x.zone) ∈ Function.calendarFunctions := by
      simp [Function.calendarFunctions]
    exact evaluate_map (v := dateTime x) (x := x) context (Function.mem_of_calendar hmem) rfl rfl
  case date x =>
    have hmem : Function.standard "timezone-from-date" [.optional .date]
        (ofDate fun x => .ofZone x.zone) ∈ Function.calendarFunctions := by
      simp [Function.calendarFunctions]
    exact evaluate_map (v := date x) (x := x) context (Function.mem_of_calendar hmem) rfl rfl
  case time x =>
    have hmem : Function.standard "timezone-from-time" [.optional .time]
        (ofTime fun x => .ofZone x.zone) ∈ Function.calendarFunctions := by
      simp [Function.calendarFunctions]
    exact evaluate_map (v := time x) (x := x) context (Function.mem_of_calendar hmem) rfl rfl

theorem evaluate_adjustment (context : Context) (hdistance : v.kind.hasDistance = true)
    (h : ∀ z, target = some z → z.Lexical) :
    standard.evaluate (.inFunctions ("adjust-" ++ v.kind.localName ++ "-to-timezone"))
      [.single v, .ofZone target] context = (v.adjustTo target).map .single := by
  cases v <;> cases hdistance
  case dateTime x =>
    have hmem : Function.standard "adjust-dateTime-to-timezone"
        [.optional .dateTime, .optional .dayTimeDuration] adjustDateTime ∈
          Function.calendarFunctions := by
      simp [Function.calendarFunctions]
    refine (evaluate_adjust (v := dateTime x) (x := x) context hmem rfl rfl h).trans ?_
    change (x.adjust target >>= fun y => .ok (Sequence.single (dateTime y))) =
      ((x.adjust target).map dateTime).map Sequence.single
    cases x.adjust target <;> rfl
  case date x =>
    have hmem : Function.standard "adjust-date-to-timezone"
        [.optional .date, .optional .dayTimeDuration] adjustDate ∈
          Function.calendarFunctions := by
      simp [Function.calendarFunctions]
    refine (evaluate_adjust (v := date x) (x := x) context hmem rfl rfl h).trans ?_
    change (x.adjust target >>= fun y => .ok (Sequence.single (date y))) =
      ((x.adjust target).map date).map Sequence.single
    cases x.adjust target <;> rfl
  case time x =>
    have hmem : Function.standard "adjust-time-to-timezone"
        [.optional .time, .optional .dayTimeDuration] adjustTime ∈
          Function.calendarFunctions := by
      simp [Function.calendarFunctions]
    exact evaluate_adjust (v := time x) (x := x) context hmem rfl rfl h

/-- A duration stands for a timezone if and only if it is a whole number of minutes that are at most
fourteen hours, and the timezone is the one with that offset. A timezone with such an offset is found
again from its duration, and a value with such a timezone, or with none, is adjusted to itself by
what is read from it. -/
theorem timezone_offset_inverse (context : Context) :
    (∀ d : DayTimeDuration,
        ((∃ zone, timezoneOf d = .ok zone) ↔ d.IsOffset) ∧
        (∀ zone, timezoneOf d = .ok zone →
          (dayTimeDuration (.ofTimezone zone)).sameAs (dayTimeDuration d) = true) ∧
        ∀ e, timezoneOf d = .error e → e.code = .FODT0003) ∧
      (∀ zone : Timezone, zone.Lexical → timezoneOf (.ofTimezone zone) = .ok zone) ∧
      ∀ v : AtomicValue, v.kind.hasDistance = true → (∀ zone, v.zone? = some zone → zone.Lexical) →
        ∃ offset,
          standard.evaluate (.inFunctions ("timezone-from-" ++ v.kind.localName)) [.single v]
              context = .ok offset ∧
            standard.evaluate (.inFunctions ("adjust-" ++ v.kind.localName ++ "-to-timezone"))
              [.single v, offset] context = .ok (.single v) := by
  refine ⟨fun d => ⟨?_, ?_, fun e => code_of_timezoneOf⟩, fun zone => timezoneOf_ofTimezone, ?_⟩
  · simp only [timezoneOf_eq_ok_iff]
    exact DayTimeDuration.exists_toTimezone?_iff
  · intro zone h
    obtain ⟨_, hvalue⟩ := DayTimeDuration.toTimezone?_eq_some_iff.mp (timezoneOf_eq_ok_iff.mp h)
    have hsame : (DayTimeDuration.ofTimezone zone).seconds.toRat = d.seconds.toRat := by
      rw [hvalue, DayTimeDuration.toRat_ofTimezone]
    exact decide_eq_true hsame
  · intro v hdistance hlexical
    refine ⟨.ofZone v.zone?, evaluate_timezone context hdistance, ?_⟩
    rw [evaluate_adjustment context hdistance hlexical, adjustTo_self]
    rfl

/-- Fourteen hours are the greatest offset, whatever the scale of their seconds, and a date in that
timezone is adjusted to itself. -/
theorem timezone_offset_inverse_fourteenHours :
    let reading : ClockReading := ⟨.startOfDay ⟨2000, 1, 1, by decide⟩, .utc⟩
    let context := Context.Builder.start.build reading
    let east : Timezone := ⟨50400, by decide⟩
    let greatest : DayTimeDuration := ⟨⟨false, 5040000, 2, by decide, by decide⟩⟩
    let more : DayTimeDuration := ⟨.ofNat 50460⟩
    let leapDay : AtomicValue := date ⟨⟨2004, 2, 29, by decide⟩, some east⟩
    timezoneOf greatest = .ok east ∧
      (dayTimeDuration (.ofTimezone east)).sameAs (dayTimeDuration greatest) = true ∧
      (¬ ∃ zone, timezoneOf more = .ok zone) ∧ timezoneOf (.ofTimezone east) = .ok east ∧
      ∃ offset,
        standard.evaluate (.inFunctions "timezone-from-date") [.single leapDay] context =
            .ok offset ∧
          standard.evaluate (.inFunctions "adjust-date-to-timezone") [.single leapDay, offset]
            context = .ok (.single leapDay) := by
  intro reading context east greatest more leapDay
  obtain ⟨hdurations, hzones, hvalues⟩ := timezone_offset_inverse context
  have hgreatest : timezoneOf greatest = .ok east := by decide +kernel
  have hmore : ¬ more.IsOffset := by
    rintro ⟨minutes, hseconds, hminutes⟩
    have hvalue : more.seconds.toRat = 50460 := by decide +kernel
    have hcount : minutes = 841 := by
      rw [hvalue] at hseconds
      have hproduct : (50460 : ℤ) = minutes * 60 := mod_cast hseconds
      omega
    rw [hcount] at hminutes
    exact absurd hminutes (by decide)
  refine ⟨hgreatest, (hdurations greatest).2.1 east hgreatest, mt (hdurations more).1.mp hmore,
    hzones east (by decide), hvalues leapDay rfl ?_⟩
  rintro zone ⟨⟩
  decide

end Library

end XPathValues
