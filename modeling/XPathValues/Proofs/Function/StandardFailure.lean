import Mathlib.Tactic
import XPathValues.Proofs.Function.StandardForm

/-!
# Failures of the standard functions

A standard function that gets converted arguments never finds an item of another type than it
declares. It fails because of a value, or because a constructor has no cast.
-/

namespace XPathValues

namespace Error

/-- An item is of another type than a body expects. -/
def IsUnexpected : Error → Prop
  | unexpectedNode _ | unexpectedKind .. | unexpectedNonNumeric _ => True
  | _ => False

variable {e : Error}

theorem IsUnexpected.category_eq_type (h : e.IsUnexpected) : e.category = .type := by
  cases e <;> first | rfl | exact h.elim

theorem IsOfValue.not_isUnexpected (h : e.IsOfValue) : ¬ e.IsUnexpected :=
  fun hunexpected => h.category_ne rfl hunexpected.category_eq_type

end Error

theorem Signature.FailsInConversion.not_isUnexpected {e : Error}
    (h : Signature.FailsInConversion e) : ¬ e.IsUnexpected := by
  rcases h with hvalue | hcast | hcount | ⟨_, _, _, _, _, rfl⟩
  · exact hvalue.not_isUnexpected
  · exact fun h => by cases hcast.symm.trans h.category_eq_type
  · exact fun h => by cases hcount.symm.trans h.category_eq_type
  · exact id

namespace FunctionBody

section Reading

variable {α : Type} {kind : AtomicKind} {reader : AtomicValue → Option α}
  {f : Context → List Sequence → α → Except Error Sequence} {context : Context}
  {arguments : List Sequence} {parameters offset : List ParameterType} {e : Error}

theorem exists_of_tryMap_eq_error (hreads : kind.ReadBy reader)
    (haccepts : List.Forall₂ ParameterType.Accepts (.optional kind :: parameters) arguments)
    (h : tryMap kind reader f context arguments = .error e) :
    ∃ x, f context arguments x = .error e := by
  rw [tryMap_of_accepts hreads haccepts] at h
  cases hvalue : (argument arguments 0).firstValue?.bind reader with
  | none =>
    rw [hvalue] at h
    cases h
  | some x =>
    rw [hvalue] at h
    exact ⟨x, h⟩

theorem isOfValue_of_timezoneOf {d : DayTimeDuration} (h : timezoneOf d = .error e) :
    e.IsOfValue := by
  have hinvalid : (Error.invalidTimezone d.toText).IsOfValue := rfl
  rw [timezoneOf_eq_orError] at h
  exact isOfValue_of_orError hinvalid h

theorem isOfValue_of_targetZone {first : ParameterType}
    (hoffset : offset ∈ Function.offsetParameters)
    (haccepts : List.Forall₂ ParameterType.Accepts (first :: offset) arguments)
    (h : targetZone context arguments = .error e) : e.IsOfValue := by
  obtain ⟨items, rest, _, hrest, rfl⟩ := List.forall₂_cons_left_iff.mp haccepts
  simp only [Function.offsetParameters, List.mem_cons, List.not_mem_nil, or_false] at hoffset
  rcases hoffset with rfl | rfl
  · obtain rfl := List.forall₂_nil_left_iff.mp hrest
    cases h
  · obtain ⟨given, _, hgiven, _, rfl⟩ := List.forall₂_cons_left_iff.mp hrest
    have hread := Sequence.expect_of_accepts AtomicValue.readBy_asDayTimeDuration? hgiven
    simp only [targetZone, List.getElem?_cons_succ, List.getElem?_cons_zero, hread] at h
    rcases eq_error_of_bind h with h | ⟨_, _, h⟩
    · cases h
    · split at h
      · exact isOfValue_of_map (fun _ => isOfValue_of_timezoneOf) h
      · cases h

theorem isOfValue_of_adjustment {f : α → Option Timezone → Except Error Sequence}
    (hreads : kind.ReadBy reader)
    (hf : ∀ x target e, f x target = .error e → e.IsOfValue)
    (hoffset : offset ∈ Function.offsetParameters)
    (haccepts : List.Forall₂ ParameterType.Accepts (.optional kind :: offset) arguments)
    (h : tryMap kind reader (fun context arguments x => targetZone context arguments >>= f x)
      context arguments = .error e) : e.IsOfValue := by
  obtain ⟨x, h⟩ := exists_of_tryMap_eq_error hreads haccepts h
  rcases eq_error_of_bind h with htarget | ⟨target, _, hadjust⟩
  · exact isOfValue_of_targetZone hoffset haccepts htarget
  · exact hf x target e hadjust

end Reading

end FunctionBody

/-! ## Bodies -/

theorem DateTime.isOfValue_of_adjust {x : DateTime} {target : Option Timezone} {e : Error}
    (h : x.adjust target = .error e) : e.IsOfValue := by
  unfold adjust at h
  split at h
  · split at h
    · cases h
    · cases h
      rfl
  · cases h

theorem DateTime.isOfValue_of_ofDateAndTime {date : Date} {time : Time} {e : Error}
    (h : ofDateAndTime date time = .error e) : e.IsOfValue := by
  unfold ofDateAndTime at h
  split at h
  · split at h
    · cases h
    · cases h
      rfl
  · cases h

theorem Sequence.isOfValue_of_truth {items : Sequence} {e : Error}
    (h : items.truth = .error e) : e.IsOfValue := by
  unfold truth at h
  split at h
  · cases h
  · cases h
  · unfold truthOfValue at h
    split at h
    · cases h
    · cases h
    · cases h
    · cases h
    · split at h
      · cases h
      · cases h
        rfl
  · cases h
    rfl

theorem NumericRule.isOfValue_of_apply {rule : NumericRule} {v : AtomicValue} {e : Error}
    (hrule : rule.FailsInValues) (hv : v.kind.isNumeric = true) (h : rule.apply v = .error e) :
    e.IsOfValue := by
  cases v with
  | integer i => exact isOfValue_of_map (hrule.onInteger i) h
  | decimal d => exact isOfValue_of_map (hrule.onDecimal d) h
  | float x | double x => cases h
  | _ => cases hv

namespace FunctionBody

variable {context : Context} {arguments : List Sequence} {parameters offset : List ParameterType}
  {e : Error}

theorem isOfValue_or_illegalCast_of_construct {target : AtomicKind}
    (h : construct target context arguments = .error e) :
    e.IsOfValue ∨ e.category = .illegalCast := by
  unfold construct at h
  split at h
  · exact AtomicValue.isOfValue_or_illegalCast (eq_error_of_map h)
  · cases h

theorem isOfValue_of_numeric (context : Context) {rule : NumericRule} (hrule : rule.FailsInValues)
    (haccepts : List.Forall₂ ParameterType.Accepts (⟨.numeric, .zeroOrOne⟩ :: parameters) arguments)
    (h : numeric rule context arguments = .error e) : e.IsOfValue := by
  obtain ⟨items, rest, hitems, _, rfl⟩ := List.forall₂_cons_left_iff.mp haccepts
  rcases hitems.eq_nil_or_single (by simp) with rfl | ⟨v, rfl, hv⟩
  · cases h
  · exact isOfValue_of_map (fun _ => NumericRule.isOfValue_of_apply hrule hv) h

theorem isOfValue_of_adjustDateTime (hoffset : offset ∈ Function.offsetParameters)
    (haccepts : List.Forall₂ ParameterType.Accepts (.optional .dateTime :: offset) arguments)
    (h : adjustDateTime context arguments = .error e) : e.IsOfValue := by
  refine isOfValue_of_adjustment AtomicValue.readBy_asDateTimeOnly? ?_ hoffset haccepts h
  intro x target e h
  rcases eq_error_of_bind h with hadjust | ⟨_, _, h⟩
  · exact DateTime.isOfValue_of_adjust hadjust
  · cases h

theorem isOfValue_of_adjustDate (hoffset : offset ∈ Function.offsetParameters)
    (haccepts : List.Forall₂ ParameterType.Accepts (.optional .date :: offset) arguments)
    (h : adjustDate context arguments = .error e) : e.IsOfValue := by
  refine isOfValue_of_adjustment AtomicValue.readBy_asDate? ?_ hoffset haccepts h
  intro x target e h
  rcases eq_error_of_bind h with hadjust | ⟨_, _, h⟩
  · exact isOfValue_of_map (fun _ => DateTime.isOfValue_of_adjust) hadjust
  · cases h

theorem isOfValue_of_adjustTime (hoffset : offset ∈ Function.offsetParameters)
    (haccepts : List.Forall₂ ParameterType.Accepts (.optional .time :: offset) arguments)
    (h : adjustTime context arguments = .error e) : e.IsOfValue := by
  refine isOfValue_of_adjustment AtomicValue.readBy_asTime? ?_ hoffset haccepts h
  intro x target e h
  cases h

theorem isOfValue_of_dateTimeOfParts (context : Context)
    (haccepts : List.Forall₂ ParameterType.Accepts [.optional .date, .optional .time] arguments)
    (h : dateTimeOfParts context arguments = .error e) : e.IsOfValue := by
  obtain ⟨dates, _, hdates, hrest, rfl⟩ := List.forall₂_cons_left_iff.mp haccepts
  obtain ⟨times, _, htimes, _, rfl⟩ := List.forall₂_cons_left_iff.mp hrest
  have hdate := Sequence.expect_of_accepts AtomicValue.readBy_asDate? hdates
  have htime := Sequence.expect_of_accepts AtomicValue.readBy_asTime? htimes
  rcases eq_error_of_bind h with h | ⟨date?, _, h⟩
  · cases hdate.symm.trans h
  · rcases eq_error_of_bind h with h | ⟨time?, _, h⟩
    · cases htime.symm.trans h
    · split at h
      · rcases eq_error_of_bind h with h | ⟨_, _, h⟩
        · exact DateTime.isOfValue_of_ofDateAndTime h
        · cases h
      · cases h

theorem isOfValue_of_makeQName (context : Context)
    (h : makeQName context arguments = .error e) : e.IsOfValue := by
  unfold makeQName at h
  dsimp only at h
  split at h
  · cases h
    rfl
  · split_ifs at h
    all_goals
      cases h
      rfl

end FunctionBody

namespace Function

open FunctionBody

variable {function : Function} {context : Context} {arguments : List Sequence} {e : Error}

/-- On converted arguments, the body fails because of a value or for want of a cast. -/
theorem IsStandard.isOfValue_or_illegalCast (h : function.IsStandard)
    (haccepts : List.Forall₂ ParameterType.Accepts function.signature.parameters arguments)
    (herror : function.body context arguments = .error e) :
    e.IsOfValue ∨ e.category = .illegalCast := by
  cases h with
  | constructor kind => exact isOfValue_or_illegalCast_of_construct herror
  | component name hreads _ => cases (map_of_accepts context hreads haccepts).symm.trans herror
  | adjustDateTime hoffset => exact Or.inl (isOfValue_of_adjustDateTime hoffset haccepts herror)
  | adjustDate hoffset => exact Or.inl (isOfValue_of_adjustDate hoffset haccepts herror)
  | adjustTime hoffset => exact Or.inl (isOfValue_of_adjustTime hoffset haccepts herror)
  | dateTimeOfParts => exact Or.inl (isOfValue_of_dateTimeOfParts context haccepts herror)
  | currentDateTime | currentDate | currentTime | implicitTimezone => cases herror
  | numeric name hrule => exact Or.inl (isOfValue_of_numeric context hrule haccepts herror)
  | roundHalfToEven _ =>
    exact Or.inl (isOfValue_of_numeric context (NumericRule.failsInValues_roundHalfToEven _)
      haccepts herror)
  | makeQName => exact Or.inl (isOfValue_of_makeQName context herror)
  | text | values => cases herror
  | truth => exact Or.inl (isOfValue_of_map (fun _ => Sequence.isOfValue_of_truth) herror)
  | orderOfTexts =>
    change FunctionBody.orderOfTexts context arguments = .error e at herror
    unfold FunctionBody.orderOfTexts at herror
    split at herror <;> cases herror

theorem eq_error_of_call (h : function.call arguments context = .error e) :
    Signature.FailsInConversion e ∨
      ∃ converted, function.signature.convertArguments arguments context = .ok converted ∧
        function.body context converted = .error e := by
  rcases eq_error_of_bind h with hconversion | hbody
  · exact Or.inl (Signature.failsInConversion_of_convertFrom hconversion)
  · exact Or.inr hbody

end Function

namespace Library

variable {name : ExpandedName} {arguments : List Sequence} {context : Context} {e : Error}

theorem not_isUnexpected_of_evaluate (h : standard.evaluate name arguments context = .error e) :
    ¬ e.IsUnexpected := by
  rcases evaluate_cases standard name arguments context with
    ⟨_, hunknown⟩ | ⟨function, hfind, harity, hcall⟩
  · obtain rfl := Except.error.inj (hunknown.symm.trans h)
    exact id
  · rcases Function.eq_error_of_call (hcall.symm.trans h) with hconversion | ⟨converted, hok, hbody⟩
    · exact hconversion.not_isUnexpected
    · have haccepts := Signature.accepts_of_convertArguments harity.symm hok
      have hstandard := isStandard_of_mem (mem_functions_of_find? hfind)
      rcases hstandard.isOfValue_or_illegalCast haccepts hbody with hvalue | hcast
      · exact hvalue.not_isUnexpected
      · exact fun hunexpected => by cases hcast.symm.trans hunexpected.category_eq_type

/-- Arguments stay as they are if and only if they are what the signature declares: as many items as
each parameter allows, of its type. What other arguments are converted to is of that form, with the
values that had the type in their places, so to convert it again, in any context, changes nothing. A
standard function therefore never finds an item of an unexpected type. -/
theorem conversion_sound :
    (∀ (signature : Signature) (arguments : List Sequence) (context : Context),
      arguments.length = signature.arity →
        (signature.convertArguments arguments context = .ok arguments ↔
          List.Forall₂ ParameterType.Accepts signature.parameters arguments) ∧
        ∀ converted, signature.convertArguments arguments context = .ok converted →
          List.Forall₂ ParameterType.Accepts signature.parameters converted ∧
            List.Forall₂ (fun pair => pair.1.Keeps pair.2) (signature.parameters.zip arguments)
              converted ∧
            ∀ other, signature.convertArguments converted other = .ok converted) ∧
      ∀ (name : ExpandedName) (arguments : List Sequence) (context : Context) (e : Error),
        standard.evaluate name arguments context = .error e → ¬ e.IsUnexpected := by
  refine ⟨fun signature arguments context hlength => ⟨⟨?_, ?_⟩, fun converted h => ?_⟩,
    fun name arguments context e => not_isUnexpected_of_evaluate⟩
  · exact Signature.accepts_of_convertArguments hlength
  · exact fun haccepts => Signature.convertFrom_of_accepts haccepts
  · have haccepts := Signature.accepts_of_convertArguments hlength h
    exact ⟨haccepts, Signature.keeps_of_convertArguments h,
      fun other => Signature.convertFrom_of_accepts haccepts⟩

/-- An untyped text is converted to a date. A string that is no date is a wrong argument, which the
body does not get to see. -/
theorem conversion_sound_leapDay :
    let context := Context.Builder.start.build ⟨.startOfDay ⟨2000, 1, 1, by decide⟩, .utc⟩
    let signature : Signature := ⟨.inFunctions "year-from-date", [.optional .date]⟩
    let converted : List Sequence := [[.atomic (.date ⟨⟨2000, 2, 29, by decide⟩, some .utc⟩)]]
    let mismatch : Error :=
      .wrongArgument 0 signature.name (.optional .date) .string (.invalidLexical .date "today")
    signature.convertArguments [[.node (.ofText "2000-02-29Z")]] context = .ok converted ∧
      List.Forall₂ ParameterType.Accepts signature.parameters converted ∧
      signature.convertArguments converted context = .ok converted ∧
      standard.evaluate signature.name [[.atomic (.string "today")]] context = .error mismatch ∧
      ¬ mismatch.IsUnexpected := by
  intro context signature converted mismatch
  have hconverted : signature.convertArguments [[.node (.ofText "2000-02-29Z")]] context =
      .ok converted := by decide +kernel
  have hmismatch : standard.evaluate signature.name [[.atomic (.string "today")]] context =
      .error mismatch := by decide +kernel
  obtain ⟨haccepts, _, hagain⟩ := (conversion_sound.1 signature _ context rfl).2 _ hconverted
  exact ⟨hconverted, haccepts, hagain context, hmismatch,
    conversion_sound.2 signature.name _ context mismatch hmismatch⟩

end Library

end XPathValues
