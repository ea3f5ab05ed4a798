import Mathlib.Tactic
import XPathValues.Proofs.Function.Conversion
import XPathValues.Proofs.Function.LawfulLibrary

/-!
# The forms of the standard functions

A standard function reads an optional value of one type and answers nothing where there is none, or
it has one of a few other forms. Whatever holds of all forms holds of every function of the standard
library.
-/

namespace XPathValues

/-- The reader takes every value that may stand where one of the type is expected. -/
def AtomicKind.ReadBy {α : Type} (kind : AtomicKind) (reader : AtomicValue → Option α) : Prop :=
  ∀ v : AtomicValue, v.kind.derivesFrom kind = true → (reader v).isSome = true

namespace AtomicValue

theorem readBy_asDateTimeOnly? : AtomicKind.dateTime.ReadBy asDateTimeOnly? := by
  intro v h
  cases v <;> first | rfl | cases h

theorem readBy_asDate? : AtomicKind.date.ReadBy asDate? := by
  intro v h
  cases v <;> first | rfl | cases h

theorem readBy_asTime? : AtomicKind.time.ReadBy asTime? := by
  intro v h
  cases v <;> first | rfl | cases h

theorem readBy_asDuration? : AtomicKind.duration.ReadBy asDuration? := by
  intro v h
  cases v <;> first | rfl | cases h

theorem readBy_asDayTimeDuration? : AtomicKind.dayTimeDuration.ReadBy asDayTimeDuration? := by
  intro v h
  cases v <;> first | rfl | cases h

theorem readBy_asQName? : AtomicKind.qname.ReadBy asQName? := by
  intro v h
  cases v <;> first | rfl | cases h

end AtomicValue

/-! ## Optional values -/

theorem ParameterType.Accepts.eq_nil_or_single {item : ItemType} {items : Sequence}
    (h : (⟨item, .zeroOrOne⟩ : ParameterType).Accepts items) (hitem : item ≠ .anyItem) :
    items = [] ∨ ∃ v, items = .single v ∧ item.Accepts (.atomic v) := by
  have hcount : items.length ≤ 1 := of_decide_eq_true h.count
  cases items with
  | nil => exact Or.inl rfl
  | cons first rest =>
    have hrest : rest.length ≤ 0 := Nat.le_of_succ_le_succ hcount
    obtain rfl := List.length_eq_zero_iff.mp (Nat.le_zero.mp hrest)
    have hfirst := h.items first List.mem_cons_self
    cases first with
    | atomic v => exact Or.inr ⟨v, rfl, hfirst⟩
    | node n => cases item <;> first | exact absurd rfl hitem | exact hfirst.elim

section Reading

variable {α : Type} {kind : AtomicKind} {reader : AtomicValue → Option α}

theorem Sequence.expect_of_accepts {items : Sequence} (hreads : kind.ReadBy reader)
    (h : (ParameterType.optional kind).Accepts items) :
    items.expect kind reader = .ok (items.firstValue?.bind reader) := by
  rcases h.eq_nil_or_single (by simp) with rfl | ⟨v, rfl, hv⟩
  · rfl
  · obtain ⟨x, hx⟩ := Option.isSome_iff_exists.mp (hreads v hv)
    simp [Sequence.single, expect, firstValue?, hx]

namespace FunctionBody

variable {f : Context → List Sequence → α → Except Error Sequence} {context : Context}
  {arguments : List Sequence} {parameters : List ParameterType}

theorem expect_single {v : AtomicValue} {x : α} (hx : reader v = some x) :
    (Sequence.single v).expect kind reader = .ok (some x) := by
  simp only [Sequence.single, Sequence.expect, hx]

theorem tryMap_single {v : AtomicValue} {rest : List Sequence} {x : α} (hx : reader v = some x) :
    tryMap kind reader f context (.single v :: rest) = f context (.single v :: rest) x := by
  unfold tryMap
  rw [show argument (.single v :: rest) 0 = .single v from rfl, expect_single hx]
  rfl

theorem map_single (context : Context) {f : α → Sequence} {v : AtomicValue}
    {rest : List Sequence} {x : α} (hx : reader v = some x) :
    map kind reader f context (.single v :: rest) = .ok (f x) :=
  tryMap_single hx

theorem tryMap_of_accepts (hreads : kind.ReadBy reader)
    (h : List.Forall₂ ParameterType.Accepts (.optional kind :: parameters) arguments) :
    tryMap kind reader f context arguments =
      ((argument arguments 0).firstValue?.bind reader).elim (.ok []) (f context arguments) := by
  obtain ⟨items, rest, hitems, _, rfl⟩ := List.forall₂_cons_left_iff.mp h
  have hread := Sequence.expect_of_accepts hreads hitems
  unfold tryMap
  rw [show argument (items :: rest) 0 = items from rfl, hread]
  cases items.firstValue?.bind reader <;> rfl

theorem map_of_accepts (context : Context) {f : α → Sequence} (hreads : kind.ReadBy reader)
    (h : List.Forall₂ ParameterType.Accepts (.optional kind :: parameters) arguments) :
    map kind reader f context arguments =
      .ok (((argument arguments 0).firstValue?.bind reader).elim [] f) := by
  rw [map, tryMap_of_accepts hreads h]
  cases (argument arguments 0).firstValue?.bind reader <;> rfl

theorem timezoneOf_eq_orError (d : DayTimeDuration) :
    timezoneOf d = orError (.invalidTimezone d.toText) d.toTimezone? := by
  unfold timezoneOf
  cases d.toTimezone? <;> rfl

end FunctionBody

end Reading

/-! ## Parts -/

namespace Sequence

/-- No item stands for a calendar value. -/
def NoCalendar (items : Sequence) : Prop :=
  ∀ v ∈ items.atomize, v.isCalendar = false

theorem noCalendar_nil : NoCalendar [] := fun _ hv => absurd hv List.not_mem_nil

theorem noCalendar_single {v : AtomicValue} (h : v.isCalendar = false) : (single v).NoCalendar := by
  intro w hw
  obtain rfl : w = v := List.mem_singleton.mp hw
  exact h

theorem noCalendar_ofZone (zone : Option Timezone) : (ofZone zone).NoCalendar := by
  cases zone with
  | none => exact noCalendar_nil
  | some zone => exact noCalendar_single rfl

theorem noCalendar_qualifierOf (name : QName) : (qualifierOf name).NoCalendar := by
  unfold qualifierOf
  split
  · exact noCalendar_single rfl
  · exact noCalendar_nil

end Sequence

namespace NumericRule

/-- The rule fails on a number only because of the number. -/
structure FailsInValues (rule : NumericRule) : Prop where
  onInteger : ∀ i e, rule.onInteger i = .error e → e.IsOfValue
  onDecimal : ∀ d e, rule.onDecimal d = .error e → e.IsOfValue

theorem isOfValue_of_overflow {α : Type} {o : Option α} {e : Error}
    (h : orError .numericOverflow o = .error e) : e.IsOfValue := by
  have hoverflow : Error.numericOverflow.IsOfValue := rfl
  exact isOfValue_of_orError hoverflow h

theorem failsInValues_absolute : absolute.FailsInValues where
  onInteger _ _ := isOfValue_of_overflow
  onDecimal _ _ h := by cases h

theorem failsInValues_ceiling : ceiling.FailsInValues where
  onInteger _ _ h := by cases h
  onDecimal _ _ h := by cases h

theorem failsInValues_floor : floor.FailsInValues where
  onInteger _ _ h := by cases h
  onDecimal _ _ h := by cases h

theorem failsInValues_round : round.FailsInValues where
  onInteger _ _ h := by cases h
  onDecimal _ _ := isOfValue_of_overflow

theorem failsInValues_roundHalfToEven (precision : Int) :
    (roundHalfToEven precision).FailsInValues where
  onInteger i e h := by
    change roundIntegerToEven i precision = .error e at h
    unfold roundIntegerToEven at h
    split at h
    · cases h
    · split at h
      · cases h
      · exact isOfValue_of_overflow h
  onDecimal d e h := by
    change roundDecimalToEven d precision = .error e at h
    unfold roundDecimalToEven at h
    split_ifs at h
    · exact isOfValue_of_overflow h
    · exact isOfValue_of_overflow h

end NumericRule

/-! ## The table -/

namespace Function

open FunctionBody Sequence

/-- An adjustment may have the offset as a second parameter. -/
def offsetParameters : List (List ParameterType) := [[], [.optional .dayTimeDuration]]

/-- Rounding may have the precision as a second parameter. -/
def precisionParameters : List (List ParameterType) := [[], [.single (.integer .integer)]]

/-- The forms that the functions of the standard library have. -/
inductive IsStandard : Function → Prop
  | constructor (kind : AtomicKind) : IsStandard (constructor kind)
  /-- A part of an optional value, which is no calendar value. -/
  | component (name : String) {α : Type} {kind : AtomicKind} {reader : AtomicValue → Option α}
      {f : α → Sequence} (hreads : kind.ReadBy reader) (hpart : ∀ x, (f x).NoCalendar) :
      IsStandard (standard name [.optional kind] (map kind reader f))
  | adjustDateTime {offset} (h : offset ∈ offsetParameters) :
      IsStandard (standard "adjust-dateTime-to-timezone" (.optional .dateTime :: offset)
        adjustDateTime)
  | adjustDate {offset} (h : offset ∈ offsetParameters) :
      IsStandard (standard "adjust-date-to-timezone" (.optional .date :: offset) adjustDate)
  | adjustTime {offset} (h : offset ∈ offsetParameters) :
      IsStandard (standard "adjust-time-to-timezone" (.optional .time :: offset) adjustTime)
  | dateTimeOfParts :
      IsStandard (standard "dateTime" [.optional .date, .optional .time] dateTimeOfParts)
  | currentDateTime : IsStandard (standard "current-dateTime" [] currentDateTime)
  | currentDate : IsStandard (standard "current-date" [] currentDate)
  | currentTime : IsStandard (standard "current-time" [] currentTime)
  | implicitTimezone : IsStandard (standard "implicit-timezone" [] implicitTimezone)
  | numeric (name : String) {rule : NumericRule} (hrule : rule.FailsInValues) :
      IsStandard (standard name [⟨.numeric, .zeroOrOne⟩] (numeric rule))
  | roundHalfToEven {precision} (h : precision ∈ precisionParameters) :
      IsStandard (standard "round-half-to-even" (⟨.numeric, .zeroOrOne⟩ :: precision)
        roundHalfToEven)
  | makeQName : IsStandard (standard "QName" [.optional .string, .single .string] makeQName)
  | text : IsStandard (standard "string" [⟨.anyItem, .zeroOrOne⟩] text)
  | values : IsStandard (standard "data" [⟨.anyItem, .zeroOrMore⟩] values)
  | truth : IsStandard (standard "boolean" [⟨.anyItem, .zeroOrMore⟩] truth)
  | orderOfTexts :
      IsStandard (standard "compare" [.optional .string, .optional .string] orderOfTexts)

theorem isStandard_ofDateTime (name : String) {f : DateTime → Sequence}
    (hpart : ∀ x, (f x).NoCalendar) :
    IsStandard (standard name [.optional .dateTime] (ofDateTime f)) :=
  .component name AtomicValue.readBy_asDateTimeOnly? hpart

theorem isStandard_ofDate (name : String) {f : Date → Sequence} (hpart : ∀ x, (f x).NoCalendar) :
    IsStandard (standard name [.optional .date] (ofDate f)) :=
  .component name AtomicValue.readBy_asDate? hpart

theorem isStandard_ofTime (name : String) {f : Time → Sequence} (hpart : ∀ x, (f x).NoCalendar) :
    IsStandard (standard name [.optional .time] (ofTime f)) :=
  .component name AtomicValue.readBy_asTime? hpart

theorem isStandard_ofDuration (name : String) {f : Duration → Sequence}
    (hpart : ∀ d, (f d).NoCalendar) :
    IsStandard (standard name [.optional .duration] (ofDuration f)) :=
  .component name AtomicValue.readBy_asDuration? hpart

theorem isStandard_ofQName (name : String) {f : QName → Sequence}
    (hpart : ∀ x, (f x).NoCalendar) :
    IsStandard (standard name [.optional .qname] (ofQName f)) :=
  .component name AtomicValue.readBy_asQName? hpart

variable {function : Function}

theorem isStandard_of_mem_constructors (h : function ∈ constructors) : IsStandard function := by
  obtain ⟨kind, _, rfl⟩ := List.mem_map.mp h
  exact .constructor kind

theorem isStandard_of_mem_calendarFunctions (h : function ∈ calendarFunctions) :
    IsStandard function := by
  revert function
  simp only [calendarFunctions, List.forall_mem_cons]
  exact ⟨.dateTimeOfParts, .currentDateTime, .currentDate, .currentTime, .implicitTimezone,
    isStandard_ofDateTime _ fun _ => noCalendar_single rfl,
    isStandard_ofDateTime _ fun _ => noCalendar_single rfl,
    isStandard_ofDateTime _ fun _ => noCalendar_single rfl,
    isStandard_ofDateTime _ fun _ => noCalendar_single rfl,
    isStandard_ofDateTime _ fun _ => noCalendar_single rfl,
    isStandard_ofDateTime _ fun _ => noCalendar_single rfl,
    isStandard_ofDateTime _ fun _ => noCalendar_ofZone _,
    isStandard_ofDate _ fun _ => noCalendar_single rfl,
    isStandard_ofDate _ fun _ => noCalendar_single rfl,
    isStandard_ofDate _ fun _ => noCalendar_single rfl,
    isStandard_ofDate _ fun _ => noCalendar_ofZone _,
    isStandard_ofTime _ fun _ => noCalendar_single rfl,
    isStandard_ofTime _ fun _ => noCalendar_single rfl,
    isStandard_ofTime _ fun _ => noCalendar_single rfl,
    isStandard_ofTime _ fun _ => noCalendar_ofZone _,
    .adjustDateTime (by decide), .adjustDateTime (by decide),
    .adjustDate (by decide), .adjustDate (by decide),
    .adjustTime (by decide), .adjustTime (by decide),
    fun _ h => absurd h List.not_mem_nil⟩

theorem isStandard_of_mem_durationFunctions (h : function ∈ durationFunctions) :
    IsStandard function := by
  revert function
  simp only [durationFunctions, List.forall_mem_cons]
  exact ⟨isStandard_ofDuration _ fun _ => noCalendar_single rfl,
    isStandard_ofDuration _ fun _ => noCalendar_single rfl,
    isStandard_ofDuration _ fun _ => noCalendar_single rfl,
    isStandard_ofDuration _ fun _ => noCalendar_single rfl,
    isStandard_ofDuration _ fun _ => noCalendar_single rfl,
    isStandard_ofDuration _ fun _ => noCalendar_single rfl,
    fun _ h => absurd h List.not_mem_nil⟩

theorem isStandard_of_mem_numericFunctions (h : function ∈ numericFunctions) :
    IsStandard function := by
  revert function
  simp only [numericFunctions, List.forall_mem_cons]
  exact ⟨.numeric _ NumericRule.failsInValues_absolute,
    .numeric _ NumericRule.failsInValues_ceiling, .numeric _ NumericRule.failsInValues_floor,
    .numeric _ NumericRule.failsInValues_round, .roundHalfToEven (by decide),
    .roundHalfToEven (by decide), fun _ h => absurd h List.not_mem_nil⟩

theorem isStandard_of_mem_nameFunctions (h : function ∈ nameFunctions) : IsStandard function := by
  revert function
  simp only [nameFunctions, List.forall_mem_cons]
  exact ⟨.makeQName, isStandard_ofQName _ fun _ => noCalendar_single rfl,
    isStandard_ofQName _ noCalendar_qualifierOf,
    isStandard_ofQName _ fun _ => noCalendar_single rfl, fun _ h => absurd h List.not_mem_nil⟩

theorem isStandard_of_mem_itemFunctions (h : function ∈ itemFunctions) : IsStandard function := by
  revert function
  simp only [itemFunctions, List.forall_mem_cons]
  exact ⟨.text, .values, .truth, .orderOfTexts, fun _ h => absurd h List.not_mem_nil⟩

end Function

namespace Library

variable {library : Library} {function other : Function} {functions : List Function}

theorem mem_register (h : function ∈ (library.register other).functions) :
    function = other ∨ function ∈ library.functions := by
  obtain ⟨entry, hentry, hfunction⟩ := mem_functions_iff.mp h
  rcases mem_entries_set hentry with rfl | hold
  · rcases List.mem_append.mp hfunction with hkept | hnew
    · exact Or.inr (mem_functions_of_mem_get? (List.mem_of_mem_filter hkept))
    · exact Or.inl (List.mem_singleton.mp hnew)
  · exact Or.inr (mem_functions_iff.mpr ⟨entry, hold, hfunction⟩)

theorem mem_foldl_register (h : function ∈ (functions.foldl register library).functions) :
    function ∈ functions ∨ function ∈ library.functions := by
  induction functions generalizing library with
  | nil => exact Or.inr h
  | cons first rest ih =>
    rcases ih h with hrest | hregistered
    · exact Or.inl (List.mem_cons_of_mem _ hrest)
    · rcases mem_register hregistered with rfl | hlibrary
      · exact Or.inl List.mem_cons_self
      · exact Or.inr hlibrary

theorem isStandard_of_mem (h : function ∈ standard.functions) : function.IsStandard := by
  rcases mem_foldl_register h with htable | hempty
  · simp only [List.mem_append] at htable
    rcases htable with ((((h | h) | h) | h) | h) | h
    · exact Function.isStandard_of_mem_constructors h
    · exact Function.isStandard_of_mem_calendarFunctions h
    · exact Function.isStandard_of_mem_durationFunctions h
    · exact Function.isStandard_of_mem_numericFunctions h
    · exact Function.isStandard_of_mem_nameFunctions h
    · exact Function.isStandard_of_mem_itemFunctions h
  · exact absurd hempty List.not_mem_nil

/-- A call reaches the function of its name and arity if there is one. -/
theorem evaluate_cases (library : Library) (name : ExpandedName) (arguments : List Sequence)
    (context : Context) :
    (library.find? (resolveName name context) arguments.length = none ∧
        library.evaluate name arguments context =
          .error (.unknownFunction (resolveName name context) arguments.length)) ∨
      ∃ function, library.find? (resolveName name context) arguments.length = some function ∧
        function.signature.arity = arguments.length ∧
        library.evaluate name arguments context = function.call arguments context := by
  unfold evaluate
  cases hfind : library.find? (resolveName name context) arguments.length with
  | none => exact Or.inl ⟨rfl, by simp only [hfind]⟩
  | some function =>
    exact Or.inr ⟨function, rfl, arity_of_find? hfind, by simp only [hfind]⟩

end Library

end XPathValues
