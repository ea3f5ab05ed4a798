import Mathlib.Tactic
import XPathValues.Proofs.Function.ResultType

/-!
# Results of the standard functions

The declared result types of the whole standard library, and that every call keeps to them.
-/

namespace XPathValues

theorem AtomicKind.ofExpandedName?_expandedName (kind : AtomicKind) :
    ofExpandedName? kind.expandedName = some kind := by
  have hname : ofLocalName? kind.localName = some kind := by
    cases kind with
    | integer kind => cases kind <;> decide +kernel
    | _ => decide +kernel
  exact (if_pos rfl).trans hname

namespace ResultType

/-- The functions of the standard namespace by what they give. -/
def ofFunctions : List (ResultType × List String) :=
  [(one .dateTime, ["current-dateTime"]),
   (one .date, ["current-date"]),
   (one .time, ["current-time"]),
   (one .dayTimeDuration, ["implicit-timezone"]),
   (one .qname, ["QName"]),
   (one .string, ["string"]),
   (one .boolean, ["boolean"]),
   (values, ["data"]),
   (optional [0] (.integer .integer),
    ["year-from-dateTime", "month-from-dateTime", "day-from-dateTime", "hours-from-dateTime",
     "minutes-from-dateTime", "year-from-date", "month-from-date", "day-from-date",
     "hours-from-time", "minutes-from-time", "years-from-duration", "months-from-duration",
     "days-from-duration", "hours-from-duration", "minutes-from-duration"]),
   (optional [0] .decimal,
    ["seconds-from-dateTime", "seconds-from-time", "seconds-from-duration"]),
   (part .zone .dayTimeDuration,
    ["timezone-from-dateTime", "timezone-from-date", "timezone-from-time"]),
   (optional [0] .dateTime, ["adjust-dateTime-to-timezone"]),
   (optional [0] .date, ["adjust-date-to-timezone"]),
   (optional [0] .time, ["adjust-time-to-timezone"]),
   (optional [0, 1] .dateTime, ["dateTime"]),
   (optional [0, 1] (.integer .integer), ["compare"]),
   (number, ["abs", "ceiling", "floor", "round", "round-half-to-even"]),
   (optional [0] .string, ["local-name-from-QName"]),
   (part .qualifier .string, ["prefix-from-QName"]),
   (optional [0] .anyURI, ["namespace-uri-from-QName"])]

/-- The result type of a function of the standard namespace. -/
def ofFunction? (localPart : String) : Option ResultType :=
  (ofFunctions.find? fun entry => entry.2.contains localPart).map Prod.fst

/-- The result type of a function: a constructor gives its own type. -/
def declared? (name : ExpandedName) : Option ResultType :=
  if name.uri = some Namespace.functions then ofFunction? name.localPart
  else (AtomicKind.ofExpandedName? name).map (optional [0])

theorem declared?_inFunctions (localPart : String) :
    declared? (.inFunctions localPart) = ofFunction? localPart :=
  if_pos rfl

theorem declared?_expandedName (kind : AtomicKind) :
    declared? kind.expandedName = some (optional [0] kind) := by
  have hschema : kind.expandedName.uri ≠ some Namespace.functions := by
    change some Namespace.schema ≠ some Namespace.functions
    decide +kernel
  rw [declared?, if_neg hschema, AtomicKind.ofExpandedName?_expandedName]
  rfl

end ResultType

namespace AtomicValue

variable {v : AtomicValue}

theorem zone?_of_asDateTimeOnly? {x : DateTime} (h : v.asDateTimeOnly? = some x) :
    v.zone? = x.zone := by
  cases v <;> cases h
  rfl

theorem zone?_of_asDate? {x : Date} (h : v.asDate? = some x) : v.zone? = x.zone := by
  cases v <;> cases h
  rfl

theorem zone?_of_asTime? {x : Time} (h : v.asTime? = some x) : v.zone? = x.zone := by
  cases v <;> cases h
  rfl

end AtomicValue

namespace Function

open FunctionBody Sequence AtomicValue

/-- The function has a declared result type and keeps to it. -/
def HasResultType (function : Function) : Prop :=
  ∃ type, ResultType.declared? function.signature.name = some type ∧
    Conforms function.signature.parameters function.body type

variable {name : String} {parameters : List ParameterType} {body : FunctionBody}
  {type : ResultType} {function : Function}

theorem hasResultType_standard (hname : ResultType.ofFunction? name = some type)
    (hbody : Conforms parameters body type) : (standard name parameters body).HasResultType :=
  ⟨type, (ResultType.declared?_inFunctions name).trans hname, hbody⟩

section Components

variable {kind : AtomicKind}

theorem hasResultType_ofDateTime {f : DateTime → Sequence}
    (hname : ResultType.ofFunction? name = some (.optional [0] kind))
    (hone : ∀ x, (f x).IsOne kind) :
    (standard name [.optional .dateTime] (ofDateTime f)).HasResultType :=
  hasResultType_standard hname (conforms_map readBy_asDateTimeOnly? hone)

theorem hasResultType_ofDate {f : Date → Sequence}
    (hname : ResultType.ofFunction? name = some (.optional [0] kind))
    (hone : ∀ x, (f x).IsOne kind) :
    (standard name [.optional .date] (ofDate f)).HasResultType :=
  hasResultType_standard hname (conforms_map readBy_asDate? hone)

theorem hasResultType_ofTime {f : Time → Sequence}
    (hname : ResultType.ofFunction? name = some (.optional [0] kind))
    (hone : ∀ x, (f x).IsOne kind) :
    (standard name [.optional .time] (ofTime f)).HasResultType :=
  hasResultType_standard hname (conforms_map readBy_asTime? hone)

theorem hasResultType_ofDuration {f : Duration → Sequence}
    (hname : ResultType.ofFunction? name = some (.optional [0] kind))
    (hone : ∀ d, (f d).IsOne kind) :
    (standard name [.optional .duration] (ofDuration f)).HasResultType :=
  hasResultType_standard hname (conforms_map readBy_asDuration? hone)

theorem hasResultType_ofQName {f : QName → Sequence}
    (hname : ResultType.ofFunction? name = some (.optional [0] kind))
    (hone : ∀ x, (f x).IsOne kind) :
    (standard name [.optional .qname] (ofQName f)).HasResultType :=
  hasResultType_standard hname (conforms_map readBy_asQName? hone)

end Components

theorem hasResultType_of_mem_constructors (h : function ∈ constructors) :
    function.HasResultType := by
  obtain ⟨kind, _, rfl⟩ := List.mem_map.mp h
  exact ⟨_, ResultType.declared?_expandedName kind, conforms_construct kind⟩

theorem hasResultType_of_mem_calendarFunctions (h : function ∈ calendarFunctions) :
    function.HasResultType := by
  revert function
  simp only [calendarFunctions, List.forall_mem_cons]
  refine ⟨?_, ?_, ?_, ?_, ?_, ?_, ?_, ?_, ?_, ?_, ?_, ?_, ?_, ?_, ?_, ?_, ?_, ?_, ?_, ?_,
    ?_, ?_, ?_, ?_, ?_, ?_, fun _ h => absurd h List.not_mem_nil⟩
  · exact hasResultType_standard (by decide +kernel) conforms_dateTimeOfParts
  · exact hasResultType_standard (by decide +kernel) (conforms_ofContext fun _ => rfl)
  · exact hasResultType_standard (by decide +kernel) (conforms_ofContext fun _ => rfl)
  · exact hasResultType_standard (by decide +kernel) (conforms_ofContext fun _ => rfl)
  · exact hasResultType_standard (by decide +kernel) (conforms_ofContext fun _ => rfl)
  · exact hasResultType_ofDateTime (by decide +kernel) fun _ => isOne_ofInteger ..
  · exact hasResultType_ofDateTime (by decide +kernel) fun _ => isOne_ofInteger ..
  · exact hasResultType_ofDateTime (by decide +kernel) fun _ => isOne_ofInteger ..
  · exact hasResultType_ofDateTime (by decide +kernel) fun _ => isOne_ofInteger ..
  · exact hasResultType_ofDateTime (by decide +kernel) fun _ => isOne_ofInteger ..
  · exact hasResultType_ofDateTime (by decide +kernel) fun _ => isOne_single rfl
  · exact hasResultType_standard (by decide +kernel) (conforms_map_part readBy_asDateTimeOnly?
      fun _ _ h => ofZone_of_zone? (zone?_of_asDateTimeOnly? h))
  · exact hasResultType_ofDate (by decide +kernel) fun _ => isOne_ofInteger ..
  · exact hasResultType_ofDate (by decide +kernel) fun _ => isOne_ofInteger ..
  · exact hasResultType_ofDate (by decide +kernel) fun _ => isOne_ofInteger ..
  · exact hasResultType_standard (by decide +kernel) (conforms_map_part readBy_asDate?
      fun _ _ h => ofZone_of_zone? (zone?_of_asDate? h))
  · exact hasResultType_ofTime (by decide +kernel) fun _ => isOne_ofInteger ..
  · exact hasResultType_ofTime (by decide +kernel) fun _ => isOne_ofInteger ..
  · exact hasResultType_ofTime (by decide +kernel) fun _ => isOne_single rfl
  · exact hasResultType_standard (by decide +kernel) (conforms_map_part readBy_asTime?
      fun _ _ h => ofZone_of_zone? (zone?_of_asTime? h))
  · exact hasResultType_standard (by decide +kernel) conforms_adjustDateTime
  · exact hasResultType_standard (by decide +kernel) conforms_adjustDateTime
  · exact hasResultType_standard (by decide +kernel) conforms_adjustDate
  · exact hasResultType_standard (by decide +kernel) conforms_adjustDate
  · exact hasResultType_standard (by decide +kernel) conforms_adjustTime
  · exact hasResultType_standard (by decide +kernel) conforms_adjustTime

theorem hasResultType_of_mem_durationFunctions (h : function ∈ durationFunctions) :
    function.HasResultType := by
  revert function
  simp only [durationFunctions, List.forall_mem_cons]
  refine ⟨?_, ?_, ?_, ?_, ?_, ?_, fun _ h => absurd h List.not_mem_nil⟩
  · exact hasResultType_ofDuration (by decide +kernel) fun _ => isOne_ofInteger ..
  · exact hasResultType_ofDuration (by decide +kernel) fun _ => isOne_ofInteger ..
  · exact hasResultType_ofDuration (by decide +kernel) fun _ => isOne_ofInteger ..
  · exact hasResultType_ofDuration (by decide +kernel) fun _ => isOne_ofInteger ..
  · exact hasResultType_ofDuration (by decide +kernel) fun _ => isOne_ofInteger ..
  · exact hasResultType_ofDuration (by decide +kernel) fun _ => isOne_single rfl

theorem hasResultType_of_mem_numericFunctions (h : function ∈ numericFunctions) :
    function.HasResultType := by
  revert function
  simp only [numericFunctions, List.forall_mem_cons]
  refine ⟨?_, ?_, ?_, ?_, ?_, ?_, fun _ h => absurd h List.not_mem_nil⟩
  · exact hasResultType_standard (by decide +kernel)
      (conforms_numeric NumericRule.givesPlainIntegers_absolute)
  · exact hasResultType_standard (by decide +kernel)
      (conforms_numeric NumericRule.givesPlainIntegers_ceiling)
  · exact hasResultType_standard (by decide +kernel)
      (conforms_numeric NumericRule.givesPlainIntegers_floor)
  · exact hasResultType_standard (by decide +kernel)
      (conforms_numeric NumericRule.givesPlainIntegers_round)
  · exact hasResultType_standard (by decide +kernel) conforms_roundHalfToEven
  · exact hasResultType_standard (by decide +kernel) conforms_roundHalfToEven

theorem hasResultType_of_mem_nameFunctions (h : function ∈ nameFunctions) :
    function.HasResultType := by
  revert function
  simp only [nameFunctions, List.forall_mem_cons]
  refine ⟨?_, ?_, ?_, ?_, fun _ h => absurd h List.not_mem_nil⟩
  · exact hasResultType_standard (by decide +kernel) conforms_makeQName
  · exact hasResultType_ofQName (by decide +kernel) fun _ => isOne_ofText _
  · exact hasResultType_standard (by decide +kernel) (conforms_map_part readBy_asQName?
      fun _ _ => qualifierOf_of_qualifier?)
  · exact hasResultType_ofQName (by decide +kernel) fun _ => isOne_single rfl

theorem hasResultType_of_mem_itemFunctions (h : function ∈ itemFunctions) :
    function.HasResultType := by
  revert function
  simp only [itemFunctions, List.forall_mem_cons]
  refine ⟨?_, ?_, ?_, ?_, fun _ h => absurd h List.not_mem_nil⟩
  · exact hasResultType_standard (by decide +kernel) conforms_text
  · exact hasResultType_standard (by decide +kernel) conforms_values
  · exact hasResultType_standard (by decide +kernel) conforms_truth
  · exact hasResultType_standard (by decide +kernel) conforms_orderOfTexts

end Function

namespace Library

variable {function : Function} {name : ExpandedName} {arguments converted : List Sequence}
  {context : Context} {result : Sequence}

theorem hasResultType_of_mem (h : function ∈ standard.functions) : function.HasResultType := by
  rcases mem_foldl_register h with htable | hempty
  · simp only [List.mem_append] at htable
    rcases htable with ((((h | h) | h) | h) | h) | h
    · exact Function.hasResultType_of_mem_constructors h
    · exact Function.hasResultType_of_mem_calendarFunctions h
    · exact Function.hasResultType_of_mem_durationFunctions h
    · exact Function.hasResultType_of_mem_numericFunctions h
    · exact Function.hasResultType_of_mem_nameFunctions h
    · exact Function.hasResultType_of_mem_itemFunctions h
  · exact absurd hempty List.not_mem_nil

theorem lacksArgument_converted_iff {signature : Signature} {body : FunctionBody}
    {type : ResultType} (hbody : body.Conforms signature.parameters type)
    (hlength : arguments.length = signature.arity)
    (hconverted : signature.convertArguments arguments context = .ok converted) :
    type.LacksArgument converted ↔ type.LacksArgument arguments := by
  refine exists_congr fun position => and_congr_right fun hposition => ?_
  obtain ⟨parameter, hparameter, hitem⟩ := hbody.governing position hposition
  exact Signature.atomize_argument_eq_nil_iff hlength hconverted hparameter hitem

theorem exists_of_evaluate_eq_ok {library : Library}
    (h : library.evaluate name arguments context = .ok result) :
    ∃ function converted,
      library.find? (resolveName name context) arguments.length = some function ∧
      function.signature.convertArguments arguments context = .ok converted ∧
      function.body context converted = .ok result := by
  rcases evaluate_cases library name arguments context with
    ⟨_, hunknown⟩ | ⟨function, hfind, _, hcall⟩
  · cases hunknown.symm.trans h
  · obtain ⟨converted, hconverted, hbody⟩ := exists_of_bind_eq_ok (hcall.symm.trans h)
    exact ⟨function, converted, hfind, hconverted, hbody⟩

/-- A function that is found has a declared type. If a governing argument has no values, its body
gives nothing and does not fail; otherwise it only gives what the type describes. -/
theorem result_of_find? (hfind : standard.find? (resolveName name context) arguments.length =
      some function)
    (hconverted : function.signature.convertArguments arguments context = .ok converted) :
    ∃ type, ResultType.declared? (resolveName name context) = some type ∧
      (type.LacksArgument arguments → function.body context converted = .ok []) ∧
      (¬ type.LacksArgument arguments → ∀ result, function.body context converted = .ok result →
        type.Describes converted result) := by
  have hkey := lawful_standard.key_of_find? hfind
  obtain ⟨type, hdeclared, hbody⟩ := hasResultType_of_mem (mem_functions_of_find? hfind)
  have hlength : arguments.length = function.signature.arity := (arity_of_find? hfind).symm
  have haccepts := Signature.accepts_of_convertArguments hlength hconverted
  have hlacks := lacksArgument_converted_iff hbody hlength hconverted
  refine ⟨type, ?_, ?_, ?_⟩
  · rw [← hdeclared]
    exact congrArg ResultType.declared? (congrArg Prod.fst hkey).symm
  · intro hlacking
    exact hbody.lacking context converted haccepts (hlacks.mpr hlacking)
  · intro hlacking result hok
    exact hbody.describes context converted result haccepts (mt hlacks.mp hlacking) hok

/-- Every call of the standard library that succeeds gives what its function is declared to give: it
gives nothing where a governing argument has no values, and otherwise what the type describes. Where
the conversion has left a governing argument without values, the body does not fail. -/
theorem evaluate_conforms :
    (∀ (name : ExpandedName) (arguments : List Sequence) (context : Context) (result : Sequence),
      standard.evaluate name arguments context = .ok result →
        ∃ function converted type,
          standard.find? (resolveName name context) arguments.length = some function ∧
          function.signature.convertArguments arguments context = .ok converted ∧
          ResultType.declared? (resolveName name context) = some type ∧
          if type.LacksArgument arguments then result = [] else type.Describes converted result) ∧
      ∀ (name : ExpandedName) (arguments : List Sequence) (context : Context) (function : Function)
        (converted : List Sequence),
        standard.find? (resolveName name context) arguments.length = some function →
        function.signature.convertArguments arguments context = .ok converted →
          ∃ type, ResultType.declared? (resolveName name context) = some type ∧
            (type.LacksArgument arguments → function.body context converted = .ok []) := by
  constructor
  · intro name arguments context result h
    obtain ⟨function, converted, hfind, hconverted, hok⟩ := exists_of_evaluate_eq_ok h
    obtain ⟨type, hdeclared, hlacking, hdescribes⟩ := result_of_find? hfind hconverted
    refine ⟨function, converted, type, hfind, hconverted, hdeclared, ?_⟩
    split
    · next hlacks => exact Except.ok.inj (hok.symm.trans (hlacking hlacks))
    · next hlacks => exact hdescribes hlacks result hok
  · intro name arguments context function converted hfind hconverted
    obtain ⟨type, hdeclared, hlacking, _⟩ := result_of_find? hfind hconverted
    exact ⟨type, hdeclared, hlacking⟩

/-- The absolute value of a node that is typed as a byte leaves the range of bytes, so it is a plain
integer. A date without a time gives nothing. -/
theorem evaluate_conforms_byte :
    let context := Context.Builder.start.build ⟨.startOfDay ⟨2000, 1, 1, by decide⟩, .utc⟩
    let byte : AtomicValue := .integer ⟨.byte, -128, by decide, by decide⟩
    let absolute : Sequence := .single (.integer (.plain 128 (by decide)))
    let day : AtomicValue := .date ⟨⟨2000, 2, 29, by decide⟩, none⟩
    (standard.evaluate (.inFunctions "abs") [[.node (.ofValue byte)]] context = .ok absolute ∧
        ∃ function converted, standard.find? (.inFunctions "abs") 1 = some function ∧
          function.signature.convertArguments [[.node (.ofValue byte)]] context = .ok converted ∧
          ResultType.number.Describes converted absolute) ∧
      ∃ function converted, standard.find? (.inFunctions "dateTime") 2 = some function ∧
        function.signature.convertArguments [.single day, []] context = .ok converted ∧
        function.body context converted = .ok [] := by
  intro context byte absolute day
  have habsolute : standard.evaluate (.inFunctions "abs") [[.node (.ofValue byte)]] context =
      .ok absolute := by decide +kernel
  have hnothing : standard.evaluate (.inFunctions "dateTime") [.single day, []] context =
      .ok [] := by decide +kernel
  have hnumber : ResultType.declared? (.inFunctions "abs") = some .number := by decide +kernel
  have hparts : ResultType.declared? (.inFunctions "dateTime") =
      some (.optional [0, 1] .dateTime) := by decide +kernel
  constructor
  · obtain ⟨function, converted, type, hfind, hconverted, hdeclared, hresult⟩ :=
      evaluate_conforms.1 _ _ _ _ habsolute
    obtain rfl := Option.some.inj (hnumber.symm.trans hdeclared)
    rw [if_neg (by decide +kernel)] at hresult
    exact ⟨habsolute, function, converted, hfind, hconverted, hresult⟩
  · obtain ⟨function, converted, hfind, hconverted, _⟩ := exists_of_evaluate_eq_ok hnothing
    obtain ⟨type, hdeclared, hlacking⟩ := evaluate_conforms.2 _ _ _ _ _ hfind hconverted
    obtain rfl := Option.some.inj (hparts.symm.trans hdeclared)
    exact ⟨function, converted, hfind, hconverted, hlacking (by decide +kernel)⟩

end Library

end XPathValues
