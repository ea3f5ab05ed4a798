import Mathlib.Tactic
import XPathValues.Proofs.Calendar.RoundTrip
import XPathValues.Proofs.Function.StandardForm

/-!
# Result types

What the standard functions are declared to give. Most of them have governing arguments: as soon as
one of these has no values, nothing is given. A body conforms to a result type if it keeps to this
on all arguments that its parameters accept.
-/

namespace XPathValues

open FunctionBody (argument)

inductive ValuePart where
  | zone
  | qualifier
deriving DecidableEq, Repr

def AtomicValue.qualifier? : AtomicValue → Option String
  | qname name => name.qualifier
  | _ => none

def ValuePart.isIn : ValuePart → AtomicValue → Bool
  | zone, v => v.zone?.isSome
  | qualifier, v => v.qualifier?.isSome

/-- The type of a rounded number: the integer types give way to the plain one. -/
def AtomicKind.withPlainInteger : AtomicKind → AtomicKind
  | integer _ => .integer .integer
  | kind => kind

/-- Exactly one item, which is a value of the type. -/
def Sequence.IsOne (kind : AtomicKind) (items : Sequence) : Prop :=
  ∃ v, items = .single v ∧ v.kind = kind

inductive ResultType where
  /-- Always a value of the type. -/
  | one (kind : AtomicKind)
  /-- A value of the type, where the governing arguments have values. -/
  | optional (governing : List Nat) (kind : AtomicKind)
  /-- A part of the first argument, where it has that part. -/
  | part (which : ValuePart) (kind : AtomicKind)
  /-- A number of the type that the first argument has, which governs. -/
  | number
  /-- Any number of values. -/
  | values
deriving DecidableEq, Repr

namespace ResultType

def governing : ResultType → List Nat
  | one _ | values => []
  | optional governing _ => governing
  | part .. | number => [0]

/-- One of the governing arguments has no values. -/
def LacksArgument (type : ResultType) (arguments : List Sequence) : Prop :=
  ∃ position ∈ type.governing, (argument arguments position).atomize = []

instance (type : ResultType) (arguments : List Sequence) :
    Decidable (type.LacksArgument arguments) :=
  inferInstanceAs (Decidable (∃ _ ∈ _, _ = _))

/-- The result for converted arguments of which none is lacking. -/
def Describes (type : ResultType) (converted : List Sequence) (result : Sequence) : Prop :=
  match type with
  | one kind | optional _ kind => result.IsOne kind
  | part which kind =>
    ∃ v, argument converted 0 = .single v ∧
      if which.isIn v then result.IsOne kind else result = []
  | number => ∃ v, argument converted 0 = .single v ∧ result.IsOne v.kind.withPlainInteger
  | values => ∀ item ∈ result, ItemType.anyAtomic.Accepts item

variable {type : ResultType} {arguments converted : List Sequence}

theorem lacksArgument_iff_first (h : type.governing = [0]) :
    type.LacksArgument arguments ↔ (argument arguments 0).atomize = [] := by
  simp [LacksArgument, h]

end ResultType

/-! ## Governing arguments are converted to as little as they have -/

section Conversion

variable {signature : Signature} {parameter : ParameterType} {context : Context}
  {given items : Sequence} {arguments converted : List Sequence} {position : Nat}

theorem ParameterType.Keeps.atomize_eq_nil_iff (hkeeps : parameter.Keeps given items)
    (haccepts : parameter.Accepts items) (hitem : parameter.item ≠ .anyItem) :
    items.atomize = [] ↔ given.atomize = [] := by
  rw [Keeps, if_neg hitem] at hkeeps
  have hlength : given.atomize.length = items.length := hkeeps.length_eq
  have hvalues : items.atomize.length = items.length := by
    conv_rhs => rw [Sequence.eq_ofValues_of_accepts hitem haccepts.items]
    simp [Sequence.ofValues]
  rw [← List.length_eq_zero_iff, hvalues, ← hlength, List.length_eq_zero_iff]

theorem Signature.atomize_argument_eq_nil_iff (hlength : arguments.length = signature.arity)
    (h : signature.convertArguments arguments context = .ok converted)
    (hparameter : signature.parameters[position]? = some parameter)
    (hitem : parameter.item ≠ .anyItem) :
    (argument converted position).atomize = [] ↔ (argument arguments position).atomize = [] := by
  obtain ⟨hposition, rfl⟩ := List.getElem?_eq_some_iff.mp hparameter
  have hgiven : position < arguments.length := by
    rw [hlength]
    exact hposition
  obtain ⟨haccepted, haccepts⟩ :=
    List.forall₂_iff_get.mp (Signature.accepts_of_convertArguments hlength h)
  obtain ⟨_, hkeeps⟩ := List.forall₂_iff_get.mp (Signature.keeps_of_convertArguments h)
  have hconverted : position < converted.length := haccepted ▸ hposition
  have hzip : position < (signature.parameters.zip arguments).length := by
    rw [List.length_zip]
    exact lt_min hposition hgiven
  have hkept := hkeeps position hzip hconverted
  rw [List.get_eq_getElem, List.getElem_zip] at hkept
  have hsame := hkept.atomize_eq_nil_iff (haccepts position hposition hconverted) hitem
  simpa [argument, hgiven, hconverted] using hsame

end Conversion

/-- On arguments that the parameters accept, the body gives nothing where a governing argument is
lacking, and otherwise it only gives what the type describes. -/
structure FunctionBody.Conforms (parameters : List ParameterType) (body : FunctionBody)
    (type : ResultType) : Prop where
  governing : ∀ position ∈ type.governing,
    ∃ parameter, parameters[position]? = some parameter ∧ parameter.item ≠ .anyItem
  lacking : ∀ context converted, List.Forall₂ ParameterType.Accepts parameters converted →
    type.LacksArgument converted → body context converted = .ok []
  describes : ∀ context converted result,
    List.Forall₂ ParameterType.Accepts parameters converted → ¬ type.LacksArgument converted →
      body context converted = .ok result → type.Describes converted result

namespace FunctionBody

variable {parameters : List ParameterType} {body : FunctionBody} {type : ResultType}
  {kind target : AtomicKind}

/-! ## Forms of bodies -/

theorem conforms_of_ungoverned (hgoverning : type.governing = [])
    (h : ∀ context converted result, body context converted = .ok result →
      type.Describes converted result) : Conforms parameters body type where
  governing position hposition := by simp [hgoverning] at hposition
  lacking _ _ _ hlacks := by simp [ResultType.LacksArgument, hgoverning] at hlacks
  describes context converted result _ _ hok := h context converted result hok

/-- A type that the first argument governs. It is enough to look at no value and at one. -/
theorem conforms_of_first {item : ItemType} (hgoverning : type.governing = [0])
    (hitem : item ≠ .anyItem)
    (hnone : ∀ context rest, body context ([] :: rest) = .ok [])
    (hone : ∀ context v rest result, item.Accepts (.atomic v) →
      body context (.single v :: rest) = .ok result →
        type.Describes (.single v :: rest) result) :
    Conforms (⟨item, .zeroOrOne⟩ :: parameters) body type where
  governing position hposition := by
    rw [hgoverning, List.mem_singleton] at hposition
    subst hposition
    exact ⟨_, rfl, hitem⟩
  lacking context converted haccepts hlacks := by
    obtain ⟨items, rest, hitems, _, rfl⟩ := List.forall₂_cons_left_iff.mp haccepts
    rcases hitems.eq_nil_or_single hitem with rfl | ⟨v, rfl, _⟩
    · exact hnone context rest
    · cases (ResultType.lacksArgument_iff_first hgoverning).mp hlacks
  describes context converted result haccepts hlacks hok := by
    obtain ⟨items, rest, hitems, _, rfl⟩ := List.forall₂_cons_left_iff.mp haccepts
    rcases hitems.eq_nil_or_single hitem with rfl | ⟨v, rfl, hv⟩
    · exact absurd ((ResultType.lacksArgument_iff_first hgoverning).mpr rfl) hlacks
    · exact hone context v rest result hv hok

theorem accepts_both {first second : AtomicKind} {converted : List Sequence}
    (h : List.Forall₂ ParameterType.Accepts [.optional first, .optional second] converted) :
    (∃ b, converted = [[], b] ∧ (ParameterType.optional second).Accepts b) ∨
      (∃ v, converted = [Sequence.single v, []] ∧ v.kind.derivesFrom first = true) ∨
      ∃ v w, converted = [Sequence.single v, Sequence.single w] ∧ v.kind.derivesFrom first = true ∧
        w.kind.derivesFrom second = true := by
  obtain ⟨a, _, ha, hrest, rfl⟩ := List.forall₂_cons_left_iff.mp h
  obtain ⟨b, _, hb, hend, rfl⟩ := List.forall₂_cons_left_iff.mp hrest
  obtain rfl := List.forall₂_nil_left_iff.mp hend
  rcases ha.eq_nil_or_single (by simp) with rfl | ⟨v, rfl, hv⟩
  · exact Or.inl ⟨b, rfl, hb⟩
  · rcases hb.eq_nil_or_single (by simp) with rfl | ⟨w, rfl, hw⟩
    · exact Or.inr (Or.inl ⟨v, rfl, hv⟩)
    · exact Or.inr (Or.inr ⟨v, w, rfl, hv, hw⟩)

theorem conforms_of_both {first second : AtomicKind}
    (hfirst : ∀ context b, (ParameterType.optional second).Accepts b →
      body context [[], b] = .ok [])
    (hsecond : ∀ context v, v.kind.derivesFrom first = true →
      body context [.single v, []] = .ok [])
    (hone : ∀ context v w result, v.kind.derivesFrom first = true →
      w.kind.derivesFrom second = true → body context [.single v, .single w] = .ok result →
        result.IsOne kind) :
    Conforms [.optional first, .optional second] body (.optional [0, 1] kind) where
  governing position hposition := by
    rcases List.mem_pair.mp hposition with rfl | rfl
    · exact ⟨_, rfl, by simp [ParameterType.optional]⟩
    · exact ⟨_, rfl, by simp [ParameterType.optional]⟩
  lacking context converted haccepts hlacks := by
    rcases accepts_both haccepts with ⟨b, rfl, hb⟩ | ⟨v, rfl, hv⟩ | ⟨v, w, rfl, _, _⟩
    · exact hfirst context b hb
    · exact hsecond context v hv
    · obtain ⟨position, hposition, hnil⟩ := hlacks
      rcases List.mem_pair.mp hposition with rfl | rfl
      · cases hnil
      · cases hnil
  describes context converted result haccepts hlacks hok := by
    rcases accepts_both haccepts with ⟨b, rfl, _⟩ | ⟨v, rfl, _⟩ | ⟨v, w, rfl, hv, hw⟩
    · exact absurd ⟨0, List.mem_cons_self, rfl⟩ hlacks
    · exact absurd ⟨1, List.mem_cons_of_mem _ List.mem_cons_self, rfl⟩ hlacks
    · exact hone context v w result hv hw hok

/-! ## Bodies -/

section Reading

variable {α : Type} {reader : AtomicValue → Option α}

theorem conforms_tryMap (hgoverning : type.governing = [0]) (hreads : kind.ReadBy reader)
    {f : Context → List Sequence → α → Except Error Sequence}
    (h : ∀ context v rest x result, reader v = some x →
      f context (.single v :: rest) x = .ok result → type.Describes (.single v :: rest) result) :
    Conforms (.optional kind :: parameters) (tryMap kind reader f) type := by
  refine conforms_of_first hgoverning (by simp) (fun _ _ => rfl) ?_
  intro context v rest result hv hok
  obtain ⟨x, hx⟩ := Option.isSome_iff_exists.mp (hreads v hv)
  rw [tryMap_single hx] at hok
  exact h context v rest x result hx hok

theorem conforms_map (hreads : kind.ReadBy reader) {f : α → Sequence}
    (hone : ∀ x, (f x).IsOne target) :
    Conforms [.optional kind] (map kind reader f) (.optional [0] target) := by
  refine conforms_tryMap rfl hreads ?_
  intro context v rest x result hx hok
  obtain rfl := Except.ok.inj hok
  exact hone x

theorem conforms_map_part {which : ValuePart} (hreads : kind.ReadBy reader) {f : α → Sequence}
    (hpart : ∀ v x, reader v = some x →
      if which.isIn v then (f x).IsOne target else f x = []) :
    Conforms [.optional kind] (map kind reader f) (.part which target) := by
  refine conforms_tryMap rfl hreads ?_
  intro context v rest x result hx hok
  obtain rfl := Except.ok.inj hok
  exact ⟨v, rfl, hpart v x hx⟩

end Reading

end FunctionBody

namespace Sequence

variable {kind : AtomicKind}

theorem isOne_single {v : AtomicValue} (h : v.kind = kind) : (single v).IsOne kind :=
  ⟨v, rfl, h⟩

theorem isOne_ofInteger (n : ℤ) (h : n.natAbs ≤ 79228162514264337593543950335) :
    (ofInteger n h).IsOne (.integer .integer) :=
  isOne_single rfl

theorem isOne_ofText (text : String) : (ofText text).IsOne .string :=
  isOne_single rfl

theorem isOne_of_map_single {x : Except Error AtomicValue} {result : Sequence}
    (hkind : ∀ v, x = .ok v → v.kind = kind) (h : x.map single = .ok result) :
    result.IsOne kind := by
  obtain ⟨v, hv, rfl⟩ := exists_of_map_eq_ok h
  exact isOne_single (hkind v hv)

theorem ofZone_of_zone? {v : AtomicValue} {zone : Option Timezone} (h : v.zone? = zone) :
    if ValuePart.zone.isIn v then (ofZone zone).IsOne .dayTimeDuration else ofZone zone = [] := by
  subst h
  cases hzone : v.zone? with
  | none => simp [ValuePart.isIn, hzone, ofZone]
  | some zone =>
    simp only [ValuePart.isIn, hzone, Option.isSome_some, if_true]
    exact isOne_single rfl

theorem qualifierOf_of_qualifier? {v : AtomicValue} {name : QName} (h : v.asQName? = some name) :
    if ValuePart.qualifier.isIn v then (qualifierOf name).IsOne .string
    else qualifierOf name = [] := by
  cases v <;> cases h
  cases hqualifier : name.qualifier with
  | none => simp [ValuePart.isIn, AtomicValue.qualifier?, qualifierOf, hqualifier]
  | some qualifier =>
    simp only [ValuePart.isIn, AtomicValue.qualifier?, qualifierOf, hqualifier,
      Option.isSome_some, if_true]
    exact isOne_ofText qualifier

end Sequence

namespace NumericRule

/-- Whatever integer is given, the rule answers with a plain one. -/
def GivesPlainIntegers (rule : NumericRule) : Prop :=
  ∀ i j, rule.onInteger i = .ok j → j.kind = .integer

theorem kind_of_orError_plain? {n : ℤ} {e : Error} {j : Integer}
    (h : orError e (Integer.plain? n) = .ok j) : j.kind = .integer :=
  (Integer.plain?_eq_some_iff.mp (eq_some_of_orError h)).1

theorem kind_of_keepInteger {i j : Integer} (h : keepInteger i = .ok j) : j.kind = .integer := by
  obtain rfl := Except.ok.inj h
  rfl

theorem givesPlainIntegers_absolute : absolute.GivesPlainIntegers :=
  fun _ _ => kind_of_orError_plain?

theorem givesPlainIntegers_ceiling : ceiling.GivesPlainIntegers :=
  fun _ _ => kind_of_keepInteger

theorem givesPlainIntegers_floor : floor.GivesPlainIntegers :=
  fun _ _ => kind_of_keepInteger

theorem givesPlainIntegers_round : round.GivesPlainIntegers :=
  fun _ _ => kind_of_keepInteger

theorem givesPlainIntegers_roundHalfToEven (precision : ℤ) :
    (roundHalfToEven precision).GivesPlainIntegers := by
  intro i j h
  change roundIntegerToEven i precision = .ok j at h
  unfold roundIntegerToEven at h
  split at h
  · exact kind_of_keepInteger h
  · split at h
    · obtain rfl := Except.ok.inj h
      rfl
    · obtain ⟨count, _, hplain⟩ := Option.bind_eq_some_iff.mp (eq_some_of_orError h)
      exact (Integer.plain?_eq_some_iff.mp hplain).1

theorem kind_of_apply {rule : NumericRule} {v w : AtomicValue} (hrule : rule.GivesPlainIntegers)
    (h : rule.apply v = .ok w) : w.kind = v.kind.withPlainInteger := by
  cases v with
  | integer i =>
    obtain ⟨j, hj, rfl⟩ := exists_of_map_eq_ok h
    exact congrArg AtomicKind.integer (hrule i j hj)
  | decimal d =>
    obtain ⟨e, _, rfl⟩ := exists_of_map_eq_ok h
    rfl
  | float x | double x =>
    obtain rfl := Except.ok.inj h
    rfl
  | _ => cases h

end NumericRule

namespace FunctionBody

variable {parameters : List ParameterType}

theorem conforms_construct (kind : AtomicKind) :
    Conforms [⟨.anyAtomic, .zeroOrOne⟩] (construct kind) (.optional [0] kind) := by
  refine conforms_of_first rfl (by simp) (fun _ _ => rfl) ?_
  intro context v rest result _ hok
  exact Sequence.isOne_of_map_single (fun _ => AtomicValue.kind_cast) hok

/-- The rule may depend on the arguments, as it does on a precision. -/
theorem conforms_numericBy {rule : List Sequence → NumericRule}
    (hrule : ∀ arguments, (rule arguments).GivesPlainIntegers) :
    Conforms (⟨.numeric, .zeroOrOne⟩ :: parameters)
      (fun context arguments => numeric (rule arguments) context arguments) .number := by
  refine conforms_of_first rfl (by simp) (fun _ _ => rfl) ?_
  intro context v rest result _ hok
  exact ⟨v, rfl, Sequence.isOne_of_map_single (fun _ => NumericRule.kind_of_apply (hrule _)) hok⟩

theorem conforms_numeric {rule : NumericRule} (hrule : rule.GivesPlainIntegers) :
    Conforms (⟨.numeric, .zeroOrOne⟩ :: parameters) (numeric rule) .number :=
  conforms_numericBy fun _ => hrule

theorem conforms_roundHalfToEven :
    Conforms (⟨.numeric, .zeroOrOne⟩ :: parameters) roundHalfToEven .number :=
  conforms_numericBy fun _ => NumericRule.givesPlainIntegers_roundHalfToEven _

theorem conforms_adjustDateTime :
    Conforms (.optional .dateTime :: parameters) adjustDateTime (.optional [0] .dateTime) := by
  refine conforms_tryMap rfl AtomicValue.readBy_asDateTimeOnly? ?_
  intro context v rest x result _ hok
  obtain ⟨target, _, hok⟩ := exists_of_bind_eq_ok hok
  obtain ⟨adjusted, _, hok⟩ := exists_of_bind_eq_ok hok
  obtain rfl := Except.ok.inj hok
  exact Sequence.isOne_single rfl

theorem conforms_adjustDate :
    Conforms (.optional .date :: parameters) adjustDate (.optional [0] .date) := by
  refine conforms_tryMap rfl AtomicValue.readBy_asDate? ?_
  intro context v rest x result _ hok
  obtain ⟨target, _, hok⟩ := exists_of_bind_eq_ok hok
  obtain ⟨adjusted, _, hok⟩ := exists_of_bind_eq_ok hok
  obtain rfl := Except.ok.inj hok
  exact Sequence.isOne_single rfl

theorem conforms_adjustTime :
    Conforms (.optional .time :: parameters) adjustTime (.optional [0] .time) := by
  refine conforms_tryMap rfl AtomicValue.readBy_asTime? ?_
  intro context v rest x result _ hok
  obtain ⟨target, _, hok⟩ := exists_of_bind_eq_ok hok
  obtain rfl := Except.ok.inj hok
  exact Sequence.isOne_single rfl

theorem dateTimeOfParts_singles (context : Context) {v w : AtomicValue} {date : Date}
    {time : Time} (hdate : v.asDate? = some date) (htime : w.asTime? = some time) :
    dateTimeOfParts context [.single v, .single w] =
      DateTime.ofDateAndTime date time >>= fun x => .ok (.single (.dateTime x)) := by
  change ((Sequence.single v).expect .date AtomicValue.asDate? >>= fun _ =>
    (Sequence.single w).expect .time AtomicValue.asTime? >>= _) = _
  rw [expect_single hdate, expect_single htime]
  rfl

theorem conforms_dateTimeOfParts :
    Conforms [.optional .date, .optional .time] dateTimeOfParts (.optional [0, 1] .dateTime) := by
  refine conforms_of_both ?_ ?_ ?_
  · intro context b hb
    change (b.expect .time AtomicValue.asTime? >>= fun _ => .ok []) = _
    rw [Sequence.expect_of_accepts AtomicValue.readBy_asTime? hb]
    rfl
  · intro context v hv
    obtain ⟨date, hdate⟩ := Option.isSome_iff_exists.mp (AtomicValue.readBy_asDate? v hv)
    change ((Sequence.single v).expect .date AtomicValue.asDate? >>= _) = _
    rw [expect_single hdate]
    rfl
  · intro context v w result hv hw hok
    obtain ⟨date, hdate⟩ := Option.isSome_iff_exists.mp (AtomicValue.readBy_asDate? v hv)
    obtain ⟨time, htime⟩ := Option.isSome_iff_exists.mp (AtomicValue.readBy_asTime? w hw)
    rw [dateTimeOfParts_singles context hdate htime] at hok
    obtain ⟨x, _, hok⟩ := exists_of_bind_eq_ok hok
    obtain rfl := Except.ok.inj hok
    exact Sequence.isOne_single rfl

theorem conforms_orderOfTexts :
    Conforms [.optional .string, .optional .string] orderOfTexts
      (.optional [0, 1] (.integer .integer)) := by
  refine conforms_of_both (fun _ _ _ => rfl) (fun _ _ _ => rfl) ?_
  intro context v w result _ _ hok
  obtain rfl := Except.ok.inj hok
  cases compareTexts v.text w.text <;> exact Sequence.isOne_single rfl

theorem conforms_ofContext {kind : AtomicKind} {f : Context → AtomicValue}
    (hkind : ∀ context, (f context).kind = kind) :
    Conforms parameters (fun context _ => .ok (.single (f context))) (.one kind) := by
  refine conforms_of_ungoverned rfl ?_
  intro context converted result hok
  obtain rfl := Except.ok.inj hok
  exact Sequence.isOne_single (hkind context)

theorem conforms_text : Conforms parameters text (.one .string) := by
  refine conforms_of_ungoverned rfl ?_
  intro context converted result hok
  obtain rfl := Except.ok.inj hok
  exact Sequence.isOne_ofText _

theorem conforms_values : Conforms parameters values .values := by
  refine conforms_of_ungoverned rfl ?_
  intro context converted result hok
  obtain rfl := Except.ok.inj hok
  exact List.forall_mem_map.mpr fun _ _ => trivial

theorem conforms_truth : Conforms parameters truth (.one .boolean) := by
  refine conforms_of_ungoverned rfl ?_
  intro context converted result hok
  obtain ⟨b, _, rfl⟩ := exists_of_map_eq_ok hok
  exact Sequence.isOne_single rfl

theorem conforms_makeQName : Conforms parameters makeQName (.one .qname) := by
  refine conforms_of_ungoverned rfl ?_
  intro context converted result hok
  unfold makeQName at hok
  dsimp only at hok
  split at hok
  · cases hok
  · split_ifs at hok
    all_goals
      obtain rfl := Except.ok.inj hok
      exact Sequence.isOne_single rfl

end FunctionBody

end XPathValues
