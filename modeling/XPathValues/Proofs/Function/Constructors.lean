import Mathlib.Tactic
import XPathValues.Proofs.Function.Registration

/-!
# Ways to read a text

A value can be made from a text in several ways: by reading it, by a cast of a string or of an
untyped value, and by the constructor of the type, which is given either of these or a node. All of
them come down to the one reading. Only qualified names depend on bindings, and no untyped value is
cast to one.
-/

namespace XPathValues

namespace Function

def standardFunctions : List Function :=
  constructors ++ calendarFunctions ++ durationFunctions ++ numericFunctions ++ nameFunctions ++
    itemFunctions

theorem mem_standardFunctions_iff {function : Function} :
    function ∈ standardFunctions ↔
      function ∈ constructors ∨ function ∈ calendarFunctions ∨ function ∈ durationFunctions ∨
        function ∈ numericFunctions ∨ function ∈ nameFunctions ∨ function ∈ itemFunctions := by
  simp only [standardFunctions, List.mem_append, or_assoc]

end Function

namespace Library

variable {function : Function} {functions : List Function}

theorem filter_key_eq_singleton (hdistinct : (functions.map Function.key).Nodup)
    (hmem : function ∈ functions) :
    (functions.filter fun other => other.key == function.key) = [function] := by
  induction functions with
  | nil => exact absurd hmem List.not_mem_nil
  | cons first rest ih =>
    obtain ⟨hfirst, hrest⟩ := List.nodup_cons.mp hdistinct
    rcases List.mem_cons.mp hmem with rfl | hmem
    · have hnone : (rest.filter fun other => other.key == function.key) = [] := by
        refine List.filter_eq_nil_iff.mpr fun other hother hkey => hfirst ?_
        exact eq_of_beq hkey ▸ List.mem_map_of_mem hother
      rw [List.filter_cons, if_pos (beq_self_eq_true _), hnone]
    · have hkey : ¬ (first.key == function.key) = true := fun hkey =>
        hfirst (eq_of_beq hkey ▸ List.mem_map_of_mem hmem)
      rw [List.filter_cons, if_neg hkey, ih hrest hmem]

theorem find?_ofList (function : Function) (hdistinct : (functions.map Function.key).Nodup)
    (hmem : function ∈ functions) :
    (ofList functions).find? function.key.1 function.key.2 = some function := by
  have hlast := congrFun (find?_foldl_register functions empty) function.key
  rw [lastRegistered, filter_key_eq_singleton hdistinct hmem] at hlast
  exact hlast

/-- The standard library has every function that it is made from, since their keys are distinct. -/
theorem find?_standard_of_mem (function : Function) (h : function ∈ Function.standardFunctions) :
    standard.find? function.key.1 function.key.2 = some function :=
  find?_ofList function (by decide +kernel) h

theorem evaluate_of_accepts (function : Function) (context : Context) {arguments : List Sequence}
    (hmem : function ∈ Function.standardFunctions)
    (hname : resolveName function.signature.name context = function.signature.name)
    (haccepts : List.Forall₂ ParameterType.Accepts function.signature.parameters arguments) :
    standard.evaluate function.signature.name arguments context =
      function.body context arguments := by
  have hfind : standard.find? function.signature.name arguments.length = some function := by
    rw [← haccepts.length_eq]
    exact find?_standard_of_mem function hmem
  simp only [evaluate, hname, hfind]
  rw [Function.call, Signature.convertArguments, Signature.convertFrom_of_accepts haccepts]
  rfl

theorem evaluate_map {α : Type} {name : String} {kind : AtomicKind}
    {reader : AtomicValue → Option α} {f : α → Sequence} {v : AtomicValue} {x : α}
    (context : Context)
    (hmem : Function.standard name [.optional kind] (.map kind reader f) ∈
      Function.standardFunctions)
    (hkind : v.kind.derivesFrom kind = true) (hx : reader v = some x) :
    standard.evaluate (.inFunctions name) [.single v] context = .ok (f x) := by
  have haccepts : (ParameterType.optional kind).Accepts (.single v) :=
    ParameterType.accepts_single rfl hkind
  have hevaluate := evaluate_of_accepts _ context hmem rfl (.cons haccepts .nil)
  exact hevaluate.trans (FunctionBody.map_single context hx)

theorem find?_standard_constructor (kind : AtomicKind) :
    standard.find? kind.expandedName 1 = some (Function.constructor kind) := by
  have hconstructor : Function.constructor kind ∈ Function.constructors :=
    List.mem_map_of_mem kind.mem_all
  exact find?_standard_of_mem (Function.constructor kind)
    (Function.mem_standardFunctions_iff.mpr (.inl hconstructor))

theorem resolveName_expandedName (kind : AtomicKind) (context : Context) :
    resolveName kind.expandedName context = kind.expandedName := by
  unfold resolveName
  split
  · next hnone _ => cases hnone
  · rfl

variable {kind : AtomicKind} {context : Context} {argument : Sequence} {v : AtomicValue}

/-- The constructor of a type is a cast with the namespaces of the context. -/
theorem evaluate_constructor (h : argument.atomize = [v]) :
    standard.evaluate kind.expandedName [argument] context =
      (v.cast kind context.namespaces).map .single := by
  have hconverted : (Function.constructor kind).signature.convertArguments [argument] context =
      .ok [.single v] := by
    have hvalues : List.Forall₂ (fun v w => (Function.constructor kind).signature.convertValue 0
        ⟨.anyAtomic, .zeroOrOne⟩ context.namespaces v = .ok w) argument.atomize [v] := by
      rw [h]
      exact .cons rfl .nil
    have hargument : (Function.constructor kind).signature.convertArgument 0
        ⟨.anyAtomic, .zeroOrOne⟩ context.namespaces argument = .ok (.single v) :=
      (Signature.convertArgument_values (by decide)).mpr ⟨by rw [h]; rfl, [v], rfl, hvalues⟩
    change Signature.convertFrom _ _ _ [_] _ = _
    rw [Signature.convertFrom, hargument]
    rfl
  have hfind := find?_standard_constructor kind
  simp only [evaluate, resolveName_expandedName, List.length_singleton, hfind]
  rw [Function.call, hconverted]
  rfl

end Library

namespace AtomicValue

variable {kind : AtomicKind} {given : String} {bindings other : Bindings}

theorem read_eq_of_ne_qname (h : kind ≠ .qname) :
    read kind given bindings = read kind given other := by
  cases kind with
  | qname => exact absurd rfl h
  | _ => rfl

theorem castRule_string (kind : AtomicKind) :
    castRule .string kind =
      if kind = .string then .identity else if kind = .untypedAtomic then .toText else .parse := by
  cases kind <;> rfl

theorem castRule_untypedAtomic (kind : AtomicKind) :
    castRule .untypedAtomic kind =
      if kind = .untypedAtomic then .identity else if kind = .string then .toText
      else if kind = .qname then .forbidden else .parse := by
  cases kind <;> rfl

theorem cast_string (given : String) (kind : AtomicKind) (bindings : Bindings) :
    (string given).cast kind bindings = read kind given bindings := by
  have hrule := castRule_string kind
  split_ifs at hrule with hstring huntyped
  · subst hstring
    exact cast_of_identity hrule
  · subst huntyped
    exact cast_of_toText hrule
  · exact cast_of_parse hrule

/-- What an untyped text gives: the reading, but for qualified names. -/
def readUntyped (kind : AtomicKind) (given : String) (bindings : Bindings) :
    Except Error AtomicValue :=
  if kind = .qname then .error (.illegalCast .untypedAtomic .qname) else read kind given bindings

theorem cast_untypedAtomic (given : String) (kind : AtomicKind) (bindings : Bindings) :
    (untypedAtomic given).cast kind bindings = readUntyped kind given bindings := by
  have hrule := castRule_untypedAtomic kind
  unfold readUntyped
  split_ifs at hrule with huntyped hstring hqname
  · subst huntyped
    exact cast_of_identity hrule
  · subst hstring
    exact cast_of_toText hrule
  · subst hqname
    exact cast_of_forbidden hrule
  · rw [if_neg hqname]
    exact cast_of_parse hrule

/-- Every way to make a value of the type from the text, with the bindings or in the context, gives
the same value or the same failure. -/
structure ReadingsAgree (kind : AtomicKind) (given : String) (bindings : Bindings)
    (context : Context) : Prop where
  castText : (string given).cast kind bindings = read kind given bindings
  castUntyped : (untypedAtomic given).cast kind bindings = readUntyped kind given bindings
  constructText : Library.standard.evaluate kind.expandedName [.single (.string given)] context =
    (read kind given bindings).map .single
  constructUntyped :
    Library.standard.evaluate kind.expandedName [.single (.untypedAtomic given)] context =
      (readUntyped kind given bindings).map .single
  constructNode :
    Library.standard.evaluate kind.expandedName [[.node (.ofText given)]] context =
      (readUntyped kind given bindings).map .single

/-- All readings agree where the bindings are those of the context; for every type but that of
qualified names the bindings do not matter at all. -/
theorem readingsAgree {context : Context} (h : kind ≠ .qname ∨ bindings = context.namespaces) :
    ReadingsAgree kind given bindings context := by
  have hread : read kind given context.namespaces = read kind given bindings := by
    rcases h with hkind | rfl
    · exact read_eq_of_ne_qname hkind
    · rfl
  have huntyped : readUntyped kind given context.namespaces = readUntyped kind given bindings := by
    rw [readUntyped, hread, ← readUntyped]
  refine ⟨cast_string .., cast_untypedAtomic .., ?_, ?_, ?_⟩
  · rw [Library.evaluate_constructor (v := string given) rfl, cast_string, hread]
  · rw [Library.evaluate_constructor (v := untypedAtomic given) rfl, cast_untypedAtomic, huntyped]
  · rw [Library.evaluate_constructor (v := untypedAtomic given) rfl, cast_untypedAtomic, huntyped]

/-- A date with spaces around it, which the date drops and a string keeps, and a name whose
qualifier is bound in the context only. -/
theorem readingsAgree_spaces :
    let reading : ClockReading := ⟨.startOfDay ⟨2000, 1, 1, by decide⟩, .utc⟩
    let context := (Context.Builder.start.withNamespace "p" "urn:p").build reading
    ((AtomicKind.date ≠ .qname ∨ Bindings.empty = context.namespaces) ∧
        ReadingsAgree .date " 2000-02-29 " .empty context ∧
        read .date " 2000-02-29 " .empty = .ok (date ⟨⟨2000, 2, 29, by decide⟩, none⟩)) ∧
      ((AtomicKind.string ≠ .qname ∨ Bindings.empty = context.namespaces) ∧
        ReadingsAgree .string " 2000-02-29 " .empty context ∧
        read .string " 2000-02-29 " .empty = .ok (string " 2000-02-29 ")) ∧
      (AtomicKind.qname ≠ .qname ∨ context.namespaces = context.namespaces) ∧
        ReadingsAgree .qname "p:a" context.namespaces context ∧
        read .qname "p:a" context.namespaces = .ok (qname ⟨some "urn:p", some "p", "a"⟩) := by
  intro reading context
  have hdate : AtomicKind.date ≠ .qname ∨ Bindings.empty = context.namespaces := Or.inl (by decide)
  have hstring : AtomicKind.string ≠ .qname ∨ Bindings.empty = context.namespaces :=
    Or.inl (by decide)
  have hqname : AtomicKind.qname ≠ .qname ∨ context.namespaces = context.namespaces := Or.inr rfl
  exact ⟨⟨hdate, readingsAgree hdate, by decide +kernel⟩,
    ⟨hstring, readingsAgree hstring, by decide +kernel⟩,
    hqname, readingsAgree hqname, by decide +kernel⟩

end AtomicValue

end XPathValues
