import Mathlib.Tactic
import XPathValues.Proofs.Function.Conversion

/-!
# Why arguments do not convert

The first argument with a fault decides how a call fails. A wrong number of items is a fault
whatever the items are; else the first item with a fault decides. An item has one if it is not of
the declared type and its cast to that type fails. That failure is reported as it is for an untyped
item, and as the reason of a mismatch for every other one. Numbers and URIs that are promoted have
no fault.
-/

namespace XPathValues

namespace ItemType

/-- A value of the first type is not of the declared type and must be cast to the second. -/
inductive Demands : ItemType → AtomicKind → AtomicKind → Prop
  | numeric {kind} (h : kind.isNumeric = false) : Demands numeric kind .double
  | atomic {kind target} (h : kind.derivesFrom target = false) : Demands (atomic target) kind target

variable {item : ItemType} {kind target : AtomicKind}

theorem castTarget?_eq_some_iff :
    item.castTarget? kind = some target ↔ item.Demands kind target := by
  constructor
  · intro h
    unfold castTarget? at h
    split at h
    · cases h
    · cases h
    · split at h
      · cases h
      · next hkind =>
        obtain rfl := Option.some.inj h
        exact .numeric (Bool.eq_false_of_not_eq_true hkind)
    · split at h
      · cases h
      · next hkind =>
        obtain rfl := Option.some.inj h
        exact .atomic (Bool.eq_false_of_not_eq_true hkind)
  · rintro (h | h)
    · simp [castTarget?, h]
    · simp [castTarget?, h]

end ItemType

theorem AtomicValue.exists_cast_of_promotesTo {v : AtomicValue} {target : AtomicKind}
    (bindings : Bindings) (h : v.kind.promotesTo target = true) :
    ∃ w, v.cast target bindings = .ok w := by
  cases v <;> cases target <;> cases h <;> exact ⟨_, rfl⟩

/-- The number of items of an argument: nodes are counted where items are declared, and else the
values that stand for them. -/
def ParameterType.countOf (parameter : ParameterType) (argument : Sequence) : ℕ :=
  if parameter.item = .anyItem then argument.length else argument.atomize.length

namespace Signature

/-- What is wrong with a value of the argument at a position. -/
inductive ValueFault (signature : Signature) (bindings : Bindings) (position : ℕ)
    (parameter : ParameterType) (v : AtomicValue) : Error → Prop
  | untyped {target e} (hdemands : parameter.item.Demands v.kind target)
      (huntyped : v.isUntyped = true) (hcast : v.cast target bindings = .error e) :
      ValueFault signature bindings position parameter v e
  | mismatch {target reason} (hdemands : parameter.item.Demands v.kind target)
      (htyped : v.isUntyped = false) (hcast : v.cast target bindings = .error reason) :
      ValueFault signature bindings position parameter v
        (.wrongArgument position signature.name parameter v.kind reason)

/-- What is wrong with the argument at a position. -/
inductive ArgumentFault (signature : Signature) (bindings : Bindings) (position : ℕ)
    (parameter : ParameterType) (argument : Sequence) : Error → Prop
  | count (h : parameter.occurrence.admits (parameter.countOf argument) = false) :
      ArgumentFault signature bindings position parameter argument
        (.wrongCount position signature.name parameter (parameter.countOf argument))
  | value {e} (hcount : parameter.occurrence.admits (parameter.countOf argument) = true)
      (hfirst : FirstFailure
        (fun place e => ∃ v ∈ argument.atomize[place]?,
          signature.ValueFault bindings position parameter v e) e) :
      ArgumentFault signature bindings position parameter argument e

variable {signature : Signature} {position : ℕ} {parameter : ParameterType} {bindings : Bindings}
  {v : AtomicValue} {target : AtomicKind} {argument : Sequence} {e : Error}

/-- Only the cast of an untyped value fails as it is, since no promotion fails. -/
theorem convertValue_eq_error_of_demands (hdemands : parameter.item.Demands v.kind target) :
    signature.convertValue position parameter bindings v = .error e ↔
      ∃ reason, v.cast target bindings = .error reason ∧
        e = if v.isUntyped then reason
          else .wrongArgument position signature.name parameter v.kind reason := by
  simp only [convertValue, ItemType.castTarget?_eq_some_iff.mpr hdemands]
  cases hcast : v.cast target bindings with
  | ok w => simp
  | error reason =>
    have hpromotes : v.kind.promotesTo target = false := by
      refine Bool.eq_false_of_not_eq_true fun h => ?_
      obtain ⟨w, hw⟩ := AtomicValue.exists_cast_of_promotesTo bindings h
      cases hcast.symm.trans hw
    cases v.isUntyped <;> simp [hpromotes, eq_comm]

theorem convertValue_eq_error_iff :
    signature.convertValue position parameter bindings v = .error e ↔
      signature.ValueFault bindings position parameter v e := by
  constructor
  · intro h
    cases htarget : parameter.item.castTarget? v.kind with
    | none =>
      simp only [convertValue, htarget] at h
      cases h
    | some target =>
      have hdemands := ItemType.castTarget?_eq_some_iff.mp htarget
      obtain ⟨reason, hcast, rfl⟩ := (convertValue_eq_error_of_demands hdemands).mp h
      cases huntyped : v.isUntyped with
      | true => exact .untyped hdemands huntyped hcast
      | false => exact .mismatch hdemands huntyped hcast
  · rintro (⟨hdemands, huntyped, hcast⟩ | ⟨hdemands, htyped, hcast⟩)
    · exact (convertValue_eq_error_of_demands hdemands).mpr ⟨e, hcast, (if_pos huntyped).symm⟩
    · exact (convertValue_eq_error_of_demands hdemands).mpr ⟨_, hcast, by rw [htyped]; rfl⟩

theorem not_valueFault_of_anyItem (hitem : parameter.item = .anyItem) :
    ¬ signature.ValueFault bindings position parameter v e := by
  rintro (⟨hdemands, _, _⟩ | ⟨hdemands, _, _⟩) <;> rw [hitem] at hdemands <;> cases hdemands

theorem convertArgument_of_miscount
    (h : parameter.occurrence.admits (parameter.countOf argument) = false) :
    signature.convertArgument position parameter bindings argument =
      .error (.wrongCount position signature.name parameter (parameter.countOf argument)) := by
  unfold convertArgument
  unfold ParameterType.countOf at h ⊢
  split_ifs at h ⊢ <;> simp only [checkCount, h] <;> rfl

theorem convertArgument_of_count (hitem : parameter.item ≠ .anyItem)
    (h : parameter.occurrence.admits (parameter.countOf argument) = true) :
    signature.convertArgument position parameter bindings argument =
      (argument.atomize.mapM (signature.convertValue position parameter bindings)).map
        .ofValues := by
  rw [ParameterType.countOf, if_neg hitem] at h
  rw [convertArgument, if_neg hitem]
  simp only [checkCount, h]
  rfl

/-- A wrong count decides; else the values fail where the first of them does. -/
theorem convertArgument_eq_error_iff :
    signature.convertArgument position parameter bindings argument = .error e ↔
      signature.ArgumentFault bindings position parameter argument e := by
  constructor
  · intro h
    cases hcount : parameter.occurrence.admits (parameter.countOf argument) with
    | false =>
      rw [convertArgument_of_miscount hcount] at h
      obtain rfl := Except.error.inj h
      exact .count hcount
    | true =>
      by_cases hitem : parameter.item = .anyItem
      · rw [ParameterType.countOf, if_pos hitem] at hcount
        cases h.symm.trans ((convertArgument_anyItem hitem).mpr ⟨hcount, rfl⟩)
      · rw [convertArgument_of_count hitem hcount] at h
        have hfirst := mapM_eq_error_iff.mp (eq_error_of_map h)
        simp only [convertValue_eq_error_iff] at hfirst
        exact .value hcount hfirst
  · rintro (hcount | ⟨hcount, hfirst⟩)
    · exact convertArgument_of_miscount hcount
    · have hitem : parameter.item ≠ .anyItem := by
        obtain ⟨_, ⟨_, _, hfault⟩, _⟩ := hfirst
        exact fun hitem => not_valueFault_of_anyItem hitem hfault
      have hvalues : argument.atomize.mapM (signature.convertValue position parameter bindings) =
          .error e := by
        simpa only [mapM_eq_error_iff, convertValue_eq_error_iff] using hfirst
      rw [convertArgument_of_count hitem hcount, hvalues]
      rfl

variable {arguments : List Sequence} {parameters : List ParameterType}

/-- What is wrong with the argument at a position of a call. -/
def FaultAt (signature : Signature) (bindings : Bindings) (arguments : List Sequence)
    (position : ℕ) (e : Error) : Prop :=
  ∃ parameter ∈ signature.parameters[position]?, ∃ argument ∈ arguments[position]?,
    signature.ArgumentFault bindings position parameter argument e

theorem convertFrom_eq_error_iff :
    signature.convertFrom bindings position parameters arguments = .error e ↔
      FirstFailure
        (fun place e => ∃ parameter ∈ parameters[place]?, ∃ argument ∈ arguments[place]?,
          signature.ArgumentFault bindings (position + place) parameter argument e) e := by
  induction parameters generalizing position arguments with
  | nil =>
    refine iff_of_false nofun ?_
    rintro ⟨place, ⟨parameter, hparameter, _⟩, _⟩
    simp at hparameter
  | cons parameter parameters ih =>
    cases arguments with
    | nil =>
      refine iff_of_false nofun ?_
      rintro ⟨place, ⟨_, _, argument, hargument, _⟩, _⟩
      simp at hargument
    | cons argument arguments =>
      rw [convertFrom, cons_eq_error_iff, firstFailure_iff, ih]
      simp [convertArgument_eq_error_iff, Nat.add_assoc, Nat.add_comm 1]

/-- A call whose arguments do not convert fails like its leftmost argument at fault. A count that is
not allowed is an error of types of its own category, whatever the items are. A value is at fault
if it is not of the declared type and does not cast to it: the error is that of the cast for an
untyped value, and else a mismatch that has it as its reason. What is promoted is never at fault. -/
theorem conversion_failure (signature : Signature) (arguments : List Sequence)
    (context : Context) :
    (∀ e, signature.convertArguments arguments context = .error e ↔
        FirstFailure (signature.FaultAt context.namespaces arguments) e) ∧
      ((∃ e, signature.convertArguments arguments context = .error e) ↔
        ∃ position e, signature.FaultAt context.namespaces arguments position e) ∧
      (∀ position parameter argument e,
        signature.ArgumentFault context.namespaces position parameter argument e →
          parameter.occurrence.admits (parameter.countOf argument) = false →
          e.code = .XPTY0004 ∧ e.category = .cardinality) ∧
      (∀ position parameter v e,
        signature.ValueFault context.namespaces position parameter v e →
          ∃ target reason, parameter.item.Demands v.kind target ∧
            v.cast target context.namespaces = .error reason ∧
            (v.isUntyped = true → e = reason) ∧
            (v.isUntyped = false →
              e.code = .XPTY0004 ∧ e.category = .type ∧ e.reason? = some reason)) ∧
      ∀ position parameter v target, parameter.item.Demands v.kind target →
        v.kind.promotesTo target = true →
          ∃ w, signature.convertValue position parameter context.namespaces v = .ok w ∧
            w.kind = target := by
  have hconvert (e : Error) : signature.convertArguments arguments context = .error e ↔
      FirstFailure (signature.FaultAt context.namespaces arguments) e := by
    rw [convertArguments, convertFrom_eq_error_iff]
    simp only [Nat.zero_add]
    rfl
  refine ⟨hconvert, ?_, ?_, ?_, ?_⟩
  · simp only [hconvert, exists_firstFailure_iff]
  · rintro position parameter argument e (_ | ⟨hcount, _⟩) hmiscount
    · exact ⟨rfl, rfl⟩
    · cases hmiscount.symm.trans hcount
  · rintro position parameter v e (⟨hdemands, huntyped, hcast⟩ | ⟨hdemands, htyped, hcast⟩)
    · refine ⟨_, e, hdemands, hcast, fun _ => rfl, fun htyped => ?_⟩
      cases huntyped.symm.trans htyped
    · refine ⟨_, _, hdemands, hcast, fun huntyped => ?_, fun _ => ⟨rfl, rfl, rfl⟩⟩
      cases htyped.symm.trans huntyped
  · intro position parameter v target hdemands hpromotes
    obtain ⟨w, hw⟩ := AtomicValue.exists_cast_of_promotesTo context.namespaces hpromotes
    refine ⟨w, ?_, AtomicValue.kind_cast hw⟩
    simp only [convertValue, ItemType.castTarget?_eq_some_iff.mpr hdemands, hpromotes,
      Bool.or_true, if_true, hw]

/-- The second of three arguments is no date. The third has no items where one is required, which is
not reported. An integer is promoted for the first. -/
theorem conversion_failure_secondArgument :
    let reading : ClockReading := ⟨.startOfDay ⟨2000, 1, 1, by decide⟩, .utc⟩
    let context := Context.Builder.start.build reading
    let signature : Signature :=
      ⟨.inFunctions "f", [⟨.atomic .double, .zeroOrMore⟩, .optional .date, .single .string]⟩
    let one : AtomicValue := .integer (.plain 1 (by decide))
    let arguments : List Sequence := [.single one, .single (.string "x"), []]
    let e : Error := .wrongArgument 1 (.inFunctions "f") (.optional .date) .string
      (.invalidLexical .date "x")
    signature.convertArguments arguments context = .error e ∧
      FirstFailure (signature.FaultAt context.namespaces arguments) e ∧
      ((ItemType.atomic .double).Demands one.kind .double ∧
        one.kind.promotesTo .double = true) ∧
      ∃ w, signature.convertValue 0 ⟨.atomic .double, .zeroOrMore⟩ context.namespaces one = .ok w ∧
        w.kind = .double := by
  intro reading context signature one arguments e
  have hconvert : signature.convertArguments arguments context = .error e := by decide +kernel
  obtain ⟨hfirst, _, _, _, hpromotion⟩ := conversion_failure signature arguments context
  have hdemands : (ItemType.atomic .double).Demands one.kind .double := .atomic rfl
  exact ⟨hconvert, (hfirst e).mp hconvert, ⟨hdemands, rfl⟩,
    hpromotion 0 ⟨.atomic .double, .zeroOrMore⟩ one .double hdemands rfl⟩

end Signature

end XPathValues
