import Mathlib.Tactic
import XPathValues.Function.Argument
import XPathValues.Proofs.Value.Casting

/-!
# Converted arguments

An argument that has been converted has as many items as its parameter allows, each of the declared
type. Values that had the type before stay in their places, and converting once more changes
nothing.
-/

namespace XPathValues

namespace ItemType

/-- The item is of the declared type. Nodes only pass as items. -/
def Accepts : ItemType → Item → Prop
  | anyItem, _ => True
  | anyAtomic, .atomic _ => True
  | numeric, .atomic v => v.kind.isNumeric = true
  | atomic kind, .atomic v => v.kind.derivesFrom kind = true
  | _, .node _ => False

variable {item : ItemType} {v w : AtomicValue}

theorem castTarget?_eq_none_iff : item.castTarget? v.kind = none ↔ item.Accepts (.atomic v) := by
  cases item <;> simp [castTarget?, Accepts]

theorem accepts_of_castTarget? {kind : AtomicKind} (h : item.castTarget? kind = some w.kind) :
    item.Accepts (.atomic w) := by
  unfold castTarget? at h
  split at h
  · cases h
  · cases h
  · split at h
    · cases h
    · exact congrArg AtomicKind.isNumeric (Option.some.inj h).symm
  · split at h
    · cases h
    · obtain rfl := Option.some.inj h
      exact AtomicKind.derivesFrom_refl _

end ItemType

namespace ParameterType

/-- The items are of the declared type, and so many are allowed. -/
structure Accepts (parameter : ParameterType) (items : Sequence) : Prop where
  count : parameter.occurrence.admits items.length = true
  items : ∀ item ∈ items, parameter.item.Accepts item

theorem accepts_single {parameter : ParameterType} {v : AtomicValue}
    (hcount : parameter.occurrence.admits 1 = true) (hv : parameter.item.Accepts (.atomic v)) :
    parameter.Accepts (.single v) :=
  ⟨hcount, List.forall_mem_singleton.mpr hv⟩

/-- Items pass as they are. Otherwise every value has its place in the result, and one that is of
the declared type is not changed. -/
def Keeps (parameter : ParameterType) (argument converted : Sequence) : Prop :=
  if parameter.item = .anyItem then converted = argument
  else
    List.Forall₂ (fun v item => parameter.item.Accepts (.atomic v) → item = .atomic v)
      argument.atomize converted

end ParameterType

namespace Sequence

theorem eq_ofValues_of_accepts {item : ItemType} (hitem : item ≠ .anyItem) {items : Sequence}
    (h : ∀ i ∈ items, item.Accepts i) : items = ofValues items.atomize := by
  induction items with
  | nil => rfl
  | cons first rest ih =>
    obtain ⟨hfirst, hrest⟩ := List.forall_mem_cons.mp h
    cases first with
    | node n => cases item <;> first | exact absurd rfl hitem | exact hfirst.elim
    | atomic v => exact congrArg (Item.atomic v :: ·) (ih hrest)

end Sequence

theorem forall_mem_right_of_forall₂ {α β : Type} {P : α → Prop} {Q : β → Prop} {xs : List α}
    {ys : List β} (hleft : ∀ x ∈ xs, P x) (h : List.Forall₂ (fun x y => P x → Q y) xs ys) :
    ∀ y ∈ ys, Q y := by
  induction h with
  | nil => exact fun _ hy => absurd hy List.not_mem_nil
  | cons hfirst _ ih =>
    obtain ⟨hx, hxs⟩ := List.forall_mem_cons.mp hleft
    exact List.forall_mem_cons.mpr ⟨hfirst hx, ih hxs⟩

namespace Signature

variable {signature : Signature} {position : Nat} {parameter : ParameterType} {bindings : Bindings}
  {v w : AtomicValue} {argument converted : Sequence}

theorem checkCount_eq_ok_iff {count : Nat} :
    signature.checkCount position parameter count = .ok () ↔
      parameter.occurrence.admits count = true := by
  unfold checkCount
  split <;> simp_all

theorem convertValue_of_accepts (h : parameter.item.Accepts (.atomic v)) :
    signature.convertValue position parameter bindings v = .ok v := by
  simp only [convertValue, ItemType.castTarget?_eq_none_iff.mpr h]

theorem cast_of_convertValue {target : AtomicKind}
    (htarget : parameter.item.castTarget? v.kind = some target)
    (h : signature.convertValue position parameter bindings v = .ok w) :
    v.cast target bindings = .ok w := by
  simp only [convertValue, htarget] at h
  split at h
  · exact h
  · split at h
    · next hcast =>
      obtain rfl := Except.ok.inj h
      exact hcast
    · cases h

theorem accepts_of_convertValue
    (h : signature.convertValue position parameter bindings v = .ok w) :
    parameter.item.Accepts (.atomic w) := by
  cases htarget : parameter.item.castTarget? v.kind with
  | none =>
    have haccepts := ItemType.castTarget?_eq_none_iff.mp htarget
    rw [convertValue_of_accepts haccepts] at h
    obtain rfl := Except.ok.inj h
    exact haccepts
  | some target =>
    have hkind := AtomicValue.kind_cast (cast_of_convertValue htarget h)
    exact ItemType.accepts_of_castTarget? (hkind ▸ htarget)

theorem convertArgument_anyItem (hitem : parameter.item = .anyItem) :
    signature.convertArgument position parameter bindings argument = .ok converted ↔
      parameter.occurrence.admits argument.length = true ∧ converted = argument := by
  rw [convertArgument, if_pos hitem, ← checkCount_eq_ok_iff]
  constructor
  · intro h
    obtain ⟨_, hcount, h⟩ := exists_of_bind_eq_ok h
    exact ⟨hcount, (Except.ok.inj h).symm⟩
  · rintro ⟨hcount, rfl⟩
    rw [hcount]
    rfl

theorem convertArgument_values (hitem : parameter.item ≠ .anyItem) :
    signature.convertArgument position parameter bindings argument = .ok converted ↔
      parameter.occurrence.admits argument.atomize.length = true ∧
        ∃ values, converted = .ofValues values ∧
          List.Forall₂ (fun v w => signature.convertValue position parameter bindings v = .ok w)
            argument.atomize values := by
  rw [convertArgument, if_neg hitem, ← checkCount_eq_ok_iff]
  simp only [← mapM_eq_ok_iff]
  constructor
  · intro h
    obtain ⟨_, hcount, h⟩ := exists_of_bind_eq_ok h
    obtain ⟨values, hvalues, h⟩ := exists_of_bind_eq_ok h
    exact ⟨hcount, values, (Except.ok.inj h).symm, hvalues⟩
  · rintro ⟨hcount, values, rfl, hvalues⟩
    rw [hcount, hvalues]
    rfl

theorem accepts_of_convertArgument
    (h : signature.convertArgument position parameter bindings argument = .ok converted) :
    parameter.Accepts converted := by
  by_cases hitem : parameter.item = .anyItem
  · obtain ⟨hcount, rfl⟩ := (convertArgument_anyItem hitem).mp h
    exact ⟨hcount, fun item _ => by rw [hitem]; trivial⟩
  · obtain ⟨hcount, values, rfl, hvalues⟩ := (convertArgument_values hitem).mp h
    have haccepts : ∀ w ∈ values, parameter.item.Accepts (.atomic w) :=
      forall_mem_right_of_forall₂ (P := fun _ => True) (fun _ _ => trivial)
        (hvalues.imp fun _ _ hvalue _ => accepts_of_convertValue hvalue)
    refine ⟨?_, List.forall_mem_map.mpr haccepts⟩
    rw [Sequence.ofValues, List.length_map, ← hvalues.length_eq]
    exact hcount

theorem keeps_of_convertArgument
    (h : signature.convertArgument position parameter bindings argument = .ok converted) :
    parameter.Keeps argument converted := by
  unfold ParameterType.Keeps
  split
  · next hitem => exact ((convertArgument_anyItem hitem).mp h).2
  · next hitem =>
    obtain ⟨_, values, rfl, hvalues⟩ := (convertArgument_values hitem).mp h
    refine List.forall₂_map_right_iff.mpr (hvalues.imp ?_)
    intro v w hvalue haccepts
    rw [convertValue_of_accepts haccepts] at hvalue
    exact congrArg Item.atomic (Except.ok.inj hvalue).symm

theorem convertArgument_of_accepts (h : parameter.Accepts argument) :
    signature.convertArgument position parameter bindings argument = .ok argument := by
  by_cases hitem : parameter.item = .anyItem
  · exact (convertArgument_anyItem hitem).mpr ⟨h.count, rfl⟩
  · have hvalues := Sequence.eq_ofValues_of_accepts hitem h.items
    refine (convertArgument_values hitem).mpr ⟨?_, _, hvalues, ?_⟩
    · have hcount := h.count
      rw [hvalues, Sequence.ofValues, List.length_map] at hcount
      exact hcount
    · refine List.forall₂_same.mpr fun v hv => convertValue_of_accepts (h.items _ ?_)
      rw [hvalues]
      exact List.mem_map_of_mem hv

variable {parameters : List ParameterType} {arguments convertedArguments : List Sequence}

/-- From left to right, each argument is converted for its parameter. -/
theorem convertFrom_forall₂ {R : ParameterType × Sequence → Sequence → Prop}
    (hR : ∀ position parameter argument converted,
      signature.convertArgument position parameter bindings argument = .ok converted →
        R (parameter, argument) converted)
    (h : signature.convertFrom bindings position parameters arguments = .ok convertedArguments) :
    List.Forall₂ R (parameters.zip arguments) convertedArguments := by
  induction parameters generalizing position arguments convertedArguments with
  | nil =>
    obtain rfl := Except.ok.inj h
    exact .nil
  | cons parameter parameters ih =>
    cases arguments with
    | nil =>
      obtain rfl := Except.ok.inj h
      exact .nil
    | cons argument arguments =>
      obtain ⟨converted, hconverted, h⟩ := exists_of_bind_eq_ok h
      obtain ⟨rest, hrest, h⟩ := exists_of_bind_eq_ok h
      obtain rfl := Except.ok.inj h
      exact .cons (hR _ _ _ _ hconverted) (ih hrest)

theorem convertFrom_of_accepts (h : List.Forall₂ ParameterType.Accepts parameters arguments) :
    signature.convertFrom bindings position parameters arguments = .ok arguments := by
  induction h generalizing position with
  | nil => rfl
  | cons hfirst _ ih =>
    rw [convertFrom, convertArgument_of_accepts hfirst]
    change (signature.convertFrom bindings (position + 1) _ _ >>= fun rest => .ok (_ :: rest)) = _
    rw [ih]
    rfl

variable {context : Context}

theorem accepts_of_convertArguments (hlength : arguments.length = signature.arity)
    (h : signature.convertArguments arguments context = .ok convertedArguments) :
    List.Forall₂ ParameterType.Accepts signature.parameters convertedArguments := by
  have hzip := convertFrom_forall₂ (R := fun pair => pair.1.Accepts)
    (fun _ _ _ _ => accepts_of_convertArgument) h
  have hfst : (signature.parameters.zip arguments).map Prod.fst = signature.parameters :=
    List.map_fst_zip (Nat.le_of_eq hlength.symm)
  rw [← hfst]
  exact List.forall₂_map_left_iff.mpr hzip

theorem keeps_of_convertArguments
    (h : signature.convertArguments arguments context = .ok convertedArguments) :
    List.Forall₂ (fun pair => pair.1.Keeps pair.2) (signature.parameters.zip arguments)
      convertedArguments :=
  convertFrom_forall₂ (fun _ _ _ _ => keeps_of_convertArgument) h

/-! ## Failures -/

variable {e : Error}

/-- A conversion fails where a cast does, or reports a wrong number of items or a wrong item. -/
def FailsInConversion (e : Error) : Prop :=
  e.IsOfValue ∨ e.category = .illegalCast ∨ e.category = .cardinality ∨
    ∃ position function expected found reason,
      e = .wrongArgument position function expected found reason

theorem failsInConversion_of_convertValue
    (h : signature.convertValue position parameter bindings v = .error e) :
    FailsInConversion e := by
  unfold convertValue at h
  split at h
  · cases h
  · split at h
    · exact (AtomicValue.isOfValue_or_illegalCast h).imp_right Or.inl
    · split at h
      · cases h
      · cases h
        exact Or.inr (Or.inr (Or.inr ⟨_, _, _, _, _, rfl⟩))

theorem category_of_checkCount {count : Nat}
    (h : signature.checkCount position parameter count = .error e) : e.category = .cardinality := by
  unfold checkCount at h
  split at h
  · cases h
  · cases h
    rfl

theorem failsInConversion_of_convertArgument
    (h : signature.convertArgument position parameter bindings argument = .error e) :
    FailsInConversion e := by
  unfold convertArgument at h
  split at h
  all_goals
    rcases eq_error_of_bind h with hcount | ⟨_, _, h⟩
    · exact Or.inr (Or.inr (Or.inl (category_of_checkCount hcount)))
  · cases h
  · rcases eq_error_of_bind h with hvalues | ⟨values, _, h⟩
    · obtain ⟨v, _, hvalue⟩ := exists_of_mapM_eq_error hvalues
      exact failsInConversion_of_convertValue hvalue
    · cases h

theorem failsInConversion_of_convertFrom
    (h : signature.convertFrom bindings position parameters arguments = .error e) :
    FailsInConversion e := by
  induction parameters generalizing position arguments with
  | nil => cases h
  | cons parameter parameters ih =>
    cases arguments with
    | nil => cases h
    | cons argument arguments =>
      rcases eq_error_of_bind h with hargument | ⟨_, _, h⟩
      · exact failsInConversion_of_convertArgument hargument
      · rcases eq_error_of_bind h with hrest | ⟨_, _, h⟩
        · exact ih hrest
        · cases h

theorem FailsInConversion.category_ne_arity (h : FailsInConversion e) : e.category ≠ .arity := by
  rcases h with h | h | h | ⟨_, _, _, _, _, rfl⟩
  · exact h.category_ne rfl
  · exact fun harity => by cases h.symm.trans harity
  · exact fun harity => by cases h.symm.trans harity
  · exact fun harity => by cases harity

end Signature

end XPathValues
