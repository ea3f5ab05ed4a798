import Mathlib.Tactic
import XPathValues.Proofs.Function.StandardFailure

/-!
# Libraries as finite maps

After any registrations a library is a finite map from names and arities to functions: everything
that can be asked of it is determined by what was registered last under each key. To call a function
is to look its key up in that map.
-/

namespace XPathValues

/-- There is no function of the name and the arity. -/
def Error.IsUnknownFunction (e : Error) : Prop :=
  e.code = .XPST0017 ∧ e.category = .arity

/-- The body itself fails like that on the converted arguments. -/
def Function.RaisesUnknown (function : Function) (arguments : List Sequence) (context : Context) :
    Prop :=
  ∃ converted e, function.signature.convertArguments arguments context = .ok converted ∧
    function.body context converted = .error e ∧ e.IsUnknownFunction

namespace Library

variable {library start : Library} {name : ExpandedName} {arity : Nat} {function : Function}

/-- What was registered last under a key, or what was there at the start. -/
def lastRegistered (start : Library) (history : List Function) (key : ExpandedName × Nat) :
    Option Function :=
  (history.filter fun function => function.key == key).getLast?.or (start.find? key.1 key.2)

/-- The key that a call asks for. A name without a namespace stands for the one in the namespace of
the context, if there is one. -/
def calledKey (name : ExpandedName) (arguments : List Sequence) (context : Context) :
    ExpandedName × Nat :=
  (⟨name.uri.or context.functionNamespace, name.localPart⟩, arguments.length)

/-- The library is the finite map: it has that many functions, these signatures and arities, and
calls reach these functions. -/
structure Refines (library : Library) (table : ExpandedName × Nat → Option Function) : Prop where
  find : ∀ name arity, library.find? name arity = table (name, arity)
  keyed : ∀ key function, table key = some function → function.key = key
  size : ∃ keys : Finset (ExpandedName × Nat),
    (∀ key, key ∈ keys ↔ (table key).isSome = true) ∧ library.size = keys.card
  isEmpty : library.isEmpty = true ↔ library.size = 0
  signature : ∀ name arity,
    library.signature? name arity = (table (name, arity)).map Function.signature
  sorted : ∀ name, (library.arities name).Pairwise (· < ·)
  arities : ∀ name arity, arity ∈ library.arities name ↔ (table (name, arity)).isSome = true
  register : ∀ (function : Function) name arity, (name, arity) ≠ function.key →
    (library.register function).find? name arity = table (name, arity)
  absent : ∀ name arguments context, table (calledKey name arguments context) = none →
    library.evaluate name arguments context =
      .error (.unknownFunction (calledKey name arguments context).1 arguments.length)
  called : ∀ name arguments context function,
    table (calledKey name arguments context) = some function →
      library.evaluate name arguments context =
        function.signature.convertArguments arguments context >>= function.body context

theorem calledKey_eq (name : ExpandedName) (arguments : List Sequence) (context : Context) :
    calledKey name arguments context = (resolveName name context, arguments.length) := by
  obtain ⟨uri, part⟩ := name
  unfold calledKey resolveName
  cases uri with
  | some uri => rfl
  | none => cases context.functionNamespace <;> rfl

theorem map_getD_get? (library : Library) (name : ExpandedName) :
    (((library.get? name).map fun functions =>
      functions.map fun function => function.signature.arity).getD []) =
      ((library.get? name).getD []).map fun function => function.signature.arity := by
  cases library.get? name <;> rfl

theorem mem_arities : arity ∈ library.arities name ↔ (library.find? name arity).isSome = true := by
  rw [arities, List.mem_mergeSort, map_getD_get?, find?]
  cases library.get? name with
  | none => simp
  | some functions => simp [List.find?_isSome]

/-- The arities are those of different functions, so sorting them leaves no two alike. -/
theorem Lawful.sorted_arities (h : library.Lawful) (name : ExpandedName) :
    (library.arities name).Pairwise (· < ·) := by
  have hsorted : (library.arities name).SortedLE := List.sortedLE_mergeSort
  have hdistinct : (library.arities name).Nodup := by
    rw [arities, map_getD_get?]
    exact (List.mergeSort_perm _ _).nodup_iff.mpr (h.present name).2
  exact (hsorted.sortedLT_of_nodup hdistinct).pairwise

theorem Lawful.refines_find? (h : library.Lawful) :
    library.Refines fun key => library.find? key.1 key.2 where
  find _ _ := rfl
  keyed _ _ := h.key_of_find?
  size := by
    refine ⟨(library.functions.map Function.key).toFinset, fun key => ?_, ?_⟩
    · rw [List.mem_toFinset, ← h.isSome_find?_iff]
    · rw [List.toFinset_card_of_nodup h.nodup_keys, List.length_map, length_functions]
  isEmpty := h.isEmpty_iff
  signature name arity := by
    unfold signature? find?
    cases library.get? name <;> rfl
  sorted := h.sorted_arities
  arities _ _ := mem_arities
  register function name arity hkey := by rw [find?_register, if_neg (Ne.symm hkey)]
  absent name arguments context hnone := by
    rw [calledKey_eq] at hnone ⊢
    simp only [evaluate, hnone]
  called name arguments context function hsome := by
    rw [calledKey_eq] at hsome
    simp only [evaluate, hsome]
    rfl

/-- One more registration replaces what is found under the key of the function. -/
theorem lastRegistered_cons (start : Library) (first : Function) (rest : List Function) :
    start.lastRegistered (first :: rest) = (start.register first).lastRegistered rest := by
  funext key
  unfold lastRegistered
  rw [find?_register, List.filter_cons]
  by_cases hkey : first.key = key
  · rw [if_pos (beq_iff_eq.mpr hkey), if_pos hkey, List.getLast?_cons]
    cases (rest.filter fun function => function.key == key).getLast? <;> rfl
  · rw [if_neg (by simpa using hkey), if_neg hkey]

/-- What is found after a history is what it registered last. -/
theorem find?_foldl_register (history : List Function) (start : Library) :
    (fun key : ExpandedName × Nat => (history.foldl register start).find? key.1 key.2) =
      start.lastRegistered history := by
  induction history generalizing start with
  | nil => rfl
  | cons first rest ih => rw [List.foldl_cons, ih, lastRegistered_cons]

theorem mem_of_lastRegistered {history : List Function} {key : ExpandedName × Nat}
    (h : start.lastRegistered history key = some function) :
    function ∈ history ∨ function ∈ start.functions := by
  rcases Option.or_eq_some_iff.mp h with hlast | ⟨_, hfind⟩
  · exact Or.inl (List.mem_of_mem_filter (List.mem_of_getLast? hlast))
  · exact Or.inr (mem_functions_of_find? hfind)

variable {arguments : List Sequence} {context : Context}

theorem not_raisesUnknown_of_standard (h : function ∈ standard.functions)
    (harity : function.signature.arity = arguments.length) :
    ¬ function.RaisesUnknown arguments context := by
  rintro ⟨converted, e, hconverted, hbody, _, hcategory⟩
  have haccepts := Signature.accepts_of_convertArguments harity.symm hconverted
  rcases (isStandard_of_mem h).isOfValue_or_illegalCast haccepts hbody with hvalue | hcast
  · exact hvalue.category_ne rfl hcategory
  · cases hcast.symm.trans hcategory

/-- A call fails for want of a function where there is none, or where the body of the function
fails so. -/
theorem evaluate_isUnknownFunction_iff :
    (∃ e, library.evaluate name arguments context = .error e ∧ e.IsUnknownFunction) ↔
      library.find? (resolveName name context) arguments.length = none ∨
        ∃ function, library.find? (resolveName name context) arguments.length = some function ∧
          function.RaisesUnknown arguments context := by
  rcases evaluate_cases library name arguments context with
    ⟨hnone, hunknown⟩ | ⟨function, hsome, _, hcall⟩
  · exact iff_of_true ⟨_, hunknown, rfl, rfl⟩ (Or.inl hnone)
  · rw [hcall]
    constructor
    · rintro ⟨e, herror, hunknown⟩
      rcases Function.eq_error_of_call herror with hfail | ⟨converted, hok, hbody⟩
      · exact absurd hunknown.2 hfail.category_ne_arity
      · exact Or.inr ⟨function, hsome, converted, e, hok, hbody, hunknown⟩
    · rintro (hnone | ⟨other, hother, converted, e, hok, hbody, hunknown⟩)
      · cases hnone.symm.trans hsome
      · obtain rfl := Option.some.inj (hother.symm.trans hsome)
        exact ⟨e, by rw [Function.call, hok]; exact hbody, hunknown⟩

/-- After any registrations on an empty or a standard library, the library is the finite map of
what was registered last. A call fails for want of a function exactly where the map has none; apart
from that, only the body of a registered function can choose to fail so. -/
theorem refines_lastRegistered (start : Library) (hstart : start = .empty ∨ start = .standard)
    (history : List Function) :
    (history.foldl register start).Refines (start.lastRegistered history) ∧
      ∀ name arguments context,
        (∃ e, (history.foldl register start).evaluate name arguments context = .error e ∧
            e.IsUnknownFunction) ↔
          start.lastRegistered history (calledKey name arguments context) = none ∨
            ∃ function ∈ history,
              start.lastRegistered history (calledKey name arguments context) =
                some function ∧ function.RaisesUnknown arguments context := by
  have htable := find?_foldl_register history start
  have hlawful : start.Lawful := by
    rcases hstart with rfl | rfl
    · exact lawful_empty
    · exact lawful_standard
  refine ⟨htable ▸ (hlawful.foldl_register history).refines_find?,
    fun name arguments context => ?_⟩
  rw [evaluate_isUnknownFunction_iff, calledKey_eq, ← htable]
  refine or_congr_right (exists_congr fun function => ?_)
  constructor
  · rintro ⟨hsome, hraises⟩
    refine ⟨?_, hsome, hraises⟩
    have hfind := congrFun htable (resolveName name context, arguments.length)
    rcases mem_of_lastRegistered (hfind.symm.trans hsome) with hregistered | hbuiltin
    · exact hregistered
    -- What was there at the start does not raise: it is nothing, or standard.
    · rcases hstart with rfl | rfl
      · exact absurd hbuiltin List.not_mem_nil
      · have harity := arity_of_find? hsome
        exact absurd hraises (not_raisesUnknown_of_standard hbuiltin harity)
  · rintro ⟨_, hsome, hraises⟩
    exact ⟨hsome, hraises⟩

/-- A standard function is replaced, and again. A call without a namespace reaches the second
replacement; the arity counts. -/
theorem refines_lastRegistered_replaced :
    let name := ExpandedName.inFunctions "year-from-date"
    let first : Function := ⟨⟨name, [.optional .date]⟩, fun _ _ => .ok []⟩
    let second : Function := ⟨⟨name, [⟨.anyItem, .zeroOrOne⟩]⟩, fun _ _ => .ok (.ofText "never")⟩
    let library := [first, second].foldl register .standard
    let context := Context.Builder.start.build ⟨.startOfDay ⟨2000, 1, 1, by decide⟩, .utc⟩
    (Library.standard = .empty ∨ Library.standard = .standard) ∧
      library.find? name 1 = some second ∧
      library.evaluate ⟨none, "year-from-date"⟩ [[]] context = .ok (.ofText "never") ∧
      ∃ e, library.evaluate ⟨none, "year-from-date"⟩ [] context = .error e ∧
        e.IsUnknownFunction := by
  intro name first second library context
  have hstart : Library.standard = .empty ∨ Library.standard = .standard := Or.inr rfl
  obtain ⟨hrefines, hunknown⟩ := refines_lastRegistered .standard hstart [first, second]
  have hlast : Library.standard.lastRegistered [first, second] (name, 1) = some second := by
    have hkeys : first.key = (name, 1) ∧ second.key = (name, 1) := ⟨rfl, rfl⟩
    simp [lastRegistered, hkeys]
  have hnone : Library.standard.lastRegistered [first, second] (name, 0) = none := by
    have hkeys : first.key ≠ (name, 0) ∧ second.key ≠ (name, 0) := by
      constructor <;> exact fun h => by cases congrArg Prod.snd h
    have hstandard : Library.standard.find? name 0 = none := by
      refine Option.isNone_iff_eq_none.mp ?_
      decide +kernel
    simp [lastRegistered, hkeys, hstandard]
  refine ⟨hstart, (hrefines.find name 1).trans hlast, ?_, ?_⟩
  · rw [hrefines.called ⟨none, "year-from-date"⟩ [[]] context second hlast]
    rfl
  · exact (hunknown ⟨none, "year-from-date"⟩ [] context).mpr (Or.inl hnone)

end Library

end XPathValues
