import Mathlib.Tactic
import XPathValues.Function.Standard

/-!
# Libraries that registrations make

Registering functions, in whatever order and however often, leaves the functions of a name under
that name, no two of them with one arity, and no name without a function. So every function of the
library has a key of its own, under which it is found.
-/

namespace XPathValues.Library

variable {library : Library} {name : ExpandedName} {arity : ℕ} {function other : Function}
  {functions : List Function} {entry : ExpandedName × List Function}

structure Lawful (library : Library) : Prop where
  nonempty : ∀ entry ∈ library.entries, entry.2 ≠ []
  named : ∀ entry ∈ library.entries, ∀ function ∈ entry.2, function.signature.name = entry.1
  distinct : ∀ entry ∈ library.entries,
    (entry.2.map fun function => function.signature.arity).Nodup

/-! ## Runs of registrations -/

theorem mem_entries_set (h : entry ∈ (library.set name functions).entries) :
    entry = (name, functions) ∨ entry ∈ library.entries :=
  (List.mem_cons.mp h).imp_right List.mem_of_mem_filter

theorem mem_functions_iff :
    function ∈ library.functions ↔ ∃ entry ∈ library.entries, function ∈ entry.2 :=
  List.mem_flatMap

/-- A name without an entry has no functions. -/
theorem getD_get?_cases (library : Library) (name : ExpandedName) :
    (library.get? name).getD [] = [] ∨
      (name, (library.get? name).getD []) ∈ library.entries := by
  cases hget : library.get? name with
  | none => exact Or.inl rfl
  | some functions => exact Or.inr (mem_entries_of_get? hget)

theorem mem_functions_of_mem_get? (h : function ∈ (library.get? name).getD []) :
    function ∈ library.functions := by
  rcases library.getD_get?_cases name with hnone | hentry
  · rw [hnone] at h
    exact absurd h List.not_mem_nil
  · exact mem_functions_iff.mpr ⟨_, hentry, h⟩

theorem length_functions (library : Library) : library.functions.length = library.size := by
  rw [functions, size, List.length_flatMap, List.sum_eq_foldr, List.foldr_map]

theorem lawful_empty : empty.Lawful where
  nonempty _ h := absurd h List.not_mem_nil
  named _ h := absurd h List.not_mem_nil
  distinct _ h := absurd h List.not_mem_nil

namespace Lawful

/-- The laws hold of what a registration starts from. -/
theorem present (h : library.Lawful) (name : ExpandedName) :
    (∀ function ∈ (library.get? name).getD [], function.signature.name = name) ∧
      (((library.get? name).getD []).map fun function => function.signature.arity).Nodup := by
  rcases library.getD_get?_cases name with hnone | hentry
  · rw [hnone]
    exact ⟨fun _ hfunction => absurd hfunction List.not_mem_nil, List.nodup_nil⟩
  · exact ⟨h.named _ hentry, h.distinct _ hentry⟩

theorem register (h : library.Lawful) (function : Function) :
    (library.register function).Lawful := by
  obtain ⟨hnamed, hdistinct⟩ := h.present function.signature.name
  refine ⟨fun entry hentry => ?_, fun entry hentry => ?_, fun entry hentry => ?_⟩
  all_goals rcases mem_entries_set hentry with rfl | hold
  · exact List.append_ne_nil_of_right_ne_nil _ (List.cons_ne_nil _ _)
  · exact h.nonempty entry hold
  · intro other hother
    rcases List.mem_append.mp hother with hkept | hnew
    · exact hnamed other (List.mem_of_mem_filter hkept)
    · rw [List.mem_singleton.mp hnew]
  · exact h.named entry hold
  · -- What is kept has other arities than what comes in.
    rw [List.map_append, List.map_singleton, List.nodup_append]
    refine ⟨hdistinct.sublist (List.filter_sublist.map _), List.nodup_singleton _, ?_⟩
    intro kept hkept new hnew
    obtain ⟨other, hother, rfl⟩ := List.mem_map.mp hkept
    rw [List.mem_singleton.mp hnew]
    exact bne_iff_ne.mp (List.mem_filter.mp hother).2
  · exact h.distinct entry hold

theorem foldl_register (h : library.Lawful) (history : List Function) :
    (history.foldl Library.register library).Lawful := by
  induction history generalizing library with
  | nil => exact h
  | cons first rest ih => exact ih (h.register first)

end Lawful

theorem lawful_standard : standard.Lawful :=
  lawful_empty.foldl_register _

/-! ## Keys -/

theorem get?_of_mem (h : entry ∈ library.entries) : library.get? entry.1 = some entry.2 := by
  have hsome : (library.entries.find? fun other => other.1 == entry.1).isSome = true := by
    rw [List.find?_isSome]
    exact ⟨entry, h, beq_self_eq_true _⟩
  obtain ⟨found, hfound⟩ := Option.isSome_iff_exists.mp hsome
  have hname : found.1 = entry.1 := eq_of_beq
    (List.find?_some (p := fun other : ExpandedName × List Function => other.1 == entry.1) hfound)
  have hsame := List.inj_on_of_nodup_map library.distinct (List.mem_of_find?_eq_some hfound) h hname
  rw [get?, hfound, hsame, Option.map_some]

namespace Lawful

theorem key_of_find? (h : library.Lawful) (hfind : library.find? name arity = some function) :
    function.key = (name, arity) := by
  obtain ⟨functions, hfunctions, hmem⟩ := Option.bind_eq_some_iff.mp hfind
  have hname := h.named _ (mem_entries_of_get? hfunctions) function
    (List.mem_of_find?_eq_some hmem)
  exact Prod.ext hname (arity_of_find? hfind)

theorem isSome_find?_iff (h : library.Lawful) :
    (library.find? name arity).isSome = true ↔
      (name, arity) ∈ library.functions.map Function.key := by
  rw [List.mem_map]
  constructor
  · intro hsome
    obtain ⟨function, hfind⟩ := Option.isSome_iff_exists.mp hsome
    exact ⟨function, mem_functions_of_find? hfind, h.key_of_find? hfind⟩
  · rintro ⟨function, hmem, hkey⟩
    obtain ⟨entry, hentry, hfunction⟩ := mem_functions_iff.mp hmem
    obtain ⟨rfl, rfl⟩ := Prod.ext_iff.mp hkey
    change (library.find? function.signature.name function.signature.arity).isSome = true
    rw [h.named entry hentry function hfunction, find?, get?_of_mem hentry, Option.bind_some,
      List.find?_isSome]
    exact ⟨function, hfunction, beq_self_eq_true _⟩

/-- The keys are distinct: within an entry by their arities, across entries by their names. -/
theorem nodup_keys (h : library.Lawful) : (library.functions.map Function.key).Nodup := by
  rw [functions, List.map_flatMap, List.nodup_flatMap]
  constructor
  · intro entry hentry
    refine List.Nodup.of_map Prod.snd ?_
    rw [List.map_map]
    exact h.distinct entry hentry
  · refine (List.pairwise_map.mp library.distinct).imp_of_mem ?_
    intro entry other hentry hother hname key hkey hkey'
    obtain ⟨function, hfunction, rfl⟩ := List.mem_map.mp hkey
    obtain ⟨function', hfunction', hsame⟩ := List.mem_map.mp hkey'
    refine hname ?_
    rw [← h.named entry hentry function hfunction, ← h.named other hother function' hfunction']
    exact (congrArg Prod.fst hsame).symm

/-- There is no name exactly when there is no function, since no name is without functions. -/
theorem isEmpty_iff (h : library.Lawful) : library.isEmpty = true ↔ library.size = 0 := by
  rw [isEmpty, List.isEmpty_iff, ← length_functions, List.length_eq_zero_iff, functions,
    List.flatMap_eq_nil_iff]
  constructor
  · intro hempty entry hentry
    rw [hempty] at hentry
    exact absurd hentry List.not_mem_nil
  · intro hnone
    exact List.eq_nil_iff_forall_not_mem.mpr fun entry hentry =>
      h.nonempty entry hentry (hnone entry hentry)

end Lawful

end XPathValues.Library
