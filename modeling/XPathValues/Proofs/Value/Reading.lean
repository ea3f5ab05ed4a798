import Mathlib.Tactic
import XPathValues.Proofs.Text.Layout
import XPathValues.Value.Lexical

/-!
# Reading a text without white space

Most types hand a text over to a reader of their own once its white space is collapsed. A written
value has no white space, so the reader gets it as it was written.
-/

namespace XPathValues.AtomicValue

open Text

variable {α : Type} {kind : AtomicKind} {given : String} {bindings : Bindings} {v : AtomicValue}
  {value : Option α} {make : α → AtomicValue}

theorem eq_of_orInvalid (h : orInvalid kind given value make = .ok v) :
    ∃ x, value = some x ∧ v = make x := by
  cases value with
  | none => cases h
  | some x => exact ⟨x, rfl, (Except.ok.inj h).symm⟩

theorem orInvalid_eq_ok_iff :
    orInvalid kind given value make = .ok v ↔ ∃ x, value = some x ∧ v = make x := by
  constructor
  · exact eq_of_orInvalid
  · rintro ⟨x, rfl, rfl⟩
    rfl

theorem read_eq_ok_iff_of_orInvalid
    (h : read kind given bindings = orInvalid kind given value make) :
    read kind given bindings = .ok v ↔ ∃ x, value = some x ∧ v = make x := by
  rw [h, orInvalid_eq_ok_iff]

theorem orInvalid_iff {p : Prop} (hsome : p → ∃ x, value = some x ∧ v.sameAs (make x) = true)
    (hnone : ¬ p → value = none) :
    (p → ∃ w, orInvalid kind given value make = .ok w ∧ v.sameAs w = true) ∧
      (¬ p → orInvalid kind given value make = .error (.invalidLexical kind given)) := by
  constructor
  · intro hp
    obtain ⟨x, rfl, hsame⟩ := hsome hp
    exact ⟨make x, rfl, hsame⟩
  · intro hp
    rw [hnone hp]
    rfl

/-- The types that have a reader of their own differ in it and in nothing else. -/
theorem read_ofList {reader : List Char → Option α} {chars : List Char}
    (hreader : ∀ given, read kind given bindings =
      orInvalid kind given (reader (collapse given).toList) make)
    (hspace : ∀ c ∈ chars, isSpace c = false) :
    read kind (String.ofList chars) bindings =
      orInvalid kind (String.ofList chars) (reader chars) make := by
  rw [hreader, collapse_of_not_isSpace hspace, String.toList_ofList]

end XPathValues.AtomicValue
