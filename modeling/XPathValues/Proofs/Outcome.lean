import Mathlib.Tactic
import XPathValues.Arithmetic

/-!
# Steps that may fail

Steps in sequence give a result if each of them does, and they fail where the first of them fails.
-/

namespace XPathValues

variable {α β : Type} {x : Except Error α} {e : Error}

theorem exists_of_map_eq_ok {f : α → β} {y : β} (h : x.map f = .ok y) :
    ∃ z, x = .ok z ∧ y = f z := by
  cases x with
  | error e => cases h
  | ok z => exact ⟨z, rfl, (Except.ok.inj h).symm⟩

theorem eq_error_of_map {f : α → β} (h : x.map f = .error e) : x = .error e := by
  cases x with
  | error e' => exact congrArg Except.error (Except.error.inj h)
  | ok y => cases h

theorem exists_of_bind_eq_ok {f : α → Except Error β} {y : β} (h : x >>= f = .ok y) :
    ∃ z, x = .ok z ∧ f z = .ok y := by
  cases x with
  | error e => cases h
  | ok z => exact ⟨z, rfl, h⟩

theorem eq_error_of_bind {f : α → Except Error β} (h : x >>= f = .error e) :
    x = .error e ∨ ∃ y, x = .ok y ∧ f y = .error e := by
  cases x with
  | error e' => exact Or.inl (congrArg Except.error (Except.error.inj h))
  | ok y => exact Or.inr ⟨y, rfl, h⟩

theorem orError_eq_ok_iff {o : Option α} {y : α} : orError e o = .ok y ↔ o = some y := by
  cases o <;> simp [orError]

theorem eq_some_of_orError {o : Option α} {y : α} (h : orError e o = .ok y) : o = some y :=
  orError_eq_ok_iff.mp h

theorem eq_of_orError_eq_error {given : Error} {o : Option α} (h : orError given o = .error e) :
    e = given := by
  cases o with
  | none => exact (Except.error.inj h).symm
  | some y => cases h

theorem map_orError (f : α → β) (e : Error) (o : Option α) :
    (orError e o).map f = orError e (o.map f) := by
  cases o <;> rfl

variable {f : α → Except Error β} {xs : List α} {ys : List β}

theorem mapM_eq_ok_iff : xs.mapM f = .ok ys ↔ List.Forall₂ (fun x y => f x = .ok y) xs ys := by
  induction xs generalizing ys with
  | nil =>
    rw [List.mapM_nil, List.forall₂_nil_left_iff]
    exact ⟨fun h => (Except.ok.inj h).symm, fun h => congrArg Except.ok h.symm⟩
  | cons x xs ih =>
    rw [List.mapM_cons, List.forall₂_cons_left_iff]
    constructor
    · intro h
      obtain ⟨y, hy, h⟩ := exists_of_bind_eq_ok h
      obtain ⟨rest, hrest, h⟩ := exists_of_bind_eq_ok h
      exact ⟨y, rest, hy, ih.mp hrest, (Except.ok.inj h).symm⟩
    · rintro ⟨y, rest, hy, hrest, rfl⟩
      rw [hy, ih.mpr hrest]
      rfl

/-- The failure at the first of the places that have one. -/
def FirstFailure (fails : ℕ → Error → Prop) (e : Error) : Prop :=
  ∃ place, fails place e ∧ ∀ earlier < place, ∀ e', ¬ fails earlier e'

theorem firstFailure_iff {fails : ℕ → Error → Prop} :
    FirstFailure fails e ↔
      fails 0 e ∨ (∀ e', ¬ fails 0 e') ∧ FirstFailure (fun place => fails (place + 1)) e := by
  constructor
  · rintro ⟨place, hfails, hbefore⟩
    cases place with
    | zero => exact Or.inl hfails
    | succ place =>
      refine Or.inr ⟨hbefore 0 place.succ_pos, place, hfails, fun earlier hlt => ?_⟩
      exact hbefore (earlier + 1) (Nat.succ_lt_succ hlt)
  · rintro (hfirst | ⟨hnone, place, hfails, hbefore⟩)
    · exact ⟨0, hfirst, fun earlier hlt => absurd hlt earlier.not_lt_zero⟩
    · refine ⟨place + 1, hfails, fun earlier hlt => ?_⟩
      cases earlier with
      | zero => exact hnone
      | succ earlier => exact hbefore earlier (Nat.lt_of_succ_lt_succ hlt)

theorem exists_firstFailure_iff {fails : ℕ → Error → Prop} :
    (∃ e, FirstFailure fails e) ↔ ∃ place e, fails place e := by
  constructor
  · rintro ⟨e, place, hfails, _⟩
    exact ⟨place, e, hfails⟩
  · rintro ⟨place, hplace⟩
    induction place using Nat.strong_induction_on with
    | _ place ih =>
      by_cases hearlier : ∃ earlier < place, ∃ e, fails earlier e
      · obtain ⟨earlier, hlt, hfails⟩ := hearlier
        exact ih earlier hlt hfails
      · obtain ⟨e, hfails⟩ := hplace
        exact ⟨e, place, hfails, fun earlier hlt e' h => hearlier ⟨earlier, hlt, e', h⟩⟩

/-- A step in front of others: its failure is theirs as well, and they are tried if it has none. -/
theorem cons_eq_error_iff {γ : Type} {xs : Except Error β} {combine : α → β → γ} :
    (do let y ← x; let ys ← xs; return combine y ys) = .error e ↔
      x = .error e ∨ (∀ e', x ≠ .error e') ∧ xs = .error e := by
  cases x with
  | error first =>
    change (.error first : Except Error γ) = .error e ↔ _
    simp
  | ok y =>
    cases xs with
    | error rest =>
      change (.error rest : Except Error γ) = .error e ↔ _
      simp
    | ok ys => exact iff_of_false nofun (by simp)

/-- A sequence of steps fails with the failure of the first step that has one. -/
theorem mapM_eq_error_iff :
    xs.mapM f = .error e ↔ FirstFailure (fun place e => ∃ x ∈ xs[place]?, f x = .error e) e := by
  induction xs with
  | nil =>
    refine iff_of_false nofun ?_
    rintro ⟨place, ⟨x, hx, _⟩, _⟩
    simp at hx
  | cons x xs ih =>
    rw [List.mapM_cons, cons_eq_error_iff, firstFailure_iff, ih]
    simp

theorem exists_of_mapM_eq_error (h : xs.mapM f = .error e) : ∃ x ∈ xs, f x = .error e := by
  induction xs with
  | nil => cases h
  | cons x xs ih =>
    rw [List.mapM_cons] at h
    rcases eq_error_of_bind h with hx | ⟨y, _, h⟩
    · exact ⟨x, List.mem_cons_self, hx⟩
    · rcases eq_error_of_bind h with hrest | ⟨ys, _, h⟩
      · obtain ⟨z, hz, hfail⟩ := ih hrest
        exact ⟨z, List.mem_cons_of_mem _ hz, hfail⟩
      · cases h

end XPathValues
