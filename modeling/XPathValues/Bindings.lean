import XPathValues.Name

/-!
# Namespace bindings

A finite map from qualifiers to namespaces. The entries are kept in increasing order of the
qualifier and each qualifier occurs once, so two maps with the same bindings are equal. A qualifier
without a binding still resolves if it is one of the reserved ones.
-/

namespace XPathValues

structure Bindings where
  entries : List (String × String)
  sorted : entries.Pairwise fun a b => a.1 < b.1
deriving DecidableEq

namespace Bindings

def empty : Bindings := ⟨[], .nil⟩

/-- Put a binding in its place; an older one of the same qualifier goes. -/
def insertEntry (qualifier uri : String) : List (String × String) → List (String × String)
  | [] => [(qualifier, uri)]
  | entry :: rest =>
    if qualifier < entry.1 then (qualifier, uri) :: entry :: rest
    else if qualifier = entry.1 then (qualifier, uri) :: rest
    else entry :: insertEntry qualifier uri rest

theorem mem_insertEntry {qualifier uri : String} {entry : String × String}
    {entries : List (String × String)} (h : entry ∈ insertEntry qualifier uri entries) :
    entry = (qualifier, uri) ∨ entry ∈ entries := by
  induction entries with
  | nil => simpa [insertEntry] using h
  | cons first rest ih =>
    unfold insertEntry at h
    split at h
    · simpa using h
    · split at h
      · exact (List.mem_cons.mp h).imp_right (List.mem_cons_of_mem _)
      · rcases List.mem_cons.mp h with rfl | h
        · exact .inr (List.mem_cons_self ..)
        · exact (ih h).imp_right (List.mem_cons_of_mem _)

theorem sorted_insertEntry (qualifier uri : String) {entries : List (String × String)}
    (h : entries.Pairwise fun a b => a.1 < b.1) :
    (insertEntry qualifier uri entries).Pairwise fun a b => a.1 < b.1 := by
  induction entries with
  | nil => simp [insertEntry]
  | cons first rest ih =>
    obtain ⟨hfirst, hrest⟩ := List.pairwise_cons.mp h
    unfold insertEntry
    split
    · next hlt =>
      refine List.pairwise_cons.mpr ⟨fun entry hmem => ?_, h⟩
      rcases List.mem_cons.mp hmem with rfl | hmem
      · exact hlt
      · exact String.lt_trans hlt (hfirst entry hmem)
    · next hge =>
      split
      · next heq =>
        subst heq
        exact List.pairwise_cons.mpr ⟨hfirst, hrest⟩
      · next hne =>
        refine List.pairwise_cons.mpr ⟨fun entry hmem => ?_, ih hrest⟩
        rcases mem_insertEntry hmem with rfl | hmem
        · rcases String.le_total qualifier first.1 with hle | hle
          · exact absurd (String.le_antisymm hle (String.not_lt.mp hge)) hne
          · exact Decidable.byContradiction fun hnlt =>
              hne (String.le_antisymm (String.not_lt.mp hnlt) hle)
        · exact hfirst entry hmem

def insert (bindings : Bindings) (qualifier uri : String) : Bindings :=
  ⟨insertEntry qualifier uri bindings.entries, sorted_insertEntry qualifier uri bindings.sorted⟩

def ofList (entries : List (String × String)) : Bindings :=
  entries.foldl (fun bindings entry => bindings.insert entry.1 entry.2) empty

def lookup? (bindings : Bindings) (qualifier : String) : Option String :=
  bindings.entries.lookup qualifier

/-- The binding of a qualifier, or else its reserved namespace. -/
def resolve? (bindings : Bindings) (qualifier : String) : Option String :=
  (bindings.lookup? qualifier).or (Namespace.reserved? qualifier)

@[simp] theorem lookup?_empty (qualifier : String) : empty.lookup? qualifier = none := rfl

theorem lookup_cons_eq_ite (qualifier : String) (entry : String × String)
    (entries : List (String × String)) :
    (entry :: entries).lookup qualifier =
      if qualifier = entry.1 then some entry.2 else entries.lookup qualifier := by
  rw [List.lookup_cons]
  by_cases h : qualifier = entry.1
  · simp [h]
  · rw [beq_false_of_ne h, if_neg h]

theorem lookup?_insert (bindings : Bindings) (qualifier uri other : String) :
    (bindings.insert qualifier uri).lookup? other =
      if other = qualifier then some uri else bindings.lookup? other := by
  obtain ⟨entries, sorted⟩ := bindings
  simp only [lookup?, insert]
  clear sorted
  induction entries with
  | nil => simp [insertEntry]
  | cons first rest ih =>
    unfold insertEntry
    split
    · simp [lookup_cons_eq_ite]
    · split
      · grind [lookup_cons_eq_ite]
      · grind [lookup_cons_eq_ite]

end Bindings

end XPathValues
