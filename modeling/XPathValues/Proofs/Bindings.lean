import Mathlib.Tactic
import XPathValues.Bindings

/-!
# Bindings as finite maps

The entries of a map are in order and have distinct qualifiers, so the map is determined by what is
found under each qualifier, and insertions under different qualifiers can be exchanged.
-/

namespace XPathValues.Bindings

variable {bindings other : Bindings} {qualifier : String} {entries : List (String × String)}

/-- Since no qualifier occurs twice, every entry is found. -/
theorem mem_iff_lookup (hsorted : entries.Pairwise fun a b => a.1 < b.1)
    (entry : String × String) : entry ∈ entries ↔ entries.lookup entry.1 = some entry.2 := by
  induction entries with
  | nil => simp
  | cons first rest ih =>
    obtain ⟨hfirst, hrest⟩ := List.pairwise_cons.mp hsorted
    rw [lookup_cons_eq_ite, List.mem_cons]
    split_ifs with hkey
    · have hnot : entry ∉ rest := fun hmem => String.lt_irrefl _ (hkey ▸ hfirst entry hmem)
      simp [hnot, Prod.ext_iff, hkey, eq_comm]
    · have hne : entry ≠ first := fun h => hkey (h ▸ rfl)
      simp [hne, ih hrest]

theorem nodup_entries (bindings : Bindings) : bindings.entries.Nodup := by
  refine bindings.sorted.imp ?_
  rintro entry _ hlt rfl
  exact String.lt_irrefl _ hlt

theorem ext_lookup? (h : ∀ qualifier, bindings.lookup? qualifier = other.lookup? qualifier) :
    bindings = other := by
  have hmem (entry : String × String) : entry ∈ bindings.entries ↔ entry ∈ other.entries := by
    rw [mem_iff_lookup bindings.sorted, mem_iff_lookup other.sorted]
    exact Eq.congr (h entry.1) rfl
  have hperm : bindings.entries.Perm other.entries :=
    (List.perm_ext_iff_of_nodup bindings.nodup_entries other.nodup_entries).mpr hmem
  have hentries : bindings.entries = other.entries :=
    hperm.eq_of_pairwise (fun _ _ _ _ hab hba => absurd hab (String.lt_asymm hba))
      bindings.sorted other.sorted
  cases bindings
  cases other
  congr

theorem insert_comm {first second : String} (hne : first ≠ second) (bindings : Bindings)
    (uri uri' : String) :
    (bindings.insert first uri).insert second uri' =
      (bindings.insert second uri').insert first uri := by
  refine ext_lookup? fun qualifier => ?_
  simp only [lookup?_insert]
  split_ifs with hsecond hfirst
  · exact absurd (hfirst.symm.trans hsecond) hne
  · rfl
  · rfl
  · rfl

theorem lookup?_foldl_insert (hdistinct : (entries.map Prod.fst).Nodup) :
    (entries.foldl (fun bindings entry => bindings.insert entry.1 entry.2) bindings).lookup?
        qualifier =
      (entries.lookup qualifier).or (bindings.lookup? qualifier) := by
  induction entries generalizing bindings with
  | nil => rfl
  | cons entry rest ih =>
    obtain ⟨hentry, hrest⟩ := List.nodup_cons.mp hdistinct
    rw [List.foldl_cons, ih hrest, lookup?_insert, lookup_cons_eq_ite]
    split_ifs with hkey
    · have hnone : rest.lookup qualifier = none := by
        refine List.lookup_eq_none_iff.mpr fun other hother => bne_iff_ne.mpr fun heq => hentry ?_
        exact List.mem_map.mpr ⟨other, hother, heq.symm.trans hkey⟩
      rw [hnone]
      rfl
    · rfl

theorem lookup?_ofList (hdistinct : (entries.map Prod.fst).Nodup) :
    (ofList entries).lookup? qualifier = entries.lookup qualifier := by
  rw [ofList, lookup?_foldl_insert hdistinct, lookup?_empty, Option.or_none]

end XPathValues.Bindings
