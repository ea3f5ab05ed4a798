import Mathlib.Data.List.Sort
import Mathlib.Tactic
import XPathValues.Text.Ranges

/-!
# Comparing sets of characters

Whether one set lies in another is decided on the ranges, without a look at the characters: the two
lists are used up together in increasing order.
-/

namespace XPathValues.Text.CodeRanges

variable {ranges small large : CodeRanges} {low high code : ℕ} {c : Char}

/-- The first ranges of the list hold every code from `low` to `high`, one range after the other. -/
def covers : CodeRanges → ℕ → ℕ → Bool
  | [], _, _ => false
  | range :: rest, low, high =>
    range.1 ≤ low && (high ≤ range.2 || covers rest (range.2 + 1) high)

/-- Every range of the first list is covered by ranges of the second; both are in order, so what
ends in front of one range is not looked at for the next. -/
def within : CodeRanges → CodeRanges → Bool
  | [], _ => true
  | range :: rest, large =>
    let ahead := large.dropWhile fun other => other.2 < range.1
    covers ahead range.1 range.2 && within rest ahead

def disjoint (ranges other : CodeRanges) : Bool :=
  ranges.all fun range => other.all fun range' => range.2 < range'.1 || range'.2 < range.1

/-- The ranges by their first codes. -/
def inOrder (ranges : CodeRanges) : CodeRanges :=
  List.insertionSort (fun range range' => range.1 ≤ range'.1) ranges

theorem exists_of_covers (h : ranges.covers low high = true) (hlow : low ≤ code)
    (hhigh : code ≤ high) : ∃ range ∈ ranges, range.1 ≤ code ∧ code ≤ range.2 := by
  induction ranges generalizing low with
  | nil => cases h
  | cons range rest ih =>
    simp only [covers, Bool.and_eq_true, Bool.or_eq_true, decide_eq_true_eq] at h
    obtain ⟨hfirst, hrest⟩ := h
    by_cases hhere : code ≤ range.2
    · exact ⟨range, List.mem_cons_self, hfirst.trans hlow, hhere⟩
    · have hcovers := hrest.resolve_left fun hend => hhere (hhigh.trans hend)
      obtain ⟨found, hmem, hfound⟩ := ih hcovers (Nat.lt_of_not_le hhere)
      exact ⟨found, List.mem_cons_of_mem _ hmem, hfound⟩

theorem contains_of_subset (h : small ⊆ large) (hc : small.contains c = true) :
    large.contains c = true := by
  obtain ⟨range, hmem, hcode⟩ := (contains_iff small c).mp hc
  exact (contains_iff large c).mpr ⟨range, h hmem, hcode⟩

theorem contains_of_within (h : small.within large = true) (hc : small.contains c = true) :
    large.contains c = true := by
  induction small generalizing large with
  | nil => cases hc
  | cons range rest ih =>
    obtain ⟨hcovers, hrest⟩ := Bool.and_eq_true_iff.mp h
    have hahead := (List.dropWhile_sublist (l := large) fun other => other.2 < range.1).subset
    refine contains_of_subset hahead ?_
    obtain ⟨found, hmem, hlow, hhigh⟩ := (contains_iff _ c).mp hc
    rcases List.mem_cons.mp hmem with rfl | hmem
    · exact (contains_iff _ c).mpr (exists_of_covers hcovers hlow hhigh)
    · exact ih hrest ((contains_iff _ c).mpr ⟨found, hmem, hlow, hhigh⟩)

theorem contains_of_disjoint (h : small.disjoint large = true) (hc : small.contains c = true) :
    large.contains c = false := by
  refine Bool.eq_false_of_not_eq_true fun hother => ?_
  obtain ⟨range, hmem, hlow, hhigh⟩ := (contains_iff small c).mp hc
  obtain ⟨range', hmem', hlow', hhigh'⟩ := (contains_iff large c).mp hother
  have hapart := List.all_eq_true.mp (List.all_eq_true.mp h range hmem) range' hmem'
  simp only [Bool.or_eq_true, decide_eq_true_eq] at hapart
  omega

theorem contains_append (ranges other : CodeRanges) (c : Char) :
    contains (ranges ++ other) c = (contains ranges c || contains other c) :=
  List.any_append

theorem contains_of_inOrder (hc : ranges.inOrder.contains c = true) : ranges.contains c = true :=
  contains_of_subset (fun _ hmem => (List.mem_insertionSort _).mp hmem) hc

end XPathValues.Text.CodeRanges
