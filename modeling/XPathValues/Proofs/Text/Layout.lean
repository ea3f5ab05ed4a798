import Mathlib.Data.List.TakeWhile
import Mathlib.Tactic
import XPathValues.Proofs.Text.Whitespace
import XPathValues.Text.Digits

/-!
# Runs of digits in a text

A run of digits ends at the first other character, so what the writers put together is taken apart
again at the same places.
-/

namespace XPathValues.Text

theorem allDigits_iff {text : List Char} :
    allDigits text = true ↔ ∀ c ∈ text, c.isDigit = true := by
  simp [allDigits]

theorem takeWhile_append_cons {test : Char → Bool} {run rest : List Char} {c : Char}
    (hrun : ∀ d ∈ run, test d = true) (hc : test c = false) :
    (run ++ c :: rest).takeWhile test = run := by
  rw [List.takeWhile_append_of_pos hrun, List.takeWhile_cons_of_neg (by simp [hc]),
    List.append_nil]

theorem dropWhile_append_cons {test : Char → Bool} {run rest : List Char} {c : Char}
    (hrun : ∀ d ∈ run, test d = true) (hc : test c = false) :
    (run ++ c :: rest).dropWhile test = c :: rest := by
  rw [List.dropWhile_append_of_pos hrun, List.dropWhile_cons_of_neg (by simp [hc])]

theorem takeWhile_of_all {test : Char → Bool} {run : List Char} (hrun : ∀ d ∈ run, test d = true) :
    run.takeWhile test = run := by
  exact List.takeWhile_eq_self_iff.mpr hrun

theorem dropWhile_of_all {test : Char → Bool} {run : List Char} (hrun : ∀ d ∈ run, test d = true) :
    run.dropWhile test = [] := by
  exact List.dropWhile_eq_nil_iff.mpr hrun

theorem cutAt?_append_cons {test : Char → Bool} {before after : List Char} {c : Char}
    (hbefore : ∀ d ∈ before, test d = false) (hc : test c = true) :
    cutAt? test (before ++ c :: after) = some (before, after) := by
  induction before with
  | nil => simp [cutAt?, hc]
  | cons d before ih =>
    have hd := hbefore d (by simp)
    have hrest := ih fun e he => hbefore e (by simp [he])
    simp [cutAt?, hd, hrest]

theorem le_length_padded (width n : ℕ) : width ≤ (padded width n).length := by
  simp only [padded, List.length_append, List.length_replicate]
  omega

theorem length_padded {width n : ℕ} (hwidth : 0 < width) (h : n < 10 ^ width) :
    (padded width n).length = width := by
  have hlength := (Nat.length_toDigits_le_iff (b := 10) (by decide) hwidth).mpr h
  simp only [padded, List.length_append, List.length_replicate]
  omega

theorem padded_ne_nil (width n : ℕ) : padded width n ≠ [] := by
  simp [padded, Nat.toDigits_ne_nil]

theorem head?_toDigits_ne_zero {n : ℕ} (h : n ≠ 0) : (Nat.toDigits 10 n).head? ≠ some '0' := by
  induction n using Nat.strong_induction_on with
  | _ n ih =>
    rcases Nat.lt_or_ge n 10 with hlt | hge
    · rw [Nat.toDigits_of_lt_base hlt]
      have hdigit : ∀ m < 10, m ≠ 0 → [Nat.digitChar m].head? ≠ some '0' := by decide
      exact hdigit n hlt h
    · rw [Nat.toDigits_of_base_le (by decide) hge,
        List.head?_append_of_ne_nil _ Nat.toDigits_ne_nil]
      exact ih (n / 10) (by omega) (by omega)

theorem getLast?_toDigits (n : ℕ) : (Nat.toDigits 10 n).getLast? = some (n % 10).digitChar := by
  rcases Nat.lt_or_ge n 10 with hlt | hge
  · rw [Nat.toDigits_of_lt_base hlt, Nat.mod_eq_of_lt hlt]
    rfl
  · rw [Nat.toDigits_of_base_le (by decide) hge, List.getLast?_concat]

theorem head?_padded_ne_zero {width n : ℕ} (h : width < (padded width n).length) (hn : n ≠ 0) :
    (padded width n).head? ≠ some '0' := by
  have hwide : width - (Nat.toDigits 10 n).length = 0 := by
    simp only [padded, List.length_append, List.length_replicate] at h
    omega
  rw [padded, hwide, List.replicate_zero, List.nil_append]
  exact head?_toDigits_ne_zero hn

theorem exists_padded_two {n : ℕ} (h : n < 100) : ∃ a b, padded 2 n = [a, b] :=
  List.length_eq_two.mp (length_padded (by decide) h)

@[simp] theorem wholeNumber?_padded (width n : ℕ) : wholeNumber? (padded width n) = some n := by
  simp [wholeNumber?, allDigits_padded, padded_ne_nil]

theorem twoDigits?_padded {n : ℕ} (h : n < 100) : twoDigits? (padded 2 n) = some n := by
  rw [twoDigits?, if_pos (length_padded (by decide) h), wholeNumber?_padded]

theorem padded_inj {width m n : ℕ} (h : padded width m = padded width n) : m = n := by
  rw [← digitsValue_padded width m, h, digitsValue_padded]

theorem splitSign_of_isDigit {c : Char} {rest : List Char} (h : c.isDigit = true) :
    splitSign (c :: rest) = (false, c :: rest) := by
  unfold splitSign
  split
  · next heq => simp_all
  · next heq => simp_all
  · rfl

theorem dropLeadingZeros_of_head? {digits : List Char} (h : digits.head? ≠ some '0') :
    dropLeadingZeros digits = digits := by
  cases digits with
  | nil => rfl
  | cons c rest => exact List.dropWhile_cons_of_neg (by simpa using h)

theorem dropTrailingZeros_append (digits : List Char) :
    ∃ count, digits = dropTrailingZeros digits ++ List.replicate count '0' := by
  have hzeros : ∀ c ∈ digits.reverse.takeWhile (· == '0'), c = '0' := by
    intro c hc
    simpa using List.mem_takeWhile_imp hc
  refine ⟨(digits.reverse.takeWhile (· == '0')).length, ?_⟩
  rw [← List.reverse_replicate, ← List.eq_replicate_of_mem hzeros, dropTrailingZeros,
    ← List.reverse_append, List.takeWhile_append_dropWhile, List.reverse_reverse]

theorem dropTrailingZeros_of_getLast? {digits : List Char} (h : digits.getLast? ≠ some '0') :
    dropTrailingZeros digits = digits := by
  have hhead : digits.reverse.head? ≠ some '0' := by simpa using h
  rw [dropTrailingZeros]
  cases hrev : digits.reverse with
  | nil => simpa using hrev.symm
  | cons c rest =>
    rw [hrev] at hhead
    rw [List.dropWhile_cons_of_neg (by simpa using hhead), ← hrev, List.reverse_reverse]

theorem isSpace_of_isDigit {c : Char} (h : c.isDigit = true) : isSpace c = false :=
  not_isSpace_of (by decide) h

end XPathValues.Text
