import Mathlib.Tactic
import XPathValues.Text.Whitespace

/-!
# The words of a text

White space cuts a text into words, and more of it in one place makes no difference to them.
Collapsing keeps the words, leaves one space between any two of them and none at the ends, so a text
that is collapsed already stays as it is.
-/

namespace XPathValues.Text

variable {c d : Char} {gap word text rest before after : List Char} {ws : List (List Char)}

theorem isSpace_iff : isSpace c = true ↔ c ∈ [' ', '\t', '\n', '\r'] := by
  simp [isSpace, or_assoc]

/-- It takes four characters to know that a class of characters is apart from white space. -/
theorem not_isSpace_of {test : Char → Bool} (htest : [' ', '\t', '\n', '\r'].any test = false)
    (h : test c = true) : isSpace c = false := by
  by_contra hspace
  rw [Bool.not_eq_false, isSpace_iff] at hspace
  exact List.any_eq_false.mp htest c hspace h

def IsWord (word : List Char) : Prop :=
  word ≠ [] ∧ ∀ c ∈ word, isSpace c = false

/-- The words of a text in order. Each of them takes all characters between white space, or an end
of the text, and white space or an end. -/
inductive HasWords : List Char → List (List Char) → Prop
  | blank {gap : List Char} (hgap : ∀ c ∈ gap, isSpace c = true) : HasWords gap []
  | cons {gap word rest : List Char} {others : List (List Char)}
      (hgap : ∀ c ∈ gap, isSpace c = true) (hword : IsWord word)
      (hend : ∀ c ∈ rest.head?, isSpace c = true) (hrest : HasWords rest others) :
      HasWords (gap ++ word ++ rest) (word :: others)

/-! ## White space between words -/

theorem consWord_of_end (hend : ∀ d ∈ rest.head?, isSpace d = true) :
    consWord c rest ws = [c] :: ws := by
  cases rest with
  | nil => rfl
  | cons d rest =>
    have hd : isSpace d = true := hend d rfl
    cases ws with
    | nil => rfl
    | cons word others => exact if_pos hd

theorem consWord_of_not_isSpace (hd : isSpace d = false) :
    consWord c (d :: rest) (word :: ws) = (c :: word) :: ws :=
  if_neg (by simp [hd])

theorem words_cons_of_not_isSpace (hc : isSpace c = false) :
    words (c :: text) = consWord c text (words text) :=
  if_neg (by simp [hc])

theorem exists_words_cons (hc : isSpace c = false) (text : List Char) :
    ∃ word others, words (c :: text) = word :: others := by
  rw [words_cons_of_not_isSpace hc]
  unfold consWord
  split
  · split <;> exact ⟨_, _, rfl⟩
  · exact ⟨_, _, rfl⟩

theorem words_append_cons (hc : isSpace c = true) (before after : List Char) :
    words (before ++ c :: after) = words before ++ words after := by
  induction before with
  | nil => exact words_cons_of_isSpace hc after
  | cons d before ih =>
    rw [List.cons_append]
    by_cases hd : isSpace d = true
    · rw [words_cons_of_isSpace hd, words_cons_of_isSpace hd, ih]
    · rw [Bool.not_eq_true] at hd
      rw [words_cons_of_not_isSpace hd, words_cons_of_not_isSpace hd, ih]
      -- The next character decides whether this one ends a word, and the words behind `c` do not.
      cases before with
      | nil =>
        rw [List.nil_append, consWord_of_end (by simpa using hc), consWord_of_end (by simp)]
        rfl
      | cons e before =>
        by_cases he : isSpace e = true
        · rw [consWord_of_end (by simpa using he), consWord_of_end (by simpa using he)]
          rfl
        · rw [Bool.not_eq_true] at he
          obtain ⟨word, others, hwords⟩ := exists_words_cons he before
          rw [hwords, List.cons_append, List.cons_append, consWord_of_not_isSpace he,
            consWord_of_not_isSpace he, List.cons_append]

theorem words_gap_append (hgap : ∀ c ∈ gap, isSpace c = true) (text : List Char) :
    words (gap ++ text) = words text := by
  induction gap with
  | nil => rfl
  | cons c gap ih =>
    obtain ⟨hc, hgap⟩ := List.forall_mem_cons.mp hgap
    rw [List.cons_append, words_cons_of_isSpace hc, ih hgap]

theorem words_append_gap (hgap : ∀ c ∈ gap, isSpace c = true) (text : List Char) :
    words (text ++ gap) = words text := by
  cases gap with
  | nil => rw [List.append_nil]
  | cons c gap =>
    obtain ⟨hc, hgap⟩ := List.forall_mem_cons.mp hgap
    have hnone : words gap = [] := by simpa using words_gap_append hgap []
    rw [words_append_cons hc, hnone, List.append_nil]

theorem IsWord.words_eq (h : IsWord word) : words word = [word] := by
  obtain ⟨hne, hword⟩ := h
  induction word with
  | nil => exact absurd rfl hne
  | cons c rest ih =>
    obtain ⟨hc, hrest⟩ := List.forall_mem_cons.mp hword
    rw [words_cons_of_not_isSpace hc]
    cases rest with
    | nil => rfl
    | cons d rest =>
      rw [ih (List.cons_ne_nil d rest) hrest, consWord_of_not_isSpace (hrest d List.mem_cons_self)]

theorem words_word_append (hword : IsWord word) (hend : ∀ c ∈ rest.head?, isSpace c = true) :
    words (word ++ rest) = word :: words rest := by
  cases rest with
  | nil => rw [List.append_nil, hword.words_eq, words_nil]
  | cons c rest =>
    have hc : isSpace c = true := hend c rfl
    rw [words_append_cons hc, hword.words_eq, words_cons_of_isSpace hc, List.singleton_append]

/-! ## The words are found -/

theorem HasWords.words_eq (h : HasWords text ws) : words text = ws := by
  induction h with
  | blank hgap => simpa using words_gap_append hgap []
  | cons hgap hword hend _ ih =>
    rw [List.append_assoc, words_gap_append hgap, words_word_append hword hend, ih]

theorem HasWords.word_append (hrest : HasWords rest ws) (hword : IsWord word)
    (hend : ∀ c ∈ rest.head?, isSpace c = true) : HasWords (word ++ rest) (word :: ws) :=
  .cons (List.forall_mem_nil _) hword hend hrest

theorem HasWords.cons_space (hc : isSpace c = true) (h : HasWords text ws) :
    HasWords (c :: text) ws := by
  cases h with
  | blank hgap => exact .blank (List.forall_mem_cons.mpr ⟨hc, hgap⟩)
  | @cons gap word rest others hgap hword hend hrest =>
    exact .cons (List.forall_mem_cons.mpr ⟨hc, hgap⟩) hword hend hrest

theorem HasWords.cons_letter (hc : isSpace c = false) (hd : isSpace d = false)
    (h : HasWords (d :: rest) ws) : HasWords (c :: d :: rest) (consWord c (d :: rest) ws) := by
  generalize htext : d :: rest = text at h
  cases h with
  | blank hgap => cases hd.symm.trans (hgap d (by simp [← htext]))
  | @cons gap word rest others hgap hword hend hrest =>
    cases gap with
    | cons e gap =>
      obtain rfl : d = e := (List.cons.inj htext).1
      cases hd.symm.trans (hgap d List.mem_cons_self)
    | nil =>
      rw [← htext, consWord_of_not_isSpace hd, htext]
      have hlonger : IsWord (c :: word) :=
        ⟨List.cons_ne_nil c word, List.forall_mem_cons.mpr ⟨hc, hword.2⟩⟩
      exact hrest.word_append hlonger hend

theorem hasWords_words (text : List Char) : HasWords text (words text) := by
  induction text with
  | nil => exact .blank (by simp)
  | cons c text ih =>
    by_cases hc : isSpace c = true
    · rw [words_cons_of_isSpace hc]
      exact ih.cons_space hc
    · rw [Bool.not_eq_true] at hc
      rw [words_cons_of_not_isSpace hc]
      by_cases hend : ∀ d ∈ text.head?, isSpace d = true
      · rw [consWord_of_end hend]
        exact ih.word_append ⟨List.cons_ne_nil c [], by simpa using hc⟩ hend
      · cases text with
        | nil => simp at hend
        | cons d text => exact ih.cons_letter hc (by simpa using hend)

theorem hasWords_iff : HasWords text ws ↔ words text = ws := by
  constructor
  · exact HasWords.words_eq
  · rintro rfl
    exact hasWords_words text

/-! ## The collapsed text -/

theorem words_intercalate (h : ∀ word ∈ ws, IsWord word) : words ([' '].intercalate ws) = ws := by
  induction ws with
  | nil => rfl
  | cons word others ih =>
    obtain ⟨hword, hothers⟩ := List.forall_mem_cons.mp h
    cases others with
    | nil => rw [List.intercalate_singleton, hword.words_eq]
    | cons next others =>
      rw [List.intercalate_cons_cons, List.append_assoc, List.singleton_append,
        words_append_cons rfl, hword.words_eq, ih hothers, List.singleton_append]

theorem words_collapseChars (text : List Char) : words (collapseChars text) = words text :=
  words_intercalate (words_sound text)

theorem collapse_collapse (given : String) : collapse (collapse given) = collapse given := by
  rw [collapse, toList_collapse, collapseChars, words_collapseChars]
  rfl

theorem collapse_padded {before given after : String}
    (hbefore : ∀ c ∈ before.toList, isSpace c = true)
    (hafter : ∀ c ∈ after.toList, isSpace c = true) :
    collapse (before ++ given ++ after) = collapse given := by
  rw [collapse, collapse, collapseChars, collapseChars, String.toList_append, String.toList_append,
    words_append_gap hafter, words_gap_append hbefore]

theorem collapse_of_not_isSpace (h : ∀ c ∈ text, isSpace c = false) :
    collapse (String.ofList text) = String.ofList text := by
  rw [collapse, String.toList_ofList, collapseChars]
  rcases eq_or_ne text [] with rfl | hne
  · rfl
  · rw [IsWord.words_eq ⟨hne, h⟩, List.intercalate_singleton]

/-- The only white space are single spaces between other characters. -/
structure IsCollapsed (text : List Char) : Prop where
  onlySpaces : '\t' ∉ text ∧ '\n' ∉ text ∧ '\r' ∉ text
  notLeading : text.head? ≠ some ' '
  notTrailing : text.getLast? ≠ some ' '
  notDoubled : ¬ [' ', ' '] <:+: text

theorem IsWord.not_mem (h : IsWord word) (hc : isSpace c = true) : c ∉ word := by
  intro hmem
  cases hc.symm.trans (h.2 c hmem)

theorem IsWord.doubled_append_iff (h : IsWord word) (rest : List Char) :
    [' ', ' '] <:+: word ++ rest ↔ [' ', ' '] <:+: rest := by
  have hspace : ' ' ∉ word := h.not_mem rfl
  clear h
  induction word with
  | nil => rfl
  | cons c word ih =>
    have hc : ' ' ≠ c := List.ne_of_not_mem_cons hspace
    rw [List.cons_append, List.infix_cons_iff, List.cons_prefix_cons, or_iff_right fun h => hc h.1]
    exact ih (List.not_mem_of_not_mem_cons hspace)

theorem IsWord.head?_append_ne (h : IsWord word) (rest : List Char) :
    (word ++ rest).head? ≠ some ' ' := by
  rw [List.head?_append_of_ne_nil _ h.1]
  exact fun hhead => h.not_mem rfl (List.mem_of_head? hhead)

theorem IsWord.isCollapsed (h : IsWord word) : IsCollapsed word where
  onlySpaces := ⟨h.not_mem rfl, h.not_mem rfl, h.not_mem rfl⟩
  notLeading := by simpa using h.head?_append_ne []
  notTrailing hlast := h.not_mem rfl (List.mem_of_getLast? hlast)
  notDoubled := by simpa using h.doubled_append_iff []

theorem IsCollapsed.word_append (hword : IsWord word) (h : IsCollapsed text) (hne : text ≠ []) :
    IsCollapsed (word ++ ' ' :: text) where
  onlySpaces := by
    have hother : ∀ c, isSpace c = true → c ≠ ' ' → c ∉ text → c ∉ word ++ ' ' :: text := by
      intro c hc hspace htext
      simp [hword.not_mem hc, hspace, htext]
    obtain ⟨htab, hfeed, hreturn⟩ := h.onlySpaces
    exact ⟨hother _ rfl (by decide) htab, hother _ rfl (by decide) hfeed,
      hother _ rfl (by decide) hreturn⟩
  notLeading := hword.head?_append_ne _
  notTrailing := by
    rw [List.getLast?_append_of_ne_nil _ (List.cons_ne_nil _ _), ← List.singleton_append,
      List.getLast?_append_of_ne_nil _ hne]
    exact h.notTrailing
  notDoubled := by
    rw [hword.doubled_append_iff, List.infix_cons_iff, not_or]
    refine ⟨fun hprefix => ?_, h.notDoubled⟩
    -- The second of the two spaces would be the first character of the text.
    obtain ⟨rest, hrest⟩ := (List.cons_prefix_cons.mp hprefix).2
    exact h.notLeading (by rw [← hrest]; rfl)

theorem isCollapsed_intercalate (h : ∀ word ∈ ws, IsWord word) :
    IsCollapsed ([' '].intercalate ws) := by
  induction ws with
  | nil => exact ⟨by simp, by simp, by simp, by simp⟩
  | cons word others ih =>
    obtain ⟨hword, hothers⟩ := List.forall_mem_cons.mp h
    cases others with
    | nil =>
      rw [List.intercalate_singleton]
      exact hword.isCollapsed
    | cons next others =>
      have hne : [' '].intercalate (next :: others) ≠ [] := by
        intro hnil
        have hwords := words_intercalate hothers
        rw [hnil] at hwords
        cases hwords
      rw [List.intercalate_cons_cons, List.append_assoc, List.singleton_append]
      exact (ih hothers).word_append hword hne

/-- Each text has its words, and what it collapses to has the same. -/
structure CollapsesTo (given collapsed : String) : Prop where
  isCollapsed : IsCollapsed collapsed.toList
  oneSplit : ∃! ws, HasWords given.toList ws
  sameWords : ∀ ws, HasWords collapsed.toList ws ↔ HasWords given.toList ws
  stays : collapse collapsed = collapsed

theorem collapsesTo_collapse (given : String) : CollapsesTo given (collapse given) where
  isCollapsed := by
    rw [toList_collapse]
    exact isCollapsed_intercalate (words_sound given.toList)
  oneSplit := ⟨_, hasWords_words given.toList, fun _ h => h.words_eq.symm⟩
  sameWords ws := by rw [hasWords_iff, hasWords_iff, toList_collapse, words_collapseChars]
  stays := collapse_collapse given

end XPathValues.Text
