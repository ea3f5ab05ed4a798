import Mathlib.Tactic
import XPathValues.Proofs.QName
import XPathValues.Proofs.Text.Ranges

/-!
# Lexical names and the grammar of XML

In the grammar of XML, a name is made of characters from fixed ranges, and a qualified name is one
or two names without a colon, with a colon between. The reader tells the characters by whether they
are alphabetic or numerals. It accepts by the same productions over its own characters, so the two
agree on every text of which they judge all characters alike, and every character that they judge
differently makes a text on which they disagree.
-/

namespace XPathValues.Text

/-! ## The grammar -/

/-- What may start a name, and what may stand in it. -/
structure NameClasses where
  start : Char → Bool
  char : Char → Bool

namespace NameClasses

/-- The ranges of `NameStartChar` but for the colon. -/
def startRanges : CodeRanges :=
  [(0x41, 0x5A), (0x5F, 0x5F), (0x61, 0x7A), (0xC0, 0xD6), (0xD8, 0xF6), (0xF8, 0x2FF),
   (0x370, 0x37D), (0x37F, 0x1FFF), (0x200C, 0x200D), (0x2070, 0x218F), (0x2C00, 0x2FEF),
   (0x3001, 0xD7FF), (0xF900, 0xFDCF), (0xFDF0, 0xFFFD), (0x10000, 0xEFFFF)]

/-- The ranges that `NameChar` has besides. -/
def laterRanges : CodeRanges :=
  [(0x2D, 0x2E), (0x30, 0x39), (0xB7, 0xB7), (0x300, 0x36F), (0x203F, 0x2040)]

/-- The productions `NameStartChar` and `NameChar` of XML. -/
def xml : NameClasses where
  start c := c == ':' || startRanges.contains c
  char c := c == ':' || startRanges.contains c || laterRanges.contains c

/-- What the reader goes by. -/
def alphabetic : NameClasses := ⟨isNameStart, isNameChar⟩

variable (classes : NameClasses)

/-- A character that starts a name, and any number of characters that stand in one. -/
inductive IsName : List Char → Prop
  | mk {c rest} (hstart : classes.start c = true) (hrest : ∀ d ∈ rest, classes.char d = true) :
      IsName (c :: rest)

structure IsNCName (name : List Char) : Prop where
  isName : classes.IsName name
  noColon : ':' ∉ name

inductive IsQName : List Char → Prop
  | unprefixed {name} (hname : classes.IsNCName name) : IsQName name
  | prefixed {qualifier part} (hqualifier : classes.IsNCName qualifier)
      (hpart : classes.IsNCName part) : IsQName (qualifier ++ ':' :: part)

/-- The first classes allow the character where the second do not, as the first of a name or as a
later one. -/
def Exceeds (other : NameClasses) (c : Char) : Prop :=
  c ≠ ':' ∧ (classes.start c = true ∧ other.start c = false ∨
    classes.char c = true ∧ other.char c = false)

instance (other : NameClasses) (c : Char) : Decidable (classes.Exceeds other c) :=
  inferInstanceAs (Decidable (_ ∧ _))

variable {classes} {other : NameClasses} {text name : List Char} {c : Char}

theorem IsNCName.mono (hname : classes.IsNCName name)
    (h : ∀ c ∈ name, c ≠ ':' →
      (classes.start c = true → other.start c = true) ∧
        (classes.char c = true → other.char c = true)) : other.IsNCName name := by
  obtain ⟨@⟨first, rest, hstart, hrest⟩, hcolon⟩ := hname
  have hne {c : Char} (hc : c ∈ first :: rest) : c ≠ ':' := fun heq => hcolon (heq ▸ hc)
  have hfirst : first ∈ first :: rest := List.mem_cons_self
  refine ⟨⟨(h first hfirst (hne hfirst)).1 hstart, fun c hc => ?_⟩, hcolon⟩
  have hmem : c ∈ first :: rest := List.mem_cons_of_mem _ hc
  exact (h c hmem (hne hmem)).2 (hrest c hc)

theorem IsQName.mono (htext : classes.IsQName text)
    (h : ∀ c ∈ text, c ≠ ':' →
      (classes.start c = true → other.start c = true) ∧
        (classes.char c = true → other.char c = true)) : other.IsQName text := by
  cases htext with
  | unprefixed hname => exact .unprefixed (hname.mono h)
  | prefixed hqualifier hpart =>
    refine .prefixed (hqualifier.mono fun c hc => h c ?_) (hpart.mono fun c hc => h c ?_)
    · exact List.mem_append_left _ hc
    · exact List.mem_append_right _ (List.mem_cons_of_mem _ hc)

/-- A text that is a name over the first classes only holds a character that only they allow. -/
theorem IsQName.exists_exceeds (htext : classes.IsQName text) (hother : ¬ other.IsQName text) :
    ∃ c ∈ text, classes.Exceeds other c := by
  by_contra! hnone
  refine hother (htext.mono fun c hc hne => ?_)
  have hboth := hnone c hc
  simp only [Exceeds, not_and, not_or, Bool.not_eq_false] at hboth
  exact hboth hne

theorem IsNCName.ne_nil (h : classes.IsNCName name) : name ≠ [] := by
  obtain ⟨⟨_, _⟩, _⟩ := h
  exact List.cons_ne_nil _ _

theorem isQName_iff_of_short (h : text.length < 3) :
    classes.IsQName text ↔ classes.IsNCName text := by
  refine ⟨fun htext => ?_, .unprefixed⟩
  cases htext with
  | unprefixed hname => exact hname
  | prefixed hqualifier hpart =>
    have hqualifier := List.length_pos_of_ne_nil hqualifier.ne_nil
    have hpart := List.length_pos_of_ne_nil hpart.ne_nil
    simp only [List.length_append, List.length_cons] at h
    omega

theorem isQName_singleton_iff : classes.IsQName [c] ↔ classes.start c = true ∧ c ≠ ':' := by
  rw [isQName_iff_of_short (by simp)]
  constructor
  · rintro ⟨⟨hstart, _⟩, hcolon⟩
    exact ⟨hstart, by simpa [eq_comm] using hcolon⟩
  · rintro ⟨hstart, hne⟩
    exact ⟨⟨hstart, by simp⟩, by simpa [eq_comm] using hne⟩

theorem isQName_a_cons_iff (ha : classes.start 'a' = true) :
    classes.IsQName ['a', c] ↔ classes.char c = true ∧ c ≠ ':' := by
  rw [isQName_iff_of_short (by simp)]
  constructor
  · rintro ⟨⟨_, hrest⟩, hcolon⟩
    exact ⟨hrest c (by simp), by simpa [eq_comm] using hcolon⟩
  · rintro ⟨hchar, hne⟩
    exact ⟨⟨ha, by simpa using hchar⟩, by simpa [eq_comm] using hne⟩

/-- A character that only the first classes allow is a name over them only, by itself or behind a
letter. -/
theorem Exceeds.exists_isQName (h : classes.Exceeds other c) (hclasses : classes.start 'a' = true)
    (hother : other.start 'a' = true) :
    ∃ text, (text = [c] ∨ text = ['a', c]) ∧ classes.IsQName text ∧ ¬ other.IsQName text := by
  obtain ⟨hne, ⟨hstart, hnot⟩ | ⟨hchar, hnot⟩⟩ := h
  · refine ⟨_, .inl rfl, isQName_singleton_iff.mpr ⟨hstart, hne⟩, ?_⟩
    rw [isQName_singleton_iff, hnot]
    simp
  · refine ⟨_, .inr rfl, (isQName_a_cons_iff hclasses).mpr ⟨hchar, hne⟩, ?_⟩
    rw [isQName_a_cons_iff hother, hnot]
    simp

end NameClasses

/-! ## The reader -/

open NameClasses

theorem isNCName_iff {name : List Char} : isNCName name = true ↔ alphabetic.IsNCName name := by
  constructor
  · intro h
    refine ⟨?_, colon_not_mem_of_isNCName h⟩
    cases name with
    | nil => cases h
    | cons c rest =>
      obtain ⟨hstart, hrest⟩ := Bool.and_eq_true_iff.mp h
      exact ⟨hstart, List.all_eq_true.mp hrest⟩
  · rintro ⟨⟨hstart, hrest⟩, _⟩
    exact Bool.and_eq_true_iff.mpr ⟨hstart, List.all_eq_true.mpr hrest⟩

/-- The reader accepts by the productions of the grammar, over its own characters. -/
theorem isSome_splitQName?_iff {text : String} :
    (splitQName? text).isSome = true ↔ alphabetic.IsQName text.toList := by
  rw [QName.isSome_splitQName?_iff]
  constructor
  · rintro ⟨⟨_, _ | qualifier, part⟩, ⟨hqualifier, hpart⟩, rfl⟩
    · exact .unprefixed (isNCName_iff.mp hpart)
    · rw [QName.toList_toText_of_some rfl]
      exact .prefixed (isNCName_iff.mp (hqualifier qualifier rfl)) (isNCName_iff.mp hpart)
  · intro h
    generalize hchars : text.toList = chars at h
    cases h with
    | unprefixed hname =>
      refine ⟨⟨none, none, text⟩, ⟨by simp, ?_⟩, rfl⟩
      exact isNCName_iff.mpr (hchars ▸ hname)
    | @prefixed qualifier part hqualifier hpart =>
      refine ⟨⟨none, some (String.ofList qualifier), String.ofList part⟩, ⟨?_, ?_⟩, ?_⟩
      · simpa using isNCName_iff.mpr hqualifier
      · simpa using isNCName_iff.mpr hpart
      · apply String.toList_injective
        rw [QName.toList_toText_of_some rfl, hchars]
        simp

/-! ## What is accepted beyond the grammar -/

/-- Alphabetic characters that the grammar does not allow: the ordinal indicators, the micro sign
and the enclosed letters. -/
def takenLetters : CodeRanges :=
  [(0xAA, 0xAA), (0xB5, 0xB5), (0xBA, 0xBA), (0x24B6, 0x24E9)]

/-- Numerals that the grammar does not allow: superscripts, fractions and enclosed numbers. -/
def takenNumerals : CodeRanges :=
  [(0xB2, 0xB3), (0xB9, 0xB9), (0xBC, 0xBE), (0x2460, 0x249B), (0x24EA, 0x24FF), (0x2776, 0x2793)]

/-- Alphabetic marks, which the grammar does not allow as the first character of a name. -/
def takenMarks : CodeRanges :=
  [(0x345, 0x345), (0x363, 0x36F)]

def takenRanges : CodeRanges :=
  takenLetters ++ takenNumerals ++ takenMarks

section

variable {c : Char}

theorem isAlphabetic_of_not_ascii (h : 0x80 ≤ c.toNat) :
    isAlphabetic c = alphabeticRanges.contains c := by
  have halpha : c.isAlpha = false := by
    refine Bool.eq_false_of_not_eq_true fun halpha => ?_
    have hz : c.val ≤ 'z'.val := by
      unfold Char.isAlpha Char.isUpper Char.isLower at halpha
      simp only [Bool.or_eq_true, Bool.and_eq_true, decide_eq_true_eq] at halpha
      rcases halpha with ⟨_, hle⟩ | ⟨_, hle⟩
      · exact UInt32.le_trans hle (by decide)
      · exact hle
    have hcode : c.toNat ≤ 122 := hz
    omega
  simp [isAlphabetic, halpha, h]

theorem isNumeral_of_not_ascii (h : 0x80 ≤ c.toNat) : isNumeral c = numeralRanges.contains c := by
  have hdigit : c.isDigit = false := by
    refine Bool.eq_false_of_not_eq_true fun hdigit => ?_
    have hnine : c.toNat ≤ 57 := (Char.isDigit_iff_toNat.mp hdigit).2
    omega
  simp [isNumeral, hdigit, h]

theorem alphabetic_start_of_not_ascii (h : 0x80 ≤ c.toNat) :
    alphabetic.start c = alphabeticRanges.contains c := by
  have hline : (c == '_') = false := beq_false_of_ne (by rintro rfl; exact absurd h (by decide))
  simp only [alphabetic, isNameStart, hline, isAlphabetic_of_not_ascii h, Bool.false_or]

theorem alphabetic_char_of_not_ascii (h : 0x80 ≤ c.toNat) :
    alphabetic.char c =
      (alphabeticRanges.contains c || numeralRanges.contains c || c == '\u00B7') := by
  have hline : (c == '_') = false := beq_false_of_ne (by rintro rfl; exact absurd h (by decide))
  have hhyphen : (c == '-') = false := beq_false_of_ne (by rintro rfl; exact absurd h (by decide))
  have hstop : (c == '.') = false := beq_false_of_ne (by rintro rfl; exact absurd h (by decide))
  simp only [alphabetic, isNameChar, isAlphabetic_of_not_ascii h, isNumeral_of_not_ascii h, hline,
    hhyphen, hstop, Bool.or_false]

theorem xml_start_of_ne_colon (h : c ≠ ':') : xml.start c = startRanges.contains c := by
  simp [xml, h]

theorem xml_char_of_ne_colon (h : c ≠ ':') :
    xml.char c = (startRanges.contains c || laterRanges.contains c) := by
  simp only [xml, beq_false_of_ne h, Bool.false_or]

theorem not_exceeds_of_ascii (h : c.toNat < 0x80) :
    ¬ alphabetic.Exceeds xml c ∧ ¬ xml.Exceeds alphabetic c := by
  have hall : ∀ code < 0x80, ¬ alphabetic.Exceeds xml (Char.ofNat code) ∧
      ¬ xml.Exceeds alphabetic (Char.ofNat code) := by decide +kernel
  simpa only [Char.ofNat_toNat] using hall c.toNat h

theorem contains_of_alphabeticRanges (h : alphabeticRanges.contains c = true) :
    takenLetters.contains c = true ∨ takenMarks.contains c = true ∨
      startRanges.contains c = true := by
  have hwithin : alphabeticRanges.within
      (CodeRanges.inOrder (takenLetters ++ (takenMarks ++ startRanges))) = true := by
    decide +kernel
  simpa only [CodeRanges.contains_append, Bool.or_eq_true] using
    CodeRanges.contains_of_inOrder (CodeRanges.contains_of_within hwithin h)

theorem contains_of_numeralRanges (h : numeralRanges.contains c = true) :
    takenNumerals.contains c = true ∨ startRanges.contains c = true := by
  have hwithin :
      numeralRanges.within (CodeRanges.inOrder (takenNumerals ++ startRanges)) = true := by
    decide +kernel
  simpa only [CodeRanges.contains_append, Bool.or_eq_true] using
    CodeRanges.contains_of_inOrder (CodeRanges.contains_of_within hwithin h)

theorem contains_takenRanges_iff :
    takenRanges.contains c = true ↔
      takenLetters.contains c = true ∨ takenNumerals.contains c = true ∨
        takenMarks.contains c = true := by
  simp only [takenRanges, CodeRanges.contains_append, Bool.or_eq_true, or_assoc]

theorem contains_of_exceeds (h : alphabetic.Exceeds xml c) : takenRanges.contains c = true := by
  have hcode : 0x80 ≤ c.toNat := Nat.le_of_not_lt fun hascii => (not_exceeds_of_ascii hascii).1 h
  obtain ⟨hne, htaken⟩ := h
  rw [alphabetic_start_of_not_ascii hcode, alphabetic_char_of_not_ascii hcode,
    xml_start_of_ne_colon hne, xml_char_of_ne_colon hne] at htaken
  rw [contains_takenRanges_iff]
  rcases htaken with ⟨halphabetic, hstart⟩ | ⟨hchar, hxml⟩
  · have hcases := contains_of_alphabeticRanges halphabetic
    rw [hstart] at hcases
    tauto
  · obtain ⟨hstart, hlater⟩ := Bool.or_eq_false_iff.mp hxml
    rcases Bool.or_eq_true_iff.mp hchar with hchar | hdot
    · rcases Bool.or_eq_true_iff.mp hchar with halphabetic | hnumeral
      · have hcases := contains_of_alphabeticRanges halphabetic
        have hmarks : takenMarks.contains c = true → laterRanges.contains c = true :=
          CodeRanges.contains_of_within (by decide)
        rw [hstart] at hcases
        rw [hlater] at hmarks
        tauto
      · have hcases := contains_of_numeralRanges hnumeral
        rw [hstart] at hcases
        tauto
    · obtain rfl := eq_of_beq hdot
      exact absurd hlater (by decide)

theorem exceeds_of_contains (h : takenRanges.contains c = true) : alphabetic.Exceeds xml c := by
  have hcode : 0x80 ≤ c.toNat := by
    obtain ⟨range, hmem, hlow, _⟩ := (CodeRanges.contains_iff _ c).mp h
    have habove : ∀ range ∈ takenRanges, 0x80 ≤ range.1 := by decide
    exact (habove range hmem).trans hlow
  have hne : c ≠ ':' := by rintro rfl; exact absurd hcode (by decide)
  refine ⟨hne, ?_⟩
  rw [alphabetic_start_of_not_ascii hcode, alphabetic_char_of_not_ascii hcode,
    xml_start_of_ne_colon hne, xml_char_of_ne_colon hne]
  rcases contains_takenRanges_iff.mp h with h | h | h
  · have hletter : alphabeticRanges.contains c = true :=
      CodeRanges.contains_of_within (by decide +kernel) h
    have hstart : startRanges.contains c = false := CodeRanges.contains_of_disjoint (by decide) h
    simp [hletter, hstart]
  · have hnumeral : numeralRanges.contains c = true :=
      CodeRanges.contains_of_within (by decide +kernel) h
    have hstart : startRanges.contains c = false := CodeRanges.contains_of_disjoint (by decide) h
    have hlater : laterRanges.contains c = false := CodeRanges.contains_of_disjoint (by decide) h
    simp [hnumeral, hstart, hlater]
  · have hmark : alphabeticRanges.contains c = true :=
      CodeRanges.contains_of_within (by decide +kernel) h
    have hstart : startRanges.contains c = false := CodeRanges.contains_of_disjoint (by decide) h
    simp [hmark, hstart]

end

/-- The reader agrees with the grammar on every text of which both judge all characters alike, above
all on every ASCII text. A text that is accepted but is no qualified name holds a character of the
tables, and a qualified name that is refused holds one that only the grammar allows. Every such
character makes a text of either kind, alone or behind a letter, and those that only the reader takes
are the ones of the tables. -/
theorem qualifiedName_grammar (text : String) :
    ((∀ c ∈ text.toList, ¬ alphabetic.Exceeds xml c ∧ ¬ xml.Exceeds alphabetic c) →
        ((splitQName? text).isSome = true ↔ xml.IsQName text.toList)) ∧
      ((splitQName? text).isSome = true → ¬ xml.IsQName text.toList →
        ∃ c ∈ text.toList, takenRanges.contains c = true) ∧
      (xml.IsQName text.toList → splitQName? text = none →
        ∃ c ∈ text.toList, xml.Exceeds alphabetic c) ∧
      (∀ c : Char, c.toNat < 0x80 → ¬ alphabetic.Exceeds xml c ∧ ¬ xml.Exceeds alphabetic c) ∧
      (∀ c : Char, alphabetic.Exceeds xml c ↔ takenRanges.contains c = true) ∧
      (∀ c : Char, alphabetic.Exceeds xml c →
        ∃ other : String, (other.toList = [c] ∨ other.toList = ['a', c]) ∧
          (splitQName? other).isSome = true ∧ ¬ xml.IsQName other.toList) ∧
      ∀ c : Char, xml.Exceeds alphabetic c →
        ∃ other : String, (other.toList = [c] ∨ other.toList = ['a', c]) ∧
          xml.IsQName other.toList ∧ splitQName? other = none := by
  have hrefused {text : String} : splitQName? text = none ↔ ¬ alphabetic.IsQName text.toList := by
    rw [← isSome_splitQName?_iff, Bool.not_eq_true, Option.isSome_eq_false_iff,
      Option.isNone_iff_eq_none]
  have htaken (c : Char) : alphabetic.Exceeds xml c ↔ takenRanges.contains c = true :=
    ⟨contains_of_exceeds, exceeds_of_contains⟩
  simp only [isSome_splitQName?_iff, hrefused]
  refine ⟨fun hsame => ⟨fun haccepted => ?_, fun hname => ?_⟩, fun haccepted hnot => ?_,
    IsQName.exists_exceeds, fun _ => not_exceeds_of_ascii, htaken, ?_, ?_⟩
  · by_contra hnot
    obtain ⟨c, hc, hexceeds⟩ := haccepted.exists_exceeds hnot
    exact (hsame c hc).1 hexceeds
  · by_contra hnot
    obtain ⟨c, hc, hexceeds⟩ := hname.exists_exceeds hnot
    exact (hsame c hc).2 hexceeds
  · simpa only [htaken] using haccepted.exists_exceeds hnot
  · intro c hexceeds
    obtain ⟨chars, hchars, hnames⟩ := hexceeds.exists_isQName (by decide) (by decide)
    exact ⟨String.ofList chars, by simpa using hchars, by simpa using hnames⟩
  · intro c hexceeds
    obtain ⟨chars, hchars, hnames⟩ := hexceeds.exists_isQName (by decide) (by decide)
    exact ⟨String.ofList chars, by simpa using hchars, by simpa using hnames⟩

/-- An ASCII name is judged alike. An accent that is written as a mark of its own is refused, and an
ordinal indicator is accepted. -/
theorem qualifiedName_grammar_accent :
    ((∀ c ∈ "xs:int".toList, ¬ alphabetic.Exceeds xml c ∧ ¬ xml.Exceeds alphabetic c) ∧
        ((splitQName? "xs:int").isSome = true ↔ xml.IsQName "xs:int".toList)) ∧
      (xml.IsQName "a\u0301".toList ∧ splitQName? "a\u0301" = none ∧
        ∃ c ∈ "a\u0301".toList, xml.Exceeds alphabetic c) ∧
      ((splitQName? "\u00AA").isSome = true ∧ ¬ xml.IsQName "\u00AA".toList ∧
        ∃ c ∈ "\u00AA".toList, takenRanges.contains c = true) := by
  have hsame : ∀ c ∈ "xs:int".toList,
      ¬ alphabetic.Exceeds xml c ∧ ¬ xml.Exceeds alphabetic c := by
    intro c hc
    have hcodes : ("xs:int".toList.all fun c => c.toNat < 0x80) = true := by decide +kernel
    exact not_exceeds_of_ascii (of_decide_eq_true (List.all_eq_true.mp hcodes c hc))
  have haccent : xml.IsQName "a\u0301".toList := by
    change xml.IsQName ['a', '\u0301']
    rw [isQName_a_cons_iff (by decide)]
    decide
  have hnone : splitQName? "a\u0301" = none := by decide +kernel
  have hordinal : (splitQName? "\u00AA").isSome = true := by decide +kernel
  have hnot : ¬ xml.IsQName "\u00AA".toList := by
    change ¬ xml.IsQName ['\u00AA']
    rw [isQName_singleton_iff]
    decide
  obtain ⟨hagree, _⟩ := qualifiedName_grammar "xs:int"
  obtain ⟨_, _, hrefused, _⟩ := qualifiedName_grammar "a\u0301"
  obtain ⟨_, haccepted, _⟩ := qualifiedName_grammar "\u00AA"
  exact ⟨⟨hsame, hagree hsame⟩, ⟨haccent, hnone, hrefused haccent hnone⟩,
    hordinal, hnot, haccepted hordinal hnot⟩

end XPathValues.Text
