import Mathlib.Tactic
import XPathValues.Proofs.Text.Layout
import XPathValues.QName

/-!
# Qualified names and their texts

A name that has a lexical form is put together from it in one way only: the first colon of the text
is its only one. A text is read as the name that it spells, in the namespace that the qualifier
stands for.
-/

namespace XPathValues

namespace Text

variable {name : List Char} {c : Char}

theorem isNameChar_of_isNameStart (h : isNameStart c = true) : isNameChar c = true := by
  rcases Bool.or_eq_true_iff.mp h with h | h <;> simp [isNameChar, h]

theorem isNameChar_of_mem (h : isNCName name = true) (hc : c ∈ name) : isNameChar c = true := by
  cases name with
  | nil => cases h
  | cons first rest =>
    obtain ⟨hfirst, hrest⟩ := Bool.and_eq_true_iff.mp h
    rcases List.mem_cons.mp hc with rfl | hc
    · exact isNameChar_of_isNameStart hfirst
    · exact List.all_eq_true.mp hrest c hc

theorem isSpace_of_isNameChar (h : isNameChar c = true) : isSpace c = false :=
  not_isSpace_of (by decide) h

end Text

namespace QName

/-- The parts of the name are names without a colon. -/
structure Lexical (name : QName) : Prop where
  qualifier : ∀ qualifier ∈ name.qualifier, Text.isNCName qualifier.toList = true
  localPart : Text.isNCName name.localPart.toList = true

/-- The namespace of the name is the one that its qualifier stands for; without a qualifier there is
none. -/
inductive ResolvesIn (bindings : Bindings) : QName → Prop
  | unqualified (part : String) : ResolvesIn bindings ⟨none, none, part⟩
  | qualified {uri qualifier : String} (part : String)
      (huri : bindings.resolve? qualifier = some uri) :
      ResolvesIn bindings ⟨some uri, some qualifier, part⟩

variable {name : QName} {text : String} {bindings : Bindings}

theorem toList_toText_of_some {qualifier : String} (h : name.qualifier = some qualifier) :
    name.toText.toList = qualifier.toList ++ ':' :: name.localPart.toList := by
  simp [toText, h]

theorem toText_of_none (h : name.qualifier = none) : name.toText = name.localPart := by
  simp [toText, h]

theorem splitQName?_eq_some_iff (name : QName) :
    Text.splitQName? text = some (name.qualifier, name.localPart) ↔
      name.Lexical ∧ name.toText = text := by
  obtain ⟨uri, qualifier, part⟩ := name
  constructor
  · intro h
    unfold Text.splitQName? at h
    split at h
    · next before after hcut =>
      split_ifs at h with hnames
      obtain ⟨hbefore, hafter⟩ := Bool.and_eq_true_iff.mp hnames
      obtain ⟨rfl, rfl⟩ := Prod.mk.inj (Option.some.inj h)
      obtain ⟨c, hc, _, htext⟩ := Text.cutAt?_eq_some hcut
      obtain rfl := eq_of_beq hc
      refine ⟨⟨by simpa using hbefore, by simpa using hafter⟩, String.toList_injective ?_⟩
      rw [toList_toText_of_some rfl, htext, String.toList_ofList, String.toList_ofList]
    · split_ifs at h with hname
      obtain ⟨rfl, rfl⟩ := Prod.mk.inj (Option.some.inj h)
      exact ⟨⟨by simp, hname⟩, rfl⟩
  · rintro ⟨⟨hqualifier, hpart⟩, rfl⟩
    unfold Text.splitQName?
    cases qualifier with
    | none =>
      have hcut : Text.cutAt? (· == ':') part.toList = none := by
        refine Text.cutAt?_eq_none_iff.mpr fun c hc => beq_false_of_ne ?_
        rintro rfl
        exact Text.colon_not_mem_of_isNCName hpart hc
      rw [toText_of_none rfl, hcut]
      exact if_pos hpart
    | some qualifier =>
      have hqualifier := hqualifier qualifier rfl
      have hcut : Text.cutAt? (· == ':') (qualifier.toList ++ ':' :: part.toList) =
          some (qualifier.toList, part.toList) := by
        refine Text.cutAt?_append_cons (fun c hc => beq_false_of_ne ?_) rfl
        rintro rfl
        exact Text.colon_not_mem_of_isNCName hqualifier hc
      rw [toList_toText_of_some rfl, hcut]
      simp [hqualifier, hpart]

theorem isSome_splitQName?_iff :
    (Text.splitQName? text).isSome = true ↔ ∃ name : QName, name.Lexical ∧ name.toText = text := by
  constructor
  · intro h
    obtain ⟨parts, hsplit⟩ := Option.isSome_iff_exists.mp h
    exact ⟨⟨none, parts.1, parts.2⟩, (splitQName?_eq_some_iff _).mp hsplit⟩
  · rintro ⟨name, hname⟩
    exact Option.isSome_of_mem ((splitQName?_eq_some_iff name).mpr hname)

theorem Lexical.collapse_toText (h : name.Lexical) : Text.collapse name.toText = name.toText := by
  have hspace {part : String} (hpart : Text.isNCName part.toList = true) (c : Char)
      (hc : c ∈ part.toList) : Text.isSpace c = false :=
    Text.isSpace_of_isNameChar (Text.isNameChar_of_mem hpart hc)
  have hchars : ∀ c ∈ name.toText.toList, Text.isSpace c = false := by
    intro c hc
    cases hqualifier : name.qualifier with
    | none =>
      rw [toText_of_none hqualifier] at hc
      exact hspace h.localPart c hc
    | some qualifier =>
      rw [toList_toText_of_some hqualifier] at hc
      rcases List.mem_append.mp hc with hc | hc
      · exact hspace (h.qualifier qualifier hqualifier) c hc
      · rcases List.mem_cons.mp hc with rfl | hc
        · rfl
        · exact hspace h.localPart c hc
  simpa using Text.collapse_of_not_isSpace hchars

theorem read_eq_ok_iff :
    read text bindings = .ok name ↔
      name.Lexical ∧ name.toText = text ∧ name.ResolvesIn bindings := by
  rw [← and_assoc, ← splitQName?_eq_some_iff]
  constructor
  · intro h
    unfold read at h
    split at h
    · cases h
    · next part hsplit =>
      obtain rfl := Except.ok.inj h
      exact ⟨hsplit, .unqualified part⟩
    · next qualifier part hsplit =>
      split at h
      · next uri huri =>
        obtain rfl := Except.ok.inj h
        exact ⟨hsplit, .qualified part huri⟩
      · cases h
  · rintro ⟨hsplit, part | ⟨part, huri⟩⟩
    · simp only [read, hsplit]
    · simp only [read, hsplit, huri]

/-- A text that spells no name is malformed, and a name is refused only for its qualifier. -/
theorem read_eq_error_iff {e : Error} :
    read text bindings = .error e ↔
      ((∀ name : QName, name.Lexical → name.toText ≠ text) ∧ e = .invalidLexical .qname text) ∨
        ∃ qualifier part, (⟨none, some qualifier, part⟩ : QName).Lexical ∧
          qualifier ++ ":" ++ part = text ∧ bindings.resolve? qualifier = none ∧
          e = .unboundQualifier qualifier := by
  constructor
  · intro h
    unfold read at h
    split at h
    · next hsplit =>
      refine .inl ⟨fun name hlexical htext => ?_, (Except.error.inj h).symm⟩
      cases hsplit.symm.trans ((splitQName?_eq_some_iff name).mpr ⟨hlexical, htext⟩)
    · cases h
    · next qualifier part hsplit =>
      split at h
      · cases h
      · next hunbound =>
        obtain ⟨hlexical, htext⟩ :=
          (splitQName?_eq_some_iff ⟨none, some qualifier, part⟩).mp hsplit
        exact .inr ⟨qualifier, part, hlexical, htext, hunbound, (Except.error.inj h).symm⟩
  · rintro (⟨hnone, rfl⟩ | ⟨qualifier, part, hlexical, htext, hunbound, rfl⟩)
    · cases hsplit : Text.splitQName? text with
      | none => simp only [read, hsplit]
      | some parts =>
        obtain ⟨hlexical, htext⟩ :=
          (splitQName?_eq_some_iff ⟨none, parts.1, parts.2⟩).mp hsplit
        exact absurd htext (hnone _ hlexical)
    · have hsplit : Text.splitQName? text = some (some qualifier, part) :=
        (splitQName?_eq_some_iff ⟨none, some qualifier, part⟩).mpr ⟨hlexical, htext⟩
      simp only [read, hsplit, hunbound]

end QName

end XPathValues
