import Mathlib.Tactic
import XPathValues.Proofs.Duration.Units
import XPathValues.Proofs.Number.DecimalText

/-!
# The fields of a duration in a text

A field is a number in front of its letter and may be missing. Three fields in their order are taken
apart again at their letters, as long as the numbers consist of digits and points. The reader looks
for no other characters, so a text with a minus among its fields is not read.
-/

namespace XPathValues.Duration

open Decimal DayTimeDuration Text

variable {letter first second third : Char} {number a b c : Option (List Char)} {rest : List Char}

def optionalField (number : Option (List Char)) (letter : Char) : List Char :=
  match number with
  | none => []
  | some digits => digits ++ [letter]

theorem optionalField_eq_nil (h : optionalField number letter = []) : number = none := by
  cases number with
  | none => rfl
  | some digits => simp [optionalField] at h

/-- A number that stands in a field holds at least one digit or point and nothing else. -/
def IsFieldNumber (number : Option (List Char)) : Prop :=
  ∀ digits, number = some digits → digits ≠ [] ∧ ∀ d ∈ digits, isFieldChar d = true

/-- The letter that ends the first field of a text. -/
def nextLetter (text : List Char) : Option Char :=
  (text.dropWhile isFieldChar).head?

theorem nextLetter_optionalField (hnumber : IsFieldNumber number)
    (hletter : isFieldChar letter = false) (rest : List Char) :
    nextLetter (optionalField number letter ++ rest) =
      if number.isSome then some letter else nextLetter rest := by
  cases number with
  | none => rfl
  | some digits =>
    rw [nextLetter, optionalField, List.append_assoc, List.singleton_append,
      dropWhile_append_cons (hnumber digits rfl).2 hletter]
    rfl

theorem takeField_of_nextLetter (h : nextLetter rest ≠ some letter) :
    takeField letter rest = (none, rest) := by
  unfold takeField
  unfold nextLetter at h
  dsimp only
  split
  · rfl
  · next c after hdrop =>
    rw [hdrop] at h
    have hc : ¬ c = letter := fun heq => h (by rw [List.head?_cons, heq])
    simp [hc]

theorem takeField_optionalField (hnumber : IsFieldNumber number)
    (hletter : isFieldChar letter = false) (hrest : nextLetter rest ≠ some letter) :
    takeField letter (optionalField number letter ++ rest) = (number, rest) := by
  cases number with
  | none => exact takeField_of_nextLetter hrest
  | some digits =>
    obtain ⟨hne, hdigits⟩ := hnumber digits rfl
    rw [takeField, optionalField, List.append_assoc, List.singleton_append]
    simp only [takeWhile_append_cons hdigits hletter, dropWhile_append_cons hdigits hletter]
    simp [hne]

theorem readFields?_optionalFields (ha : IsFieldNumber a) (hb : IsFieldNumber b)
    (hc : IsFieldNumber c) (hfirst : isFieldChar first = false)
    (hsecond : isFieldChar second = false) (hthird : isFieldChar third = false)
    (hdistinct : [first, second, third].Nodup) :
    readFields? first second third
      (optionalField a first ++ optionalField b second ++ optionalField c third) =
        some (a, b, c) := by
  have hne : first ≠ second ∧ first ≠ third ∧ second ≠ third := by
    simpa [and_assoc] using hdistinct
  have hlast := nextLetter_optionalField hc hthird []
  rw [List.append_nil] at hlast
  have hempty : nextLetter [] = none := rfl
  have htail : nextLetter (optionalField c third) ≠ some second := by
    rw [hlast]
    split <;> simp [hempty, hne.2.2.symm]
  have hmiddle : nextLetter (optionalField b second ++ optionalField c third) ≠ some first := by
    rw [nextLetter_optionalField hb hsecond, hlast]
    split_ifs <;> simp [hempty, hne.1.symm, hne.2.1.symm]
  have hthree : takeField third (optionalField c third ++ []) = (c, []) :=
    takeField_optionalField hc hthird (by simp [hempty])
  rw [List.append_nil] at hthree
  rw [List.append_assoc, readFields?, takeField_optionalField ha hfirst hmiddle]
  simp only [takeField_optionalField hb hsecond htail, hthree]
  rfl

theorem takeField_spec (letter : Char) (text : List Char) :
    text = optionalField (takeField letter text).1 letter ++ (takeField letter text).2 ∧
      IsFieldNumber (takeField letter text).1 := by
  have habsent : text = optionalField none letter ++ text ∧ IsFieldNumber none :=
    ⟨rfl, fun _ h => by cases h⟩
  unfold takeField
  dsimp only
  split
  · exact habsent
  · next c after hdrop =>
    split
    · next hc =>
      simp only [Bool.and_eq_true, decide_eq_true_eq, Bool.not_eq_true', List.isEmpty_eq_false_iff]
        at hc
      obtain ⟨rfl, hne⟩ := hc
      constructor
      · conv_lhs => rw [← List.takeWhile_append_dropWhile (p := isFieldChar) (l := text), hdrop]
        rw [optionalField, List.append_assoc, List.singleton_append]
      · intro digits hdigits
        obtain rfl := Option.some.inj hdigits
        exact ⟨hne, fun d hd => List.mem_takeWhile_imp hd⟩
    · exact habsent

theorem eq_of_readFields? {text : List Char}
    (h : readFields? first second third text = some (a, b, c)) :
    text = optionalField a first ++ optionalField b second ++ optionalField c third ∧
      IsFieldNumber a ∧ IsFieldNumber b ∧ IsFieldNumber c := by
  obtain ⟨hone, ha⟩ := takeField_spec first text
  obtain ⟨htwo, hb⟩ := takeField_spec second (takeField first text).2
  obtain ⟨hthree, hc⟩ := takeField_spec third (takeField second (takeField first text).2).2
  unfold readFields? at h
  dsimp only at h
  split at h
  · next hempty =>
    rw [List.isEmpty_iff.mp hempty, List.append_nil] at hthree
    simp only [Option.some.injEq, Prod.mk.injEq] at h
    obtain ⟨rfl, rfl, rfl⟩ := h
    refine ⟨?_, ha, hb, hc⟩
    rw [← hthree, List.append_assoc, ← htwo]
    exact hone
  · cases h

theorem mem_optionalField {d : Char} (hnumber : IsFieldNumber number)
    (hd : d ∈ optionalField number letter) : isFieldChar d = true ∨ d = letter := by
  cases number with
  | none => cases hd
  | some digits =>
    rcases List.mem_append.mp hd with hd | hd
    · exact Or.inl ((hnumber digits rfl).2 d hd)
    · exact Or.inr (List.mem_singleton.mp hd)

theorem mem_optionalFields {d : Char} (ha : IsFieldNumber a) (hb : IsFieldNumber b)
    (hc : IsFieldNumber c)
    (hd : d ∈ optionalField a first ++ optionalField b second ++ optionalField c third) :
    isFieldChar d = true ∨ d = first ∨ d = second ∨ d = third := by
  rcases List.mem_append.mp hd with hd | hd
  · rcases List.mem_append.mp hd with hd | hd
    · exact (mem_optionalField ha hd).imp_right Or.inl
    · exact (mem_optionalField hb hd).imp_right (Or.inr ∘ Or.inl)
  · exact (mem_optionalField hc hd).imp_right (Or.inr ∘ Or.inr)

/-- Two texts with the letter `T` in front of the second, if there is a second. -/
def joinAtTime (before after : List Char) : List Char :=
  before ++ if after.isEmpty then [] else 'T' :: after

theorem splitAtTime?_eq_some_iff {text before after : List Char} :
    Fields.splitAtTime? text = some (before, after) ↔
      'T' ∉ before ∧ text ≠ [] ∧ joinAtTime before after = text := by
  constructor
  · intro h
    unfold Fields.splitAtTime? at h
    split at h
    · next hcut =>
      split at h
      · cases h
      · next hne =>
        obtain ⟨rfl, rfl⟩ := Prod.mk.inj (Option.some.inj h)
        obtain ⟨t, ht, hbefore, rfl⟩ := cutAt?_eq_some hcut
        obtain rfl : t = 'T' := by simpa using ht
        refine ⟨fun hmem => absurd (hbefore 'T' hmem) (by decide), by simp, ?_⟩
        rw [joinAtTime, if_neg hne]
    · next hcut =>
      split at h
      · cases h
      · next hne =>
        obtain ⟨rfl, rfl⟩ := Prod.mk.inj (Option.some.inj h)
        refine ⟨fun hmem => absurd (cutAt?_eq_none_iff.mp hcut 'T' hmem) (by decide), ?_, ?_⟩
        · simpa using hne
        · exact List.append_nil text
  · rintro ⟨hbefore, hne, rfl⟩
    have hquiet : ∀ c ∈ before, (c == 'T') = false := by
      intro c hc
      rw [beq_eq_false_iff_ne]
      rintro rfl
      exact hbefore hc
    unfold joinAtTime at hne ⊢
    by_cases hempty : after.isEmpty = true
    · rw [if_pos hempty, List.append_nil] at hne ⊢
      rw [Fields.splitAtTime?, cutAt?_eq_none_iff.mpr hquiet, List.isEmpty_iff.mp hempty]
      simp [hne]
    · rw [if_neg hempty, Fields.splitAtTime?, cutAt?_append_cons hquiet rfl]
      simp [hempty]

end XPathValues.Duration
