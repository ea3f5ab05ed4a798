import Mathlib.Tactic
import XPathValues.Proofs.Text.Fraction

/-!
# Digits and signs as pieces of a literal

The lexical forms of numbers, durations and calendar values are put together from runs of digits,
some of them with a sign in front. A reader accepts a text exactly when such pieces spell it.
-/

namespace XPathValues.Text

variable {text rest : List Char} {n : ℕ}

@[simp] theorem allDigits_nil : allDigits [] = true := rfl

/-- At least one digit, and nothing but digits. -/
structure DigitRun where
  chars : List Char
  ne_nil : chars ≠ []
  digits : allDigits chars = true

namespace DigitRun

/-- The number that the digits denote in front of the point. -/
def value (run : DigitRun) : ℕ :=
  digitsValue run.chars

/-- The number that the digits denote behind the point. -/
def fraction (run : DigitRun) : ℚ :=
  fractionValue run.chars

theorem isDigit_of_mem (run : DigitRun) : ∀ c ∈ run.chars, c.isDigit = true :=
  allDigits_iff.mp run.digits

theorem exists_cons (run : DigitRun) :
    ∃ c rest, run.chars = c :: rest ∧ c.isDigit = true := by
  obtain ⟨c, rest, hcons⟩ := List.exists_cons_of_ne_nil run.ne_nil
  exact ⟨c, rest, hcons, run.isDigit_of_mem c (by simp [hcons])⟩

@[simp] theorem isEmpty_chars (run : DigitRun) : run.chars.isEmpty = false := by
  simp [run.ne_nil]

@[simp] theorem wholeNumber?_chars (run : DigitRun) :
    wholeNumber? run.chars = some run.value := by
  simp [wholeNumber?, run.digits, value]

end DigitRun

/-- The characters of digits that may be missing. -/
def optionalDigits (run : Option DigitRun) : List Char :=
  (run.map DigitRun.chars).getD []

theorem allDigits_optionalDigits (run : Option DigitRun) :
    allDigits (optionalDigits run) = true := by
  cases run with
  | none => rfl
  | some run => exact run.digits

theorem exists_optionalDigits (h : allDigits text = true) :
    ∃ run : Option DigitRun, optionalDigits run = text := by
  by_cases hne : text = []
  · exact ⟨none, hne.symm⟩
  · exact ⟨some ⟨text, hne, h⟩, rfl⟩

theorem wholeNumber?_eq_some_iff :
    wholeNumber? text = some n ↔ ∃ run : DigitRun, run.chars = text ∧ run.value = n := by
  constructor
  · intro h
    unfold wholeNumber? at h
    split at h
    · cases h
    · next hchars =>
      simp only [Bool.or_eq_true, List.isEmpty_iff, Bool.not_eq_true', not_or,
        Bool.not_eq_false] at hchars
      exact ⟨⟨text, hchars.1, hchars.2⟩, rfl, Option.some.inj h⟩
  · rintro ⟨run, rfl, rfl⟩
    exact run.wholeNumber?_chars

/-- Exactly two digits. -/
structure DigitPair where
  tens : Char
  ones : Char
  isDigit_tens : tens.isDigit = true
  isDigit_ones : ones.isDigit = true

namespace DigitPair

def chars (pair : DigitPair) : List Char :=
  [pair.tens, pair.ones]

def value (pair : DigitPair) : ℕ :=
  10 * digitOf pair.tens + digitOf pair.ones

theorem isDigit_of_mem (pair : DigitPair) : ∀ c ∈ pair.chars, c.isDigit = true :=
  List.forall_mem_cons.mpr
    ⟨pair.isDigit_tens, List.forall_mem_cons.mpr ⟨pair.isDigit_ones, by simp⟩⟩

theorem chars_inj {a b : DigitPair} (h : a.chars = b.chars) : a = b := by
  obtain ⟨tens, ones, _, _⟩ := a
  obtain ⟨tens', ones', _, _⟩ := b
  obtain ⟨rfl, hones⟩ := List.cons.inj h
  obtain rfl := (List.cons.inj hones).1
  rfl

@[simp] theorem twoDigits?_chars (pair : DigitPair) : twoDigits? pair.chars = some pair.value := by
  simp [twoDigits?, wholeNumber?, chars, allDigits, pair.isDigit_tens, pair.isDigit_ones,
    digitsValue, Nat.ofDigitChars_cons, value, digitOf]

end DigitPair

theorem twoDigits?_eq_some_iff :
    twoDigits? text = some n ↔ ∃ pair : DigitPair, pair.chars = text ∧ pair.value = n := by
  constructor
  · intro h
    have hread := h
    unfold twoDigits? at h
    split at h
    · next hlength =>
      obtain ⟨tens, ones, rfl⟩ := List.length_eq_two.mp hlength
      obtain ⟨run, hrun, _⟩ := wholeNumber?_eq_some_iff.mp h
      have hdigits := run.isDigit_of_mem
      rw [hrun] at hdigits
      let pair : DigitPair := ⟨tens, ones, hdigits tens (by simp), hdigits ones (by simp)⟩
      exact ⟨pair, rfl, Option.some.inj (pair.twoDigits?_chars.symm.trans hread)⟩
    · cases h
  · rintro ⟨pair, rfl, rfl⟩
    exact pair.twoDigits?_chars

theorem DigitPair.exists_padded (h : n < 100) :
    ∃ pair : DigitPair, pair.chars = padded 2 n ∧ pair.value = n :=
  twoDigits?_eq_some_iff.mp (twoDigits?_padded h)

/-- The number on the side of zero that a sign gives. -/
def withSign {α : Type} [Neg α] (negative : Bool) (x : α) : α :=
  if negative then -x else x

/-- What may stand in front of the digits of a number. -/
inductive Sign where
  | absent
  | plus
  | minus
deriving DecidableEq

namespace Sign

def chars : Sign → List Char
  | absent => []
  | plus => ['+']
  | minus => ['-']

def isMinus : Sign → Bool
  | minus => true
  | _ => false

theorem splitSign_append (sign : Sign) (hplus : rest.head? ≠ some '+')
    (hminus : rest.head? ≠ some '-') : splitSign (sign.chars ++ rest) = (sign.isMinus, rest) := by
  cases sign with
  | absent =>
    cases rest with
    | nil => rfl
    | cons c rest =>
      rw [List.head?_cons, ne_eq, Option.some.injEq] at hplus hminus
      rw [chars, List.nil_append]
      unfold splitSign
      split
      · next heq => exact absurd (List.cons.inj heq).1 hminus
      · next heq => exact absurd (List.cons.inj heq).1 hplus
      · rfl
  | plus => rfl
  | minus => rfl

theorem splitSign_append_of_isDigit (sign : Sign) {c : Char} (hc : c.isDigit = true) :
    splitSign (sign.chars ++ c :: rest) = (sign.isMinus, c :: rest) := by
  apply splitSign_append
  · simp only [List.head?_cons, ne_eq, Option.some.injEq]
    rintro rfl
    cases hc
  · simp only [List.head?_cons, ne_eq, Option.some.injEq]
    rintro rfl
    cases hc

theorem exists_splitSign_eq (text : List Char) :
    ∃ sign : Sign, text = sign.chars ++ (splitSign text).2 ∧
      (splitSign text).1 = sign.isMinus := by
  unfold splitSign
  split
  · exact ⟨minus, rfl, rfl⟩
  · exact ⟨plus, rfl, rfl⟩
  · exact ⟨absent, rfl, rfl⟩

end Sign

end XPathValues.Text
