/-!
# Decimal digits in texts

Readers work on lists of characters. A run of digits denotes the number `Nat.ofDigitChars 10`, and
a number is written by `Nat.toDigits 10`, filled up with zeros on the left where a field has a
fixed width.
-/

namespace XPathValues.Text

def digitOf (c : Char) : Nat :=
  c.toNat - '0'.toNat

/-- Every character is one of the ten ASCII digits. -/
def allDigits (text : List Char) : Bool :=
  text.all Char.isDigit

/-- The number that a run of digits denotes; the empty run denotes zero. -/
def digitsValue (digits : List Char) : Nat :=
  Nat.ofDigitChars 10 digits 0

def wholeNumber? (text : List Char) : Option Nat :=
  if text.isEmpty || !allDigits text then none else some (digitsValue text)

def twoDigits? (text : List Char) : Option Nat :=
  if text.length = 2 then wholeNumber? text else none

/-- The digits of a number, with zeros on the left up to the given width. -/
def padded (width n : Nat) : List Char :=
  let digits := Nat.toDigits 10 n
  List.replicate (width - digits.length) '0' ++ digits

/-- An optional sign. The flag is set for a minus. -/
def splitSign : List Char → Bool × List Char
  | '-' :: rest => (true, rest)
  | '+' :: rest => (false, rest)
  | text => (false, text)

/-- The two sides of the first place where a character satisfies the test. -/
def cutAt? (test : Char → Bool) : List Char → Option (List Char × List Char)
  | [] => none
  | c :: rest =>
    if test c then some ([], rest) else (cutAt? test rest).map fun sides => (c :: sides.1, sides.2)

/-- The text without the zeros in front of it. -/
def dropLeadingZeros (digits : List Char) : List Char :=
  digits.dropWhile (· == '0')

/-- The text without the zeros at its end. -/
def dropTrailingZeros (digits : List Char) : List Char :=
  (digits.reverse.dropWhile (· == '0')).reverse

@[simp] theorem digitsValue_toDigits (n : Nat) : digitsValue (Nat.toDigits 10 n) = n :=
  Nat.ofDigitChars_ten_toDigits

theorem allDigits_toDigits (n : Nat) : allDigits (Nat.toDigits 10 n) = true := by
  simp only [allDigits, List.all_eq_true]
  exact fun c hc => Nat.isDigit_of_mem_toDigits (by decide) (by decide) hc

@[simp] theorem wholeNumber?_toDigits (n : Nat) : wholeNumber? (Nat.toDigits 10 n) = some n := by
  simp [wholeNumber?, allDigits_toDigits, Nat.toDigits_ne_nil]

theorem allDigits_padded (width n : Nat) : allDigits (padded width n) = true := by
  have h := allDigits_toDigits n
  simp only [allDigits, List.all_eq_true] at h
  simp only [allDigits, padded, List.all_append, List.all_eq_true, Bool.and_eq_true]
  refine ⟨fun c hc => ?_, h⟩
  rw [(List.mem_replicate.mp hc).2]
  decide

@[simp] theorem digitsValue_padded (width n : Nat) : digitsValue (padded width n) = n := by
  have h := digitsValue_toDigits n
  simp only [digitsValue] at h
  simp [padded, digitsValue, Nat.ofDigitChars_append, h]

theorem cutAt?_eq_some {test : Char → Bool} {text before after : List Char}
    (h : cutAt? test text = some (before, after)) :
    ∃ c, test c = true ∧ (∀ d ∈ before, test d = false) ∧ text = before ++ c :: after := by
  induction text generalizing before with
  | nil => simp [cutAt?] at h
  | cons c rest ih =>
    rw [cutAt?] at h
    split at h
    · next hc =>
      obtain ⟨rfl, rfl⟩ := by simpa using h
      exact ⟨c, hc, by simp, rfl⟩
    · next hc =>
      obtain ⟨sides, hsides, heq⟩ := Option.map_eq_some_iff.mp h
      simp only [Prod.mk.injEq] at heq
      obtain ⟨rfl, rfl⟩ := heq
      obtain ⟨d, hd, hbefore, rfl⟩ := ih hsides
      refine ⟨d, hd, fun e he => ?_, rfl⟩
      rcases List.mem_cons.mp he with rfl | he
      · simpa using hc
      · exact hbefore e he

theorem cutAt?_eq_none_iff {test : Char → Bool} {text : List Char} :
    cutAt? test text = none ↔ ∀ c ∈ text, test c = false := by
  induction text with
  | nil => simp [cutAt?]
  | cons c rest ih =>
    by_cases hc : test c = true <;> simp [cutAt?, hc, ih]

end XPathValues.Text
