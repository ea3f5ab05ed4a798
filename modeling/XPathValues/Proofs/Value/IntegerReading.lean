import Mathlib.Tactic
import XPathValues.Proofs.Text.Literal
import XPathValues.Proofs.Value.Canonical
import XPathValues.Proofs.Value.Failure

/-!
# Reading integers

The reader takes the digits of a literal one by one and checks at every step that the number can be
stored. The number only moves away from zero on the way, so some step fails exactly when the whole
literal denotes a number that is too large, with any number of zeros in front.
-/

namespace XPathValues

open Text

structure IntegerLiteral where
  sign : Sign
  digits : DigitRun

namespace IntegerLiteral

def chars (l : IntegerLiteral) : List Char :=
  l.sign.chars ++ l.digits.chars

def value (l : IntegerLiteral) : ℤ :=
  withSign l.sign.isMinus (l.digits.value : ℤ)

theorem splitSign_chars (l : IntegerLiteral) :
    splitSign l.chars = (l.sign.isMinus, l.digits.chars) := by
  obtain ⟨c, rest, hcons, hc⟩ := l.digits.exists_cons
  rw [chars, hcons, l.sign.splitSign_append_of_isDigit hc]

theorem exists_iff {text : List Char} :
    (∃ l : IntegerLiteral, l.chars = text) ↔
      ((splitSign text).2.isEmpty || !allDigits (splitSign text).2) = false := by
  simp only [Bool.or_eq_false_iff, List.isEmpty_eq_false_iff, Bool.not_eq_false']
  constructor
  · rintro ⟨l, rfl⟩
    rw [splitSign_chars]
    exact ⟨l.digits.ne_nil, l.digits.digits⟩
  · rintro ⟨hne, hdigits⟩
    obtain ⟨sign, htext, _⟩ := Sign.exists_splitSign_eq text
    exact ⟨⟨sign, _, hne, hdigits⟩, htext.symm⟩

theorem readWhole?_eq_some_iff {text : List Char} {n : ℤ} :
    readWhole? text = some n ↔ ∃ l : IntegerLiteral, l.chars = text ∧ l.value = n := by
  constructor
  · intro h
    obtain ⟨m, hm, hn⟩ := Option.map_eq_some_iff.mp h
    obtain ⟨k, hk, hcast⟩ := Option.bind_eq_some_iff.mp hm
    obtain rfl := Option.some.inj hcast
    obtain ⟨run, hrun, rfl⟩ := wholeNumber?_eq_some_iff.mp hk
    obtain ⟨sign, htext, hsign⟩ := Sign.exists_splitSign_eq text
    refine ⟨⟨sign, run⟩, ?_, ?_⟩
    · rw [chars, hrun]
      exact htext.symm
    · rw [← hn, value, ← hsign]
      rfl
  · rintro ⟨l, rfl, rfl⟩
    simp only [readWhole?, splitSign_chars, DigitRun.wholeNumber?_chars]
    rfl

end IntegerLiteral

namespace Integer

variable {kind : IntegerKind} {text : String} {n : ℤ} {i j : Integer}

theorem plain?_eq_some (h : Stored n) : plain? n = some (plain n h) :=
  dif_pos h

theorem plain?_eq_none_iff : plain? n = none ↔ ¬ Stored n := by
  unfold plain?
  split
  · next h => exact iff_of_false (by simp) (not_not_intro h)
  · next h => exact iff_of_true rfl h

/-! ## The digits one by one -/

/-- Every number on the way from zero to a number that can be stored can be stored. -/
theorem Stored.of_le {negative : Bool} {m k : ℕ} (h : Stored (withSign negative (k : ℤ)))
    (hle : m ≤ k) : Stored (withSign negative (m : ℤ)) := by
  unfold Stored minStored maxStored withSign at *
  cases negative with
  | false =>
    simp only [Bool.false_eq_true, if_false] at *
    omega
  | true =>
    simp only [if_true] at *
    omega

/-- Making room for a digit cannot fail alone, since the digit leads further away from zero. -/
theorem appendDigit?_eq {negative : Bool} {m : ℕ} (hi : i.value = withSign negative (m : ℤ))
    (c : Char) :
    appendDigit? negative i c = plain? (withSign negative ((10 * m + digitOf c : ℕ) : ℤ)) := by
  have hshift : i.value * 10 = withSign negative ((10 * m : ℕ) : ℤ) := by
    rw [hi]
    unfold withSign
    split <;> push_cast <;> ring
  have hsum : (if negative then i.value * 10 - digitOf c else i.value * 10 + digitOf c) =
      withSign negative ((10 * m + digitOf c : ℕ) : ℤ) := by
    rw [hshift]
    unfold withSign
    split <;> push_cast <;> ring
  by_cases hroom : Stored (withSign negative ((10 * m : ℕ) : ℤ))
  · rw [appendDigit?, plain?_eq_some (hshift ▸ hroom), ← hsum]
    rfl
  · have htoo : ¬ Stored (withSign negative ((10 * m + digitOf c : ℕ) : ℤ)) :=
      fun hstored => hroom (hstored.of_le (Nat.le_add_right _ _))
    rw [appendDigit?, hshift, plain?_eq_none_iff.mpr hroom, plain?_eq_none_iff.mpr htoo]
    rfl

/-- The checks of the single steps come to one check of the whole number. -/
theorem takeDigits?_eq {negative : Bool} {m : ℕ} (digits : List Char) (hkind : i.kind = .integer)
    (hi : i.value = withSign negative (m : ℤ)) :
    takeDigits? negative i digits =
      plain? (withSign negative (Nat.ofDigitChars 10 digits m : ℤ)) := by
  induction digits generalizing i m with
  | nil =>
    rw [takeDigits?, Nat.ofDigitChars_nil]
    exact (plain?_eq_some_iff.mpr ⟨hkind, hi⟩).symm
  | cons c rest ih =>
    rw [takeDigits?, appendDigit?_eq hi c, Nat.ofDigitChars_cons]
    by_cases hnext : Stored (withSign negative ((10 * m + digitOf c : ℕ) : ℤ))
    · rw [plain?_eq_some hnext]
      exact ih rfl rfl
    · have hlast :
          ¬ Stored (withSign negative (Nat.ofDigitChars 10 rest (10 * m + digitOf c) : ℤ)) :=
        fun hstored => hnext (hstored.of_le (Decimal.le_ofDigitChars rest _))
      rw [plain?_eq_none_iff.mpr hnext]
      exact (plain?_eq_none_iff.mpr hlast).symm

/-! ## What becomes of a literal -/

/-- The outcomes of reading a literal that denotes the number. -/
inductive ReadsAs (kind : IntegerKind) (text : String) (n : ℤ) : Except Error Integer → Prop
  | tooLarge (h : ¬ Stored n) : ReadsAs kind text n (.error (.integerLiteralTooLarge text))
  | outOfRange (hstored : Stored n) (h : kind.admits n = false) :
      ReadsAs kind text n (.error (.outOfRange kind n))
  | value (i : Integer) (hkind : i.kind = kind) (hvalue : i.value = n) :
      ReadsAs kind text n (.ok i)

theorem readsAs (l : IntegerLiteral) (h : l.chars = text.toList) :
    ReadsAs kind text l.value (read kind text) := by
  have hdigits : takeDigits? l.sign.isMinus (plain 0 stored_zero) l.digits.chars =
      plain? l.value := takeDigits?_eq l.digits.chars rfl (by cases l.sign.isMinus <;> rfl)
  have hliteral := IntegerLiteral.exists_iff.mp ⟨l, rfl⟩
  rw [l.splitSign_chars] at hliteral
  rw [read, ← h, l.splitSign_chars]
  simp only [hliteral, Bool.false_eq_true, if_false, hdigits]
  by_cases hstored : Stored l.value
  · rw [plain?_eq_some hstored]
    by_cases hadmits : kind.admits l.value = true
    · have hrelabel := relabel?_eq_some_iff (i := plain l.value hstored)
        (j := ⟨kind, l.value, hstored, hadmits⟩) |>.mpr ⟨rfl, rfl⟩
      simp only [hrelabel]
      exact .value _ rfl rfl
    · have hrelabel : (plain l.value hstored).relabel? kind = none := dif_neg hadmits
      simp only [hrelabel]
      exact .outOfRange hstored (by simpa using hadmits)
  · rw [plain?_eq_none_iff.mpr hstored]
    exact .tooLarge hstored

namespace ReadsAs

variable {outcome : Except Error Integer}

theorem not_malformed (h : ReadsAs kind text n outcome) :
    ¬ FailsWith outcome .FORG0001 .lexical := by
  rintro ⟨e, he, hcode, hcategory⟩
  cases h with
  | tooLarge _ =>
    cases he
    cases hcode
  | outOfRange _ _ =>
    cases he
    cases hcategory
  | value _ _ _ => cases he

theorem tooLarge_iff (h : ReadsAs kind text n outcome) :
    FailsWith outcome .FOCA0003 .arithmetic ↔ ¬ Stored n := by
  cases h with
  | tooLarge hlarge => exact iff_of_true ⟨_, rfl, rfl, rfl⟩ hlarge
  | outOfRange hstored _ =>
    refine iff_of_false ?_ (not_not_intro hstored)
    rintro ⟨_, ⟨⟩, hcode, _⟩
    cases hcode
  | value i _ hvalue =>
    refine iff_of_false ?_ (not_not_intro (hvalue ▸ i.stored))
    rintro ⟨_, he, _⟩
    cases he

theorem outOfRange_iff (h : ReadsAs kind text n outcome) :
    FailsWith outcome .FORG0001 .facet ↔ Stored n ∧ kind.admits n = false := by
  cases h with
  | tooLarge hlarge =>
    refine iff_of_false ?_ fun hrange => hlarge hrange.1
    rintro ⟨_, ⟨⟩, hcode, _⟩
    cases hcode
  | outOfRange hstored hrange => exact iff_of_true ⟨_, rfl, rfl, rfl⟩ ⟨hstored, hrange⟩
  | value i hkind hvalue =>
    subst hkind hvalue
    refine iff_of_false ?_ fun hrange => absurd i.admitted (by simp [hrange.2])
    rintro ⟨_, he, _⟩
    cases he

theorem exists_value (h : ReadsAs kind text n outcome) (hstored : Stored n)
    (hadmits : kind.admits n = true) : ∃ i, outcome = .ok i ∧ i.kind = kind ∧ i.value = n := by
  cases h with
  | tooLarge hlarge => exact absurd hstored hlarge
  | outOfRange _ hrange => exact absurd hadmits (by simp [hrange])
  | value i hkind hvalue => exact ⟨i, rfl, hkind, hvalue⟩

end ReadsAs

theorem read_of_not_literal (h : ¬ ∃ l : IntegerLiteral, l.chars = text.toList) :
    read kind text = .error (.invalidLexical (.integer kind) text) := by
  rw [IntegerLiteral.exists_iff, Bool.not_eq_false] at h
  simp only [read, h, if_true]

theorem read_eq_ok_iff :
    read kind text = .ok j ↔ readWhole? text.toList = some j.value ∧ j.kind = kind := by
  rw [IntegerLiteral.readWhole?_eq_some_iff]
  constructor
  · intro h
    by_cases hliteral : ∃ l : IntegerLiteral, l.chars = text.toList
    · obtain ⟨l, hl⟩ := hliteral
      have hreads : ReadsAs kind text l.value (read kind text) := readsAs l hl
      rw [h] at hreads
      cases hreads with
      | value _ hkind hvalue => exact ⟨⟨l, hl, hvalue.symm⟩, hkind⟩
    · rw [read_of_not_literal hliteral] at h
      cases h
  · rintro ⟨⟨l, hl, hvalue⟩, hkind⟩
    have hreads : ReadsAs kind text l.value (read kind text) := readsAs l hl
    rw [hvalue] at hreads
    cases hread : read kind text with
    | ok i =>
      rw [hread] at hreads
      cases hreads with
      | value _ hkind' hvalue' =>
        rw [(eq_iff_of_kind (hkind'.trans hkind.symm)).mpr hvalue']
    | error e =>
      rw [hread] at hreads
      cases hreads with
      | tooLarge h => exact absurd j.stored h
      | outOfRange _ h => exact absurd (hkind ▸ j.admitted) (by simp [h])

end Integer

namespace AtomicValue

variable {k : IntegerKind} {given : String} {bindings : Bindings}

theorem map_integer_eq_ok_iff {x : Except Error Integer} {j : Integer} :
    x.map integer = .ok (integer j) ↔ x = .ok j := by
  cases x <;> simp [Except.map]

theorem read_integer :
    read (.integer k) given bindings = (Integer.read k (collapse given)).map integer :=
  rfl

theorem failsWith_map_iff {x : Except Error Integer} {code : ErrorCode}
    {category : ErrorCategory} :
    FailsWith (x.map integer) code category ↔ FailsWith x code category := by
  cases x <;> simp [FailsWith, Except.map]

/-- What the collapsed text of an integer is read as, in every case. -/
structure ReadsInteger (k : IntegerKind) (collapsed : String) (outcome : Except Error AtomicValue) :
    Prop where
  malformed : FailsWith outcome .FORG0001 .lexical ↔
    ¬ ∃ l : IntegerLiteral, l.chars = collapsed.toList
  tooLarge : ∀ l : IntegerLiteral, l.chars = collapsed.toList →
    (FailsWith outcome .FOCA0003 .arithmetic ↔ ¬ Integer.Stored l.value)
  outOfRange : ∀ l : IntegerLiteral, l.chars = collapsed.toList →
    (FailsWith outcome .FORG0001 .facet ↔ Integer.Stored l.value ∧ k.admits l.value = false)
  value : ∀ l : IntegerLiteral, l.chars = collapsed.toList →
    Integer.Stored l.value → k.admits l.value = true →
      ∃ i, outcome = .ok (integer i) ∧ i.kind = k ∧ i.value = l.value

theorem readsInteger (k : IntegerKind) (given : String) (bindings : Bindings) :
    ReadsInteger k (collapse given) (read (.integer k) given bindings) where
  malformed := by
    rw [read_integer, failsWith_map_iff]
    constructor
    · rintro hfails ⟨l, hl⟩
      exact (Integer.readsAs l hl).not_malformed hfails
    · intro h
      exact ⟨_, Integer.read_of_not_literal h, rfl, rfl⟩
  tooLarge l hl := by
    rw [read_integer, failsWith_map_iff]
    exact (Integer.readsAs l hl).tooLarge_iff
  outOfRange l hl := by
    rw [read_integer, failsWith_map_iff]
    exact (Integer.readsAs l hl).outOfRange_iff
  value l hl hstored hadmits := by
    obtain ⟨i, hi, hkind, hvalue⟩ := (Integer.readsAs l hl).exists_value hstored hadmits
    exact ⟨i, by rw [read_integer, hi]; rfl, hkind, hvalue⟩

theorem isSpace_toText (i : Integer) : ∀ c ∈ i.toText.toList, isSpace c = false := by
  intro c hc
  have hdigits := allDigits_iff.mp (allDigits_toDigits i.value.natAbs)
  rw [Integer.toList_toText] at hc
  split at hc
  · exact isSpace_of_isDigit (hdigits c hc)
  · rcases List.mem_cons.mp hc with rfl | hc
    · rfl
    · exact isSpace_of_isDigit (hdigits c hc)

/-- A text is no integer, too large an integer, an integer outside the range of its type, or else
read as the integer that it denotes. The text of every integer is read as that integer. -/
theorem integer_reading (k : IntegerKind) (given : String) (bindings : Bindings) :
    ReadsInteger k (collapse given) (read (.integer k) given bindings) ∧
      ∀ i : Integer, read (.integer i.kind) i.toText bindings = .ok (integer i) := by
  refine ⟨readsInteger k given bindings, fun i => ?_⟩
  have hcollapse : collapse i.toText = i.toText := by
    have hchars := collapse_of_not_isSpace (isSpace_toText i)
    rwa [String.ofList_toList] at hchars
  rw [read_integer, map_integer_eq_ok_iff, hcollapse, Integer.read_eq_ok_iff]
  exact ⟨Integer.readWhole?_toText i, rfl⟩

/-- One more than the greatest byte, behind a sign and zeros, and the least integer of all. -/
theorem integer_reading_limits :
    FailsWith (read (.integer .byte) " +00128\n" .empty) .FORG0001 .facet ∧
      read (.integer .integer) "-170141183460469231731687303715884105728" .empty =
        .ok (integer ⟨.integer, Integer.minStored, by decide, by decide⟩) := by
  constructor
  · have hreads := (integer_reading .byte " +00128\n" .empty).1
    exact (hreads.outOfRange ⟨.plus, ⟨['0', '0', '1', '2', '8'], by decide, by decide⟩⟩
      (by decide)).mpr ⟨by decide, by decide⟩
  · have hwritten := (integer_reading .integer "" .empty).2
      ⟨.integer, Integer.minStored, by decide, by decide⟩
    have htext : (⟨.integer, Integer.minStored, by decide, by decide⟩ : Integer).toText =
        "-170141183460469231731687303715884105728" := by decide +kernel
    rwa [htext] at hwritten

end AtomicValue

end XPathValues
