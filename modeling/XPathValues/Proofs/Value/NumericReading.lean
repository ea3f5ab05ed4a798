import Mathlib.Tactic
import XPathValues.Proofs.Number.DecimalLiteral
import XPathValues.Proofs.Number.DecimalQuotient
import XPathValues.Proofs.Value.CastSoundness
import XPathValues.Proofs.Value.Reading

/-!
# The lexical forms of numbers

The forms of the numeric types are nested. An integer literal is a decimal literal, and a decimal
literal is a literal of binary floating point, which may also have an exponent. The two binary types
have the same literals. An integer that a decimal can hold is the same number when its text is read
as a decimal, and comes back from there by a cast.
-/

namespace XPathValues

open Text

/-! ## Literals of binary floating point -/

namespace DecimalBody

variable {text : List Char}

theorem isLetter_of_mem (body : DecimalBody) :
    ∀ c ∈ body.chars, (c == 'e' || c == 'E') = false := by
  have hdigit : ∀ {c : Char}, c.isDigit = true → (c == 'e' || c == 'E') = false := by
    intro c hc
    rw [Bool.or_eq_false_iff, beq_eq_false_iff_ne, beq_eq_false_iff_ne]
    constructor <;> (rintro rfl; cases hc)
  have hrun (run : DigitRun) : ∀ c ∈ run.chars, (c == 'e' || c == 'E') = false :=
    fun c hc => hdigit (run.isDigit_of_mem c hc)
  cases body with
  | whole digits => exact hrun digits
  | pointed digits behind =>
    refine List.forall_mem_append.mpr ⟨hrun digits, List.forall_mem_cons.mpr ⟨rfl, fun c hc => ?_⟩⟩
    exact hdigit (allDigits_iff.mp (allDigits_optionalDigits behind) c hc)
  | fraction digits => exact List.forall_mem_cons.mpr ⟨rfl, hrun digits⟩

theorem chars_ne_nil (body : DecimalBody) : body.chars ≠ [] := by
  cases body with
  | whole digits => exact digits.ne_nil
  | pointed digits behind => simp [chars]
  | fraction digits => simp [chars]

end DecimalBody

theorem DecimalLiteral.splitSign_append (l : DecimalLiteral) (rest : List Char) :
    splitSign (l.chars ++ rest) = (l.sign.isMinus, l.body.chars ++ rest) := by
  have hhead {c : Char} (hc : c.isDigit = false) (hpoint : c ≠ '.') :
      (l.body.chars ++ rest).head? ≠ some c := by
    rw [List.head?_append_of_ne_nil _ l.body.chars_ne_nil]
    exact l.body.head?_chars hc hpoint
  rw [chars, List.append_assoc]
  exact l.sign.splitSign_append (hhead rfl (by decide)) (hhead rfl (by decide))

structure ExponentLiteral where
  capital : Bool
  power : IntegerLiteral

namespace ExponentLiteral

def letter (e : ExponentLiteral) : Char :=
  if e.capital then 'E' else 'e'

def chars (e : ExponentLiteral) : List Char :=
  e.letter :: e.power.chars

theorem isLetter_letter (e : ExponentLiteral) : (e.letter == 'e' || e.letter == 'E') = true := by
  unfold letter
  cases e.capital <;> rfl

theorem exists_letter_eq {c : Char} (hc : (c == 'e' || c == 'E') = true) (power : IntegerLiteral) :
    ∃ e : ExponentLiteral, e.chars = c :: power.chars ∧ e.power = power := by
  rw [Bool.or_eq_true, beq_iff_eq, beq_iff_eq] at hc
  rcases hc with rfl | rfl
  · exact ⟨⟨false, power⟩, rfl, rfl⟩
  · exact ⟨⟨true, power⟩, rfl, rfl⟩

end ExponentLiteral

/-- A decimal literal with or without an exponent. -/
structure NumberLiteral where
  mantissa : DecimalLiteral
  exponent : Option ExponentLiteral

namespace NumberLiteral

def chars (l : NumberLiteral) : List Char :=
  l.mantissa.chars ++ (l.exponent.map ExponentLiteral.chars).getD []

/-- The sign, the digits and the power of ten that the literal gives. -/
def parts (l : NumberLiteral) : ScientificLiteral :=
  ⟨l.mantissa.sign.isMinus, l.mantissa.body.sides,
    (l.exponent.map fun e => e.power.value).getD 0⟩

theorem read?_chars (l : NumberLiteral) : ScientificLiteral.read? l.chars = some l.parts := by
  obtain ⟨mantissa, exponent⟩ := l
  cases exponent with
  | none =>
    have hcut : cutAt? (fun c => c == 'e' || c == 'E') mantissa.body.chars = none :=
      cutAt?_eq_none_iff.mpr mantissa.body.isLetter_of_mem
    have hsplit := mantissa.splitSign_append []
    rw [List.append_nil] at hsplit
    simp [ScientificLiteral.read?, chars, parts, hsplit, hcut, mantissa.body.read?_chars]
  | some e =>
    have hcut : cutAt? (fun c => c == 'e' || c == 'E') (mantissa.body.chars ++ e.chars) =
        some (mantissa.body.chars, e.power.chars) :=
      cutAt?_append_cons mantissa.body.isLetter_of_mem e.isLetter_letter
    have hpower : ScientificLiteral.readExponent? e.power.chars = some e.power.value :=
      IntegerLiteral.readWhole?_eq_some_iff.mpr ⟨e.power, rfl, rfl⟩
    simp [ScientificLiteral.read?, chars, parts, mantissa.splitSign_append, hcut,
      mantissa.body.read?_chars, hpower]

theorem exists_of_read? {text : List Char} {parts : ScientificLiteral}
    (h : ScientificLiteral.read? text = some parts) :
    ∃ l : NumberLiteral, l.chars = text ∧ l.parts = parts := by
  obtain ⟨sign, htext, hsign⟩ := Sign.exists_splitSign_eq text
  unfold ScientificLiteral.read? at h
  dsimp only at h
  cases hcut : cutAt? (fun c => c == 'e' || c == 'E') (splitSign text).2 with
  | none =>
    rw [hcut] at h
    obtain ⟨digits, hdigits, rfl⟩ := Option.map_eq_some_iff.mp h
    obtain ⟨body, hbody, hsides⟩ := DecimalBody.exists_of_read? hdigits
    refine ⟨⟨⟨sign, body⟩, none⟩, ?_, ?_⟩
    · simpa [chars, DecimalLiteral.chars, hbody] using htext.symm
    · simp [NumberLiteral.parts, hsides, hsign]
  | some cut =>
    obtain ⟨front, back⟩ := cut
    obtain ⟨c, hc, _, hbody⟩ := cutAt?_eq_some hcut
    rw [hcut] at h
    obtain ⟨digits, hdigits, h⟩ := Option.bind_eq_some_iff.mp h
    obtain ⟨power, hpower, h⟩ := Option.bind_eq_some_iff.mp h
    obtain rfl := Option.some.inj h
    obtain ⟨body, rfl, hsides⟩ := DecimalBody.exists_of_read? hdigits
    obtain ⟨integer, rfl, rfl⟩ := IntegerLiteral.readWhole?_eq_some_iff.mp hpower
    obtain ⟨e, he, rfl⟩ := ExponentLiteral.exists_letter_eq hc integer
    refine ⟨⟨⟨sign, body⟩, some e⟩, ?_, ?_⟩
    · simp only [chars, DecimalLiteral.chars, Option.map_some, Option.getD_some, he,
        List.append_assoc]
      rw [← hbody]
      exact htext.symm
    · simp [NumberLiteral.parts, hsides, hsign]

end NumberLiteral

/-- What the two binary types are read from. -/
inductive FloatingLiteral where
  | infinity
  | minusInfinity
  | notANumber
  | number (l : NumberLiteral)

namespace FloatingLiteral

def chars : FloatingLiteral → List Char
  | infinity => "INF".toList
  | minusInfinity => "-INF".toList
  | notANumber => "NaN".toList
  | number l => l.chars

theorem chars_number (l : NumberLiteral) : (number l).chars = l.chars := rfl

/-- The literals are the same for every format. -/
theorem isSome_read?_iff {f : BinaryFormat} {text : List Char} :
    (BinaryFloat.read? text : Option (BinaryFloat f)).isSome = true ↔
      ∃ l : FloatingLiteral, l.chars = text := by
  unfold BinaryFloat.read?
  constructor
  · intro h
    split_ifs at h with hinf hminus hnan
    · exact ⟨infinity, hinf.symm⟩
    · exact ⟨minusInfinity, hminus.symm⟩
    · exact ⟨notANumber, hnan.symm⟩
    · rw [Option.isSome_map, Option.isSome_iff_exists] at h
      obtain ⟨parts, hparts⟩ := h
      obtain ⟨l, hl, _⟩ := NumberLiteral.exists_of_read? hparts
      exact ⟨number l, hl⟩
  · rintro ⟨l, rfl⟩
    split_ifs with hinf hminus hnan
    · rfl
    · rfl
    · rfl
    · cases l with
      | infinity => exact absurd rfl hinf
      | minusInfinity => exact absurd rfl hminus
      | notANumber => exact absurd rfl hnan
      | number l => rw [chars_number, l.read?_chars, Option.map_some, Option.isSome_some]

theorem exists_of_decimal (l : DecimalLiteral) : ∃ k : FloatingLiteral, k.chars = l.chars :=
  ⟨number ⟨l, none⟩, List.append_nil _⟩

end FloatingLiteral

def IntegerLiteral.toDecimal (l : IntegerLiteral) : DecimalLiteral :=
  ⟨l.sign, .whole l.digits⟩

theorem IntegerLiteral.value_toDecimal (l : IntegerLiteral) :
    l.toDecimal.value = (l.value : ℚ) := by
  unfold DecimalLiteral.value IntegerLiteral.value withSign toDecimal
  split <;> simp [DecimalBody.value]

namespace AtomicValue

variable {given : String} {bindings : Bindings}

/-! ## Reading -/

theorem exists_read_iff_literal {f : BinaryFormat} {kind : AtomicKind}
    {make : BinaryFloat f → AtomicValue}
    (hread : read kind given bindings =
      orInvalid kind given (BinaryFloat.read? (collapse given).toList) make) :
    (∃ v, read kind given bindings = .ok v) ↔
      ∃ l : FloatingLiteral, l.chars = (collapse given).toList := by
  rw [hread, ← FloatingLiteral.isSome_read?_iff (f := f)]
  cases BinaryFloat.read? (collapse given).toList with
  | none => simp [orInvalid]
  | some x => simp [orInvalid]

theorem exists_read_float_iff :
    (∃ v, read .float given bindings = .ok v) ↔
      ∃ l : FloatingLiteral, l.chars = (collapse given).toList := by
  have hread : read .float given bindings =
      orInvalid .float given (BinaryFloat.read? (collapse given).toList) float := rfl
  exact exists_read_iff_literal hread

theorem exists_read_double_iff :
    (∃ v, read .double given bindings = .ok v) ↔
      ∃ l : FloatingLiteral, l.chars = (collapse given).toList := by
  have hread : read .double given bindings =
      orInvalid .double given (BinaryFloat.read? (collapse given).toList) double := rfl
  exact exists_read_iff_literal hread

theorem read_decimal :
    read .decimal given bindings = readDecimal given (collapse given) :=
  rfl

theorem readDecimal_of_ok {collapsed : String} {d : Decimal}
    (h : Decimal.read collapsed.toList = .ok d) : readDecimal given collapsed = .ok (decimal d) := by
  unfold readDecimal
  rw [h]

theorem readDecimal_of_error {collapsed : String} {failure : Decimal.ReadFailure}
    (h : Decimal.read collapsed.toList = .error failure) :
    readDecimal given collapsed =
      .error (if failure = .malformed then .invalidLexical .decimal given
        else .decimalLiteralTooLarge collapsed) := by
  unfold readDecimal
  rw [h]
  cases failure <;> rfl

theorem failsWith_read_decimal_iff :
    FailsWith (read .decimal given bindings) .FORG0001 .lexical ↔
      ¬ ∃ l : DecimalLiteral, l.chars = (collapse given).toList := by
  rw [read_decimal, ← Decimal.read_eq_malformed_iff]
  cases hread : Decimal.read (collapse given).toList with
  | ok d => simp [FailsWith, readDecimal_of_ok hread]
  | error failure =>
    rw [readDecimal_of_error hread]
    cases failure with
    | malformed => exact iff_of_true ⟨_, rfl, rfl, rfl⟩ rfl
    | tooLarge =>
      refine iff_of_false ?_ (by simp)
      rintro ⟨_, ⟨⟩, hcode, _⟩
      cases hcode

theorem exists_read_decimal_of_integer {k : IntegerKind} {i : Integer}
    (h : read (.integer k) given bindings = .ok (integer i)) (hsize : |i.value| < 2 ^ 96) :
    ∃ d, read .decimal given bindings = .ok (decimal d) ∧ d.toRat = i.value := by
  rw [read_integer, map_integer_eq_ok_iff, Integer.read_eq_ok_iff,
    IntegerLiteral.readWhole?_eq_some_iff] at h
  obtain ⟨⟨l, hl, hvalue⟩, _⟩ := h
  have hfits : i.value.natAbs ≤ Decimal.maxMagnitude := by
    rw [Decimal.maxMagnitude_eq]
    rw [Int.abs_eq_natAbs] at hsize
    omega
  have hwhole : l.toDecimal.value = (i.value : ℚ) / 10 ^ 0 := by
    rw [l.value_toDecimal, hvalue, pow_zero, div_one]
  obtain ⟨d, hd, hrat⟩ := Decimal.read_chars_of_exact l.toDecimal hfits (Nat.zero_le _) hwhole
  have hchars : l.toDecimal.chars = (collapse given).toList := hl
  rw [hchars] at hd
  rw [read_decimal, readDecimal_of_ok hd]
  exact ⟨d, rfl, by rw [hrat, l.value_toDecimal, hvalue]⟩

theorem cast_integer_of_toRat_eq {d : Decimal} {i : Integer} (h : d.toRat = i.value) :
    (decimal d).cast (.integer i.kind) bindings = .ok (integer i) := by
  rw [cast_integer_eq_ok_iff]
  refine ⟨congrArg some ?_, rfl⟩
  rw [d.toInt_eq_towardZero, h, Rounding.towardZero_intCast]

/-- What the numeric types make of one text. -/
structure NestsNumbers (given : String) (bindings : Bindings) : Prop where
  float : (∃ v, read .float given bindings = .ok v) ↔
    ∃ l : FloatingLiteral, l.chars = (collapse given).toList
  double : (∃ v, read .double given bindings = .ok v) ↔
    ∃ l : FloatingLiteral, l.chars = (collapse given).toList
  same : (∃ v, read .float given bindings = .ok v) ↔ ∃ v, read .double given bindings = .ok v
  malformed : FailsWith (read .decimal given bindings) .FORG0001 .lexical ↔
    ¬ ∃ l : DecimalLiteral, l.chars = (collapse given).toList
  decimal : ∀ l : DecimalLiteral, l.chars = (collapse given).toList →
    (∃ v, read .float given bindings = .ok v) ∧ ∃ v, read .double given bindings = .ok v
  integer : ∀ (k : IntegerKind) (v : AtomicValue), read (.integer k) given bindings = .ok v →
    ∃ i : Integer, v = .integer i ∧ (|i.value| < 2 ^ 96 →
      ∃ d, read .decimal given bindings = .ok (.decimal d) ∧ d.toRat = i.value ∧
        (AtomicValue.decimal d).cast (.integer k) bindings = .ok v)

/-- The lexical forms of the numeric types are nested, and the numbers agree. The binary types take
the same texts, which the grammar of floating literals spells, every decimal literal among them. An
integer that is in the range of decimals is read as the same number by the decimal type, and the
cast back gives the integer that was read at first. -/
theorem numeric_forms_nested (given : String) (bindings : Bindings) :
    NestsNumbers given bindings where
  float := exists_read_float_iff
  double := exists_read_double_iff
  same := exists_read_float_iff.trans exists_read_double_iff.symm
  malformed := failsWith_read_decimal_iff
  decimal l hl := by
    have hfloating := hl ▸ FloatingLiteral.exists_of_decimal l
    exact ⟨exists_read_float_iff.mpr hfloating, exists_read_double_iff.mpr hfloating⟩
  integer k v h := by
    obtain ⟨i, hi, rfl⟩ := exists_of_map_eq_ok (read_integer ▸ h)
    obtain rfl := kind_integerRead hi
    refine ⟨i, rfl, fun hsize => ?_⟩
    obtain ⟨d, hd, hvalue⟩ := exists_read_decimal_of_integer h hsize
    exact ⟨d, hd, hvalue, cast_integer_of_toRat_eq hvalue⟩

/-- The greatest integer in the range of decimals behind a sign and zeros, as a value of a type with
a bound; a literal with everything that it may have; and a letter without an exponent. -/
theorem numeric_forms_nested_limits :
    (∃ d, read .decimal "\n+079228162514264337593543950335 " .empty = .ok (decimal d) ∧
        d.toRat = 2 ^ 96 - 1 ∧
        (decimal d).cast (.integer .positiveInteger) .empty =
          .ok (integer ⟨.positiveInteger, 2 ^ 96 - 1, by decide, by decide⟩)) ∧
      (∃ v, read .double " -00.50E-007" .empty = .ok v) ∧
      ¬ ∃ v, read .float "1e" .empty = .ok v := by
  refine ⟨?_, ?_, fun haccepted => ?_⟩
  · let given := "\n+079228162514264337593543950335 "
    have hread : read (.integer .positiveInteger) given .empty =
        .ok (integer ⟨.positiveInteger, 2 ^ 96 - 1, by decide, by decide⟩) := by decide +kernel
    obtain ⟨i, hi, hnested⟩ := (numeric_forms_nested given .empty).integer _ _ hread
    obtain rfl := integer.inj hi
    obtain ⟨d, hd, hvalue, hcast⟩ := hnested (by decide)
    exact ⟨d, hd, by rw [hvalue]; norm_num, hcast⟩
  · refine (numeric_forms_nested " -00.50E-007" .empty).double.mpr ⟨.number ⟨⟨.minus, .pointed
      ⟨['0', '0'], by decide, by decide⟩ (some ⟨['5', '0'], by decide, by decide⟩)⟩,
      some ⟨true, .minus, ⟨['0', '0', '7'], by decide, by decide⟩⟩⟩, by decide +kernel⟩
  · obtain ⟨v, hv⟩ := (numeric_forms_nested "1e" .empty).same.mp haccepted
    have hfails : read .double "1e" .empty = .error (.invalidLexical .double "1e") := by
      decide +kernel
    cases hv.symm.trans hfails

end AtomicValue

end XPathValues
