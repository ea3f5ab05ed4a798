import Mathlib.Tactic
import XPathValues.Proofs.Text.Whitespace
import XPathValues.Proofs.Value.Reading

/-!
# White space around a lexical form

All types but those that keep a text as it is read the collapsed text and nothing else of it. So
white space at the ends changes neither the value nor the reason why there is none; the message of a
failure may still quote it.
-/

namespace XPathValues.AtomicValue

open Text

variable {α : Type} {kind : AtomicKind} {given other : String} {bindings : Bindings}

/-- One value, or two failures with one code and of one category. -/
structure SameReading (outcome outcome' : Except Error AtomicValue) : Prop where
  value : ∀ v, outcome = .ok v ↔ outcome' = .ok v
  failure : ∀ e, outcome = .error e →
    ∃ e', outcome' = .error e' ∧ e'.code = e.code ∧ e'.category = e.category

/-- Each text is quoted in its own failure. -/
def BothInvalid (kind : AtomicKind) (given other : String)
    (outcome outcome' : Except Error AtomicValue) : Prop :=
  outcome = .error (.invalidLexical kind given) ∧ outcome' = .error (.invalidLexical kind other)

theorem orInvalid_eq_or_bothInvalid (value : Option α) (make : α → AtomicValue) :
    orInvalid kind given value make = orInvalid kind other value make ∨
      BothInvalid kind given other (orInvalid kind given value make)
        (orInvalid kind other value make) := by
  cases value with
  | some x => exact Or.inl rfl
  | none => exact Or.inr ⟨rfl, rfl⟩

theorem readDecimal_eq_or_bothInvalid (collapsed : String) :
    readDecimal given collapsed = readDecimal other collapsed ∨
      BothInvalid .decimal given other (readDecimal given collapsed)
        (readDecimal other collapsed) := by
  unfold readDecimal
  cases Decimal.read collapsed.toList with
  | ok d => exact Or.inl rfl
  | error failure =>
    cases failure with
    | malformed => exact Or.inr ⟨rfl, rfl⟩
    | tooLarge => exact Or.inl rfl

/-- Texts with one collapsed form differ in what a failure quotes at most. -/
theorem read_eq_or_bothInvalid (hstring : kind ≠ .string) (huntyped : kind ≠ .untypedAtomic)
    (hcollapse : collapse given = collapse other) :
    read kind given bindings = read kind other bindings ∨
      BothInvalid kind given other (read kind given bindings) (read kind other bindings) := by
  simp only [read, hcollapse]
  cases kind with
  | string => exact absurd rfl hstring
  | untypedAtomic => exact absurd rfl huntyped
  | anyURI | qname | integer _ => exact Or.inl rfl
  | decimal => exact readDecimal_eq_or_bothInvalid _
  | boolean | float | double | duration | yearMonthDuration | dayTimeDuration | dateTime | date
  | time | gYearMonth | gYear | gMonthDay | gDay | gMonth => exact orInvalid_eq_or_bothInvalid _ _

theorem sameReading_of_collapse_eq (hstring : kind ≠ .string) (huntyped : kind ≠ .untypedAtomic)
    (hcollapse : collapse given = collapse other) :
    SameReading (read kind given bindings) (read kind other bindings) := by
  rcases read_eq_or_bothInvalid hstring huntyped hcollapse with heq | ⟨hgiven, hother⟩
  · rw [heq]
    exact ⟨fun _ => Iff.rfl, fun e he => ⟨e, he, rfl, rfl⟩⟩
  · rw [hgiven, hother]
    refine ⟨fun _ => iff_of_false nofun nofun, fun e he => ⟨_, rfl, ?_⟩⟩
    obtain rfl := Except.error.inj he
    exact ⟨rfl, rfl⟩

/-- Collapsing leaves the words of a text with single spaces between them. Types other than `string`
and `untypedAtomic` read a text as they do with white space before and after it. -/
theorem whitespace_collapse (given : String) :
    CollapsesTo given (collapse given) ∧
      ∀ (kind : AtomicKind) (before after : String) (bindings : Bindings),
        kind ≠ .string → kind ≠ .untypedAtomic →
        (∀ c ∈ before.toList, isSpace c = true) → (∀ c ∈ after.toList, isSpace c = true) →
          SameReading (read kind given bindings)
            (read kind (before ++ given ++ after) bindings) := by
  refine ⟨collapsesTo_collapse given, ?_⟩
  intro kind before after bindings hstring huntyped hbefore hafter
  exact sameReading_of_collapse_eq hstring huntyped (collapse_padded hbefore hafter).symm

/-- A date between white space of all four kinds, and one that the calendar does not have, which is
quoted with that white space. -/
theorem whitespace_collapse_date :
    AtomicKind.date ≠ .string ∧ AtomicKind.date ≠ .untypedAtomic ∧
      (∀ c ∈ " \t".toList, isSpace c = true) ∧ (∀ c ∈ "\r\n".toList, isSpace c = true) ∧
      SameReading (read .date "2000-02-29" .empty)
        (read .date (" \t" ++ "2000-02-29" ++ "\r\n") .empty) ∧
      SameReading (read .date "2000-02-30" .empty)
        (read .date (" \t" ++ "2000-02-30" ++ "\r\n") .empty) ∧
      read .date "2000-02-29" .empty = .ok (date ⟨⟨2000, 2, 29, by decide⟩, none⟩) ∧
      read .date (" \t" ++ "2000-02-30" ++ "\r\n") .empty =
        .error (.invalidLexical .date " \t2000-02-30\r\n") := by
  have hstring : AtomicKind.date ≠ .string := by decide
  have huntyped : AtomicKind.date ≠ .untypedAtomic := by decide
  have hbefore : ∀ c ∈ " \t".toList, isSpace c = true := by simp [isSpace]
  have hafter : ∀ c ∈ "\r\n".toList, isSpace c = true := by simp [isSpace]
  exact ⟨hstring, huntyped, hbefore, hafter,
    (whitespace_collapse "2000-02-29").2 .date _ _ .empty hstring huntyped hbefore hafter,
    (whitespace_collapse "2000-02-30").2 .date _ _ .empty hstring huntyped hbefore hafter,
    by decide +kernel, by decide +kernel⟩

end XPathValues.AtomicValue
