import XPathValues.Text.Whitespace
import XPathValues.Value.Basic

/-!
# Reading atomic values

Every type reads its lexical forms from a text with collapsed white space, but for `string` and
`untypedAtomic`, which take every text as it is. The message of a failure quotes the text as it was
given; those of qualified names, integers and decimals that are too large quote it collapsed.
-/

namespace XPathValues

open Text

namespace Integer

/-- Put a digit behind a number, away from zero on the side of the sign. There is none when the
number cannot be stored, or could not be stored once it made room for the digit. -/
def appendDigit? (negative : Bool) (i : Integer) (c : Char) : Option Integer := do
  let shifted ← plain? (i.value * 10)
  plain? (if negative then shifted.value - digitOf c else shifted.value + digitOf c)

/-- The digits behind a number, as long as they fit. -/
def takeDigits? (negative : Bool) (i : Integer) : List Char → Option Integer
  | [] => some i
  | c :: rest => do
    let next ← appendDigit? negative i c
    takeDigits? negative next rest

/-- An optional sign and digits, within storage and within the range of the type. -/
def read (kind : IntegerKind) (text : String) : Except Error Integer :=
  let (negative, digits) := splitSign text.toList
  if digits.isEmpty || !allDigits digits then .error (.invalidLexical (.integer kind) text)
  else
    match takeDigits? negative (plain 0 stored_zero) digits with
    | none => .error (.integerLiteralTooLarge text)
    | some i =>
      match i.relabel? kind with
      | none => .error (.outOfRange kind i.value)
      | some i => .ok i

end Integer

namespace AtomicValue

/-- The value of a reader, or the failure to find a lexical form. -/
def orInvalid {α : Type} (kind : AtomicKind) (given : String) (value : Option α)
    (make : α → AtomicValue) : Except Error AtomicValue :=
  match value with
  | some x => .ok (make x)
  | none => .error (.invalidLexical kind given)

def readBoolean? (text : String) : Option Bool :=
  if text = "true" ∨ text = "1" then some true
  else if text = "false" ∨ text = "0" then some false
  else none

def readDecimal (given collapsed : String) : Except Error AtomicValue :=
  match Decimal.read collapsed.toList with
  | .ok d => .ok (decimal d)
  | .error .malformed => .error (.invalidLexical .decimal given)
  | .error .tooLarge => .error (.decimalLiteralTooLarge collapsed)

def read (kind : AtomicKind) (given : String) (bindings : Bindings) : Except Error AtomicValue :=
  let collapsed := Text.collapse given
  let chars := collapsed.toList
  match kind with
  | .untypedAtomic => .ok (untypedAtomic given)
  | .string => .ok (string given)
  | .anyURI => .ok (anyURI collapsed)
  | .boolean => orInvalid kind given (readBoolean? collapsed) boolean
  | .qname => (QName.read collapsed bindings).map qname
  | .decimal => readDecimal given collapsed
  | .integer k => (Integer.read k collapsed).map integer
  | .float => orInvalid kind given (BinaryFloat.read? chars) float
  | .double => orInvalid kind given (BinaryFloat.read? chars) double
  | .duration => orInvalid kind given (Duration.read? chars) duration
  | .yearMonthDuration => orInvalid kind given (YearMonthDuration.read? chars) yearMonthDuration
  | .dayTimeDuration => orInvalid kind given (DayTimeDuration.read? chars) dayTimeDuration
  | .dateTime => orInvalid kind given (Zoned.read? chars) dateTime
  | .date => orInvalid kind given (Zoned.read? chars) date
  | .time => orInvalid kind given (Zoned.read? chars) time
  | .gYearMonth => orInvalid kind given (Zoned.read? chars) gYearMonth
  | .gYear => orInvalid kind given (Zoned.read? chars) gYear
  | .gMonthDay => orInvalid kind given (Zoned.read? chars) gMonthDay
  | .gDay => orInvalid kind given (Zoned.read? chars) gDay
  | .gMonth => orInvalid kind given (Zoned.read? chars) gMonth

theorem kind_orInvalid {α : Type} {kind : AtomicKind} {given : String} {value : Option α}
    {make : α → AtomicValue} {v : AtomicValue} (hmake : ∀ x, (make x).kind = kind)
    (h : orInvalid kind given value make = .ok v) : v.kind = kind := by
  cases value with
  | none => cases h
  | some x =>
    obtain rfl := Except.ok.inj h
    exact hmake x

theorem kind_readDecimal {given collapsed : String} {v : AtomicValue}
    (h : readDecimal given collapsed = .ok v) : v.kind = .decimal := by
  unfold readDecimal at h
  split at h
  · obtain rfl := Except.ok.inj h
    rfl
  · cases h
  · cases h

theorem kind_map {α : Type} {kind : AtomicKind} {value : Except Error α} {make : α → AtomicValue}
    {v : AtomicValue} (hmake : ∀ x, value = .ok x → (make x).kind = kind)
    (h : value.map make = .ok v) : v.kind = kind := by
  cases value with
  | error e => cases h
  | ok x =>
    obtain rfl := Except.ok.inj h
    exact hmake x rfl

theorem kind_integerRead {kind : IntegerKind} {text : String} {i : Integer}
    (h : Integer.read kind text = .ok i) : i.kind = kind := by
  unfold Integer.read at h
  dsimp only at h
  split at h
  · cases h
  · split at h
    · cases h
    · split at h
      · cases h
      · next i' hrelabel =>
        obtain rfl := Except.ok.inj h
        exact (Integer.relabel?_eq_some_iff.mp hrelabel).1

theorem kind_read {kind : AtomicKind} {given : String} {bindings : Bindings} {v : AtomicValue}
    (h : read kind given bindings = .ok v) : v.kind = kind := by
  unfold read at h
  cases kind with
  | untypedAtomic | string | anyURI =>
    obtain rfl := Except.ok.inj h
    rfl
  | qname => exact kind_map (fun _ _ => rfl) h
  | decimal => exact kind_readDecimal h
  | integer k =>
    refine kind_map ?_ h
    intro i hi
    exact congrArg AtomicKind.integer (kind_integerRead hi)
  | boolean | float | double | duration | yearMonthDuration | dayTimeDuration | dateTime | date
  | time | gYearMonth | gYear | gMonthDay | gDay | gMonth =>
    exact kind_orInvalid (fun _ => rfl) h

end AtomicValue

end XPathValues
