import XPathValues.CastTable
import XPathValues.Value.Lexical
import XPathValues.Value.Number

/-!
# Casting

The table of casts selects a conversion, and an integer that comes out of it takes its new type. What
a permitted cast can fail on is in the value: a text that is no lexical form, a number that does not
fit, or an integer outside the range of its new type.
-/

namespace XPathValues

namespace Integer

/-- The integer of a number that is already known to be stored, in the range of a type. -/
def ofStored (kind : IntegerKind) (i : Integer) : Except Error Integer :=
  match i.relabel? kind with
  | some i => .ok i
  | none => .error (.outOfRange kind i.value)

theorem ofStored_eq_ok_iff {kind : IntegerKind} {i j : Integer} :
    ofStored kind i = .ok j ↔ j.kind = kind ∧ j.value = i.value := by
  rw [← relabel?_eq_some_iff]
  unfold ofStored
  cases i.relabel? kind <;> simp

end Integer

namespace Numeric

/-- The decimal of a number. Neither NaN nor an infinity has one, and others may be too large. -/
def toDecimal : Numeric → Except Error Decimal
  | integer n =>
    match Decimal.ofInt? n with
    | some d => .ok d
    | none => .error (.tooLargeForDecimal (toString n))
  | decimal d => .ok d
  | float x =>
    let widened : Double := x.convert
    if !x.isFinite then .error (.notFinite widened.toText .decimal)
    else
      match Decimal.ofSingle? x with
      | some d => .ok d
      | none => .error (.tooLargeForDecimal widened.toPositionalText)
  | double x =>
    if !x.isFinite then .error (.notFinite x.toText .decimal)
    else
      match Decimal.ofDouble? x with
      | some d => .ok d
      | none => .error (.tooLargeForDecimal x.toPositionalText)

def integerPart (x : Double) (target : AtomicKind) : Except Error Integer :=
  match x.truncate? with
  | none => .error (.notFinite x.toText target)
  | some n =>
    match Integer.plain? n with
    | some i => .ok i
    | none => .error (.tooLargeForInteger x.toPositionalText)

/-- The integer part of a number; `target` is the type that a message names. -/
def toInteger (x : Numeric) (target : AtomicKind) : Except Error Integer :=
  match x with
  | integer n =>
    match Integer.plain? n with
    | some i => .ok i
    | none => .error (.tooLargeForInteger (toString n))
  | decimal d => .ok (.plain d.toInt (Integer.stored_of_natAbs_le d.natAbs_toInt_le))
  | float x => integerPart x.convert target
  | double x => integerPart x target

end Numeric

namespace AtomicValue

/-- Numbers and truth values among each other. Neither stays what it is, so there is no row for one
type twice. -/
def convertNumeric (v : AtomicValue) (target : AtomicKind) : Except Error AtomicValue :=
  match v, target with
  | integer i, .boolean => .ok (boolean (i.value != 0))
  | decimal d, .boolean => .ok (boolean !d.isZero)
  | float x, .boolean => .ok (boolean (!x.isZero && !x.isNaN))
  | double x, .boolean => .ok (boolean (!x.isZero && !x.isNaN))
  | integer i, .double => .ok (double (.ofInt i.value))
  | decimal d, .double => .ok (double d.toDouble)
  | float x, .double => .ok (double x.convert)
  | boolean b, .double => .ok (double (.ofInt (if b then 1 else 0)))
  | integer i, .float => .ok (float (.ofInt i.value))
  | decimal d, .float => .ok (float d.toSingle)
  | double x, .float => .ok (float x.convert)
  | boolean b, .float => .ok (float (.ofInt (if b then 1 else 0)))
  | integer i, .decimal => (Numeric.integer i.value).toDecimal.map decimal
  | float x, .decimal => (Numeric.float x).toDecimal.map decimal
  | double x, .decimal => (Numeric.double x).toDecimal.map decimal
  | boolean b, .decimal => .ok (decimal (if b then .one else .zero))
  | decimal d, .integer _ => ((Numeric.decimal d).toInteger target).map integer
  | float x, .integer _ => ((Numeric.float x).toInteger target).map integer
  | double x, .integer _ => ((Numeric.double x).toInteger target).map integer
  | boolean b, .integer _ =>
    .ok (integer (.plain (if b then 1 else 0) (by cases b <;> decide)))
  | _, _ => .error (.illegalCast v.kind target)

def castDuration (d : Duration) (source : AtomicKind) : AtomicKind → Except Error AtomicValue
  | .duration => .ok (duration d)
  | .yearMonthDuration => .ok (yearMonthDuration d.yearMonth)
  | .dayTimeDuration => .ok (dayTimeDuration d.dayTime)
  | target => .error (.illegalCast source target)

/-- A date and time as a value of one of the types that it determines. -/
def project (x : DateTime) (source : AtomicKind) : AtomicKind → Except Error AtomicValue
  | .dateTime => .ok (dateTime x)
  | .date => .ok (date x.date)
  | .time => .ok (time x.time)
  | .gYearMonth => .ok (gYearMonth (x.date.map CalendarDate.yearMonth))
  | .gYear => .ok (gYear (x.date.map CalendarDate.calendarYear))
  | .gMonthDay => .ok (gMonthDay (x.date.map CalendarDate.monthDay))
  | .gDay => .ok (gDay (x.date.map CalendarDate.dayOfMonth))
  | .gMonth => .ok (gMonth (x.date.map CalendarDate.monthOfYear))
  | target => .error (.illegalCast source target)

def asDateTime? : AtomicValue → Option DateTime
  | dateTime x => some x
  | date x => some x.startOfDay
  | _ => none

/-- An integer takes the integer type that is asked for. -/
def restrict (v : AtomicValue) (target : AtomicKind) : Except Error AtomicValue :=
  match v, target with
  | integer i, .integer kind =>
    if i.kind = kind then .ok v else (Integer.ofStored kind i).map integer
  | v, _ => .ok v

theorem restrict_integer (i : Integer) (kind : IntegerKind) :
    (integer i).restrict (.integer kind) = (Integer.ofStored kind i).map integer := by
  unfold restrict
  dsimp only
  split
  · next hkind =>
    have hsame : Integer.ofStored kind i = .ok i := Integer.ofStored_eq_ok_iff.mpr ⟨hkind, rfl⟩
    rw [hsame]
    rfl
  · rfl

theorem restrict_of_kind_eq {v : AtomicValue} {target : AtomicKind} (h : v.kind = target) :
    v.restrict target = .ok v := by
  unfold restrict
  split
  · exact if_pos (AtomicKind.integer.inj h)
  · rfl

/-- The conversion that the table selects. -/
def convert (v : AtomicValue) (target : AtomicKind) (bindings : Bindings) :
    Except Error AtomicValue :=
  let illegal : Except Error AtomicValue := .error (.illegalCast v.kind target)
  match castRule v.kind target with
  | .forbidden => illegal
  | .identity => .ok v
  | .toText => .ok (if target = .untypedAtomic then untypedAtomic v.text else string v.text)
  | .parse => read target v.text bindings
  | .numeric => v.convertNumeric target
  | .duration => v.asDuration?.elim illegal fun d => castDuration d v.kind target
  | .project => v.asDateTime?.elim illegal fun x => project x v.kind target

/-- The value as one of another type. The bindings are for qualified names. -/
def cast (v : AtomicValue) (target : AtomicKind) (bindings : Bindings) :
    Except Error AtomicValue := do
  let converted ← v.convert target bindings
  converted.restrict target

section

variable {v : AtomicValue} {target : AtomicKind} {bindings : Bindings}

theorem bind_restrict {x : Except Error AtomicValue} (h : ∀ w, x = .ok w → w.kind = target) :
    (x >>= fun w => w.restrict target) = x := by
  cases x with
  | error e => rfl
  | ok w => exact restrict_of_kind_eq (h w rfl)

theorem cast_of_forbidden (h : castRule v.kind target = .forbidden) :
    v.cast target bindings = .error (.illegalCast v.kind target) := by
  simp only [cast, convert, h]
  rfl

theorem cast_of_identity (h : castRule v.kind target = .identity) :
    v.cast target bindings = v.restrict target := by
  simp only [cast, convert, h]
  rfl

theorem cast_of_parse (h : castRule v.kind target = .parse) :
    v.cast target bindings = read target v.text bindings := by
  simp only [cast, convert, h]
  exact bind_restrict fun _ => kind_read

end

/-- Types of the schema that no value has as its own. -/
def abstractTypes : List String := ["anyAtomicType", "NOTATION", "anySimpleType"]

/-- A cast to a type that is given by its name. -/
def castToName (v : AtomicValue) (target : ExpandedName) (bindings : Bindings) :
    Except Error AtomicValue :=
  match AtomicKind.ofExpandedName? target with
  | some kind => v.cast kind bindings
  | none =>
    if target.uri = some Namespace.schema ∧ target.localPart ∈ abstractTypes then
      .error (.abstractType target.localPart)
    else .error (.unknownType target)

end AtomicValue

end XPathValues
