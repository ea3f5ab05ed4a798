import XPathValues.Cast

/-!
# Comparison

Two values are related if they belong to one family of comparable types. Some families are ordered
and some know equality only; a number that is not a number is in no order with any other. Calendar
values are compared by their instants, so those without a zone need an implicit one.
-/

namespace XPathValues

/-- How two values of one family stand to each other. -/
inductive Relation where
  | ordered (order : Ordering)
  /-- One of the two is NaN. -/
  | unordered
  /-- The family has no order; the flag says whether the values are equal. -/
  | equality (equal : Bool)
deriving DecidableEq

namespace Relation

/-- What an operator answers; a family without an order does not answer for an ordering one. -/
def answer? : Relation → ComparisonOperator → Option Bool
  | ordered order, op => some (op.holds order)
  | unordered, op => some (op == .ne)
  | equality equal, .eq => some equal
  | equality equal, .ne => some (!equal)
  | equality _, _ => none

def ofOrdering? : Option Ordering → Relation
  | some order => ordered order
  | none => unordered

end Relation

def compareTexts (a b : String) : Ordering :=
  if a < b then .lt else if a = b then .eq else .gt

def compareTruths : Bool → Bool → Ordering
  | false, true => .lt
  | true, false => .gt
  | _, _ => .eq

def compareIntegers (a b : Int) : Ordering :=
  if a < b then .lt else if a = b then .eq else .gt

namespace Zoned

variable {α : Type} [CalendarPart α]

def compareInstants (a b : Zoned α) (implicitZone : Timezone) : Except Error Ordering := do
  let x ← a.instant implicitZone
  let y ← b.instant implicitZone
  return x.compare y

def orderedBy (a b : Zoned α) (implicitZone : Timezone) : Except Error (Option Relation) :=
  (a.compareInstants b implicitZone).map fun order => some (.ordered order)

def equalBy (a b : Zoned α) (implicitZone : Timezone) : Except Error (Option Relation) :=
  (a.compareInstants b implicitZone).map fun order => some (.equality (order == .eq))

end Zoned

namespace AtomicValue

/-- The relation of values that are neither both numbers nor both texts. -/
def relateSpecial (implicitZone : Timezone) :
    AtomicValue → AtomicValue → Except Error (Option Relation)
  | boolean a, boolean b => .ok (some (.ordered (compareTruths a b)))
  | qname a, qname b => .ok (some (.equality (a.expandedName == b.expandedName)))
  | yearMonthDuration a, yearMonthDuration b =>
    .ok (some (.ordered (compareIntegers a.months b.months)))
  | dayTimeDuration a, dayTimeDuration b => .ok (some (.ordered (a.seconds.compare b.seconds)))
  | dateTime a, dateTime b => a.orderedBy b implicitZone
  | date a, date b => a.orderedBy b implicitZone
  | time a, time b => a.orderedBy b implicitZone
  | gYearMonth a, gYearMonth b => a.equalBy b implicitZone
  | gYear a, gYear b => a.equalBy b implicitZone
  | gMonthDay a, gMonthDay b => a.equalBy b implicitZone
  | gDay a, gDay b => a.equalBy b implicitZone
  | gMonth a, gMonth b => a.equalBy b implicitZone
  | a, b =>
    match a.asDuration?, b.asDuration? with
    | some x, some y => .ok (some (.equality (x.equalValue y)))
    | _, _ => .ok none

/-- The relation of two values, or nothing when their types are not comparable. -/
def relate (a b : AtomicValue) (implicitZone : Timezone) : Except Error (Option Relation) :=
  match a.asNumeric?, b.asNumeric? with
  | some x, some y => .ok (some (.ofOrdering? (Numeric.promote x y).compare?))
  | _, _ =>
    match a.asText?, b.asText? with
    | some x, some y => .ok (some (.ordered (compareTexts x y)))
    | _, _ => relateSpecial implicitZone a b

/-- The value comparison of two values. Untyped values compare as texts. -/
def compare (a : AtomicValue) (op : ComparisonOperator) (b : AtomicValue)
    (implicitZone : Timezone) : Except Error Bool := do
  let relation? ← relate a b implicitZone
  match relation?.bind fun relation => relation.answer? op with
  | some answer => .ok answer
  | none => .error (.incomparable op a.kind b.kind)

/-- The type that an untyped value takes next to one of another type. -/
def untypedTarget (other : AtomicKind) : AtomicKind :=
  if other.isNumeric then .double else if other.isStringLike then .string else other

/-- An untyped value takes its type from a typed one beside it. -/
def typedLike (v other : AtomicValue) : Except Error AtomicValue :=
  if v.isUntyped && !other.isUntyped then v.cast (untypedTarget other.kind) .empty else .ok v

/-- The general comparison of two single values. -/
def compareGeneral (a : AtomicValue) (op : ComparisonOperator) (b : AtomicValue)
    (implicitZone : Timezone) : Except Error Bool := do
  let x ← a.typedLike b
  let y ← b.typedLike a
  x.compare op y implicitZone

end AtomicValue

end XPathValues
