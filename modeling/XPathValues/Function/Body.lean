import XPathValues.Function.Library

/-!
# Bodies of functions

The bodies of the standard functions read their first argument as an optional value of one type,
answer nothing where there is none, and give the rest to a function on the value.
-/

namespace XPathValues

namespace Sequence

/-- The value of the first item, which must be of a kind that the reader knows. -/
def expect {α : Type} (items : Sequence) (expected : AtomicKind)
    (reader : AtomicValue → Option α) : Except Error (Option α) :=
  match items with
  | [] => .ok none
  | .node _ :: _ => .error (.unexpectedNode expected.qualifiedName)
  | .atomic v :: _ =>
    match reader v with
    | some x => .ok (some x)
    | none => .error (.unexpectedKind expected.qualifiedName v.kind)

def ofInteger (n : Int) (h : n.natAbs ≤ 79228162514264337593543950335) : Sequence :=
  single (.integer (.plain n (Integer.stored_of_natAbs_le h)))

def ofText (text : String) : Sequence := single (.string text)

/-- The offset of a timezone as a duration, where there is a timezone. -/
def ofZone (zone : Option Timezone) : Sequence :=
  match zone with
  | some zone => single (.dayTimeDuration (.ofTimezone zone))
  | none => []

end Sequence

namespace AtomicValue

def asDateTimeOnly? : AtomicValue → Option DateTime
  | dateTime x => some x
  | _ => none

def asDate? : AtomicValue → Option Date
  | date x => some x
  | _ => none

def asTime? : AtomicValue → Option Time
  | time x => some x
  | _ => none

def asDayTimeDuration? : AtomicValue → Option DayTimeDuration
  | dayTimeDuration d => some d
  | _ => none

def asQName? : AtomicValue → Option QName
  | qname name => some name
  | _ => none

end AtomicValue

namespace FunctionBody

/-- The argument at a position; a missing one is empty. -/
def argument (arguments : List Sequence) (position : Nat) : Sequence :=
  (arguments[position]?).getD []

/-- A body that maps an optional value of one type and may fail. -/
def tryMap {α : Type} (expected : AtomicKind) (reader : AtomicValue → Option α)
    (f : Context → List Sequence → α → Except Error Sequence) : FunctionBody :=
  fun context arguments => do
    match ← (argument arguments 0).expect expected reader with
    | some x => f context arguments x
    | none => return []

def map {α : Type} (expected : AtomicKind) (reader : AtomicValue → Option α)
    (f : α → Sequence) : FunctionBody :=
  tryMap expected reader fun _ _ x => .ok (f x)

end FunctionBody

end XPathValues
