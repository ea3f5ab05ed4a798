import XPathValues.Kind.Integer
import XPathValues.Name

/-!
# The atomic types

Nineteen types beside the thirteen integer types. The integer types derive from `decimal`, and the
two ordered duration types from `duration`; no other type derives from another one.
-/

namespace XPathValues

inductive AtomicKind where
  | untypedAtomic
  | string
  | anyURI
  | boolean
  | qname
  | decimal
  | integer (kind : IntegerKind)
  | float
  | double
  | duration
  | yearMonthDuration
  | dayTimeDuration
  | dateTime
  | date
  | time
  | gYearMonth
  | gYear
  | gMonthDay
  | gDay
  | gMonth
deriving DecidableEq, Repr

namespace AtomicKind

/-- Every atomic type; the integer types come last. -/
def all : List AtomicKind :=
  [untypedAtomic, string, anyURI, boolean, qname, decimal, float, double, duration,
   yearMonthDuration, dayTimeDuration, dateTime, date, time, gYearMonth, gYear, gMonthDay, gDay,
   gMonth] ++ IntegerKind.all.map integer

def localName : AtomicKind → String
  | untypedAtomic => "untypedAtomic"
  | string => "string"
  | anyURI => "anyURI"
  | boolean => "boolean"
  | qname => "QName"
  | decimal => "decimal"
  | integer k => k.localName
  | float => "float"
  | double => "double"
  | duration => "duration"
  | yearMonthDuration => "yearMonthDuration"
  | dayTimeDuration => "dayTimeDuration"
  | dateTime => "dateTime"
  | date => "date"
  | time => "time"
  | gYearMonth => "gYearMonth"
  | gYear => "gYear"
  | gMonthDay => "gMonthDay"
  | gDay => "gDay"
  | gMonth => "gMonth"

/-- The local name behind the qualifier of the schema types, as messages give it. -/
def qualifiedName (k : AtomicKind) : String :=
  "xs:" ++ k.localName

def ofLocalName? (name : String) : Option AtomicKind :=
  all.find? fun k => k.localName == name

def expandedName (k : AtomicKind) : ExpandedName :=
  ExpandedName.inSchema k.localName

/-- Only names of the schema namespace name a type. -/
def ofExpandedName? (name : ExpandedName) : Option AtomicKind :=
  if name.uri = some Namespace.schema then ofLocalName? name.localPart else none

def isNumeric : AtomicKind → Bool
  | decimal | integer _ | float | double => true
  | _ => false

def isDuration : AtomicKind → Bool
  | duration | yearMonthDuration | dayTimeDuration => true
  | _ => false

def isStringLike : AtomicKind → Bool
  | string | anyURI | untypedAtomic => true
  | _ => false

/-- A value of the type may stand wherever one of the other type is expected. -/
def derivesFrom (k base : AtomicKind) : Bool :=
  k == base ||
    match k, base with
    | integer a, integer b => a.derivesFrom b
    | integer _, decimal => true
    | yearMonthDuration, duration => true
    | dayTimeDuration, duration => true
    | _, _ => false

@[simp] theorem mem_all (k : AtomicKind) : k ∈ all := by
  cases k with
  | integer k => simp [all]
  | _ => simp [all]

theorem derivesFrom_refl (k : AtomicKind) : k.derivesFrom k = true := by
  simp [derivesFrom]

end AtomicKind

end XPathValues
