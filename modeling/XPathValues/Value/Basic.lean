import XPathValues.Calendar.Zoned
import XPathValues.Duration.Text
import XPathValues.Integer
import XPathValues.Number.Binary.Text
import XPathValues.QName

/-!
# Atomic values

An atomic value carries its type. `kind` is that type and `text` the canonical lexical form.
-/

namespace XPathValues

inductive AtomicValue where
  | untypedAtomic (text : String)
  | string (text : String)
  | anyURI (text : String)
  | boolean (truth : Bool)
  | qname (name : QName)
  | decimal (d : Decimal)
  | integer (i : Integer)
  | float (x : Single)
  | double (x : Double)
  | duration (d : Duration)
  | yearMonthDuration (d : YearMonthDuration)
  | dayTimeDuration (d : DayTimeDuration)
  | dateTime (x : DateTime)
  | date (x : Date)
  | time (x : Time)
  | gYearMonth (x : GYearMonth)
  | gYear (x : GYear)
  | gMonthDay (x : GMonthDay)
  | gDay (x : GDay)
  | gMonth (x : GMonth)
deriving DecidableEq

namespace AtomicValue

def kind : AtomicValue → AtomicKind
  | untypedAtomic _ => .untypedAtomic
  | string _ => .string
  | anyURI _ => .anyURI
  | boolean _ => .boolean
  | qname _ => .qname
  | decimal _ => .decimal
  | integer i => .integer i.kind
  | float _ => .float
  | double _ => .double
  | duration _ => .duration
  | yearMonthDuration _ => .yearMonthDuration
  | dayTimeDuration _ => .dayTimeDuration
  | dateTime _ => .dateTime
  | date _ => .date
  | time _ => .time
  | gYearMonth _ => .gYearMonth
  | gYear _ => .gYear
  | gMonthDay _ => .gMonthDay
  | gDay _ => .gDay
  | gMonth _ => .gMonth

def text : AtomicValue → String
  | untypedAtomic s | string s | anyURI s => s
  | boolean b => if b then "true" else "false"
  | qname name => name.toText
  | decimal d => d.toText
  | integer i => i.toText
  | float x => x.toText
  | double x => x.toText
  | duration d => d.toText
  | yearMonthDuration d => d.toText
  | dayTimeDuration d => d.toText
  | dateTime x => x.toText
  | date x => x.toText
  | time x => x.toText
  | gYearMonth x => x.toText
  | gYear x => x.toText
  | gMonthDay x => x.toText
  | gDay x => x.toText
  | gMonth x => x.toText

def asInteger? : AtomicValue → Option Int
  | integer i => some i.value
  | _ => none

/-- Any duration as one of the general type. -/
def asDuration? : AtomicValue → Option Duration
  | duration d => some d
  | yearMonthDuration d => some (.ofYearMonth d)
  | dayTimeDuration d => some (.ofDayTime d)
  | _ => none

def asText? : AtomicValue → Option String
  | untypedAtomic s | string s | anyURI s => some s
  | _ => none

def isUntyped : AtomicValue → Bool
  | untypedAtomic _ => true
  | _ => false

/-- One type and one value. The scale of a decimal is not part of its value, and binary floating
point values are the same when they are equal as numbers. The qualifier of a name counts, and so
does the zone of a calendar value. -/
def sameAs : AtomicValue → AtomicValue → Bool
  | decimal a, decimal b => a.equalValue b
  | float a, float b => a.equalValue b
  | double a, double b => a.equalValue b
  | duration a, duration b => a.equalValue b
  | dayTimeDuration a, dayTimeDuration b => a.seconds.equalValue b.seconds
  | a, b => decide (a = b)

end AtomicValue

end XPathValues
