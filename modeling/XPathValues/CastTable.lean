import XPathValues.Kind.Atomic

/-!
# The table of casts

Whether a cast is allowed depends on the two types alone, and so does the way it is carried out.
The table has a row for every source and a column for every target. All integer types share one row
and one column; the types are listed in the order of the rows and columns.
-/

namespace XPathValues

/-- How a cast is carried out. -/
inductive CastRule where
  /-- The cast is not allowed. -/
  | forbidden
  /-- The value stays; only the range of an integer type is checked. -/
  | identity
  /-- The canonical text of the value. -/
  | toText
  /-- The value that the text denotes. -/
  | parse
  /-- The same number, or its truth. -/
  | numeric
  /-- The months or the seconds of a duration, or both. -/
  | duration
  /-- Some of the fields of a date, or a date with its first moment. -/
  | project
deriving DecidableEq, Repr

/-- The types as casts tell them apart. -/
inductive PrimitiveKind where
  | untypedAtomic
  | string
  | float
  | double
  | decimal
  | integer
  | duration
  | yearMonthDuration
  | dayTimeDuration
  | dateTime
  | time
  | date
  | gYearMonth
  | gYear
  | gMonthDay
  | gDay
  | gMonth
  | boolean
  | anyURI
  | qname
deriving DecidableEq, Repr

namespace PrimitiveKind

def index (k : PrimitiveKind) : Fin 20 :=
  ⟨k.ctorIdx, by cases k <;> decide⟩

end PrimitiveKind

namespace AtomicKind

def primitive : AtomicKind → PrimitiveKind
  | untypedAtomic => .untypedAtomic
  | string => .string
  | float => .float
  | double => .double
  | decimal => .decimal
  | integer _ => .integer
  | duration => .duration
  | yearMonthDuration => .yearMonthDuration
  | dayTimeDuration => .dayTimeDuration
  | dateTime => .dateTime
  | time => .time
  | date => .date
  | gYearMonth => .gYearMonth
  | gYear => .gYear
  | gMonthDay => .gMonthDay
  | gDay => .gDay
  | gMonth => .gMonth
  | boolean => .boolean
  | anyURI => .anyURI
  | qname => .qname

def isInteger : AtomicKind → Bool
  | integer _ => true
  | _ => false

/-- The types that numbers convert among. -/
def isNumericOrBoolean (k : AtomicKind) : Bool :=
  k.isNumeric || k == boolean

/-- The five fragments of the calendar. -/
def isFragment : AtomicKind → Bool
  | gYearMonth | gYear | gMonthDay | gDay | gMonth => true
  | _ => false

/-- The type gives some of the fields of the other one, or fills in the time of a date. -/
def projectsTo : AtomicKind → AtomicKind → Bool
  | dateTime, date | dateTime, time | date, dateTime => true
  | dateTime, target | date, target => target.isFragment
  | _, _ => false

end AtomicKind

/-- Rows are sources, columns are targets. -/
def castTable : Vector (Vector CastRule 20) 20 :=
  let X := CastRule.forbidden
  let I := CastRule.identity
  let S := CastRule.toText
  let P := CastRule.parse
  let U := CastRule.numeric
  let D := CastRule.duration
  let T := CastRule.project
  -- uA str flt dbl dec int dur yMD dTD dT tim dat gYM gY gMD gD gM bool URI QN
  #v[#v[I, S, P, P, P, P, P, P, P, P, P, P, P, P, P, P, P, P, P, X],
     #v[S, I, P, P, P, P, P, P, P, P, P, P, P, P, P, P, P, P, P, P],
     #v[S, S, I, U, U, U, X, X, X, X, X, X, X, X, X, X, X, U, X, X],
     #v[S, S, U, I, U, U, X, X, X, X, X, X, X, X, X, X, X, U, X, X],
     #v[S, S, U, U, I, U, X, X, X, X, X, X, X, X, X, X, X, U, X, X],
     #v[S, S, U, U, U, I, X, X, X, X, X, X, X, X, X, X, X, U, X, X],
     #v[S, S, X, X, X, X, I, D, D, X, X, X, X, X, X, X, X, X, X, X],
     #v[S, S, X, X, X, X, D, I, D, X, X, X, X, X, X, X, X, X, X, X],
     #v[S, S, X, X, X, X, D, D, I, X, X, X, X, X, X, X, X, X, X, X],
     #v[S, S, X, X, X, X, X, X, X, I, T, T, T, T, T, T, T, X, X, X],
     #v[S, S, X, X, X, X, X, X, X, X, I, X, X, X, X, X, X, X, X, X],
     #v[S, S, X, X, X, X, X, X, X, T, X, I, T, T, T, T, T, X, X, X],
     #v[S, S, X, X, X, X, X, X, X, X, X, X, I, X, X, X, X, X, X, X],
     #v[S, S, X, X, X, X, X, X, X, X, X, X, X, I, X, X, X, X, X, X],
     #v[S, S, X, X, X, X, X, X, X, X, X, X, X, X, I, X, X, X, X, X],
     #v[S, S, X, X, X, X, X, X, X, X, X, X, X, X, X, I, X, X, X, X],
     #v[S, S, X, X, X, X, X, X, X, X, X, X, X, X, X, X, I, X, X, X],
     #v[S, S, U, U, U, U, X, X, X, X, X, X, X, X, X, X, X, I, X, X],
     #v[S, S, X, X, X, X, X, X, X, X, X, X, X, X, X, X, X, X, I, X],
     #v[S, S, X, X, X, X, X, X, X, X, X, X, X, X, X, X, X, X, X, I]]

def castRule (source target : AtomicKind) : CastRule :=
  castTable[source.primitive.index][target.primitive.index]

def isCastable (source target : AtomicKind) : Bool :=
  castRule source target != .forbidden

/-- What the table says, in words. -/
theorem castRule_eq (source target : AtomicKind) :
    castRule source target =
      if source = target ∨ (source.isInteger ∧ target.isInteger) then .identity
      else if target = .string ∨ target = .untypedAtomic then .toText
      else if source = .string ∨ (source = .untypedAtomic ∧ target ≠ .qname) then .parse
      else if source.isNumericOrBoolean ∧ target.isNumericOrBoolean then .numeric
      else if source.isDuration ∧ target.isDuration then .duration
      else if source.projectsTo target then .project
      else .forbidden := by
  cases source <;> cases target <;>
    first
      | rfl
      | exact (if_pos (Or.inr ⟨rfl, rfl⟩)).symm

end XPathValues
