/-!
# The integer types

Thirteen types, each the restriction of its parent to a range, with `integer` at the top. A range
may be open on either side.
-/

namespace XPathValues

inductive IntegerKind where
  | integer
  | nonPositiveInteger
  | negativeInteger
  | long
  | int
  | short
  | byte
  | nonNegativeInteger
  | unsignedLong
  | unsignedInt
  | unsignedShort
  | unsignedByte
  | positiveInteger
deriving DecidableEq, Repr

namespace IntegerKind

/-- Every integer type, each branch of the hierarchy from the top down. -/
def all : List IntegerKind :=
  [integer, nonPositiveInteger, negativeInteger, long, int, short, byte, nonNegativeInteger,
   unsignedLong, unsignedInt, unsignedShort, unsignedByte, positiveInteger]

def localName : IntegerKind → String
  | integer => "integer"
  | nonPositiveInteger => "nonPositiveInteger"
  | negativeInteger => "negativeInteger"
  | long => "long"
  | int => "int"
  | short => "short"
  | byte => "byte"
  | nonNegativeInteger => "nonNegativeInteger"
  | unsignedLong => "unsignedLong"
  | unsignedInt => "unsignedInt"
  | unsignedShort => "unsignedShort"
  | unsignedByte => "unsignedByte"
  | positiveInteger => "positiveInteger"

def minimum? : IntegerKind → Option Int
  | integer => none
  | nonPositiveInteger => none
  | negativeInteger => none
  | long => some (-9223372036854775808)
  | int => some (-2147483648)
  | short => some (-32768)
  | byte => some (-128)
  | nonNegativeInteger => some 0
  | unsignedLong => some 0
  | unsignedInt => some 0
  | unsignedShort => some 0
  | unsignedByte => some 0
  | positiveInteger => some 1

def maximum? : IntegerKind → Option Int
  | integer => none
  | nonPositiveInteger => some 0
  | negativeInteger => some (-1)
  | long => some 9223372036854775807
  | int => some 2147483647
  | short => some 32767
  | byte => some 127
  | nonNegativeInteger => none
  | unsignedLong => some 18446744073709551615
  | unsignedInt => some 4294967295
  | unsignedShort => some 65535
  | unsignedByte => some 255
  | positiveInteger => none

def admits (k : IntegerKind) (n : Int) : Bool :=
  k.minimum?.all (· ≤ n) && k.maximum?.all (n ≤ ·)

def parent? : IntegerKind → Option IntegerKind
  | integer => none
  | nonPositiveInteger => some integer
  | negativeInteger => some nonPositiveInteger
  | long => some integer
  | int => some long
  | short => some int
  | byte => some short
  | nonNegativeInteger => some integer
  | unsignedLong => some nonNegativeInteger
  | unsignedInt => some unsignedLong
  | unsignedShort => some unsignedInt
  | unsignedByte => some unsignedShort
  | positiveInteger => some nonNegativeInteger

/-- A type followed by so many of the types above it. -/
def chain (k : IntegerKind) : Nat → List IntegerKind
  | 0 => [k]
  | steps + 1 => k :: ((k.parent?.map fun p => p.chain steps).getD [])

/-- A type and all types above it. The longest chain climbs five steps. -/
def ancestors (k : IntegerKind) : List IntegerKind :=
  k.chain 5

/-- The type is the other one or restricts it, directly or not. -/
def derivesFrom (k base : IntegerKind) : Bool :=
  k.ancestors.contains base

@[simp] theorem mem_all (k : IntegerKind) : k ∈ all := by
  cases k <;> decide

theorem derivesFrom_refl (k : IntegerKind) : k.derivesFrom k = true := by
  cases k <;> decide

theorem derivesFrom_integer (k : IntegerKind) : k.derivesFrom integer = true := by
  cases k <;> decide

end IntegerKind

end XPathValues
