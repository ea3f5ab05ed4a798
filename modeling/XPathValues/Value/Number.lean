import XPathValues.Number.Promotion
import XPathValues.Value.Basic

/-!
# Atomic values as numbers

The number in a value of one of the numeric types, and the plain value of a number.
-/

namespace XPathValues.AtomicValue

def asNumeric? : AtomicValue → Option Numeric
  | integer i => some (.integer i.value)
  | decimal d => some (.decimal d)
  | float x => some (.float x)
  | double x => some (.double x)
  | _ => none

theorem isSome_asNumeric? (v : AtomicValue) : v.asNumeric?.isSome = v.kind.isNumeric := by
  cases v <;> rfl

/-- The value of the plain type `integer`, if the number can be stored. -/
def plainInteger? (n : Int) : Option AtomicValue :=
  (Integer.plain? n).map integer

theorem kind_plainInteger? {n : Int} {v : AtomicValue} (h : plainInteger? n = some v) :
    v.kind = .integer .integer := by
  obtain ⟨i, hi, rfl⟩ := Option.map_eq_some_iff.mp h
  exact congrArg AtomicKind.integer (Integer.plain?_eq_some_iff.mp hi).1

end XPathValues.AtomicValue
