import XPathValues.Kind.Atomic

/-!
# Function signatures

A parameter is declared by an item type and an occurrence indicator, which says how many items the
argument may have. A signature is a name with its parameters; their number is the arity.
-/

namespace XPathValues

inductive Occurrence where
  | exactlyOne
  | zeroOrOne
  | zeroOrMore
  | oneOrMore
deriving DecidableEq, Repr

namespace Occurrence

def admits : Occurrence → Nat → Bool
  | exactlyOne, count => count == 1
  | zeroOrOne, count => decide (count ≤ 1)
  | zeroOrMore, _ => true
  | oneOrMore, count => decide (1 ≤ count)

def indicator : Occurrence → String
  | exactlyOne => ""
  | zeroOrOne => "?"
  | zeroOrMore => "*"
  | oneOrMore => "+"

def all : List Occurrence := [exactlyOne, zeroOrOne, zeroOrMore, oneOrMore]

def ofIndicator? (text : String) : Option Occurrence :=
  all.find? fun occurrence => occurrence.indicator == text

end Occurrence

/-- The item type of a parameter: any item, any atomic value, any of the numeric types, or one
atomic type. -/
inductive ItemType where
  | anyItem
  | anyAtomic
  | numeric
  | atomic (kind : AtomicKind)
deriving DecidableEq, Repr

namespace ItemType

def text : ItemType → String
  | anyItem => "item()"
  | anyAtomic => "xs:anyAtomicType"
  | numeric => "numeric"
  | atomic kind => kind.qualifiedName

end ItemType

structure ParameterType where
  item : ItemType
  occurrence : Occurrence
deriving DecidableEq, Repr

namespace ParameterType

def text (parameter : ParameterType) : String :=
  parameter.item.text ++ parameter.occurrence.indicator

def optional (kind : AtomicKind) : ParameterType := ⟨.atomic kind, .zeroOrOne⟩

def single (kind : AtomicKind) : ParameterType := ⟨.atomic kind, .exactlyOne⟩

end ParameterType

structure Signature where
  name : ExpandedName
  parameters : List ParameterType
deriving DecidableEq, Repr

namespace Signature

def arity (signature : Signature) : Nat :=
  signature.parameters.length

def text (signature : Signature) : String :=
  signature.name.displayText ++ "(" ++
    ", ".intercalate (signature.parameters.map ParameterType.text) ++ ")"

end Signature

end XPathValues
