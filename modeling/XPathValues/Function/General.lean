import XPathValues.Comparison
import XPathValues.Function.Body

/-!
# Constructors and general functions

Every atomic type has a constructor, which casts its argument with the namespaces of the context.
The general functions give the text, the values or the truth of their argument, compare texts, or
make a qualified name.
-/

namespace XPathValues.FunctionBody

def construct (target : AtomicKind) : FunctionBody :=
  fun context arguments =>
    match (argument arguments 0).firstValue? with
    | some v => (v.cast target context.namespaces).map Sequence.single
    | none => .ok []

def text : FunctionBody :=
  fun _ arguments => .ok (.ofText (((argument arguments 0).head?.map Item.text).getD ""))

def values : FunctionBody :=
  fun _ arguments => .ok (.ofValues (argument arguments 0).atomize)

def truth : FunctionBody :=
  fun _ arguments => (argument arguments 0).truth.map fun b => .single (.boolean b)

/-- An order as a number below, at or above zero. -/
def orderNumber : Ordering → Sequence
  | .lt => .ofInteger (-1) (by decide)
  | .eq => .ofInteger 0 (by decide)
  | .gt => .ofInteger 1 (by decide)

def orderOfTexts : FunctionBody :=
  fun _ arguments =>
    match (argument arguments 0).firstValue?, (argument arguments 1).firstValue? with
    | some a, some b => .ok (orderNumber (compareTexts a.text b.text))
    | _, _ => .ok []

def textOrEmpty (items : Sequence) : String :=
  (items.firstValue?.map AtomicValue.text).getD ""

/-- A qualified name in the namespace of the first argument, where the empty text is none. -/
def makeQName : FunctionBody :=
  fun _ arguments =>
    let uriText := textOrEmpty (argument arguments 0)
    let uri := if uriText.isEmpty then none else some uriText
    let given := textOrEmpty (argument arguments 1)
    match Text.splitQName? given with
    | none => .error (.malformedQName given)
    | some (qualifier, part) =>
      if qualifier.isSome && uri.isNone then .error (.qualifierWithoutNamespace given)
      else .ok (.single (.qname ⟨uri, qualifier, part⟩))

end XPathValues.FunctionBody
