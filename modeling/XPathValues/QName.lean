import XPathValues.Bindings
import XPathValues.Error
import XPathValues.Text.Name

/-!
# Qualified names as values

A qualified name keeps the qualifier that it was written with, which plays no part in comparing it.
-/

namespace XPathValues

structure QName where
  uri : Option String
  qualifier : Option String
  localPart : String
deriving DecidableEq, Repr

namespace QName

def toText (name : QName) : String :=
  match name.qualifier with
  | some qualifier => qualifier ++ ":" ++ name.localPart
  | none => name.localPart

def expandedName (name : QName) : ExpandedName := ⟨name.uri, name.localPart⟩

/-- A qualifier stands for the namespace that it is bound to; a name without one is in no
namespace. -/
def read (text : String) (bindings : Bindings) : Except Error QName :=
  match Text.splitQName? text with
  | none => .error (.invalidLexical .qname text)
  | some (none, part) => .ok ⟨none, none, part⟩
  | some (some qualifier, part) =>
    match bindings.resolve? qualifier with
    | some uri => .ok ⟨some uri, some qualifier, part⟩
    | none => .error (.unboundQualifier qualifier)

end QName

end XPathValues
