/-!
# Expanded names and well-known namespaces

A name is a local part in a namespace or in none. Four namespaces have a qualifier that is bound
everywhere unless a binding of its own hides it.
-/

namespace XPathValues

namespace Namespace

def schema : String := "http://www.w3.org/2001/XMLSchema"

def functions : String := "http://www.w3.org/2005/xpath-functions"

def errors : String := "http://www.w3.org/2005/xqt-errors"

def xml : String := "http://www.w3.org/XML/1998/namespace"

/-- The qualifiers that are bound everywhere. -/
def reserved : List (String × String) :=
  [("xml", xml), ("xs", schema), ("fn", functions), ("err", errors)]

def reserved? (qualifier : String) : Option String :=
  reserved.lookup qualifier

end Namespace

structure ExpandedName where
  uri : Option String
  localPart : String
deriving DecidableEq, Repr

namespace ExpandedName

def inSchema (localPart : String) : ExpandedName := ⟨some Namespace.schema, localPart⟩

def inFunctions (localPart : String) : ExpandedName := ⟨some Namespace.functions, localPart⟩

/-- The namespace in braces after the letter `Q`, then the local part. -/
def text (name : ExpandedName) : String :=
  match name.uri with
  | some uri => "Q\x7b" ++ uri ++ "\x7d" ++ name.localPart
  | none => name.localPart

/-- The standard qualifier for the two namespaces of types and functions, else the full text. -/
def displayText (name : ExpandedName) : String :=
  if name.uri = some Namespace.functions then "fn:" ++ name.localPart
  else if name.uri = some Namespace.schema then "xs:" ++ name.localPart
  else name.text

end ExpandedName

end XPathValues
