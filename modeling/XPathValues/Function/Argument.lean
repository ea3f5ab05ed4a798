import XPathValues.Cast
import XPathValues.Context
import XPathValues.Item

/-!
# Conversion of arguments

An argument is replaced by its values and their number is checked; then every value that is not yet
of the declared type is cast to it. Untyped values and numbers that promote are cast like anywhere
else; a failing cast of any other value is reported as a mismatch of the argument, with the failure
as its reason. Arguments declared as items pass as they are.
-/

namespace XPathValues

namespace AtomicKind

/-- The types whose values stand for the target type without a mismatch. -/
def promotesTo : AtomicKind → AtomicKind → Bool
  | float, double | decimal, double | integer _, double => true
  | decimal, float | integer _, float => true
  | anyURI, string => true
  | _, _ => false

end AtomicKind

namespace ItemType

/-- The type that a value has to be cast to, or nothing if it already is an instance. -/
def castTarget? (item : ItemType) (kind : AtomicKind) : Option AtomicKind :=
  match item with
  | anyItem | anyAtomic => none
  | numeric => if kind.isNumeric then none else some .double
  | atomic target => if kind.derivesFrom target then none else some target

end ItemType

namespace Signature

def convertValue (signature : Signature) (position : Nat) (parameter : ParameterType)
    (bindings : Bindings) (v : AtomicValue) : Except Error AtomicValue :=
  match parameter.item.castTarget? v.kind with
  | none => .ok v
  | some target =>
    if v.isUntyped || v.kind.promotesTo target then v.cast target bindings
    else
      match v.cast target bindings with
      | .ok w => .ok w
      | .error reason =>
        .error (.wrongArgument position signature.name parameter v.kind reason)

/-- The number of items that the argument has must be allowed. -/
def checkCount (signature : Signature) (position : Nat) (parameter : ParameterType) (count : Nat) :
    Except Error Unit :=
  if parameter.occurrence.admits count then .ok ()
  else .error (.wrongCount position signature.name parameter count)

def convertArgument (signature : Signature) (position : Nat) (parameter : ParameterType)
    (bindings : Bindings) (argument : Sequence) : Except Error Sequence :=
  if parameter.item = .anyItem then do
    signature.checkCount position parameter argument.length
    return argument
  else do
    let values := argument.atomize
    signature.checkCount position parameter values.length
    let converted ← values.mapM (signature.convertValue position parameter bindings)
    return .ofValues converted

def convertFrom (signature : Signature) (bindings : Bindings) :
    Nat → List ParameterType → List Sequence → Except Error (List Sequence)
  | position, parameter :: parameters, argument :: arguments => do
    let converted ← signature.convertArgument position parameter bindings argument
    let rest ← signature.convertFrom bindings (position + 1) parameters arguments
    return converted :: rest
  | _, _, _ => .ok []

def convertArguments (signature : Signature) (arguments : List Sequence) (context : Context) :
    Except Error (List Sequence) :=
  signature.convertFrom context.namespaces 0 signature.parameters arguments

end Signature

end XPathValues
