import XPathValues.Text.Quoted
import XPathValues.Value.Number

/-!
# Items and sequences

An item is an atomic value or a node. Of a node only its text and the values it is replaced by are
known here; a node without typed values is replaced by its untyped text.
-/

namespace XPathValues

structure Node where
  text : String
  typed : Option (List AtomicValue)
deriving DecidableEq

namespace Node

def ofText (text : String) : Node := ⟨text, none⟩

def ofValue (value : AtomicValue) : Node := ⟨value.text, some [value]⟩

/-- The values that stand for the node. -/
def values (node : Node) : List AtomicValue :=
  node.typed.getD [.untypedAtomic node.text]

end Node

inductive Item where
  | node (n : Node)
  | atomic (v : AtomicValue)
deriving DecidableEq

abbrev Sequence := List Item

namespace Item

def values : Item → List AtomicValue
  | node n => n.values
  | atomic v => [v]

def text : Item → String
  | node n => n.text
  | atomic v => v.text

/-- The text that shows an item. A node that has typed values is not shown. -/
def displayText? : Item → Option String
  | atomic v => some v.text
  | node ⟨text, none⟩ => some ("SimpleNode \x7b text: " ++ Text.quote text ++ ", typed: None \x7d")
  | node ⟨_, some _⟩ => none

end Item

namespace Sequence

/-- Replace every node by its values. -/
def atomize (items : Sequence) : List AtomicValue :=
  items.flatMap Item.values

def ofValues (values : List AtomicValue) : Sequence :=
  values.map .atomic

def single (value : AtomicValue) : Sequence := [.atomic value]

/-- The value of the first item, if that is not a node. -/
def firstValue? (items : Sequence) : Option AtomicValue :=
  match items with
  | .atomic v :: _ => some v
  | _ => none

def truthOfValue (v : AtomicValue) : Except Error Bool :=
  match v with
  | .boolean b => .ok b
  | .string s | .untypedAtomic s | .anyURI s => .ok (!s.isEmpty)
  | v =>
    match v.asNumeric? with
    | some x => .ok x.isTrue
    | none => .error (.truthUndefined v.kind)

/-- The effective boolean value: false when empty, true when a node comes first. -/
def truth : Sequence → Except Error Bool
  | [] => .ok false
  | .node _ :: _ => .ok true
  | [.atomic v] => truthOfValue v
  | .atomic _ :: _ :: _ => .error .truthOfMany

@[simp] theorem atomize_ofValues (values : List AtomicValue) :
    atomize (ofValues values) = values := by
  induction values with
  | nil => rfl
  | cons v rest ih =>
    have h : atomize (ofValues (v :: rest)) = v :: atomize (ofValues rest) := rfl
    rw [h, ih]

end Sequence

end XPathValues
