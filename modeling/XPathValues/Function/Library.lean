import XPathValues.Function.Argument

/-!
# Function libraries

A library keeps the functions of each name together, and a function is found there by its arity. To
call a function is to find it, to convert the arguments to its declared types, and to run its body.
A name without a namespace is looked up in the namespace that the context has for such names.
-/

namespace XPathValues

/-- What a function does with its converted arguments. -/
abbrev FunctionBody := Context → List Sequence → Except Error Sequence

structure Function where
  signature : Signature
  body : FunctionBody

namespace Function

/-- What a library finds a function by. -/
def key (function : Function) : ExpandedName × Nat :=
  (function.signature.name, function.signature.arity)

def call (function : Function) (arguments : List Sequence) (context : Context) :
    Except Error Sequence := do
  let converted ← function.signature.convertArguments arguments context
  function.body context converted

end Function

/-- The functions of each name; no name is there twice. -/
structure Library where
  entries : List (ExpandedName × List Function)
  distinct : (entries.map Prod.fst).Nodup

namespace Library

def empty : Library := ⟨[], .nil⟩

def get? (library : Library) (name : ExpandedName) : Option (List Function) :=
  (library.entries.find? fun entry => entry.1 == name).map Prod.snd

/-- The library with these functions for a name. -/
def set (library : Library) (name : ExpandedName) (functions : List Function) : Library :=
  ⟨(name, functions) :: library.entries.filter fun entry => entry.1 != name, by
    rw [List.map_cons, List.nodup_cons]
    exact ⟨by simp, library.distinct.sublist (List.filter_sublist.map _)⟩⟩

/-- The functions of other arities. -/
def without (functions : List Function) (arity : Nat) : List Function :=
  functions.filter fun function => function.signature.arity != arity

/-- Add a function behind those of its name, without the one of the same arity. -/
def register (library : Library) (function : Function) : Library :=
  let present := (library.get? function.signature.name).getD []
  library.set function.signature.name (without present function.signature.arity ++ [function])

def ofList (functions : List Function) : Library :=
  functions.foldl register empty

def functions (library : Library) : List Function :=
  library.entries.flatMap Prod.snd

def size (library : Library) : Nat :=
  library.entries.foldr (fun entry count => entry.2.length + count) 0

/-- There is no name. -/
def isEmpty (library : Library) : Bool :=
  library.entries.isEmpty

def find? (library : Library) (name : ExpandedName) (arity : Nat) : Option Function :=
  (library.get? name).bind fun functions =>
    functions.find? fun function => function.signature.arity == arity

def signature? (library : Library) (name : ExpandedName) (arity : Nat) : Option Signature := do
  let functions ← library.get? name
  (functions.find? fun function => function.signature.arity == arity).map Function.signature

def arities (library : Library) (name : ExpandedName) : List Nat :=
  let arities := (library.get? name).map fun functions =>
    functions.map fun function => function.signature.arity
  (arities.getD []).mergeSort fun a b => decide (a ≤ b)

def signatureTexts (library : Library) : List String :=
  (library.functions.map fun function => function.signature.text).mergeSort
    fun a b => decide (a ≤ b)

/-- The name that a call refers to. -/
def resolveName (name : ExpandedName) (context : Context) : ExpandedName :=
  match name.uri, context.functionNamespace with
  | none, some uri => ⟨some uri, name.localPart⟩
  | _, _ => name

/-- Call the function of a name and of the arity that the arguments have. -/
def evaluate (library : Library) (name : ExpandedName) (arguments : List Sequence)
    (context : Context) : Except Error Sequence :=
  let name := resolveName name context
  match library.find? name arguments.length with
  | some function => function.call arguments context
  | none => .error (.unknownFunction name arguments.length)

theorem find?_filter_bne {α κ : Type} [BEq κ] [LawfulBEq κ] (key : α → κ) (l : List α) (a b : κ) :
    (l.filter fun x => key x != a).find? (fun x => key x == b) =
      if a == b then none else l.find? fun x => key x == b := by
  rw [List.find?_filter]
  cases h : a == b with
  | true =>
    obtain rfl := eq_of_beq h
    simp
  | false =>
    have hpredicate : ∀ x, (key x != a && key x == b) = (key x == b) := by
      intro x
      cases hx : key x == b with
      | true => simp [eq_of_beq hx, bne, BEq.comm, h]
      | false => simp
    simp [hpredicate]

theorem get?_set (library : Library) (name other : ExpandedName) (functions : List Function) :
    (library.set name functions).get? other =
      if name == other then some functions else library.get? other := by
  unfold get? set
  rw [List.find?_cons, find?_filter_bne Prod.fst]
  cases name == other <;> rfl

theorem mem_entries_of_get? {library : Library} {name : ExpandedName} {functions : List Function}
    (h : library.get? name = some functions) : (name, functions) ∈ library.entries := by
  obtain ⟨entry, hentry, rfl⟩ := Option.map_eq_some_iff.mp h
  have hname := eq_of_beq
    (List.find?_some (p := fun entry : ExpandedName × List Function => entry.1 == name) hentry)
  rw [← hname]
  exact List.mem_of_find?_eq_some hentry

theorem mem_functions_of_find? {library : Library} {name : ExpandedName} {arity : Nat}
    {function : Function} (h : library.find? name arity = some function) :
    function ∈ library.functions := by
  obtain ⟨functions, hfunctions, hfind⟩ := Option.bind_eq_some_iff.mp h
  exact List.mem_flatMap.mpr ⟨_, mem_entries_of_get? hfunctions, List.mem_of_find?_eq_some hfind⟩

theorem arity_of_find? {library : Library} {name : ExpandedName} {arity : Nat}
    {function : Function} (h : library.find? name arity = some function) :
    function.signature.arity = arity := by
  obtain ⟨functions, _, hfind⟩ := Option.bind_eq_some_iff.mp h
  exact eq_of_beq
    (List.find?_some (p := fun other : Function => other.signature.arity == arity) hfind)

/-- A function that is added is found under its own key, and nothing changes for other keys. -/
theorem find?_register (library : Library) (function : Function) (name : ExpandedName)
    (arity : Nat) :
    (library.register function).find? name arity =
      if function.key = (name, arity) then some function else library.find? name arity := by
  unfold find? register without
  dsimp only
  rw [get?_set]
  by_cases hname : function.signature.name = name
  · subst hname
    rw [beq_self_eq_true, if_pos rfl, Option.bind_some, List.find?_append,
      find?_filter_bne fun other : Function => other.signature.arity]
    by_cases harity : function.signature.arity = arity
    · simp [Function.key, harity]
    · cases library.get? function.signature.name <;> simp [Function.key, harity]
  · simp [Function.key, hname]

end Library

end XPathValues
