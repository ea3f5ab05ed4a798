import Mathlib.Tactic
import XPathValues.Proofs.Outcome

/-!
# Where a failure lies

Some failures lie in a value: a text that does not read, a number outside a range, two zones that
disagree. The others are decided by the types of the operands or by the name and the arguments of a
call, whatever the values are. Reading a text and converting a number fail in the first way only.
-/

namespace XPathValues

namespace ErrorCategory

def isOfValue : ErrorCategory → Bool
  | lexical | facet | timezoneConflict | arithmetic | dynamic => true
  | illegalCast | cardinality | arity | type => false

end ErrorCategory

/-- The failure lies in a value. -/
def Error.IsOfValue (e : Error) : Prop := e.category.isOfValue = true

variable {e : Error}

theorem Error.IsOfValue.category_ne {category : ErrorCategory} (h : e.IsOfValue)
    (hcategory : category.isOfValue = false) : e.category ≠ category := by
  rintro rfl
  exact Bool.false_ne_true (hcategory.symm.trans h)

theorem Error.IsOfValue.code_ne (h : e.IsOfValue) : e.code ≠ .XPTY0004 := by
  induction e with
  | raised code message =>
    intro hcode
    obtain rfl : code = .XPTY0004 := hcode
    cases h
  | because error reason ih _ => exact ih h
  | _ => first | exact ErrorCode.noConfusion | cases h

/-- The operation is not defined for its operands. -/
def RaisesTypeError {α : Type} (outcome : Except Error α) : Prop :=
  ∃ e, outcome = .error e ∧ e.code = .XPTY0004

/-- There is no result but a failure with the code and of the category. -/
def FailsWith {α : Type} (outcome : Except Error α) (code : ErrorCode) (category : ErrorCategory) :
    Prop :=
  ∃ e, outcome = .error e ∧ e.code = code ∧ e.category = category

theorem isOfValue_of_orError {α : Type} {o : Option α} {given : Error} (hgiven : given.IsOfValue)
    (h : orError given o = .error e) : e.IsOfValue :=
  eq_of_orError_eq_error h ▸ hgiven

theorem isOfValue_of_map {α β : Type} {f : α → β} {x : Except Error α}
    (hx : ∀ e, x = .error e → e.IsOfValue) (h : x.map f = .error e) : e.IsOfValue :=
  hx e (eq_error_of_map h)

/-! ## Reading -/

theorem QName.isOfValue_of_read {text : String} {bindings : Bindings}
    (h : read text bindings = .error e) : e.IsOfValue := by
  unfold read at h
  split at h
  · cases h
    rfl
  · cases h
  · split at h
    · cases h
    · cases h
      rfl

namespace Integer

variable {kind : IntegerKind}

theorem isOfValue_of_read {text : String} (h : read kind text = .error e) : e.IsOfValue := by
  unfold read at h
  dsimp only at h
  split at h
  · cases h
    rfl
  · split at h
    · cases h
      rfl
    · split at h
      · cases h
        rfl
      · cases h

theorem isOfValue_of_ofStored {i : Integer} (h : ofStored kind i = .error e) : e.IsOfValue := by
  unfold ofStored at h
  split at h
  · cases h
  · cases h
    rfl

end Integer

namespace AtomicValue

variable {kind : AtomicKind} {given : String} {bindings : Bindings}

theorem isOfValue_of_orInvalid {α : Type} {value : Option α} {make : α → AtomicValue}
    (h : orInvalid kind given value make = .error e) : e.IsOfValue := by
  cases value with
  | some x => cases h
  | none =>
    cases h
    rfl

theorem isOfValue_of_readDecimal {collapsed : String}
    (h : readDecimal given collapsed = .error e) : e.IsOfValue := by
  unfold readDecimal at h
  split at h
  · cases h
  · cases h
    rfl
  · cases h
    rfl

theorem isOfValue_of_read (h : read kind given bindings = .error e) : e.IsOfValue := by
  unfold read at h
  cases kind with
  | untypedAtomic | string | anyURI => cases h
  | qname => exact isOfValue_of_map (fun _ => QName.isOfValue_of_read) h
  | decimal => exact isOfValue_of_readDecimal h
  | integer k => exact isOfValue_of_map (fun _ => Integer.isOfValue_of_read) h
  | boolean | float | double | duration | yearMonthDuration | dayTimeDuration | dateTime | date
  | time | gYearMonth | gYear | gMonthDay | gDay | gMonth => exact isOfValue_of_orInvalid h

end AtomicValue

/-! ## Numbers -/

namespace Numeric

theorem isOfValue_of_toDecimal {x : Numeric} (h : x.toDecimal = .error e) : e.IsOfValue := by
  cases x with
  | decimal d => cases h
  | integer n =>
    simp only [toDecimal] at h
    split at h
    · cases h
    · cases h
      rfl
  | float x | double x =>
    simp only [toDecimal] at h
    split at h
    · cases h
      rfl
    · split at h
      · cases h
      · cases h
        rfl

theorem isOfValue_of_integerPart {x : Double} {target : AtomicKind}
    (h : integerPart x target = .error e) : e.IsOfValue := by
  unfold integerPart at h
  split at h
  · cases h
    rfl
  · split at h
    · cases h
    · cases h
      rfl

theorem isOfValue_of_toInteger {x : Numeric} {target : AtomicKind}
    (h : x.toInteger target = .error e) : e.IsOfValue := by
  cases x with
  | decimal d => cases h
  | integer n =>
    simp only [toInteger] at h
    split at h
    · cases h
    · cases h
      rfl
  | float x => exact isOfValue_of_integerPart h
  | double x => exact isOfValue_of_integerPart h

end Numeric

end XPathValues
