/-!
# Operators

The binary operators of arithmetic and of comparison, with the words that name them in expressions
and in messages.
-/

namespace XPathValues

inductive ArithmeticOperator where
  | add
  | subtract
  | multiply
  | divide
  | integerDivide
  | modulo
deriving DecidableEq, Repr

namespace ArithmeticOperator

def symbol : ArithmeticOperator → String
  | add => "+"
  | subtract => "-"
  | multiply => "*"
  | divide => "div"
  | integerDivide => "idiv"
  | modulo => "mod"

def all : List ArithmeticOperator := [add, subtract, multiply, divide, integerDivide, modulo]

def ofSymbol? (text : String) : Option ArithmeticOperator :=
  all.find? fun op => op.symbol == text

end ArithmeticOperator

inductive ComparisonOperator where
  | eq
  | ne
  | lt
  | le
  | gt
  | ge
deriving DecidableEq, Repr

namespace ComparisonOperator

def symbol : ComparisonOperator → String
  | eq => "eq"
  | ne => "ne"
  | lt => "lt"
  | le => "le"
  | gt => "gt"
  | ge => "ge"

def all : List ComparisonOperator := [eq, ne, lt, le, gt, ge]

def isEquality : ComparisonOperator → Bool
  | eq | ne => true
  | _ => false

/-- The operator that says the same with the operands exchanged. -/
def converse : ComparisonOperator → ComparisonOperator
  | eq => eq
  | ne => ne
  | lt => gt
  | le => ge
  | gt => lt
  | ge => le

/-- Whether an order between two operands satisfies the operator. -/
def holds : ComparisonOperator → Ordering → Bool
  | eq, order => order == .eq
  | ne, order => order != .eq
  | lt, order => order == .lt
  | le, order => order != .gt
  | gt, order => order == .gt
  | ge, order => order != .lt

theorem holds_converse (op : ComparisonOperator) (order : Ordering) :
    op.converse.holds order.swap = op.holds order := by
  cases op <;> cases order <;> rfl

end ComparisonOperator

end XPathValues
