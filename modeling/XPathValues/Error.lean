import XPathValues.Calendar.Timezone
import XPathValues.Function.Signature
import XPathValues.Operator

/-!
# Errors

An error is a cause with the data that its message needs. From the cause follow the standard code,
a category that is finer than the code, and the message. An error of a host function gives its own
code and message, and any error may carry the error that led to it.
-/

namespace XPathValues

inductive ErrorCode where
  | FOAR0001
  | FOAR0002
  | FOCA0001
  | FOCA0002
  | FOCA0003
  | FOCA0005
  | FODT0001
  | FODT0002
  | FODT0003
  | FONS0004
  | FORG0001
  | FORG0006
  | FORG0008
  | XPTY0004
  | XPST0017
  | XPST0051
  | XPST0080
  | unknown
deriving DecidableEq, Repr

inductive ErrorCategory where
  | lexical
  | facet
  | illegalCast
  | timezoneConflict
  | cardinality
  | arity
  | type
  | arithmetic
  | dynamic
deriving DecidableEq, Repr

namespace ErrorCode

/-- The codes that have a name of their own. -/
def standard : List ErrorCode :=
  [FOAR0001, FOAR0002, FOCA0001, FOCA0002, FOCA0003, FOCA0005, FODT0001, FODT0002, FODT0003,
   FONS0004, FORG0001, FORG0006, FORG0008, XPTY0004, XPST0017, XPST0051, XPST0080]

def localName : ErrorCode → String
  | FOAR0001 => "FOAR0001"
  | FOAR0002 => "FOAR0002"
  | FOCA0001 => "FOCA0001"
  | FOCA0002 => "FOCA0002"
  | FOCA0003 => "FOCA0003"
  | FOCA0005 => "FOCA0005"
  | FODT0001 => "FODT0001"
  | FODT0002 => "FODT0002"
  | FODT0003 => "FODT0003"
  | FONS0004 => "FONS0004"
  | FORG0001 => "FORG0001"
  | FORG0006 => "FORG0006"
  | FORG0008 => "FORG0008"
  | XPTY0004 => "XPTY0004"
  | XPST0017 => "XPST0017"
  | XPST0051 => "XPST0051"
  | XPST0080 => "XPST0080"
  | unknown => "UNKNOWN"

/-- The local name behind the qualifier of the error namespace. -/
def text (code : ErrorCode) : String :=
  "err:" ++ code.localName

def expandedName (code : ErrorCode) : ExpandedName :=
  ⟨some Namespace.errors, code.localName⟩

/-- Every text that is not the text of a standard code stands for the unknown code. -/
def ofText (text : String) : ErrorCode :=
  (standard.find? fun code => code.text == text).getD unknown

/-- The category of an error of which only the code is known. -/
def defaultCategory : ErrorCode → ErrorCategory
  | FORG0001 | FOCA0002 => .lexical
  | FORG0008 => .timezoneConflict
  | FOAR0001 | FOAR0002 | FOCA0001 | FOCA0003 | FOCA0005 | FODT0001 | FODT0002 => .arithmetic
  | XPTY0004 => .type
  | XPST0017 => .arity
  | _ => .dynamic

end ErrorCode

inductive Error where
  /-- The text is no lexical form of the type. -/
  | invalidLexical (target : AtomicKind) (text : String)
  /-- The integer is outside the range of the type. -/
  | outOfRange (target : IntegerKind) (value : Int)
  /-- The literal denotes an integer of more than 128 bits. -/
  | integerLiteralTooLarge (text : String)
  /-- The literal denotes a decimal of more than 96 bits. -/
  | decimalLiteralTooLarge (text : String)
  | unboundQualifier (qualifier : String)
  | illegalCast (source target : AtomicKind)
  | abstractType (localPart : String)
  | unknownType (name : ExpandedName)
  | tooLargeForInteger (value : String)
  | tooLargeForDecimal (value : String)
  /-- Neither NaN nor an infinity has a counterpart in the type. -/
  | notFinite (value : String) (target : AtomicKind)
  | dateTimeOutOfRange
  | durationOutOfRange
  | timezoneConflict (date time : Timezone)
  | invalidTimezone (duration : String)
  | undefinedOperator (op : ArithmeticOperator) (left right : AtomicKind)
  | undefinedMinus (operand : AtomicKind)
  | divisionByZero
  | numericOverflow
  /-- An integer quotient needs two numbers and a finite dividend. -/
  | undefinedQuotient
  | factorNotANumber
  | incomparable (op : ComparisonOperator) (left right : AtomicKind)
  | unknownFunction (name : ExpandedName) (arity : Nat)
  /-- The argument at the position, counted from zero, has a wrong number of items. -/
  | wrongCount (position : Nat) (function : ExpandedName) (expected : ParameterType) (count : Nat)
  /-- An item of the argument does not convert to the declared type, for the given reason. -/
  | wrongArgument (position : Nat) (function : ExpandedName) (expected : ParameterType)
      (found : AtomicKind) (reason : Error)
  | unexpectedNode (expected : String)
  | unexpectedKind (expected : String) (found : AtomicKind)
  | unexpectedNonNumeric (found : AtomicKind)
  /-- Two or more atomic values have no truth value. -/
  | truthOfMany
  | truthUndefined (kind : AtomicKind)
  | malformedQName (text : String)
  | qualifierWithoutNamespace (text : String)
  /-- An error that a host function raises. -/
  | raised (code : ErrorCode) (message : String)
  /-- An error together with the one that led to it. -/
  | because (error reason : Error)
deriving DecidableEq

namespace Error

def code : Error → ErrorCode
  | invalidLexical .. => .FORG0001
  | outOfRange .. => .FORG0001
  | integerLiteralTooLarge _ => .FOCA0003
  | decimalLiteralTooLarge _ => .FOCA0001
  | unboundQualifier _ => .FONS0004
  | illegalCast .. => .XPTY0004
  | abstractType _ => .XPST0080
  | unknownType _ => .XPST0051
  | tooLargeForInteger _ => .FOCA0003
  | tooLargeForDecimal _ => .FOCA0001
  | notFinite .. => .FOCA0002
  | dateTimeOutOfRange => .FODT0001
  | durationOutOfRange => .FODT0002
  | timezoneConflict .. => .FORG0008
  | invalidTimezone _ => .FODT0003
  | undefinedOperator .. => .XPTY0004
  | undefinedMinus _ => .XPTY0004
  | divisionByZero => .FOAR0001
  | numericOverflow => .FOAR0002
  | undefinedQuotient => .FOAR0002
  | factorNotANumber => .FOCA0005
  | incomparable .. => .XPTY0004
  | unknownFunction .. => .XPST0017
  | wrongCount .. => .XPTY0004
  | wrongArgument .. => .XPTY0004
  | unexpectedNode _ => .XPTY0004
  | unexpectedKind .. => .XPTY0004
  | unexpectedNonNumeric _ => .XPTY0004
  | truthOfMany => .FORG0006
  | truthUndefined _ => .FORG0006
  | malformedQName _ => .FOCA0002
  | qualifierWithoutNamespace _ => .FOCA0002
  | raised code _ => code
  | because error _ => error.code

/-- Three causes share their code with causes of another category. -/
def category : Error → ErrorCategory
  | outOfRange .. => .facet
  | illegalCast .. => .illegalCast
  | wrongCount .. => .cardinality
  | because error _ => error.category
  | error => error.code.defaultCategory

private def argumentText (position : Nat) (function : ExpandedName) (expected : ParameterType) :
    String :=
  "argument " ++ toString (position + 1) ++ " of " ++ function.displayText ++ ": expected " ++
    expected.text ++ ", got "

def message : Error → String
  | invalidLexical target text =>
    "invalid lexical form for " ++ target.qualifiedName ++ ": '" ++ text ++ "'"
  | outOfRange target value =>
    "value " ++ toString value ++ " out of range for " ++ (AtomicKind.integer target).qualifiedName
  | integerLiteralTooLarge text => "integer value too large: " ++ text
  | decimalLiteralTooLarge text => "decimal value out of range: " ++ text
  | unboundQualifier qualifier => "no namespace bound to prefix '" ++ qualifier ++ "'"
  | illegalCast source target =>
    "cannot cast " ++ source.qualifiedName ++ " to " ++ target.qualifiedName
  | abstractType localPart => "cannot cast to abstract type xs:" ++ localPart
  | unknownType name => "unknown atomic type " ++ name.text
  | tooLargeForInteger value => "value " ++ value ++ " too large for xs:integer"
  | tooLargeForDecimal value => "value " ++ value ++ " too large for xs:decimal"
  | notFinite value target => "cannot cast " ++ value ++ " to " ++ target.qualifiedName
  | dateTimeOutOfRange => "date/time value out of range"
  | durationOutOfRange => "duration value out of range"
  | timezoneConflict date time =>
    "date and time have different timezones (" ++ date.toText ++ " and " ++ time.toText ++ ")"
  | invalidTimezone duration => "invalid timezone: " ++ duration
  | undefinedOperator op left right =>
    "operator '" ++ op.symbol ++ "' is not defined for " ++ left.qualifiedName ++ " and " ++
      right.qualifiedName
  | undefinedMinus operand => "unary minus is not defined for " ++ operand.qualifiedName
  | divisionByZero => "division by zero"
  | numericOverflow => "numeric overflow"
  | undefinedQuotient => "idiv operand is NaN or infinite"
  | factorNotANumber => "NaN supplied as duration factor"
  | incomparable op left right =>
    "cannot compare " ++ left.qualifiedName ++ " " ++ op.symbol ++ " " ++ right.qualifiedName
  | unknownFunction name arity => "unknown function " ++ name.text ++ "#" ++ toString arity
  | wrongCount position function expected count =>
    argumentText position function expected ++ "a sequence of " ++ toString count ++ " items"
  | wrongArgument position function expected found _ =>
    argumentText position function expected ++ found.qualifiedName
  | unexpectedNode expected => "expected " ++ expected ++ ", got a node"
  | unexpectedKind expected found => "expected " ++ expected ++ ", got " ++ found.qualifiedName
  | unexpectedNonNumeric found => "expected a numeric value, got " ++ found.qualifiedName
  | truthOfMany =>
    "effective boolean value is not defined for a sequence of two or more atomic values"
  | truthUndefined kind => "effective boolean value is not defined for " ++ kind.qualifiedName
  | malformedQName text => "invalid lexical QName '" ++ text ++ "'"
  | qualifierWithoutNamespace text =>
    "prefixed QName '" ++ text ++ "' requires a namespace URI"
  | raised _ message => message
  | because error _ => error.message

def reason? : Error → Option Error
  | wrongArgument _ _ _ _ reason => some reason
  | because _ reason => some reason
  | _ => none

def text (error : Error) : String :=
  "error: " ++ error.message ++ " (" ++ error.code.text ++ ")"

end Error

end XPathValues
