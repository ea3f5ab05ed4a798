import XPathValues.Arithmetic
import XPathValues.Bindings
import XPathValues.Calendar.Clock
import XPathValues.Calendar.Date
import XPathValues.Calendar.Fragment
import XPathValues.Calendar.Moment
import XPathValues.Calendar.Seconds
import XPathValues.Calendar.Text
import XPathValues.Calendar.TimeSpan
import XPathValues.Calendar.Timezone
import XPathValues.Calendar.Zoned
import XPathValues.Cast
import XPathValues.CastTable
import XPathValues.Comparison
import XPathValues.Context
import XPathValues.Duration.Basic
import XPathValues.Duration.Text
import XPathValues.Error
import XPathValues.Function.Argument
import XPathValues.Function.Body
import XPathValues.Function.Component
import XPathValues.Function.General
import XPathValues.Function.Library
import XPathValues.Function.Rounding
import XPathValues.Function.Signature
import XPathValues.Function.Standard
import XPathValues.Function.Zone
import XPathValues.Integer
import XPathValues.Item
import XPathValues.Kind.Atomic
import XPathValues.Kind.Integer
import XPathValues.Name
import XPathValues.Number.Binary.Arithmetic
import XPathValues.Number.Binary.Basic
import XPathValues.Number.Binary.Encoding
import XPathValues.Number.Binary.Shortest
import XPathValues.Number.Binary.Text
import XPathValues.Number.Conversion
import XPathValues.Number.Decimal.Basic
import XPathValues.Number.Decimal.Text
import XPathValues.Number.Literal
import XPathValues.Number.LongDivision
import XPathValues.Number.Promotion
import XPathValues.Number.Rounding
import XPathValues.Operator
import XPathValues.Proofs.Bindings
import XPathValues.Proofs.Calendar.Adjustment
import XPathValues.Proofs.Calendar.DateLiteral
import XPathValues.Proofs.Calendar.Distance
import XPathValues.Proofs.Calendar.LawfulPart
import XPathValues.Proofs.Calendar.Months
import XPathValues.Proofs.Calendar.Parts
import XPathValues.Proofs.Calendar.Reading
import XPathValues.Proofs.Calendar.RoundTrip
import XPathValues.Proofs.Calendar.TimeLiteral
import XPathValues.Proofs.Calendar.TimeSpan
import XPathValues.Proofs.Calendar.Timeline
import XPathValues.Proofs.Calendar.Translation
import XPathValues.Proofs.Calendar.YearZero
import XPathValues.Proofs.Calendar.ZoneLiteral
import XPathValues.Proofs.Calendar.ZoneSuffix
import XPathValues.Proofs.Context
import XPathValues.Proofs.Duration.Body
import XPathValues.Proofs.Duration.Canonical
import XPathValues.Proofs.Duration.Components
import XPathValues.Proofs.Duration.Fields
import XPathValues.Proofs.Duration.Literal
import XPathValues.Proofs.Duration.Reading
import XPathValues.Proofs.Duration.Recomposition
import XPathValues.Proofs.Duration.RoundTrip
import XPathValues.Proofs.Duration.Units
import XPathValues.Proofs.Duration.Written
import XPathValues.Proofs.Duration.Zone
import XPathValues.Proofs.Function.Constructors
import XPathValues.Proofs.Function.Conversion
import XPathValues.Proofs.Function.ConversionFailure
import XPathValues.Proofs.Function.DurationComponents
import XPathValues.Proofs.Function.LawfulLibrary
import XPathValues.Proofs.Function.QualifiedNames
import XPathValues.Proofs.Function.Recombination
import XPathValues.Proofs.Function.Registration
import XPathValues.Proofs.Function.ResultType
import XPathValues.Proofs.Function.Rounding
import XPathValues.Proofs.Function.StandardFailure
import XPathValues.Proofs.Function.StandardForm
import XPathValues.Proofs.Function.StandardResult
import XPathValues.Proofs.Function.WellFormed
import XPathValues.Proofs.Function.ZoneOffset
import XPathValues.Proofs.Number.BinaryInteger
import XPathValues.Proofs.Number.BinaryRounding
import XPathValues.Proofs.Number.BinaryValue
import XPathValues.Proofs.Number.DecimalHalf
import XPathValues.Proofs.Number.DecimalLiteral
import XPathValues.Proofs.Number.DecimalMultiple
import XPathValues.Proofs.Number.DecimalQuotient
import XPathValues.Proofs.Number.DecimalReading
import XPathValues.Proofs.Number.DecimalRemainder
import XPathValues.Proofs.Number.DecimalRounding
import XPathValues.Proofs.Number.DecimalText
import XPathValues.Proofs.Number.DecimalToDouble
import XPathValues.Proofs.Number.DecimalValue
import XPathValues.Proofs.Number.DecimalWhole
import XPathValues.Proofs.Number.HalfEven
import XPathValues.Proofs.Number.IntegerMultiple
import XPathValues.Proofs.Number.NearestMultiple
import XPathValues.Proofs.Number.RoundedTwice
import XPathValues.Proofs.Outcome
import XPathValues.Proofs.QName
import XPathValues.Proofs.Text.Fraction
import XPathValues.Proofs.Text.Layout
import XPathValues.Proofs.Text.Literal
import XPathValues.Proofs.Text.NameGrammar
import XPathValues.Proofs.Text.Ranges
import XPathValues.Proofs.Text.Whitespace
import XPathValues.Proofs.Value.Canonical
import XPathValues.Proofs.Value.CastSoundness
import XPathValues.Proofs.Value.Casting
import XPathValues.Proofs.Value.Commutation
import XPathValues.Proofs.Value.Comparison
import XPathValues.Proofs.Value.DecimalDivision
import XPathValues.Proofs.Value.Difference
import XPathValues.Proofs.Value.DurationEquality
import XPathValues.Proofs.Value.DurationSum
import XPathValues.Proofs.Value.Equality
import XPathValues.Proofs.Value.ExactCasting
import XPathValues.Proofs.Value.ExactOrder
import XPathValues.Proofs.Value.Failure
import XPathValues.Proofs.Value.ImplicitZone
import XPathValues.Proofs.Value.IntegerArithmetic
import XPathValues.Proofs.Value.IntegerReading
import XPathValues.Proofs.Value.MonthArithmetic
import XPathValues.Proofs.Value.MonthScaling
import XPathValues.Proofs.Value.NumericReading
import XPathValues.Proofs.Value.Projection
import XPathValues.Proofs.Value.Provenance
import XPathValues.Proofs.Value.Reachable
import XPathValues.Proofs.Value.Reading
import XPathValues.Proofs.Value.Relation
import XPathValues.Proofs.Value.ResultKind
import XPathValues.Proofs.Value.TemporalRows
import XPathValues.Proofs.Value.Translation
import XPathValues.Proofs.Value.WellFormed
import XPathValues.Proofs.Value.Whitespace
import XPathValues.QName
import XPathValues.Text.Alphabetic
import XPathValues.Text.Digits
import XPathValues.Text.Name
import XPathValues.Text.Numeral
import XPathValues.Text.Quoted
import XPathValues.Text.Ranges
import XPathValues.Text.Unprintable
import XPathValues.Text.Whitespace
import XPathValues.Value.Basic
import XPathValues.Value.Lexical
import XPathValues.Value.Number
