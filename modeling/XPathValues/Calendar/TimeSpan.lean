import XPathValues.Number.Decimal.Basic

/-!
# Spans of time

A span is a count of seconds, rounded down, and the nanoseconds beyond them. Its length is limited
to as many milliseconds as 64 bits can count. A decimal count of seconds becomes a span in two
parts, the whole seconds and what is behind the point; a span becomes a decimal in two parts of one
sign.
-/

namespace XPathValues

namespace TimeSpan

/-- The nanoseconds of the longest span. -/
def maxNanos : Nat := 9223372036854775807000000

/-- The nanoseconds do not fill a second, and the span is not too long. -/
def InRange (seconds : Int) (nanos : Nat) : Prop :=
  nanos < 1000000000 ∧ (seconds * 1000000000 + nanos).natAbs ≤ maxNanos

instance (seconds : Int) (nanos : Nat) : Decidable (InRange seconds nanos) := by
  unfold InRange
  infer_instance

end TimeSpan

structure TimeSpan where
  seconds : Int
  nanos : Nat
  inRange : TimeSpan.InRange seconds nanos
deriving DecidableEq

namespace TimeSpan

def ofParts? (seconds : Int) (nanos : Nat) : Option TimeSpan :=
  if h : InRange seconds nanos then some ⟨seconds, nanos, h⟩ else none

def ofSeconds? (seconds : Int) : Option TimeSpan :=
  ofParts? seconds 0

def ofNanos? (nanos : Int) : Option TimeSpan :=
  ofParts? (nanos / 1000000000) (nanos % 1000000000).toNat

/-- Nanoseconds that fill a second are carried. -/
def add? (a b : TimeSpan) : Option TimeSpan :=
  let nanos := a.nanos + b.nanos
  if 1000000000 ≤ nanos then ofParts? (a.seconds + b.seconds + 1) (nanos - 1000000000)
  else ofParts? (a.seconds + b.seconds) nanos

def length (span : TimeSpan) : Int :=
  span.seconds * 1000000000 + span.nanos

/-- The seconds, rounded toward zero. -/
def wholeSeconds (span : TimeSpan) : Int :=
  if span.seconds < 0 ∧ 0 < span.nanos then span.seconds + 1 else span.seconds

/-- The nanoseconds beyond the whole seconds, with the sign of the span. -/
def nanosOfSecond (span : TimeSpan) : Int :=
  if span.seconds < 0 ∧ 0 < span.nanos then (span.nanos : Int) - 1000000000 else span.nanos

end TimeSpan

namespace Decimal

/-- The sum of a count of seconds and a count of nanoseconds. -/
def ofSeconds? (seconds nanos : Int) : Option Decimal := do
  let whole ← ofInt? seconds
  let fraction ← ofParts? (decide (nanos < 0)) nanos.natAbs 9
  whole.add? fraction

end Decimal

namespace TimeSpan

/-- The span of a decimal count of seconds, without what is below a nanosecond. -/
def ofDecimal? (seconds : Decimal) : Option TimeSpan := do
  let whole := seconds.truncate
  let fraction ← seconds.sub? whole
  let billionths ← fraction.mul? (.ofNat 1000000000)
  let nanos ← billionths.truncate.toInt? 64
  let count ← whole.toInt? 64
  let start ← ofSeconds? count
  let rest ← ofNanos? nanos
  start.add? rest

def toDecimal? (span : TimeSpan) : Option Decimal :=
  (Decimal.ofSeconds? span.wholeSeconds span.nanosOfSecond).map Decimal.normalize

theorem ofParts?_eq_some_iff {seconds : Int} {nanos : Nat} {span : TimeSpan} :
    ofParts? seconds nanos = some span ↔ span.seconds = seconds ∧ span.nanos = nanos := by
  unfold ofParts?
  constructor
  · intro h
    split at h
    · obtain rfl := Option.some.inj h
      exact ⟨rfl, rfl⟩
    · cases h
  · rintro ⟨rfl, rfl⟩
    exact dif_pos span.inRange

theorem ofParts?_eq_none_iff {seconds : Int} {nanos : Nat} :
    ofParts? seconds nanos = none ↔ ¬ InRange seconds nanos := by
  unfold ofParts?
  split <;> simp_all

theorem nanos_lt (span : TimeSpan) : span.nanos < 1000000000 :=
  span.inRange.1

theorem natAbs_length_le (span : TimeSpan) : span.length.natAbs ≤ maxNanos :=
  span.inRange.2

theorem ofNanos?_length (span : TimeSpan) : ofNanos? span.length = some span := by
  have hnanos := span.nanos_lt
  unfold ofNanos? length
  rw [ofParts?_eq_some_iff]
  omega

theorem length_ofNanos? {n : Int} {span : TimeSpan} (h : ofNanos? n = some span) :
    span.length = n := by
  obtain ⟨hseconds, hnanos⟩ := ofParts?_eq_some_iff.mp h
  unfold length
  omega

/-- The two parts have one sign and make up the length. -/
theorem wholeSeconds_mul_add (span : TimeSpan) :
    span.wholeSeconds * 1000000000 + span.nanosOfSecond = span.length := by
  unfold wholeSeconds nanosOfSecond length
  split <;> omega

end TimeSpan

end XPathValues
