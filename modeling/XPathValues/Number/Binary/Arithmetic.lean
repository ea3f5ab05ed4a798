import XPathValues.Number.Binary.Basic

/-!
# Arithmetic of binary floating point

Each operation computes on the exact numbers and rounds once. The rules for zeros, infinities and
values that are not numbers come first; where a result is zero, its sign is part of the rule.
-/

namespace XPathValues.BinaryFloat

variable {f : BinaryFormat}

def neg : BinaryFloat f → BinaryFloat f
  | nan => nan
  | infinity negative => infinity (!negative)
  | finite negative significand exponent h => finite (!negative) significand exponent h

def abs : BinaryFloat f → BinaryFloat f
  | nan => nan
  | infinity _ => infinity false
  | finite _ significand exponent h => finite false significand exponent h

/-- A sum that cancels is the positive zero unless both operands are negative. -/
def add : BinaryFloat f → BinaryFloat f → BinaryFloat f
  | nan, _ => nan
  | _, nan => nan
  | infinity a, infinity b => if a = b then infinity a else nan
  | infinity a, finite .. => infinity a
  | finite .., infinity b => infinity b
  | finite a m j _, finite b n k _ =>
    let sum := signed a m j + signed b n k
    if sum = 0 then zero (a && b) else ofRat sum

def sub (x y : BinaryFloat f) : BinaryFloat f :=
  add x y.neg

def mul : BinaryFloat f → BinaryFloat f → BinaryFloat f
  | nan, _ => nan
  | _, nan => nan
  | infinity a, infinity b => infinity (a ^^ b)
  | infinity a, finite b n _ _ => if n = 0 then nan else infinity (a ^^ b)
  | finite a m _ _, infinity b => if m = 0 then nan else infinity (a ^^ b)
  | finite a m j _, finite b n k _ => round (a ^^ b) (magnitude m j * magnitude n k)

def div : BinaryFloat f → BinaryFloat f → BinaryFloat f
  | nan, _ => nan
  | _, nan => nan
  | infinity _, infinity _ => nan
  | infinity a, finite b _ _ _ => infinity (a ^^ b)
  | finite a _ _ _, infinity b => zero (a ^^ b)
  | finite a m j _, finite b n k _ =>
    if n = 0 then (if m = 0 then nan else infinity (a ^^ b))
    else round (a ^^ b) (magnitude m j / magnitude n k)

/-- What the integer part of the exact quotient leaves over. It is exact and has the sign of the
dividend, also where it is zero. -/
def rem : BinaryFloat f → BinaryFloat f → BinaryFloat f
  | nan, _ => nan
  | _, nan => nan
  | infinity _, _ => nan
  | finite a m j h, infinity _ => finite a m j h
  | finite a m j _, finite _ n k _ =>
    if n = 0 then nan
    else
      let whole := (magnitude m j / magnitude n k).floor
      round a (magnitude m j - (whole : Rat) * magnitude n k)

/-- Apply a rule that picks one of the two integers around a number. The sign stays, so that a
negative number above minus one can become the negative zero. -/
def roundIntegral (rule : Rat → Int) : BinaryFloat f → BinaryFloat f
  | nan => nan
  | infinity negative => infinity negative
  | finite negative significand exponent _ =>
    round negative ((rule (signed negative significand exponent)).natAbs : Rat)

def floor : BinaryFloat f → BinaryFloat f := roundIntegral Rat.floor

def ceil : BinaryFloat f → BinaryFloat f := roundIntegral Rat.ceil

def roundHalfEven : BinaryFloat f → BinaryFloat f := roundIntegral Rounding.halfEven

def roundHalfAway : BinaryFloat f → BinaryFloat f := roundIntegral Rounding.halfAway

def truncate? (x : BinaryFloat f) : Option Int :=
  x.toRat?.map Rounding.towardZero

/-- One multiplication for each bit of the exponent, lowest first, and a squaring between bits. -/
def powerBits (base result : BinaryFloat f) : List Bool → BinaryFloat f
  | [] => result
  | [bit] => if bit then mul result base else result
  | bit :: next :: rest =>
    powerBits (mul base base) (if bit then mul result base else result) (next :: rest)

/-- The bits of a number, lowest first. -/
def bitsOf (n : Nat) : List Bool :=
  (List.range (n.log2 + 1)).map n.testBit

/-- A power by repeated squaring, each product rounded; a negative exponent inverts at the end. -/
def power (base : BinaryFloat f) (exponent : Int) : BinaryFloat f :=
  let result := powerBits base (ofInt 1) (bitsOf exponent.natAbs)
  if exponent < 0 then div (ofInt 1) result else result

theorem add_comm (x y : BinaryFloat f) : add x y = add y x := by
  cases x <;> cases y <;> simp only [add]
  · next a b =>
    by_cases h : a = b
    · simp [h]
    · simp [h, Ne.symm h]
  · next a m j _ b n k _ => rw [Rat.add_comm, Bool.and_comm]

theorem mul_comm (x y : BinaryFloat f) : mul x y = mul y x := by
  cases x <;> cases y <;> simp only [mul, Bool.xor_comm, Rat.mul_comm]

end XPathValues.BinaryFloat
