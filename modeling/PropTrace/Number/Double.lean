/-!
Binary floating-point numbers of 64 bits, as bit patterns. All arithmetic goes through exact
fractions of natural numbers and rounds once, to the nearest representable value; of two equally
near values the one with an even last bit is taken.
-/
namespace PropTrace

/-- A 64-bit floating-point number: a sign bit, eleven exponent bits and 52 fraction bits. -/
structure Double where
  bits : UInt64
  deriving DecidableEq, Repr, Inhabited

/-- The quotient rounded to the nearest whole number, a half to the even neighbour. -/
def roundHalfEven (numerator denominator : Nat) : Nat :=
  let quotient := numerator / denominator
  let twice := 2 * (numerator % denominator)
  if twice < denominator then quotient
  else if denominator < twice then quotient + 1
  else quotient + quotient % 2

namespace Double

/-- The least exponent of a last bit: subnormal numbers are multiples of `2 ^ (-1074)`. -/
def leastExponent : Int := -1074

/-- The bit pattern of positive infinity. -/
def infinityBits : Nat := 0x7ff0000000000000

def infinity : Double := ⟨.ofNat infinityBits⟩

def zero : Double := ⟨0⟩

/-- The weight of the last bit of the representable numbers next to a positive fraction. -/
def lastBitExponent (numerator denominator : Nat) : Int :=
  let estimate : Int := (numerator.log2 : Int) - denominator.log2
  let exact : Bool :=
    if 0 ≤ estimate then denominator * Nat.pow 2 estimate.toNat ≤ numerator
    else denominator ≤ numerator * Nat.pow 2 (-estimate).toNat
  max leastExponent ((if exact then estimate else estimate - 1) - 52)

/-- The number nearest to a fraction that is not negative. A carry out of the fraction bits moves
into the exponent bits, which is the next representable number. -/
def nearest (numerator denominator : Nat) : Double :=
  if numerator = 0 || denominator = 0 then zero
  else
    let exponent := lastBitExponent numerator denominator
    let significand :=
      if 0 ≤ exponent then roundHalfEven numerator (denominator * Nat.pow 2 exponent.toNat)
      else roundHalfEven (numerator * Nat.pow 2 (-exponent).toNat) denominator
    let bits := (exponent - leastExponent).toNat * Nat.pow 2 52 + significand
    if infinityBits ≤ bits then infinity else ⟨.ofNat bits⟩

/-- The number of decimal digits of a whole number. -/
def digitCount (n : Nat) : Nat :=
  (Nat.toDigits 10 n).length

/-- The number nearest to `significand * 10 ^ exponent`. Magnitudes that are certain to overflow
or to vanish are settled without computing the power. -/
def ofDecimal (significand : Nat) (exponent : Int) : Double :=
  if significand = 0 then zero
  else
    let magnitude := (digitCount significand : Int) + exponent
    if 400 < magnitude then infinity
    else if magnitude < -400 then zero
    else if 0 ≤ exponent then nearest (significand * Nat.pow 10 exponent.toNat) 1
    else nearest significand (Nat.pow 10 (-exponent).toNat)

/-- The same magnitude with the sign bit set. -/
def negate (d : Double) : Double := ⟨d.bits ^^^ 0x8000000000000000⟩

def isNegative (d : Double) : Bool := 0x8000000000000000 ≤ d.bits

/-- The bits without the sign. -/
def magnitude (d : Double) : Nat := d.bits.toNat % Nat.pow 2 63

def isFinite (d : Double) : Bool := d.magnitude < infinityBits

/-- The magnitude of a finite number as a significand and the weight of its last bit. -/
def decompose (d : Double) : Nat × Int :=
  let biased : Nat := d.magnitude / Nat.pow 2 52
  let fraction : Nat := d.magnitude % Nat.pow 2 52
  if biased = 0 then (fraction, leastExponent)
  else (fraction + Nat.pow 2 52, (biased : Int) - 1 + leastExponent)

/-- The magnitude of a finite number as a fraction. -/
def fraction (d : Double) : Nat × Nat :=
  let (significand, exponent) := d.decompose
  if 0 ≤ exponent then (significand * Nat.pow 2 exponent.toNat, 1)
  else (significand, Nat.pow 2 (-exponent).toNat)

/-- The product of two magnitudes, rounded. -/
def multiply (a b : Double) : Double :=
  nearest (a.fraction.1 * b.fraction.1) (a.fraction.2 * b.fraction.2)

/-- The quotient of two magnitudes, rounded; the divisor is not zero. -/
def divide (a b : Double) : Double :=
  nearest (a.fraction.1 * b.fraction.2) (a.fraction.2 * b.fraction.1)

/-- The pattern as sixteen lower-case hexadecimal digits. -/
def hex (d : Double) : String :=
  let digits := Nat.toDigits 16 d.bits.toNat
  String.ofList (List.replicate (16 - digits.length) '0' ++ digits)

end Double

end PropTrace
