import PropTrace.Number.Double

/-!
The shortest decimal text of a floating-point number: the fewest digits that read back as the same
number and, among those, the digits nearest to it. A text without a power of ten has a point.
-/
namespace PropTrace.Double

/-- The exponent of the leading decimal digit of a positive fraction: the greatest `k` with
`10 ^ k ≤ numerator / denominator`, searched upwards from `low`. -/
def leadingExponent (numerator denominator : Nat) : Nat → Int → Int
  | 0, low => low
  | fuel + 1, low =>
    let next := low + 1
    let reached : Bool :=
      if 0 ≤ next then denominator * Nat.pow 10 next.toNat ≤ numerator
      else denominator ≤ numerator * Nat.pow 10 (-next).toNat
    if reached then leadingExponent numerator denominator fuel next else low

/-- A lower bound for the exponent of the leading decimal digit that is at most one too small. -/
def leadingExponentBound (numerator denominator : Nat) : Int :=
  (digitCount numerator : Int) - digitCount denominator - 1

/-- The two neighbours of a positive fraction among the multiples of `10 ^ exponent`, the nearer
first. -/
def gridNeighbours (numerator denominator : Nat) (exponent : Int) : List Nat :=
  let top := if 0 ≤ exponent then numerator else numerator * Nat.pow 10 (-exponent).toNat
  let bottom := if 0 ≤ exponent then denominator * Nat.pow 10 exponent.toNat else denominator
  let below := top / bottom
  if 2 * (top % bottom) ≤ bottom then [below, below + 1] else [below + 1, below]

/-- The first grid, from coarse to fine, with a neighbour that reads back as the number. -/
def shortestFrom (d : Double) (numerator denominator : Nat) : Nat → Int → Nat × Int
  | 0, exponent => ((gridNeighbours numerator denominator exponent).headD 0, exponent)
  | fuel + 1, exponent =>
    match (gridNeighbours numerator denominator exponent).find? fun digits =>
        ofDecimal digits exponent == d with
    | some digits => (digits, exponent)
    | none => shortestFrom d numerator denominator fuel (exponent - 1)

/-- Digits and exponent of the shortest decimal of the magnitude of a finite number. The search
starts one place above the leading digit, for a number just below a power of ten. -/
def shortest (d : Double) : Nat × Int :=
  let (numerator, denominator) := d.fraction
  if numerator = 0 then (0, 0)
  else
    let leading :=
      leadingExponent numerator denominator 3 (leadingExponentBound numerator denominator)
    shortestFrom ⟨.ofNat d.magnitude⟩ numerator denominator 18 (leading + 1)

/-- Digits with a decimal point: `exponent` zeros after them, or so many places behind the
point. -/
def positional (digits : List Char) (exponent : Int) : List Char :=
  if 0 ≤ exponent then digits ++ List.replicate exponent.toNat '0' ++ ['.', '0']
  else
    let places := (-exponent).toNat
    let padded := List.replicate (places + 1 - digits.length) '0' ++ digits
    padded.take (padded.length - places) ++ ['.'] ++ padded.drop (padded.length - places)

/-- Digits with the point after the first of them and a power of ten. A single digit has no
point. -/
def scientific (digits : List Char) (exponent : Int) : List Char :=
  let power := exponent + digits.length - 1
  digits.take 1 ++ (if digits.length = 1 then [] else '.' :: digits.drop 1) ++
    'e' :: (toString power).toList

/-- The text of a finite number: positional while the leading digit stands at most five places
behind the point and at most sixteen before it, and with a power of ten otherwise. -/
def text (d : Double) : String :=
  let (value, exponent) := d.shortest
  let digits := Nat.toDigits 10 value
  let place := exponent + digits.length
  let body :=
    if -5 < place && place ≤ 16 then positional digits exponent else scientific digits exponent
  String.ofList ((if d.isNegative then ['-'] else []) ++ body)

end PropTrace.Double
