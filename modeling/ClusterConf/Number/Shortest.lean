import ClusterConf.Number.Double
set_option autoImplicit false

/-!
The shortest decimal that reads back as a given double, and its written forms. The digits are found
by trying one digit, two digits and so on: on each decimal grid only the two neighbours of the
value can be the nearest points, and the first grid with a neighbour inside the rounding interval
of the double gives the digits.
-/
namespace ClusterConf.Double

/-- The reals that round to one double, as `low ≤ x ≤ high` over a common denominator; the ends
belong to it when `closed`. `value` is the double itself. -/
structure RoundingInterval where
  low : Nat
  value : Nat
  high : Nat
  den : Nat
  closed : Bool

/-- The rounding interval of a positive finite double. Just above a power of two the numbers below
stand twice as close as those above. -/
def roundingInterval (d : Double) : RoundingInterval :=
  let m := d.significand
  let below := if d.fractionField = 0 && d.exponentField > 1 then 1 else 2
  let e := d.exponent - 2
  let scale := Nat.pow 2 e.toNat
  ⟨(4 * m - below) * scale, 4 * m * scale, (4 * m + 2) * scale, Nat.pow 2 (-e).toNat, m % 2 == 0⟩

def RoundingInterval.contains (r : RoundingInterval) (num den : Nat) : Bool :=
  let x := num * r.den
  if r.closed then r.low * den ≤ x && x ≤ r.high * den else r.low * den < x && x < r.high * den

/-- The greatest `k` with `10 ^ k ≤ num / den`. -/
def floorLogTen (num den : Nat) : Int :=
  let guess : Int := ((num.log2 : Int) - (den.log2 : Int)) * 30103 / 100000
  let atLeast (k : Int) : Bool := den * Nat.pow 10 k.toNat ≤ num * Nat.pow 10 (-k).toNat
  if atLeast (guess + 1) then guess + 1 else if atLeast guess then guess else guess - 1

/-- The point of the grid of multiples of `10 ^ k` that lies in the interval and is nearest to its
value, a tie going to the even multiple. -/
def RoundingInterval.nearestOnGrid? (r : RoundingInterval) (k : Int) : Option Nat :=
  let unit := Nat.pow 10 k.toNat
  let parts := Nat.pow 10 (-k).toNat
  let num := r.value * parts
  let den := r.den * unit
  let below := num / den
  let twice := 2 * (num % den)
  let inside (c : Nat) : Bool := r.contains (c * unit) parts
  let lowerFirst := twice < den || (twice == den && below % 2 == 0)
  let (first, second) := if lowerFirst then (below, below + 1) else (below + 1, below)
  if inside first then some first else if inside second then some second else none

/-- Tries grids of growing fineness; `fuel` is the number of grids. -/
def RoundingInterval.shortest (r : RoundingInterval) : Nat → Int → Nat × Int
  | 0, k => (r.value * Nat.pow 10 (-k).toNat / (r.den * Nat.pow 10 k.toNat), k)
  | fuel + 1, k =>
    match r.nearestOnGrid? k with
    | some c => (c, k)
    | none => r.shortest fuel (k - 1)

/-- Moves trailing zeros of the digits into the exponent. -/
def dropZeros : Nat → Nat → Int → Nat × Int
  | 0, c, k => (c, k)
  | fuel + 1, c, k => if c % 10 = 0 && c ≠ 0 then dropZeros fuel (c / 10) (k + 1) else (c, k)

/-- The shortest `(c, k)` with `c * 10 ^ k` reading back as the magnitude of a finite nonzero
double, and of those the nearest to it. Seventeen digits always suffice. -/
def shortestDecimal (d : Double) : Nat × Int :=
  let r := d.roundingInterval
  let (c, k) := r.shortest 17 (floorLogTen r.value r.den)
  dropZeros 20 c k

/-- How the written forms of doubles differ: the mark in front of a positive exponent. -/
structure Style where
  positiveExponent : String

/-- Positional notation from `10 ^ -5` up to `10 ^ 16`, always with a fractional part; beyond that
one digit before the point and an exponent. -/
def writeDecimal (style : Style) (c : Nat) (k : Int) : String :=
  let digits := toString c
  let len : Int := digits.length
  let point := len + k
  if 0 ≤ k && point ≤ 16 then digits ++ "".pushn '0' k.toNat ++ ".0"
  else if 0 < point && point ≤ 16 then
    (digits.take point.toNat).toString ++ "." ++ (digits.drop point.toNat).toString
  else if -5 < point && point ≤ 0 then "0." ++ "".pushn '0' (-point).toNat ++ digits
  else
    let e := point - 1
    let mantissa :=
      if digits.length = 1 then digits
      else (digits.take 1).toString ++ "." ++ (digits.drop 1).toString
    mantissa ++ "e" ++ (if e < 0 then "-" else style.positiveExponent) ++ toString e.natAbs

def write (style : Style) (d : Double) : String :=
  let text :=
    if d.isZero then "0.0"
    else
      let (c, k) := d.shortestDecimal
      writeDecimal style c k
  if d.isNegative then "-" ++ text else text

end ClusterConf.Double
