set_option autoImplicit false

/-!
Double precision numbers as their 64 bits, and exact rational arithmetic rounded to them. Nothing
here runs on the machine's floating point unit, so every result can be computed in a proof.
-/
namespace ClusterConf

/-- A binary64 number, given by its sign, exponent and fraction fields in one word. -/
structure Double where
  bits : UInt64

namespace Double

/-- Whether the sign bit is set; zeros and NaNs have one, too. -/
def isNegative (d : Double) : Bool := d.bits >>> 63 != 0

/-- The eleven bits below the sign. -/
def exponentField (d : Double) : Nat := ((d.bits >>> 52) &&& 0x7ff).toNat

/-- The lowest 52 bits. -/
def fractionField (d : Double) : Nat := (d.bits &&& 0xfffffffffffff).toNat

/-- The greatest exponent field is that of infinities and NaNs. -/
def isFinite (d : Double) : Bool := d.exponentField != 0x7ff

def isNaN (d : Double) : Bool := !d.isFinite && d.fractionField != 0

def isInfinite (d : Double) : Bool := !d.isFinite && d.fractionField == 0

/-- A finite number has magnitude `significand * 2 ^ exponent`. -/
def significand (d : Double) : Nat :=
  if d.exponentField = 0 then d.fractionField else Nat.pow 2 52 + d.fractionField

/-- The exponent of the last bit of the significand. -/
def exponent (d : Double) : Int :=
  if d.exponentField = 0 then -1074 else (d.exponentField : Int) - 1075

def isZero (d : Double) : Bool := d.isFinite && d.significand == 0

/-- Numbers are compared by value: a NaN differs from everything and the two zeros are equal. -/
instance : BEq Double where
  beq a b := !a.isNaN && !b.isNaN && (a.bits == b.bits || (a.isZero && b.isZero))

/-- The word of a sign and of the 63 bits below it. -/
def ofParts (negative : Bool) (magnitude : Nat) : Double :=
  ⟨UInt64.ofNat (magnitude + if negative then Nat.pow 2 63 else 0)⟩

def infinity (negative : Bool) : Double := ofParts negative (0x7ff * Nat.pow 2 52)

def nan : Double := ofParts false (0x7ff * Nat.pow 2 52 + Nat.pow 2 51)

def zero (negative : Bool) : Double := ofParts negative 0

instance : Inhabited Double := ⟨zero false⟩

def neg (d : Double) : Double := ⟨d.bits ^^^ 0x8000000000000000⟩

/-- The quotient rounded to the nearest integer, a half to the even neighbour. -/
def roundDiv (num den : Nat) : Nat :=
  let q := num / den
  let twice := 2 * (num % den)
  if twice > den || (twice == den && q % 2 == 1) then q + 1 else q

/-- A quotient of naturals scaled by a power of two, as a quotient again. -/
def scaled (num den : Nat) (e : Int) : Nat × Nat :=
  (num * Nat.pow 2 e.toNat, den * Nat.pow 2 (-e).toNat)

/--
The double nearest to `num / den`, of two equally near ones the even one. The significand is
rounded at the exponent that leaves it 53 bits, or at the least exponent there is; a carry into the
54th bit moves on to the exponent field by itself.
-/
def ofRatio (negative : Bool) (num den : Nat) : Double :=
  if num = 0 || den = 0 then zero negative
  else
    let guess : Int := (num.log2 : Int) - (den.log2 : Int) - 52
    let (n, d) := scaled num den (-guess)
    let fitted := if n < Nat.pow 2 52 * d then guess - 1 else guess
    let e := max fitted (-1074)
    let (n, d) := scaled num den (-e)
    let q := roundDiv n d
    let magnitude := if q < Nat.pow 2 52 then q else (e + 1074).toNat * Nat.pow 2 52 + q
    if magnitude ≥ 0x7ff * Nat.pow 2 52 then infinity negative else ofParts negative magnitude

def ofInt (i : Int) : Double := ofRatio (decide (i < 0)) i.natAbs 1

/-- The number of decimal digits of a natural, none for zero. -/
def digitCount (n : Nat) : Nat :=
  if n = 0 then 0 else (Nat.toDigits 10 n).length

/-- The double nearest to `digits * 10 ^ exponent`. Exponents beyond the range of doubles are
answered at once, without the power. -/
def ofDecimal (negative : Bool) (digits : Nat) (exponent : Int) : Double :=
  let size := exponent + digitCount digits
  if digits = 0 || size < -400 then zero negative
  else if size > 400 then infinity negative
  else ofRatio negative (digits * Nat.pow 10 exponent.toNat) (Nat.pow 10 (-exponent).toNat)

def mul (a b : Double) : Double :=
  let (n, d) := scaled (a.significand * b.significand) 1 (a.exponent + b.exponent)
  ofRatio (a.isNegative != b.isNegative) n d

def div (a b : Double) : Double :=
  let (n, d) := scaled a.significand b.significand (a.exponent - b.exponent)
  ofRatio (a.isNegative != b.isNegative) n d

def tenPow (k : Nat) : Double := ofRatio false (Nat.pow 10 k) 1

end Double
end ClusterConf
