import ClusterConf.Number.Double
set_option autoImplicit false

/-!
What the texts of plain scalars stand for when something other than a text is wanted.
-/
namespace ClusterConf.Yaml.Scalar

def isNull (text : String) : Bool := ["~", "null", "Null", "NULL"].contains text

def flag? (text : String) : Option Bool :=
  if ["true", "True", "TRUE"].contains text then some true
  else if ["false", "False", "FALSE"].contains text then some false
  else none

def isDigit (c : Char) : Bool := '0' ≤ c && c ≤ '9'

def digit? (base : Nat) (c : Char) : Option Nat :=
  let value :=
    if isDigit c then c.toNat - '0'.toNat
    else if 'a' ≤ c && c ≤ 'f' then c.toNat - 'a'.toNat + 10
    else if 'A' ≤ c && c ≤ 'F' then c.toNat - 'A'.toNat + 10
    else base
  if value < base then some value else none

/-- The number with some digits, of which there has to be one. -/
def digits? (base : Nat) (cs : List Char) : Option Nat :=
  if cs.isEmpty then none else cs.foldlM (fun n c => (digit? base c).map (base * n + ·)) 0

/-- Several digits of which the first is a zero are not a number. -/
def decimal? (cs : List Char) : Option Nat :=
  if cs.head? == some '0' && 1 < cs.length then none else digits? 10 cs

/-- Digits in base ten, or in the base that is marked in front of them. -/
def magnitude? : List Char → Option Nat
  | '0' :: 'x' :: rest => digits? 16 rest
  | '0' :: 'o' :: rest => digits? 8 rest
  | '0' :: 'b' :: rest => digits? 2 rest
  | cs => decimal? cs

/-- A whole number without minus sign. -/
def naturalOf? : List Char → Option Nat
  | '+' :: rest => magnitude? rest
  | cs => magnitude? cs

def natural? (text : String) : Option Nat := naturalOf? text.toList

def integer? (text : String) : Option Int :=
  match text.toList with
  | '-' :: rest => (magnitude? rest).map fun n => -(n : Int)
  | cs => (naturalOf? cs).map fun n => (n : Int)

/-- A text of decimal digits that is not a number because of its first zero. -/
def isPaddedDigits (text : String) : Bool :=
  let cs := match text.toList with
    | '-' :: rest => rest
    | '+' :: rest => rest
    | cs => cs
  1 < cs.length && cs.head? == some '0' && cs.all isDigit

/-- An exponent with its mark and sign, or nothing. -/
def exponent? : List Char → Option Int
  | [] => some 0
  | mark :: cs =>
    if mark == 'e' || mark == 'E' then
      match cs with
      | '-' :: rest => (digits? 10 rest).map fun n => -(n : Int)
      | '+' :: rest => (digits? 10 rest).map fun n => (n : Int)
      | rest => (digits? 10 rest).map fun n => (n : Int)
    else none

/-- The number in front of an exponent: digits with at most one point among or around them. -/
def unsigned? (negative : Bool) (cs : List Char) : Option Double := do
  let whole := cs.takeWhile isDigit
  let rest := cs.dropWhile isDigit
  let (fraction, rest) :=
    if rest.head? == some '.' then
      ((rest.drop 1).takeWhile isDigit, (rest.drop 1).dropWhile isDigit)
    else ([], rest)
  let digits ← digits? 10 (whole ++ fraction)
  let e ← exponent? rest
  let d := Double.ofDecimal negative digits (e - fraction.length)
  if d.isFinite then return d else none

def isInfinity (cs : List Char) : Bool :=
  [".inf", ".Inf", ".INF"].contains (String.ofList cs)

/-- A number: finite and rounded to the nearest double, or one of the words for the others. -/
def number? (text : String) : Option Double :=
  if [".nan", ".NaN", ".NAN"].contains text then some Double.nan
  else
    match text.toList with
    | '-' :: rest => if isInfinity rest then some (Double.infinity true) else unsigned? true rest
    | '+' :: rest => if isInfinity rest then some (Double.infinity false) else unsigned? false rest
    | cs => if isInfinity cs then some (Double.infinity false) else unsigned? false cs

end ClusterConf.Yaml.Scalar
