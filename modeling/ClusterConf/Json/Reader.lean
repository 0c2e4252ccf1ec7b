import ClusterConf.Document
set_option autoImplicit false

/-!
Reading JSON. The text is first cut into tokens, then the tokens are folded into a document with an
explicit stack of open lists and records, so nesting may be of any depth. Text that is well-formed
but denotes no value (an unpaired surrogate, a number beyond the range of doubles) is read as
`Document.unreadable`.
-/
namespace ClusterConf.Json

inductive Token where
  | openList
  | closeList
  | openRecord
  | closeRecord
  | comma
  | colon
  /-- A string; `none` when an escape in it is an unpaired surrogate. -/
  | string (text : Option String)
  /-- Any other scalar. -/
  | scalar (value : Document)

def isBlank (c : Char) : Bool := c == ' ' || c == '\n' || c == '\t' || c == '\r'

def isDigit (c : Char) : Bool := '0' ≤ c && c ≤ '9'

def digitValue (c : Char) : Nat := c.toNat - '0'.toNat

def hexValue? (c : Char) : Option Nat :=
  if isDigit c then some (digitValue c)
  else if 'a' ≤ c && c ≤ 'f' then some (c.toNat - 'a'.toNat + 10)
  else if 'A' ≤ c && c ≤ 'F' then some (c.toNat - 'A'.toNat + 10)
  else none

def hexQuad? (a b c d : Char) : Option Nat := do
  return ((← hexValue? a) * 16 + (← hexValue? b)) * 256 + (← hexValue? c) * 16 + (← hexValue? d)

/-- What a backslash and one letter stand for. -/
def shortEscape? : Char → Option Char
  | '"' => some '"'
  | '\\' => some '\\'
  | '/' => some '/'
  | 'b' => some '\x08'
  | 'f' => some '\x0c'
  | 'n' => some '\n'
  | 'r' => some '\r'
  | 't' => some '\t'
  | _ => none

/-- What a string scanner makes of an escaped UTF-16 unit: a leading surrogate waits for the
trailing one of its pair. -/
structure StringScan where
  text : String
  /-- The leading surrogate just read. -/
  lead : Option Nat
  paired : Bool

/-- The scan without its waiting surrogate, which stays unpaired. -/
def StringScan.settle (s : StringScan) : StringScan :=
  if s.lead.isSome then ⟨s.text, none, false⟩ else s

def StringScan.char (s : StringScan) (c : Char) : StringScan :=
  let s := s.settle
  ⟨s.text.push c, none, s.paired⟩

def StringScan.unit (s : StringScan) (u : Nat) : StringScan :=
  if 0xdc00 ≤ u && u < 0xe000 then
    match s.lead with
    | some lead =>
      let c := Char.ofNat (0x10000 + (lead - 0xd800) * 0x400 + (u - 0xdc00))
      ⟨s.text.push c, none, s.paired⟩
    | none => ⟨s.text, none, false⟩
  else if 0xd800 ≤ u && u < 0xdc00 then
    ⟨s.text, some u, s.settle.paired⟩
  else s.char (Char.ofNat u)

/-- Scans a string up to its closing quote. Control characters have to be escaped. -/
def scanString : List Char → StringScan → Option (Option String × List Char)
  | [], _ => none
  | '"' :: rest, s =>
    let s := s.settle
    some (if s.paired then some s.text else none, rest)
  | '\\' :: 'u' :: a :: b :: c :: d :: rest, s =>
    match hexQuad? a b c d with
    | some u => scanString rest (s.unit u)
    | none => none
  | '\\' :: e :: rest, s =>
    match shortEscape? e with
    | some c => scanString rest (s.char c)
    | none => none
  | c :: rest, s => if c < ' ' || c == '\\' then none else scanString rest (s.char c)

/-- Longest run of digits. -/
def spanDigits (cs : List Char) : List Char × List Char := cs.span isDigit

/-- A number as it is written: sign, digits before and after the point, exponent. -/
structure Literal where
  negative : Bool
  whole : List Char
  fraction : Option (List Char)
  /-- Sign and digits of the exponent. -/
  exponent : Option (Bool × List Char)

/-- No superfluous leading zero, and at least one digit in each part that is there. -/
def scanExponent (cs : List Char) : Option (Option (Bool × List Char) × List Char) :=
  match cs with
  | e :: rest =>
    if e == 'e' || e == 'E' then
      let (negative, rest) :=
        match rest with
        | '-' :: rest => (true, rest)
        | '+' :: rest => (false, rest)
        | _ => (false, rest)
      let (digits, rest) := spanDigits rest
      if digits.isEmpty then none else some (some (negative, digits), rest)
    else some (none, cs)
  | [] => some (none, cs)

def scanNumber (cs : List Char) : Option (Literal × List Char) := do
  let (negative, cs) :=
    match cs with
    | '-' :: rest => (true, rest)
    | _ => (false, cs)
  let (whole, cs) := spanDigits cs
  if whole.isEmpty || (whole.head? == some '0' && whole.length > 1) then none
  else
    match cs with
    | '.' :: rest =>
      let (fraction, rest) := spanDigits rest
      if fraction.isEmpty then none
      else
        let (exponent, rest) ← scanExponent rest
        return (⟨negative, whole, some fraction, exponent⟩, rest)
    | _ =>
      let (exponent, rest) ← scanExponent cs
      return (⟨negative, whole, none, exponent⟩, rest)

/-- Digits read into a significand of 64 bits. -/
structure Significand where
  value : Nat
  /-- How many digits were taken in. -/
  taken : Nat

def maxSignificand : Nat := Nat.pow 2 64 - 1

/-- Takes digits in as long as the significand fits into 64 bits and returns what is left. -/
def Significand.take (s : Significand) : List Char → Significand × List Char
  | [] => (s, [])
  | c :: rest =>
    let next := s.value * 10 + digitValue c
    if next > maxSignificand then (s, c :: rest) else take ⟨next, s.taken + 1⟩ rest

def digitsValue (cs : List Char) : Nat := cs.foldl (fun n c => n * 10 + digitValue c) 0

/-- Scales by a power of ten in double arithmetic: one rounded product or quotient, after
quotients by `10 ^ 308` as long as the exponent is below the table. Fails beyond the range. -/
def scaleByTen : Nat → Double → Int → Option Double
  | 0, f, _ => some f
  | fuel + 1, f, k =>
    if k.natAbs ≤ 308 then
      if 0 ≤ k then
        let product := f.mul (Double.tenPow k.natAbs)
        if product.isInfinite then none else some product
      else some (f.div (Double.tenPow k.natAbs))
    else if f.isZero then some f
    else if 0 ≤ k then none
    else scaleByTen fuel (f.div (Double.tenPow 308)) (k + 308)

/-- A double with the sign of its literal. -/
def signed (negative : Bool) (d : Double) : Double := if negative then d.neg else d

/-- The largest exponent that is taken at its word. -/
def maxExponent : Nat := Nat.pow 2 31 - 1

/--
The double that a literal with a point or an exponent denotes. It is the significand of at most 64
bits, scaled in double arithmetic; digits after those are dropped (before the point they count in
the exponent), so the result may be one unit off the nearest double.
-/
def Literal.double? (l : Literal) : Option Double :=
  let (s, dropped) := Significand.take ⟨0, 0⟩ l.whole
  let (t, _) := Significand.take ⟨s.value, 0⟩ (l.fraction.getD [])
  let start : Int := (dropped.length : Int) - (t.taken : Int)
  let base := Double.ofInt t.value
  let exponent? : Option (Option Int) :=
    match l.exponent with
    | none => some (some start)
    | some (negative, digits) =>
      let e := digitsValue digits
      if e > maxExponent then
        if t.value ≠ 0 && !negative then none else some none
      else some (some (if negative then start - e else start + e))
  match exponent? with
  | none => none
  | some none => some (signed l.negative (Double.zero false))
  | some (some k) =>
    let bounded := max (-(Nat.pow 2 31 : Int)) (min k (Nat.pow 2 31 - 1))
    (scaleByTen (k.natAbs / 308 + 2) base bounded).map (signed l.negative)

/-- A literal of digits only is a whole number while it fits into 64 bits; any other is a
double. Minus zero is a double. -/
def Literal.value (l : Literal) : Document :=
  let n := digitsValue l.whole
  let whole := l.fraction.isNone && l.exponent.isNone
  if whole && !l.negative && n ≤ maxSignificand then .integer n
  else if whole && l.negative && 0 < n && n ≤ Nat.pow 2 63 then .integer (-n)
  else
    match l.double? with
    | some d => .number d
    | none => .unreadable

/-- The first token of a text that does not start with a blank. -/
def scanToken : List Char → Option (Token × List Char)
  | '[' :: rest => some (.openList, rest)
  | ']' :: rest => some (.closeList, rest)
  | '{' :: rest => some (.openRecord, rest)
  | '}' :: rest => some (.closeRecord, rest)
  | ',' :: rest => some (.comma, rest)
  | ':' :: rest => some (.colon, rest)
  | '"' :: rest => (scanString rest ⟨"", none, true⟩).map fun (s, rest) => (.string s, rest)
  | 't' :: 'r' :: 'u' :: 'e' :: rest => some (.scalar (.flag true), rest)
  | 'f' :: 'a' :: 'l' :: 's' :: 'e' :: rest => some (.scalar (.flag false), rest)
  | 'n' :: 'u' :: 'l' :: 'l' :: rest => some (.scalar .null, rest)
  | cs => (scanNumber cs).map fun (l, rest) => (.scalar l.value, rest)

/-- All tokens of a text. Every token takes at least one character, so the length of the text
bounds their number. -/
def tokens? : Nat → List Char → List Token → Option (List Token)
  | 0, cs, done => if cs.all isBlank then some done.reverse else none
  | fuel + 1, cs, done =>
    match cs.dropWhile isBlank with
    | [] => some done.reverse
    | cs =>
      match scanToken cs with
      | some (t, rest) => tokens? fuel rest (t :: done)
      | none => none

/-- An open list or record with what it holds so far, last first. -/
inductive Frame where
  | list (before : List Document)
  /-- `key` is the name of the member being read, `none` if unreadable; `readable` tells whether
  all names so far are. -/
  | record (before : List (String × Document)) (key : Option String) (readable : Bool)

/-- What the grammar wants next. -/
inductive Expected where
  | value
  | valueOrClose
  | key
  | keyOrClose
  | colon
  | commaOrClose
  | nothing

/-- How far a text has been read. -/
structure State where
  expected : Expected
  stack : List Frame
  result : Document

/-- A record in which some name is unreadable cannot be read as a whole. -/
def closed (members : List (String × Document)) (readable : Bool) : Document :=
  if readable then .record members.reverse else .unreadable

/-- Hands a finished value to the innermost open list or record. -/
def State.give (d : Document) : List Frame → State
  | [] => ⟨.nothing, [], d⟩
  | .list before :: rest => ⟨.commaOrClose, .list (d :: before) :: rest, .null⟩
  | .record before (some key) readable :: rest =>
    ⟨.commaOrClose, .record ((key, d) :: before) none readable :: rest, .null⟩
  | .record before none _ :: rest => ⟨.commaOrClose, .record before none false :: rest, .null⟩

/-- Takes a token, if the grammar wants one of its sort. -/
def State.step (s : State) (t : Token) : Option State :=
  match s.expected, t, s.stack with
  | .value, .openList, stack | .valueOrClose, .openList, stack =>
    some ⟨.valueOrClose, .list [] :: stack, .null⟩
  | .value, .openRecord, stack | .valueOrClose, .openRecord, stack =>
    some ⟨.keyOrClose, .record [] none true :: stack, .null⟩
  | .value, .string text, stack | .valueOrClose, .string text, stack =>
    some (.give ((text.map Document.text).getD .unreadable) stack)
  | .value, .scalar d, stack | .valueOrClose, .scalar d, stack => some (.give d stack)
  | .valueOrClose, .closeList, .list before :: stack
  | .commaOrClose, .closeList, .list before :: stack => some (.give (.list before.reverse) stack)
  | .commaOrClose, .comma, .list before :: stack => some ⟨.value, .list before :: stack, .null⟩
  | .key, .string text, .record before _ readable :: stack
  | .keyOrClose, .string text, .record before _ readable :: stack =>
    some ⟨.colon, .record before text readable :: stack, .null⟩
  | .colon, .colon, stack => some ⟨.value, stack, .null⟩
  | .keyOrClose, .closeRecord, .record before _ readable :: stack
  | .commaOrClose, .closeRecord, .record before _ readable :: stack =>
    some (.give (closed before readable) stack)
  | .commaOrClose, .comma, .record before key readable :: stack =>
    some ⟨.key, .record before key readable :: stack, .null⟩
  | _, _, _ => none

def State.steps (s : State) : List Token → Option State
  | [] => some s
  | t :: rest => (s.step t).bind (·.steps rest)

def document? (ts : List Token) : Option Document := do
  let s ← State.steps ⟨.value, [], .null⟩ ts
  match s.expected with
  | .nothing => return s.result
  | _ => none

/-- Reads a JSON text: one value, with nothing but blanks around it. -/
def read? (text : String) : Option Document := do
  let cs := text.toList
  document? (← tokens? cs.length cs [])

end ClusterConf.Json
