import ClusterConf.Yaml.Character
import ClusterConf.Yaml.Token
set_option autoImplicit false

/-!
The texts of scalars that may run over several lines: plain scalars and quoted ones. Where a line
ends inside such a scalar, the blanks around the end are dropped and the end itself becomes a space;
empty lines in between become line feeds instead.
-/
namespace ClusterConf.Yaml

/-- What stands between two lines of a scalar: the end of the first one, unless that is escaped,
and the ends of empty lines. -/
structure LineGap where
  first : Option Char
  /-- Last first. -/
  more : List Char := []

namespace LineGap

/-- The text that a gap stands for, last character first. -/
def folded (gap : LineGap) : List Char :=
  match gap.first, gap.more with
  | some '\n', [] => [' ']
  | some '\n', more => more
  | first, more => more ++ first.toList

end LineGap

structure Folding where
  /-- Last character first. -/
  text : List Char := []
  /-- Blanks behind the text on the same line, last first. -/
  blanks : List Char := []
  /-- Line ends behind the text. -/
  gap : Option LineGap := none

namespace Folding

/-- The text with what is behind it, which is not at the end. -/
def joined (f : Folding) : List Char :=
  match f.gap with
  | some gap => gap.folded ++ f.text
  | none => f.blanks ++ f.text

/-- Takes what is behind the text into it. -/
def join (f : Folding) : Folding := { text := f.joined }

/-- Takes a character other than a blank. -/
def push (f : Folding) (c : Char) : Folding := { text := c :: f.joined }

/-- Blanks count only if no line end is in front of them. -/
def pushBlank (f : Folding) (c : Char) : Folding :=
  if f.gap.isSome then f else { f with blanks := c :: f.blanks }

def pushBreak (f : Folding) (c : Char) : Folding :=
  match f.gap with
  | none => { f with blanks := [], gap := some { first := some (lineEnd c) } }
  | some gap => { f with gap := some { gap with more := lineEnd c :: gap.more } }

/-- Joins lines at a line end that says nothing. -/
def pushEscapedBreak (f : Folding) : Folding := { text := f.joined, gap := some { first := none } }

end Folding

structure Scanned where
  text : String
  next : Cursor
  /-- Whether the line of the text's end was left behind. -/
  leftLine : Bool := false

/-- A text that is given last character first. -/
def textOf (reversed : List Char) : String := String.ofList reversed.reverse

namespace Plain

/-- Whether the scalar ends in front of a text that begins a word. -/
def endsAtWord (inFlow : Bool) (indent : Nat) (f : Folding) (pos : Position) (rest : List Char) :
    Bool :=
  (f.gap.isSome && !inFlow && pos.column < indent) ||
    (pos.column == 0 && atDocumentMark rest) || rest.head? == some '#'

/-- Whether a character ends a scalar inside brackets. -/
def isFlowEnd (c : Char) : Bool := c == ',' || c == '[' || c == ']' || c == '{' || c == '}'

/--
Reads a plain scalar. It ends at a colon at the end of a word, at a comment, at a line of less than
`indent` columns, at a document mark, and inside brackets at a bracket or a comma. Tabs may not
stand in the indentation, and inside brackets no colon in front of a bracket, a comma or a question
mark.
-/
def scan (inFlow : Bool) (indent : Nat) (f : Folding) (pos : Position) :
    List Char → Option Scanned
  | [] => some (finish [])
  | '\r' :: '\n' :: rest => scan inFlow indent (f.pushBreak '\n') (pos.newLine 2) rest
  | c :: rest =>
    if isBreak c then scan inFlow indent (f.pushBreak c) (pos.pastBreak c) rest
    else if isBlank c then
      if f.gap.isSome && pos.column < indent && c == '\t' then none
      else scan inFlow indent (f.pushBlank c) (pos.past c) rest
    else if (f.gap.isSome || !f.blanks.isEmpty) && endsAtWord inFlow indent f pos (c :: rest) then
      some (finish (c :: rest))
    else if inFlow && c == ':' && rest.head?.any (fun d => isFlowEnd d || d == '?') then none
    else if (c == ':' && atWordEnd rest) || (inFlow && isFlowEnd c) then some (finish (c :: rest))
    else scan inFlow indent (f.push c) (pos.past c) rest
where
  finish (rest : List Char) : Scanned := ⟨textOf f.text, ⟨rest, pos⟩, f.gap.isSome⟩

end Plain

namespace Quoted

/-- Reads a scalar behind its opening single quote; a quote inside is written twice. -/
def scanSingle (f : Folding) (pos : Position) : List Char → Option Scanned
  | [] => none
  | '\r' :: '\n' :: rest => scanSingle (f.pushBreak '\n') (pos.newLine 2) rest
  | '\'' :: '\'' :: rest =>
    scanSingle (f.push '\'') (pos.plus 2) rest
  | c :: rest =>
    if isBreak c then scanSingle (f.pushBreak c) (pos.pastBreak c) rest
    else if isBlank c then scanSingle (f.pushBlank c) (pos.past c) rest
    else if pos.column == 0 && atDocumentMark (c :: rest) then none
    else if c == '\'' then some ⟨textOf f.joined, ⟨rest, pos.plus 1⟩, false⟩
    else scanSingle (f.push c) (pos.past c) rest

def escape? : Char → Option Char
  | '0' => some '\x00'
  | 'a' => some '\x07'
  | 'b' => some '\x08'
  | 't' | '\t' => some '\t'
  | 'n' => some '\n'
  | 'v' => some '\x0b'
  | 'f' => some '\x0c'
  | 'r' => some '\r'
  | 'e' => some '\x1b'
  | ' ' => some ' '
  | '"' => some '"'
  | '/' => some '/'
  | '\\' => some '\\'
  | 'N' => some '\u0085'
  | '_' => some '\u00a0'
  | 'L' => some '\u2028'
  | 'P' => some '\u2029'
  | _ => none

def hexDigit? (c : Char) : Option Nat :=
  if '0' ≤ c && c ≤ '9' then some (c.toNat - '0'.toNat)
  else if 'a' ≤ c && c ≤ 'f' then some (c.toNat - 'a'.toNat + 10)
  else if 'A' ≤ c && c ≤ 'F' then some (c.toNat - 'A'.toNat + 10)
  else none

def codePoint? (digits : List Char) : Option Char := do
  let n ← digits.foldlM (fun n c => do return 16 * n + (← hexDigit? c)) 0
  if h : n.isValidChar then return Char.ofNatAux n h else none

def scanDouble (f : Folding) (pos : Position) : List Char → Option Scanned
  | [] => none
  | '\r' :: '\n' :: rest => scanDouble (f.pushBreak '\n') (pos.newLine 2) rest
  | '\\' :: '\r' :: '\n' :: rest => scanDouble f.pushEscapedBreak ((pos.plus 1).newLine 2) rest
  | '\\' :: 'x' :: a :: b :: rest => do
    scanDouble (f.push (← codePoint? [a, b])) (pos.plus 4) rest
  | '\\' :: 'u' :: a :: b :: c :: d :: rest => do
    scanDouble (f.push (← codePoint? [a, b, c, d])) (pos.plus 6) rest
  | '\\' :: 'U' :: a :: b :: c :: d :: e :: g :: h :: i :: rest => do
    scanDouble (f.push (← codePoint? [a, b, c, d, e, g, h, i])) (pos.plus 10) rest
  | '\\' :: c :: rest =>
    if isBreak c then scanDouble f.pushEscapedBreak ((pos.plus 1).pastBreak c) rest
    else do scanDouble (f.push (← escape? c)) (pos.plus 2) rest
  | c :: rest =>
    if isBreak c then scanDouble (f.pushBreak c) (pos.pastBreak c) rest
    else if isBlank c then scanDouble (f.pushBlank c) (pos.past c) rest
    else if pos.column == 0 && atDocumentMark (c :: rest) then none
    else if c == '"' then some ⟨textOf f.joined, ⟨rest, pos.plus 1⟩, false⟩
    else scanDouble (f.push c) (pos.past c) rest

end Quoted
end ClusterConf.Yaml
