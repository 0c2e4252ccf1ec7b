set_option autoImplicit false

/-!
The characters of YAML texts, and positions among them.
-/
namespace ClusterConf.Yaml

/-- Characters that end a line. A carriage return and a line feed in a row end one line. -/
def isBreak (c : Char) : Bool :=
  c == '\n' || c == '\r' || c == '\u0085' || c == '\u2028' || c == '\u2029'

def isBlank (c : Char) : Bool := c == ' ' || c == '\t'

/-- Whether a word may end in front of a text. -/
def atWordEnd : List Char → Bool
  | [] => true
  | c :: _ => isBlank c || isBreak c

/-- The character that a line end counts as inside a scalar. -/
def lineEnd (c : Char) : Char := if c == '\u2028' || c == '\u2029' then c else '\n'

/-- Characters of anchors, handles and directive names. -/
def isNameChar (c : Char) : Bool := c.isAlphanum || c == '_' || c == '-'

/-- Characters of tags; a percent sign begins an escape. -/
def isTagChar (c : Char) : Bool := isNameChar c || ";/?:@&=+$.!~*'()%".toList.contains c

/-- May stand at the start of a line and means nothing there. -/
def byteOrderMark : Char := '\ufeff'

/-- Characters that may stand in a text at all. -/
def isAllowed (c : Char) : Bool :=
  let n := c.toNat
  n == 9 || n == 10 || n == 13 || (0x20 ≤ n && n ≤ 0x7e) || n == 0x85 ||
    (0xa0 ≤ n && n ≤ 0xfffd) || 0x10000 ≤ n

def isPrintable (c : Char) : Bool :=
  let n := c.toNat
  n == 10 || (0x20 ≤ n && n ≤ 0x7e) || (0xa0 ≤ n && n ≤ 0xfffd && c != byteOrderMark) ||
    0x10000 ≤ n

/-- Whether a line begins with the mark of the start or the end of a document. -/
def atDocumentMark : List Char → Bool
  | '-' :: '-' :: '-' :: rest => atWordEnd rest
  | '.' :: '.' :: '.' :: rest => atWordEnd rest
  | _ => false

/-- A position in a text. Line and column count from zero. -/
structure Position where
  /-- The number of octets in front of it. -/
  index : Nat := 0
  line : Nat := 0
  column : Nat := 0

namespace Position

def past (p : Position) (c : Char) : Position :=
  { p with index := p.index + c.utf8Size, column := p.column + 1 }

/-- The position `n` characters of one octet each further on the same line. -/
def plus (p : Position) (n : Nat) : Position :=
  { p with index := p.index + n, column := p.column + n }

/-- The start of the next line, behind a line end of `n` octets. -/
def newLine (p : Position) (n : Nat) : Position := ⟨p.index + n, p.line + 1, 0⟩

/-- The start of the next line, behind the character that ends this one. -/
def pastBreak (p : Position) (c : Char) : Position := p.newLine c.utf8Size

end Position

/-- What is left of a text, and where that begins. -/
structure Cursor where
  rest : List Char
  pos : Position

namespace Cursor

def ofText (text : List Char) : Cursor := ⟨text, {}⟩

def drop (c : Cursor) (n : Nat) : Cursor :=
  ⟨c.rest.drop n, (c.rest.take n).foldl Position.past c.pos⟩

/-- Splits off the longest start of which every character is in a class without line ends. -/
def span (p : Char → Bool) (c : Cursor) : List Char × Cursor :=
  let taken := c.rest.takeWhile p
  (taken, c.drop taken.length)

def dropWhile (p : Char → Bool) (c : Cursor) : Cursor := (c.span p).2

def dropBreak (c : Cursor) : Cursor :=
  match c.rest with
  | '\r' :: '\n' :: rest => ⟨rest, c.pos.newLine 2⟩
  | b :: rest => if isBreak b then ⟨rest, c.pos.pastBreak b⟩ else c
  | [] => c

/-- Passes over the blanks and the comment that may end a line, and the line end; nothing else may
stand there. -/
def endLine? (c : Cursor) : Option Cursor :=
  let c := c.dropWhile isBlank
  let c := if c.rest.head? == some '#' then c.dropWhile (!isBreak ·) else c
  match c.rest with
  | [] => some c
  | b :: _ => if isBreak b then some c.dropBreak else none

end Cursor
end ClusterConf.Yaml
