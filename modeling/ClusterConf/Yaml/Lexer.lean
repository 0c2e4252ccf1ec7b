import ClusterConf.Yaml.Block
import ClusterConf.Yaml.Mark
set_option autoImplicit false

/-!
YAML texts as token lists. Two things reach across tokens. Block structure is read off the columns:
a token further left than the open blocks ends them. And what looks like any other token is a key of
a mapping if a colon follows it on the same line; its place is remembered until that is known.
-/
namespace ClusterConf.Yaml

/-- The place of a token that may turn out to begin a key. -/
structure PossibleKey where
  /-- The number of tokens in front of it. -/
  number : Nat
  pos : Position
  /-- Whether nothing but a key can stand there. -/
  required : Bool

/-- How far a text has been read, and what decides on the next token. -/
structure Lexer where
  cursor : Cursor
  /-- Last first. -/
  tokens : List Token := []
  /-- The length of `tokens`. -/
  count : Nat := 0
  /-- Columns of the open blocks, innermost first. -/
  indents : List Nat := []
  keyAllowed : Bool := true
  /-- The possible key outside all brackets, or inside the innermost ones. -/
  possible : Option PossibleKey := none
  /-- The possible keys around the open brackets, innermost first. -/
  around : List (Option PossibleKey) := []

namespace Lexer

def rest (l : Lexer) : List Char := l.cursor.rest

def column (l : Lexer) : Nat := l.cursor.pos.column

def inFlow (l : Lexer) : Bool := !l.around.isEmpty

/-- The column of the innermost open block. -/
def indent? (l : Lexer) : Option Nat := l.indents.head?

def emit (l : Lexer) (t : Token) : Lexer := { l with tokens := t :: l.tokens, count := l.count + 1 }

def insert (l : Lexer) (number : Nat) (t : Token) : Lexer :=
  let later := l.count - number
  { l with
    tokens := l.tokens.take later ++ t :: l.tokens.drop later
    count := l.count + 1 }

def closeBlocks (l : Lexer) (n : Nat) : Lexer :=
  { l with
    tokens := List.replicate n .blockEnd ++ l.tokens
    count := l.count + n
    indents := l.indents.drop n }

/-- Closes the blocks that begin to the right of the present column. -/
def closeToColumn (l : Lexer) : Lexer :=
  if l.inFlow then l else l.closeBlocks (l.indents.takeWhile (l.column < ·)).length

/-- Closes all blocks, unless brackets or braces are open. -/
def closeAll (l : Lexer) : Lexer := if l.inFlow then l else l.closeBlocks l.indents.length

/-- Opens a block at a column to the right of all open ones, with the token of its start in front of
the token of a number. -/
def openBlock (l : Lexer) (column number : Nat) (start : Token) : Lexer :=
  if l.inFlow || l.indents.head?.any (column ≤ ·) then l
  else { l.insert number start with indents := column :: l.indents }

def dropKey (l : Lexer) : Option Lexer :=
  if l.possible.any (·.required) then none else some { l with possible := none }

/-- Remembers that the next token may begin a key. -/
def saveKey (l : Lexer) : Option Lexer :=
  if l.keyAllowed then do
    let l ← l.dropKey
    let required := !l.inFlow && l.indent? == some l.column
    return { l with possible := some ⟨l.count, l.cursor.pos, required⟩ }
  else some l

/-- A key and the colon behind it are on one line and less than 1025 octets apart. -/
def isStale (l : Lexer) (k : PossibleKey) : Bool :=
  k.pos.line < l.cursor.pos.line || k.pos.index + 1024 < l.cursor.pos.index

/-- Forgets a possible key that is too far away. -/
def refresh (l : Lexer) (k : Option PossibleKey) : Option (Option PossibleKey) :=
  match k with
  | some key => if l.isStale key then (if key.required then none else some none) else some k
  | none => some none

def dropStaleKeys (l : Lexer) : Option Lexer := do
  return { l with possible := ← l.refresh l.possible, around := ← l.around.mapM l.refresh }

def skip (l : Lexer) (n : Nat) : Lexer := { l with cursor := l.cursor.drop n }

/-- Passes over blanks, comments and line ends in front of a token. Tabs may not stand where a key
may begin, except inside brackets; in a block, a key may begin on every new line. A byte order mark
counts as a blank at the start of a line. -/
def gap (inFlow keyAllowed inComment : Bool) (pos : Position) : List Char → Cursor × Bool
  | [] => (⟨[], pos⟩, keyAllowed)
  | '\r' :: '\n' :: rest => gap inFlow (keyAllowed || !inFlow) false (pos.newLine 2) rest
  | c :: rest =>
    if isBreak c then gap inFlow (keyAllowed || !inFlow) false (pos.pastBreak c) rest
    else if inComment || c == '#' then gap inFlow keyAllowed true (pos.past c) rest
    else if c == ' ' || (c == '\t' && (inFlow || !keyAllowed)) ||
        (c == byteOrderMark && pos.column == 0) then
      gap inFlow keyAllowed false (pos.past c) rest
    else (⟨c :: rest, pos⟩, keyAllowed)

/-- Passes over what may stand in front of a token. -/
def skipGap (l : Lexer) : Lexer :=
  let (cursor, keyAllowed) := gap l.inFlow l.keyAllowed false l.cursor.pos l.rest
  { l with cursor, keyAllowed }

/-- A token that ends all blocks. -/
def topLevel (l : Lexer) (t : Token) (next : Cursor) : Option Lexer := do
  let l ← l.closeAll.dropKey
  return { l.emit t with cursor := next, keyAllowed := false }

def openFlow (l : Lexer) (t : Token) : Option Lexer := do
  let l ← l.saveKey
  let l := { l with around := l.possible :: l.around, possible := none, keyAllowed := true }
  return (l.skip 1).emit t

def closeFlow (l : Lexer) (t : Token) : Option Lexer := do
  let l ← l.dropKey
  let l := match l.around with
    | outer :: around => { l with possible := outer, around }
    | [] => l
  return ({ l with keyAllowed := false }.skip 1).emit t

def flowEntry (l : Lexer) : Option Lexer := do
  return ({ ← l.dropKey with keyAllowed := true }.skip 1).emit .flowEntry

/-- In a block, entries and keys begin where a simple key could. -/
def startBlock (l : Lexer) (start : Token) : Option Lexer :=
  if l.inFlow then some l
  else if l.keyAllowed then some (l.openBlock l.column l.count start)
  else none

def blockEntry (l : Lexer) : Option Lexer := do
  let l ← (← l.startBlock .blockSequenceStart).dropKey
  return ({ l with keyAllowed := true }.skip 1).emit .blockEntry

def key (l : Lexer) : Option Lexer := do
  let l ← (← l.startBlock .blockMappingStart).dropKey
  return ({ l with keyAllowed := !l.inFlow }.skip 1).emit .key

/-- A colon: what was a possible key is one now. -/
def value (l : Lexer) : Option Lexer := do
  let l ← match l.possible with
    | some k =>
      let l := (l.insert k.number .key).openBlock k.pos.column k.number .blockMappingStart
      some { l with possible := none, keyAllowed := false }
    | none => do
      let l ← l.startBlock .blockMappingStart
      some { l with keyAllowed := !l.inFlow }
  return (l.skip 1).emit .value

/-- A token that may begin a key and ends on its line. -/
def keyed (l : Lexer) (read : Lexer → Option (Token × Cursor)) : Option Lexer := do
  let l ← l.saveKey
  let (t, cursor) ← read l
  return { l.emit t with cursor, keyAllowed := false }

def named (l : Lexer) (mark : String → Token) : Option Lexer :=
  l.keyed fun l => (Mark.name? (l.cursor.drop 1)).map fun (name, next) => (mark name, next)

/-- A scalar that may begin a key. If it runs over lines, a key may begin behind it. -/
def flowScalar (l : Lexer) (style : ScalarStyle) (read : Lexer → Option Scanned) :
    Option Lexer := do
  let l ← l.saveKey
  let s ← read l
  return { l.emit (.scalar style s.text) with cursor := s.next, keyAllowed := s.leftLine }

def blockScalar (l : Lexer) (folded : Bool) : Option Lexer := do
  let l ← l.dropKey
  let s ← Block.scan folded l.indent? (l.cursor.drop 1)
  let style := if folded then .folded else .literal
  return { l.emit (.scalar style s.text) with cursor := s.next, keyAllowed := true }

def quoted (l : Lexer) (style : ScalarStyle)
    (scan : Folding → Position → List Char → Option Scanned) : Option Lexer :=
  l.flowScalar style fun l => scan {} (l.cursor.pos.plus 1) (l.rest.drop 1)

/-- A plain scalar, whose further lines stand to the right of the block around it. -/
def plain (l : Lexer) : Option Lexer :=
  l.flowScalar .plain fun l =>
    let indent := match l.indent? with
      | some column => column + 1
      | none => 0
    Plain.scan l.inFlow indent {} l.cursor.pos l.rest

/-- Whether a plain scalar may begin with a character. -/
def beginsPlain (inFlow : Bool) (c : Char) (rest : List Char) : Bool :=
  !(isBlank c || isBreak c || "-?:,[]\x7b\x7d#&*!|>'\"%@`".toList.contains c) ||
    (c == '-' && !rest.head?.any isBlank) ||
    (!inFlow && (c == '?' || c == ':') && !atWordEnd rest)

def token (l : Lexer) (c : Char) (behind : List Char) : Option Lexer :=
  let ends := l.inFlow || atWordEnd behind
  if l.column == 0 && c == '%' then do
    let (t, next) ← Mark.directive? l.cursor
    l.topLevel t next
  else if l.column == 0 && atDocumentMark l.rest then
    l.topLevel (if c == '-' then .documentStart else .documentEnd) (l.cursor.drop 3)
  else if c == '[' then l.openFlow .flowSequenceStart
  else if c == '{' then l.openFlow .flowMappingStart
  else if c == ']' then l.closeFlow .flowSequenceEnd
  else if c == '}' then l.closeFlow .flowMappingEnd
  else if c == ',' then l.flowEntry
  else if c == '-' && atWordEnd behind then l.blockEntry
  else if c == '?' && ends then l.key
  else if c == ':' && ends then l.value
  else if c == '*' then l.named .alias
  else if c == '&' then l.named .anchor
  else if c == '!' then l.keyed fun l => Mark.tag? l.inFlow l.cursor
  else if c == '|' && !l.inFlow then l.blockScalar false
  else if c == '>' && !l.inFlow then l.blockScalar true
  else if c == '\'' then l.quoted .singleQuoted Quoted.scanSingle
  else if c == '"' then l.quoted .doubleQuoted Quoted.scanDouble
  else if beginsPlain l.inFlow c behind then l.plain
  else none

/-- Ends the stream, which ends its last line. -/
def finish (l : Lexer) : Option (List Token) := do
  let l ← l.closeAll.dropKey
  return (Token.streamEnd :: l.tokens).reverse

/-- Reads all tokens. Every token takes at least one character, so that there are no more steps
than characters and one. -/
def run : Nat → Lexer → Option (List Token)
  | 0, _ => none
  | fuel + 1, l => do
    let l := (← l.skipGap.dropStaleKeys).closeToColumn
    match l.rest with
    | [] => l.finish
    | c :: behind => run fuel (← l.token c behind)

end Lexer

/-- The tokens of a text; characters that may not stand in a text are an error. -/
def Token.scan? (text : String) : Option (List Token) :=
  let chars := text.toList
  if chars.all isAllowed then Lexer.run (chars.length + 1) { cursor := .ofText chars } else none

end ClusterConf.Yaml
