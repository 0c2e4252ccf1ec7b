import ClusterConf.Yaml.Folding
set_option autoImplicit false

/-!
Block scalars: literal ones keep their lines, folded ones join lines that begin with no blank. The
indentation of the first line with text is that of all, unless the header gives it.
-/
namespace ClusterConf.Yaml.Block

/-- What becomes of the line ends behind the last line. -/
inductive Chomping where
  | strip
  | clip
  | keep
  deriving DecidableEq

/-- What follows the indicator of a block scalar. -/
structure Header where
  chomping : Chomping
  /-- Given indentation, relative to that of the block around. -/
  increment : Option Nat

def chomping? : Char → Option Chomping
  | '+' => some .keep
  | '-' => some .strip
  | _ => none

def increment? (c : Char) : Option Nat :=
  if '0' ≤ c && c ≤ '9' then some (c.toNat - '0'.toNat) else none

/-- Reads a header: a chomping mark and a digit other than zero, in any order, both optional. -/
def header? (c : Cursor) : Option (Header × Cursor) := do
  let first := c.rest.head?
  let second := (c.rest.drop 1).head?
  let (h, n) : Header × Nat :=
    match first.bind chomping?, first.bind increment? with
    | some chomping, _ =>
      match second.bind increment? with
      | some digit => (⟨chomping, some digit⟩, 2)
      | none => (⟨chomping, none⟩, 1)
    | none, some digit =>
      match second.bind chomping? with
      | some chomping => (⟨chomping, some digit⟩, 2)
      | none => (⟨.clip, some digit⟩, 1)
    | none, none => (⟨.clip, none⟩, 0)
  if h.increment == some 0 then none
  else return (h, ← (c.drop n).endLine?)

/-- The line ends in front of the first line with text, last first, and the indentation of that
line, which is never less than `least`. -/
def leadingLines (least : Nat) (breaks : List Char) (deepest : Nat) (pos : Position) :
    List Char → Option (Nat × List Char × Cursor)
  | '\r' :: '\n' :: rest => leadingLines least ('\n' :: breaks) deepest (pos.newLine 2) rest
  | ' ' :: rest => leadingLines least breaks (max deepest (pos.column + 1)) (pos.plus 1) rest
  | '\t' :: _ => none
  | c :: rest =>
    if isBreak c then leadingLines least (lineEnd c :: breaks) deepest (pos.pastBreak c) rest
    else some (max deepest least, breaks, ⟨c :: rest, pos⟩)
  | [] => some (max deepest least, breaks, ⟨[], pos⟩)

structure Body where
  /-- Last character first. -/
  text : List Char := []
  /-- The end of the last line with text. -/
  lineBreak : List Char := []
  /-- Line ends behind that, last first. -/
  trailing : List Char := []
  /-- Whether the last line with text began with a blank. -/
  ledByBlank : Bool := false
  inLine : Bool := false

namespace Body

/-- Begins a line with text. A single line end between two lines of a folded scalar that begin with
no blank is a space, and of several the first is dropped. -/
def beginLine (folded : Bool) (b : Body) (c : Char) : Body :=
  let between :=
    if folded && b.lineBreak == ['\n'] && !b.ledByBlank && !isBlank c then
      if b.trailing.isEmpty then [' '] else b.trailing
    else b.trailing ++ b.lineBreak
  { text := c :: (between ++ b.text), ledByBlank := isBlank c, inLine := true }

def pushBreak (b : Body) (c : Char) : Body :=
  if b.inLine then { b with lineBreak := [lineEnd c], inLine := false }
  else { b with trailing := lineEnd c :: b.trailing }

/-- The text at the end of the scalar, last character first. -/
def chomped (b : Body) : Chomping → List Char
  | .strip => b.text
  | .clip => b.lineBreak ++ b.text
  | .keep => b.trailing ++ b.lineBreak ++ b.text

end Body

/-- Reads lines of at least `indent` columns; a tab may not stand in front of that column. -/
def lines (folded : Bool) (chomping : Chomping) (indent : Nat) (b : Body) (pos : Position) :
    List Char → Option Scanned
  | [] => some (finish [])
  | '\r' :: '\n' :: rest => lines folded chomping indent (b.pushBreak '\n') (pos.newLine 2) rest
  | c :: rest =>
    if isBreak c then lines folded chomping indent (b.pushBreak c) (pos.pastBreak c) rest
    else if b.inLine then
      lines folded chomping indent { b with text := c :: b.text } (pos.past c) rest
    else if pos.column < indent then
      if c == ' ' then lines folded chomping indent b (pos.plus 1) rest
      else if c == '\t' then none
      else some (finish (c :: rest))
    else lines folded chomping indent (b.beginLine folded c) (pos.past c) rest
where
  finish (rest : List Char) : Scanned := ⟨textOf (b.chomped chomping), ⟨rest, pos⟩, true⟩

/-- Reads a block scalar behind its indicator; `outer` is the indentation of the block around. -/
def scan (folded : Bool) (outer : Option Nat) (c : Cursor) : Option Scanned := do
  let (h, c) ← header? c
  match h.increment with
  | some n => lines folded h.chomping (outer.getD 0 + n) {} c.pos c.rest
  | none =>
    let least := match outer with
      | some column => column + 1
      | none => 1
    let (indent, breaks, c) ← leadingLines least [] 0 c.pos c.rest
    lines folded h.chomping indent { trailing := breaks } c.pos c.rest

end ClusterConf.Yaml.Block
