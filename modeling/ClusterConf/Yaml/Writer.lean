import ClusterConf.Yaml.Style
set_option autoImplicit false

/-!
Nodes as YAML texts in block style, two columns a step. Anchors and tags are not written.
-/
namespace ClusterConf.Yaml

/-- The columns by which a block stands to the right of the one around it. -/
def step : Nat := 2

def pad (n : Nat) : List Char := List.replicate n ' '

namespace Text

/-- The text with every line but those without characters moved to a column. -/
def indented (n : Nat) (atStart : Bool) : List Char → List Char
  | [] => []
  | c :: rest =>
    if isBreak c then c :: indented n true rest
    else (if atStart then pad n else []) ++ c :: indented n false rest

/-- The header of a literal block tells the indentation if a reader cannot see it, and what becomes
of the line ends behind the last line. -/
def literalHeader (cs : List Char) : List Char :=
  let hint := if cs.head?.any (fun c => c == ' ' || isBreak c) then ['2'] else []
  let chomping :=
    match cs.reverse with
    | [] => ['-']
    | [last] => if isBreak last then ['+'] else ['-']
    | last :: before :: _ =>
      if !isBreak last then ['-'] else if isBreak before then ['+'] else []
  '|' :: hint ++ chomping

/-- A literal block with its lines at a column. -/
def writeLiteral (n : Nat) (cs : List Char) : List Char :=
  literalHeader cs ++ '\n' :: indented n true cs

def doubled : List Char → List Char
  | [] => []
  | '\'' :: rest => '\'' :: '\'' :: doubled rest
  | c :: rest => c :: doubled rest

/-- A line end inside is followed by indentation, which a reader drops. -/
def writeSingleQuoted (n : Nat) (cs : List Char) : List Char :=
  '\'' :: indented n false (doubled cs) ++
    (if cs.getLast?.any isBreak then pad n else []) ++ ['\'']

def hex (digits n : Nat) : List Char :=
  let shown := (Nat.toDigits 16 n).map Char.toUpper
  List.replicate (digits - shown.length) '0' ++ shown

def escaped (c : Char) : List Char :=
  match c with
  | '\x00' => ['\\', '0']
  | '\x07' => ['\\', 'a']
  | '\x08' => ['\\', 'b']
  | '\t' => ['\\', 't']
  | '\n' => ['\\', 'n']
  | '\x0b' => ['\\', 'v']
  | '\x0c' => ['\\', 'f']
  | '\r' => ['\\', 'r']
  | '\x1b' => ['\\', 'e']
  | '"' => ['\\', '"']
  | '\\' => ['\\', '\\']
  | '\u0085' => ['\\', 'N']
  | '\u2028' => ['\\', 'L']
  | '\u2029' => ['\\', 'P']
  | c =>
    if !isPrintable c then
      if c.toNat ≤ 0xff then '\\' :: 'x' :: hex 2 c.toNat
      else if c.toNat ≤ 0xffff then '\\' :: 'u' :: hex 4 c.toNat
      else '\\' :: 'U' :: hex 8 c.toNat
    else [c]

def writeDoubleQuoted (cs : List Char) : List Char := '"' :: cs.flatMap escaped ++ ['"']

/-- A text as a scalar in a style; further lines of it begin at column `n`. -/
def write (n : Nat) (style : ScalarStyle) (text : String) : List Char :=
  let cs := text.toList
  match style with
  | .plain => cs
  | .singleQuoted => writeSingleQuoted n cs
  | .doubleQuoted => writeDoubleQuoted cs
  | .literal | .folded => writeLiteral n cs

end Text

def endLine (cs : List Char) : List Char :=
  if cs.getLast?.any isBreak then cs else cs ++ ['\n']

namespace Node

/-- Whether a node can be written in front of a colon on the same line. -/
def isSimpleKey : Node → Bool
  | .scalar _ _ _ text => !Text.hasBreak text.toList && text.utf8ByteSize ≤ 128
  | _ => false

/-- What is written on the line of its key or dash: a scalar or an empty collection. -/
def writeLeaf (n : Nat) : Node → List Char
  | .scalar _ _ style text => Text.write n style text
  | .list _ _ => ['[', ']']
  | .record _ _ => ['\x7b', '\x7d']
  | .alias _ => []

mutual

/-- What stands behind a dash, a question mark or the colon of a key with question mark, at column
`n`. A collection begins on the same line. -/
def writeEntry (n : Nat) : Node → List Char
  | .list _ (item :: rest) =>
    ' ' :: '-' :: writeEntry (n + step) item ++ writeItems (n + step) rest
  | .record _ (member :: rest) =>
    ' ' :: writeMember (n + step) member ++ writeMembers (n + step) rest
  | leaf => ' ' :: endLine (writeLeaf (n + step) leaf)

def writeItems (n : Nat) : List Node → List Char
  | [] => []
  | item :: rest => pad n ++ '-' :: writeEntry n item ++ writeItems n rest

/-- A member at column `n`. A list in it begins at the same column. -/
def writeMember (n : Nat) : Node × Node → List Char
  | (key, v) =>
    if key.isSimpleKey then writeLeaf (n + step) key ++ ':' :: writeValue n v
    else '?' :: writeEntry n key ++ pad n ++ ':' :: writeEntry n v

/-- What stands behind the colon of a key at column `n`. -/
def writeValue (n : Nat) : Node → List Char
  | .list _ (item :: rest) => '\n' :: pad n ++ '-' :: writeEntry n item ++ writeItems n rest
  | .record _ (member :: rest) =>
    '\n' :: pad (n + step) ++ writeMember (n + step) member ++ writeMembers (n + step) rest
  | leaf => ' ' :: endLine (writeLeaf (n + step) leaf)

def writeMembers (n : Nat) : List (Node × Node) → List Char
  | [] => []
  | member :: rest => pad n ++ writeMember n member ++ writeMembers n rest

end

def write (root : Node) : String :=
  String.ofList <| match root with
    | .list _ (item :: rest) => writeItems 0 (item :: rest)
    | .record _ (m :: rest) => writeMembers 0 (m :: rest)
    | leaf => endLine (writeLeaf step leaf)

end Node
end ClusterConf.Yaml
