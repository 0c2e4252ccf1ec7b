import ClusterConf.Document
import ClusterConf.Number.Shortest
import ClusterConf.Yaml.Character
import ClusterConf.Yaml.Node
import ClusterConf.Yaml.Scalar
set_option autoImplicit false

/-!
Documents as nodes: every value becomes a scalar in a style that keeps it what it is. A text is
plain where it reads back as that text; otherwise it is quoted, and one of several lines is a
literal block where that can hold it.
-/
namespace ClusterConf.Yaml

namespace Text

/-- Whether two neighbours in a text are of two classes. -/
def hasPair (p q : Char → Bool) : List Char → Bool
  | a :: b :: rest => (p a && q b) || hasPair p q (b :: rest)
  | _ => false

/-- Whether some character cannot be written as it is. -/
def isSpecial (cs : List Char) : Bool := cs.any (!isPrintable ·)

def hasBreak (cs : List Char) : Bool := cs.any isBreak

def endsInSpace (cs : List Char) : Bool := cs.getLast? == some ' '

/-- Whether the first characters would make something else of a plain scalar. -/
def isMarkedAtStart : List Char → Bool
  | '-' :: '-' :: '-' :: _ => true
  | '.' :: '.' :: '.' :: _ => true
  | c :: rest =>
    "#,[]\x7b\x7d&*!|>'\"%@`".toList.contains c ||
      ((c == '?' || c == ':' || c == '-') && atWordEnd rest)
  | [] => false

/-- Whether a later colon or number sign would end a plain scalar. -/
def isMarkedInside : List Char → Bool
  | before :: c :: rest =>
    (c == ':' && atWordEnd rest) || (c == '#' && (isBlank before || isBreak before)) ||
      isMarkedInside (c :: rest)
  | _ => false

def fitsPlain (cs : List Char) : Bool :=
  !(isSpecial cs || hasBreak cs || cs.head? == some ' ' || endsInSpace cs || isMarkedAtStart cs ||
    isMarkedInside cs)

/-- Spaces beside line ends would be lost. -/
def fitsSingleQuoted (cs : List Char) : Bool :=
  !(isSpecial cs || hasPair isBreak (· == ' ') cs || hasPair (· == ' ') isBreak cs)

/-- Whether a text can be written as a literal block. -/
def fitsLiteral (cs : List Char) : Bool :=
  !(isSpecial cs || hasPair (· == ' ') isBreak cs || endsInSpace cs)

/-- Whether a plain scalar with this text would be read as no text by some reader. -/
def isMistakable (text : String) : Bool :=
  text.isEmpty || Scalar.isNull text || (Scalar.flag? text).isSome ||
    (Scalar.integer? text).any (fun i => -(Nat.pow 2 127 : Int) ≤ i && i < Nat.pow 2 128) ||
    (Scalar.number? text).isSome || Scalar.isPaddedDigits text

def style (text : String) : ScalarStyle :=
  let cs := text.toList
  if cs.contains '\n' then (if fitsLiteral cs then .literal else .doubleQuoted)
  else if fitsPlain cs && !isMistakable text then .plain
  else if fitsSingleQuoted cs then .singleQuoted
  else .doubleQuoted

end Text

/-- Powers of ten have no plus sign. -/
def doubleStyle : Double.Style := ⟨""⟩

/-- A double as the text of a plain scalar. -/
def writeNumber (d : Double) : String :=
  if d.isNaN then ".nan"
  else if d.isInfinite then (if d.isNegative then "-.inf" else ".inf")
  else Double.write doubleStyle d

namespace Node

def plain (text : String) : Node := .scalar none none .plain text

def ofText (text : String) : Node := .scalar none none (Text.style text) text

mutual

def ofDocument : Document → Node
  | .null | .unreadable => plain "null"
  | .flag b => plain (if b then "true" else "false")
  | .integer i => plain (toString i)
  | .number d => plain (writeNumber d)
  | .text s => ofText s
  | .list items => .list none (ofItems items)
  | .record members => .record none (ofMembers members)

def ofItems : List Document → List Node
  | [] => []
  | d :: rest => ofDocument d :: ofItems rest

def ofMembers : List (String × Document) → List (Node × Node)
  | [] => []
  | (key, d) :: rest => (ofText key, ofDocument d) :: ofMembers rest

end

end Node
end ClusterConf.Yaml
