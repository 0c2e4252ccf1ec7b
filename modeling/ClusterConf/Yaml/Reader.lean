import ClusterConf.Codec
import ClusterConf.Yaml.Grammar
import ClusterConf.Yaml.Lexer
import ClusterConf.Yaml.Scalar
set_option autoImplicit false

/-!
Reading YAML texts, and how typed values are seen in them. Any scalar is a text. What is a number, a
truth value or open depends on the text of the scalar and is told of plain scalars only, or of
literal ones with the fitting tag.
-/
namespace ClusterConf.Yaml

/-- A node of a document, with all anchored nodes of that document. -/
structure View where
  anchored : List (Nat × Node)
  /-- How many aliases of the document may be followed. -/
  limit : Nat
  node : Node

/-- Reads a text that holds at most one document. A hundred aliases may be followed for every mark
of the document, so that small texts do not stand for huge values. -/
def read? (text : String) : Option View := do
  let root ← Grammar.stream (← Token.scan? text)
  return ⟨root.anchored [], 100 * root.size, root⟩

namespace View

def withNode (v : View) (n : Node) : View := { v with node := n }

/-- The node that is meant: aliases stand for others, which are none themselves. -/
def follow (v : View) : Reading View := do
  match v.node with
  | .alias number =>
    Reading.step
    return v.withNode (((v.anchored.find? (·.1 == number)).map (·.2)).getD .blank)
  | _ => return v

/-- The tag of one of the sorts that every reader knows. -/
def coreTag (name : String) : String := "tag:yaml.org,2002:" ++ name

/-- The text of a scalar that may be read as something of a sort. -/
def typedText? (sort : String) (v : View) : Option String :=
  match v.node with
  | .scalar _ _ .plain text => some text
  | .scalar _ (some tag) .literal text => if tag == coreTag sort then some text else none
  | _ => none

def text? (v : View) : Option String :=
  match v.node with
  | .scalar _ _ _ text => some text
  | _ => none

/-- An optional value is open if nothing or a null word is written; a scalar with the null tag has
to be such a word, and one with another tag is not open. -/
def unset? (v : View) : Option Bool :=
  match v.node with
  | .scalar _ none .plain text => some (text.isEmpty || Scalar.isNull text)
  | .scalar _ (some tag) .plain text =>
    if tag != coreTag "null" then some false
    else if Scalar.isNull text then some true
    else none
  | _ => some false

/-- A list; an empty plain scalar is an empty one. -/
def items? (v : View) : Option (List View) :=
  match v.node with
  | .list _ items => some (items.map v.withNode)
  | .scalar _ _ .plain "" => some []
  | _ => none

/-- A mapping; an empty plain scalar is an empty one. -/
def members? (v : View) : Option (List (View × View)) :=
  match v.node with
  | .record _ members => some (members.map fun (key, value) => (v.withNode key, v.withNode value))
  | .scalar _ _ .plain "" => some []
  | _ => none

def source : Source View where
  follow := follow
  text? := text?
  integer? v := (typedText? "int" v).bind Scalar.integer?
  natural? v := (typedText? "int" v).bind Scalar.natural?
  number? v := (typedText? "float" v).bind Scalar.number?
  flag? v := (typedText? "bool" v).bind Scalar.flag?
  unset? := unset?
  items? := items?
  members? := members?
  positions? _ := none

end View
end ClusterConf.Yaml
