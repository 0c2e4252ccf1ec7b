import ClusterConf.Yaml.Token
set_option autoImplicit false

/-!
YAML documents as trees. Anchored nodes bear a number, and an alias stands for the node of its
number; where two nodes bear the same number the later one counts.
-/
namespace ClusterConf.Yaml

inductive Node where
  | scalar (anchor : Option Nat) (tag : Option String) (style : ScalarStyle) (text : String)
  | list (anchor : Option Nat) (items : List Node)
  | record (anchor : Option Nat) (members : List (Node × Node))
  | alias (number : Nat)
  deriving Inhabited

namespace Node

/-- A plain scalar without text: what is left out. -/
def blank : Node := .scalar none none .plain ""

mutual

/-- The number of marks that make up a tree: one for a scalar or an alias, and for a list or a
mapping one at either end and those inside. -/
def size : Node → Nat
  | .scalar .. | .alias _ => 1
  | .list _ items => 2 + itemsSize items
  | .record _ members => 2 + membersSize members

def itemsSize : List Node → Nat
  | [] => 0
  | n :: rest => n.size + itemsSize rest

def membersSize : List (Node × Node) → Nat
  | [] => 0
  | (k, v) :: rest => k.size + v.size + membersSize rest

end

def noteAs (anchor : Option Nat) (n : Node) (found : List (Nat × Node)) : List (Nat × Node) :=
  match anchor with
  | some number => (number, n) :: found
  | none => found

mutual

/-- The anchored nodes of a tree and those found before it, last first. -/
def anchored (found : List (Nat × Node)) : Node → List (Nat × Node)
  | .alias _ => found
  | n@(.scalar anchor _ _ _) => noteAs anchor n found
  | n@(.list anchor items) => anchoredItems (noteAs anchor n found) items
  | n@(.record anchor members) => anchoredMembers (noteAs anchor n found) members

def anchoredItems (found : List (Nat × Node)) : List Node → List (Nat × Node)
  | [] => found
  | n :: rest => anchoredItems (anchored found n) rest

def anchoredMembers (found : List (Nat × Node)) : List (Node × Node) → List (Nat × Node)
  | [] => found
  | (k, v) :: rest => anchoredMembers (anchored (anchored found k) v) rest

end

end Node
end ClusterConf.Yaml
