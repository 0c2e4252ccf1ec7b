import ClusterConf.Cluster.Snapshot
set_option autoImplicit false

/-!
Differences between two versions of one collection, its records matched by key.
-/
namespace ClusterConf

/-- Why the records of a collection cannot be told apart by key. -/
inductive KeyError where
  | emptyKey (field : Option String)
  | duplicateKey (key : String)
  deriving DecidableEq

def KeyError.message : KeyError → String
  | .emptyKey field => "record with empty " ++ field.getD "value"
  | .duplicateKey key => "key '" ++ key ++ "' appears more than once"

/-- What was added, modified and removed between an old and a new list. -/
structure Difference (α : Type) where
  added : List α
  modified : List α
  removed : List α

namespace Difference

variable {α : Type} [Keyed α]

def isEmpty (d : Difference α) : Bool := d.added.isEmpty && d.modified.isEmpty && d.removed.isEmpty

def changeCount (d : Difference α) : Nat := d.added.length + d.modified.length + d.removed.length

def hasKey (k : String) (xs : List α) : Bool := xs.any fun x => Keyed.key x == k

/-- The first item whose key is empty or was met before decides the error. -/
def checkKeys : List α → List String → Except KeyError Unit
  | [], _ => .ok ()
  | x :: rest, seen =>
    let k := Keyed.key x
    if k = "" then .error (.emptyKey (Keyed.keyField α))
    else if seen.contains k then .error (.duplicateKey k)
    else checkKeys rest (k :: seen)

/-- Whether the old list holds another version of a record. -/
def isModified [BEq α] (old : List α) (x : α) : Bool :=
  match old.find? fun y => Keyed.key y == Keyed.key x with
  | some y => !(y == x)
  | none => false

/-- How far a comparison of two lists has come. -/
structure Progress (α : Type) where
  /-- The old records that no new one was matched with yet. -/
  unmatched : List α
  added : List α
  modified : List α

/-- The next new record is matched with the old one of its key, which is used up by that. -/
def visit [BEq α] (p : Progress α) (x : α) : Progress α :=
  match Keyed.removeFirst? (Keyed.key x) p.unmatched with
  | some (y, unmatched) =>
    if y == x then { p with unmatched } else { p with unmatched, modified := p.modified ++ [x] }
  | none => { p with added := p.added ++ [x] }

/--
The differences from `old` to `new`, each list in the order of the list it is taken from. The keys
of each list have to be distinct and not empty; the old list is checked first. Old records that no
new one was matched with are gone.
-/
def between [BEq α] (old new : List α) : Except KeyError (Difference α) := do
  checkKeys old []
  checkKeys new []
  let p := new.foldl visit ⟨old, [], []⟩
  return {
    added := p.added
    modified := p.modified
    removed := old.filter fun x => hasKey (Keyed.key x) p.unmatched }

end Difference
end ClusterConf
