import ClusterConf.Number.Double
set_option autoImplicit false

/-!
Documents: the trees of scalars, lists and records that text formats hold. Readers of text produce
them and writers print them; `Document.same` is equality of the values they stand for.
-/
namespace ClusterConf

/--
A document. Whole numbers and binary numbers are different values even when they are equal as
numbers. `unreadable` stands for a well-formed piece of text that denotes no value, such as a
number out of range: it does no harm where nobody reads it.
-/
inductive Document where
  | null
  | flag (b : Bool)
  | integer (i : Int)
  | number (d : Double)
  | text (s : String)
  | list (items : List Document)
  | record (members : List (String × Document))
  | unreadable

namespace Document

instance : Inhabited Document := ⟨.null⟩

def texts (items : List String) : Document := .list (items.map .text)

/-- The value of a member; of several members of one name the last counts. -/
def member? (name : String) : Document → Option Document
  | .record members => (members.reverse.find? (·.1 == name)).map (·.2)
  | _ => none

/-- Puts a member in its place among members sorted by name, replacing one of the same name. -/
def putMember (name : String) (value : Document) :
    List (String × Document) → List (String × Document)
  | [] => [(name, value)]
  | (n, v) :: rest =>
    if name < n then (name, value) :: (n, v) :: rest
    else if name = n then (name, value) :: rest
    else (n, v) :: putMember name value rest

mutual

/-- The document with the members of every record sorted by name, the last of each name kept. -/
def sorted : Document → Document
  | .list items => .list (sortedItems items)
  | .record members => .record (sortedMembers members [])
  | d => d

def sortedItems : List Document → List Document
  | [] => []
  | d :: rest => d.sorted :: sortedItems rest

/-- Puts members, each sorted, among those that are done. -/
def sortedMembers : List (String × Document) → List (String × Document) →
    List (String × Document)
  | [], done => done
  | (n, d) :: rest, done => sortedMembers rest (putMember n d.sorted done)

end

mutual

/-- Equality as values, members compared in order: numbers by value within their kind. -/
def beq : Document → Document → Bool
  | .null, .null => true
  | .flag a, .flag b => a == b
  | .integer a, .integer b => a == b
  | .number a, .number b => a == b
  | .text a, .text b => a == b
  | .list a, .list b => beqItems a b
  | .record a, .record b => beqMembers a b
  | _, _ => false

def beqItems : List Document → List Document → Bool
  | [], [] => true
  | a :: as, b :: bs => a.beq b && beqItems as bs
  | _, _ => false

def beqMembers : List (String × Document) → List (String × Document) → Bool
  | [], [] => true
  | (n, a) :: as, (m, b) :: bs => n == m && a.beq b && beqMembers as bs
  | _, _ => false

end

/-- Equality of the values of two documents, whatever the order of the members of a record. -/
def same (a b : Document) : Bool := a.sorted.beq b.sorted

end Document
end ClusterConf
