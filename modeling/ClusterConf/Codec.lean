import ClusterConf.Document
import ClusterConf.Table
set_option autoImplicit false

/-!
Typed values in documents. A `Codec` reads a value from the tree of any text format and writes it
as a document; codecs of records are built from their fields. What a format counts as text, number
or list is told by its `Source`.
-/
namespace ClusterConf

/-- A reading of typed values, which may fail. It may follow only so many references within the
document; the state is the number of those that are left. -/
abbrev Reading (α : Type) := StateT Nat Option α

def Reading.step : Reading Unit
  | 0 => none
  | n + 1 => some ((), n)

/-- How a tree of type `ν` is looked at. A tree that is no more than a reference is followed first.
Each view answers `none` for a tree of another sort. -/
structure Source (ν : Type) where
  /-- The tree that a reference stands for; any other tree stands for itself. -/
  follow : ν → Reading ν
  text? : ν → Option String
  integer? : ν → Option Int
  /-- A whole number that is written without a minus sign. -/
  natural? : ν → Option Nat
  number? : ν → Option Double
  flag? : ν → Option Bool
  /-- Whether the value of an optional field is left open. -/
  unset? : ν → Option Bool
  items? : ν → Option (List ν)
  members? : ν → Option (List (ν × ν))
  /-- The fields of a record given by position instead of by name. -/
  positions? : ν → Option (List ν)

namespace Source

def readText {ν : Type} (src : Source ν) (v : ν) : Reading String := do
  src.text? (← src.follow v)

def readMembers {ν : Type} (src : Source ν) (v : ν) : Reading (List (String × ν)) := do
  (← src.members? (← src.follow v)).mapM fun (key, value) => return (← src.readText key, value)

end Source

/-- Documents themselves. Where a number is wanted a whole number will do, and a record may be
given as the list of its fields. -/
def Document.source : Source Document where
  follow := pure
  text? | .text s => some s | _ => none
  integer? | .integer i => some i | _ => none
  natural? | .integer (.ofNat n) => some n | _ => none
  number? | .number d => some d | .integer i => some (Double.ofInt i) | _ => none
  flag? | .flag b => some b | _ => none
  unset? | .null => some true | _ => some false
  items? | .list items => some items | _ => none
  members? | .record members => some (members.map fun (name, d) => (.text name, d)) | _ => none
  positions? | .list items => some items | _ => none

/-- A way to read and to write the values of a type. -/
structure Codec (α : Type) where
  read : {ν : Type} → Source ν → ν → Reading α
  write : α → Document
  /-- Whether a sparse record leaves the value out. -/
  isUnset : α → Bool

/-- A named part of a record. -/
structure Field (ρ : Type) where
  {Value : Type}
  name : String
  codec : Codec Value
  get : ρ → Value
  set : ρ → Value → ρ
  /-- Left out of written records while unset. -/
  sparse : Bool

/-- The fields of a record type, in the order in which they are written. -/
structure Layout (ρ : Type) where
  fields : List (Field ρ)
  /-- The record in which no field is given. -/
  blank : ρ
  /-- Whether every field has to be given. -/
  strict : Bool

namespace Layout

variable {ρ ν : Type}

def field? (layout : Layout ρ) (name : String) : Option (Field ρ) :=
  layout.fields.find? (·.name == name)

def assign (src : Source ν) (f : Field ρ) (v : ν) (r : ρ) : Reading ρ := do
  return f.set r (← f.codec.read src v)

/-- Reads members in order. Unknown ones are skipped, and no field may be given twice. Answers the
names that were given, too. -/
def readMembers (layout : Layout ρ) (src : Source ν) :
    List (String × ν) → List String → ρ → Reading (List String × ρ)
  | [], given, r => return (given, r)
  | (name, v) :: rest, given, r =>
    match layout.field? name with
    | none => readMembers layout src rest given r
    | some f =>
      if given.contains name then failure
      else do readMembers layout src rest (name :: given) (← assign src f v r)

/-- Reads the fields in their order; later ones may be missing. -/
def readPositions (src : Source ν) (strict : Bool) : List (Field ρ) → List ν → ρ → Reading ρ
  | [], [], r => return r
  | [], _ :: _, _ => failure
  | _ :: _, [], r => if strict then failure else return r
  | f :: fields, v :: rest, r => do
    readPositions src strict fields rest (← assign src f v r)

/-- Reads a record, from named members or by position. A strict layout wants all its fields. -/
def read (layout : Layout ρ) (src : Source ν) (v : ν) : Reading ρ :=
  match src.positions? v with
  | some items => readPositions src layout.strict layout.fields items layout.blank
  | none => do
    let members ← src.readMembers v
    let (given, r) ← layout.readMembers src members [] layout.blank
    if layout.strict && given.length != layout.fields.length then failure else return r

/-- Writes a record with its fields in order. -/
def write (layout : Layout ρ) (r : ρ) : Document :=
  .record (layout.fields.filterMap fun f =>
    let v := f.get r
    if f.sparse && f.codec.isUnset v then none else some (f.name, f.codec.write v))

end Layout

namespace Codec

def text : Codec String where
  read src v := src.readText v
  write := .text
  isUnset s := s.isEmpty

def flag : Codec Bool where
  read src v := do src.flag? (← src.follow v)
  write := .flag
  isUnset _ := false

def number : Codec Double where
  read src v := do src.number? (← src.follow v)
  write := .number
  isUnset _ := false

/-- Whole numbers between the bounds of a machine word. -/
def int64 : Codec Int64 where
  read src v := do
    let i ← src.integer? (← src.follow v)
    if -(Nat.pow 2 63 : Int) ≤ i && i < Nat.pow 2 63 then return Int64.ofInt i else failure
  write i := .integer i.toInt
  isUnset _ := false

def word16 : Codec UInt16 where
  read src v := do
    let n ← src.natural? (← src.follow v)
    if n < Nat.pow 2 16 then return UInt16.ofNat n else failure
  write n := .integer n.toNat
  isUnset _ := false

def word32 : Codec UInt32 where
  read src v := do
    let n ← src.natural? (← src.follow v)
    if n < Nat.pow 2 32 then return UInt32.ofNat n else failure
  write n := .integer n.toNat
  isUnset _ := false

/-- A value that may be left open. -/
def optional {α : Type} (c : Codec α) : Codec (Option α) where
  read src v := do
    let v ← src.follow v
    if ← src.unset? v then return none else return some (← c.read src v)
  write
    | none => .null
    | some a => c.write a
  isUnset a := a.isNone

def list {α : Type} (c : Codec α) : Codec (List α) where
  read src v := do (← src.items? (← src.follow v)).mapM (c.read src)
  write items := .list (items.map c.write)
  isUnset items := items.isEmpty

/-- Values by name; of several under one name the last counts. -/
def table {α : Type} (c : Codec α) : Codec (Table α) where
  read src v := do
    let entries ← (← src.readMembers v).mapM fun (name, v) => return (name, ← c.read src v)
    return Table.ofList entries
  write t := .record (t.entries.map fun (name, a) => (name, c.write a))
  isUnset t := t.entries.isEmpty

def record {ρ : Type} (layout : Layout ρ) : Codec ρ where
  read src v := layout.read src v
  write := layout.write
  isUnset _ := false

/-- Reads a value from a whole document, in which at most `limit` references are followed. -/
def read? {α ν : Type} (c : Codec α) (src : Source ν) (limit : Nat) (v : ν) : Option α :=
  (c.read src v).run' limit

end Codec

namespace Field

variable {ρ α : Type}

/-- A field that is always written. -/
def of (codec : Codec α) (name : String) (get : ρ → α) (set : ρ → α → ρ) : Field ρ :=
  ⟨name, codec, get, set, false⟩

/-- A field that is left out of written records while unset. -/
def sparseOf (codec : Codec α) (name : String) (get : ρ → α) (set : ρ → α → ρ) : Field ρ :=
  ⟨name, codec, get, set, true⟩

abbrev text : String → (ρ → String) → (ρ → String → ρ) → Field ρ := of .text

abbrev texts : String → (ρ → List String) → (ρ → List String → ρ) → Field ρ := of (.list .text)

abbrev integer : String → (ρ → Int64) → (ρ → Int64 → ρ) → Field ρ := of .int64

abbrev flag : String → (ρ → Bool) → (ρ → Bool → ρ) → Field ρ := of .flag

/-- A text that may be left open. -/
abbrev override : String → (ρ → Option String) → (ρ → Option String → ρ) → Field ρ :=
  sparseOf (.optional .text)

/-- A list of texts that is left out while empty. -/
abbrev overrides : String → (ρ → List String) → (ρ → List String → ρ) → Field ρ :=
  sparseOf (.list .text)

end Field
end ClusterConf
