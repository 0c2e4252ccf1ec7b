import ClusterConf.Document
import ClusterConf.Number.Shortest
set_option autoImplicit false

/-!
Writing JSON, on one line or indented by two blanks. Numbers that are not finite have no JSON form
and are written `null`.
-/
namespace ClusterConf.Json

/-- Doubles in JSON: the sign of a positive exponent is written. -/
def doubleStyle : Double.Style := ⟨"+"⟩

def hexDigit (n : Nat) : Char := (Nat.digitChar n)

/-- Quotes, backslashes and control characters are escaped; everything else stands for itself. -/
def escapeChar (c : Char) : String :=
  if c = '"' then "\\\""
  else if c = '\\' then "\\\\"
  else if c = '\x08' then "\\b"
  else if c = '\x0c' then "\\f"
  else if c = '\n' then "\\n"
  else if c = '\r' then "\\r"
  else if c = '\t' then "\\t"
  else if c < ' ' then
    "\\u00" ++ String.ofList [hexDigit (c.toNat / 16), hexDigit (c.toNat % 16)]
  else String.singleton c

def quote (s : String) : String :=
  s.foldl (fun out c => out ++ escapeChar c) "\"" ++ "\""

def writeDouble (d : Double) : String :=
  if d.isFinite then d.write doubleStyle else "null"

/-- The text of a document without children. -/
def writeScalar : Document → String
  | .flag b => if b then "true" else "false"
  | .integer i => toString i
  | .number d => writeDouble d
  | .text s => quote s
  | _ => "null"

mutual

/-- The document on one line, without blanks, added to `out`. -/
def compactOnto (out : String) : Document → String
  | .list items => compactItems (out ++ "[") true items ++ "]"
  | .record members => compactMembers (out ++ "\x7b") true members ++ "\x7d"
  | d => out ++ writeScalar d

def compactItems (out : String) (first : Bool) : List Document → String
  | [] => out
  | d :: rest => compactItems (compactOnto (if first then out else out ++ ",") d) false rest

def compactMembers (out : String) (first : Bool) : List (String × Document) → String
  | [] => out
  | (name, d) :: rest =>
    let out := (if first then out else out ++ ",") ++ quote name ++ ":"
    compactMembers (compactOnto out d) false rest

end

/-- The start of a line at a depth. -/
def newLine (depth : Nat) : String := "\n".pushn ' ' (2 * depth)

mutual

/-- The document with each item and member on a line of its own, added to `out`. -/
def prettyOnto (out : String) (depth : Nat) : Document → String
  | .list [] => out ++ "[]"
  | .list items => prettyItems (out ++ "[") (depth + 1) true items ++ newLine depth ++ "]"
  | .record [] => out ++ "\x7b\x7d"
  | .record members =>
    prettyMembers (out ++ "\x7b") (depth + 1) true members ++ newLine depth ++ "\x7d"
  | d => out ++ writeScalar d

def prettyItems (out : String) (depth : Nat) (first : Bool) : List Document → String
  | [] => out
  | d :: rest =>
    let out := (if first then out else out ++ ",") ++ newLine depth
    prettyItems (prettyOnto out depth d) depth false rest

def prettyMembers (out : String) (depth : Nat) (first : Bool) : List (String × Document) → String
  | [] => out
  | (name, d) :: rest =>
    let out := (if first then out else out ++ ",") ++ newLine depth ++ quote name ++ ": "
    prettyMembers (prettyOnto out depth d) depth false rest

end

def compact (d : Document) : String := compactOnto "" d

/-- The document on as many lines as it has items and members. -/
def pretty (d : Document) : String := prettyOnto "" 0 d

end ClusterConf.Json
