import ClusterConf.Yaml.Folding
set_option autoImplicit false

/-!
The short tokens that begin with a mark of their own: anchors, aliases, tags and directives.
-/
namespace ClusterConf.Yaml.Mark

def name? (c : Cursor) : Option (String × Cursor) :=
  let (name, next) := c.span isNameChar
  let ended := atWordEnd next.rest || next.rest.head?.any fun d => "?:,]\x7d%@`".toList.contains d
  if name.isEmpty || !ended then none else some (String.ofList name, next)

/-- The number of octets in the form of a character that begins with an octet. -/
def octetCount? (first : Nat) : Option Nat :=
  if first < 0x80 then some 1
  else if first / 32 == 6 then some 2
  else if first / 16 == 14 then some 3
  else if first / 8 == 30 then some 4
  else none

/-- Reads the characters of a tag. Escaped octets have to come in the groups of whole characters;
each stands for itself here. -/
def tagChars (inFull : Bool) (text : List Char) (pending : Nat) (pos : Position) :
    List Char → Option (List Char × Cursor)
  | '%' :: a :: b :: rest => do
    let octet := 16 * (← Quoted.hexDigit? a) + (← Quoted.hexDigit? b)
    let pending ← match pending with
      | 0 => (octetCount? octet).map (· - 1)
      | n + 1 => if octet / 64 == 2 then some n else none
    tagChars inFull (Char.ofNat octet :: text) pending (pos.plus 3) rest
  | '%' :: _ => none
  | c :: rest =>
    if pending != 0 then none
    else if isTagChar c || (inFull && (c == ',' || c == '[' || c == ']')) then
      tagChars inFull (c :: text) 0 (pos.plus 1) rest
    else some (text.reverse, ⟨c :: rest, pos⟩)
  | [] => if pending == 0 then some (text.reverse, ⟨[], pos⟩) else none

def tagText (inFull : Bool) (c : Cursor) : Option (List Char × Cursor) :=
  tagChars inFull [] 0 c.pos c.rest

/-- What counts of the characters of a tag: those in front of the first zero octet. -/
def upToZero (text : List Char) : List Char := text.takeWhile (· != '\x00')

/-- Reads an exclamation mark, a name, and perhaps another exclamation mark. -/
def handle? (c : Cursor) : Option (List Char × Cursor) :=
  if c.rest.head? != some '!' then none
  else
    let (name, next) := (c.drop 1).span isNameChar
    if next.rest.head? == some '!' then some ('!' :: name ++ ['!'], next.drop 1)
    else some ('!' :: name, next)

/-- Reads a tag from its exclamation mark on: in full between angle brackets, behind a named
handle, or behind the exclamation mark alone. -/
def tag? (inFlow : Bool) (c : Cursor) : Option (Token × Cursor) := do
  let (handle, rest, next) ←
    if (c.rest.drop 1).head? == some '<' then do
      let (rest, next) ← tagText true (c.drop 2)
      if rest.isEmpty || next.rest.head? != some '>' then none
      else some ([], upToZero rest, next.drop 1)
    else do
      let (handle, next) ← handle? c
      if 1 < handle.length && handle.getLast? == some '!' then
        let (rest, next) ← tagText false next
        if rest.isEmpty then none else some (handle, upToZero rest, next)
      else
        let (rest, next) ← tagText false next
        match handle.drop 1 ++ upToZero rest with
        | [] => some ([], ['!'], next)
        | rest => some (['!'], rest, next)
  if atWordEnd next.rest || (inFlow && next.rest.head? == some ',') then
    return (.tag (String.ofList handle) (String.ofList rest), next)
  else none

/-- Reads at most nine digits. -/
def versionNumber? (c : Cursor) : Option (Nat × Cursor) :=
  let (digits, next) := c.span fun d => '0' ≤ d && d ≤ '9'
  if digits.isEmpty || 9 < digits.length then none
  else some (digits.foldl (fun n d => 10 * n + (d.toNat - '0'.toNat)) 0, next)

/-- Reads a line that begins with a percent sign. -/
def directive? (c : Cursor) : Option (Token × Cursor) := do
  let (name, next) := (c.drop 1).span isNameChar
  if !atWordEnd next.rest then none
  let next := next.dropWhile isBlank
  let (token, next) ← match String.ofList name with
    | "YAML" => do
      let (major, next) ← versionNumber? next
      if next.rest.head? != some '.' then none
      let (minor, next) ← versionNumber? (next.drop 1)
      some (Token.versionDirective major minor, next)
    | "TAG" => do
      let (handle, next) ← handle? next
      if 1 < handle.length && handle.getLast? != some '!' then none
      if !next.rest.head?.any isBlank then none
      let (start, next) ← tagText true (next.dropWhile isBlank)
      if start.isEmpty || !atWordEnd next.rest then none
      some (.tagDirective (String.ofList handle) (String.ofList (upToZero start)), next)
    | _ => none
  return (token, ← next.endLine?)

end ClusterConf.Yaml.Mark
