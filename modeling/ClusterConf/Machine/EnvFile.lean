import ClusterConf.Machine.Call
import ClusterConf.Text.Blank
import ClusterConf.Text.Letter
set_option autoImplicit false

/-!
Files of environment variables. Each line sets one variable, `NAME=value`; a value may be quoted,
then also over several lines, and may refer to variables by `$NAME`. Variables that are already set
keep their values.
-/
namespace ClusterConf.EnvFile

/-- Where the end of a line finds the quoting. -/
inductive LineState where
  | plain
  | blank
  | escape
  | strong
  | strongEscape
  | weak
  | weakEscape
  /-- In a comment, which starts after a number of characters. -/
  | comment (start : Nat)

/-- Follows the quoting through the characters of a line, counting them. -/
def lineState : LineState → Nat → List Char → LineState
  | s, _, [] => s
  | .comment n, _, _ => .comment n
  | s, n, c :: rest =>
    let opened : LineState :=
      if c = '\\' then .escape else if c = '"' then .weak else if c = '\'' then .strong else .plain
    let next : LineState :=
      match s with
      | .blank => if c = '#' then .comment n else opened
      | .escape => .plain
      | .plain => if Text.isBlank c && c ≠ '\n' && c ≠ '\r' then .blank else opened
      | .weak => if c = '\\' then .weakEscape else if c = '"' then .plain else .weak
      | .weakEscape => .weak
      | .strong => if c = '\\' then .strongEscape else if c = '\'' then .plain else .strong
      | .strongEscape => .strong
      | .comment m => .comment m
    lineState next (n + 1) rest

/-- A physical line with its line feed, or `none` for bytes that are no text. -/
abbrev RawLine := Option (List Char)

def rawLines (bytes : List UInt8) (current : List UInt8) : List RawLine :=
  let decode (line : List UInt8) : RawLine :=
    (String.fromUTF8? ⟨line.toArray⟩).map String.toList
  match bytes with
  | [] => if current.isEmpty then [] else [decode current.reverse]
  | b :: rest =>
    if b = 10 then decode (b :: current).reverse :: rawLines rest []
    else rawLines rest (b :: current)

/-- The line without its line feed and the carriage return before it. -/
def dropLineEnd (cs : List Char) : List Char :=
  match cs.reverse with
  | '\n' :: '\r' :: rest => rest.reverse
  | '\n' :: rest => rest.reverse
  | _ => cs

/-- A logical line: quotes that are open at the end of a line go on in the next one. `none` marks
a line that cannot be read or that stays open, after which there is nothing more; a last line that
ends in a blank stays open, too. -/
def logicalLines : LineState → List Char → List RawLine → List RawLine
  | .plain, [], [] => []
  | _, _, [] => [none]
  | _, _, none :: _ => [none]
  | s, before, some line :: rest =>
    let text := before ++ line
    if (text.dropWhile Text.isBlank).head? = some '#' then some [] :: logicalLines .plain [] rest
    else
      match lineState s 0 line with
      | .plain => some (dropLineEnd text) :: logicalLines .plain [] rest
      | .comment n => some (before ++ line.take n) :: logicalLines .plain [] rest
      | open' => logicalLines open' text rest

def isNameStart (c : Char) : Bool := c.isAlpha || c == '_'

def isNameChar (c : Char) : Bool := c.isAlphanum || c == '_' || c == '.'

/-- The values that references stand for. -/
abbrev Lookup := String → String

/-- Whether the name of a reference stands in braces. -/
inductive ReferenceMode where
  | bare
  | braced

/-- How far the value of a variable has been read. -/
inductive ValueState where
  | plain
  | strong
  | weak
  | escaped (inWeak : Bool)
  /-- After the dollar sign, in the name of a reference. -/
  | reference (mode : ReferenceMode) (name : String) (inWeak : Bool)
  /-- After the value: blanks or a comment. -/
  | ending

/-- Where a value goes on after an escape or a reference. -/
def after (inWeak : Bool) : ValueState := if inWeak then .weak else .plain

/-- Reads a value. Letters after an unquoted blank, unknown escapes and open quotes are errors. -/
def value? (lookup : Lookup) : ValueState → String → List Char → Option String
  | .plain, out, [] => some out
  | .ending, out, [] => some out
  | .escaped inWeak, out, [] => if inWeak then none else some out
  | .reference .bare name inWeak, out, [] => if inWeak then none else some (out ++ lookup name)
  | _, _, [] => none
  | .ending, out, c :: rest =>
    if c = ' ' || c = '\t' then value? lookup .ending out rest
    else if c = '#' then some out
    else none
  | .escaped inWeak, out, c :: rest =>
    if c = '\\' || c = '\'' || c = '"' || c = '$' || c = ' ' then
      value? lookup (after inWeak) (out.push c) rest
    else if c = 'n' then value? lookup (after inWeak) (out.push '\n') rest
    else none
  | .strong, out, c :: rest =>
    if c = '\'' then value? lookup .plain out rest else value? lookup .strong (out.push c) rest
  | .reference mode name inWeak, out, c :: rest =>
    if Text.isLetterOrDigit c then value? lookup (.reference mode (name.push c) inWeak) out rest
    else
      match mode with
      | .bare =>
        if c = '\x7b' && name.isEmpty then value? lookup (.reference .braced "" inWeak) out rest
        else if c = '$' then value? lookup (.reference .bare "" inWeak) (out ++ lookup name) rest
        else value? lookup (after inWeak) ((out ++ lookup name).push c) rest
      | .braced =>
        if c = '\x7d' then value? lookup (after inWeak) (out ++ lookup name) rest
        else value? lookup (.reference .braced (name.push c) inWeak) out rest
  | .weak, out, c :: rest =>
    if c = '$' then value? lookup (.reference .bare "" true) out rest
    else if c = '"' then value? lookup .plain out rest
    else if c = '\\' then value? lookup (.escaped true) out rest
    else value? lookup .weak (out.push c) rest
  | .plain, out, c :: rest =>
    if c = '$' then value? lookup (.reference .bare "" false) out rest
    else if c = '\'' then value? lookup .strong out rest
    else if c = '"' then value? lookup .weak out rest
    else if c = '\\' then value? lookup (.escaped false) out rest
    else if c = ' ' || c = '\t' then value? lookup .ending out rest
    else value? lookup .plain (out.push c) rest

/-- The characters from the first one on that is no blank. -/
def skipBlanks (cs : List Char) : List Char := cs.dropWhile Text.isBlank

def name? (cs : List Char) : Option (String × List Char) :=
  if (cs.head?.map isNameStart).getD false then
    some (String.ofList (cs.takeWhile isNameChar), cs.dropWhile isNameChar)
  else none

/-- What follows an equals sign, in front of which blanks may stand. -/
def equals? (cs : List Char) : Option (List Char) :=
  match skipBlanks cs with
  | '=' :: rest => some rest
  | _ => none

/-- The name that a line sets and what follows the equals sign. The word `export` may stand in
front of the name. -/
def assignment? (cs : List Char) : Option (String × List Char) := do
  let (name, rest) ← name? cs
  match equals? rest with
  | some rest => return (name, rest)
  | none =>
    if name = "export" then
      let (name, rest) ← name? (skipBlanks rest)
      return (name, ← equals? rest)
    else none

/-- What a line says. -/
inductive Line where
  | nothing
  | assign (name : String) (value : String)
  | malformed

def lineOf (lookup : Lookup) (cs : List Char) : Line :=
  let cs := Text.trim cs
  if cs.isEmpty || cs.head? = some '#' then .nothing
  else
    match assignment? cs with
    | none => .malformed
    | some (name, rest) =>
      let rest := skipBlanks rest
      if rest.isEmpty || rest.head? = some '#' then .assign name ""
      else
        match value? lookup .plain "" rest with
        | some value => .assign name value
        | none => .malformed

open Session

/-- The variables that a text refers to by name. -/
def references : List Char → List String
  | [] => []
  | '$' :: rest =>
    let name := match rest with
      | '\x7b' :: inner => inner.takeWhile (· ≠ '\x7d')
      | inner => inner.takeWhile Text.isLetterOrDigit
    String.ofList name :: references rest
  | _ :: rest => references rest

def askAll : List String → Session (List (String × Option String))
  | [] => return []
  | name :: rest => do
    let value ← call (.getVariable name)
    return (name, value) :: (← askAll rest)

/-- A set variable stands for its value; any other for what an earlier line gave it. -/
def lookupIn (set : List (String × Option String)) (earlier : List (String × String)) : Lookup :=
  fun name =>
    match (set.find? (·.1 == name)).bind (·.2) with
    | some value => value
    | none => ((earlier.find? (·.1 == name)).map (·.2)).getD ""

/-- Sets the variables of lines in order up to the first malformed one; tells whether all went
well. -/
def setAll : List RawLine → List (String × String) → Session Bool
  | [], _ => return true
  | none :: _, _ => return false
  | some line :: rest, earlier => do
    let set ← askAll (references line)
    match lineOf (lookupIn set earlier) line with
    | .malformed => return false
    | .nothing => setAll rest earlier
    | .assign name value =>
      if (← call (.getVariable name)).isNone then call (.setVariable name value)
      setAll rest ((name, value) :: earlier)

/-- A file may start with a byte order mark. -/
def dropByteOrderMark : List UInt8 → List UInt8
  | 0xef :: 0xbb :: 0xbf :: rest => rest
  | bytes => bytes

/-- Loads the variables of a file; tells whether all went well. -/
def load (path : String) : Session Bool := do
  match ← call (.readFile path) with
  | none => return false
  | some content =>
    let lines := rawLines (dropByteOrderMark content.toList) []
    setAll (logicalLines .plain [] lines) []

end ClusterConf.EnvFile
