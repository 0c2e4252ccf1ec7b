import ClusterConf.Log
import ClusterConf.Text.Blank
import ClusterConf.Text.Letter
import ClusterConf.Text.Pattern
set_option autoImplicit false

/-!
Which log events are shown. Rules choose events by the part of the program that writes them and by
the values they bear, and give the least level that is shown; of the rules that are about an event
the most specific one decides.
-/
namespace ClusterConf

/-- The number that digits spell; a plus sign may stand in front. -/
def Level.numberOf? (word : String) : Option Nat :=
  let digits := match word.toList with
    | '+' :: rest => rest
    | cs => cs
  if digits.isEmpty || !digits.all Char.isDigit then none
  else some (digits.foldl (fun n c => 10 * n + (c.toNat - '0'.toNat)) 0)

/-- The least level that a word or a number lets through; the outer `none` is no level at all, the
inner one lets nothing through. -/
def Level.ofWord? (word : String) : Option (Option Level) :=
  match word.toLower, Level.numberOf? word with
  | "off", _ | _, some 0 => some none
  | "error", _ | _, some 1 => some (some .error)
  | "warn", _ | _, some 2 => some (some .warn)
  | "info", _ | _, some 3 => some (some .info)
  | "debug", _ | _, some 4 => some (some .debug)
  | "trace", _ | _, some 5 => some (some .trace)
  | _, _ => none

/-- What is shown of some events. -/
structure LogRule where
  /-- How the names of their parts begin; without it they come from any part. -/
  part : Option String := none
  /-- The name of a value that they bear. -/
  field : Option String := none
  /-- The least level that is shown; without it nothing is. -/
  least : Option Level
  deriving DecidableEq

namespace LogRule

def slice? (text : String) (start stop : Nat) : Option String :=
  String.fromUTF8? (text.toUTF8.extract start stop)

def octets (cs : List Char) : Nat := (String.ofList cs).utf8ByteSize

/-- Whether a rule may begin with a character, unless it begins with a bracket. -/
def beginsWord (c : Char) : Bool := c == '-' || c == ':' || c == '_' || Text.isLetterOrDigit c

/-- Reads the level behind an equals sign; all is shown if it is left out. -/
def level? (word : String) : Option (Option Level) :=
  if word.isEmpty then some (some .trace) else Level.ofWord? word

/-- Whether a value may stand behind an equals sign: a number or a pattern. -/
def isValue (text : String) : Bool :=
  (Level.numberOf? text).isSome || Text.Pattern.isPattern text

/-- Reads what may follow the brackets of a rule, from a position on: a level behind an equals
sign. -/
def behindBrackets? (text : String) (pos : Nat) : List Char → Option (Option Level)
  | [] => some (some .trace)
  | '=' :: _ => do level? (← slice? text (pos + 1) text.utf8ByteSize)
  | _ => none

/-- Reads a rule from behind its opening bracket on: the name of a span, a value in braces, or both.
A rule for spans of a name, or for a value that is given, is about no event: the inner `none`. -/
def bracketed? (text : String) (part : Option String) (pos : Nat) (cs : List Char) :
    Option (Option LogRule) := do
  let name := cs.takeWhile fun c => c != ']' && c != '\x7b'
  let stop := pos + octets name
  match cs.drop name.length with
  | ']' :: rest =>
    let _ ← behindBrackets? text (stop + 1) rest
    return none
  | '\x7b' :: inner =>
    let spanned := !(← slice? text pos stop).isEmpty
    let value := inner.takeWhile (· != '\x7d')
    let field ← slice? text (stop + 1) (stop + 1 + octets value)
    match inner.drop value.length with
    | '\x7d' :: ']' :: rest =>
      let least ← behindBrackets? text (stop + 1 + octets value + 2) rest
      match field.splitOn "=" with
      | [name] =>
        if name.isEmpty then failure
        else if spanned then return none
        else return some { part, field := name, least }
      | _ :: value :: _ => if isValue value then return none else failure
      | [] => failure
    | _ => failure
  | _ => failure

/-- Reads a rule: a level for everything, the start of the names of parts of which all is shown, or
such a start and a level; in between, a span or a value may stand in brackets. The marks are looked
for behind the blanks in front, but the parts of the rule are cut at their distances from the start
of the whole text. -/
def ofText? (text : String) : Option (Option LogRule) := do
  let cs := Text.trim text.toList
  match cs with
  | '[' :: rest => bracketed? text none 1 rest
  | c :: _ =>
    if !beginsWord c then failure
    let word := cs.takeWhile fun c => c != '=' && c != '['
    let stop := octets word
    match cs.drop word.length with
    | '=' :: _ =>
      let part ← slice? text 0 stop
      let least ← level? (← slice? text (stop + 1) text.utf8ByteSize)
      return some { part, least }
    | '[' :: rest => bracketed? text (← slice? text 0 stop) (stop + 1) rest
    | _ =>
      match Level.ofWord? text with
      | some least => return some { least }
      | none => return some { part := text, least := some .trace }
  | [] => failure

def ofTexts? (text : String) : Option (List (Option LogRule)) :=
  ((text.splitOn ",").filter (!·.isEmpty)).mapM ofText?

/-- The rules that hold: those that are set in the environment, if they can be read, and one that
hangs on the verbosity otherwise. If none is given, errors are shown. -/
def inForce (set : Option String) (verbose : Bool) : List LogRule :=
  match set.bind ofTexts? with
  | some [] => [{ least := some .error }]
  | some rules => rules.filterMap id
  | none => [{ least := some (if verbose then .debug else .info) }]

def isAbout (r : LogRule) (e : Event) : Bool :=
  r.part.all (e.part.name.startsWith ·) &&
    r.field.all fun name => name == "message" || e.fields.any (·.1 == name)

/-- How specific a rule is: first by its part, then by its value. -/
def reach (r : LogRule) : Nat × String := (r.part.elim 0 (·.utf8ByteSize + 1), r.field.getD "")

/-- Of two rules, a later one counts unless the earlier is more specific. -/
def moreSpecific (found : Option LogRule) (r : LogRule) : Option LogRule :=
  match found with
  | none => some r
  | some f =>
    let (a, b) := (f.reach, r.reach)
    if b.1 < a.1 || (a.1 == b.1 && b.2 < a.2) then some f else some r

end LogRule

/-- Whether some rules show an event: the most specific one that is about it decides. -/
def Event.isShown (e : Event) (rules : List LogRule) : Bool :=
  let deciding := (rules.filter (·.isAbout e)).foldl LogRule.moreSpecific none
  (deciding.bind (·.least)).any fun l => l.rank ≤ e.level.rank

end ClusterConf
