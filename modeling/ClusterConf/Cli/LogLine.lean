import ClusterConf.Document
import ClusterConf.Json.Writer
import ClusterConf.Log
import ClusterConf.Text.Quoted
set_option autoImplicit false

/-!
The lines in which log events are shown: as text, perhaps with colours, or as JSON.
-/
namespace ClusterConf

/-- The colour of a level, as the number of a terminal. -/
def Level.color : Level → Nat
  | trace => 35
  | debug => 34
  | info => 32
  | warn => 33
  | error => 31

inductive LogStyle where
  | plain
  | colored
  | json
  deriving DecidableEq, Inhabited

/-- The style that is wanted: no colours where a variable with a text forbids them. -/
def LogStyle.wanted (json : Bool) (never : Option String) : LogStyle :=
  if json then .json else if never.all (·.isEmpty) then .colored else .plain

namespace Event

def painted (style : Nat) (text : String) : String := s!"\x1b[{style}m" ++ text ++ "\x1b[0m"

/-- The characters that a terminal would take for a command are written as escapes in messages. -/
def harmless (c : Char) : String :=
  match c with
  | '\x1b' => "\\x1b"
  | '\x07' => "\\x07"
  | '\x08' => "\\x08"
  | '\x0c' => "\\x0c"
  | '\x7f' => "\\x7f"
  | c => if 0x80 ≤ c.toNat && c.toNat ≤ 0x9f then Text.codePoint c else String.singleton c

/-- The line of an event at a time, as text; `paint` puts a text into a style. -/
def textLine (paint : Nat → String → String) (e : Event) (time : String) : String :=
  let fields := e.fields.map fun (name, value) =>
    " " ++ paint 3 name ++ paint 2 "=" ++ Text.quoted value
  let level := "".pushn ' ' (5 - e.level.name.length) ++ e.level.name
  let message := String.join (e.message.toList.map harmless)
  paint 2 time ++ " " ++ paint e.level.color level ++ " " ++ message ++ String.join fields

def jsonLine (e : Event) (time : String) : String :=
  let fields := ("message", e.message) :: e.fields
  Json.compact (.record [("timestamp", .text time), ("level", .text e.level.name),
    ("fields", .record (fields.map fun (name, value) => (name, .text value)))])

def line (e : Event) (style : LogStyle) (time : String) : String :=
  match style with
  | .plain => e.textLine (fun _ text => text) time
  | .colored => e.textLine painted time
  | .json => e.jsonLine time

end Event
end ClusterConf
