import ClusterConf.Error
import ClusterConf.Log
import ClusterConf.Program
import ClusterConf.Time
set_option autoImplicit false

/-!
The machine a command runs on, as the interface of the commands: files, clock, environment, names
and terminal.
-/
namespace ClusterConf

/-- What a command can ask of its machine. -/
inductive MachineCall where
  | pathExists (path : String)
  | readFile (path : String)
  | createDirectories (path : String)
  /-- Makes an empty file or empties the one that is there. -/
  | createFile (path : String)
  | appendFile (path text : String)
  /-- Waits until a file is on the disk. -/
  | syncFile (path : String)
  | rename (source target : String)
  | removeFile (path : String)
  | now
  /-- A name that was never given before. -/
  | freshId
  | hostName
  | processId
  | getVariable (name : String)
  | setVariable (name value : String)
  | readLine
  | print (text : String)
  | pause (milliseconds : Nat)
  | note (event : Event)

namespace MachineCall

/-- What a call is answered with; file operations tell whether they succeeded. -/
abbrev Answer : MachineCall → Type
  | pathExists _ => Bool
  | readFile _ => Option ByteArray
  | createDirectories _ => Bool
  | createFile _ => Bool
  | appendFile _ _ => Bool
  | syncFile _ => Bool
  | rename _ _ => Bool
  | removeFile _ => Bool
  | now => Timestamp
  | freshId => String
  | hostName => String
  | processId => UInt32
  | getVariable _ => Option String
  | setVariable _ _ => Unit
  | readLine => Option String
  | print _ => Unit
  | pause _ => Unit
  | note _ => Unit

end MachineCall

abbrev Machine : Interface := ⟨MachineCall, MachineCall.Answer⟩

/-- Programs that run on a machine. -/
abbrev Session := Program Machine

namespace Session

def call (c : MachineCall) : Session c.Answer := .ask c .done

def note (event : Event) : Session Unit := call (.note event)

/-- The text of a file, if it can be read and is text. -/
def readText? (path : String) : Session (Option String) := do
  match ← call (.readFile path) with
  | some content => return String.fromUTF8? content
  | none => return none

end Session

/-- Sessions that may fail. -/
abbrev Attempt (α : Type) := ExceptT Error Session α

namespace Attempt

def ask (c : MachineCall) : Attempt c.Answer := (Session.call c : Session _)

def log (event : Event) : Attempt Unit := (Session.note event : Session Unit)

end Attempt
end ClusterConf
