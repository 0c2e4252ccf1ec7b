import ClusterConf.Machine.Call
import ClusterConf.Machine.FileTree
set_option autoImplicit false

/-!
A machine as a value: its files, its clock, and what was written to its terminal. Every call has its
effect on that value and nothing else.
-/
namespace ClusterConf

/-- What appears on the terminal, in order: printed text and log events. -/
inductive Output where
  | text (s : String)
  | event (e : Event)

/-- The value of a variable: what follows its name and an equals sign in the text of an entry. So a
name may go on into the value of a variable up to an equals sign there. -/
def valueIn? (env : List (String × String)) (name : String) : Option String :=
  if name.isEmpty then none
  else env.findSome? fun (key, value) =>
    ((key ++ "=" ++ value).dropPrefix? (name ++ "=")).map (·.toString)

/-- All that a session can depend on or change. -/
structure World where
  files : FileTree
  cwd : Place
  env : List (String × String)
  clock : Timestamp
  hostName : String
  processId : UInt32
  /-- The name that is given out next to `issued` earlier ones. -/
  idOf : Nat → String
  issued : Nat
  /-- What is still to be read from standard input. -/
  input : ByteArray
  /-- Last first. -/
  output : List Output

namespace World

def value? (w : World) (name : String) : Option String := valueIn? w.env name

def withVariable (w : World) (name value : String) : World :=
  { w with env := (name, value) :: w.env.filter (·.1 != name) }

/-- Changes the files, if that succeeds. -/
def change (w : World) (files? : Option FileTree) : Bool × World :=
  match files? with
  | some files => (true, { w with files })
  | none => (false, w)

/-- The bytes up to the first line feed, that included, and the rest. -/
def splitLine (input : ByteArray) : ByteArray × ByteArray :=
  let bytes := input.toList
  let n := match bytes.findIdx? (· == 10) with
    | some i => i + 1
    | none => bytes.length
  (input.extract 0 n, input.extract n input.size)

def serve : (c : MachineCall) → StateM World c.Answer
  | .pathExists path => fun w => (w.files.pathExists w.cwd path, w)
  | .readFile path => fun w => (w.files.read? w.cwd path, w)
  | .createDirectories path => fun w =>
    let (made, files) := w.files.createDirectories w.cwd path
    (made, { w with files })
  | .createFile path => fun w => w.change (w.files.createFile? w.cwd path)
  | .appendFile path text => fun w => w.change (w.files.append? w.cwd path text.toUTF8)
  | .syncFile path => fun w => (w.files.pathExists w.cwd path, w)
  | .rename source target => fun w => w.change (w.files.rename? w.cwd source target)
  | .removeFile path => fun w => w.change (w.files.remove? w.cwd path)
  | .now => fun w => (w.clock, w)
  | .freshId => fun w => (w.idOf w.issued, { w with issued := w.issued + 1 })
  | .hostName => fun w => (w.hostName, w)
  | .processId => fun w => (w.processId, w)
  | .getVariable name => fun w => (w.value? name, w)
  | .setVariable name value => fun w => ((), w.withVariable name value)
  | .readLine => fun w =>
    let (line, rest) := splitLine w.input
    (String.fromUTF8? line, { w with input := rest })
  | .print text => fun w => ((), { w with output := .text text :: w.output })
  | .pause _ => fun w => ((), w)
  | .note event => fun w => ((), { w with output := .event event :: w.output })

end World
end ClusterConf
