import ClusterConf.Cli.LogFilter
import ClusterConf.Cli.LogLine
import ClusterConf.Cli.Run
import ClusterConf.Machine.World
import Std.Time.DateTime.Timestamp
set_option autoImplicit false

/-!
The command line on a real machine. Variables that a session sets are kept beside the environment
of the process.
-/
namespace ClusterConf.Outer

/-- What is shown of the log and how, and the variables that were set. -/
structure Settings where
  rules : List LogRule
  style : LogStyle
  env : IO.Ref (List (String × String))

def succeeds {α : Type} (act : IO α) : IO Bool := do
  try
    discard act
    return true
  catch _ => return false

def result? {α : Type} (act : IO α) : IO (Option α) := do
  try
    return some (← act)
  catch _ => return none

def now : IO Timestamp := do
  let nanos : Int := (← Std.Time.Timestamp.now).toNanosecondsSinceUnixEpoch.val
  return ⟨nanos.ediv 1000000000, (nanos.emod 1000000000).toNat⟩

/-- A random name in the form of a universally unique identifier. -/
def freshId : IO String := do
  let bytes := (← IO.getRandomBytes 16).toList.map UInt8.toNat
  let nibbles := bytes.flatMap fun b => [b / 16, b % 16]
  let marked := (nibbles.set 12 4).set 16 (8 + (nibbles.getD 16 0) % 4)
  let digits := marked.map Nat.digitChar
  let part (start n : Nat) := String.ofList ((digits.drop start).take n)
  return "-".intercalate [part 0 8, part 8 4, part 12 4, part 16 4, part 20 12]

/-- The text of a small file of the system. -/
def systemText (path : String) : IO String := do
  return ((← result? (IO.FS.readFile path)).getD "").trimAscii.toString

def hostName : IO String := do
  let name ← systemText "/proc/sys/kernel/hostname"
  return if name.isEmpty then "unknown" else name

def processId : IO UInt32 := do
  let digits := ((← systemText "/proc/self/stat").takeWhile Char.isDigit).toString
  return UInt32.ofNat (digits.toNat?.getD 0)

def serve (s : Settings) : (c : MachineCall) → IO c.Answer
  | .pathExists path => succeeds (IO.FS.realPath path)
  | .readFile path => result? (IO.FS.readBinFile path)
  | .createDirectories path => succeeds (IO.FS.createDirAll path)
  | .createFile path => succeeds (IO.FS.Handle.mk path .write)
  | .appendFile path text => succeeds do
    let handle ← IO.FS.Handle.mk path .append
    handle.putStr text
    handle.flush
  | .syncFile path => succeeds (IO.FS.Handle.mk path .read)
  | .rename source target => succeeds (IO.FS.rename source target)
  | .removeFile path => succeeds (IO.FS.removeFile path)
  | .now => now
  | .freshId => freshId
  | .hostName => hostName
  | .processId => processId
  | .getVariable name => do
    match valueIn? (← s.env.get) name with
    | some value => return some value
    | none => IO.getEnv name
  | .setVariable name value => s.env.modify ((name, value) :: ·)
  | .readLine => do result? (← IO.getStdin).getLine
  | .print text => IO.eprint text
  | .pause milliseconds => IO.sleep (UInt32.ofNat milliseconds)
  | .note event => do
    if event.isShown s.rules then
      IO.eprintln (event.line s.style (← now).zuluText)

def variablesNamed (names : List String) : IO (List (String × String)) := do
  let found ← names.mapM fun name => return (name, ← IO.getEnv name)
  return found.filterMap fun (name, value) => value.map fun v => (name, v)

end ClusterConf.Outer

open ClusterConf in
/-- Reads the arguments, and runs the command they ask for or tells about the program. -/
def main (args : List String) : IO UInt32 := do
  let env ← Outer.variablesNamed Invocation.variableNames
  let lookup (name : String) := (env.find? (·.1 == name)).map (·.2)
  match Invocation.ofArguments lookup args with
  | .error (.versionWanted title) =>
    IO.println s!"{title} {Invocation.version}"
    return 0
  | .error e =>
    match e.message? with
    | none =>
      IO.print Invocation.helpText
      return 0
    | some message =>
      IO.eprint s!"error: {message}\n\n{Invocation.helpText}"
      return 2
  | .ok invocation =>
    let settings : Outer.Settings := {
      rules := LogRule.inForce (← IO.getEnv "RUST_LOG") invocation.options.verbose
      style := LogStyle.wanted invocation.options.logJson (← IO.getEnv "NO_COLOR")
      env := ← IO.mkRef [] }
    let onTerminal ← (← IO.getStdout).isTty
    (invocation.run onTerminal).run (Outer.serve settings)
