import ClusterConf.Cli.Report
import ClusterConf.Cli.Usage
set_option autoImplicit false

/-!
The command line: nine subcommands, with options that all of them share.
-/
namespace ClusterConf

/-- The options that every command takes. -/
structure CommonOptions where
  /-- The snapshot file that is wanted. -/
  config : Option String := none
  /-- The state file of the live cluster. -/
  state : Option String := none
  /-- The pause after every call to the control plane, in milliseconds. -/
  delay : Nat := 0
  verbose : Bool := false
  logJson : Bool := false
  output : OutputFormat := .text

/-- What the program does when it is run. -/
inductive Command where
  | validate (warnings : Bool)
  | diff (old new : String)
  | plan
  | apply (dryRun yes : Bool)
  | drift
  | destroy (goOn yes : Bool)
  | show
  | exportTo (path : String)
  | unlock (lockId : Option String) (force : Bool)

namespace Command

def mutates : Command → Bool
  | apply dryRun _ => !dryRun
  | destroy _ _ => true
  | _ => false

end Command

structure Invocation where
  options : CommonOptions
  command : Command

namespace Invocation

open Usage

/-- A path may be anything but empty. -/
def checkPath (v : String) : Option UsageError := if v.isEmpty then some .invalidValue else none

/-- A number of milliseconds in 64 bits; a plus sign may stand in front. -/
def delay? (v : String) : Option Nat :=
  let cs := v.toList
  let digits := if cs.head? == some '+' then cs.drop 1 else cs
  let n := digits.foldl (fun n c => 10 * n + (c.toNat - '0'.toNat)) 0
  if !digits.isEmpty && digits.all (fun c => '0' ≤ c && c ≤ '9') && n < Nat.pow 2 64 then some n
  else none

def checkDelay (v : String) : Option UsageError :=
  if (delay? v).isSome then none else some .malformedValue

def outputFormat? : String → Option OutputFormat
  | "text" => some .text
  | "json" => some .json
  | _ => none

/-- A format has to be one of those with a name. -/
def checkOutput (v : String) : Option UsageError :=
  if (outputFormat? v).isSome then none else some .invalidValue

/-- For values that may be any text. -/
def checkNothing (_ : String) : Option UsageError := none

/-- An option that is given or not. -/
def switch (name : String) (letter : Option Char) : OptionRule := { name, letter, sort := .switch }

def positional (name : String) : OptionRule := { name, sort := .valued checkPath }

/-- The options of a command with a full name. -/
def commonOptions (title : String) : List OptionRule := [
  { name := "config", letter := some 'c', sort := .valued checkPath,
    variableName := some "GRIDCONF_CONFIG" },
  { name := "state", sort := .valued checkPath, variableName := some "GRIDCONF_STATE" },
  { name := "delay-ms", sort := .valued checkDelay, variableName := some "GRIDCONF_DELAY_MS" },
  switch "verbose" (some 'v'),
  switch "log-json" none,
  { name := "output", sort := .valued checkOutput },
  { name := "help", letter := some 'h', sort := .help },
  { name := "version", letter := some 'V', sort := .version title }]

def program : String := "gridconf"

def version : String := "0.1.0"

/-- A command with its own options, to which those of all commands are added. -/
def leaf (name : String) (options positionals : List OptionRule) : CommandRule :=
  { name, options := options ++ commonOptions (program ++ "-" ++ name), positionals }

def commands : List CommandRule := [
  leaf "validate" [switch "warnings" (some 'w')] [],
  leaf "diff" [] [positional "old", positional "new"],
  leaf "plan" [] [],
  leaf "apply" [switch "dry-run" none, switch "yes" (some 'y')] [],
  leaf "drift" [] [],
  leaf "destroy" [switch "continue-on-error" none, switch "yes" (some 'y')] [],
  leaf "show" [] [],
  leaf "export" [] [positional "path"],
  leaf "unlock"
    [{ name := "lock-id", sort := .valued checkNothing }, switch "force" none] []]

/-- The program itself, which takes the common options in front of a command. -/
def root : CommandRule where
  name := program
  options := commonOptions program
  subcommands := commands.map CommandRule.name ++ [helpName]

def leafOf (name : String) : CommandRule :=
  (commands.find? (·.name == name)).getD (leaf name [] [])

/-- The value that counts for an option: the first. -/
def value? (given : List Given) (name : String) : Option String :=
  (given.find? (·.name == name)).map (·.value)

def has (given : List Given) (name : String) : Bool := given.any (·.name == name)

def optionsOf (given : List Given) : CommonOptions where
  config := value? given "config"
  state := value? given "state"
  delay := ((value? given "delay-ms").bind delay?).getD 0
  verbose := has given "verbose"
  logJson := has given "log-json"
  output := ((value? given "output").bind outputFormat?).getD .text

def commandOf (name : String) (given : List Given) : Command :=
  let on := has given
  let path (name : String) := (value? given name).getD ""
  match name with
  | "validate" => .validate (on "warnings")
  | "diff" => .diff (path "old") (path "new")
  | "apply" => .apply (on "dry-run") (on "yes")
  | "drift" => .drift
  | "destroy" => .destroy (on "continue-on-error") (on "yes")
  | "show" => .show
  | "export" => .exportTo (path "path")
  | "unlock" => .unlock (value? given "lock-id") (on "force")
  | _ => .plan

/-- The environment variables that stand in for options. -/
def variableNames : List String := (commonOptions program).filterMap (·.variableName)

def helpText : String :=
  "Declarative cluster scheduler configuration manager.\n\n" ++
  "Usage: gridconf [OPTIONS] <COMMAND>\n\n" ++
  "Commands:\n" ++
  "  validate [-w]                             Validate the desired configuration\n" ++
  "  diff <OLD> <NEW>                          Compare two snapshot files\n" ++
  "  plan                                      Show what an apply would do\n" ++
  "  apply [--dry-run] [-y]                    Converge the live cluster\n" ++
  "  drift                                     Check for drift\n" ++
  "  destroy [--continue-on-error] [-y]        Delete every live entity\n" ++
  "  show                                      Show the live configuration\n" ++
  "  export <PATH>                             Write the live configuration to a file\n" ++
  "  unlock [--lock-id <LOCK_ID>] [--force]    Release the lock on the live state\n\n" ++
  "Options:\n" ++
  "  -c, --config <CONFIG>      Path to the desired configuration snapshot\n" ++
  "      --state <STATE>        Path to the live state file\n" ++
  "      --delay-ms <DELAY_MS>  Pause after every control plane call\n" ++
  "  -v, --verbose              Enable verbose output\n" ++
  "      --log-json             Emit logs as JSON lines\n" ++
  "      --output <OUTPUT>      Output format: text or json\n" ++
  "  -h, --help                 Print help\n" ++
  "  -V, --version              Print version\n"

/-- Reads the arguments behind the program's name, with a way to look up environment variables. -/
def ofArguments (lookup : String → Option String) (args : List String) :
    Except UsageError Invocation := do
  let (name, given) ← Usage.read root leafOf lookup args
  return ⟨optionsOf given, commandOf name given⟩

end Invocation
end ClusterConf
