set_option autoImplicit false

/-!
The grammar of command lines. A command has options, positional arguments and perhaps subcommands.
An option with a value takes the next argument if none is attached; its value is looked at only when
the next thing is given or the command ends, so that an unknown argument in between is told first.
-/
namespace ClusterConf

/-- Why a command line asks for something else than a run. -/
inductive UsageError where
  | unknownArgument
  | unknownSubcommand
  /-- A value is missing, or is none of those that are allowed. -/
  | invalidValue
  /-- A value is not of the right form. -/
  | malformedValue
  /-- A value is attached to an option that takes none. -/
  | unwantedValue
  | givenTwice
  | missingArgument
  | missingSubcommand
  /-- Nothing at all was given. -/
  | nothingGiven
  | helpWanted
  /-- The version is wanted, under the full name of a command. -/
  | versionWanted (title : String)
  deriving DecidableEq

/-- What is said of a command line that cannot be run; a wish for help or the version is none. -/
def UsageError.message? : UsageError → Option String
  | unknownArgument => some "unexpected argument found"
  | unknownSubcommand => some "unrecognized subcommand"
  | invalidValue => some "a value is missing or not allowed"
  | malformedValue => some "a value is not of the right form"
  | unwantedValue => some "unexpected value for an option that takes none"
  | givenTwice => some "an argument cannot be used multiple times"
  | missingArgument => some "a required argument was not provided"
  | missingSubcommand => some "a subcommand is required but was not provided"
  | nothingGiven => some "no subcommand was provided"
  | helpWanted | versionWanted _ => none

namespace Usage

inductive OptionSort where
  | switch
  /-- Takes a value, about which a check may complain. -/
  | valued (check : String → Option UsageError)
  | help
  | version (title : String)

/-- An option or a positional argument. -/
structure OptionRule where
  name : String
  letter : Option Char := none
  sort : OptionSort
  /-- The environment variable that stands in for the option. -/
  variableName : Option String := none

structure CommandRule where
  name : String
  options : List OptionRule
  /-- The positional arguments, all of which have to be given. -/
  positionals : List OptionRule := []
  subcommands : List String := []

/-- Where a value comes from; later sources outrank earlier ones. -/
inductive Source where
  | environment
  | commandLine
  deriving DecidableEq

structure Given where
  name : String
  value : String
  source : Source

/-- An option or positional argument with its value, not yet looked at. -/
structure Pending where
  rule : OptionRule
  value : Option String

structure Progress where
  given : List Given := []
  pending : Option Pending := none
  positionals : List OptionRule
  /-- Whether the mark behind which everything is positional has been passed. -/
  positionalOnly : Bool := false

/-- A step of reading, which may end it. -/
abbrev Step (α : Type) := Except UsageError α

namespace Progress

def has (p : Progress) (name : String) : Bool := p.given.any (·.name == name)

/-- Whether the next argument is the value of an option. -/
def awaitsValue (p : Progress) : Bool := p.pending.any (·.value.isNone)

def accept (p : Progress) (rule : OptionRule) (value : Option String) : Step Progress :=
  match rule.sort with
  | .help => .error .helpWanted
  | .version title => .error (.versionWanted title)
  | .switch =>
    if p.has rule.name then .error .givenTwice
    else .ok { p with given := ⟨rule.name, "", .commandLine⟩ :: p.given }
  | .valued check =>
    match value with
    | none => .error .invalidValue
    | some v =>
      if p.has rule.name then .error .givenTwice
      else
        match check v with
        | some e => .error e
        | none => .ok { p with given := ⟨rule.name, v, .commandLine⟩ :: p.given }

def settle (p : Progress) : Step Progress :=
  match p.pending with
  | none => .ok p
  | some pending => { p with pending := none }.accept pending.rule pending.value

def react (p : Progress) (rule : OptionRule) (value : Option String) : Step Progress := do
  (← p.settle).accept rule value

def await (p : Progress) (rule : OptionRule) (value : Option String) : Step Progress := do
  return { ← p.settle with pending := some ⟨rule, value⟩ }

end Progress

namespace OptionRule

def takesValue (rule : OptionRule) : Bool := rule.sort matches .valued _

end OptionRule

namespace CommandRule

/-- A long option, with the value attached behind an equals sign. -/
def long (c : CommandRule) (p : Progress) (name : String) (attached : Option String) :
    Step Progress :=
  match c.options.find? (·.name == name) with
  | none => .error .unknownArgument
  | some rule =>
    if rule.takesValue then
      match attached with
      | some v => p.react rule (some v)
      | none => p.await rule none
    else if attached.isSome then .error .unwantedValue
    else p.react rule none

/-- Letters of short options in a row. What follows one that takes a value is that value, an equals
sign in front of it left out. -/
def short (c : CommandRule) (p : Progress) : List Char → Step Progress
  | [] => .ok p
  | letter :: rest =>
    match c.options.find? (·.letter == some letter) with
    | none => .error .unknownArgument
    | some rule =>
      if rule.takesValue then
        match rest with
        | [] => p.await rule none
        | '=' :: v => p.react rule (some (String.ofList v))
        | v => p.react rule (some (String.ofList v))
      else do short c (← p.react rule none) rest

/-- The error of an argument that fits nowhere. -/
def misfit (c : CommandRule) (p : Progress) (arg : String) : UsageError :=
  if c.subcommands.isEmpty || (p.positionalOnly && c.subcommands.contains arg) then .unknownArgument
  else .unknownSubcommand

/-- Cuts a long option at its first equals sign. -/
def cutLong (cs : List Char) : String × Option String :=
  (String.ofList (cs.takeWhile (· != '=')),
    if cs.contains '=' then some (String.ofList ((cs.dropWhile (· != '=')).drop 1)) else none)

/-- Where the arguments of a command end: with the last one, or with a subcommand and what is left
for it. -/
abbrev Rest := Option (String × List String)

/-- Reads arguments one by one. A subcommand's name ends the reading, unless an option waits for its
value or everything is positional by now. -/
def readFrom (c : CommandRule) : List String → Progress → Step (Progress × Rest)
  | [], p => .ok (p, none)
  | arg :: rest, p =>
    let asPositional (p : Progress) : Step Progress :=
      match p.positionals with
      | rule :: later => { p with positionals := later }.await rule (some arg)
      | [] => .error (c.misfit p arg)
    let asValue (p : Progress) : Step Progress :=
      match p.pending with
      | some ⟨rule, none⟩ => .ok { p with pending := some ⟨rule, some arg⟩ }
      | _ => asPositional p
    if p.positionalOnly then do readFrom c rest (← asPositional p)
    else if !p.awaitsValue && c.subcommands.contains arg then .ok (p, some (arg, rest))
    else
      match arg.toList with
      | ['-', '-'] => readFrom c rest { p with positionalOnly := true }
      | '-' :: '-' :: cs =>
        let (name, attached) := cutLong cs
        do readFrom c rest (← c.long p name attached)
      | '-' :: letter :: letters => do readFrom c rest (← c.short p (letter :: letters))
      | _ => do readFrom c rest (← asValue p)

/-- Takes environment variables for the options that are not given on this command. -/
def readVariables (lookup : String → Option String) :
    List OptionRule → Progress → Step Progress
  | [], p => .ok p
  | rule :: rest, p =>
    match rule.sort, rule.variableName.bind lookup with
    | .valued check, some v =>
      if p.has rule.name then readVariables lookup rest p
      else
        match check v with
        | some e => .error e
        | none =>
          readVariables lookup rest { p with given := ⟨rule.name, v, .environment⟩ :: p.given }
    | _, _ => readVariables lookup rest p

/-- Settles what is pending and takes the environment. -/
def conclude (c : CommandRule) (lookup : String → Option String) (p : Progress) :
    Step (List Given) := do
  let p ← readVariables lookup c.options (← p.settle)
  return p.given

def readLeaf (c : CommandRule) (lookup : String → Option String) (args : List String) :
    Step (List Given) := do
  let (p, _) ← c.readFrom args { positionals := c.positionals }
  let given ← c.conclude lookup p
  if p.positionals.isEmpty then return given else throw .missingArgument

end CommandRule

/-- What the help command says about the names behind it: there is help on each subcommand and on
itself, but none has subcommands of its own. -/
def help (subcommands : List String) : List String → UsageError
  | [] => .helpWanted
  | [name] => if subcommands.contains name then .helpWanted else .unknownSubcommand
  | _ => .unknownSubcommand

def helpName : String := "help"

/-- The values of a command and of its subcommand in one: where both give one, the source that ranks
higher wins, and of equal ones the subcommand. -/
def merge (outer inner : List Given) : List Given :=
  let outranks (g : Given) : Bool :=
    g.source = .commandLine && inner.any fun i => i.name == g.name && i.source = .environment
  outer.filter outranks ++ inner ++ outer

/--
Reads a command line: that of the root command up to the name of a subcommand, and behind it that of
the subcommand, whose errors are told first. Answers the subcommand's name and the values.
-/
def read (root : CommandRule) (leaf : String → CommandRule) (lookup : String → Option String)
    (args : List String) : Step (String × List Given) := do
  let (p, rest) ← root.readFrom args { positionals := [] }
  match rest with
  | none =>
    let given ← root.conclude lookup p
    throw (if given.isEmpty then .nothingGiven else .missingSubcommand)
  | some (name, behind) =>
    if name == helpName then throw (help root.subcommands behind)
    else
      let inner ← (leaf name).readLeaf lookup behind
      let outer ← root.conclude lookup p
      return (name, merge outer inner)

end Usage
end ClusterConf
