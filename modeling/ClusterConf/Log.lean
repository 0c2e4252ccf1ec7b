set_option autoImplicit false

/-!
Log events and the levels at which they are kept.
-/
namespace ClusterConf

/-- How grave an event is. -/
inductive Level where
  | trace
  | debug
  | info
  | warn
  | error
  deriving DecidableEq, Inhabited

namespace Level

/-- Graver levels rank higher. -/
def rank : Level → Nat
  | trace => 0
  | debug => 1
  | info => 2
  | warn => 3
  | error => 4

def name : Level → String
  | trace => "TRACE"
  | debug => "DEBUG"
  | info => "INFO"
  | warn => "WARN"
  | error => "ERROR"

end Level

inductive Part where
  | commands
  | snapshotFiles
  | validation
  | localPlane
  | lock
  | observer
  | dryRun
  | comparison
  | difference
  | phases
  | reconciliation
  deriving DecidableEq, Inhabited

/-- The name by which a part is chosen in rules of the log. -/
def Part.name : Part → String
  | commands => "gridconf"
  | snapshotFiles => "gridconf::config::parser"
  | validation => "gridconf::config::validator"
  | localPlane => "gridconf::control::local"
  | lock => "gridconf::control::lock"
  | observer => "gridconf::control::observer"
  | dryRun => "gridconf::control::dry_run"
  | comparison => "gridconf::planner::compare"
  | difference => "gridconf::planner::diff"
  | phases => "gridconf::planner::executor"
  | reconciliation => "gridconf::reconciler"

/-- One log event: a message of a part of the program, and the values that go with it by name. -/
structure Event where
  level : Level
  part : Part
  message : String
  fields : List (String × String) := []
  deriving DecidableEq, Inhabited

namespace Event

def trace (part : Part) (message key : String) : Event :=
  { level := .trace, part, message, fields := [("key", key)] }

def debug (part : Part) (message : String) : Event := { level := .debug, part, message }

def info (part : Part) (message : String) : Event := { level := .info, part, message }

def warn (part : Part) (message : String) : Event := { level := .warn, part, message }

def error (part : Part) (message : String) : Event := { level := .error, part, message }

end Event
end ClusterConf
