import ClusterConf.Cluster.Validation
import ClusterConf.Plan.Action
set_option autoImplicit false

/-!
What can go wrong, by cause, and the message of each cause.
-/
namespace ClusterConf

/-- Why a snapshot could not be had from a file or a text. -/
inductive ParseCause where
  | json
  | yaml
  | unreadableFile
  | environmentFile
  deriving DecidableEq

def ParseCause.message : ParseCause → String
  | json => "JSON parse error: not a snapshot"
  | yaml => "YAML parse error: not a snapshot"
  | unreadableFile => "Failed to read file: not readable as text"
  | environmentFile => "Failed to load .env file: not a list of assignments"

/-- What can be wrong with the desired snapshot. -/
inductive ConfigError where
  | fileNotFound (path : String)
  | parse (cause : ParseCause) (location : Option String)
  | invalid (fault : Fault)

/-- Why a state or lock file cannot be used. -/
inductive Corruption where
  | unreadableState
  | malformedState
  | unreadableLock
  | malformedLock
  deriving DecidableEq

def Corruption.message : Corruption → String
  | unreadableState => "Failed to read state file: not readable as text"
  | malformedState => "Failed to parse state file: not a snapshot"
  | unreadableLock => "Failed to read lock file: not readable as text"
  | malformedLock => "Failed to parse lock file: not a lock"

/-- What is said of a file operation that did not succeed. -/
def refusal : String := "the file system refused"

/-- The step at which a lock file could not be written or removed. -/
inductive LockStep where
  | create
  | write
  | sync
  | delete
  deriving DecidableEq

def LockStep.message : LockStep → String
  | create => "Failed to create lock file: " ++ refusal
  | write => "Failed to write lock file: " ++ refusal
  | sync => "Failed to sync lock file: " ++ refusal
  | delete => "Failed to delete lock file: " ++ refusal

/-- What can be wrong with the state file and its lock. -/
inductive StateError where
  | corrupted (cause : Corruption)
  | lockFailed (step : LockStep)
  | lockedByOther (holder since : String)

def StateError.message : StateError → String
  | corrupted cause => "State is corrupted: " ++ cause.message
  | lockFailed step => "Failed to acquire state lock: " ++ step.message
  | lockedByOther holder since =>
    s!"State is locked by another process (lock holder: {holder}, since: {since})"

/-- Why a control plane refused one call. -/
inductive PlaneError where
  | alreadyExists (kind : Kind) (key : String)
  | notFound (kind : Kind) (key : String)
  | rejected (reason : String)
  | backend (reason : String)
  deriving DecidableEq

def PlaneError.message : PlaneError → String
  | alreadyExists kind key => s!"{kind.label} '{key}' already exists"
  | notFound kind key => s!"{kind.label} '{key}' does not exist"
  | rejected reason => "rejected by control plane: " ++ reason
  | backend reason => "backend failure: " ++ reason

/-- The call at which reading the live cluster stopped. -/
inductive ReadError where
  | list (kind : Kind) (source : PlaneError)
  | record (kind : Kind) (key : String) (source : PlaneError)
  | globalConfig (source : PlaneError)

def ReadError.message : ReadError → String
  | list kind source => s!"failed to list {kind.collection}: {source.message}"
  | record kind key source => s!"failed to read {kind.label} '{key}': {source.message}"
  | globalConfig source => "failed to read global configuration: " ++ source.message

/-- A mutation that a control plane refused. -/
inductive CallFailure where
  | entity (operation : Operation) (kind : Kind) (key : String) (source : PlaneError)
  | globalConfig (source : PlaneError)

namespace CallFailure

def attempt : CallFailure → String
  | entity operation kind key source =>
    s!"to {operation.verb} {kind.label} {key}: {source.message}"
  | globalConfig source => "to modify global configuration: " ++ source.message

def message (f : CallFailure) : String := "failed " ++ f.attempt

def key : CallFailure → String
  | entity _ _ key _ => key
  | globalConfig _ => "global"

end CallFailure

/-- Why a phase failed: at one call, or at several when it went on after failures. -/
inductive PhaseFailure where
  | single (failure : CallFailure)
  | aggregate (failures : List CallFailure)

namespace PhaseFailure

def message : PhaseFailure → String
  | single failure => failure.message
  | aggregate failures =>
    "error deleting multiple objects: " ++ "; ".intercalate (failures.map CallFailure.message)

def failedKeys : PhaseFailure → List String
  | single failure => [failure.key]
  | aggregate failures => failures.map CallFailure.key

end PhaseFailure

/-- Why mutating the live cluster failed. -/
inductive ApplyError where
  | failed (source : PhaseFailure)
  /-- An apply stopped in a phase, after it had changed `completed` in that phase. -/
  | phase (operation : Operation) (completed : Snapshot) (source : PhaseFailure)

namespace ApplyError

def message : ApplyError → String
  | failed source => source.message
  | phase operation _ source => s!"failed to {operation.verb} elements: {source.message}"

def failedKeys : ApplyError → List String
  | failed source => source.failedKeys
  | phase _ _ source => source.failedKeys

end ApplyError

/-- Why a command failed. -/
inductive Error where
  | config (source : ConfigError)
  | state (source : StateError)
  | read (source : ReadError)
  | compare (source : CompareError)
  | apply (source : ApplyError)
  | io

def ConfigError.message : ConfigError → String
  | fileNotFound path => "Configuration file not found: " ++ path
  | parse cause _ => "Failed to parse configuration: " ++ cause.message
  | invalid fault => "Configuration validation failed: " ++ fault.message

def Error.message : Error → String
  | config source => "Configuration error: " ++ source.message
  | state source => "State error: " ++ source.message
  | read source => "Read error: " ++ source.message
  | compare source => "Comparison error: " ++ source.message
  | apply source => "Apply error: " ++ source.message
  | io => "IO error: " ++ refusal

end ClusterConf
