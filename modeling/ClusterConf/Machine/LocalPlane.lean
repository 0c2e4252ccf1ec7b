import ClusterConf.Cluster.SnapshotText
import ClusterConf.Machine.Call
import ClusterConf.Machine.Path
import ClusterConf.Plane.Store
set_option autoImplicit false

/-!
A control plane whose cluster is a snapshot in a state file, or in memory only. A mutation is
committed in memory after the new state file has taken the place of the old one.
-/
namespace ClusterConf

/-- The live cluster, and the state file that keeps it. -/
structure LocalPlane where
  path : Option String
  state : Snapshot

namespace LocalPlane

open Session Attempt

def stateDirectory : String := ".gridconf"

def stateFile : String := "cluster.json"

/-- The path of the state file below a directory, where none is named. -/
def defaultPath (base : String) : String := Path.join (Path.join base stateDirectory) stateFile

def inMemory (s : Snapshot) : LocalPlane := ⟨none, s⟩

/-- The lock file that guards the state file. -/
def lockPath? (plane : LocalPlane) : Option String :=
  plane.path.map fun path => Path.withExtension path "lock"

/-- Opens a state file; one that is not there yet is an empty cluster. -/
def openAt (path : String) : Attempt LocalPlane := do
  if ← ask (.pathExists path) then
    log (.info .localPlane s!"Loading live state from: {path}")
    match ← (readText? path : Session _) with
    | none => throw (.state (.corrupted .unreadableState))
    | some text =>
      match Snapshot.ofText? .json text with
      | none => throw (.state (.corrupted .malformedState))
      | some s => return ⟨some path, s⟩
  else
    log (.debug .localPlane s!"State file does not exist yet: {path}")
    return ⟨some path, .empty⟩

/-- The file steps of replacing a state file. -/
inductive PersistStep where
  | directory
  | create
  | write
  | sync
  | rename
  deriving DecidableEq

def PersistStep.message : PersistStep → String
  | directory => "Failed to create state directory: " ++ refusal
  | create => "Failed to create temp state file: " ++ refusal
  | write => "Failed to write state file: " ++ refusal
  | sync => "Failed to sync state file: " ++ refusal
  | rename => "Failed to rename state file: " ++ refusal

def step (s : PersistStep) (c : Session Bool) : ExceptT PlaneError Session Unit := do
  unless ← c do throw (.backend s.message)

/-- Writes the state to a temporary file, then moves that over the state file. -/
def persistAt (path : String) (s : Snapshot) : ExceptT PlaneError Session Unit := do
  if let some parent := Path.properParent? path then
    step .directory (call (.createDirectories parent))
  let temporary := Path.withExtension path "tmp"
  step .create (call (.createFile temporary))
  step .write (call (.appendFile temporary (s.toText .json)))
  step .sync (call (.syncFile temporary))
  step .rename (call (.rename temporary path))
  (note (.debug .localPlane s!"State saved to {path}") : Session Unit)

/-- Writes a state to the state file, if there is one. -/
def persist (plane : LocalPlane) (s : Snapshot) : Session (Except PlaneError Unit) :=
  match plane.path with
  | none => return .ok ()
  | some path => (persistAt path s).run

def commit (next : Snapshot) : StateT LocalPlane Session (Except PlaneError Unit) := do
  match ← (persist (← get) next : Session _) with
  | .error e => return .error e
  | .ok () =>
    modify fun plane => { plane with state := next }
    return .ok ()

def backendName (plane : LocalPlane) : String :=
  if plane.path.isSome then "local" else "memory"

def serve (c : PlaneCall) : StateT LocalPlane Session c.Answer := do
  let plane ← get
  Store.serve plane.backendName (return (← get).state) commit (fun e => (note e : Session Unit)) c

def run {α : Type} (p : Control α) : StateT LocalPlane Session α := p.run serve

end LocalPlane
end ClusterConf
