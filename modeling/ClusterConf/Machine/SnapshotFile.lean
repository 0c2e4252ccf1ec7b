import ClusterConf.Cluster.SnapshotText
import ClusterConf.Cluster.Validation
import ClusterConf.Error
import ClusterConf.Machine.EnvFile
import ClusterConf.Machine.Path
set_option autoImplicit false

/-!
Snapshot files: where they are found, how they are read and written, and the file of environment
variables beside them.
-/
namespace ClusterConf

/-- Files with the extension `json` hold JSON, all others YAML. -/
def TextFormat.ofPath (path : String) : TextFormat :=
  match Path.extension? path with
  | some ext => if Text.sameLetters ext "json" then .json else .yaml
  | none => .yaml

namespace SnapshotFile

open Session Attempt

def formatName : TextFormat → String
  | .json => "JSON"
  | .yaml => "YAML"

def parseCause : TextFormat → ParseCause
  | .json => .json
  | .yaml => .yaml

def parse (format : TextFormat) (text : String) (location : Option String) : Attempt Snapshot := do
  log (.debug .snapshotFiles s!"Parsing {formatName format} snapshot")
  match Snapshot.ofText? format text with
  | none => throw (.config (.parse (parseCause format) location))
  | some s =>
    log (.debug .snapshotFiles s!"Parsed snapshot with {s.entityCount} entities")
    return s

def load (path : String) : Attempt Snapshot := do
  log (.info .snapshotFiles s!"Loading snapshot from: {path}")
  if ← ask (.pathExists path) then
    match ← (readText? path : Session _) with
    | none => throw (.config (.parse .unreadableFile (some path)))
    | some text => parse (TextFormat.ofPath path) text (some path)
  else throw (.config (.fileNotFound path))

/-- Writes a snapshot file, making the directories on the way. -/
def write (s : Snapshot) (path : String) : Attempt Unit := do
  if let some parent := Path.properParent? path then
    unless ← ask (.createDirectories parent) do throw .io
  unless ← ask (.createFile path) do throw .io
  unless ← ask (.appendFile path (s.toText (TextFormat.ofPath path))) do throw .io
  log (.info .snapshotFiles s!"Wrote snapshot to: {path}")

/-- The file of environment variables in a directory, or in the current one. -/
def envPath (base : Option String) : String :=
  match base with
  | some dir => Path.join dir ".env"
  | none => ".env"

/-- Loads the file of environment variables if it is there. -/
def loadEnv (base : Option String) : Attempt Unit := do
  let path := envPath base
  if ← ask (.pathExists path) then
    log (.info .snapshotFiles s!"Loading environment from: {path}")
    unless ← (EnvFile.load path : Session Bool) do
      throw (.config (.parse .environmentFile (some path)))
  else log (.debug .snapshotFiles s!".env file not found at: {path}")

/-- The names under which a snapshot is looked for, first one first. -/
def defaultNames : List String := ["gridconf.yaml", "gridconf.yml", "cluster.yaml", "cluster.json"]

/-- The first of some files in a directory that is there. -/
def findIn (dir : String) : List String → Session (Option String)
  | [] => return none
  | name :: rest => do
    let path := Path.join dir name
    if ← call (.pathExists path) then return some path else findIn dir rest

/-- Looks in a directory and then in its parents, which `fuel` bounds. -/
def findUp : Nat → String → Session (Option String)
  | 0, _ => return none
  | fuel + 1, dir => do
    match ← findIn dir defaultNames with
    | some path => return some path
    | none =>
      match Path.parent? dir with
      | some parent => findUp fuel parent
      | none => return none

/-- Finds the snapshot file in a directory or its parents, as far as its path names them. -/
def find (start : String) : Attempt String := do
  match ← (findUp (start.length + 1) start : Session _) with
  | some path =>
    log (.info .snapshotFiles s!"Found snapshot file: {path}")
    return path
  | none => throw (.config (.fileNotFound (Path.join start "gridconf.yaml")))

end SnapshotFile
end ClusterConf
