import ClusterConf.Plane.Call
set_option autoImplicit false

/-!
Reading the live cluster into a snapshot: the global configuration, then kind by kind in creation
order the keys and, for kinds with more to a record than its key, the records one by one. The first
failing call ends the reading.
-/
namespace ClusterConf.Live

open Control

def readRecords (k : Kind) : List String → Control (Except ReadError (List k.Record))
  | [] => return .ok []
  | key :: rest => do
    let answer ←
      match k.ofKey? key with
      | some r => pure (.ok r)
      | none => call (.read k key)
    match answer with
    | .error source => return .error (.record k key source)
    | .ok r => return (← readRecords k rest).map (r :: ·)

def readCollection (k : Kind) : Control (Except ReadError (List k.Record)) := do
  match ← call (.list k) with
  | .error source => return .error (.list k source)
  | .ok keys => readRecords k keys

/-- Reads the collections of some kinds into a snapshot. -/
def readCollections : List Kind → Snapshot → Control (Except ReadError Snapshot)
  | [], s => return .ok s
  | k :: rest, s => do
    match ← readCollection k with
    | .error e => return .error e
    | .ok rs => readCollections rest (s.append k rs)

/-- Reads the live cluster. The environment is not the plane's to tell. -/
def read : Control (Except ReadError Snapshot) := do
  note (.info .observer s!"Reading live configuration from {← call .backend} backend")
  match ← call .showGlobal with
  | .error source => return .error (.globalConfig source)
  | .ok globalConfig =>
    match ← readCollections Kind.creationOrder { Snapshot.empty with globalConfig } with
    | .error e => return .error e
    | .ok s =>
      note (.debug .observer s!"Read {s.entityCount} live entities")
      return .ok s

end ClusterConf.Live
