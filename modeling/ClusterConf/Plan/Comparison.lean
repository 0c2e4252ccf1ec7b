import ClusterConf.Cluster.Snapshot
import ClusterConf.Log
import ClusterConf.Plan.Difference
set_option autoImplicit false

/-!
Comparison of two snapshots: the differences of all collections, gathered into three snapshots.
-/
namespace ClusterConf

/-- The collection that could not be compared, and why. -/
structure CompareError where
  kind : Kind
  source : KeyError

def CompareError.message (e : CompareError) : String :=
  "error finding differences for " ++ e.kind.collection ++ ": " ++ e.source.message

/-- What differs between an old and a new snapshot. `modified` holds the new versions, and the new
global configuration if it changed. -/
structure Comparison where
  isSame : Bool
  globalConfigChanged : Bool
  added : Snapshot
  modified : Snapshot
  removed : Snapshot
  deriving Inhabited

namespace Comparison

def counts (c : Comparison) : Nat × Nat × Nat :=
  (c.added.entityCount, c.modified.entityCount, c.removed.entityCount)

def hasNoChanges (c : Comparison) : Bool :=
  !c.globalConfigChanged && c.added.isEmpty && c.modified.isEmpty && c.removed.isEmpty

def none : Comparison := ⟨true, false, .empty, .empty, .empty⟩

def differenceOf (old new : Snapshot) (k : Kind) : Except CompareError (Difference k.Record) :=
  (Difference.between (old.records k) (new.records k)).mapError fun e => ⟨k, e⟩

def addKind (old new : Snapshot) (c : Comparison) (k : Kind) : Except CompareError Comparison := do
  let d ← differenceOf old new k
  return { c with
    added := c.added.append k d.added
    modified := c.modified.append k d.modified
    removed := c.removed.append k d.removed }

def addGlobalConfig (old new : Snapshot) (c : Comparison) : Comparison :=
  if old.globalConfig == new.globalConfig then c
  else { c with
    globalConfigChanged := true
    modified := { c.modified with globalConfig := new.globalConfig } }

/-- Compares kind by kind in creation order; the first collection with bad keys is the error. -/
def between (old new : Snapshot) : Except CompareError Comparison := do
  let c ← Kind.creationOrder.foldlM (addKind old new) none
  let c := addGlobalConfig old new c
  return { c with isSame := c.hasNoChanges }

def boolText (b : Bool) : String := if b then "true" else "false"

/-- What a comparison logs on one kind: its changed records, then their numbers. -/
def kindEvents (k : Kind) (d : Difference k.Record) (new : Snapshot) : List Event :=
  let changed := (new.records k).filterMap fun r =>
    if Difference.hasKey (k.key r) d.modified then
      some (.trace .difference "record modified" (k.key r))
    else if Difference.hasKey (k.key r) d.added then
      some (.trace .difference "record added" (k.key r))
    else Option.none
  let gone := d.removed.map fun r => Event.trace .difference "record removed" (k.key r)
  let summary :=
    if d.isEmpty then []
    else
      let changes := s!"{d.added.length} added, {d.modified.length} modified"
      [.debug .comparison s!"{k.collection}: {changes}, {d.removed.length} removed"]
  changed ++ gone ++ summary

/-- What a comparison logs on some kinds: nothing more after the first collection with bad keys. -/
def kindsEvents (old new : Snapshot) : List Kind → List Event
  | [] => []
  | k :: rest =>
    match differenceOf old new k with
    | .ok d => kindEvents k d new ++ kindsEvents old new rest
    | .error _ => []

def events (old new : Snapshot) : List Event :=
  kindsEvents old new Kind.creationOrder ++
    match between old new with
    | .error _ => []
    | .ok c =>
      let (added, modified, removed) := c.counts
      let counts := s!"{added} added, {modified} modified, {removed} removed"
      let global := s!"global config changed: {boolText c.globalConfigChanged}"
      (if c.globalConfigChanged then [.debug .comparison "global configuration changed"] else []) ++
        [.info .comparison s!"Compared snapshots: {counts}, {global}"]

def toDocument (c : Comparison) : Document :=
  .record [("is_same", .flag c.isSame), ("global_config_changed", .flag c.globalConfigChanged),
    ("diff_added", c.added.toDocument), ("diff_modified", c.modified.toDocument),
    ("diff_removed", c.removed.toDocument)]

end Comparison
end ClusterConf
