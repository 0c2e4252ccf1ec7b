import ClusterConf.Cluster.Fingerprint
import ClusterConf.Plane.DryRun
import ClusterConf.Plane.Live
import ClusterConf.Plane.Phase
set_option autoImplicit false

/-!
Reconciliation: bringing the live cluster to a desired snapshot, and telling beforehand or without
change what that would take.
-/
namespace ClusterConf

/-- What an apply did, or in a dry run would have done. -/
structure ApplyOutcome where
  dryRun : Bool
  /-- Whether any mutation was issued. -/
  changed : Bool
  added : Snapshot
  modified : Snapshot
  deleted : Snapshot

namespace ApplyOutcome

def counts (o : ApplyOutcome) : Nat × Nat × Nat :=
  (o.added.entityCount, o.modified.entityCount, o.deleted.entityCount)

def issuedAny (o : ApplyOutcome) : Bool :=
  let (added, modified, deleted) := o.counts
  0 < added + modified + deleted || o.modified.globalConfig.isSome

def toDocument (o : ApplyOutcome) : Document :=
  .record [("dry_run", .flag o.dryRun), ("changed", .flag o.changed),
    ("added", o.added.toDocument), ("modified", o.modified.toDocument),
    ("deleted", o.deleted.toDocument)]

end ApplyOutcome

/-- How the live cluster has drifted from a desired snapshot. -/
structure DriftReport where
  hasDrift : Bool
  /-- Desired entities that are not live. -/
  missing : List String
  /-- Entities whose live version differs. -/
  changed : List String
  /-- Live entities that are not desired. -/
  unmanaged : List String
  globalConfigChanged : Bool
  /-- A live global configuration that is not desired; it cannot be removed and is no drift. -/
  globalConfigUnmanaged : Bool
  liveCount : Nat
  desiredCount : Nat

namespace DriftReport

def driftedCount (r : DriftReport) : Nat :=
  r.missing.length + r.changed.length + r.unmanaged.length

def isConverged (r : DriftReport) : Bool := !r.hasDrift

/-- The entities of a snapshot by kind and key, in creation order. -/
def describe (s : Snapshot) : List String :=
  Kind.creationOrder.flatMap fun k => (s.keys k).map fun key => k.label ++ " " ++ key

/-- Drift as a comparison of the live with the desired snapshot tells it. -/
def ofComparison (c : Comparison) (live desired : Snapshot) : DriftReport :=
  let globalConfigUnmanaged := live.globalConfig.isSome && desired.globalConfig.isNone
  let globalConfigChanged := c.globalConfigChanged && !globalConfigUnmanaged
  let r : DriftReport := {
    hasDrift := false
    missing := describe c.added
    changed := describe c.modified
    unmanaged := describe c.removed
    globalConfigChanged, globalConfigUnmanaged
    liveCount := live.entityCount
    desiredCount := desired.entityCount }
  { r with hasDrift := 0 < r.driftedCount || globalConfigChanged }

def toDocument (r : DriftReport) : Document :=
  .record [("has_drift", .flag r.hasDrift), ("missing", .texts r.missing),
    ("changed", .texts r.changed), ("unmanaged", .texts r.unmanaged),
    ("global_config_changed", .flag r.globalConfigChanged),
    ("global_config_unmanaged", .flag r.globalConfigUnmanaged),
    ("live_count", .integer r.liveCount), ("desired_count", .integer r.desiredCount)]

def text (r : DriftReport) : String :=
  let lines (mark : String) (names : List String) : String :=
    String.join (names.map fun name => s!"  {mark} {name}\n")
  if r.hasDrift then
    "Drift detected:\n" ++ lines "+" r.missing ++ lines "~" r.changed ++ lines "-" r.unmanaged ++
      (if r.globalConfigChanged then "  ~ global configuration\n" else "")
  else
    "No drift detected - cluster is converged" ++
      if r.globalConfigUnmanaged then " (live global configuration cannot be removed)" else ""

end DriftReport

namespace Reconciler

open Control

abbrev Attempt (α : Type) := ExceptT Error Control α

def log (event : Event) : Attempt Unit := note event

def current : Attempt Snapshot := do
  match ← (Live.read : Control _) with
  | .ok s => return s
  | .error e => throw (.read e)

def compare (old new : Snapshot) : Attempt Comparison := do
  (notes (Comparison.events old new) : Control _)
  match Comparison.between old new with
  | .ok c => return c
  | .error e => throw (.compare e)

/-- The plan of the mutations that applying `desired` will issue. -/
def plan (desired : Snapshot) : Attempt Plan := do
  let live ← current
  let c ← compare live desired
  return Plan.ofComparison c desired.fingerprint

/-- What a phase of an apply changed; if it failed, that goes into the error. -/
def finishPhase (r : PhaseReport) : Attempt Snapshot :=
  match r.error with
  | none => return r.completed
  | some source => throw (.apply (.phase r.operation r.completed source))

/-- The three phases of an apply, each begun only after the one before has succeeded. -/
def phases (c : Comparison) (within : {α : Type} → Control α → Control α) :
    Attempt (Snapshot × Snapshot × Snapshot) := do
  let added ← finishPhase (← (within (Phase.addAll c.added) : Control _))
  let modified ← finishPhase (← (within (Phase.modifyAll c.modified) : Control _))
  let deleted ← finishPhase (← (within (Phase.deleteAll c.removed false) : Control _))
  return (added, modified, deleted)

/--
Brings the live cluster to the desired snapshot. When nothing differs no mutation is issued. A
failing phase ends the apply, and what earlier phases did is not undone. A dry run only reports.
-/
def apply (desired : Snapshot) (dryRun : Bool) : Attempt ApplyOutcome := do
  let live ← current
  let c ← compare live desired
  if c.isSame then
    log (.info .reconciliation "No changes required - cluster is converged")
    return ⟨dryRun, false, .empty, .empty, .empty⟩
  else
    if dryRun then log (.info .reconciliation "Dry run: mutations will only be reported")
    let (added, modified, deleted) ← phases c fun p => if dryRun then DryRun.dry p else p
    let outcome : ApplyOutcome := ⟨dryRun, false, added, modified, deleted⟩
    let outcome := { outcome with changed := outcome.issuedAny }
    unless outcome.changed do
      log (.warn .reconciliation
        "Live global configuration is not in the desired snapshot and cannot be removed")
    let (created, updated, removed) := outcome.counts
    log (.info .reconciliation
      s!"Apply complete: {created} created, {updated} updated, {removed} deleted")
    return outcome

/-- Compares the live cluster with the desired snapshot, changing nothing. -/
def checkDrift (desired : Snapshot) : Attempt DriftReport := do
  log (.info .reconciliation "Checking for drift")
  let live ← current
  let c ← compare live desired
  let report := DriftReport.ofComparison c live desired
  if report.hasDrift then
    log (.warn .reconciliation s!"Drift detected on {report.driftedCount} entities")
  return report

/-- Deletes every live entity. Failed deletions are told by the report. -/
def destroy (goOn : Bool) : Attempt PhaseReport := do
  let live ← current
  log (.info .reconciliation s!"Destroying {live.entityCount} live entities")
  let report ← (Phase.deleteAll live goOn : Control _)
  if let some e := report.error then log (.error .reconciliation s!"Destroy failed: {e.message}")
  return report

end Reconciler
end ClusterConf
