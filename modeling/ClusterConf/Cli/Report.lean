import ClusterConf.Cli.Grid
import ClusterConf.Json.Writer
import ClusterConf.Plane.Reconciler
import ClusterConf.Time
set_option autoImplicit false

/-!
What commands show: plans, comparisons, outcomes, drift, validations and snapshots, as text with
tables and colours or as JSON.
-/
namespace ClusterConf

inductive OutputFormat where
  | text
  | json
  deriving DecidableEq, Inhabited

structure Reporter where
  format : OutputFormat
  color : Bool

namespace Reporter

inductive Color where
  | green
  | yellow
  | red

/-- The number of a colour in a control sequence. -/
def Color.code : Color → String
  | green => "32"
  | yellow => "33"
  | red => "31"

def paint (r : Reporter) (c : Color) (text : String) : String :=
  if r.color then "\x1b[" ++ c.code ++ "m" ++ text ++ "\x1b[0m" else text

def good (r : Reporter) : String := r.paint .green "✓"

def bad (r : Reporter) : String := r.paint .red "✗"

def caution (r : Reporter) : String := r.paint .yellow "⚠"

/-- An operation as it stands in a table of actions. -/
def operationCell (r : Reporter) : Operation → String
  | .create => r.paint .green "+add"
  | .update => r.paint .yellow "~modify"
  | .delete => r.paint .red "-delete"

/-- The first eight bytes of a fingerprint, or all of a text that cannot be cut there. -/
def shortFingerprint (fingerprint : String) : String :=
  let rec cut (room : Nat) (done : String) : List Char → String
    | [] => fingerprint
    | c :: rest =>
      if c.utf8Size < room then cut (room - c.utf8Size) (done.push c) rest
      else if c.utf8Size = room then done.push c
      else fingerprint
  cut 8 "" fingerprint.toList

/-- At most fifty characters, the last three of a longer text being dots. -/
def truncated (text : String) : String :=
  if text.length ≤ 50 then text else (text.take 47).toString ++ "..."

def planDocument (p : Plan) (createdAt : Timestamp) : Document :=
  .record [("config_hash", .text p.configHash), ("created_at", .text createdAt.text),
    ("action_count", .integer p.actionCount), ("adds", .integer (p.count .create)),
    ("modifies", .integer (p.count .update)), ("deletes", .integer (p.count .delete)),
    ("actions", .list (p.actions.map fun a =>
      .record [("operation", .text a.operation.verb), ("target", .text a.target.label),
        ("key", .text a.key), ("description", .text a.description)]))]

/-- A plan with a table of its actions. -/
def planText (r : Reporter) (p : Plan) : String :=
  if p.isEmpty then s!"{r.good} No changes required - cluster is up to date.\n"
  else
    let rows := p.actions.zipIdx.map fun (a, i) =>
      [toString (i + 1), r.operationCell a.operation, a.target.label, a.key]
    let number (c : Color) (o : Operation) : String := r.paint c (toString (p.count o))
    s!"\nApply Plan\n   Config hash: {shortFingerprint p.configHash}\n\n" ++
      Grid.draw ["#", "Action", "Kind", "Key"] rows ++ "\n" ++
      s!"\nPlan: {number .green .create} to add, {number .yellow .update} to modify, " ++
      s!"{number .red .delete} to delete\n"

def plan (r : Reporter) (p : Plan) (createdAt : Timestamp) : String :=
  match r.format with
  | .json => Json.pretty (planDocument p createdAt)
  | .text => r.planText p

/-- A comparison with a table of what was added, modified and removed. -/
def comparisonText (r : Reporter) (c : Comparison) : String :=
  if c.isSame then s!"{r.good} Snapshots are identical.\n"
  else
    let rowsOf (change : String) (s : Snapshot) : List (List String) :=
      Kind.creationOrder.flatMap fun k => (s.keys k).map fun key => [change, k.label, key]
    let rows :=
      rowsOf (r.paint .green "+added") c.added ++
      rowsOf (r.paint .yellow "~modified") c.modified ++
      rowsOf (r.paint .red "-removed") c.removed
    let grid := if rows.isEmpty then "" else Grid.draw ["Change", "Kind", "Key"] rows ++ "\n"
    let (added, modified, removed) := c.counts
    let changed := r.paint .yellow "changed"
    let global := if c.globalConfigChanged then s!", global configuration {changed}" else ""
    s!"{grid}\n{added} added, {modified} modified, {removed} removed{global}\n"

def comparison (r : Reporter) (c : Comparison) : String :=
  match r.format with
  | .json => Json.pretty c.toDocument
  | .text => r.comparisonText c

def outcomeText (r : Reporter) (o : ApplyOutcome) : String :=
  if !o.changed then s!"{r.good} No changes applied - cluster is converged.\n"
  else
    let status :=
      if o.dryRun then s!"{r.caution} Dry run complete (nothing was changed)"
      else s!"{r.good} Apply successful"
    let (added, modified, deleted) := o.counts
    let global :=
      if o.modified.globalConfig.isSome then "   Global configuration modified\n" else ""
    s!"{status}\n\n   Added: {added}\n   Modified: {modified}\n   Deleted: {deleted}\n{global}"

def outcome (r : Reporter) (o : ApplyOutcome) : String :=
  match r.format with
  | .json => Json.pretty o.toDocument
  | .text => r.outcomeText o

def phaseDocument (p : PhaseReport) : Document :=
  .record [("operation", .text p.operation.verb), ("success", .flag p.isSuccess),
    ("attempted", .integer p.attempted), ("succeeded", .integer p.succeeded),
    ("error", (p.error.map fun e => .text e.message).getD .null),
    ("failed_keys", .texts ((p.error.map PhaseFailure.failedKeys).getD [])),
    ("completed", p.completed.toDocument)]

/-- A phase of deletions, with the keys that failed. -/
def phaseText (r : Reporter) (p : PhaseReport) : String :=
  let status :=
    if p.isSuccess then s!"{r.good} All entities deleted" else s!"{r.bad} Some deletions failed"
  let failures :=
    match p.error with
    | none => ""
    | some e =>
      s!"\n{r.caution} Failed keys:\n" ++ String.join (e.failedKeys.map fun key => s!"   - {key}\n")
  s!"{status}\n\n   Attempted: {p.attempted}\n   Deleted: {p.succeeded}\n{failures}"

def phase (r : Reporter) (p : PhaseReport) : String :=
  match r.format with
  | .json => Json.pretty (phaseDocument p)
  | .text => r.phaseText p

def driftText (r : Reporter) (d : DriftReport) : String :=
  let bang := r.paint .yellow "!"
  let unremovable :=
    if d.globalConfigUnmanaged then s!"   {bang} live global configuration cannot be removed\n"
    else ""
  if d.isConverged then s!"{r.good} No drift detected - cluster is converged.\n{unremovable}"
  else
    let lines (mark : String) (names : List String) : String :=
      String.join (names.map fun name => s!"   {mark} {name}\n")
    let tilde := r.paint .yellow "~"
    s!"{r.caution} Drift detected:\n\n" ++ lines (r.paint .green "+") d.missing ++
      lines tilde d.changed ++ lines (r.paint .red "-") d.unmanaged ++
      (if d.globalConfigChanged then lines tilde ["global configuration"] else "") ++ unremovable ++
      s!"\n{d.driftedCount} entities have drifted ({d.liveCount} live, {d.desiredCount} desired).\n"

def drift (r : Reporter) (d : DriftReport) : String :=
  match r.format with
  | .json => Json.pretty d.toDocument
  | .text => r.driftText d

def validationDocument (v : Validation) (s : Snapshot) : Document :=
  .record [("valid", .flag v.isValid), ("errors", .texts (v.errors.map Fault.text)),
    ("warnings", .texts v.warnings), ("entity_count", .integer s.entityCount)]

/-- A validation with a summary of the snapshot. -/
def validationText (r : Reporter) (v : Validation) (s : Snapshot) (showWarnings : Bool) : String :=
  let lines (texts : List String) : String := String.join (texts.map fun t => s!"   - {t}\n")
  let head :=
    if v.isValid then s!"{r.good} Configuration is valid!\n"
    else
      s!"{r.bad} Configuration has {v.errors.length} errors:\n" ++ lines (v.errors.map Fault.text)
  let warnings :=
    if showWarnings && !v.warnings.isEmpty then
      s!"\n{r.caution} Warnings:\n" ++ lines v.warnings
    else ""
  let global := if s.globalConfig.isSome then "yes" else "no"
  head ++ warnings ++ "\nConfiguration summary:\n" ++
    s!"   Entities: {s.entityCount}\n   Cluster queues: {s.clusterQueues.length}\n" ++
    s!"   Exec hosts: {s.execHosts.length}\n   Projects: {s.projects.length}\n" ++
    s!"   Global configuration: {global}\n"

def validation (r : Reporter) (v : Validation) (s : Snapshot) (showWarnings : Bool) : String :=
  match r.format with
  | .json => Json.pretty (validationDocument v s)
  | .text => r.validationText v s showWarnings

/-- A snapshot as a table of its collections. -/
def snapshotText (s : Snapshot) : String :=
  if s.isEmpty then "   Live configuration is empty.\n"
  else
    let rows := (Kind.creationOrder.filter fun k => 0 < s.count k).map fun k =>
      [k.collection, toString (s.count k), truncated (", ".intercalate (s.keys k))]
    let head :=
      match s.environment with
      | some e => s!"\nCluster: {e.name} ({e.cell})\n\n"
      | none => ""
    let grid := if rows.isEmpty then "" else Grid.draw ["Collection", "Count", "Keys"] rows ++ "\n"
    let global := if s.globalConfig.isSome then "present" else "absent"
    s!"{head}{grid}\nTotal: {s.entityCount} entities, global configuration {global}\n"

def snapshot (r : Reporter) (s : Snapshot) : String :=
  match r.format with
  | .json => Json.pretty s.toDocument
  | .text => snapshotText s

end Reporter
end ClusterConf
