import ClusterConf.Plane.Call
set_option autoImplicit false

/-!
Dry runs: calls that read go on to the control plane; mutations are only logged, and succeed.
-/
namespace ClusterConf.DryRun

open Control

def serve : (c : PlaneCall) → Control c.Answer
  | .create e => do
    note (.info .dryRun s!"Executing: create {e.kind.label} {e.key}")
    return .ok ()
  | .update key e => do
    note (.info .dryRun s!"Executing: modify {e.kind.label} {key}")
    return .ok ()
  | .delete kind key => do
    note (.info .dryRun s!"Executing: delete {kind.label} {key}")
    return .ok ()
  | .modifyGlobal _ => do
    note (.info .dryRun "Executing: modify global configuration")
    return .ok ()
  | .backend => return "dry-run"
  | .list kind => call (.list kind)
  | .read kind key => call (.read kind key)
  | .showGlobal => call .showGlobal
  | .note event => note event

/-- The program with its mutations only reported. -/
def dry {α : Type} (p : Control α) : Control α := p.run serve

end ClusterConf.DryRun
