import ClusterConf.Plan.Comparison
set_option autoImplicit false

/-!
Plans: the ordered list of mutations that applying a snapshot will issue.
-/
namespace ClusterConf

/-- The ways to change the live cluster. -/
inductive Operation where
  | create
  | update
  | delete
  deriving DecidableEq

def Operation.verb : Operation → String
  | create => "add"
  | update => "modify"
  | delete => "delete"

/-- What a mutation is aimed at. -/
inductive Target where
  | entity (kind : Kind)
  | globalConfig
  deriving DecidableEq

def Target.label : Target → String
  | entity kind => kind.label
  | globalConfig => "global configuration"

/-- A planned mutation; the global configuration has the empty key. -/
structure Action where
  operation : Operation
  target : Target
  key : String
  deriving DecidableEq

def Action.description (a : Action) : String :=
  match a.target with
  | .entity kind => a.operation.verb ++ " " ++ kind.label ++ " '" ++ a.key ++ "'"
  | .globalConfig => a.operation.verb ++ " global configuration"

/-- The actions of a plan and the fingerprint of the snapshot it leads to. -/
structure Plan where
  configHash : String
  actions : List Action

namespace Plan

/-- One action for each entity of a snapshot, kinds in the order given. -/
def actionsOn (operation : Operation) (s : Snapshot) (order : List Kind) : List Action :=
  order.flatMap fun k => (s.keys k).map fun key => ⟨operation, .entity k, key⟩

/-- Creations, then modifications with the global configuration last, both in creation order; then
deletions in deletion order. -/
def ofComparison (c : Comparison) (configHash : String) : Plan where
  configHash := configHash
  actions :=
    actionsOn .create c.added Kind.creationOrder ++
    actionsOn .update c.modified Kind.creationOrder ++
    (if c.modified.globalConfig.isSome then [⟨.update, .globalConfig, ""⟩] else []) ++
    actionsOn .delete c.removed Kind.deletionOrder

def isEmpty (p : Plan) : Bool := p.actions.isEmpty

def actionCount (p : Plan) : Nat := p.actions.length

def count (p : Plan) (operation : Operation) : Nat :=
  p.actions.countP (·.operation == operation)

def text (p : Plan) : String :=
  if p.isEmpty then "No changes required"
  else
    let lines := p.actions.zipIdx.map fun (a, i) => s!"  {i}. {a.description}\n"
    s!"Apply Plan ({p.actionCount} actions):\n" ++ String.join lines

end Plan
end ClusterConf
