import ClusterConf.Plane.Store
set_option autoImplicit false

/-!
Rehearsals: a control plane in memory that keeps a journal of its calls, and where chosen calls
fail without effect.
-/
namespace ClusterConf

/-- The sort of a call, as faults are told by. -/
inductive CallName where
  | create
  | update
  | delete
  | list
  | read
  | show
  deriving DecidableEq

/-- How a chosen call fails. -/
inductive FaultCause where
  | rejected (reason : String)
  | backend (reason : String)
  | notFound
  | alreadyExists

/-- Calls that fail: those that agree in each part that is given. -/
structure FaultRule where
  call : Option CallName
  kind : Option Kind
  key : Option String
  cause : FaultCause

/-- A call as faults see it. The global configuration has no kind. -/
structure CallSite where
  call : CallName
  kind : Option Kind
  key : String

namespace CallSite

/-- The key of the global configuration for faults. -/
def globalKey : String := "global"

/-- The call as faults see it; what does not go to the cluster is no such call. -/
def ofCall? : PlaneCall → Option CallSite
  | .create e => some ⟨.create, some e.kind, e.key⟩
  | .update key e => some ⟨.update, some e.kind, key⟩
  | .delete kind key => some ⟨.delete, some kind, key⟩
  | .list kind => some ⟨.list, some kind, ""⟩
  | .read kind key => some ⟨.read, some kind, key⟩
  | .showGlobal => some ⟨.show, none, globalKey⟩
  | .modifyGlobal _ => some ⟨.update, none, globalKey⟩
  | .backend | .note _ => none

def line (site : CallSite) : String :=
  let kind := (site.kind.map Kind.label).getD "global configuration"
  let key := if site.kind.isSome && site.call ≠ .list then " " ++ site.key else ""
  match site.call with
  | .create => s!"create {kind}{key}"
  | .update => s!"update {kind}{key}"
  | .delete => s!"delete {kind}{key}"
  | .list => s!"list {kind}"
  | .read => s!"read {kind}{key}"
  | .show => s!"show {kind}"

end CallSite

namespace FaultRule

def applies (rule : FaultRule) (site : CallSite) : Bool :=
  rule.call.all (· == site.call) && rule.kind.all (site.kind == some ·) &&
    rule.key.all (· == site.key)

/-- The error of a failing call; the global configuration is given out as a manager. -/
def error (rule : FaultRule) (site : CallSite) : PlaneError :=
  let kind := site.kind.getD .manager
  match rule.cause with
  | .rejected reason => .rejected reason
  | .backend reason => .backend reason
  | .notFound => .notFound kind site.key
  | .alreadyExists => .alreadyExists kind site.key

end FaultRule

/-- The state of a rehearsal. -/
structure Rehearsal where
  store : Snapshot
  /-- Lines of the journal, last first. -/
  journal : List String
  faults : List FaultRule
  /-- Keys that are listed without being there. -/
  extraKeys : Kind → List String
  journalReads : Bool
  /-- Log events, last first. -/
  log : List Event

namespace Rehearsal

/-- Journals a call and tells the first fault that applies to it. -/
def enter (c : PlaneCall) : StateM Rehearsal (Option PlaneError) := fun r =>
  match CallSite.ofCall? c with
  | none => (none, r)
  | some site =>
    let keep := c.isMutation || r.journalReads
    ((r.faults.find? (·.applies site)).map (·.error site),
      if keep then { r with journal := site.line :: r.journal } else r)

/-- The calls as they are answered when no fault applies. -/
def answer : (c : PlaneCall) → StateM Rehearsal c.Answer
  | .list kind => do
    let r ← get
    return Except.ok (r.store.keys kind ++ r.extraKeys kind)
  | c =>
    Store.serve "recording" (return (← get).store)
      (fun next => do
        modify fun r => { r with store := next }
        return .ok ())
      (fun event => modify fun r => { r with log := event :: r.log }) c

def serve (c : PlaneCall) : StateM Rehearsal c.Answer := do
  match (← enter c).bind c.refusal? with
  | some refusal => return refusal
  | none => answer c

end Rehearsal
end ClusterConf
