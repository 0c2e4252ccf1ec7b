import ClusterConf.Plane.Call
set_option autoImplicit false

/-!
Phases: one mutation after the other for every entity of a snapshot. A phase reports exactly what
it changed, so that it can be undone.
-/
namespace ClusterConf

structure PhaseReport where
  operation : Operation
  /-- The entities whose call succeeded, and the global configuration if its call did. -/
  completed : Snapshot
  /-- The number of calls made. -/
  attempted : Nat
  error : Option PhaseFailure

namespace PhaseReport

def isSuccess (r : PhaseReport) : Bool := r.error.isNone

def succeeded (r : PhaseReport) : Nat :=
  r.completed.entityCount + if r.completed.globalConfig.isSome then 1 else 0

def result (r : PhaseReport) : Except PhaseFailure Snapshot :=
  match r.error with
  | some e => .error e
  | none => .ok r.completed

def text (r : PhaseReport) : String :=
  let status := if r.isSuccess then "SUCCESS" else "FAILED"
  let errorLine :=
    match r.error with
    | some e => s!"  Error: {e.message}\n"
    | none => ""
  s!"{r.operation.verb} phase: {status}\n  Attempted: {r.attempted}\n" ++
    s!"  Succeeded: {r.succeeded}\n" ++ errorLine

end PhaseReport

namespace Phase

open Control

/-- How far a phase has come. -/
structure Progress where
  completed : Snapshot
  attempted : Nat
  /-- Failed calls in order. -/
  failures : List CallFailure

namespace Progress

def start : Progress := ⟨.empty, 0, []⟩

def success (p : Progress) (e : Entity) : Progress :=
  { p with completed := p.completed.push e, attempted := p.attempted + 1 }

def failure (p : Progress) (f : CallFailure) : Progress :=
  { p with attempted := p.attempted + 1, failures := p.failures ++ [f] }

end Progress

/-- The call that a phase makes for an entity. -/
def mutate : Operation → Entity → Control (Except PlaneError Unit)
  | .create, e => call (.create e)
  | .update, e => call (.update e.key e)
  | .delete, e => call (.delete e.kind e.key)

def activity : Operation → String
  | .create => "Adding"
  | .update => "Modifying"
  | .delete => "Deleting"

def failureEvent (operation : Operation) (goOn : Bool) (f : CallFailure) : Event :=
  match operation with
  | .create | .update => .error .phases ("Failed " ++ f.attempt)
  | .delete =>
    if goOn then .warn .phases (f.message ++ ", continuing") else .error .phases f.message

/-- Calls for one entity after the other. A failed call ends the phase unless it goes on. -/
def mutateEach (operation : Operation) (goOn : Bool) : List Entity → Progress → Control Progress
  | [], p => return p
  | e :: rest, p => do
    note (.debug .phases s!"{activity operation} {e.kind.label} {e.key}")
    match ← mutate operation e with
    | .ok () => mutateEach operation goOn rest (p.success e)
    | .error source =>
      let f := .entity operation e.kind e.key source
      note (failureEvent operation goOn f)
      if goOn then mutateEach operation goOn rest (p.failure f) else return p.failure f

/-- The entities of a snapshot, kind by kind in the order given. -/
def entitiesIn (order : List Kind) (s : Snapshot) : List Entity := order.flatMap s.entities

def announce (operation : Operation) (s : Snapshot) : Control Unit :=
  note (.info .phases s!"{activity operation} {s.entityCount} entities")

/-- A phase that stops at its first failure reports just that. -/
def stopped (operation : Operation) (p : Progress) : PhaseReport :=
  ⟨operation, p.completed, p.attempted, p.failures.head?.map .single⟩

/-- Creates every entity in creation order. The global configuration is not touched. -/
def addAll (s : Snapshot) : Control PhaseReport := do
  announce .create s
  return stopped .create (← mutateEach .create false (entitiesIn Kind.creationOrder s) .start)

/-- Updates every entity in creation order, then the global configuration if there is one. -/
def modifyAll (s : Snapshot) : Control PhaseReport := do
  announce .update s
  let p ← mutateEach .update false (entitiesIn Kind.creationOrder s) .start
  match p.failures, s.globalConfig with
  | [], some g =>
    note (.debug .phases "Modifying global configuration")
    match ← call (.modifyGlobal g) with
    | .ok () =>
      let completed := { p.completed with globalConfig := some g }
      return ⟨.update, completed, p.attempted + 1, none⟩
    | .error source =>
      let f := .globalConfig source
      note (failureEvent .update false f)
      return ⟨.update, p.completed, p.attempted + 1, some (.single f)⟩
  | _, _ => return stopped .update p

/-- Deletes every entity in deletion order. If it is to go on after failures, all of them together
are the failure of the phase. The global configuration is not touched. -/
def deleteAll (s : Snapshot) (goOn : Bool) : Control PhaseReport := do
  announce .delete s
  let p ← mutateEach .delete goOn (entitiesIn Kind.deletionOrder s) .start
  if goOn && !p.failures.isEmpty then
    note (.error .phases s!"{p.failures.length} of {p.attempted} deletions failed")
    return ⟨.delete, p.completed, p.attempted, some (.aggregate p.failures)⟩
  else return stopped .delete p

end Phase
end ClusterConf
