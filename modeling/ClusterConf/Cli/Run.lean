import ClusterConf.Cli.Arguments
import ClusterConf.Log
import ClusterConf.Machine.LocalPlane
import ClusterConf.Machine.Lock
import ClusterConf.Machine.SnapshotFile
import ClusterConf.Plane.Throttle
set_option autoImplicit false

/-!
What each command does on a machine. Commands that may change the live cluster do so under the lock
of its state file, and ask before unless they are told not to.
-/
namespace ClusterConf

namespace Run

open Session Attempt

def say (text : String) : Attempt Unit := ask (.print (text ++ "\n"))

/-- Whether to write in colours: as one environment variable wants it, unless another or the lack
of a terminal forbids it. -/
def wantsColor (forced never allowed : Option String) (onTerminal : Bool) : Bool :=
  if forced.any (· != "0") then true
  else if never.isSome then false
  else onTerminal && allowed.all (· != "0")

structure Context where
  options : CommonOptions
  onTerminal : Bool

namespace Context

/-- How to show things, as the options and the environment want it. -/
def reporter (ctx : Context) : Attempt Reporter := do
  let forced ← ask (.getVariable "CLICOLOR_FORCE")
  let never ← ask (.getVariable "NO_COLOR")
  let allowed ← ask (.getVariable "CLICOLOR")
  return ⟨ctx.options.output, wantsColor forced never allowed ctx.onTerminal⟩

def report (ctx : Context) (show' : Reporter → String) : Attempt Unit := do
  say (show' (← ctx.reporter))

/-! ## Files -/

/-- The snapshot file: the one that is named, or the nearest one upwards. -/
def configPath (ctx : Context) : Attempt String :=
  match ctx.options.config with
  | some path => return path
  | none => SnapshotFile.find "."

/-- Loads a snapshot file with the environment that is kept beside it. -/
def loadWithEnv (path : String) : Attempt Snapshot := do
  SnapshotFile.loadEnv (Path.properParent? path)
  SnapshotFile.load path

/-- Fails with the first fault of a snapshot. -/
def checked (s : Snapshot) : Attempt Validation := do
  let v := Validation.check Validation.valueTypes s
  match v.errors with
  | fault :: _ => throw (.config (.invalid fault))
  | [] =>
    log (.debug .validation "Snapshot validation passed")
    return v

/-- Loads the desired snapshot, which has to be valid. -/
def desired (ctx : Context) : Attempt Snapshot := do
  let path ← ctx.configPath
  log (.debug .commands s!"Loading configuration from: {path}")
  let s ← loadWithEnv path
  let v ← checked s
  (v.warnings.forM fun w => note (.warn .commands w) : Session Unit)
  return s

/-! ## The live cluster -/

/-- The state file: the one that is named, or the one at the default place. -/
def statePath (ctx : Context) : String := ctx.options.state.getD (LocalPlane.defaultPath ".")

def openPlane (ctx : Context) : Attempt LocalPlane := do
  let plane ← LocalPlane.openAt ctx.statePath
  if ctx.options.delay != 0 then
    let pause := Throttle.durationText ctx.options.delay
    log (.debug .commands s!"Throttling control plane calls by {pause}")
  return plane

/-- Runs a program on the plane, pausing after its calls as the options want it. -/
def onPlane {α : Type} (ctx : Context) (plane : LocalPlane) (p : Reconciler.Attempt α) :
    Attempt (α × LocalPlane) := do
  let pause : StateT LocalPlane Session Unit :=
    if ctx.options.delay = 0 then return () else (call (.pause ctx.options.delay) : Session Unit)
  let (answer, plane) ← ExceptT.lift ((p.run.run (Throttle.serve pause LocalPlane.serve)).run plane)
  match answer with
  | .ok a => return (a, plane)
  | .error e => throw e

/-- Runs work while the lock of the plane is held. The lock is released whether the work fails or
not, and a failure to release it is told before one of the work. -/
def withLock {α : Type} (lockPath : Option String) (work : Attempt α) : Attempt α :=
  match lockPath with
  | none => work
  | some path => do
    let lock ← Lock.acquire path ""
    let result ← ExceptT.lift work.run
    Lock.release path lock.lockId
    match result with
    | .ok a => return a
    | .error e => throw e

/-- Asks a question and compares the answer with the expected one, regardless of case. -/
def confirm (prompt expected : String) : Attempt Bool := do
  ask (.print prompt)
  match ← ask .readLine with
  | some line => return Text.sameLetters (String.ofList (Text.trim line.toList)) expected
  | none => throw .io

/-! ## Commands -/

/-- Shows what is wrong with the desired snapshot, and fails if anything is. -/
def validate (ctx : Context) (warnings : Bool) : Attempt Unit := do
  let path ← ctx.configPath
  log (.info .commands s!"Validating configuration: {path}")
  let s ← loadWithEnv path
  ctx.report fun r => r.validation (Validation.check Validation.valueTypes s) s warnings
  discard (checked s)

def diff (ctx : Context) (old new : String) : Attempt Unit := do
  let old ← SnapshotFile.load old
  let new ← SnapshotFile.load new
  (Comparison.events old new).forM log
  match Comparison.between old new with
  | .ok c => ctx.report fun r => r.comparison c
  | .error e => throw (.compare e)

def showPlan (ctx : Context) (p : Plan) : Attempt Unit := do
  let now ← ask .now
  ctx.report fun r => r.plan p now

def plan (ctx : Context) : Attempt Unit := do
  let desired ← ctx.desired
  let plane ← ctx.openPlane
  let (p, _) ← ctx.onPlane plane (Reconciler.plan desired)
  ctx.showPlan p

/-- Converges the live cluster to the desired snapshot. The plan is shown first; the apply itself
compares anew, under the lock. -/
def apply (ctx : Context) (dryRun yes : Bool) : Attempt Unit := do
  let desired ← ctx.desired
  let plane ← ctx.openPlane
  let (p, plane) ← ctx.onPlane plane (Reconciler.plan desired)
  if p.isEmpty then say "No changes to apply."
  else
    ctx.showPlan p
    let agreed ←
      if dryRun || yes then pure true
      else confirm "Do you want to apply this plan? [y/N]: " "y"
    if agreed then
      let lockPath := if dryRun then none else plane.lockPath?
      let (outcome, _) ← withLock lockPath (ctx.onPlane plane (Reconciler.apply desired dryRun))
      ctx.report fun r => r.outcome outcome
    else say "Apply cancelled."

def drift (ctx : Context) : Attempt Unit := do
  let desired ← ctx.desired
  let plane ← ctx.openPlane
  let (d, _) ← ctx.onPlane plane (Reconciler.checkDrift desired)
  ctx.report fun r => r.drift d

/-- Deletes every live entity, and fails if some could not be deleted. -/
def destroy (ctx : Context) (goOn yes : Bool) : Attempt Unit := do
  let plane ← ctx.openPlane
  let (live, plane) ← ctx.onPlane plane Reconciler.current
  if live.entityCount = 0 then say "No entities to destroy."
  else
    ctx.report fun r => r.snapshot live
    let agreed ←
      if yes then pure true
      else
        confirm "\nThis action is IRREVERSIBLE. Type 'destroy' to confirm: " "destroy"
    if agreed then
      let (phase, _) ← withLock plane.lockPath? (ctx.onPlane plane (Reconciler.destroy goOn))
      ctx.report fun r => r.phase phase
      match phase.error with
      | some e => throw (.apply (.failed e))
      | none => return ()
    else say "Destruction cancelled."

def live (ctx : Context) : Attempt Snapshot := do
  let plane ← ctx.openPlane
  return (← ctx.onPlane plane Reconciler.current).1

def showLive (ctx : Context) : Attempt Unit := do
  let s ← ctx.live
  ctx.report fun r => r.snapshot s

def exportTo (ctx : Context) (path : String) : Attempt Unit := do
  let s ← ctx.live
  SnapshotFile.write s path
  say s!"Exported {s.entityCount} entities to {path}"

/-- Releases the lock of the state file: the one of an id, or by force whichever there is. -/
def unlock (ctx : Context) (lockId : Option String) (force : Bool) : Attempt Unit := do
  let plane ← ctx.openPlane
  match plane.lockPath? with
  | none => say "No lock file for this state."
  | some path =>
    if force then
      match ← Lock.read path with
      | some info =>
        Lock.release path info.lockId
        say s!"State forcefully unlocked (was held by {info.holder})."
      | none => say "State is not locked."
    else
      match lockId with
      | some id =>
        Lock.release path id
        say "State unlocked."
      | none => say "Please provide --lock-id or use --force"

def run (ctx : Context) : Command → Attempt Unit
  | .validate warnings => ctx.validate warnings
  | .diff old new => ctx.diff old new
  | .plan => ctx.plan
  | .apply dryRun yes => ctx.apply dryRun yes
  | .drift => ctx.drift
  | .destroy goOn yes => ctx.destroy goOn yes
  | .show => ctx.showLive
  | .exportTo path => ctx.exportTo path
  | .unlock lockId force => ctx.unlock lockId force

end Context
end Run

/-- Runs a command and tells the status that it ends with. -/
def Invocation.run (i : Invocation) (onTerminal : Bool) : Session UInt32 := do
  match ← ((⟨i.options, onTerminal⟩ : Run.Context).run i.command).run with
  | .ok () => return 0
  | .error e =>
    Session.call (.print s!"Error: {e.message}\n")
    return 1

end ClusterConf
