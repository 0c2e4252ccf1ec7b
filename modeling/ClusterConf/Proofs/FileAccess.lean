import ClusterConf.Cli.Run
import ClusterConf.Proofs.ApplyRuns
set_option autoImplicit false

/-!
Sessions that leave the files of a machine as they are: those that read snapshots, report, open the
live cluster, or run a program on it that only reads. Main statement: a command that only looks
never changes a file.
-/
namespace ClusterConf

open Program

/-- A call that leaves the files as they are. -/
def MachineCall.LeavesFiles : MachineCall → Prop
  | createDirectories _ | createFile _ | appendFile _ _ | rename _ _ | removeFile _ => False
  | _ => True

/-! ## Reading files and the environment -/

namespace Session

theorem only_call {c : MachineCall} (leaves : c.LeavesFiles) :
    Only MachineCall.LeavesFiles (call c) := .request leaves

theorem only_note (event : Event) : Only MachineCall.LeavesFiles (note event) :=
  only_call (by trivial)

theorem only_readText (path : String) : Only MachineCall.LeavesFiles (readText? path) :=
  (only_call (by trivial)).bind fun content => by
    cases content <;> exact .done _

end Session

open Session

namespace Attempt

theorem only_ask {c : MachineCall} (leaves : c.LeavesFiles) :
    Only MachineCall.LeavesFiles (ask c).run := (only_call leaves).lift

theorem only_log (event : Event) : Only MachineCall.LeavesFiles (log event).run :=
  (only_note event).lift

end Attempt

open Attempt (only_ask only_log)

namespace EnvFile

theorem only_askAll (names : List String) : Only MachineCall.LeavesFiles (askAll names) := by
  induction names with
  | nil => exact .done _
  | cons name rest ih => exact (only_call (by trivial)).bind fun value => ih.bind fun _ => .done _

theorem only_setAll (lines : List RawLine) (earlier : List (String × String)) :
    Only MachineCall.LeavesFiles (setAll lines earlier) := by
  induction lines generalizing earlier with
  | nil => exact .done _
  | cons line rest ih =>
    cases line with
    | none => exact .done _
    | some line =>
      refine (only_askAll _).bind fun set => ?_
      split
      · exact .done _
      · exact ih _
      · refine (only_call (by trivial)).bind fun value => ?_
        split
        · exact (only_call (by trivial)).bind fun _ => ih _
        · exact ih _

theorem only_load (path : String) : Only MachineCall.LeavesFiles (load path) :=
  (only_call (by trivial)).bind fun content => by
    cases content with
    | none => exact .done _
    | some content => exact only_setAll _ _

end EnvFile

namespace SnapshotFile

theorem only_findIn (dir : String) (names : List String) :
    Only MachineCall.LeavesFiles (findIn dir names) := by
  induction names with
  | nil => exact .done _
  | cons name rest ih =>
    refine (only_call (by trivial)).bind fun there => ?_
    split
    · exact .done _
    · exact ih

theorem only_findUp (fuel : Nat) (dir : String) :
    Only MachineCall.LeavesFiles (findUp fuel dir) := by
  induction fuel generalizing dir with
  | zero => exact .done _
  | succ fuel ih =>
    refine (only_findIn dir defaultNames).bind fun found => ?_
    cases found with
    | some path => exact .done _
    | none =>
      dsimp only
      split
      · exact ih _
      · exact .done _

theorem only_find (start : String) : Only MachineCall.LeavesFiles (find start).run := by
  refine (only_findUp _ _).lift.attempt fun found => ?_
  cases found with
  | some path => exact (only_log _).attempt fun _ => .done _
  | none => exact .done _

theorem only_parse (format : TextFormat) (text : String) (location : Option String) :
    Only MachineCall.LeavesFiles (parse format text location).run := by
  refine (only_log _).attempt fun _ => ?_
  split
  · exact .done _
  · exact (only_log _).attempt fun _ => .done _

theorem only_load (path : String) : Only MachineCall.LeavesFiles (load path).run := by
  refine (only_log _).attempt fun _ => (only_ask (by trivial)).attempt fun there => .ite ?_ ?_
  · refine (only_readText path).lift.attempt fun text => ?_
    cases text with
    | none => exact .done _
    | some text => exact only_parse _ _ _
  · exact .done _

theorem only_loadEnv (base : Option String) :
    Only MachineCall.LeavesFiles (loadEnv base).run := by
  refine (only_ask (by trivial)).attempt fun there => .ite ?_ (only_log _)
  refine (only_log _).attempt fun _ => (EnvFile.only_load _).lift.attempt fun loaded => .ite ?_ ?_
  · exact .done _
  · exact .done _

end SnapshotFile

namespace LocalPlane

theorem only_openAt (path : String) : Only MachineCall.LeavesFiles (openAt path).run := by
  refine (only_ask (by trivial)).attempt fun there => .ite ?_ ?_
  · refine (only_log _).attempt fun _ => (only_readText path).lift.attempt fun text => ?_
    cases text with
    | none => exact .done _
    | some text =>
      dsimp only
      split
      · exact .done _
      · exact .done _
  · exact (only_log _).attempt fun _ => .done _

theorem only_serve {c : PlaneCall} (reads : c.Reads) (plane : LocalPlane) :
    Only MachineCall.LeavesFiles ((serve c).run plane) := by
  cases c with
  | list _ | read _ _ | showGlobal | backend => exact .done _
  | note event => exact (only_note event).bind fun _ => .done _
  | create _ | update _ _ | delete _ _ | modifyGlobal _ => cases reads

end LocalPlane

/-! ## Steps of commands -/

namespace Run

theorem only_say (text : String) : Only MachineCall.LeavesFiles (say text).run :=
  only_ask (by trivial)

namespace Context

variable {ctx : Context}

theorem only_report (show' : Reporter → String) :
    Only MachineCall.LeavesFiles (ctx.report show').run := by
  refine Only.attempt ?_ fun reporter => only_say _
  exact (only_ask (by trivial)).attempt fun _ => (only_ask (by trivial)).attempt fun _ =>
    (only_ask (by trivial)).attempt fun _ => .done _

theorem only_showPlan (p : Plan) : Only MachineCall.LeavesFiles (ctx.showPlan p).run :=
  (only_ask (by trivial)).attempt fun _ => only_report _

theorem only_checked (s : Snapshot) : Only MachineCall.LeavesFiles (checked s).run := by
  unfold checked
  dsimp only
  split
  · exact .done _
  · exact (only_log _).attempt fun _ => .done _

theorem only_warn (warnings : List String) : Only MachineCall.LeavesFiles
    (warnings.forM fun w => note (.warn .commands w) : Session Unit) := by
  induction warnings with
  | nil => exact .done _
  | cons w rest ih => exact (only_note _).bind fun _ => ih

theorem only_configPath : Only MachineCall.LeavesFiles ctx.configPath.run := by
  unfold configPath
  split
  · exact .done _
  · exact SnapshotFile.only_find _

theorem only_loadWithEnv (path : String) :
    Only MachineCall.LeavesFiles (loadWithEnv path).run :=
  (SnapshotFile.only_loadEnv _).attempt fun _ => SnapshotFile.only_load path

theorem only_desired : Only MachineCall.LeavesFiles ctx.desired.run :=
  only_configPath.attempt fun path => (only_log _).attempt fun _ =>
    (only_loadWithEnv path).attempt fun s => (only_checked s).attempt fun _ =>
      (only_warn _).lift.attempt fun _ => .done _

theorem only_openPlane : Only MachineCall.LeavesFiles ctx.openPlane.run := by
  refine (LocalPlane.only_openAt _).attempt fun plane => ?_
  split
  · exact (only_log _).attempt fun _ => .done _
  · exact .done _

/-! ## Programs that only read the cluster -/

variable {α : Type} {plane : LocalPlane}

def pause (ctx : Context) : StateT LocalPlane Session Unit :=
  if ctx.options.delay = 0 then return () else (call (.pause ctx.options.delay) : Session Unit)

theorem only_pause : Only MachineCall.LeavesFiles (ctx.pause.run plane) := by
  unfold pause
  split
  · exact .done _
  · exact (only_call (by trivial)).bind fun _ => .done _

theorem only_throttled {q : Control α} (reads : Only PlaneCall.Reads q) (plane : LocalPlane) :
    Only MachineCall.LeavesFiles
      ((q.run (Throttle.serve ctx.pause LocalPlane.serve)).run plane) := by
  induction reads generalizing plane with
  | done a => exact .done _
  | ask first _ ih =>
    refine Only.bind (Only.bind (LocalPlane.only_serve first plane) fun (told, between) => ?_)
      fun (answer, after) => ih answer after
    dsimp only
    split
    · exact only_pause.bind fun _ => .done _
    · exact .done _

theorem only_onPlane {p : Reconciler.Attempt α} (reads : Only PlaneCall.Reads p.run)
    (plane : LocalPlane) :
    Only MachineCall.LeavesFiles (ctx.onPlane plane p).run := by
  refine (only_throttled reads plane).lift.attempt fun (answer, after) => ?_
  cases answer with
  | ok a => exact .done _
  | error e => exact .done _

end Context

end Run

namespace Reconciler

theorem only_note (event : Event) : Only PlaneCall.Reads (Control.note event) := .request rfl

theorem only_plan (desired : Snapshot) : Only PlaneCall.Reads (plan desired).run := by
  rw [plan_eq]
  exact (only_survey desired).attempt fun _ => .done _

theorem only_checkDrift (desired : Snapshot) : Only PlaneCall.Reads (checkDrift desired).run := by
  refine (only_note _).lift.attempt fun _ => only_current.attempt fun live =>
    (only_compare live desired).attempt fun c => ?_
  dsimp only
  split
  · exact (only_note _).lift.attempt fun _ => .done _
  · exact .done _

theorem only_dry {α : Type} (p : Control α) : Only PlaneCall.Reads (DryRun.dry p) := by
  induction p with
  | done a => exact .done _
  | ask c next ih =>
    refine Only.bind ?_ ih
    cases c with
    | create _ | update _ _ | delete _ _ | modifyGlobal _ =>
      exact (only_note _).bind fun _ => .done _
    | backend => exact .done _
    | list _ | read _ _ | showGlobal | note _ => exact .request rfl

theorem only_finishPhase (r : PhaseReport) : Only PlaneCall.Reads (finishPhase r).run := by
  unfold finishPhase
  split <;> exact .done _

theorem only_rehearsed (c : Comparison) :
    Only PlaneCall.Reads (phases c fun p => DryRun.dry p).run :=
  (only_dry _).lift.attempt fun _ => (only_finishPhase _).attempt fun _ =>
    (only_dry _).lift.attempt fun _ => (only_finishPhase _).attempt fun _ =>
      (only_dry _).lift.attempt fun _ => (only_finishPhase _).attempt fun _ => .done _

theorem only_apply_dry (desired : Snapshot) : Only PlaneCall.Reads (apply desired true).run := by
  refine only_current.attempt fun live => (only_compare live desired).attempt fun c => ?_
  split
  · exact (only_note _).lift.attempt fun _ => .done _
  · refine (only_note _).lift.attempt fun _ => (only_rehearsed c).attempt fun parts => ?_
    dsimp only
    split
    · exact (only_note _).lift.attempt fun _ => .done _
    · exact (only_note _).lift.attempt fun _ => (only_note _).lift.attempt fun _ => .done _

end Reconciler

/-! ## Commands -/

/-- A command that only looks, at snapshots or at the live cluster. -/
def Command.looks : Command → Bool
  | .exportTo _ | .unlock _ _ => false
  | c => !c.mutates

namespace Run.Context

variable {ctx : Context}

theorem only_logs (events : List Event) :
    Only MachineCall.LeavesFiles (events.forM Attempt.log : Attempt Unit).run := by
  induction events with
  | nil => exact .done _
  | cons event rest ih => exact (only_log event).attempt fun _ => ih

theorem only_validate (warnings : Bool) :
    Only MachineCall.LeavesFiles (ctx.validate warnings).run :=
  only_configPath.attempt fun path => (only_log _).attempt fun _ =>
    (only_loadWithEnv path).attempt fun s => (only_report _).attempt fun _ =>
      (only_checked s).attempt fun _ => .done _

theorem only_diff (old new : String) : Only MachineCall.LeavesFiles (ctx.diff old new).run := by
  refine (SnapshotFile.only_load old).attempt fun old => (SnapshotFile.only_load new).attempt
    fun new => (only_logs _).attempt fun _ => ?_
  split
  · exact only_report _
  · exact .done _

theorem only_plan : Only MachineCall.LeavesFiles ctx.plan.run :=
  only_desired.attempt fun desired => only_openPlane.attempt fun plane =>
    (only_onPlane (Reconciler.only_plan desired) plane).attempt fun seen => only_showPlan seen.1

theorem only_apply_dry (yes : Bool) : Only MachineCall.LeavesFiles (ctx.apply true yes).run := by
  refine only_desired.attempt fun desired => only_openPlane.attempt fun plane =>
    (only_onPlane (Reconciler.only_plan desired) plane).attempt fun (p, plane) => ?_
  refine .ite (only_say _) ((only_showPlan p).attempt fun _ => ?_)
  exact (only_onPlane (Reconciler.only_apply_dry desired) plane).attempt fun _ => only_report _

theorem only_drift : Only MachineCall.LeavesFiles ctx.drift.run :=
  only_desired.attempt fun desired => only_openPlane.attempt fun plane =>
    (only_onPlane (Reconciler.only_checkDrift desired) plane).attempt fun _ => only_report _

theorem only_showLive : Only MachineCall.LeavesFiles ctx.showLive.run := by
  refine Only.attempt ?_ fun s => only_report _
  exact only_openPlane.attempt fun plane =>
    (only_onPlane Reconciler.only_current plane).attempt fun _ => .done _

/-- A command that only looks never changes a file. -/
theorem only_run {c : Command} (looks : c.looks = true) :
    Only MachineCall.LeavesFiles (ctx.run c).run := by
  cases c with
  | validate warnings => exact only_validate warnings
  | diff old new => exact only_diff old new
  | plan => exact only_plan
  | apply dryRun yes =>
    cases dryRun with
    | true => exact only_apply_dry yes
    | false => cases looks
  | drift => exact only_drift
  | «show» => exact only_showLive
  | destroy _ _ | exportTo _ | unlock _ _ => cases looks

end Run.Context

end ClusterConf
