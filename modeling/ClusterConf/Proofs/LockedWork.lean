import ClusterConf.Proofs.CommandRuns
import ClusterConf.Proofs.LockCrashes
set_option autoImplicit false

/-!
What commands do on the live cluster while they hold the lock of its state file. Main statement:
they save the cluster without touching the lock file, so that wherever a command stops, the lock
can be acquired after it has expired, unless its file was left torn.
-/
namespace ClusterConf

open Program
open FileTree (Apart)

/-! ## Calls on other files -/

namespace MachineCall.Spares

variable {path other : String}

theorem createFile (apart : Apart path other) : (MachineCall.createFile other).Spares path where
  served _ sound := World.keeps_change sound rfl fun _ => FileTree.keeps_createFile? sound apart
  cut _ _ _ cut := by cases cut

theorem appendFile (apart : Apart path other) (text : String) :
    (MachineCall.appendFile other text).Spares path where
  served _ sound := World.keeps_change sound rfl fun _ => FileTree.keeps_append? sound apart
  cut _ _ sound cut := by
    cases cut with
    | text split appended => exact ⟨rfl, FileTree.keeps_append? sound apart appended⟩

theorem rename {source : String} (leaves : Apart path source) (reaches : Apart path other) :
    (MachineCall.rename source other).Spares path where
  served _ sound := World.keeps_change sound rfl fun _ moved =>
    FileTree.keeps_rename? sound moved leaves reaches
  cut _ _ _ cut := by cases cut

end MachineCall.Spares

/-! ## The plane on a state file -/

/-- A session spares the lock file of a state file. -/
abbrev Program.SparesLock {α : Type} (path : String) (p : Session α) : Prop :=
  Only (MachineCall.Spares (Path.withExtension path "lock")) p

namespace LocalPlane

variable {path : String} (unlike : Path.extension? path ≠ some "lock")

include unlike

theorem spares_persistAt (s : Snapshot) : SparesLock path (persistAt path s).run := by
  have others : Apart (Path.withExtension path "lock") (Path.withExtension path "tmp") :=
    .extensions (by decide) (by decide) (by decide) (by decide) (by decide)
  have own : Apart (Path.withExtension path "lock") path :=
    (Apart.beside (by decide) (by decide) unlike).2
  have stepped : ∀ (s : PersistStep) {c : Session Bool}, SparesLock path c →
      SparesLock path (step s c).run := by
    intro s c asked
    refine asked.lift.attempt fun done => ?_
    cases done <;> exact .done _
  have written : SparesLock path (do
      let temporary := Path.withExtension path "tmp"
      step .create (Session.call (.createFile temporary))
      step .write (Session.call (.appendFile temporary (s.toText .json)))
      step .sync (Session.call (.syncFile temporary))
      step .rename (Session.call (.rename temporary path))
      (Session.note (.debug .localPlane s!"State saved to {path}") : Session Unit) :
        ExceptT PlaneError Session Unit).run :=
    (stepped .create (.request (.createFile others))).attempt fun _ =>
    (stepped .write (.request (.appendFile others _))).attempt fun _ =>
    (stepped .sync (.request (.of_leaves (by trivial) _))).attempt fun _ =>
    (stepped .rename (.request (.rename others own))).attempt fun _ =>
    Only.lift (.request (.of_leaves (by trivial) _))
  unfold persistAt
  cases Path.properParent? path with
  | none => exact written
  | some parent =>
    exact (stepped .directory (.request (.createDirectories _ parent))).attempt fun _ => written

variable {plane : LocalPlane} (kept : plane.path = some path)

include kept

theorem spares_commit (next : Snapshot) : SparesLock path ((commit next).run plane) := by
  simp only [commit, StateT.run_bind, StateT.run_get, pure_bind]
  refine Only.bind (Only.bind ?_ fun _ => .done _) fun committed => ?_
  · rw [persist, kept]
    exact spares_persistAt unlike next
  · obtain ⟨answer, between⟩ := committed
    cases answer <;> exact .done _

theorem spares_serve (c : PlaneCall) : SparesLock path ((serve c).run plane) := by
  have committed : ∀ outcome, SparesLock path ((Store.serve.commit commit outcome).run plane) := by
    intro outcome
    cases outcome with
    | error e => exact .done _
    | ok next => exact spares_commit unlike kept next
  by_cases reads : c.Reads
  · exact (only_serve reads plane).mono fun _ leaves => .of_leaves leaves _
  · cases c with
    | create e => exact committed (Store.create e plane.state)
    | update key e => exact committed (Store.update key e plane.state)
    | delete kind key => exact committed (Store.delete kind key plane.state)
    | modifyGlobal g => exact committed (.ok { plane.state with globalConfig := some g })
    | _ => exact absurd rfl reads

end LocalPlane

/-! ## Work under the lock -/

namespace Run.Context

open Lock

variable {ctx : Context} {α : Type} {path : String} {plane : LocalPlane}

theorem withLock_eq (lockPath : String) (work : Attempt α) :
    withLock (some lockPath) work = guarded lockPath "" (fun _ => work.run) >>= fun result =>
      match result with
      | .ok a => return a
      | .error e => throw e := by
  simp only [withLock, guarded, bind_assoc, pure_bind]
  rfl

section StateFile

variable (unlike : Path.extension? path ≠ some "lock") (kept : plane.path = some path)

include unlike kept

theorem spares_throttled (q : Control α) :
    SparesLock path ((q.run (Throttle.serve ctx.pause LocalPlane.serve)).run plane) := by
  induction q generalizing plane with
  | done a => exact .done _
  | ask c next ih =>
    have throttled : SparesLock path ((Throttle.serve ctx.pause LocalPlane.serve c).run plane) := by
      refine (LocalPlane.spares_serve unlike kept c).bind fun told => ?_
      dsimp only
      split
      · exact (only_pause.mono fun _ leaves => .of_leaves leaves _).bind fun _ => .done _
      · exact .done _
    refine throttled.bind_of_trace fun xs told trace => ?_
    obtain ⟨answer, after⟩ := told
    -- The plane still keeps its cluster in the same file.
    obtain ⟨_, _, -, called, -⟩ := LocalPlane.trace_throttle idle_pause trace
    exact ih answer ((LocalPlane.trace_serve called).1.trans kept)

theorem spares_onPlane (p : Reconciler.Attempt α) :
    SparesLock path (ctx.onPlane plane p).run := by
  refine (spares_throttled unlike kept p.run).lift.attempt fun told => ?_
  obtain ⟨answer, after⟩ := told
  cases answer <;> exact .done _

/-- Wherever a command stops that works on the live cluster under the lock of its state file, it
leaves the lock file as processes do. -/
theorem safe_withLock (p : Reconciler.Attempt α) :
    Safe (Path.withExtension path "lock") (withLock plane.lockPath? (ctx.onPlane plane p)).run := by
  rw [LocalPlane.lockPath?, kept, Option.map_some, withLock_eq]
  refine (safe_guarded "" fun _ => spares_onPlane unlike kept p).attempt fun result => ?_
  cases result <;> exact .done _

/-- A command has stopped while it worked on the live cluster. Once the lock of the state file has
expired it can be acquired, unless its file was left torn. -/
theorem acquire_after_work (p : Reconciler.Attempt α) {later : String} {w v u : World}
    (settled : Settled (Path.withExtension path "lock") w)
    (stops : Stops (withLock plane.lockPath? (ctx.onPlane plane p)).run w v)
    (same : v.SameFiles u) (late : (v.clock.plusSeconds expirySeconds).before u.clock = true)
    (smooth : Smooth ((acquire (Path.withExtension path "lock") later).run.journal World.serve u))
    (whole : ¬ Torn (Path.withExtension path "lock") v) :
    let after := (acquire (Path.withExtension path "lock") later).run.exec World.serve u
    ∃ info, after.1 = .ok info ∧
      after.2.files.read? after.2.cwd (Path.withExtension path "lock") =
        some info.toText.toUTF8 :=
  (acquire_settled (safe_withLock unlike kept p w v settled stops) same late smooth).1 whole

end StateFile

end Run.Context

end ClusterConf
