import ClusterConf.Proofs.FileAccess
import ClusterConf.Proofs.Writers
set_option autoImplicit false

/-!
What the commands that change a cluster do on their machine. Main statements: such a command leaves
all files alone until it asks for the lock of the state file, and what it writes while it holds the
lock comes of the state file as it was loaded before.
-/
namespace ClusterConf

open Program

/-- No file was changed. -/
def Calm (xs : List (Exchange Machine)) : Prop := ∀ x ∈ xs, x.request.LeavesFiles

theorem calm_append {xs ys : List (Exchange Machine)} : Calm (xs ++ ys) ↔ Calm xs ∧ Calm ys :=
  List.forall_mem_append

/-! ## Programs on the plane -/

namespace LocalPlane

variable {path : String} {plane : LocalPlane} {xs : List (Exchange Machine)}

theorem openAt_path (trace : Trace (openAt path).run xs (.ok plane)) : plane.path = some path := by
  obtain ⟨ys, zs, there, rfl, -, rest⟩ := trace_attempt_ok trace
  cases there with
  | false =>
    obtain ⟨us, vs, u, rfl, -, last⟩ := trace_attempt_ok rest
    cases (trace_done_iff.mp last).2
    rfl
  | true =>
    obtain ⟨us, vs, u, rfl, -, last⟩ := trace_attempt_ok rest
    obtain ⟨ts, ws, text, rfl, -, parsed⟩ := trace_attempt_ok last
    cases text with
    | none => cases (trace_done_iff.mp parsed).2
    | some text =>
      dsimp only at parsed
      split at parsed
      · cases (trace_done_iff.mp parsed).2
      · cases (trace_done_iff.mp parsed).2
        rfl

end LocalPlane

namespace Run.Context

variable {ctx : Context} {α β : Type} {path : String} {plane : LocalPlane}
  {xs : List (Exchange Machine)} {p : Reconciler.Attempt α}

theorem idle_pause : LocalPlane.Idle ctx.pause := by
  unfold pause
  split
  · exact LocalPlane.idle_none
  · exact LocalPlane.idle_pause _

theorem trace_onPlane {r : Except Error (α × LocalPlane)}
    (trace : Trace (ctx.onPlane plane p).run xs r) :
    ∃ answer after, Trace ((p.run.run (Throttle.serve ctx.pause LocalPlane.serve)).run plane) xs
      (answer, after) ∧ r = answer.map fun a => (a, after) := by
  obtain ⟨ys, zs, first, rfl, lifted, last⟩ := trace_attempt_bind trace
  obtain ⟨⟨answer, after⟩, running, rfl⟩ := trace_lift_iff.mp lifted
  refine ⟨answer, after, ?_⟩
  cases answer with
  | ok a =>
    obtain ⟨rfl, rfl⟩ := trace_done_iff.mp last
    rw [List.append_nil]
    exact ⟨running, rfl⟩
  | error e =>
    obtain ⟨rfl, rfl⟩ := trace_done_iff.mp last
    rw [List.append_nil]
    exact ⟨running, rfl⟩

/-- On a machine that does what it is asked, a program on a plane does as it is recorded. -/
theorem onPlane_recorded (kept : plane.path = some path) {r : Except Error (α × LocalPlane)}
    (trace : Trace (ctx.onPlane plane p).run xs r) (smooth : Smooth xs) :
    let recorded := p.run.exec recording (plane.state, [])
    r = recorded.1.map (fun a => (a, ⟨some path, recorded.2.1⟩)) ∧
      textsOf xs = recorded.2.2.map fun s => s.toText .json := by
  obtain ⟨answer, ⟨place, state⟩, running, rfl⟩ := trace_onPlane trace
  obtain ⟨rfl, new, recorded, texts⟩ := LocalPlane.trace_recording idle_pause kept [] running smooth
  rw [recorded]
  exact ⟨rfl, texts⟩

/-! ## The lock of the state file -/

/-- What passes while the lock of a state file is asked for: it is refused, or some texts are
written while it is held. -/
inductive Locking (lockPath : String) (texts : List String) : List (Exchange Machine) → Prop
  | refused {xs : List (Exchange Machine)} {e : Error}
      (refusal : Trace (Lock.acquire lockPath "").run xs (.error e)) : Locking lockPath texts xs
  | held {acquiring working releasing : List (Exchange Machine)} {lock : LockInfo}
      {result : Except Error Unit}
      (acquired : Trace (Lock.acquire lockPath "").run acquiring (.ok lock))
      (written : textsOf working = texts)
      (released : Trace (Lock.release lockPath lock.lockId).run releasing result) :
      Locking lockPath texts (acquiring ++ (working ++ releasing))

/-- What is done on a plane under a lock is done while the lock is held. -/
theorem withLock_locking {lockPath : String} {r : Except Error (α × LocalPlane)}
    (kept : plane.path = some path)
    (trace : Trace (withLock (some lockPath) (ctx.onPlane plane p)).run xs r)
    (smooth : Smooth xs) :
    Locking lockPath
      ((p.run.exec recording (plane.state, [])).2.2.map fun s => s.toText .json) xs := by
  obtain ⟨ys, zs, acquired, rfl, acquiring, rest⟩ := trace_attempt_bind trace
  cases acquired with
  | error e =>
    obtain ⟨rfl, -⟩ := rest
    rw [List.append_nil]
    exact .refused acquiring
  | ok lock =>
    obtain ⟨us, vs, worked, rfl, lifted, rest⟩ := trace_attempt_bind rest
    obtain ⟨result, working, rfl⟩ := trace_lift_iff.mp lifted
    obtain ⟨ts, ws, released, rfl, releasing, last⟩ := trace_attempt_bind rest
    have nothing : ws = [] := by
      cases released with
      | error e => exact last.1
      | ok u => cases result <;> exact (trace_done_iff.mp last).1
    have smoothWork := (smooth_append.mp (smooth_append.mp smooth).2).1
    obtain ⟨-, texts⟩ := onPlane_recorded kept working smoothWork
    rw [nothing, List.append_nil]
    exact .held acquiring texts releasing

/-! ## Commands that change the cluster -/

/-- What a writer does with a state file: it loads the file and finds something to do in it, and
then asks for the lock. -/
inductive Changes (w : Writer) (path : String) : List (Exchange Machine) → Prop
  | intro {opening looking locking closing : List (Exchange Machine)} {loaded : Snapshot}
      (opened : Trace (LocalPlane.openAt path).run opening (.ok ⟨some path, loaded⟩))
      (looked : Calm looking)
      (proposes : w.proposes loaded = true)
      (locked : Locking (Path.withExtension path "lock")
        ((w.writes loaded).map fun s => s.toText .json) locking)
      (closed : Calm closing) :
      Changes w path (opening ++ (looking ++ (locking ++ closing)))

theorem openPlane_cases (trace : Trace ctx.openPlane.run xs (.ok plane)) :
    ∃ opening noting loaded, xs = opening ++ noting ∧
      Trace (LocalPlane.openAt ctx.statePath).run opening (.ok ⟨some ctx.statePath, loaded⟩) ∧
      Calm noting ∧ plane = ⟨some ctx.statePath, loaded⟩ := by
  obtain ⟨ys, zs, ⟨place, loaded⟩, rfl, opened, rest⟩ := trace_attempt_ok trace
  obtain rfl : place = some ctx.statePath := LocalPlane.openAt_path opened
  refine ⟨ys, zs, loaded, rfl, opened, ?_⟩
  dsimp only at rest
  split at rest
  · obtain ⟨us, vs, u, rfl, noted, last⟩ := trace_attempt_ok rest
    obtain ⟨rfl, equal⟩ := trace_done_iff.mp last
    refine ⟨?_, Except.ok.inj equal⟩
    rw [List.append_nil]
    exact (Attempt.only_log _).trace noted
  · obtain ⟨rfl, equal⟩ := trace_done_iff.mp rest
    exact ⟨List.forall_mem_nil _, Except.ok.inj equal⟩

theorem exec_steady {q : Control α} (reads : Only PlaneCall.Reads q) (s : Recorded) :
    (q.exec recording s).2 = s :=
  ((exec_follows recording q s).steady Recorded.unchanged (reads.trace (exec_trace _ q s))).1

section Command

variable {w : Writer} {look : Reconciler.Attempt α} {work : Reconciler.Attempt β}
  {shown : Attempt Unit} {close : β × LocalPlane → Attempt Unit} {r : Except Error Unit}

/-- A look at a plane tells what the plane holds, and changes nothing. -/
theorem look_cases {seen : α × LocalPlane} (reads : Only PlaneCall.Reads look.run)
    (kept : plane.path = some path) (trace : Trace (ctx.onPlane plane look).run xs (.ok seen))
    (smooth : Smooth xs) :
    (look.run.exec recording (plane.state, [])).1 = .ok seen.1 ∧
      seen.2 = ⟨some path, plane.state⟩ := by
  obtain ⟨told, -⟩ := onPlane_recorded kept trace smooth
  rw [exec_steady reads] at told
  cases found : (look.run.exec recording (plane.state, [])).1 with
  | error e =>
    rw [found] at told
    cases told
  | ok a =>
    rw [found] at told
    obtain rfl := Except.ok.inj told
    exact ⟨rfl, rfl⟩

/-- A command that opens a state file and looks at it comes to nothing, or goes on with what it has
loaded. -/
theorem opened_cases {f : α × LocalPlane → Attempt Unit} (reads : Only PlaneCall.Reads look.run)
    (trace : Trace (ctx.openPlane >>= fun plane => ctx.onPlane plane look >>= f).run xs r)
    (smooth : Smooth xs) :
    Calm xs ∨
      ∃ opening looking rest loaded a, xs = opening ++ (looking ++ rest) ∧
        Trace (LocalPlane.openAt ctx.statePath).run opening (.ok ⟨some ctx.statePath, loaded⟩) ∧
        Calm looking ∧ (look.run.exec recording (loaded, [])).1 = .ok a ∧
        Trace (f (a, ⟨some ctx.statePath, loaded⟩)).run rest r := by
  obtain ⟨ys, rest, opened, rfl, opening, trace⟩ := trace_attempt_bind trace
  have leaves := only_openPlane.trace opening
  cases opened with
  | error e =>
    rw [trace.1, List.append_nil]
    exact .inl leaves
  | ok plane =>
    obtain ⟨us, vs, loaded, rfl, loading, noted, rfl⟩ := openPlane_cases opening
    obtain ⟨zs, rest, looked, rfl, looking, trace⟩ := trace_attempt_bind trace
    have calm := (only_onPlane reads _).trace looking
    cases looked with
    | error e =>
      rw [trace.1, List.append_nil]
      exact .inl (calm_append.mpr ⟨leaves, calm⟩)
    | ok seen =>
      obtain ⟨a, after⟩ := seen
      have smoothLook := (smooth_append.mp (smooth_append.mp smooth).2).1
      obtain ⟨told, rfl⟩ := look_cases reads rfl looking smoothLook
      have quiet : Calm (vs ++ zs) := calm_append.mpr ⟨noted, calm⟩
      refine .inr ⟨us, vs ++ zs, rest, loaded, a, ?_, loading, quiet, told, trace⟩
      simp only [List.append_assoc]

variable {opening looking : List (Exchange Machine)} {loaded : Snapshot}

theorem calm_of_idle {text : String}
    (loading : Trace (LocalPlane.openAt path).run opening (.ok ⟨some path, loaded⟩))
    (looked : Calm looking) (trace : Trace (say text).run xs r) :
    Calm (opening ++ (looking ++ xs)) := by
  have opened : Calm opening := (LocalPlane.only_openAt path).trace loading
  have said : Calm xs := (only_say text).trace trace
  exact calm_append.mpr ⟨opened, calm_append.mpr ⟨looked, said⟩⟩

/-- A command that has found something to do comes to nothing, or works under the lock. -/
theorem changes_cases
    (loading : Trace (LocalPlane.openAt path).run opening (.ok ⟨some path, loaded⟩))
    (looked : Calm looking) (proposes : w.proposes loaded = true)
    (writes : (work.run.exec recording (loaded, [])).2.2 = w.writes loaded)
    (shows : Only MachineCall.LeavesFiles shown.run)
    (closes : ∀ x, Only MachineCall.LeavesFiles (close x).run)
    (trace : Trace (shown >>= fun _ =>
      withLock (some (Path.withExtension path "lock")) (ctx.onPlane ⟨some path, loaded⟩ work) >>=
        close).run xs r)
    (smooth : Smooth xs) :
    Calm (opening ++ (looking ++ xs)) ∨ Changes w path (opening ++ (looking ++ xs)) := by
  obtain ⟨showing, rest, told, rfl, displaying, trace⟩ := trace_attempt_bind trace
  have calm := calm_append.mpr ⟨looked, shows.trace displaying⟩
  rw [← List.append_assoc looking]
  cases told with
  | error e =>
    rw [trace.1, List.append_nil]
    exact .inl (calm_append.mpr ⟨(LocalPlane.only_openAt path).trace loading, calm⟩)
  | ok u =>
    obtain ⟨locking, closing, worked, rfl, locked, last⟩ := trace_attempt_bind trace
    have smoothWork := (smooth_append.mp (smooth_append.mp smooth).2).1
    have locks := withLock_locking rfl locked smoothWork
    rw [writes] at locks
    refine .inr (.intro loading calm proposes locks ?_)
    cases worked with
    | ok x => exact (closes x).trace last
    | error e =>
      rw [last.1]
      exact List.forall_mem_nil _

end Command

/--
An apply that does not ask back leaves all files alone, or it loads the state file, finds something
to do, and writes what comes of the loaded cluster while it holds the lock.
-/
theorem apply_changes {r : Except Error Unit} (trace : Trace (ctx.apply false true).run xs r)
    (smooth : Smooth xs) :
    Calm xs ∨
      ∃ reading rest desired, xs = reading ++ rest ∧ Trace ctx.desired.run reading (.ok desired) ∧
        Calm reading ∧ Changes (.apply desired) ctx.statePath rest := by
  obtain ⟨reading, rest, loaded, rfl, read, trace⟩ := trace_attempt_bind trace
  have leaves := only_desired.trace read
  obtain ⟨-, smooth⟩ := smooth_append.mp smooth
  cases loaded with
  | error e =>
    rw [trace.1, List.append_nil]
    exact .inl leaves
  | ok desired =>
    have outcome : Calm rest ∨ Changes (.apply desired) ctx.statePath rest := by
      rcases opened_cases (Reconciler.only_plan desired) trace smooth with
        calm | ⟨opening, looking, rest, loaded, p, rfl, loading, looked, told, trace⟩
      · exact .inl calm
      · obtain ⟨-, smooth⟩ := smooth_append.mp (smooth_append.mp smooth).2
        dsimp only at trace
        split at trace
        · exact .inl (calm_of_idle loading looked trace)
        · rename_i busy
          have proposes : (Writer.apply desired).proposes loaded = true := by
            simp only [Writer.proposes, told, busy, Bool.not_false]
          have writes := congrArg Prod.snd (Writer.exec_apply desired loaded)
          have closes : ∀ done : ApplyOutcome × LocalPlane,
              Only MachineCall.LeavesFiles (ctx.report fun r => r.outcome done.1).run :=
            fun _ => only_report _
          exact changes_cases loading looked proposes writes (only_showPlan p) closes trace smooth
    rcases outcome with calm | changes
    · exact .inl (calm_append.mpr ⟨leaves, calm⟩)
    · exact .inr ⟨reading, rest, desired, rfl, read, leaves, changes⟩

/-- A destroy that does not ask back leaves all files alone, too, or it writes what comes of the
cluster that it has loaded. -/
theorem destroy_changes {goOn : Bool} {r : Except Error Unit}
    (trace : Trace (ctx.destroy goOn true).run xs r) (smooth : Smooth xs) :
    Calm xs ∨ Changes (.destroy goOn) ctx.statePath xs := by
  rcases opened_cases Reconciler.only_current trace smooth with
    calm | ⟨opening, looking, rest, loaded, live, rfl, loading, looked, told, trace⟩
  · exact .inl calm
  · obtain ⟨-, smooth⟩ := smooth_append.mp (smooth_append.mp smooth).2
    dsimp only at trace
    split at trace
    · exact .inl (calm_of_idle loading looked trace)
    · rename_i busy
      have proposes : (Writer.destroy goOn).proposes loaded = true := by
        simp only [Writer.proposes, told, bne_iff_ne]
        exact busy
      have writes := congrArg Prod.snd (Writer.exec_destroy goOn loaded)
      refine changes_cases loading looked proposes writes (only_report _) (fun done => ?_) trace
        smooth
      refine (only_report _).attempt fun _ => ?_
      split
      · exact .done _
      · exact .done _

end Run.Context

end ClusterConf
