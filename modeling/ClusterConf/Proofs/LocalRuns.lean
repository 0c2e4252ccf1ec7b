import ClusterConf.Machine.LocalPlane
import ClusterConf.Proofs.Reading
set_option autoImplicit false

/-!
The local plane on a machine. Main statements: every call is answered by the rules of the store, or
it fails at a file step and changes nothing; without failing file steps a whole run is by the rules.
-/
namespace ClusterConf

open Program
open Store (Ruled Faulty Readable)

/-- Whether the machine did what was asked; what cannot fail is always done. -/
def Exchange.done : Exchange Machine → Bool
  | ⟨.createDirectories _, answer⟩ => answer
  | ⟨.createFile _, answer⟩ => answer
  | ⟨.appendFile _ _, answer⟩ => answer
  | ⟨.syncFile _, answer⟩ => answer
  | ⟨.rename _ _, answer⟩ => answer
  | ⟨.removeFile _, answer⟩ => answer
  | ⟨.readFile _, answer⟩ => answer.isSome
  | _ => true

/-- The machine did everything that it was asked. -/
def Smooth (xs : List (Exchange Machine)) : Prop := ∀ x ∈ xs, x.done = true

theorem smooth_append {xs ys : List (Exchange Machine)} :
    Smooth (xs ++ ys) ↔ Smooth xs ∧ Smooth ys := List.forall_mem_append

theorem Session.trace_call_iff {c : MachineCall} {xs : List (Exchange Machine)}
    {answer : c.Answer} : Trace (Session.call c) xs answer ↔ xs = [⟨c, answer⟩] := by
  constructor
  · intro trace
    obtain ⟨given, ys, rfl, rest⟩ := trace_ask_iff.mp trace
    obtain ⟨rfl, rfl⟩ := trace_done_iff.mp rest
    rfl
  · rintro rfl
    exact trace_ask_iff.mpr ⟨answer, [], rfl, .done answer⟩

/-- File steps that fail only if the machine did not do something. -/
def Honest {α : Type} (p : ExceptT PlaneError Session α) : Prop :=
  ∀ xs e, Trace p.run xs (.error e) → ¬ Smooth xs

namespace Honest

variable {α β : Type}

theorem lift (p : Session α) : Honest (ExceptT.lift p) := by
  intro xs e trace
  obtain ⟨_, -, impossible⟩ := trace_lift_iff.mp trace
  cases impossible

theorem bind {p : ExceptT PlaneError Session α} {f : α → ExceptT PlaneError Session β}
    (first : Honest p) (second : ∀ a, Honest (f a)) : Honest (p >>= f) := by
  intro xs e trace smooth
  obtain ⟨ys, zs, between, rfl, tried, rest⟩ := trace_attempt_bind trace
  obtain ⟨smoothFirst, smoothSecond⟩ := smooth_append.mp smooth
  cases between with
  | ok a => exact second a zs e rest smoothSecond
  | error e => exact first ys e tried smoothFirst

theorem step (s : LocalPlane.PersistStep) {c : Session Bool}
    (counts : ∀ xs, Trace c xs false → ¬ Smooth xs) : Honest (LocalPlane.step s c) := by
  intro xs e trace smooth
  obtain ⟨ys, zs, first, rfl, asked, last⟩ := trace_attempt_bind trace
  obtain ⟨answer, called, rfl⟩ := trace_lift_iff.mp asked
  cases answer with
  | true => cases (trace_done_iff.mp last).2
  | false => exact counts ys called (smooth_append.mp smooth).1

end Honest

theorem not_smooth_call {c : MachineCall} {answer : c.Answer}
    (undone : Exchange.done ⟨c, answer⟩ = false) {xs : List (Exchange Machine)}
    (trace : Trace (Session.call c) xs answer) : ¬ Smooth xs := by
  obtain rfl := Session.trace_call_iff.mp trace
  intro smooth
  rw [smooth _ List.mem_cons_self] at undone
  cases undone

namespace LocalPlane

theorem honest_persistAt (path : String) (s : Snapshot) : Honest (persistAt path s) := by
  have written : Honest (do
      let temporary := Path.withExtension path "tmp"
      step .create (Session.call (.createFile temporary))
      step .write (Session.call (.appendFile temporary (s.toText .json)))
      step .sync (Session.call (.syncFile temporary))
      step .rename (Session.call (.rename temporary path))
      (Session.note (.debug .localPlane s!"State saved to {path}") : Session Unit)) :=
    (Honest.step .create fun _ => not_smooth_call rfl).bind fun _ =>
    (Honest.step .write fun _ => not_smooth_call rfl).bind fun _ =>
    (Honest.step .sync fun _ => not_smooth_call rfl).bind fun _ =>
    (Honest.step .rename fun _ => not_smooth_call rfl).bind fun _ => Honest.lift _
  unfold persistAt
  cases Path.properParent? path with
  | none => exact written
  | some parent =>
    exact (Honest.step .directory fun _ => not_smooth_call rfl).bind fun _ => written

/-- A state that is not committed is one that the machine did not write. -/
theorem trace_commit {plane after : LocalPlane} {next : Snapshot} {answer : Except PlaneError Unit}
    {xs : List (Exchange Machine)} (trace : Trace ((commit next).run plane) xs (answer, after)) :
    answer = .ok () ∧ after = { plane with state := next } ∨
      (∃ e, answer = .error e) ∧ after = plane ∧ ¬ Smooth xs := by
  simp only [commit, StateT.run_bind, StateT.run_get, pure_bind] at trace
  obtain ⟨ys, zs, ⟨persisted, same⟩, rfl, lifted, last⟩ := trace_bind_iff.mp trace
  obtain ⟨us, vs, written, rfl, persisting, kept⟩ := trace_bind_iff.mp lifted
  obtain ⟨rfl, equal⟩ := trace_done_iff.mp kept
  obtain ⟨rfl, rfl⟩ := Prod.mk.inj equal
  cases persisted with
  | ok u =>
    obtain ⟨rfl, equal⟩ := trace_done_iff.mp last
    obtain ⟨rfl, rfl⟩ := Prod.mk.inj equal
    exact .inl ⟨rfl, rfl⟩
  | error e =>
    obtain ⟨rfl, equal⟩ := trace_done_iff.mp last
    obtain ⟨rfl, rfl⟩ := Prod.mk.inj equal
    refine .inr ⟨⟨e, rfl⟩, rfl, ?_⟩
    rw [List.append_nil, List.append_nil]
    unfold persist at persisting
    split at persisting
    · cases (trace_done_iff.mp persisting).2
    · exact honest_persistAt _ _ us e persisting

/-- What the store allows is committed as in memory, unless the machine did not write it. -/
theorem trace_serve_commit {plane after : LocalPlane} {outcome : Except PlaneError Snapshot}
    {answer : Except PlaneError Unit} {xs : List (Exchange Machine)}
    (trace : Trace ((Store.serve.commit commit outcome).run plane) xs (answer, after)) :
    after.path = plane.path ∧
      ((Store.serve.commit Store.keep outcome).run plane.state = (answer, after.state) ∨
        (∃ e, answer = .error e) ∧ after.state = plane.state ∧ ¬ Smooth xs) := by
  cases outcome with
  | error e =>
    obtain ⟨-, equal⟩ := trace_done_iff.mp trace
    obtain ⟨rfl, rfl⟩ := Prod.mk.inj equal
    exact ⟨rfl, .inl rfl⟩
  | ok next =>
    rcases trace_commit trace with ⟨rfl, rfl⟩ | ⟨failed, rfl, rough⟩
    · exact ⟨rfl, .inl rfl⟩
    · exact ⟨rfl, .inr ⟨failed, rfl, rough⟩⟩

/-- A call was answered by the rules, or it failed at a file step and changed nothing. -/
def Obeyed (before after : LocalPlane) (x : Exchange Plane) (xs : List (Exchange Machine)) : Prop :=
  after.path = before.path ∧
    (Ruled before.state x after.state ∨
      x.Failed ∧ after.state = before.state ∧ ¬ Smooth xs)

variable {plane after : LocalPlane} {xs : List (Exchange Machine)}

theorem ruled_of_done {c : PlaneCall} {answer told : c.Answer}
    (ruled : Ruled plane.state ⟨c, told⟩ plane.state)
    (trace : Trace (.done (told, plane) : Session _) xs (answer, after)) :
    after.path = plane.path ∧ Ruled plane.state ⟨c, answer⟩ after.state := by
  obtain ⟨-, equal⟩ := trace_done_iff.mp trace
  obtain ⟨rfl, rfl⟩ := Prod.mk.inj equal
  exact ⟨rfl, ruled⟩

/-- A call that commits what the store makes of it. -/
theorem obeyed_of_commit {c : PlaneCall} {answer : c.Answer} {given : Except PlaneError Unit}
    (outcome : Except PlaneError Snapshot)
    (trace : Trace ((Store.serve.commit commit outcome).run plane) xs (given, after))
    (rules : ∀ t, (Store.serve.commit Store.keep outcome).run plane.state = (given, t) →
      Ruled plane.state ⟨c, answer⟩ t)
    (refuses : ∀ e, given = .error e → c.refusal? e = some answer) :
    Obeyed plane after ⟨c, answer⟩ xs := by
  obtain ⟨path, ruled | ⟨⟨e, failed⟩, rest⟩⟩ := trace_serve_commit trace
  · exact ⟨path, .inl (rules after.state ruled)⟩
  · exact ⟨path, .inr ⟨⟨e, refuses e failed⟩, rest⟩⟩

theorem trace_serve_reads {c : PlaneCall} (reads : c.Reads) {answer : c.Answer}
    (trace : Trace ((serve c).run plane) xs (answer, after)) :
    after.path = plane.path ∧ Ruled plane.state ⟨c, answer⟩ after.state := by
  cases c with
  | list kind => exact ruled_of_done (.inl rfl) trace
  | read kind key => exact ruled_of_done (.inl rfl) trace
  | showGlobal => exact ruled_of_done (.inl rfl) trace
  | backend => exact ruled_of_done (.inr ⟨rfl, rfl⟩) trace
  | note event =>
    have noted : Trace (Session.note event >>= fun u => pure (u, plane)) xs (answer, after) := trace
    obtain ⟨ys, zs, _, rfl, -, last⟩ := trace_bind_iff.mp noted
    obtain ⟨-, equal⟩ := trace_done_iff.mp last
    obtain ⟨rfl, rfl⟩ := Prod.mk.inj equal
    exact ⟨rfl, .inl rfl⟩
  | create e => cases reads
  | update key e => cases reads
  | delete kind key => cases reads
  | modifyGlobal g => cases reads

theorem trace_serve {c : PlaneCall} {answer : c.Answer}
    (trace : Trace ((serve c).run plane) xs (answer, after)) :
    Obeyed plane after ⟨c, answer⟩ xs := by
  have refused : ∀ (given : Except PlaneError Unit) (e : PlaneError), given = .error e →
      some (Except.error e) = some given := fun _ _ failed => congrArg some failed.symm
  by_cases reads : c.Reads
  · exact (trace_serve_reads reads trace).imp_right .inl
  · cases c with
    | create e =>
      exact obeyed_of_commit (Store.create e plane.state) trace (fun _ => .inl) (refused answer)
    | update key e =>
      exact obeyed_of_commit (Store.update key e plane.state) trace (fun _ => .inl) (refused answer)
    | delete kind key =>
      exact obeyed_of_commit (Store.delete kind key plane.state) trace (fun _ => .inl)
        (refused answer)
    | modifyGlobal g =>
      exact obeyed_of_commit (.ok { plane.state with globalConfig := some g }) trace
        (fun _ => .inl) (refused answer)
    | _ => exact absurd rfl reads

section Machine

variable {W : Type} (machine : Server Machine W)

/-- The plane on a machine, as whoever answers its calls. -/
def on : Server Plane (LocalPlane × W) := fun c (plane, world) =>
  let ((answer, after), world) := ((serve c).run plane).exec machine world
  (answer, after, world)

/-- A run on the plane is a run of its calls, one after the other. -/
theorem run_on {α : Type} (p : Control α) (plane : LocalPlane) (world : W) :
    ((run p).run plane).exec machine world =
      (((p.exec (on machine) (plane, world)).1, (p.exec (on machine) (plane, world)).2.1),
        (p.exec (on machine) (plane, world)).2.2) := by
  induction p generalizing plane world with
  | done a => rfl
  | ask c next ih =>
    have split : (run (.ask c next)).run plane =
        (serve c).run plane >>= fun (answer, after) => (run (next answer)).run after := rfl
    rw [split, exec_bind, exec_ask]
    exact ih _ _ _

/-- On any machine what is read is answered by the rules, and mutations may fail without effect. -/
theorem on_readable {before after : LocalPlane × W} {x : Exchange Plane}
    (step : Server.Step (on machine) before x after) : Readable before.1.state x after.1.state := by
  obtain ⟨c, answer⟩ := x
  have answered : on machine c before = (answer, after) := step
  obtain ⟨rfl, rfl⟩ := Prod.mk.inj answered
  have trace := exec_trace machine ((serve c).run before.1) before.2
  by_cases changes : c.isMutation = true
  · obtain ⟨-, ruled | ⟨refused, same, -⟩⟩ := trace_serve trace
    · exact .inl ruled
    · exact .inr ⟨changes, refused, same⟩
  · exact .inl (trace_serve_reads (Bool.eq_false_iff.mpr changes) trace).2

theorem follows_readable {α : Type} (p : Control α) (before : LocalPlane × W) :
    Follows Readable before.1.state (p.journal (on machine) before)
      (p.exec (on machine) before).2.1.state :=
  (exec_follows (on machine) p before).map (fun s => s.1.state) fun _ _ _ => on_readable machine

/-- On a machine that does everything, calls are answered by the rules of the store. -/
theorem follows_ruled {α : Type} (p : Control α) (plane : LocalPlane) (world : W)
    (smooth : Smooth (((run p).run plane).journal machine world)) :
    Follows Ruled plane.state (p.journal (on machine) (plane, world))
      (p.exec (on machine) (plane, world)).2.1.state := by
  induction p generalizing plane world with
  | done a => exact .nil _
  | ask c next ih =>
    have split : (run (.ask c next)).run plane =
        (serve c).run plane >>= fun (answer, after) => (run (next answer)).run after := rfl
    rw [split, journal_bind] at smooth
    obtain ⟨smoothFirst, smoothRest⟩ := smooth_append.mp smooth
    obtain ⟨-, ruled | ⟨-, -, rough⟩⟩ :=
      trace_serve (exec_trace machine ((serve c).run plane) world)
    · exact .cons ruled (ih _ _ _ smoothRest)
    · exact absurd smoothFirst rough

end Machine

end LocalPlane

/-- A machine that does everything that it is asked. Its files are all there, and empty. -/
def obliging : Server Machine Unit := fun c _ =>
  let answer : c.Answer :=
    match c with
    | .pathExists _ | .createDirectories _ | .createFile _ | .appendFile _ _ | .syncFile _
    | .rename _ _ | .removeFile _ => true
    | .readFile _ => some .empty
    | .now => default
    | .freshId | .hostName => ""
    | .processId => 0
    | .getVariable _ | .readLine => none
    | .setVariable _ _ | .print _ | .pause _ | .note _ => ()
  (answer, ())

theorem smooth_obliging {α : Type} (p : Session α) : Smooth (p.journal obliging ()) := by
  induction p with
  | done a => exact List.forall_mem_nil _
  | ask c next ih =>
    refine List.forall_mem_cons.mpr ⟨?_, ih _⟩
    cases c <;> rfl

/-- A small cluster, with a user set that a queue depends on by its parallel environment. -/
def Snapshot.small (users : String) (load : Double) : Snapshot where
  execHosts := [
    { name := "node1", loadScaling := ⟨[("load_avg", load)], List.pairwise_singleton _ _⟩ }]
  userSetLists := [{ name := users }]
  parallelEnvironments := [{ name := "mpi", userLists := [users] }]
  clusterQueues := [{ name := "all.q", peList := ["mpi"] }]

/-- Which calls of a run fail, by their number, and how. -/
abbrev Faults := Nat → Option PlaneError

/-- A plane where chosen calls fail without effect. -/
def Faults.impose {σ : Type} (faults : Faults) (serve : Server Plane σ) : Server Plane (Nat × σ) :=
  fun c (n, s) =>
    match (faults n).bind c.refusal? with
    | some refusal => (refusal, n + 1, s)
    | none => ((serve c s).1, n + 1, (serve c s).2)

theorem Faults.impose_faulty {σ : Type} (faults : Faults) {serve : Server Plane σ}
    (view : σ → Snapshot)
    (faulty : ∀ s x t, Server.Step serve s x t → Faulty (view s) x (view t))
    {before after : Nat × σ} {x : Exchange Plane}
    (step : Server.Step (faults.impose serve) before x after) :
    Faulty (view before.2) x (view after.2) := by
  obtain ⟨c, answer⟩ := x
  obtain ⟨n, s⟩ := before
  unfold Server.Step impose at step
  simp only at step
  split at step
  · rename_i refusal chosen
    obtain ⟨rfl, rfl⟩ := Prod.mk.inj step
    obtain ⟨e, -, refused⟩ := Option.bind_eq_some_iff.mp chosen
    exact .inr ⟨⟨e, refused⟩, rfl⟩
  · obtain ⟨rfl, rfl⟩ := Prod.mk.inj step
    exact faulty s ⟨c, _⟩ _ rfl

section Machine

variable {W : Type} (faults : Faults) (machine : Server Machine W)

theorem Faults.on_faulty {before after : Nat × LocalPlane × W} {x : Exchange Plane}
    (step : Server.Step (faults.impose (LocalPlane.on machine)) before x after) :
    Faulty before.2.1.state x after.2.1.state :=
  faults.impose_faulty (fun s => s.1.state)
    (fun _ _ _ answered => (LocalPlane.on_readable machine answered).faulty) step

/-- On a local plane whose calls may fail, each state of a run is reached by calls that were
answered by the rules or failed without effect. -/
theorem Faults.follows_faulty {α : Type} (p : Control α) (plane : LocalPlane) (world : W) :
    Follows Faulty plane.state (p.journal (faults.impose (LocalPlane.on machine)) (0, plane, world))
      (p.exec (faults.impose (LocalPlane.on machine)) (0, plane, world)).2.2.1.state :=
  (exec_follows _ p (0, plane, world)).map (fun s => s.2.1.state)
    fun _ _ _ => faults.on_faulty machine

theorem Faults.stateAfter_faulty {α : Type} (p : Control α) (plane : LocalPlane) (world : W)
    (n : Nat) :
    ∃ front, front <+: p.journal (faults.impose (LocalPlane.on machine)) (0, plane, world) ∧
      Follows Faulty plane.state front
        (p.stateAfter (faults.impose (LocalPlane.on machine)) (0, plane, world) n).2.1.state := by
  obtain ⟨xs, ys, split, follows⟩ :=
    stateAfter_follows (faults.impose (LocalPlane.on machine)) p (0, plane, world) n
  exact ⟨xs, ⟨ys, split.symm⟩,
    follows.map (fun s => s.2.1.state) fun _ _ _ => faults.on_faulty machine⟩

end Machine

end ClusterConf
