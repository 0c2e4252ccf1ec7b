import ClusterConf.Plane.Throttle
import ClusterConf.Proofs.LocalRuns
import ClusterConf.Proofs.PhaseEffects
set_option autoImplicit false

/-!
What is written to a state file. Main statements: a plane writes what it holds once for each
mutation that succeeds, and on a machine that does what it is asked a local plane writes just that.
-/
namespace ClusterConf

open Program
open Store (Ruled)

/-- What a plane holds in memory, and the snapshots that it has written. -/
abbrev Recorded := Snapshot × List Snapshot

/-- Writes a snapshot, then keeps it. -/
def Recorded.keep (next : Snapshot) : StateM Recorded (Except PlaneError Unit) := do
  modify fun (_, written) => (next, written ++ [next])
  return .ok ()

/-- A plane that answers from memory, and writes what it holds after each mutation. -/
def recording : Server Plane Recorded :=
  Store.serve "local" (do return (← get).1) Recorded.keep fun _ => return ()

namespace Recorded

variable {before after : Recorded}

theorem step_commit (outcome : Except PlaneError Snapshot) {answer : Except PlaneError Unit}
    (step : (Store.serve.commit keep outcome).run before = (answer, after)) :
    (Store.serve.commit Store.keep outcome).run before.1 = (answer, after.1) ∧
      (answer = .ok () → after.2 = before.2 ++ [after.1]) := by
  cases outcome with
  | error e =>
    obtain ⟨rfl, rfl⟩ := Prod.mk.inj step
    exact ⟨rfl, nofun⟩
  | ok next =>
    obtain ⟨rfl, rfl⟩ := Prod.mk.inj step
    exact ⟨rfl, fun _ => rfl⟩

theorem ruled {x : Exchange Plane} (step : Server.Step recording before x after) :
    Ruled before.1 x after.1 := by
  obtain ⟨c, answer⟩ := x
  cases c with
  | create e => exact .inl (step_commit (Store.create e before.1) step).1
  | update key e => exact .inl (step_commit (Store.update key e before.1) step).1
  | delete k key => exact .inl (step_commit (Store.delete k key before.1) step).1
  | modifyGlobal g =>
    exact .inl (step_commit (.ok { before.1 with globalConfig := some g }) step).1
  | list _ | read _ _ | showGlobal | note _ =>
    obtain ⟨rfl, rfl⟩ := Prod.mk.inj step
    exact .inl rfl
  | backend =>
    obtain ⟨rfl, rfl⟩ := Prod.mk.inj step
    exact .inr ⟨rfl, rfl⟩

theorem unchanged {x : Exchange Plane} (step : Server.Step recording before x after)
    (reads : x.request.Reads) : after = before := by
  obtain ⟨c, answer⟩ := x
  cases c <;> first | exact (Prod.mk.inj step).2.symm | cases reads

/-- A mutation that succeeds is written. -/
theorem accepted {m : Mutation}
    (step : Server.Step recording before (m.exchange (.ok ())) after) :
    after.2 = before.2 ++ [after.1] := by
  cases m with
  | entity operation e =>
    have commits : (Store.serve.commit keep (Store.change operation e before.1)).run before =
        (.ok (), after) := by
      cases operation <;> exact step
    exact (step_commit _ commits).2 rfl
  | globalConfig g =>
    obtain ⟨-, rfl⟩ := Prod.mk.inj step
    rfl

end Recorded

/-- A mutation that succeeds sets the global configuration, or leaves it as it is. -/
theorem Mutation.globalConfig_accepted {s t : Snapshot} {m : Mutation}
    (step : Ruled s (m.exchange (.ok ())) t) :
    t.globalConfig = s.globalConfig ∨ ∃ g, m = .globalConfig g ∧ t.globalConfig = some g := by
  cases m with
  | entity operation e =>
    rcases step.exchange with ⟨changed, -⟩ | ⟨err, -, impossible, -⟩
    · exact .inl (Store.globalConfig_change changed)
    · cases impossible
  | globalConfig g =>
    obtain ⟨-, rfl⟩ := step.modifyGlobal
    exact .inr ⟨g, rfl, rfl⟩

/-- The snapshots that some mutations write: one for each, and the last one is the outcome. -/
structure Writes (ms : List Mutation) (before : Snapshot) (written : List Snapshot)
    (after : Snapshot) : Prop where
  length : written.length = ms.length
  last : written.getLast?.getD before = after
  globalConfig : ∀ t ∈ written, t.globalConfig = before.globalConfig ∨
    ∃ g, Mutation.globalConfig g ∈ ms ∧ t.globalConfig = some g

namespace Writes

theorem cons {m : Mutation} {ms : List Mutation} {before between after : Snapshot}
    {written : List Snapshot}
    (first : between.globalConfig = before.globalConfig ∨
      ∃ g, m = .globalConfig g ∧ between.globalConfig = some g)
    (rest : Writes ms between written after) :
    Writes (m :: ms) before (between :: written) after where
  length := congrArg (· + 1) rest.length
  last := by
    rw [List.getLast?_cons]
    exact rest.last
  globalConfig := by
    have start : between.globalConfig = before.globalConfig ∨
        ∃ g, Mutation.globalConfig g ∈ m :: ms ∧ between.globalConfig = some g := by
      rcases first with same | ⟨g, rfl, set⟩
      · exact .inl same
      · exact .inr ⟨g, List.mem_cons_self, set⟩
    refine List.forall_mem_cons.mpr ⟨start, fun t member => ?_⟩
    rcases rest.globalConfig t member with same | ⟨g, inside, set⟩
    · rw [same]
      exact start
    · exact .inr ⟨g, List.mem_cons_of_mem m inside, set⟩

end Writes

/-- Mutations that succeed are written one after the other. -/
theorem Recorded.writes {ms : List Mutation} {before after : Recorded}
    (follows : Follows (Server.Step recording) before
      ((ms.map Trial.success).map Trial.exchange) after) :
    ∃ written, after.2 = before.2 ++ written ∧ Writes ms before.1 written after.1 := by
  induction ms generalizing before with
  | nil =>
    obtain rfl := follows.nil_inv
    exact ⟨[], (List.append_nil _).symm, rfl, rfl, by simp⟩
  | cons m ms ih =>
    cases follows with
    | @cons _ between _ _ _ first rest =>
      obtain ⟨written, appended, writes⟩ := ih rest
      refine ⟨between.1 :: written, ?_, .cons (Mutation.globalConfig_accepted (ruled first)) writes⟩
      rw [appended, accepted first, List.append_assoc, List.singleton_append]

/-- The text that a machine was asked to write, if it was. -/
def Exchange.text? : Exchange Machine → Option String
  | ⟨.appendFile _ text, _⟩ => some text
  | _ => none

/-- The texts that a machine was asked to write, in order. -/
def textsOf (xs : List (Exchange Machine)) : List String := xs.filterMap Exchange.text?

theorem textsOf_append (xs ys : List (Exchange Machine)) :
    textsOf (xs ++ ys) = textsOf xs ++ textsOf ys := List.filterMap_append

/-- File steps that write just some texts if they succeed. -/
def Saves {α : Type} (p : ExceptT PlaneError Session α) (texts : List String) : Prop :=
  ∀ xs a, Trace p.run xs (.ok a) → textsOf xs = texts

namespace Saves

variable {α β : Type} {us vs : List String}

theorem bind {p : ExceptT PlaneError Session α} {f : α → ExceptT PlaneError Session β}
    (first : Saves p us) (second : ∀ a, Saves (f a) vs) : Saves (p >>= f) (us ++ vs) := by
  intro xs b trace
  obtain ⟨ys, zs, between, rfl, tried, rest⟩ := trace_attempt_bind trace
  cases between with
  | ok a => rw [textsOf_append, first ys a tried, second a zs b rest]
  | error e => cases rest.2

theorem step (s : LocalPlane.PersistStep) {c : Session Bool}
    (texts : ∀ xs, Trace c xs true → textsOf xs = us) : Saves (LocalPlane.step s c) us := by
  intro xs u trace
  obtain ⟨ys, zs, first, rfl, asked, last⟩ := trace_attempt_bind trace
  obtain ⟨answer, called, rfl⟩ := trace_lift_iff.mp asked
  cases answer with
  | true =>
    obtain ⟨rfl, -⟩ := trace_done_iff.mp last
    rw [List.append_nil]
    exact texts ys called
  | false => cases (trace_done_iff.mp last).2

theorem call {c : MachineCall} {answer : c.Answer} {xs : List (Exchange Machine)}
    (trace : Trace (Session.call c) xs answer) :
    textsOf xs = (Exchange.text? ⟨c, answer⟩).toList := by
  rw [Session.trace_call_iff.mp trace]
  cases c <;> rfl

theorem note (event : Event) :
    Saves (ExceptT.lift (Session.note event) : ExceptT PlaneError Session Unit) [] := by
  intro xs u trace
  obtain ⟨answer, called, -⟩ := trace_lift_iff.mp trace
  exact call called

end Saves

namespace LocalPlane

/-- A state file is replaced by one text. -/
theorem saves_persistAt (path : String) (s : Snapshot) :
    Saves (persistAt path s) [s.toText .json] := by
  have written : Saves (do
      let temporary := Path.withExtension path "tmp"
      step .create (Session.call (.createFile temporary))
      step .write (Session.call (.appendFile temporary (s.toText .json)))
      step .sync (Session.call (.syncFile temporary))
      step .rename (Session.call (.rename temporary path))
      (Session.note (.debug .localPlane s!"State saved to {path}") : Session Unit))
        ([] ++ ([s.toText .json] ++ ([] ++ ([] ++ [])))) :=
    (Saves.step .create fun _ => Saves.call).bind fun _ =>
    (Saves.step .write fun _ => Saves.call).bind fun _ =>
    (Saves.step .sync fun _ => Saves.call).bind fun _ =>
    (Saves.step .rename fun _ => Saves.call).bind fun _ => Saves.note _
  unfold persistAt
  cases Path.properParent? path with
  | none => exact written
  | some parent =>
    have made : Saves (step .directory (Session.call (.createDirectories parent))) [] :=
      Saves.step .directory fun _ => Saves.call
    exact made.bind fun _ => written

variable {path : String} {plane after : LocalPlane} {xs : List (Exchange Machine)}

theorem textsOf_commit (kept : plane.path = some path) {next : Snapshot}
    (trace : Trace ((commit next).run plane) xs (.ok (), after)) :
    textsOf xs = [next.toText .json] := by
  simp only [commit, StateT.run_bind, StateT.run_get, pure_bind] at trace
  obtain ⟨ys, zs, ⟨persisted, same⟩, rfl, lifted, last⟩ := trace_bind_iff.mp trace
  obtain ⟨us, vs, written, rfl, persisting, returned⟩ := trace_bind_iff.mp lifted
  obtain ⟨rfl, equal⟩ := trace_done_iff.mp returned
  obtain ⟨rfl, rfl⟩ := Prod.mk.inj equal
  cases persisted with
  | error e => cases (Prod.mk.inj (trace_done_iff.mp last).2).1
  | ok u =>
    obtain ⟨rfl, -⟩ := trace_done_iff.mp last
    have saving : Trace (persistAt path next).run us (.ok u) := by
      unfold persist at persisting
      rw [kept] at persisting
      exact persisting
    rw [List.append_nil, List.append_nil]
    exact saves_persistAt path next us u saving

/-- A call that is answered like a recorded one, where what is recorded is written. -/
def Matches (c : PlaneCall) (plane : LocalPlane) (written : List Snapshot) (answer : c.Answer)
    (after : LocalPlane) (xs : List (Exchange Machine)) : Prop :=
  ∃ new, recording c (plane.state, written) = (answer, (after.state, written ++ new)) ∧
    textsOf xs = new.map fun s => s.toText .json

/-- A call that neither changes the plane nor writes. -/
theorem matches_of_unwritten {c : PlaneCall} {answer : c.Answer} {written : List Snapshot}
    (answered : recording c (plane.state, written) = (answer, (plane.state, written)))
    (silent : textsOf xs = []) : Matches c plane written answer plane xs :=
  ⟨[], by rw [answered, List.append_nil], silent⟩

/-- What the store allows is committed and written as it is recorded. -/
theorem matches_of_commit (kept : plane.path = some path) (written : List Snapshot)
    (outcome : Except PlaneError Snapshot) {answer : Except PlaneError Unit}
    (trace : Trace ((Store.serve.commit commit outcome).run plane) xs (answer, after))
    (smooth : Smooth xs) :
    ∃ new, (Store.serve.commit Recorded.keep outcome).run (plane.state, written) =
        (answer, (after.state, written ++ new)) ∧ textsOf xs = new.map fun s => s.toText .json := by
  cases outcome with
  | error e =>
    obtain ⟨rfl, equal⟩ := trace_done_iff.mp trace
    obtain ⟨rfl, rfl⟩ := Prod.mk.inj equal
    exact ⟨[], by rw [List.append_nil]; rfl, rfl⟩
  | ok next =>
    have committing : Trace ((commit next).run plane) xs (answer, after) := trace
    rcases trace_commit committing with ⟨rfl, rfl⟩ | ⟨-, -, rough⟩
    · exact ⟨[next], rfl, textsOf_commit kept committing⟩
    · exact absurd smooth rough

/-- On a machine that does what it is asked a call is answered like a recorded one. -/
theorem trace_serve_matches (kept : plane.path = some path) (written : List Snapshot)
    {c : PlaneCall} {answer : c.Answer}
    (trace : Trace ((serve c).run plane) xs (answer, after)) (smooth : Smooth xs) :
    Matches c plane written answer after xs := by
  have named : plane.backendName = "local" := by
    rw [backendName, kept]
    rfl
  have done : ∀ {told : c.Answer}, Trace (.done (told, plane) : Session _) xs (answer, after) →
      recording c (plane.state, written) = (told, (plane.state, written)) →
      Matches c plane written answer after xs := by
    intro told finished answered
    obtain ⟨rfl, equal⟩ := trace_done_iff.mp finished
    obtain ⟨rfl, rfl⟩ := Prod.mk.inj equal
    exact matches_of_unwritten answered rfl
  cases c with
  | create e => exact matches_of_commit kept written (Store.create e plane.state) trace smooth
  | update key e =>
    exact matches_of_commit kept written (Store.update key e plane.state) trace smooth
  | delete k key =>
    exact matches_of_commit kept written (Store.delete k key plane.state) trace smooth
  | modifyGlobal g =>
    exact matches_of_commit kept written (.ok { plane.state with globalConfig := some g }) trace
      smooth
  | list k => exact done trace rfl
  | read k key => exact done trace rfl
  | showGlobal => exact done trace rfl
  | backend => exact done trace (by rw [named]; rfl)
  | note event =>
    have noted : Trace (Session.note event >>= fun u => pure (u, plane)) xs (answer, after) := trace
    obtain ⟨ys, zs, u, rfl, logged, last⟩ := trace_bind_iff.mp noted
    obtain ⟨rfl, equal⟩ := trace_done_iff.mp last
    obtain ⟨rfl, rfl⟩ := Prod.mk.inj equal
    refine matches_of_unwritten rfl ?_
    rw [List.append_nil]
    exact Saves.call logged

/-- A pause that neither changes the plane nor writes. -/
def Idle (pause : StateT LocalPlane Session Unit) : Prop :=
  ∀ plane xs after, Trace (pause.run plane) xs ((), after) → after = plane ∧ textsOf xs = []

theorem idle_none : Idle (return ()) := by
  intro plane xs after trace
  obtain ⟨rfl, equal⟩ := trace_done_iff.mp trace
  exact ⟨(Prod.mk.inj equal).2, rfl⟩

theorem idle_pause (milliseconds : Nat) :
    Idle (Session.call (.pause milliseconds) : Session _) := by
  intro plane xs after trace
  obtain ⟨ys, zs, u, rfl, paused, last⟩ := trace_bind_iff.mp trace
  obtain ⟨rfl, equal⟩ := trace_done_iff.mp last
  refine ⟨(Prod.mk.inj equal).2, ?_⟩
  rw [List.append_nil]
  exact Saves.call paused

variable {pause : StateT LocalPlane Session Unit}

theorem Idle.trace_return (idle : Idle pause) {α : Type} {told answer : α}
    (trace : Trace ((pause >>= fun _ => pure told).run plane) xs (answer, after)) :
    told = answer ∧ plane = after ∧ textsOf xs = [] := by
  obtain ⟨ys, zs, ⟨u, last⟩, rfl, paused, returned⟩ := trace_bind_iff.mp trace
  obtain ⟨rfl, equal⟩ := trace_done_iff.mp returned
  obtain ⟨rfl, rfl⟩ := Prod.mk.inj equal
  obtain ⟨rfl, silent⟩ := idle _ _ _ paused
  exact ⟨rfl, rfl, by rw [List.append_nil, silent]⟩

/-- A call with a pause after it is answered as without, and writes nothing more. -/
theorem trace_throttle (idle : Idle pause) {c : PlaneCall} {answer : c.Answer}
    (trace : Trace ((Throttle.serve pause serve c).run plane) xs (answer, after)) :
    ∃ ys zs, xs = ys ++ zs ∧ Trace ((serve c).run plane) ys (answer, after) ∧ textsOf zs = [] := by
  obtain ⟨ys, zs, ⟨told, between⟩, rfl, called, rest⟩ := trace_bind_iff.mp trace
  have quiet : told = answer ∧ between = after ∧ textsOf zs = [] := by
    by_cases roundTrip : c.isRoundTrip = true
    · simp only [roundTrip, ↓reduceIte] at rest
      exact idle.trace_return rest
    · simp only [roundTrip, Bool.false_eq_true, ↓reduceIte] at rest
      exact idle_none.trace_return rest
  obtain ⟨rfl, rfl, silent⟩ := quiet
  exact ⟨ys, zs, rfl, called, silent⟩

/--
On a machine that does what it is asked, a local plane with a state file cannot be told from a plane
that records, and what is written to the file is what is recorded.
-/
theorem trace_recording (idle : Idle pause) {α : Type} {p : Control α} {a : α}
    (kept : plane.path = some path) (written : List Snapshot)
    (trace : Trace ((p.run (Throttle.serve pause serve)).run plane) xs (a, after))
    (smooth : Smooth xs) :
    after.path = some path ∧
      ∃ new, p.exec recording (plane.state, written) = (a, (after.state, written ++ new)) ∧
        textsOf xs = new.map fun s => s.toText .json := by
  induction p generalizing plane xs written with
  | done b =>
    obtain ⟨rfl, equal⟩ := trace_done_iff.mp trace
    obtain ⟨rfl, rfl⟩ := Prod.mk.inj equal
    exact ⟨kept, [], by rw [List.append_nil]; rfl, rfl⟩
  | ask c next ih =>
    obtain ⟨first, rest, ⟨answer, between⟩, rfl, throttled, goesOn⟩ := trace_bind_iff.mp trace
    obtain ⟨called, pausing, rfl, serving, silent⟩ := trace_throttle idle throttled
    obtain ⟨smoothFirst, smoothRest⟩ := smooth_append.mp smooth
    have smoothCall := (smooth_append.mp smoothFirst).1
    obtain ⟨new, answered, saved⟩ := trace_serve_matches kept written serving smoothCall
    obtain ⟨path, later, recorded, texts⟩ :=
      ih answer ((trace_serve serving).1.trans kept) (written ++ new) goesOn smoothRest
    refine ⟨path, new ++ later, ?_, ?_⟩
    · rw [exec_ask, answered, recorded, List.append_assoc]
    · rw [textsOf_append, textsOf_append, saved, silent, texts, List.append_nil, List.map_append]

end LocalPlane

end ClusterConf
