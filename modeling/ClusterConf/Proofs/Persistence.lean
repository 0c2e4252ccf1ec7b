import ClusterConf.Proofs.Mishaps
set_option autoImplicit false

/-!
A local plane with a state file, on a machine whose file steps may fail at any point. Main
statement: each call leaves both the snapshot in memory and the state file as they were, or the file
holds the text of the new snapshot; and at every moment between two steps the file is the old or the
new one.
-/
namespace ClusterConf

open Program
open FileTree (placeOf)

/-- A file that can be read by its path, with what it holds. -/
structure World.Holds (path : String) (content : ByteArray) (w : World) : Prop where
  sound : w.files.Sound
  held : w.contentOf path = some content
  reads : w.files.read? w.cwd path = some content

theorem World.Keeps.holds {path : String} {w w' : World} {content : ByteArray}
    (keeps : World.Keeps path w w') (holds : w.Holds path content) : w'.Holds path content where
  sound := keeps.files.sound
  held := keeps.contentOf.trans holds.held
  reads := keeps.read? holds.reads

/-- The same files, seen from the same directory. -/
structure World.SameFiles (w w' : World) : Prop where
  cwd : w'.cwd = w.cwd
  files : w'.files = w.files

namespace World.SameFiles

variable {w w' w'' : World}

theorem refl (w : World) : w.SameFiles w := ⟨rfl, rfl⟩

theorem trans (first : w.SameFiles w') (second : w'.SameFiles w'') : w.SameFiles w'' :=
  ⟨second.cwd.trans first.cwd, second.files.trans first.files⟩

theorem holds (same : w.SameFiles w') {path : String} {content : ByteArray}
    (holds : w.Holds path content) : w'.Holds path content where
  sound := same.files ▸ holds.sound
  held := by
    rw [World.contentOf, same.files, same.cwd]
    exact holds.held
  reads := by
    rw [same.files, same.cwd]
    exact holds.reads

end World.SameFiles

theorem fromUTF8?_toUTF8 (s : String) : String.fromUTF8? s.toUTF8 = some s :=
  dif_pos s.isValidUTF8

/-- The steps by which a text takes the place of a file, when the directories are made. -/
def replacing (path text : String) : List (Exchange Machine) :=
  [⟨.createFile (Path.withExtension path "tmp"), true⟩,
    ⟨.appendFile (Path.withExtension path "tmp") text, true⟩,
    ⟨.syncFile (Path.withExtension path "tmp"), true⟩]

section Steps

variable {mishaps : Mishaps} {path : String} {before after : Nat × World}

theorem Mishaps.served {c : MachineCall} {answer : c.Answer}
    (step : Server.Step mishaps.serve before ⟨c, answer⟩ after)
    (done : c.refused? ≠ some answer) : World.serve c before.2 = (answer, after.2) := by
  rcases Mishaps.step_cases step with served | ⟨m, refused, -⟩
  · exact served
  · exact absurd refused done

theorem World.change_done {w w' : World} {files? : Option FileTree}
    (changed : w.change files? = (true, w')) :
    ∃ files, files? = some files ∧ w' = { w with files } := by
  rcases World.change_cases changed with ⟨impossible, -⟩ | ⟨files, -, made, rfl⟩
  · cases impossible
  · exact ⟨files, made, rfl⟩

/-- Steps that prepare a file beside a path do not touch the one that the path names. -/
theorem keeps_of_prepares (other : Path.extension? path ≠ some "tmp")
    {xs : List (Exchange Machine)} (prepare : ∀ x ∈ xs, x.Prepares path)
    (sound : before.2.files.Sound)
    (follows : Follows (Server.Step mishaps.serve) before xs after) :
    World.Keeps path before.2 after.2 := by
  induction follows with
  | nil s => exact .refl sound path
  | cons first _ ih =>
    obtain ⟨prepares, rest⟩ := List.forall_mem_cons.mp prepare
    have keeps := prepares.step sound other first
    exact keeps.trans (ih rest keeps.files.sound)

/-- A text that was written and moved is what the path then holds. -/
theorem holds_of_moved {text : String} {ready : Nat × World} (sound : ready.2.files.Sound)
    (follows : Follows (Server.Step mishaps.serve) before (replacing path text) ready)
    (moved : Server.Step mishaps.serve ready ⟨.rename (Path.withExtension path "tmp") path, true⟩
      after) : after.2.Holds path text.toUTF8 := by
  cases follows with
  | @cons _ made _ _ _ create follows =>
    cases follows with
    | @cons _ written _ _ _ append follows =>
      have synced : ready.2 = written.2 :=
        (congrArg Prod.snd (Mishaps.served (Follows.singleton_iff.mp follows) nofun)).symm
      obtain ⟨files, created, first⟩ := World.change_done (Mishaps.served create nofun)
      obtain ⟨files', appended, second⟩ := World.change_done (Mishaps.served append nofun)
      obtain ⟨files'', renamed, third⟩ := World.change_done (Mishaps.served moved nofun)
      rw [first] at appended
      have held : ready.2.files.content?
          (placeOf ready.2.cwd (Path.withExtension path "tmp")) = some text.toUTF8 := by
        rw [synced, second, first]
        exact FileTree.content?_written created appended
      obtain ⟨soundAfter, content, there, new, reads⟩ :=
        FileTree.rename?_reads sound renamed
      obtain rfl := Option.some.inj (held.symm.trans there)
      rw [third]
      exact ⟨soundAfter, new, reads⟩

end Steps

namespace LocalPlane

open Session (call note)

/-- File steps that only prepare the file beside a path if they fail, and have gone one of some ways
if they succeed. -/
def Goes (path : String) (p : ExceptT PlaneError Session Unit)
    (ways : List (Exchange Machine) → Prop) : Prop :=
  ∀ xs r, Trace p.run xs r →
    (∃ e, r = .error e) ∧ (∀ x ∈ xs, x.Prepares path) ∨ r = .ok () ∧ ways xs

namespace Goes

variable {path : String} {s : PersistStep} {asked : Session Bool}
  {f : Unit → ExceptT PlaneError Session Unit} {ways : List (Exchange Machine) → Prop}

theorem step (exchange : Bool → Exchange Machine)
    (calls : ∀ ys done, Trace asked ys done → ys = [exchange done])
    (failed : (exchange false).Prepares path)
    (succeeded : ∀ zs e, Trace (f ()).run zs (.error e) → (exchange true).Prepares path)
    (rest : Goes path (f ()) ways) :
    Goes path (LocalPlane.step s asked >>= f) fun xs =>
      ∃ zs, xs = exchange true :: zs ∧ ways zs := by
  intro xs r trace
  obtain ⟨ys, zs, stepped, rfl, stepping, trace⟩ := trace_attempt_bind trace
  obtain ⟨us, vs, answer, rfl, tried, last⟩ := trace_attempt_bind stepping
  obtain ⟨done, called, rfl⟩ := trace_lift_iff.mp tried
  obtain rfl := calls us done called
  cases done with
  | false =>
    obtain ⟨rfl, rfl⟩ := trace_done_iff.mp last
    obtain ⟨rfl, rfl⟩ := trace
    exact .inl ⟨⟨_, rfl⟩, List.forall_mem_singleton.mpr failed⟩
  | true =>
    obtain ⟨rfl, rfl⟩ := trace_done_iff.mp last
    rcases rest zs r trace with ⟨⟨e, rfl⟩, prepare⟩ | ⟨done, way⟩
    · exact .inl ⟨⟨e, rfl⟩, List.forall_mem_cons.mpr ⟨succeeded zs e trace, prepare⟩⟩
    · exact .inr ⟨done, zs, rfl, way⟩

theorem mono {p : ExceptT PlaneError Session Unit} {ways' : List (Exchange Machine) → Prop}
    (goes : Goes path p ways) (wider : ∀ xs, ways xs → ways' xs) : Goes path p ways' := by
  intro xs r trace
  exact (goes xs r trace).imp_right fun done => ⟨done.1, wider xs done.2⟩

end Goes

/-- How a state file is replaced: the file beside it is prepared, and if that succeeds moved. -/
theorem goes_persistAt (path : String) (s : Snapshot) :
    Goes path (persistAt path s) fun xs => ∃ made event, (∀ x ∈ made, x.Prepares path) ∧
      xs = (made ++ replacing path (s.toText .json)) ++
        [⟨.rename (Path.withExtension path "tmp") path, true⟩, ⟨.note event, ()⟩] := by
  have noted : Goes path
      (note (.debug .localPlane s!"State saved to {path}") : Session Unit)
      fun xs => ∃ event, xs = [⟨.note event, ()⟩] := by
    intro xs r trace
    obtain ⟨u, called, rfl⟩ := trace_lift_iff.mp trace
    exact .inr ⟨rfl, _, Session.trace_call_iff.mp called⟩
  have written : Goes path (do
      let temporary := Path.withExtension path "tmp"
      step .create (call (.createFile temporary))
      step .write (call (.appendFile temporary (s.toText .json)))
      step .sync (call (.syncFile temporary))
      step .rename (call (.rename temporary path))
      (note (.debug .localPlane s!"State saved to {path}") : Session Unit)) fun xs =>
        ∃ event, xs = replacing path (s.toText .json) ++
          [⟨.rename (Path.withExtension path "tmp") path, true⟩, ⟨.note event, ()⟩] := by
    let temporary := Path.withExtension path "tmp"
    refine Goes.mono
      (Goes.step (fun done => ⟨.createFile temporary, done⟩)
        (fun _ _ => Session.trace_call_iff.mp) rfl (fun _ _ _ => rfl) <|
      Goes.step (fun done => ⟨.appendFile temporary (s.toText .json), done⟩)
        (fun _ _ => Session.trace_call_iff.mp) rfl (fun _ _ _ => rfl) <|
      Goes.step (fun done => ⟨.syncFile temporary, done⟩)
        (fun _ _ => Session.trace_call_iff.mp) rfl (fun _ _ _ => rfl) <|
      Goes.step (fun done => ⟨.rename temporary path, done⟩)
        (fun _ _ => Session.trace_call_iff.mp) rfl ?_ noted) ?_
    · -- Nothing fails any more once the file is moved.
      intro zs e trace
      obtain ⟨_, -, impossible⟩ := trace_lift_iff.mp trace
      cases impossible
    · rintro xs ⟨_, rfl, _, rfl, _, rfl, _, rfl, event, rfl⟩
      exact ⟨event, rfl⟩
  unfold persistAt
  cases Path.properParent? path with
  | none =>
    refine Goes.mono written ?_
    rintro xs ⟨event, rfl⟩
    exact ⟨[], event, List.forall_mem_nil _, rfl⟩
  | some parent =>
    refine Goes.mono (Goes.step (fun done => ⟨.createDirectories parent, done⟩)
      (fun _ _ => Session.trace_call_iff.mp) trivial (fun _ _ _ => trivial) written) ?_
    rintro xs ⟨_, rfl, event, rfl⟩
    exact ⟨[⟨.createDirectories parent, true⟩], event,
      List.forall_mem_singleton.mpr trivial, rfl⟩

section Moments

variable {mishaps : Mishaps} {path : String} {s : Snapshot} {before after : Nat × World}
  {r : Except PlaneError Unit}

/-- A first part of replacing a state file has only prepared it, then not all is done unless a step
failed, or it has moved the new file to its place. -/
theorem persistAt_front {front back : List (Exchange Machine)}
    (trace : Trace (persistAt path s).run (front ++ back) r) :
    (∀ x ∈ front, x.Prepares path) ∧ (r = .ok () → back ≠ []) ∨
      r = .ok () ∧ ∃ made rest, (∀ x ∈ made ++ rest, x.Prepares path) ∧
        front = (made ++ replacing path (s.toText .json)) ++
          ⟨.rename (Path.withExtension path "tmp") path, true⟩ :: rest := by
  rcases goes_persistAt path s _ r trace with
    ⟨⟨e, rfl⟩, prepare⟩ | ⟨rfl, made, event, prepare, split⟩
  · exact .inl ⟨fun x member => prepare x (List.mem_append_left back member), nofun⟩
  · have prepareAll : ∀ x ∈ made ++ replacing path (s.toText .json), x.Prepares path := by
      refine List.forall_mem_append.mpr ⟨prepare, ?_⟩
      simp [replacing, Exchange.Prepares]
    rcases List.append_eq_append_iff.mp split with ⟨left, whole, remains⟩ | ⟨moved, rfl, remains⟩
    · refine .inl ⟨fun x member => prepareAll x ?_, fun _ => ?_⟩
      · rw [whole]
        exact List.mem_append_left left member
      · rw [remains]
        simp
    · match moved, remains with
      | [], remains =>
        refine .inl ⟨fun x member => prepareAll x (by simpa using member), fun _ => ?_⟩
        rw [← List.nil_append back, ← remains]
        exact List.cons_ne_nil _ _
      | x :: rest, remains =>
        obtain ⟨rfl, final⟩ := List.cons.inj remains
        refine .inr ⟨rfl, made, rest, List.forall_mem_append.mpr ⟨prepare, fun y member => ?_⟩, rfl⟩
        have noted : y ∈ [(⟨.note event, ()⟩ : Exchange Machine)] := by
          rw [final]
          exact List.mem_append_left back member
        rw [List.mem_singleton.mp noted]
        trivial

/-- At every moment of replacing a state file it is as it was, or it holds the new text. -/
theorem persistAt_moments (other : Path.extension? path ≠ some "tmp")
    (sound : before.2.files.Sound) {front back : List (Exchange Machine)}
    (trace : Trace (persistAt path s).run (front ++ back) r)
    (follows : Follows (Server.Step mishaps.serve) before front after) :
    World.Keeps path before.2 after.2 ∧ (r = .ok () → back ≠ []) ∨
      r = .ok () ∧ after.2.Holds path (s.toText .json).toUTF8 := by
  rcases persistAt_front trace with ⟨prepare, unfinished⟩ | ⟨done, made, rest, prepare, rfl⟩
  · exact .inl ⟨keeps_of_prepares other prepare sound follows, unfinished⟩
  · obtain ⟨-, prepareRest⟩ := List.forall_mem_append.mp prepare
    obtain ⟨ready, preparing, moving⟩ := follows.append_inv
    obtain ⟨cleared, -, writing⟩ := preparing.append_inv
    cases moving with
    | cons rename later =>
      have holds := holds_of_moved (Mishaps.sound_follows sound preparing) writing rename
      have kept := keeps_of_prepares other prepareRest holds.sound later
      exact .inr ⟨done, kept.holds holds⟩

end Moments

/-- A commit replaces the state file, and then the snapshot in memory. -/
theorem trace_commit_persisted {path : String} {plane after : LocalPlane}
    (kept : plane.path = some path) {next : Snapshot} {answer : Except PlaneError Unit}
    {xs : List (Exchange Machine)} (trace : Trace ((commit next).run plane) xs (answer, after)) :
    Trace (persistAt path next).run xs answer ∧
      (answer = .ok () → after = { plane with state := next }) ∧
      ∀ e, answer = .error e → after = plane := by
  simp only [commit, StateT.run_bind, StateT.run_get, pure_bind] at trace
  obtain ⟨ys, zs, ⟨persisted, same⟩, rfl, lifted, last⟩ := trace_bind_iff.mp trace
  obtain ⟨us, vs, written, rfl, persisting, returned⟩ := trace_bind_iff.mp lifted
  obtain ⟨rfl, equal⟩ := trace_done_iff.mp returned
  obtain ⟨rfl, rfl⟩ := Prod.mk.inj equal
  have saving : Trace (persistAt path next).run us persisted := by
    unfold persist at persisting
    rw [kept] at persisting
    exact persisting
  cases persisted with
  | ok u =>
    obtain ⟨rfl, equal⟩ := trace_done_iff.mp last
    obtain ⟨rfl, rfl⟩ := Prod.mk.inj equal
    rw [List.append_nil, List.append_nil]
    exact ⟨saving, fun _ => rfl, fun _ refused => by cases refused⟩
  | error e =>
    obtain ⟨rfl, equal⟩ := trace_done_iff.mp last
    obtain ⟨rfl, rfl⟩ := Prod.mk.inj equal
    rw [List.append_nil, List.append_nil]
    exact ⟨saving, (fun done => by cases done), fun _ _ => rfl⟩

/-- How a plane with a state file answers a call: it only logs, or it replaces the state file, and
changes what it holds only if that succeeds. -/
inductive Served (path : String) (plane : LocalPlane) (c : PlaneCall) (answer : c.Answer)
    (after : LocalPlane) (xs : List (Exchange Machine)) : Prop
  | quietly (same : after = plane) (logs : ∀ x ∈ xs, ∃ event, x = ⟨.note event, ()⟩)
      (fails : c.isMutation = true → Exchange.Failed ⟨c, answer⟩)
  | persisting (next : Snapshot) (r : Except PlaneError Unit) (changes : c.isMutation = true)
      (trace : Trace (persistAt path next).run xs r)
      (succeeded : r = .ok () →
        after = { plane with state := next } ∧ ¬ Exchange.Failed ⟨c, answer⟩)
      (failed : ∀ e, r = .error e → after = plane ∧ Exchange.Failed ⟨c, answer⟩)

variable {path : String} {plane after : LocalPlane} {xs : List (Exchange Machine)}

theorem served_of_commit (kept : plane.path = some path) {c : PlaneCall} {answer : c.Answer}
    {given : Except PlaneError Unit} (outcome : Except PlaneError Snapshot)
    (trace : Trace ((Store.serve.commit commit outcome).run plane) xs (given, after))
    (changes : c.isMutation = true)
    (failed : Exchange.Failed ⟨c, answer⟩ ↔ ∃ e, given = .error e) :
    Served path plane c answer after xs := by
  cases outcome with
  | error e =>
    obtain ⟨rfl, equal⟩ := trace_done_iff.mp trace
    obtain ⟨rfl, rfl⟩ := Prod.mk.inj equal
    exact .quietly rfl (List.forall_mem_nil _) fun _ => failed.mpr ⟨e, rfl⟩
  | ok next =>
    obtain ⟨persisting, succeeded, unchanged⟩ := trace_commit_persisted kept trace
    refine .persisting next given changes persisting (fun done => ⟨succeeded done, ?_⟩)
      fun e refused => ⟨unchanged e refused, failed.mpr ⟨e, refused⟩⟩
    rw [failed, done]
    rintro ⟨e, impossible⟩
    cases impossible

theorem trace_serve_served (kept : plane.path = some path) {c : PlaneCall} {answer : c.Answer}
    (trace : Trace ((serve c).run plane) xs (answer, after)) :
    Served path plane c answer after xs := by
  have quiet : ∀ {told : c.Answer}, Trace (.done (told, plane) : Session _) xs (answer, after) →
      c.isMutation = false → Served path plane c answer after xs := by
    intro told finished reads
    obtain ⟨rfl, equal⟩ := trace_done_iff.mp finished
    obtain ⟨rfl, rfl⟩ := Prod.mk.inj equal
    refine .quietly rfl (List.forall_mem_nil _) fun changes => ?_
    rw [reads] at changes
    cases changes
  have refused : ∀ {given : Except PlaneError Unit},
      (∃ e, some (Except.error e) = some given) ↔ ∃ e, given = .error e := by
    intro given
    exact exists_congr fun e => ⟨fun same => (Option.some.inj same).symm, fun same => by rw [same]⟩
  cases c with
  | create e => exact served_of_commit kept (Store.create e plane.state) trace rfl refused
  | update key e => exact served_of_commit kept (Store.update key e plane.state) trace rfl refused
  | delete k key => exact served_of_commit kept (Store.delete k key plane.state) trace rfl refused
  | modifyGlobal g =>
    exact served_of_commit kept (.ok { plane.state with globalConfig := some g }) trace rfl refused
  | list k => exact quiet trace rfl
  | read k key => exact quiet trace rfl
  | showGlobal => exact quiet trace rfl
  | backend => exact quiet trace rfl
  | note event =>
    have noted : Trace (Session.note event >>= fun u => pure (u, plane)) xs (answer, after) := trace
    obtain ⟨ys, zs, u, rfl, logged, last⟩ := trace_bind_iff.mp noted
    obtain ⟨rfl, equal⟩ := trace_done_iff.mp last
    obtain ⟨rfl, rfl⟩ := Prod.mk.inj equal
    obtain rfl := Session.trace_call_iff.mp logged
    refine .quietly rfl ?_ nofun
    rw [List.append_nil]
    exact List.forall_mem_singleton.mpr ⟨event, rfl⟩

/-- A call that is no mutation or failed has left the plane and its file as they were. A mutation
that succeeded has left the text of the new snapshot in the file. -/
def Settles (path : String) (before after : LocalPlane × Nat × World) (x : Exchange Plane) : Prop :=
  (x.request.isMutation = true → x.Failed) ∧ after.1 = before.1 ∧
      World.Keeps path before.2.2 after.2.2 ∨
    (x.request.isMutation = true ∧ ¬ x.Failed) ∧ after.1.path = before.1.path ∧
      after.2.2.Holds path (after.1.state.toText .json).toUTF8

section Calls

variable (mishaps : Mishaps) (other : Path.extension? path ≠ some "tmp")
  {before : LocalPlane × Nat × World} (kept : before.1.path = some path)
  (sound : before.2.2.files.Sound) (c : PlaneCall)

include other kept sound

/-- On any machine a call settles, and at every moment the file is the old or the new one. -/
theorem settles_call :
    let after := (on mishaps.serve c before).2
    let x : Exchange Plane := ⟨c, (on mishaps.serve c before).1⟩
    Settles path before after x ∧ ∀ n,
      let moment := (((serve c).run before.1).stateAfter mishaps.serve before.2 n).2
      World.Keeps path before.2.2 moment ∨ (x.request.isMutation = true ∧ ¬ x.Failed) ∧
        moment.Holds path (after.1.state.toText .json).toUTF8 := by
  intro after x
  have trace : Trace ((serve c).run before.1) _ (x.answer, after.1) :=
    exec_trace mishaps.serve ((serve c).run before.1) before.2
  have follows : Follows (Server.Step mishaps.serve) before.2 _ after.2 :=
    exec_follows mishaps.serve ((serve c).run before.1) before.2
  have moments := stateAfter_follows mishaps.serve ((serve c).run before.1) before.2
  generalize ((serve c).run before.1).journal mishaps.serve before.2 = xs at trace follows moments
  cases trace_serve_served kept trace with
  | quietly same logs fails =>
    have prepare : ∀ x ∈ xs, x.Prepares path := by
      intro x member
      obtain ⟨event, rfl⟩ := logs x member
      trivial
    refine ⟨.inl ⟨fails, same, keeps_of_prepares other prepare sound follows⟩, fun n => .inl ?_⟩
    obtain ⟨front, back, rfl, reached⟩ := moments n
    refine keeps_of_prepares other (fun x member => ?_) sound reached
    exact prepare x (List.mem_append_left back member)
  | persisting next r changes persisting succeeded failed =>
    cases r with
    | error e =>
      obtain ⟨same, fails⟩ := failed e rfl
      have keeps : ∀ {front back : List (Exchange Machine)} {reached : Nat × World},
          xs = front ++ back → Follows (Server.Step mishaps.serve) before.2 front reached →
          World.Keeps path before.2.2 reached.2 := by
        rintro front back reached rfl following
        rcases persistAt_moments other sound persisting following with ⟨keeps, -⟩ | ⟨done, -⟩
        · exact keeps
        · cases done
      refine ⟨.inl ⟨fun _ => fails, same, keeps (List.append_nil xs).symm follows⟩, fun n => ?_⟩
      obtain ⟨front, back, split, reached⟩ := moments n
      exact .inl (keeps split reached)
    | ok u =>
      obtain ⟨committed, unfailed⟩ := succeeded rfl
      have held : after.1.state = next := by rw [committed]
      rw [held]
      constructor
      · rw [← List.append_nil xs] at persisting
        rcases persistAt_moments other sound persisting follows with ⟨-, unfinished⟩ | ⟨-, holds⟩
        · exact absurd rfl (unfinished rfl)
        · refine .inr ⟨⟨changes, unfailed⟩, ?_, ?_⟩
          · rw [committed]
          · rw [held]
            exact holds
      · intro n
        obtain ⟨front, back, rfl, reached⟩ := moments n
        rcases persistAt_moments other sound persisting reached with ⟨keeps, -⟩ | ⟨-, holds⟩
        · exact .inl keeps
        · exact .inr ⟨⟨changes, unfailed⟩, holds⟩

end Calls

theorem Settles.kept {before after : LocalPlane × Nat × World} {x : Exchange Plane}
    (settles : Settles path before after x) (kept : before.1.path = some path) :
    after.1.path = some path := by
  rcases settles with ⟨-, same, -⟩ | ⟨-, same, -⟩
  · rw [same]
    exact kept
  · exact same.trans kept

theorem Settles.sound {before after : LocalPlane × Nat × World} {x : Exchange Plane}
    (settles : Settles path before after x) : after.2.2.files.Sound := by
  rcases settles with ⟨-, -, keeps⟩ | ⟨-, -, holds⟩
  · exact keeps.files.sound
  · exact holds.sound

/-- After a run the plane and its file are as they were, or the file holds what the plane holds. -/
theorem run_settles {α : Type} (p : Control α) (mishaps : Mishaps)
    (other : Path.extension? path ≠ some "tmp") {before : LocalPlane × Nat × World}
    (kept : before.1.path = some path) (sound : before.2.2.files.Sound) :
    let after := (p.exec (on mishaps.serve) before).2
    after.1.path = some path ∧ (after.1 = before.1 ∧ World.Keeps path before.2.2 after.2.2 ∨
      after.2.2.Holds path (after.1.state.toText .json).toUTF8) := by
  intro after
  induction p generalizing before with
  | done a => exact ⟨kept, .inl ⟨rfl, .refl sound path⟩⟩
  | ask c next ih =>
    obtain ⟨settles, -⟩ := settles_call mishaps other kept sound c
    obtain ⟨located, rest⟩ := ih _ (settles.kept kept) settles.sound
    refine ⟨located, ?_⟩
    rcases rest with ⟨same, keeps⟩ | holds
    · have ended : after.1 = (on mishaps.serve c before).2.1 := same
      rcases settles with ⟨-, unchanged, first⟩ | ⟨-, -, holds⟩
      · exact .inl ⟨ended.trans unchanged, first.trans keeps⟩
      · rw [ended]
        exact .inr (keeps.holds holds)
    · exact .inr holds

end LocalPlane

end ClusterConf
