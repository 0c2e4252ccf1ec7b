import ClusterConf.Proofs.CommandRuns
import ClusterConf.Proofs.Persistence
import ClusterConf.Proofs.RecordEquality
import ClusterConf.Proofs.SnapshotReading
set_option autoImplicit false

/-!
What an apply leaves in the state file of a local plane, and what is found there when the file is
opened again. Main statement: after an apply that succeeded the plane is found as it was left
exactly if each of its numbers is read back from its own text, and no file can be opened that an
apply has written a number to that is not finite.
-/
namespace ClusterConf

open Program
open Control (mutations)
open Comparison (stages)

theorem Mishaps.serve_of_sure (mishaps : Mishaps) {c : MachineCall} (sure : c.refused? = none)
    (before : Nat × World) : mishaps.serve c before =
      ((World.serve c before.2).1, before.1 + 1, (World.serve c before.2).2) := by
  obtain ⟨n, w⟩ := before
  rw [Mishaps.serve, sure]
  cases mishaps n <;> rfl

theorem eq_pair {α β : Type} {p : α × β} {a : α} (first : p.1 = a) : p = (a, p.2) := by
  rw [← first]

namespace LocalPlane

/-! ## Opening a state file -/

/-- The plane that a state file is found to hold. -/
def found (path : String) (text? : Option String) : Except Error LocalPlane :=
  match text? with
  | none => .error (.state (.corrupted .unreadableState))
  | some text =>
    match Snapshot.ofText? .json text with
    | none => .error (.state (.corrupted .malformedState))
    | some s => .ok ⟨some path, s⟩

/-- What opening a state file comes to with the files of a machine. -/
def loads (path : String) (w : World) : Except Error LocalPlane :=
  if w.files.pathExists w.cwd path then
    found path ((w.files.read? w.cwd path).bind String.fromUTF8?)
  else .ok ⟨some path, .empty⟩

/-- How opening a state file ends that is there. -/
theorem found_eq (path : String) (text? : Option String) :
    (match text? with
      | none => throw (.state (.corrupted .unreadableState))
      | some text =>
        match Snapshot.ofText? .json text with
        | none => throw (.state (.corrupted .malformedState))
        | some s => pure ⟨some path, s⟩ : ExceptT Error Session LocalPlane).run =
      .done (found path text?) := by
  cases text? with
  | none => rfl
  | some text =>
    cases parsed : Snapshot.ofText? .json text <;> simp [found, parsed]

theorem openAt_eq (path : String) : (openAt path).run =
    .ask (.pathExists path) fun there =>
      if there then
        .ask (.note (.info .localPlane s!"Loading live state from: {path}")) fun _ =>
          .ask (.readFile path) fun content => .done (found path (content.bind String.fromUTF8?))
      else
        .ask (.note (.debug .localPlane s!"State file does not exist yet: {path}")) fun _ =>
          .done (.ok ⟨some path, .empty⟩) := by
  refine congrArg (Program.ask _) (funext fun there => ?_)
  cases there with
  | false => rfl
  | true =>
    refine congrArg (Program.ask _) (funext fun _ => ?_)
    refine congrArg (Program.ask _) (funext fun content => ?_)
    cases content with
    | none => rfl
    | some content => exact found_eq path (String.fromUTF8? content)

/-- Opening a state file finds what its files hold, and leaves them as they are. -/
theorem exec_openAt (mishaps : Mishaps) (path : String) (before : Nat × World) :
    ∃ after, (openAt path).run.exec mishaps.serve before = (loads path before.2, after) ∧
      before.2.SameFiles after.2 := by
  obtain ⟨n, w⟩ := before
  rw [openAt_eq, exec_ask, mishaps.serve_of_sure rfl, loads]
  change ∃ after, Program.exec mishaps.serve (if w.files.pathExists w.cwd path then _ else _)
    (n + 1, w) = _ ∧ _
  split
  · rw [exec_ask, mishaps.serve_of_sure rfl, exec_ask, mishaps.serve_of_sure rfl]
    exact ⟨_, rfl, rfl, rfl⟩
  · rw [exec_ask, mishaps.serve_of_sure rfl]
    exact ⟨_, rfl, rfl, rfl⟩

/-- Where there is no state file, an empty cluster is opened. -/
theorem exec_openAt_absent (mishaps : Mishaps) (path : String) (before : Nat × World)
    (absent : before.2.files.pathExists before.2.cwd path = false) :
    ∃ after, (openAt path).run.exec mishaps.serve before = (.ok ⟨some path, .empty⟩, after) ∧
      before.2.SameFiles after.2 := by
  have empty : loads path before.2 = .ok ⟨some path, .empty⟩ :=
    if_neg (by rw [absent]; exact Bool.false_ne_true)
  rw [← empty]
  exact exec_openAt mishaps path before

theorem loads_congr {path : String} {w w' : World} (same : w.SameFiles w') :
    loads path w' = loads path w := by
  rw [loads, loads, same.files, same.cwd]

/-- A state file that holds the text of a snapshot is found to hold what the snapshot becomes. -/
theorem loads_of_holds {path : String} {w : World} {s : Snapshot}
    (holds : w.Holds path (s.toText .json).toUTF8) : loads path w =
      match s.again? with
      | none => .error (.state (.corrupted .malformedState))
      | some t => .ok ⟨some path, t⟩ := by
  rw [loads, FileTree.pathExists_of_read? holds.reads, holds.reads, Option.bind_some,
    fromUTF8?_toUTF8]
  simp only [if_true, found, Snapshot.ofText?_toText]

/-! ## Calls that succeed -/

section Calls

variable {mishaps : Mishaps} {path : String}

theorem sameFiles_of_logs {before after : Nat × World} {xs : List (Exchange Machine)}
    (logs : ∀ x ∈ xs, ∃ event, x = ⟨.note event, ()⟩)
    (follows : Follows (Server.Step mishaps.serve) before xs after) :
    before.2.SameFiles after.2 := by
  induction follows with
  | nil s => exact .refl s.2
  | cons first _ ih =>
    obtain ⟨⟨event, rfl⟩, rest⟩ := List.forall_mem_cons.mp logs
    have logged := congrArg Prod.snd (Mishaps.served first nofun)
    refine World.SameFiles.trans ?_ (ih rest)
    rw [← logged]
    exact ⟨rfl, rfl⟩

/-- A replacement of the state file that succeeded has left the text there. -/
theorem holds_of_persistAt {s : Snapshot} {before after : Nat × World}
    (sound : before.2.files.Sound) {xs : List (Exchange Machine)}
    (trace : Trace (persistAt path s).run xs (.ok ()))
    (follows : Follows (Server.Step mishaps.serve) before xs after) :
    after.2.Holds path (s.toText .json).toUTF8 := by
  rcases goes_persistAt path s xs _ trace with ⟨⟨e, impossible⟩, -⟩ | ⟨-, made, event, -, rfl⟩
  · cases impossible
  obtain ⟨ready, preparing, moving⟩ := follows.append_inv
  obtain ⟨cleared, -, writing⟩ := preparing.append_inv
  cases moving with
  | cons rename noted =>
    have holds := holds_of_moved (Mishaps.sound_follows sound preparing) writing rename
    refine (sameFiles_of_logs ?_ noted).holds holds
    exact List.forall_mem_singleton.mpr ⟨event, rfl⟩

/-- What calls of which no mutation failed do to a plane and its state file. -/
inductive Saves (path : String) (before after : LocalPlane × Nat × World) :
    List (Exchange Plane) → Prop
  | nothing {xs : List (Exchange Plane)} (silent : mutations xs = []) (same : after.1 = before.1)
      (files : before.2.2.SameFiles after.2.2) : Saves path before after xs
  | state {xs : List (Exchange Plane)} (changing : mutations xs ≠ [])
      (kept : after.1.path = some path)
      (holds : after.2.2.Holds path (after.1.state.toText .json).toUTF8) :
      Saves path before after xs

theorem saves_call (mishaps : Mishaps) {before : LocalPlane × Nat × World}
    (kept : before.1.path = some path) (sound : before.2.2.files.Sound) (c : PlaneCall) :
    let x : Exchange Plane := ⟨c, (on mishaps.serve c before).1⟩
    (c.isMutation = true → ¬ x.Failed) → Saves path before (on mishaps.serve c before).2 [x] := by
  intro x unfailed
  have trace : Trace ((serve c).run before.1) _ (x.answer, (on mishaps.serve c before).2.1) :=
    exec_trace mishaps.serve ((serve c).run before.1) before.2
  have follows : Follows (Server.Step mishaps.serve) before.2 _ (on mishaps.serve c before).2.2 :=
    exec_follows mishaps.serve ((serve c).run before.1) before.2
  cases trace_serve_served kept trace with
  | quietly same logs fails =>
    have reads : ¬ c.isMutation = true := fun changes => unfailed changes (fails changes)
    exact .nothing (List.filter_cons_of_neg reads) same (sameFiles_of_logs logs follows)
  | persisting next r changes persisting succeeded failed =>
    cases r with
    | error e => exact absurd (failed e rfl).2 (unfailed changes)
    | ok u =>
      obtain ⟨committed, -⟩ := succeeded rfl
      have some : mutations [x] = [x] := List.filter_cons_of_pos changes
      refine .state ?_ ?_ ?_
      · rw [some]
        exact List.cons_ne_nil _ _
      · rw [committed]
        exact kept
      · rw [committed]
        exact holds_of_persistAt sound persisting follows

theorem Saves.append {before between after : LocalPlane × Nat × World}
    {xs ys : List (Exchange Plane)} (first : Saves path before between xs)
    (second : Saves path between after ys) : Saves path before after (xs ++ ys) := by
  cases second with
  | state changing kept holds =>
    refine .state (fun silent => changing ?_) kept holds
    rw [Control.mutations_append] at silent
    exact (List.append_eq_nil_iff.mp silent).2
  | nothing silent same files =>
    cases first with
    | nothing silentFirst sameFirst filesFirst =>
      refine .nothing ?_ (same.trans sameFirst) (filesFirst.trans files)
      rw [Control.mutations_append, silentFirst, silent]
      rfl
    | state changing kept holds =>
      refine .state ?_ (same ▸ kept) (same ▸ files.holds holds)
      rw [Control.mutations_append, silent, List.append_nil]
      exact changing

theorem Saves.kept {before after : LocalPlane × Nat × World} {xs : List (Exchange Plane)}
    (saves : Saves path before after xs) (kept : before.1.path = some path) :
    after.1.path = some path := by
  cases saves with
  | nothing _ same _ => exact same ▸ kept
  | state _ located _ => exact located

theorem Saves.sound {before after : LocalPlane × Nat × World} {xs : List (Exchange Plane)}
    (saves : Saves path before after xs) (sound : before.2.2.files.Sound) :
    after.2.2.files.Sound := by
  cases saves with
  | nothing _ _ files => exact files.files ▸ sound
  | state _ _ holds => exact holds.sound

/-- A run of which no mutation failed has changed nothing, or the state file holds what it has
made of the plane. -/
theorem saves_run {α : Type} (p : Control α) (mishaps : Mishaps) {before : LocalPlane × Nat × World}
    (kept : before.1.path = some path) (sound : before.2.2.files.Sound)
    (unfailed : ∀ x ∈ mutations (p.journal (on mishaps.serve) before), ¬ x.Failed) :
    Saves path before (p.exec (on mishaps.serve) before).2
      (p.journal (on mishaps.serve) before) := by
  induction p generalizing before with
  | done a => exact .nothing rfl rfl (.refl _)
  | ask c next ih =>
    let x : Exchange Plane := ⟨c, (on mishaps.serve c before).1⟩
    have split : mutations ((Program.ask c next).journal (on mishaps.serve) before) =
        mutations [x] ++ mutations ((next x.answer).journal (on mishaps.serve)
          (on mishaps.serve c before).2) := Control.mutations_append [x] _
    rw [split, List.forall_mem_append] at unfailed
    obtain ⟨unfailedFirst, unfailedRest⟩ := unfailed
    have first := saves_call mishaps kept sound c fun changes =>
      unfailedFirst x (List.mem_filter.mpr ⟨List.mem_singleton_self x, changes⟩)
    exact first.append (ih x.answer (first.kept kept) (first.sound sound) unfailedRest)

end Calls

end LocalPlane

/-! ## Numbers that are not finite -/

theorem Double.eq_of_beq_of_infinite {a b : Double} (equal : (a == b) = true)
    (other : b.isFinite = false) : a = b := by
  obtain ⟨-, -, same | ⟨-, zero⟩⟩ := Double.beq_iff.mp equal
  · exact same
  · rw [isZero, other] at zero
    cases zero

theorem Table.mem_of_beq {s t : Table Double} (equal : (s == t) = true) {d : Double}
    (other : d.isFinite = false) (member : d ∈ t.entries.map (·.2)) :
    d ∈ s.entries.map (·.2) := by
  have entries : (s.entries == t.entries) = true := equal
  obtain ⟨e, inside, rfl⟩ := List.mem_map.mp member
  obtain ⟨f, among, same⟩ := exists_beq_of_mem entries inside
  obtain ⟨-, value⟩ := Bool.and_eq_true_iff.mp same
  exact List.mem_map.mpr ⟨f, among, Double.eq_of_beq_of_infinite value other⟩

/-- Hosts that equal each other hold the same numbers that are not finite. -/
theorem ExecHost.mem_numbers_of_beq {g h : ExecHost} (equal : (g == h) = true) {d : Double}
    (other : d.isFinite = false) (member : d ∈ h.numbers) : d ∈ g.numbers := by
  have unfolded : instBEqExecHost.beq g h = true := equal
  simp only [instBEqExecHost.beq, Bool.and_eq_true] at unfolded
  obtain ⟨-, load, usage, -⟩ := unfolded
  rw [numbers, List.map_append, List.mem_append] at member ⊢
  exact member.imp (Table.mem_of_beq load other) (Table.mem_of_beq usage other)

namespace Comparison

variable {c : Comparison} {live desired : Snapshot}

/-- After the phases of a comparison each desired record is there, or one that equals it. -/
theorem exists_desired (compared : between live desired = .ok c) {k : Kind} {d : k.Record}
    (wanted : d ∈ desired.records k) :
    ∃ r ∈ (c.perform stages live).records k, r = d ∨ (r == d) = true := by
  obtain ⟨keyed, keyedDesired, describes⟩ := between_describes compared
  rw [records_perform describes]
  by_cases old : k.key d ∈ live.keys k
  · have stays : k.key d ∈ (c.survivors live).keys k := by
      rw [keys_survivors describes, List.mem_filter, decide_eq_true_iff]
      exact ⟨old, List.mem_map_of_mem wanted⟩
    obtain ⟨r, survives, named⟩ := List.mem_map.mp stays
    obtain ⟨v, version, same, equal⟩ := version_of_survivor describes keyed.distinct survives
    obtain rfl := Keyed.eq_of_key_eq (keyedDesired.distinct k) version wanted (same.trans named)
    exact ⟨r, List.mem_append_left _ survives, equal⟩
  · have added : d ∈ c.added.records k := describes.mem_added_iff.mpr ⟨wanted, old⟩
    exact ⟨d, List.mem_append_right _ added, .inl rfl⟩

/-- What is desired and not finite is there after the phases of a comparison. -/
theorem mem_numbers_perform (compared : between live desired = .ok c) {d : Double}
    (other : d.isFinite = false) (member : d ∈ desired.numbers) :
    d ∈ (c.perform stages live).numbers := by
  obtain ⟨h, wanted, inside⟩ := List.mem_flatMap.mp member
  obtain ⟨r, held, same⟩ := exists_desired compared (k := .execHost) wanted
  refine List.mem_flatMap.mpr ⟨r, held, ?_⟩
  rcases same with rfl | equal
  · exact inside
  · exact ExecHost.mem_numbers_of_beq equal other inside

end Comparison

namespace Reconciler

open LocalPlane (loads exec_openAt loads_congr loads_of_holds)

/-- What an apply that succeeded leaves: what was there if it has changed nothing, or else what is
desired, in memory and in the state file. -/
structure Applied (path : String) (desired : Snapshot) (before : LocalPlane × Nat × World)
    (outcome : ApplyOutcome) (after : LocalPlane × Nat × World) : Prop where
  located : after.1.path = some path
  idle : outcome.changed = false → after.1 = before.1 ∧ before.2.2.SameFiles after.2.2
  saved : outcome.changed = true → after.2.2.Holds path (after.1.state.toText .json).toUTF8
  wanted : ∀ d ∈ desired.numbers, d.isFinite = false → d ∈ after.1.state.numbers

theorem applied_of_exec {mishaps : Mishaps} {path : String} {desired : Snapshot}
    {before after : LocalPlane × Nat × World} {outcome : ApplyOutcome}
    (kept : before.1.path = some path) (sound : before.2.2.files.Sound)
    (applies : (apply desired false).run.exec (LocalPlane.on mishaps.serve) before =
      (.ok outcome, after)) : Applied path desired before outcome after := by
  have trace := exec_trace (LocalPlane.on mishaps.serve) (apply desired false).run before
  have follows := LocalPlane.follows_readable mishaps.serve (apply desired false).run before
  have saves := LocalPlane.saves_run (apply desired false).run mishaps kept sound
  rw [applies] at trace follows saves
  generalize (apply desired false).run.journal (LocalPlane.on mishaps.serve) before = xs
    at trace follows saves
  obtain ⟨c, compared, rfl, effect, made⟩ :=
    apply_done trace (follows.map id fun _ _ _ => Store.Readable.faulty)
  have silent : c.outcome.changed = false ↔ mutations xs = [] := by
    rw [made, List.map_eq_nil_iff, List.map_eq_nil_iff, Comparison.changed_eq_false_iff]
  have saved := saves fun x member => Trial.not_failed_of_success (made ▸ member)
  constructor
  case located => exact saved.kept kept
  case idle =>
    intro unchanged
    cases saved with
    | nothing _ same files => exact ⟨same, files⟩
    | state changing _ _ => exact absurd (silent.mp unchanged) changing
  case saved =>
    intro changed
    cases saved with
    | nothing quiet _ _ => exact absurd (silent.mpr quiet) (Bool.not_eq_false _ ▸ changed)
    | state _ _ holds => exact holds
  case wanted =>
    intro d desires other
    have final : after.1.state = c.perform stages before.1.state := effect
    rw [final]
    exact Comparison.mem_numbers_perform compared other desires

/-- A state file cannot be opened if what an apply has written there does not become anything. -/
theorem Applied.lost {mishaps : Mishaps} {path : String} {desired : Snapshot}
    {before after : LocalPlane × Nat × World} {outcome : ApplyOutcome}
    (applied : Applied path desired before outcome after) (changed : outcome.changed = true)
    {d : Double} (desires : d ∈ desired.numbers) (other : d.isFinite = false) :
    ((LocalPlane.openAt path).run.exec mishaps.serve after.2).1 =
      .error (.state (.corrupted .malformedState)) := by
  obtain ⟨_, reopening, -⟩ := exec_openAt mishaps path after.2
  have becomes := Snapshot.again?_of_lost (applied.wanted d desires other)
    (Double.reread?_of_infinite other)
  rw [reopening, loads_of_holds (applied.saved changed), becomes]

/--
A state file is opened, an apply succeeds, and the file is opened again, all on a machine whose
file steps may fail. The plane is found as the apply has left it exactly if nothing was changed or
each of its numbers is read back from its JSON text. If a number was desired that is not finite the
file cannot be opened any more. Where it can, all keys are there, and all records but those of
hosts.
-/
theorem apply_reopens_iff (mishaps : Mishaps) (path : String) (desired : Snapshot)
    (start : Nat × World) (sound : start.2.files.Sound) (plane : LocalPlane) (before : Nat × World)
    (opens : (LocalPlane.openAt path).run.exec mishaps.serve start = (.ok plane, before))
    (outcome : ApplyOutcome) (after : LocalPlane × Nat × World)
    (applies : (apply desired false).run.exec (LocalPlane.on mishaps.serve) (plane, before) =
      (.ok outcome, after)) :
    let reopened := ((LocalPlane.openAt path).run.exec mishaps.serve after.2).1
    (reopened = .ok after.1 ↔
        (outcome.changed = true → ∀ d ∈ after.1.state.numbers, d.reread? = some d)) ∧
      (outcome.changed = true → (∃ d ∈ desired.numbers, d.isFinite = false) →
        reopened = .error (.state (.corrupted .malformedState))) ∧
      ∀ again, reopened = .ok again →
        again.path = after.1.path ∧ again.state.globalConfig = after.1.state.globalConfig ∧
          ∀ k, again.state.keys k = after.1.state.keys k ∧
            (k ≠ .execHost → again.state.records k = after.1.state.records k) := by
  intro reopened
  obtain ⟨_, opening, sameFiles⟩ := exec_openAt mishaps path start
  obtain ⟨loaded, rfl⟩ := Prod.mk.inj (opening.symm.trans opens)
  obtain ⟨_, reopening, -⟩ := exec_openAt mishaps path after.2
  have finds : reopened = loads path after.2.2 := congrArg Prod.fst reopening
  have kept : plane.path = some path := by
    have trace := exec_trace mishaps.serve (LocalPlane.openAt path).run start
    rw [opens] at trace
    exact LocalPlane.openAt_path trace
  have applied := applied_of_exec kept (sameFiles.files ▸ sound) applies
  obtain ⟨located, idle, saved, -⟩ := id applied
  cases changed : outcome.changed with
  | false =>
    obtain ⟨same, files⟩ := idle changed
    have stays : reopened = .ok after.1 := by
      rw [finds, loads_congr (sameFiles.trans files), loaded, same]
    refine ⟨iff_of_true stays nofun, nofun, fun again found => ?_⟩
    obtain rfl := Except.ok.inj (stays.symm.trans found)
    exact ⟨rfl, rfl, fun k => ⟨rfl, fun _ => rfl⟩⟩
  | true =>
    rw [loads_of_holds (saved changed)] at finds
    have left : after.1 = ⟨some path, after.1.state⟩ := by rw [← located]
    have kept : reopened = .ok after.1 ↔ after.1.state.again? = some after.1.state := by
      rw [finds]
      cases after.1.state.again? with
      | none => exact iff_of_false nofun nofun
      | some t =>
        refine ⟨fun same => ?_, fun same => ?_⟩
        · exact congrArg (fun p => some p.state) (Except.ok.inj same)
        · rw [Option.some.inj same]
          exact congrArg Except.ok left.symm
    refine ⟨?_, fun _ lost => ?_, fun again found => ?_⟩
    · rw [kept, Snapshot.again?_eq_self_iff]
      exact ⟨fun same _ => same, fun same => same rfl⟩
    · obtain ⟨d, desires, other⟩ := lost
      exact applied.lost changed desires other
    · rw [finds] at found
      cases becomes : after.1.state.again? with
      | none =>
        rw [becomes] at found
        cases found
      | some t =>
        rw [becomes] at found
        obtain rfl := Except.ok.inj found
        exact ⟨located.symm, Snapshot.globalConfig_of_again? becomes, fun k =>
          ⟨Snapshot.keys_of_again? becomes k, Snapshot.records_of_again? becomes⟩⟩

theorem exists_changed {r : Except Error ApplyOutcome}
    (told : r.toOption.map (·.changed) = some true) :
    ∃ outcome, r = .ok outcome ∧ outcome.changed = true := by
  cases r with
  | error e => cases told
  | ok outcome => exact ⟨outcome, rfl, Option.some.inj told⟩

/-- A host with a factor that is read back, among other things, is found as it was left. -/
theorem apply_reopens_iff_of_small :
    let mishaps : Mishaps := fun _ => none
    let desired := Snapshot.small "staff" ⟨0x3ff8000000000000⟩
    let opening := (LocalPlane.openAt "cluster.json").run.exec mishaps.serve (0, .bare)
    let applying := (apply desired false).run.exec (LocalPlane.on mishaps.serve)
      (⟨some "cluster.json", .empty⟩, opening.2)
    opening.1 = .ok ⟨some "cluster.json", .empty⟩ ∧
      (∃ outcome, applying.1 = .ok outcome ∧ outcome.changed = true) ∧
      ((LocalPlane.openAt "cluster.json").run.exec mishaps.serve applying.2.2).1 =
        .ok applying.2.1 := by
  intro mishaps desired opening applying
  have opened : opening.1 = .ok ⟨some "cluster.json", .empty⟩ := by
    obtain ⟨_, opens, -⟩ := LocalPlane.exec_openAt_absent mishaps "cluster.json" (0, .bare)
      (by decide +kernel)
    exact congrArg Prod.fst opens
  have told : applying.1.toOption.map (·.changed) = some true := by decide +kernel
  have numbers : ∀ d ∈ applying.2.1.state.numbers, d.reread? = some d := by decide +kernel
  obtain ⟨outcome, succeeded, changed⟩ := exists_changed told
  have reopens := apply_reopens_iff mishaps "cluster.json" desired (0, .bare) World.sound_bare
    ⟨some "cluster.json", .empty⟩ opening.2 (eq_pair opened) outcome applying.2 (eq_pair succeeded)
  exact ⟨opened, ⟨outcome, succeeded, changed⟩, reopens.1.mpr fun _ => numbers⟩

/-- YAML has infinities and JSON has not: a load factor that is valid, and that an apply writes to
the state file, makes that file unreadable. -/
theorem apply_loses_infinity :
    let mishaps : Mishaps := fun _ => none
    let text := "exec_hosts:\n- hostname: n\n  load_scaling:\n    x: .inf\n"
    let parsing := (SnapshotFile.parse .yaml text none).run.exec mishaps.serve (0, .bare)
    let desired := parsing.1.toOption.getD .empty
    let opening := (LocalPlane.openAt "cluster.json").run.exec mishaps.serve parsing.2
    let applying := (apply desired false).run.exec (LocalPlane.on mishaps.serve)
      (⟨some "cluster.json", .empty⟩, opening.2)
    parsing.1.toOption.isSome = true ∧
      (Validation.check Validation.valueTypes desired).isValid = true ∧
      opening.1 = .ok ⟨some "cluster.json", .empty⟩ ∧
      applying.1.toOption.isSome = true ∧
      ((LocalPlane.openAt "cluster.json").run.exec mishaps.serve applying.2.2).1 =
        .error (.state (.corrupted .malformedState)) := by
  intro mishaps text parsing desired opening applying
  have parsed : parsing.1.toOption.isSome = true := by decide +kernel
  have valid : (Validation.check Validation.valueTypes desired).isValid = true := by decide +kernel
  have told : applying.1.toOption.map (·.changed) = some true := by decide +kernel
  have infinite : ∃ d ∈ desired.numbers, d.isFinite = false := by decide +kernel
  have absent : parsing.2.2.files.pathExists parsing.2.2.cwd "cluster.json" = false := by
    decide +kernel
  obtain ⟨_, opens, -⟩ := LocalPlane.exec_openAt_absent mishaps "cluster.json" parsing.2 absent
  have opened : opening.1 = .ok ⟨some "cluster.json", .empty⟩ := congrArg Prod.fst opens
  have sound : opening.2.2.files.Sound := by
    have parsedSound := Mishaps.sound_follows World.sound_bare
      (exec_follows mishaps.serve (SnapshotFile.parse .yaml text none).run (0, .bare))
    exact Mishaps.sound_follows parsedSound
      (exec_follows mishaps.serve (LocalPlane.openAt "cluster.json").run parsing.2)
  obtain ⟨outcome, succeeded, changed⟩ := exists_changed told
  obtain ⟨d, desires, other⟩ := infinite
  have applied : Applied "cluster.json" desired (⟨some "cluster.json", .empty⟩, opening.2) outcome
      applying.2 := applied_of_exec rfl sound (eq_pair succeeded)
  have ended : applying.1.toOption.isSome = true :=
    congrArg (fun r : Except Error ApplyOutcome => r.toOption.isSome) succeeded
  exact ⟨parsed, valid, opened, ended, applied.lost changed desires other⟩

end Reconciler

end ClusterConf
