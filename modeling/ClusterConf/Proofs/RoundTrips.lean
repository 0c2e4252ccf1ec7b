import ClusterConf.Machine.SnapshotFile
import ClusterConf.Proofs.Reopening
import ClusterConf.Proofs.YamlScalars
set_option autoImplicit false

/-!
Snapshots that are written and read again. Main statement: as far as a text format reads back the
trees that it writes, a snapshot with finite numbers is parsed from its own text as what it is, and
a snapshot file that was written is loaded as what was written there.
-/
namespace ClusterConf

open Program

namespace Yaml.Node

mutual

def decEq : (a b : Node) → Decidable (a = b)
  | .scalar anchor tag style text, .scalar anchor' tag' style' text' =>
    decidable_of_iff (anchor = anchor' ∧ tag = tag' ∧ style = style' ∧ text = text')
      (Node.scalar.injEq ..).symm.to_iff
  | .list anchor items, .list anchor' items' =>
    have := decEqItems items items'
    decidable_of_iff (anchor = anchor' ∧ items = items') (Node.list.injEq ..).symm.to_iff
  | .record anchor members, .record anchor' members' =>
    have := decEqMembers members members'
    decidable_of_iff (anchor = anchor' ∧ members = members') (Node.record.injEq ..).symm.to_iff
  | .alias number, .alias number' =>
    decidable_of_iff (number = number') (Node.alias.injEq ..).symm.to_iff
  | .scalar .., .list .. | .scalar .., .record .. | .scalar .., .alias _ => .isFalse nofun
  | .list .., .scalar .. | .list .., .record .. | .list .., .alias _ => .isFalse nofun
  | .record .., .scalar .. | .record .., .list .. | .record .., .alias _ => .isFalse nofun
  | .alias _, .scalar .. | .alias _, .list .. | .alias _, .record .. => .isFalse nofun

def decEqItems : (as bs : List Node) → Decidable (as = bs)
  | [], [] => .isTrue rfl
  | a :: as, b :: bs =>
    have := decEq a b
    have := decEqItems as bs
    decidable_of_iff (a = b ∧ as = bs) (List.cons.injEq ..).symm.to_iff
  | [], _ :: _ | _ :: _, [] => .isFalse nofun

def decEqMembers : (as bs : List (Node × Node)) → Decidable (as = bs)
  | [], [] => .isTrue rfl
  | (k, v) :: as, (k', v') :: bs =>
    have := decEq k k'
    have := decEq v v'
    have := decEqMembers as bs
    decidable_of_iff ((k = k' ∧ v = v') ∧ as = bs) (by simp)
  | [], _ :: _ | _ :: _, [] => .isFalse nofun

end

instance : DecidableEq Node := decEq

end Yaml.Node

/-- What a text format is relied on for: of YAML that it reads back the tree of nodes that it has
written, and of JSON, whose trees are read back, only that it reads back the numbers. -/
def TextFormat.Keeps (format : TextFormat) (s : Snapshot) : Prop :=
  match format with
  | .json => ∀ d ∈ s.numbers, d.reread? = some d
  | .yaml => (Yaml.read? (s.toText .yaml)).map (·.node) = some (.ofDocument s.toDocument)

instance (format : TextFormat) (s : Snapshot) : Decidable (format.Keeps s) :=
  match format with
  | .json => inferInstanceAs (Decidable (∀ d ∈ s.numbers, d.reread? = some d))
  | .yaml => inferInstanceAs
      (Decidable ((Yaml.read? (s.toText .yaml)).map (·.node) = some (.ofDocument s.toDocument)))

/-- A snapshot with finite numbers is read from its text as what it is. -/
theorem Snapshot.ofText?_of_keeps {s : Snapshot} (finite : ∀ d ∈ s.numbers, d.isFinite = true)
    {format : TextFormat} (keeps : format.Keeps s) : ofText? format (s.toText format) = some s := by
  cases format with
  | json => exact (ofText?_toText s).trans (again?_eq_self_iff.mpr keeps)
  | yaml =>
    obtain ⟨⟨anchored, limit, node⟩, read, rfl⟩ := Option.map_eq_some_iff.mp keeps
    let R := Yaml.View.rendering anchored limit
    have numbers : ∀ d ∈ s.numbers, R.number? d = some d := fun d member =>
      Yaml.View.number?_rendering (finite d member)
    calc ofText? .yaml (s.toText .yaml) = codec.read? R.source limit (R.render s.toDocument) := by
          rw [ofText?, read]
          rfl
      _ = codec.again R s := steady_codec.read?_eq R limit s
      _ = s.become? R.number? := again_codec R s
      _ = some s := become?_eq_self_iff.mpr numbers

namespace SnapshotFile

theorem exec_parse (mishaps : Mishaps) {format : TextFormat} {text : String} {s : Snapshot}
    (read : Snapshot.ofText? format text = some s) (location : Option String)
    (before : Nat × World) :
    ((parse format text location).run.exec mishaps.serve before).1 = .ok s := by
  have asks : (parse format text location).run =
      .ask (.note (.debug .snapshotFiles s!"Parsing {formatName format} snapshot")) fun _ =>
        .ask (.note (.debug .snapshotFiles s!"Parsed snapshot with {s.entityCount} entities"))
          fun _ => .done (.ok s) := by
    unfold parse
    rw [read]
    rfl
  rw [asks, exec_ask, exec_ask]
  rfl

/-- What is loaded from the text of a file, if it can be read. -/
def loadFrom (path : String) : Option String → Attempt Snapshot
  | none => throw (.config (.parse .unreadableFile (some path)))
  | some text => parse (TextFormat.ofPath path) text (some path)

theorem load_eq (path : String) : (load path).run =
    .ask (.note (.info .snapshotFiles s!"Loading snapshot from: {path}")) fun _ =>
      .ask (.pathExists path) fun there =>
        if there then
          .ask (.readFile path) fun content => (loadFrom path (content.bind String.fromUTF8?)).run
        else .done (.error (.config (.fileNotFound path))) := by
  refine congrArg (Program.ask _) (funext fun _ => ?_)
  refine congrArg (Program.ask _) (funext fun there => ?_)
  cases there with
  | false => rfl
  | true =>
    refine congrArg (Program.ask _) (funext fun content => ?_)
    cases content with
    | none => rfl
    | some content => cases String.fromUTF8? content <;> rfl

theorem exec_load (mishaps : Mishaps) {path text : String} {s : Snapshot} {before : Nat × World}
    (read : Snapshot.ofText? (TextFormat.ofPath path) text = some s)
    (reads : before.2.files.read? before.2.cwd path = some text.toUTF8) :
    ((load path).run.exec mishaps.serve before).1 = .ok s := by
  have there := FileTree.pathExists_of_read? reads
  have given : (before.2.files.read? before.2.cwd path).bind String.fromUTF8? = some text := by
    rw [reads, Option.bind_some, fromUTF8?_toUTF8]
  rw [load_eq, exec_ask, mishaps.serve_of_sure rfl, exec_ask, mishaps.serve_of_sure rfl]
  change (Program.exec mishaps.serve (if before.2.files.pathExists before.2.cwd path then _ else _)
    _).1 = _
  rw [there, if_pos rfl, exec_ask, mishaps.serve_of_sure rfl]
  change (Program.exec mishaps.serve (loadFrom path
    ((before.2.files.read? before.2.cwd path).bind String.fromUTF8?)).run _).1 = _
  rw [given]
  exact exec_parse mishaps read _ _

theorem trace_write_ok {s : Snapshot} {path : String} {xs : List (Exchange Machine)}
    (trace : Trace (write s path).run xs (.ok ())) : ∃ made event, xs = made ++
      [⟨.createFile path, true⟩, ⟨.appendFile path (s.toText (TextFormat.ofPath path)), true⟩,
        ⟨.note event, ()⟩] := by
  have put : ∀ ys, Trace (do
      unless ← Attempt.ask (.createFile path) do throw .io
      unless ← Attempt.ask (.appendFile path (s.toText (TextFormat.ofPath path))) do throw .io
      Attempt.log (.info .snapshotFiles s!"Wrote snapshot to: {path}") : Attempt Unit).run ys
        (.ok ()) →
      ∃ event, ys = [⟨.createFile path, true⟩,
        ⟨.appendFile path (s.toText (TextFormat.ofPath path)), true⟩, ⟨.note event, ()⟩] := by
    intro ys creating
    obtain ⟨created, zs, rfl, appending⟩ := trace_ask_iff.mp creating
    cases created with
    | false => cases (trace_done_iff.mp appending).2
    | true =>
      obtain ⟨appended, us, rfl, noting⟩ := trace_ask_iff.mp appending
      cases appended with
      | false => cases (trace_done_iff.mp noting).2
      | true =>
        obtain ⟨_, vs, rfl, finished⟩ := trace_ask_iff.mp noting
        obtain ⟨rfl, -⟩ := trace_done_iff.mp finished
        exact ⟨_, rfl⟩
  unfold write at trace
  split at trace
  · obtain ⟨made, zs, rfl, writing⟩ := trace_ask_iff.mp trace
    cases made with
    | false => cases (trace_done_iff.mp writing).2
    | true =>
      obtain ⟨event, rfl⟩ := put zs writing
      exact ⟨[_], event, rfl⟩
  · obtain ⟨event, rfl⟩ := put xs trace
    exact ⟨[], event, rfl⟩

theorem holds_of_write {mishaps : Mishaps} {s : Snapshot} {path : String}
    {before after : Nat × World} (sound : before.2.files.Sound)
    (wrote : (write s path).run.exec mishaps.serve before = (.ok (), after)) :
    after.2.Holds path (s.toText (TextFormat.ofPath path)).toUTF8 := by
  have trace := exec_trace mishaps.serve (write s path).run before
  have follows := exec_follows mishaps.serve (write s path).run before
  rw [wrote] at trace follows
  obtain ⟨made, event, steps⟩ := trace_write_ok trace
  rw [steps] at follows
  obtain ⟨ready, preparing, writing⟩ := follows.append_inv
  cases writing with
  | cons create writing =>
    cases writing with
    | cons append writing =>
      obtain ⟨files, created, first⟩ := World.change_done (Mishaps.served create nofun)
      obtain ⟨files', appended, second⟩ := World.change_done (Mishaps.served append nofun)
      rw [first] at appended
      refine (LocalPlane.sameFiles_of_logs ?_ writing).holds ?_
      · exact List.forall_mem_singleton.mpr ⟨event, rfl⟩
      · rw [second, first]
        have soundMade := (Mishaps.sound_follows sound preparing).createFile? created
        exact ⟨soundMade.append? appended, FileTree.content?_written created appended,
          FileTree.read?_written created appended⟩

end SnapshotFile

open SnapshotFile (parse load)

namespace Snapshot

/--
A snapshot all of whose numbers are finite, in a format that keeps what it is relied on for. Its
text is parsed as the snapshot, so snapshots that differ anywhere have different texts. A file of it
that was written without an error, on a machine where file steps may fail, is loaded as what it was.
-/
theorem rendering_is_inverted (s : Snapshot) (finite : ∀ d ∈ s.numbers, d.isFinite = true)
    (mishaps : Mishaps) :
    (∀ format : TextFormat, format.Keeps s → ∀ location before,
      ((parse format (s.toText format) location).run.exec mishaps.serve before).1 = .ok s) ∧
    (∀ (format : TextFormat) (t : Snapshot), (∀ d ∈ t.numbers, d.isFinite = true) →
      format.Keeps s → format.Keeps t → t ≠ s → t.toText format ≠ s.toText format) ∧
    ∀ path : String, (TextFormat.ofPath path).Keeps s → ∀ before : Nat × World,
      before.2.files.Sound →
        let writing := (SnapshotFile.write s path).run.exec mishaps.serve before
        writing.1 = .ok () → ((load path).run.exec mishaps.serve writing.2).1 = .ok s := by
  refine ⟨fun format keeps location before => ?_, fun format t finite' keeps keeps' other => ?_,
    fun path keeps before sound => ?_⟩
  · exact SnapshotFile.exec_parse mishaps (ofText?_of_keeps finite keeps) location before
  · intro same
    have read := ofText?_of_keeps finite' keeps'
    rw [same, ofText?_of_keeps finite keeps] at read
    exact other (Option.some.inj read).symm
  · intro writing wrote
    have holds := SnapshotFile.holds_of_write sound (eq_pair wrote)
    exact SnapshotFile.exec_load mishaps (ofText?_of_keeps finite keeps) holds.reads

/-- Prologs that are empty, look like null, have several lines, or are unset stay what they are. -/
theorem rendering_is_inverted_of_prologs :
    let s : Snapshot :=
      { hostConfigurations := [{ name := "a", prolog := some "" },
          { name := "b", prolog := some "null" }, { name := "c", prolog := some "\t'1'\n" },
          { name := "d" }]
        execHosts := [{ name := "n", loadScaling := .ofList [("x", ⟨0x3fb999999999999a⟩)] }] }
    let machine := Mishaps.serve fun _ => none
    let writing := (SnapshotFile.write s "site/cluster.yaml").run.exec machine (0, .bare)
    ((∀ d ∈ s.numbers, d.isFinite = true) ∧ TextFormat.json.Keeps s ∧ TextFormat.yaml.Keeps s) ∧
      ((parse .json (s.toText .json) none).run.exec machine (0, .bare)).1 = .ok s ∧
      (World.bare.files.Sound ∧ TextFormat.ofPath "site/cluster.yaml" = .yaml ∧
        writing.1 = .ok ()) ∧
      ((load "site/cluster.yaml").run.exec machine writing.2).1 = .ok s := by
  intro s machine writing
  have finite : ∀ d ∈ s.numbers, d.isFinite = true := by decide +kernel
  have json : TextFormat.json.Keeps s := by decide +kernel
  have yaml : TextFormat.yaml.Keeps s := by
    change (Yaml.read? (Yaml.Node.ofDocument s.toDocument).write).map _ = _
    -- The characters are scanned as they are, not encoded and decoded.
    rw [Yaml.read?, Yaml.Token.scan?]
    unfold Yaml.Node.write
    rw [String.toList_ofList]
    decide +kernel
  have format : TextFormat.ofPath "site/cluster.yaml" = .yaml := by decide +kernel
  have ended : writing.1.toOption = some () := by decide +kernel
  have wrote : writing.1 = .ok () := by
    cases told : writing.1 with
    | ok => rfl
    | error e =>
      rw [told] at ended
      cases ended
  obtain ⟨parses, -, loads⟩ := rendering_is_inverted s finite fun _ => none
  have loaded := loads "site/cluster.yaml" (format ▸ yaml) (0, .bare) World.sound_bare wrote
  exact ⟨⟨finite, json, yaml⟩, parses .json json none _, ⟨World.sound_bare, format, wrote⟩, loaded⟩

end Snapshot

end ClusterConf
