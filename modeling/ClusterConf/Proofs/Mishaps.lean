import ClusterConf.Machine.World
import ClusterConf.Proofs.FilePlaces
import ClusterConf.Proofs.LocalRuns
set_option autoImplicit false

/-!
A machine whose file steps may fail, and may have got half way then. Main statements: steps that
prepare a file beside another one never change the other, whether they fail or not, and only moving
the file over it does.
-/
namespace ClusterConf

open Program
open FileTree (placeOf Keeps)

/-- How far a file step gets that fails. -/
structure Mishap where
  /-- How many parts of a path have their directories. -/
  made : Nat
  /-- What is left in the file that was to be made or written, if it was touched. -/
  left : Option ByteArray

namespace FileTree

/-- Directories for the first parts of a path. -/
def beginDirectories (t : FileTree) (cwd : Place) (path : String) (made : Nat) : FileTree :=
  if path.isEmpty || !isPath path then t
  else (t.makeWay (start cwd path) ((Path.parts path).take made)).2

/-- Something is left in the file at a path, unless a directory is there. -/
def leave (t : FileTree) (cwd : Place) (path : String) (content : ByteArray) : FileTree :=
  match t.resolveNew? cwd path with
  | some place => if t.isDirectory place then t else t.put place (.file content)
  | none => t

theorem keeps_beginDirectories {t : FileTree} (sound : t.Sound) (cwd : Place) (path : String)
    (made : Nat) (q : Place) : Keeps q t (t.beginDirectories cwd path made) := by
  rw [beginDirectories]
  split
  · exact .refl sound q
  · exact keeps_makeWay sound _ _ q

section Beside

variable {t t' : FileTree} {cwd : Place} {path other : String} (sound : t.Sound)
  (apart : Apart path other)

include sound apart

theorem keeps_put_beside {q : Place} (resolved : t.resolveNew? cwd other = some q)
    (file : t.isDirectory q = false) (content : ByteArray) :
    Keeps (placeOf cwd path) t (t.put q (.file content)) :=
  .put sound (apart sound resolved file) (sound.parent_of_resolveNew? resolved) file content

theorem keeps_createFile? (made : t.createFile? cwd other = some t') :
    Keeps (placeOf cwd path) t t' := by
  obtain ⟨q, resolved, file, rfl⟩ := createFile?_cases made
  exact keeps_put_beside sound apart resolved file _

theorem keeps_append? {content : ByteArray}
    (appended : t.append? cwd other content = some t') :
    Keeps (placeOf cwd path) t t' := by
  obtain ⟨q, before, resolved, there, rfl⟩ := append?_cases appended
  exact keeps_put_beside sound apart (resolveNew?_of_resolve? resolved)
    (not_directory_of_content there) _

theorem keeps_leave (content : ByteArray) :
    Keeps (placeOf cwd path) t (t.leave cwd other content) := by
  rw [leave]
  split
  · rename_i q resolved
    split
    · exact .refl sound _
    · rename_i file
      exact keeps_put_beside sound apart resolved (Bool.eq_false_iff.mpr file) _
  · exact .refl sound _

end Beside

end FileTree

/-- What a file step is answered that fails. -/
def MachineCall.refused? : (c : MachineCall) → Option c.Answer
  | .createDirectories _ => some false
  | .createFile _ => some false
  | .appendFile _ _ => some false
  | .syncFile _ => some false
  | .rename _ _ => some false
  | .removeFile _ => some false
  | _ => none

/-- The files after a step that failed. A file is moved or removed as a whole, or not at all. -/
def Mishap.files (m : Mishap) (w : World) : MachineCall → FileTree
  | .createDirectories path => w.files.beginDirectories w.cwd path m.made
  | .createFile path | .appendFile path _ | .syncFile path =>
    match m.left with
    | some content => w.files.leave w.cwd path content
    | none => w.files
  | _ => w.files

/-- Which calls of a run fail, by their number, and how far they get. -/
abbrev Mishaps := Nat → Option Mishap

/-- The machine where chosen file steps fail. -/
def Mishaps.serve (mishaps : Mishaps) : Server Machine (Nat × World) := fun c (n, w) =>
  match mishaps n, c.refused? with
  | some m, some refusal => (refusal, n + 1, { w with files := m.files w c })
  | _, _ => ((World.serve c w).1, n + 1, (World.serve c w).2)

/-- A call has its effect, or it is a file step that fails. -/
theorem Mishaps.step_cases {mishaps : Mishaps} {before after : Nat × World} {c : MachineCall}
    {answer : c.Answer} (step : Server.Step mishaps.serve before ⟨c, answer⟩ after) :
    World.serve c before.2 = (answer, after.2) ∨
      ∃ m : Mishap, c.refused? = some answer ∧
        after.2 = { before.2 with files := m.files before.2 c } := by
  obtain ⟨n, w⟩ := before
  have served : mishaps.serve c (n, w) = (answer, after) := step
  rw [Mishaps.serve] at served
  split at served
  · rename_i m refusal _ refused
    obtain ⟨rfl, rfl⟩ := Prod.mk.inj served
    exact .inr ⟨m, refused, rfl⟩
  · obtain ⟨rfl, rfl⟩ := Prod.mk.inj served
    exact .inl rfl

def World.bare : World where
  files := .empty
  cwd := []
  env := []
  clock := ⟨0, 0⟩
  hostName := ""
  processId := 0
  idOf _ := ""
  issued := 0
  input := .empty
  output := []

theorem World.sound_bare : World.bare.files.Sound := by
  intro place there
  cases place with
  | nil => rfl
  | cons name place => cases there

def World.contentOf (w : World) (path : String) : Option ByteArray :=
  w.files.content? (placeOf w.cwd path)

/-- From one moment to another, the file that a path names is the same. -/
structure World.Keeps (path : String) (w w' : World) : Prop where
  cwd : w'.cwd = w.cwd
  files : FileTree.Keeps (placeOf w.cwd path) w.files w'.files

namespace World.Keeps

variable {path : String} {w w' w'' : World}

theorem refl (sound : w.files.Sound) (path : String) : World.Keeps path w w := ⟨rfl, .refl sound _⟩

theorem trans (first : World.Keeps path w w') (second : World.Keeps path w' w'') :
    World.Keeps path w w'' where
  cwd := second.cwd.trans first.cwd
  files := first.files.trans (first.cwd ▸ second.files)

theorem contentOf (keeps : World.Keeps path w w') : w'.contentOf path = w.contentOf path := by
  rw [World.contentOf, keeps.cwd, keeps.files.content]
  rfl

theorem read? (keeps : World.Keeps path w w') {content : ByteArray}
    (read : w.files.read? w.cwd path = some content) :
    w'.files.read? w'.cwd path = some content := by
  rw [keeps.cwd]
  exact keeps.files.read? read

end World.Keeps

/-- An exchange that prepares the file beside a path, or fails to move it there. -/
def Exchange.Prepares (path : String) : Exchange Machine → Prop
  | ⟨.createDirectories _, _⟩ | ⟨.note _, _⟩ => True
  | ⟨.createFile p, _⟩ | ⟨.appendFile p _, _⟩ | ⟨.syncFile p, _⟩ =>
    p = Path.withExtension path "tmp"
  | ⟨.rename _ _, moved⟩ => moved = false
  | _ => False

theorem World.change_cases {w w' : World} {files? : Option FileTree} {done : Bool}
    (changed : w.change files? = (done, w')) :
    done = false ∧ w' = w ∨ ∃ files, done = true ∧ files? = some files ∧ w' = { w with files } := by
  cases files? with
  | none =>
    obtain ⟨rfl, rfl⟩ := Prod.mk.inj changed
    exact .inl ⟨rfl, rfl⟩
  | some files =>
    obtain ⟨rfl, rfl⟩ := Prod.mk.inj changed
    exact .inr ⟨files, rfl, rfl, rfl⟩

theorem World.keeps_change {path : String} {w w' : World} (sound : w.files.Sound)
    {files? : Option FileTree} {done : Bool} (changed : w.change files? = (done, w'))
    (keeps : ∀ files, files? = some files →
      FileTree.Keeps (placeOf w.cwd path) w.files files) : World.Keeps path w w' := by
  rcases World.change_cases changed with ⟨-, rfl⟩ | ⟨files, -, made, rfl⟩
  · exact .refl sound path
  · exact ⟨rfl, keeps files made⟩

section Steps

variable {mishaps : Mishaps} {path : String} {before after : Nat × World}

/-- A file that could not be moved is where it was. -/
theorem eq_of_unmoved {source target : String}
    (step : Server.Step mishaps.serve before ⟨.rename source target, false⟩ after) :
    after.2 = before.2 := by
  rcases Mishaps.step_cases step with served | ⟨m, -, failed⟩
  · rcases World.change_cases served with ⟨-, same⟩ | ⟨files, impossible, -⟩
    · exact same
    · cases impossible
  · exact failed

/-- What prepares the file beside a path leaves the file alone that the path names. -/
theorem Exchange.Prepares.step (sound : before.2.files.Sound)
    (other : Path.extension? path ≠ some "tmp") {x : Exchange Machine} (prepares : x.Prepares path)
    (step : Server.Step mishaps.serve before x after) : World.Keeps path before.2 after.2 := by
  have apart : FileTree.Apart path (Path.withExtension path "tmp") :=
    (FileTree.Apart.beside (by decide) (by decide) other).1
  have left : ∀ m : Mishap, FileTree.Keeps (placeOf before.2.cwd path) before.2.files
      (match m.left with
        | some content =>
          before.2.files.leave before.2.cwd (Path.withExtension path "tmp") content
        | none => before.2.files) := by
    intro m
    cases m.left with
    | some content => exact FileTree.keeps_leave sound apart content
    | none => exact .refl sound _
  obtain ⟨c, answer⟩ := x
  rcases Mishaps.step_cases step with served | ⟨m, -, failed⟩
  · cases c with
    | createDirectories p =>
      have made : after.2 = { before.2 with
          files := (before.2.files.createDirectories before.2.cwd p).2 } :=
        (congrArg Prod.snd served).symm
      rw [made]
      exact ⟨rfl, FileTree.keeps_createDirectories sound _ _ _⟩
    | createFile p =>
      obtain rfl : p = Path.withExtension path "tmp" := prepares
      exact World.keeps_change sound served fun _ =>
        FileTree.keeps_createFile? sound apart
    | appendFile p text =>
      obtain rfl : p = Path.withExtension path "tmp" := prepares
      exact World.keeps_change sound served fun _ =>
        FileTree.keeps_append? sound apart
    | syncFile p =>
      have same : after.2 = before.2 := (congrArg Prod.snd served).symm
      rw [same]
      exact .refl sound path
    | note event =>
      have logged : after.2 = { before.2 with output := .event event :: before.2.output } :=
        (congrArg Prod.snd served).symm
      rw [logged]
      exact ⟨rfl, .refl sound _⟩
    | rename source target =>
      obtain rfl : answer = false := prepares
      rw [eq_of_unmoved step]
      exact .refl sound path
    | _ => cases prepares
  · rw [failed]
    cases c with
    | createDirectories p => exact ⟨rfl, FileTree.keeps_beginDirectories sound _ _ _ _⟩
    | createFile p | appendFile p text | syncFile p =>
      obtain rfl : p = Path.withExtension path "tmp" := prepares
      exact ⟨rfl, left m⟩
    | rename source target => exact .refl sound path
    | note event => exact .refl sound path
    | _ => cases prepares

end Steps

namespace FileTree

theorem Sound.put_file {t : FileTree} (sound : t.Sound) {cwd q : Place} {path : String}
    (resolved : t.resolveNew? cwd path = some q) (file : t.isDirectory q = false)
    (content : ByteArray) : (t.put q (.file content)).Sound := by
  refine sound.put (not_root_of_not_directory file) (sound.parent_of_resolveNew? resolved) ?_
  rw [file]
  exact nofun

theorem Sound.createFile? {t t' : FileTree} (sound : t.Sound) {cwd : Place} {path : String}
    (made : t.createFile? cwd path = some t') : t'.Sound := by
  obtain ⟨q, resolved, file, rfl⟩ := createFile?_cases made
  exact sound.put_file resolved file _

theorem Sound.append? {t t' : FileTree} (sound : t.Sound) {cwd : Place} {path : String}
    {content : ByteArray} (appended : t.append? cwd path content = some t') : t'.Sound := by
  obtain ⟨q, before, resolved, there, rfl⟩ := append?_cases appended
  exact sound.put_file (resolveNew?_of_resolve? resolved) (not_directory_of_content there) _

theorem Sound.remove? {t t' : FileTree} (sound : t.Sound) {cwd : Place} {path : String}
    (removed : t.remove? cwd path = some t') : t'.Sound := by
  obtain ⟨q, content, -, there, rfl⟩ := remove?_cases removed
  exact sound.erase (not_directory_of_content there)

theorem Sound.leave {t : FileTree} (sound : t.Sound) (cwd : Place) (path : String)
    (content : ByteArray) : (t.leave cwd path content).Sound := by
  rw [FileTree.leave]
  split
  · rename_i q resolved
    split
    · exact sound
    · rename_i file
      exact sound.put_file resolved (Bool.eq_false_iff.mpr file) content
  · exact sound

end FileTree

theorem World.sound_change {w w' : World} (sound : w.files.Sound) {files? : Option FileTree}
    {done : Bool} (changed : w.change files? = (done, w'))
    (keeps : ∀ files, files? = some files → files.Sound) : w'.files.Sound := by
  rcases World.change_cases changed with ⟨-, rfl⟩ | ⟨files, -, made, rfl⟩
  · exact sound
  · exact keeps files made

theorem World.sound_serve {c : MachineCall} {w w' : World} {answer : c.Answer}
    (sound : w.files.Sound) (served : World.serve c w = (answer, w')) : w'.files.Sound := by
  have same : (World.serve c w).2 = w' := congrArg Prod.snd served
  cases c with
  | createDirectories path =>
    rw [← same]
    exact (FileTree.keeps_createDirectories sound w.cwd path []).sound
  | createFile path => exact World.sound_change sound served fun _ => sound.createFile?
  | appendFile path text => exact World.sound_change sound served fun _ => sound.append?
  | rename source target =>
    exact World.sound_change sound served fun files moved =>
      (FileTree.rename?_reads sound moved).1
  | removeFile path => exact World.sound_change sound served fun _ => sound.remove?
  | _ =>
    rw [← same]
    exact sound

namespace Mishaps

variable {mishaps : Mishaps} {before after : Nat × World}

theorem sound_step {x : Exchange Machine} (sound : before.2.files.Sound)
    (step : Server.Step mishaps.serve before x after) : after.2.files.Sound := by
  obtain ⟨c, answer⟩ := x
  rcases Mishaps.step_cases step with served | ⟨m, -, failed⟩
  · exact World.sound_serve sound served
  · have left : ∀ path, FileTree.Sound (match m.left with
        | some content => before.2.files.leave before.2.cwd path content
        | none => before.2.files) := by
      intro path
      cases m.left with
      | some content => exact sound.leave _ path content
      | none => exact sound
    rw [failed]
    cases c with
    | createDirectories path => exact (FileTree.keeps_beginDirectories sound _ path m.made []).sound
    | createFile path | appendFile path text | syncFile path => exact left path
    | _ => exact sound

theorem sound_follows {xs : List (Exchange Machine)} (sound : before.2.files.Sound)
    (follows : Follows (Server.Step mishaps.serve) before xs after) : after.2.files.Sound := by
  induction follows with
  | nil => exact sound
  | cons first _ ih => exact ih (sound_step sound first)

end Mishaps

end ClusterConf
