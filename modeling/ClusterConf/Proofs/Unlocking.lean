import ClusterConf.Proofs.LockedCommands
import ClusterConf.Proofs.Reopening
set_option autoImplicit false

/-!
The command that releases the lock of a state file, whatever stands in the lock file. Main
statement: it takes the lock file away exactly if it finds the lock that it was asked for, and
otherwise leaves all files alone; what it says of this is true unless it was given the name of a
lock that is not there.
-/
namespace ClusterConf

open Program
open FileTree (Apart)

/-! ## What a session leaves -/

namespace World

/-- What was printed, last first. -/
def printed (w : World) : List String :=
  w.output.filterMap fun
    | .text s => some s
    | .event _ => none

/-- The file that a path leads to is as it was, or there is none as before. -/
structure SameFile (path : String) (w w' : World) : Prop where
  there : w'.files.pathExists w'.cwd path = w.files.pathExists w.cwd path
  content : w'.files.read? w'.cwd path = w.files.read? w.cwd path

theorem SameFiles.sameFile {w w' : World} (same : w.SameFiles w') (path : String) :
    SameFile path w w' := by
  constructor <;> rw [same.files, same.cwd]

/-- What a session has done to a machine: the file at a path is taken away or no file is, and some
texts are printed, last first. -/
structure Left (path : String) (gone : Bool) (texts : List String) (w v : World) : Prop where
  cwd : v.cwd = w.cwd
  files : (if gone then w.files.remove? w.cwd path else some w.files) = some v.files
  printed : v.printed = texts ++ w.printed

namespace Left

variable {path : String} {gone : Bool} {texts more : List String} {w u v : World}

theorem sameFiles (left : Left path false texts w v) : w.SameFiles v :=
  ⟨left.cwd, (Option.some.inj left.files).symm⟩

theorem refl (path : String) (w : World) : Left path false [] w w := ⟨rfl, rfl, rfl⟩

theorem after_quiet (first : Left path false texts w u) (second : Left path gone more u v) :
    Left path gone (more ++ texts) w v where
  cwd := second.cwd.trans first.cwd
  files := by
    rw [← first.sameFiles.files, ← first.cwd]
    exact second.files
  printed := by rw [second.printed, first.printed, List.append_assoc]

theorem quiet_after (first : Left path gone texts w u) (second : Left path false more u v) :
    Left path gone (more ++ texts) w v where
  cwd := second.cwd.trans first.cwd
  files := by
    rw [second.sameFiles.files]
    exact first.files
  printed := by rw [second.printed, first.printed, List.append_assoc]

theorem note (path : String) (event : Event) (w : World) :
    Left path false [] w (serve (.note event) w).2 := ⟨rfl, rfl, rfl⟩

theorem print (path text : String) (w : World) :
    Left path false [text] w (serve (.print text) w).2 := ⟨rfl, rfl, rfl⟩

end Left

end World

open World (Left)

/-- What a session comes to: it fails and has only looked, or it succeeds, with the file at a path
taken away or not, and has said something. -/
def Comes (path : String) (w : World) (p : Session (Except Error Unit)) :
    Except Error (Bool × List String) → Prop
  | .error e => ∃ v, p.exec World.serve w = (.error e, v) ∧ Left path false [] w v
  | .ok (gone, texts) => ∃ v, p.exec World.serve w = (.ok (), v) ∧ Left path gone texts w v

namespace Comes

variable {path : String} {w : World}

theorem say (path text : String) (w : World) :
    Comes path w (Run.say text).run (.ok (false, [text ++ "\n"])) :=
  ⟨_, rfl, .print path _ w⟩

theorem then_say {p : Attempt Unit} {r : Except Error (Bool × List String)}
    (comes : Comes path w p.run r) (text : String) :
    Comes path w (p >>= fun _ => Run.say text).run
      (r.map fun (gone, texts) => (gone, (text ++ "\n") :: texts)) := by
  cases r with
  | error e =>
    obtain ⟨v, ran, left⟩ := comes
    exact ⟨v, by rw [exec_attempt_bind, ran], left⟩
  | ok done =>
    obtain ⟨v, ran, left⟩ := comes
    refine ⟨_, ?_, left.quiet_after (.print path (text ++ "\n") v)⟩
    rw [exec_attempt_bind, ran]
    rfl

/-- A session that goes on as another one, when it has only looked. -/
theorem after_quiet {v : World} {p q : Session (Except Error Unit)}
    {r : Except Error (Bool × List String)} (comes : Comes path v q r)
    (goes : p.exec World.serve w = q.exec World.serve v) (left : Left path false [] w v) :
    Comes path w p r := by
  cases r with
  | error e =>
    obtain ⟨u, ran, rest⟩ := comes
    exact ⟨u, goes.trans ran, left.after_quiet rest⟩
  | ok done =>
    obtain ⟨u, ran, rest⟩ := comes
    have whole := left.after_quiet rest
    rw [List.append_nil] at whole
    exact ⟨u, goes.trans ran, whole⟩

end Comes

namespace Lock

section Reading

variable {path : String} {w : World} {r : Except Error (Bool × List String)}
  {absent : Session (Except Error Unit)} {found : LockInfo → Session (Except Error Unit)}

theorem onward_eq : onward path absent found w = (found? w path).elim absent (decided found) := by
  rw [onward, found?]
  cases w.files.pathExists w.cwd path with
  | false => rfl
  | true =>
    simp only [if_true, Option.elim_some]
    cases verdict (w.files.read? w.cwd path) <;> rfl

theorem comes_afterReading
    (onward : Comes path w ((found? w path).elim absent (decided found)) r) :
    Comes path w (afterReading path absent found) r := by
  rw [← onward_eq] at onward
  cases r <;> simpa only [Comes, exec_afterReading] using onward

end Reading

theorem read?_of_found {path : String} {w : World} {info : LockInfo}
    (found : found? w path = some (.ok info)) :
    ∃ content, w.files.read? w.cwd path = some content := by
  obtain ⟨-, judged⟩ := found?_eq_some.mp found
  cases read : w.files.read? w.cwd path with
  | none =>
    rw [read] at judged
    cases judged
  | some content => exact ⟨content, rfl⟩

/-- What releasing a lock comes to, by what is made of its file. -/
def releasing (lockId : String) :
    Option (Except Error LockInfo) → Except Error (Bool × List String)
  | none => .ok (false, [])
  | some (.error e) => .error e
  | some (.ok info) => .ok (decide (info.lockId = lockId), [])

theorem comes_remove {path : String} {w : World} {info : LockInfo}
    (found : found? w path = some (.ok info)) (lockId : String) :
    Comes path w (remove path lockId) (.ok (true, [])) := by
  obtain ⟨content, read⟩ := read?_of_found found
  obtain ⟨files, removed⟩ := FileTree.exists_remove?_of_read? read
  have served : World.serve (.removeFile path) w = (true, { w with files }) := by
    change w.change (w.files.remove? w.cwd path) = _
    rw [removed]
    rfl
  have left : Left path true [] w { w with files } := ⟨rfl, removed, rfl⟩
  refine ⟨_, ?_, left.quiet_after (.note path (.info .lock s!"Released state lock: {lockId}") _)⟩
  rw [remove, exec_ask, served]
  rfl

/-- Releasing a lock takes its file away if it holds that lock, and nothing else. -/
theorem comes_release (path lockId : String) (w : World) :
    Comes path w (release path lockId).run (releasing lockId (found? w path)) := by
  rw [release_eq]
  refine comes_afterReading ?_
  cases found : found? w path with
  | none => exact ⟨w, rfl, .refl path w⟩
  | some r =>
    cases r with
    | error e => exact ⟨w, rfl, .refl path w⟩
    | ok info =>
      rw [Option.elim_some, decided, releasing]
      split
      · rename_i own
        rw [decide_eq_true own]
        exact comes_remove found lockId
      · rename_i other
        rw [decide_eq_false other]
        exact ⟨_, rfl, .note path _ w⟩

end Lock

namespace LocalPlane

theorem exec_openAt_left (path other : String) (w : World) : ∃ v,
    (openAt path).run.exec World.serve w = (loads path w, v) ∧ Left other false [] w v := by
  rw [openAt_eq, exec_ask, loads]
  cases there : w.files.pathExists w.cwd path with
  | false =>
    simp only [World.serve, there]
    exact ⟨_, rfl, .note other _ w⟩
  | true =>
    simp only [World.serve, there]
    exact ⟨_, rfl, .note other _ w⟩

theorem path_of_loads {path : String} {w : World} {plane : LocalPlane}
    (loaded : loads path w = .ok plane) : plane.path = some path := by
  obtain ⟨v, opened, -⟩ := exec_openAt_left path path w
  have trace := exec_trace World.serve (openAt path).run w
  rw [opened, loaded] at trace
  exact openAt_path trace

end LocalPlane

namespace Run.Context

open Lock
open LocalPlane (loads)

/-! ## What a command to unlock comes to -/

def lockPath (ctx : Context) : String := Path.withExtension ctx.statePath "lock"

/-- What a command to unlock comes to, by what is made of the lock file. -/
def unlocking (lockId : Option String) (force : Bool) (found : Option (Except Error LockInfo)) :
    Except Error (Bool × List String) :=
  if force then
    match found with
    | none => .ok (false, ["State is not locked.\n"])
    | some (.error e) => .error e
    | some (.ok info) =>
      .ok (true, [s!"State forcefully unlocked (was held by {info.holder})." ++ "\n"])
  else
    match lockId with
    | some id => (releasing id found).map fun (gone, texts) => (gone, "State unlocked.\n" :: texts)
    | none => .ok (false, ["Please provide --lock-id or use --force\n"])

/-- What is left of a command to unlock when the state file is opened. -/
def unlockAt (path : String) (lockId : Option String) (force : Bool) : Attempt Unit :=
  if force then do
    match ← Lock.read path with
    | some info =>
      Lock.release path info.lockId
      say s!"State forcefully unlocked (was held by {info.holder})."
    | none => say "State is not locked."
  else
    match lockId with
    | some id => do
      Lock.release path id
      say "State unlocked."
    | none => say "Please provide --lock-id or use --force"

theorem unlock_eq (ctx : Context) (lockId : Option String) (force : Bool) :
    ctx.unlock lockId force = ctx.openPlane >>= fun plane =>
      match plane.lockPath? with
      | none => say "No lock file for this state."
      | some path => unlockAt path lockId force := rfl

theorem comes_unlockAt (path : String) (lockId : Option String) (force : Bool) (w : World) :
    Comes path w (unlockAt path lockId force).run (unlocking lockId force (found? w path)) := by
  cases force with
  | false =>
    cases lockId with
    | none => exact .say path _ w
    | some id => exact (comes_release path id w).then_say "State unlocked."
  | true =>
    -- The file is read twice: for the holder, and then by the release.
    have split : (unlockAt path lockId true).run =
        afterReading path (say "State is not locked.").run fun info =>
          (Lock.release path info.lockId >>= fun _ =>
            say s!"State forcefully unlocked (was held by {info.holder}).").run :=
      read_bind path _
    rw [split]
    refine comes_afterReading ?_
    cases found : found? w path with
    | none => exact .say path _ w
    | some r =>
      cases r with
      | error e => exact ⟨w, rfl, .refl path w⟩
      | ok info =>
        have releases := comes_release path info.lockId w
        rw [found, releasing, decide_eq_true rfl] at releases
        exact releases.then_say _

/-- Opening the live cluster finds what the state file holds, and only logs. -/
theorem exec_openPlane (ctx : Context) (path : String) (w : World) : ∃ v,
    ctx.openPlane.run.exec World.serve w = (loads ctx.statePath w, v) ∧ Left path false [] w v := by
  obtain ⟨v, ran, left⟩ := LocalPlane.exec_openAt_left ctx.statePath path w
  rw [openPlane, exec_attempt_bind, ran]
  cases loads ctx.statePath w with
  | error e => exact ⟨v, rfl, left⟩
  | ok plane =>
    dsimp only
    split
    · exact ⟨_, rfl, left.after_quiet (.note path _ v)⟩
    · exact ⟨v, rfl, left⟩

/-- A command to unlock opens the state file, and then goes by what is in the lock file. -/
theorem comes_unlock (ctx : Context) (lockId : Option String) (force : Bool) (w : World) :
    Comes ctx.lockPath w (ctx.unlock lockId force).run
      ((loads ctx.statePath w).bind fun _ => unlocking lockId force (found? w ctx.lockPath)) := by
  obtain ⟨v, opened, left⟩ := exec_openPlane ctx ctx.lockPath w
  cases loaded : loads ctx.statePath w with
  | error e =>
    rw [loaded] at opened
    exact ⟨v, by rw [unlock_eq, exec_attempt_bind, opened], left⟩
  | ok plane =>
    rw [loaded] at opened
    have goes : (ctx.unlock lockId force).run.exec World.serve w =
        (unlockAt ctx.lockPath lockId force).run.exec World.serve v := by
      rw [unlock_eq, exec_attempt_bind, opened]
      simp only [LocalPlane.lockPath?, LocalPlane.path_of_loads loaded, Option.map_some, lockPath]
    have same : found? v ctx.lockPath = found? w ctx.lockPath := by
      rw [found?, found?, left.sameFiles.files, left.sameFiles.cwd]
    have comes := comes_unlockAt ctx.lockPath lockId force v
    rw [same] at comes
    exact comes.after_quiet goes left

/-! ## What is said and what is done -/

/-- A text that says that the lock was released. -/
def TellsUnlocked (text : String) : Prop :=
  text = "State unlocked.\n" ∨
    ∃ holder : String, text = s!"State forcefully unlocked (was held by {holder}).\n"

theorem not_tellsUnlocked {text : String} (other : text ≠ "State unlocked.\n")
    (unforced : ¬ "State forcefully".toList <+: text.toList) : ¬ TellsUnlocked text := by
  rintro (rfl | ⟨holder, rfl⟩)
  · exact other rfl
  · refine unforced ⟨s!" unlocked (was held by {holder}).\n".toList, ?_⟩
    simp only [toString, String.toList_append, ← List.append_assoc]
    rfl

theorem tellsUnlocked_forced (holder : String) :
    TellsUnlocked (s!"State forcefully unlocked (was held by {holder})." ++ "\n") := by
  refine .inr ⟨holder, ?_⟩
  rw [← String.toList_inj]
  simp only [toString, String.toList_append, List.append_assoc]
  rfl

section Commands

variable (ctx : Context) (lockId : Option String) (force : Bool) (w : World)

def afterUnlock : World := ((ctx.unlock lockId force).run.exec World.serve w).2

/-- A command to unlock succeeds and says that the lock was released. -/
structure Reports : Prop where
  succeeds : ((ctx.unlock lockId force).run.exec World.serve w).1 = .ok ()
  tells : ∃ texts, (ctx.afterUnlock lockId force w).printed = texts ++ w.printed ∧
    ∃ text ∈ texts, TellsUnlocked text

/-- The state file is opened and the lock file holds the lock that is asked for: by force any lock,
else the one that is named. -/
structure Frees : Prop where
  opens : ∃ plane, loads ctx.statePath w = .ok plane
  finds : ∃ info, found? w ctx.lockPath = some (.ok info) ∧
    (force = true ∨ lockId = some info.lockId)

/-- The state file is opened and a lock is named, without force, that is not there: there is no lock
file, or it holds another lock. -/
structure Misses : Prop where
  opens : ∃ plane, loads ctx.statePath w = .ok plane
  unforced : force = false
  names : ∃ id, lockId = some id ∧ (found? w ctx.lockPath = none ∨
    ∃ info, found? w ctx.lockPath = some (.ok info) ∧ info.lockId ≠ id)

/-- How a command to unlock may end. -/
inductive Ending : Except Error (Bool × List String) → Prop
  | failed (e : Error) (kept : ¬ ctx.Frees lockId force w) (found : ¬ ctx.Misses lockId force w) :
      Ending (.error e)
  | released {text : String} (tells : TellsUnlocked text) (frees : ctx.Frees lockId force w) :
      Ending (.ok (true, [text]))
  | pretended {text : String} (tells : TellsUnlocked text) (misses : ctx.Misses lockId force w) :
      Ending (.ok (false, [text]))
  | idle {text : String} (silent : ¬ TellsUnlocked text) (kept : ¬ ctx.Frees lockId force w)
      (found : ¬ ctx.Misses lockId force w) : Ending (.ok (false, [text]))

/-- A command to unlock is right in what it says: if that is a release, there was a lock file and
there is none any more, and else the lock file is as it was. The state file is never changed. -/
structure Truthful : Prop where
  released : ctx.Reports lockId force w → (w.files.read? w.cwd ctx.lockPath).isSome ∧
    (ctx.afterUnlock lockId force w).files.pathExists (ctx.afterUnlock lockId force w).cwd
      ctx.lockPath = false
  kept : ¬ ctx.Reports lockId force w →
    World.SameFile ctx.lockPath w (ctx.afterUnlock lockId force w)
  state : World.SameFile ctx.statePath w (ctx.afterUnlock lockId force w)

/-- The state file is its own lock file. -/
def SharesFile : Prop :=
  w.files.resolve? w.cwd ctx.statePath = w.files.resolve? w.cwd ctx.lockPath

end Commands

variable {ctx : Context} {lockId : Option String} {force : Bool} {w : World}

/-! ## How a command ends -/

theorem Misses.not_frees (misses : ctx.Misses lockId force w) : ¬ ctx.Frees lockId force w := by
  rintro ⟨-, info, found, asked⟩
  obtain ⟨-, unforced, id, named, none | ⟨other, there, different⟩⟩ := misses
  · rw [none] at found
    cases found
  · obtain rfl : other = info := Except.ok.inj (Option.some.inj (there.symm.trans found))
    rcases asked with forced | own
    · rw [unforced] at forced
      cases forced
    · exact different (Option.some.inj (own.symm.trans named))

theorem ending_unopened {e : Error} (spoiled : loads ctx.statePath w = .error e) :
    ctx.Ending lockId force w (.error e) := by
  have unopened : ¬ ∃ plane, loads ctx.statePath w = .ok plane := by
    rintro ⟨plane, loaded⟩
    rw [spoiled] at loaded
    cases loaded
  exact .failed e (fun frees => unopened frees.opens) fun misses => unopened misses.opens

theorem ending_spoiled {e : Error} (spoiled : found? w ctx.lockPath = some (.error e)) :
    ctx.Ending lockId force w (.error e) := by
  refine .failed e ?_ ?_
  · rintro ⟨-, info, found, -⟩
    rw [spoiled] at found
    cases found
  · rintro ⟨-, -, id, -, none | ⟨info, found, -⟩⟩
    · rw [spoiled] at none
      cases none
    · rw [spoiled] at found
      cases found

theorem ending_unasked :
    ctx.Ending none false w (unlocking none false (found? w ctx.lockPath)) := by
  refine .idle (not_tellsUnlocked (by decide) (by decide)) ?_ ?_
  · rintro ⟨-, info, -, forced | own⟩
    · cases forced
    · cases own
  · rintro ⟨-, -, id, named, -⟩
    cases named

section Opened

variable (opens : ∃ plane, loads ctx.statePath w = .ok plane)

include opens

theorem ending_forced :
    ctx.Ending lockId true w (unlocking lockId true (found? w ctx.lockPath)) := by
  have found : ¬ ctx.Misses lockId true w := fun misses => by cases misses.unforced
  cases there : found? w ctx.lockPath with
  | none =>
    refine .idle (not_tellsUnlocked (by decide) (by decide)) ?_ found
    rintro ⟨-, info, some, -⟩
    rw [there] at some
    cases some
  | some r =>
    cases r with
    | error e => exact ending_spoiled there
    | ok info => exact .released (tellsUnlocked_forced info.holder) ⟨opens, info, there, .inl rfl⟩

theorem ending_named (id : String) :
    ctx.Ending (some id) false w (unlocking (some id) false (found? w ctx.lockPath)) := by
  have tells : TellsUnlocked "State unlocked.\n" := .inl rfl
  cases there : found? w ctx.lockPath with
  | none => exact .pretended tells ⟨opens, rfl, id, rfl, .inl there⟩
  | some r =>
    cases r with
    | error e => exact ending_spoiled there
    | ok info =>
      have outcome : unlocking (some id) false (some (.ok info)) =
          .ok (decide (info.lockId = id), ["State unlocked.\n"]) := rfl
      rw [outcome]
      by_cases own : info.lockId = id
      · rw [decide_eq_true own]
        exact .released tells ⟨opens, info, there, .inr (congrArg some own.symm)⟩
      · rw [decide_eq_false own]
        exact .pretended tells ⟨opens, rfl, id, rfl, .inr ⟨info, there, own⟩⟩

end Opened

/-- A command to unlock comes to one of its endings. -/
theorem comes_ending (ctx : Context) (lockId : Option String) (force : Bool) (w : World) :
    ∃ r, Comes ctx.lockPath w (ctx.unlock lockId force).run r ∧ ctx.Ending lockId force w r := by
  refine ⟨_, comes_unlock ctx lockId force w, ?_⟩
  cases opens : loads ctx.statePath w with
  | error e => exact ending_unopened opens
  | ok plane =>
    cases force with
    | true => exact ending_forced ⟨plane, opens⟩
    | false =>
      cases lockId with
      | none => exact ending_unasked
      | some id => exact ending_named ⟨plane, opens⟩ id

theorem reports_of_said {gone : Bool} {text : String} {v : World}
    (ran : (ctx.unlock lockId force).run.exec World.serve w = (.ok (), v))
    (left : Left ctx.lockPath gone [text] w v) :
    ctx.Reports lockId force w ↔ TellsUnlocked text := by
  have after : ctx.afterUnlock lockId force w = v := congrArg Prod.snd ran
  constructor
  · rintro ⟨-, texts, printed, told, member, tells⟩
    rw [after, left.printed] at printed
    obtain rfl := List.append_cancel_right printed
    rwa [← List.mem_singleton.mp member]
  · intro tells
    refine ⟨congrArg Prod.fst ran, [text], ?_, text, List.mem_singleton_self text, tells⟩
    rw [after]
    exact left.printed

/-- A command says that it released the lock if it did, and also if it was given the name of a lock
that is not there. -/
theorem reports_iff (ctx : Context) (lockId : Option String) (force : Bool) (w : World) :
    ctx.Reports lockId force w ↔ ctx.Frees lockId force w ∨ ctx.Misses lockId force w := by
  obtain ⟨r, comes, ending⟩ := comes_ending ctx lockId force w
  cases ending with
  | failed e kept found =>
    obtain ⟨v, ran, -⟩ := comes
    refine iff_of_false ?_ (not_or.mpr ⟨kept, found⟩)
    rintro ⟨succeeds, -⟩
    rw [ran] at succeeds
    cases succeeds
  | released tells frees =>
    obtain ⟨v, ran, left⟩ := comes
    exact iff_of_true ((reports_of_said ran left).mpr tells) (.inl frees)
  | pretended tells misses =>
    obtain ⟨v, ran, left⟩ := comes
    exact iff_of_true ((reports_of_said ran left).mpr tells) (.inr misses)
  | idle silent kept found =>
    obtain ⟨v, ran, left⟩ := comes
    exact iff_of_false ((reports_of_said ran left).not.mpr silent) (not_or.mpr ⟨kept, found⟩)

/-- The lock that is asked for is taken away with its file. -/
theorem Frees.removes (frees : ctx.Frees lockId force w) :
    (ctx.afterUnlock lockId force w).cwd = w.cwd ∧
      w.files.remove? w.cwd ctx.lockPath = some (ctx.afterUnlock lockId force w).files := by
  obtain ⟨r, comes, ending⟩ := comes_ending ctx lockId force w
  cases ending with
  | failed e kept _ => exact absurd frees kept
  | pretended _ misses => exact absurd frees misses.not_frees
  | idle _ kept _ => exact absurd frees kept
  | released _ _ =>
    obtain ⟨v, ran, left⟩ := comes
    rw [show ctx.afterUnlock lockId force w = v from congrArg Prod.snd ran]
    exact ⟨left.cwd, left.files⟩

/-- Where the lock that is asked for is not found, all files are left alone. -/
theorem sameFiles_of_not_frees (kept : ¬ ctx.Frees lockId force w) :
    w.SameFiles (ctx.afterUnlock lockId force w) := by
  obtain ⟨r, comes, ending⟩ := comes_ending ctx lockId force w
  cases ending with
  | released _ frees => exact absurd frees kept
  | failed _ _ _ | pretended _ _ | idle _ _ _ =>
    obtain ⟨v, ran, left⟩ := comes
    rw [show ctx.afterUnlock lockId force w = v from congrArg Prod.snd ran]
    exact left.sameFiles

/-! ## Whether it is right -/

theorem Frees.reads (frees : ctx.Frees lockId force w) :
    ∃ content, w.files.read? w.cwd ctx.lockPath = some content := by
  obtain ⟨-, info, found, -⟩ := frees
  exact read?_of_found found

/-- What is said of a lock that is not there is wrong. -/
theorem Misses.not_truthful (misses : ctx.Misses lockId force w) :
    ¬ ctx.Truthful lockId force w := by
  intro truthful
  have same := sameFiles_of_not_frees misses.not_frees
  obtain ⟨there, gone⟩ := truthful.released ((reports_iff ctx lockId force w).mpr (.inr misses))
  obtain ⟨content, read⟩ := Option.isSome_iff_exists.mp there
  rw [(same.sameFile ctx.lockPath).there, FileTree.pathExists_of_read? read] at gone
  cases gone

section Released

variable (sound : w.files.Sound) (frees : ctx.Frees lockId force w)

include sound frees

/-- Nothing is where the lock file was. -/
theorem Frees.not_pathExists {path : String}
    (leads : w.files.resolve? w.cwd path = w.files.resolve? w.cwd ctx.lockPath) :
    (ctx.afterUnlock lockId force w).files.pathExists (ctx.afterUnlock lockId force w).cwd path =
      false := by
  obtain ⟨cwd, removed⟩ := frees.removes
  have gone := FileTree.remove?_gone removed
  obtain ⟨q, -, resolved, -⟩ := FileTree.remove?_cases removed
  rw [← FileTree.resolve?_eq resolved, FileTree.resolve?_eq (leads.trans resolved)] at gone
  rw [cwd]
  exact (sound.remove? removed).not_pathExists gone

/-- The state file stays, unless it is its own lock file. -/
theorem Frees.keeps_state_iff :
    World.SameFile ctx.statePath w (ctx.afterUnlock lockId force w) ↔ ¬ ctx.SharesFile w := by
  obtain ⟨cwd, removed⟩ := frees.removes
  obtain ⟨q, content, resolved, there, erased⟩ := FileTree.remove?_cases removed
  have file := FileTree.not_directory_of_content there
  constructor
  · intro same shares
    have before : w.files.pathExists w.cwd ctx.statePath = true := by
      rw [FileTree.pathExists, show _ = _ from shares, resolved, Option.isSome_some]
    have kept := same.there
    rw [frees.not_pathExists sound shares, before] at kept
    cases kept
  · intro other
    have elsewhere : w.files.resolve? w.cwd ctx.statePath ≠ some q := fun leads =>
      other (leads.trans resolved.symm)
    constructor
    · rw [cwd, erased, FileTree.pathExists, FileTree.resolve?_erase sound file elsewhere]
      rfl
    · rw [cwd, erased, FileTree.read?_erase sound file elsewhere]

/-- Only a state file with the extension of lock files is its own lock file. -/
theorem Frees.not_sharesFile (unlike : Path.extension? ctx.statePath ≠ some "lock") :
    ¬ ctx.SharesFile w := by
  intro shares
  obtain ⟨-, removed⟩ := frees.removes
  obtain ⟨q, content, resolved, there, -⟩ := FileTree.remove?_cases removed
  have apart : Apart ctx.statePath ctx.lockPath :=
    (Apart.beside (by decide) (by decide) unlike).1
  exact apart sound (FileTree.resolveNew?_of_resolve? resolved)
    (FileTree.not_directory_of_content there) (FileTree.resolve?_eq (shares.trans resolved))

end Released

/-- A command to unlock takes the lock file away if the lock is there that it was asked for, by
force or by name, and otherwise changes no file. It is right in what it says, and leaves the state
file alone, exactly if it was not given the name of a lock that is not there and does not take away
a state file that is its own lock file; and that is only a file with the extension of lock files. -/
theorem unlock_truthful_iff (sound : w.files.Sound) (ctx : Context) (lockId : Option String)
    (force : Bool) :
    let after := ctx.afterUnlock lockId force w
    (ctx.Frees lockId force w →
      after.cwd = w.cwd ∧ w.files.remove? w.cwd ctx.lockPath = some after.files) ∧
    (¬ ctx.Frees lockId force w → w.SameFiles after) ∧
    (ctx.Truthful lockId force w ↔ ¬ ctx.Misses lockId force w ∧
      ¬ (ctx.Frees lockId force w ∧ ctx.SharesFile w)) ∧
    (ctx.Frees lockId force w ∧ ctx.SharesFile w →
      Path.extension? ctx.statePath = some "lock") := by
  intro after
  refine ⟨Frees.removes, sameFiles_of_not_frees, ⟨fun truthful => ?_, ?_⟩, ?_⟩
  · refine ⟨fun misses => misses.not_truthful truthful, fun ⟨frees, shares⟩ => ?_⟩
    exact (frees.keeps_state_iff sound).mp truthful.state shares
  · rintro ⟨found, own⟩
    by_cases frees : ctx.Frees lockId force w
    · obtain ⟨content, read⟩ := frees.reads
      refine ⟨fun _ => ⟨?_, frees.not_pathExists sound rfl⟩, fun silent => ?_, ?_⟩
      · rw [read, Option.isSome_some]
      · exact absurd ((reports_iff ctx lockId force w).mpr (.inl frees)) silent
      · exact (frees.keeps_state_iff sound).mpr fun shares => own ⟨frees, shares⟩
    · have same := sameFiles_of_not_frees frees
      refine ⟨fun told => ?_, fun _ => same.sameFile _, same.sameFile _⟩
      exact absurd ((reports_iff ctx lockId force w).mp told) (not_or.mpr ⟨frees, found⟩)
  · rintro ⟨frees, shares⟩
    by_contra unlike
    exact frees.not_sharesFile sound unlike shares

/-! ## A lock that is held -/

def onState : Context := ⟨{ state := some "c.json" }, false⟩

def heldLock : LockInfo := { lockId := "a", holder := "first", expiresAt := ⟨300, 0⟩ }

/-- A machine with this lock in the lock file of `c.json`. -/
def held : World :=
  { World.bare with files := World.bare.files.put ["c.lock"] (.file heldLock.toText.toUTF8) }

theorem sound_held : held.files.Sound := by
  have absent : World.bare.files.isDirectory ["c.lock"] = false := by decide +kernel
  refine World.sound_bare.put (by decide) rfl fun directory => ?_
  rw [absent] at directory
  cases directory

theorem lockPath_onState : onState.lockPath = "c.lock" := by decide +kernel

theorem opens_absent {w : World} (absent : w.files.pathExists w.cwd "c.json" = false) :
    ∃ plane, loads onState.statePath w = .ok plane :=
  ⟨_, if_neg (Bool.eq_false_iff.mp absent)⟩

theorem opens_held : ∃ plane, loads onState.statePath held = .ok plane :=
  opens_absent (by decide +kernel)

theorem found_held : found? held onState.lockPath = some (.ok heldLock) := by
  have plain : heldLock.Plain := by
    constructor <;> decide +kernel
  have resolved : held.files.resolve? held.cwd "c.lock" = some ["c.lock"] := by decide +kernel
  have reads : held.files.read? held.cwd "c.lock" = some heldLock.toText.toUTF8 := by
    rw [FileTree.read?, resolved]
    rfl
  rw [lockPath_onState, found?_eq_some, reads]
  exact ⟨FileTree.pathExists_of_read? reads, verdict_toText plain⟩

/-- A lock that is released under its name. -/
theorem unlock_truthful_iff_of_held :
    held.files.Sound ∧ onState.Frees (some "a") false held ∧
      onState.Truthful (some "a") false held := by
  have frees : onState.Frees (some "a") false held :=
    ⟨opens_held, heldLock, found_held, .inr rfl⟩
  obtain ⟨-, -, truthful, shares⟩ := unlock_truthful_iff sound_held onState (some "a") false
  refine ⟨sound_held, frees, truthful.mpr ⟨fun misses => misses.not_frees frees, fun own => ?_⟩⟩
  have alike := shares own
  revert alike
  decide +kernel

/-- A command says that it released a lock where there is no lock file, and where the lock file holds
another lock, which it goes on to hold. -/
theorem unlock_misreports :
    (onState.Reports (some "b") false .bare ∧
        World.bare.files.pathExists World.bare.cwd onState.lockPath = false ∧
        ¬ onState.Truthful (some "b") false .bare) ∧
      onState.Reports (some "b") false held ∧
        found? (onState.afterUnlock (some "b") false held) onState.lockPath =
          some (.ok heldLock) ∧
        ¬ onState.Truthful (some "b") false held := by
  have absent : World.bare.files.pathExists World.bare.cwd onState.lockPath = false := by
    decide +kernel
  have missesNone : onState.Misses (some "b") false .bare :=
    ⟨opens_absent (by decide +kernel), rfl, "b", rfl, .inl (found?_eq_none.mpr absent)⟩
  have missesOther : onState.Misses (some "b") false held :=
    ⟨opens_held, rfl, "b", rfl, .inr ⟨heldLock, found_held, by decide⟩⟩
  have same := sameFiles_of_not_frees missesOther.not_frees
  refine ⟨⟨?_, absent, missesNone.not_truthful⟩, ?_, ?_, missesOther.not_truthful⟩
  · exact (reports_iff _ _ _ _).mpr (.inr missesNone)
  · exact (reports_iff _ _ _ _).mpr (.inr missesOther)
  · rw [found?, same.files, same.cwd]
    exact found_held

end Run.Context

end ClusterConf
