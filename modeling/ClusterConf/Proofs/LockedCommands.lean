import ClusterConf.Proofs.LockedWork
set_option autoImplicit false

/-!
A command that works on the live cluster under the lock of its state file, on a machine whose clock
may show anything at each call. Main statement: the command does nothing if the lock is held or its
file is spoiled; otherwise its result is that of the work, the state file is written only while the
lock file holds the command's own lock, and in the end no lock file is left.
-/
namespace ClusterConf

open Program
open FileTree (placeOf Apart)

/-! ## What holds at each call of a run -/

namespace Program

variable {I : Interface} {α β σ : Type} (serve : Server I σ) (fit : σ → I.Request → Prop)

/-- Each call of a run is fit for the state that it is made in. -/
def Throughout : Program I α → σ → Prop
  | .done _, _ => True
  | .ask r next, s => fit s r ∧ Throughout (next (serve r s).1) (serve r s).2

variable {serve fit}

theorem throughout_bind {p : Program I α} {f : α → Program I β} {s : σ} :
    (p >>= f).Throughout serve fit s ↔ p.Throughout serve fit s ∧
      (f (p.exec serve s).1).Throughout serve fit (p.exec serve s).2 := by
  induction p generalizing s with
  | done a => exact (true_and _).symm.to_iff
  | ask r next ih =>
    rw [ask_bind, Throughout, Throughout, exec_ask, ih, and_assoc]

/-- Allowed calls keep something true of the states that makes them fit. -/
theorem Only.throughout {allowed : I.Request → Prop} {p : Program I α} (only : Only allowed p)
    {good : σ → Prop} (step : ∀ s r, good s → allowed r → fit s r ∧ good (serve r s).2) {s : σ}
    (start : good s) : p.Throughout serve fit s ∧ good (p.exec serve s).2 := by
  induction only generalizing s with
  | done a => exact ⟨trivial, start⟩
  | ask first _ ih =>
    obtain ⟨fits, next⟩ := step _ _ start first
    obtain ⟨later, last⟩ := ih _ next
    exact ⟨⟨fits, later⟩, last⟩

/-- After some calls a run goes on as that of another program. -/
structure Continues (serve : Server I σ) (p : Program I α) (s : σ) (calls : List (Exchange I))
    (q : Program I α) (t : σ) : Prop where
  exec : p.exec serve s = q.exec serve t
  journal : p.journal serve s = calls ++ q.journal serve t

namespace Continues

variable {p q r : Program I α} {s t u : σ} {calls more : List (Exchange I)}

theorem refl (p : Program I α) (s : σ) : Continues serve p s [] p s := ⟨rfl, rfl⟩

theorem ask {r : I.Request} {next : I.Answer r → Program I α} {answer : I.Answer r} {between : σ}
    (served : serve r s = (answer, between))
    (rest : Continues serve (next answer) between calls q t) :
    Continues serve (.ask r next) s (⟨r, answer⟩ :: calls) q t := by
  refine ⟨?_, ?_⟩
  · rw [exec_ask, served]
    exact rest.exec
  · rw [Program.journal, served, rest.journal, List.cons_append]

theorem trans (first : Continues serve p s calls q t) (second : Continues serve q t more r u) :
    Continues serve p s (calls ++ more) r u := by
  refine ⟨first.exec.trans second.exec, ?_⟩
  rw [first.journal, second.journal, List.append_assoc]

end Continues

end Program

/-! ## A clock that goes on -/

/-- What a clock shows at each call, by the number of the call. -/
abbrev Clock := Nat → Timestamp

def Clock.serve (clock : Clock) : Server Machine (Nat × World) := fun c (n, w) =>
  let (answer, after) := World.serve c (w.showing (clock n))
  (answer, n + 1, after)

theorem Clock.timed (clock : Clock) : World.Timed clock.serve Prod.snd :=
  fun _ (n, _) => ⟨clock n, rfl⟩

theorem Clock.shown {clock : Clock} {α : Type} (p : Session α) (s : Nat × World) {t : Timestamp}
    (member : ⟨.now, t⟩ ∈ p.journal clock.serve s) : ∃ n, clock n = t := by
  induction p generalizing s with
  | done a => cases member
  | ask c next ih =>
    rcases List.mem_cons.mp member with same | later
    · cases same
      exact ⟨s.1, rfl⟩
    · exact ih _ _ later

section Sparing

variable {σ : Type} {serve : Server Machine σ} {view : σ → World} {path : String}

theorem World.Timed.sound_exec (timed : World.Timed serve view) {α : Type} (p : Session α) {s : σ}
    (sound : (view s).files.Sound) : (view (p.exec serve s).2).files.Sound := by
  induction p generalizing s with
  | done a => exact sound
  | ask c next ih =>
    obtain ⟨t, served⟩ := timed c s
    exact ih _ (World.sound_serve (w := (view s).showing t) sound served)

theorem MachineCall.Spares.keeps {c : MachineCall} (spares : c.Spares path)
    (timed : World.Timed serve view) {s : σ} (sound : (view s).files.Sound) :
    World.Keeps path (view s) (view (serve c s).2) := by
  obtain ⟨t, served⟩ := timed c s
  have keeps := spares.served ((view s).showing t) sound
  rw [served] at keeps
  exact ⟨keeps.cwd, keeps.files⟩

theorem MachineCall.Spares.removeFile {other : String} (apart : Apart path other) :
    (MachineCall.removeFile other).Spares path where
  served _ sound := World.keeps_change sound rfl fun _ => FileTree.keeps_remove? sound apart
  cut _ _ _ cut := by cases cut

end Sparing

/-- No file is where a path leads. -/
structure World.Lacks (path : String) (w : World) : Prop where
  content : w.contentOf path = none
  path : w.files.pathExists w.cwd path = false

theorem World.SameFiles.lacks {w w' : World} (same : w.SameFiles w') {path : String}
    (lacks : w.Lacks path) : w'.Lacks path := by
  refine ⟨?_, ?_⟩
  · rw [World.contentOf, same.files, same.cwd]
    exact lacks.content
  · rw [same.files, same.cwd]
    exact lacks.path

namespace Lock

/-! ## Other files than the lock file -/

section Others

variable {path other : String}

theorem spares_afterReading {α : Type} {absent : Session (Except Error α)}
    {found : LockInfo → Session (Except Error α)} (none : Only (MachineCall.Spares other) absent)
    (some : ∀ existing, Only (MachineCall.Spares other) (found existing)) :
    Only (MachineCall.Spares other) (afterReading path absent found) := by
  refine .ask (.of_leaves (by trivial) other) fun there => ?_
  cases there with
  | false => exact none
  | true =>
    refine .ask (.of_leaves (by trivial) other) fun content => ?_
    cases verdict content with
    | error e => exact .done _
    | ok existing => exact some existing

variable (apart : Apart other path)

include apart

theorem spares_claiming (info : LockInfo) :
    Only (MachineCall.Spares other) (claiming path info) := by
  have writes : Only (MachineCall.Spares other) (writing path info) := by
    refine .ask (.createFile apart) fun made => ?_
    cases made with
    | false => exact .done _
    | true =>
      refine .ask (.appendFile apart _) fun written => ?_
      cases written with
      | false => exact .done _
      | true =>
        refine .ask (.of_leaves (by trivial) other) fun synced => ?_
        cases synced with
        | false => exact .done _
        | true => exact .ask (.of_leaves (by trivial) other) fun _ => .done _
  rw [claiming]
  cases Path.properParent? path with
  | none => exact writes
  | some parent =>
    refine .ask (.createDirectories other parent) fun made => ?_
    cases made with
    | false => exact .done _
    | true => exact writes

theorem spares_claim (holder : String) :
    Only (MachineCall.Spares other) (claim path holder).run := by
  have spares : ∀ {answers p}, Claims path answers p → Only (MachineCall.Spares other) p := by
    intro answers p claims
    induction claims with
    | asks quiet _ ih => exact .ask (.of_leaves (MachineCall.leavesFiles_of_quiet quiet) other) ih
    | writes made => exact spares_claiming apart _
  exact spares (claims_claim path holder [])

theorem spares_acquire (holder : String) :
    Only (MachineCall.Spares other) (acquire path holder).run := by
  rw [acquire_eq]
  refine spares_afterReading (spares_claim apart holder) fun existing => ?_
  refine .ask (.of_leaves (by trivial) other) fun now => ?_
  split
  · exact .ask (.of_leaves (by trivial) other) fun _ => spares_claim apart holder
  · exact .done _

theorem spares_release (lockId : String) :
    Only (MachineCall.Spares other) (release path lockId).run := by
  rw [release_eq]
  refine spares_afterReading (.done _) fun existing => ?_
  split
  · refine .ask (.removeFile apart) fun removed => ?_
    cases removed with
    | false => exact .done _
    | true => exact .ask (.of_leaves (by trivial) other) fun _ => .done _
  · exact .ask (.of_leaves (by trivial) other) fun _ => .done _

end Others

/-! ## Acquiring and releasing as the clock goes on -/

/-- What stands at the path of a lock file: nothing, or what is made of its content. -/
def found? (w : World) (path : String) : Option (Except Error LockInfo) :=
  if w.files.pathExists w.cwd path then some (verdict (w.files.read? w.cwd path)) else none

theorem found?_eq_none {w : World} {path : String} :
    found? w path = none ↔ w.files.pathExists w.cwd path = false := by
  rw [found?]
  cases w.files.pathExists w.cwd path <;> simp

theorem found?_eq_some {w : World} {path : String} {r : Except Error LockInfo} :
    found? w path = some r ↔
      w.files.pathExists w.cwd path = true ∧ verdict (w.files.read? w.cwd path) = r := by
  rw [found?]
  cases w.files.pathExists w.cwd path <;> simp

theorem verdict_eq_error {content? : Option ByteArray} {e : Error}
    (spoiled : verdict content? = .error e) : ∃ cause, e = .state (.corrupted cause) := by
  unfold verdict spelled at spoiled
  split at spoiled
  · exact ⟨_, (Except.error.inj spoiled).symm⟩
  · split at spoiled
    · exact ⟨_, (Except.error.inj spoiled).symm⟩
    · cases spoiled

/-- Nothing is left of a lock file that was removed. -/
theorem exec_remove {σ : Type} {serve : Server Machine σ} {view : σ → World}
    (timed : World.Timed serve view) {path : String} {s : σ} (sound : (view s).files.Sound)
    (lockId : String) (smooth : Smooth ((remove path lockId).journal serve s)) :
    let after := (remove path lockId).exec serve s
    after.1 = .ok () ∧ (view after.2).Lacks path := by
  obtain ⟨t, served⟩ := timed (.removeFile path) s
  have removed : (serve (.removeFile path) s).1 = true := (List.forall_mem_cons.mp smooth).1
  rw [removed] at served
  rcases World.change_cases served with ⟨impossible, -⟩ | ⟨files, -, erased, left⟩
  · cases impossible
  · have gone := FileTree.remove?_gone erased
    have lacks : World.Lacks path (view (serve (.removeFile path) s).2) := by
      refine ⟨?_, ?_⟩
      · rw [left, World.contentOf, FileTree.content?, gone]
      · rw [left]
        exact (sound.remove? erased).not_pathExists gone
    have noted := timed.sameFiles (c := .note (.info .lock s!"Released state lock: {lockId}"))
      (by trivial) (serve (.removeFile path) s).2
    rw [remove, exec_ask, removed, if_pos rfl, exec_ask]
    exact ⟨rfl, noted.lacks lacks⟩

/-- What is logged when an expired lock is taken over. -/
def takingOver (info : LockInfo) : Event :=
  .warn .lock s!"Expired lock held by {info.holder} found, taking over"

/-- An expired lock is claimed after a warning. -/
theorem continues_takeOver {σ : Type} {serve : Server Machine σ} {s between : σ} {now : Timestamp}
    {existing : LockInfo} (asked : serve .now s = (now, between))
    (expired : existing.isExpired now = true) (path holder : String) :
    Continues serve (takeOver path holder existing) s
      [⟨.now, now⟩, ⟨.note (takingOver existing), ()⟩] (claim path holder).run
      (serve (.note (takingOver existing)) between).2 := by
  refine .ask asked ?_
  rw [if_pos expired]
  exact .ask rfl (.refl _ _)

section Clocks

variable {clock : Clock} {n : Nat} {w : World} {path : String}

section Reading

variable {α : Type} {absent : Session (Except Error α)}
  {found : LockInfo → Session (Except Error α)}

/-- What is left of a session when something was made of the lock file. -/
def decided (found : LockInfo → Session (Except Error α)) :
    Except Error LockInfo → Session (Except Error α)
  | .error e => .done (.error e)
  | .ok existing => found existing

theorem continues_absent (none : found? w path = none) :
    Continues clock.serve (afterReading path absent found) (n, w) [⟨.pathExists path, false⟩]
      absent (n + 1, w.showing (clock n)) := by
  have looked : clock.serve (.pathExists path) (n, w) = (false, n + 1, w.showing (clock n)) :=
    congrArg (·, n + 1, w.showing (clock n)) (found?_eq_none.mp none)
  exact .ask looked (.refl _ _)

theorem continues_found {r : Except Error LockInfo} (there : found? w path = some r) :
    Continues clock.serve (afterReading path absent found) (n, w)
      [⟨.pathExists path, true⟩, ⟨.readFile path, w.files.read? w.cwd path⟩]
      (decided found r) (n + 2, w.showing (clock (n + 1))) := by
  obtain ⟨present, rfl⟩ := found?_eq_some.mp there
  have looked : clock.serve (.pathExists path) (n, w) = (true, n + 1, w.showing (clock n)) :=
    congrArg (·, n + 1, w.showing (clock n)) present
  have read : clock.serve (.readFile path) (n + 1, w.showing (clock n)) =
      (w.files.read? w.cwd path, n + 2, w.showing (clock (n + 1))) := rfl
  exact .ask looked (.ask read (.refl _ _))

end Reading

/-- The lock file is absent, or its lock has expired when it is looked at. -/
def Free (clock : Clock) (n : Nat) (w : World) (path : String) : Prop :=
  found? w path = none ∨
    ∃ existing, found? w path = some (.ok existing) ∧ existing.isExpired (clock (n + 2)) = true

theorem continues_acquire (free : Free clock n w path) (holder : String) :
    ∃ calls m v, Continues clock.serve (acquire path holder).run (n, w) calls
      (claim path holder).run (m, v) := by
  rw [acquire_eq]
  rcases free with none | ⟨existing, there, expired⟩
  · exact ⟨_, _, _, continues_absent none⟩
  · have asked : clock.serve .now (n + 2, w.showing (clock (n + 1))) =
        (clock (n + 2), n + 3, w.showing (clock (n + 2))) := rfl
    have warned := continues_takeOver asked expired path holder
    exact ⟨_, _, _, (continues_found there).trans warned⟩

theorem exec_acquire_spoiled {e : Error} (there : found? w path = some (.error e))
    (holder : String) : (acquire path holder).run.exec clock.serve (n, w) =
      (.error e, n + 2, w.showing (clock (n + 1))) := by
  rw [acquire_eq]
  exact (continues_found there).exec

theorem exec_acquire_held {existing : LockInfo} (there : found? w path = some (.ok existing))
    (live : existing.isExpired (clock (n + 2)) = false) (holder : String) :
    (acquire path holder).run.exec clock.serve (n, w) =
      (.error (.state (.lockedByOther existing.holder existing.acquiredAt.text)), n + 3,
        w.showing (clock (n + 2))) := by
  have asked : clock.serve .now (n + 2, w.showing (clock (n + 1))) =
      (clock (n + 2), n + 3, w.showing (clock (n + 2))) := rfl
  rw [acquire_eq, (continues_found there).exec, decided, takeOver, exec_ask, asked]
  dsimp only
  rw [live]
  rfl

theorem exec_acquire (shown : ∀ n, (clock n).Datable) (sound : w.files.Sound)
    (free : Free clock n w path) (holder : String)
    (smooth : Smooth ((acquire path holder).run.journal clock.serve (n, w))) :
    ∃ lock taken, (acquire path holder).run.exec clock.serve (n, w) = (.ok lock, taken) ∧
      lock.Plain ∧ taken.2.Holds path lock.toText.toUTF8 := by
  obtain ⟨calls, m, v, goes⟩ := continues_acquire free holder
  rw [goes.journal] at smooth
  obtain ⟨lock, ok, reads, made⟩ :=
    exec_claims clock.timed (claims_claim path holder []) (smooth_append.mp smooth).2
  have plain : lock.Plain := by
    refine made.plain fun t member => ?_
    rw [List.append_nil] at member
    obtain ⟨n, rfl⟩ := Clock.shown _ _ member
    exact shown n
  have soundAfter := clock.timed.sound_exec (acquire path holder).run (s := (n, w)) sound
  rw [goes.exec] at soundAfter
  exact ⟨lock, _, goes.exec.trans (Prod.ext ok rfl), plain, soundAfter,
    FileTree.content?_of_read? reads, reads⟩

section Releasing

variable {lock : LockInfo} (plain : lock.Plain) (holds : w.Holds path lock.toText.toUTF8)

include plain holds

theorem continues_release : Continues clock.serve (release path lock.lockId).run (n, w)
    [⟨.pathExists path, true⟩, ⟨.readFile path, some lock.toText.toUTF8⟩]
    (remove path lock.lockId) (n + 2, w.showing (clock (n + 1))) := by
  have there : found? w path = some (.ok lock) := by
    rw [found?_eq_some, holds.reads]
    exact ⟨FileTree.pathExists_of_read? holds.reads, verdict_toText plain⟩
  have goes : Continues clock.serve (release path lock.lockId).run (n, w)
      [⟨.pathExists path, true⟩, ⟨.readFile path, w.files.read? w.cwd path⟩]
      (remove path lock.lockId) (n + 2, w.showing (clock (n + 1))) := by
    rw [release_eq]
    refine (continues_found there).trans ?_
    rw [decided, if_pos rfl]
    exact .refl _ _
  rw [holds.reads] at goes
  exact goes

/-- A lock that is still in its file is released, and then the file is gone. -/
theorem exec_release
    (smooth : Smooth ((release path lock.lockId).run.journal clock.serve (n, w))) :
    let after := (release path lock.lockId).run.exec clock.serve (n, w)
    after.1 = .ok () ∧ after.2.2.Lacks path := by
  have goes : Continues clock.serve (release path lock.lockId).run (n, w) _ _ _ :=
    continues_release plain holds
  rw [goes.journal] at smooth
  rw [goes.exec]
  exact exec_remove clock.timed holds.sound _ (smooth_append.mp smooth).2

end Releasing

end Clocks

end Lock

/-! ## Commands -/

namespace Run.Context

open Lock

variable {α β : Type} {clock : Clock} {w : World} {path lockPath : String}

/-- A command that found the lock in other hands, or its file spoiled: it fails, it has made no call
but to look for the lock, and no file is changed. -/
structure Declined (clock : Clock) (command : Attempt β) (lockPath : String) (w : World)
    (e : Error) : Prop where
  failed : (command.run.exec clock.serve (0, w)).1 = .error e
  idle : command.run.journal clock.serve (0, w) =
    (acquire lockPath "").run.journal clock.serve (0, w)
  files : w.SameFiles (command.run.exec clock.serve (0, w)).2.2

/-- A call spares the state file, or the lock file is there with this lock, and the call spares
it. -/
def UnderLock (path lockPath : String) (lock : LockInfo) (s : Nat × World) (c : MachineCall) :
    Prop :=
  c.Spares path ∨ c.Spares lockPath ∧ s.2.contentOf lockPath = some lock.toText.toUTF8

/-- A session that spares the state file needs no lock. -/
theorem throughout_apart (clock : Clock) (lockPath : String) (lock : LockInfo) {p : Session α}
    (only : Only (MachineCall.Spares path) p) {s : Nat × World} (sound : s.2.files.Sound) :
    p.Throughout clock.serve (UnderLock path lockPath lock) s := by
  let good := fun s : Nat × World => s.2.files.Sound
  have step : ∀ s c, good s → MachineCall.Spares path c →
      UnderLock path lockPath lock s c ∧ good (clock.serve c s).2 :=
    fun _ _ sound spares => ⟨.inl spares, (spares.keeps clock.timed sound).files.sound⟩
  exact (only.throughout step sound).1

/-- A session that spares the lock file keeps the lock that it has. -/
theorem throughout_held (clock : Clock) (path : String) {p : Session α}
    (only : Only (MachineCall.Spares lockPath) p) {lock : LockInfo} {s : Nat × World}
    (held : s.2.Holds lockPath lock.toText.toUTF8) :
    p.Throughout clock.serve (UnderLock path lockPath lock) s ∧
      (p.exec clock.serve s).2.2.Holds lockPath lock.toText.toUTF8 := by
  let good := fun s : Nat × World => s.2.Holds lockPath lock.toText.toUTF8
  have step : ∀ s c, good s → MachineCall.Spares lockPath c →
      UnderLock path lockPath lock s c ∧ good (clock.serve c s).2 :=
    fun _ _ held spares =>
      ⟨.inr ⟨spares, held.held⟩, (spares.keeps clock.timed held.sound).holds held⟩
  exact only.throughout step held

/-- A command that did its work under its own lock. -/
structure Completed (clock : Clock) (command work : Attempt β) (path lockPath : String) (w : World)
    (lock : LockInfo) (taken : Nat × World) : Prop where
  acquired : (acquire lockPath "").run.exec clock.serve (0, w) = (.ok lock, taken)
  result : (command.run.exec clock.serve (0, w)).1 = (work.run.exec clock.serve taken).1
  locked : command.run.Throughout clock.serve (UnderLock path lockPath lock) (0, w)
  absent : (command.run.exec clock.serve (0, w)).2.2.Lacks lockPath

section Commands

variable {work : Attempt β}

/-- What is left of a command when it has its lock. -/
def working (lockPath : String) (work : Attempt β) (lock : LockInfo) : Session (Except Error β) :=
  work.run >>= fun result => (release lockPath lock.lockId).run >>= fun released =>
    match released with
    | .ok _ => .done result
    | .error e => .done (.error e)

theorem run_withLock : (withLock (some lockPath) work).run = (acquire lockPath "").run >>= fun r =>
    match r with
    | .ok lock => working lockPath work lock
    | .error e => .done (.error e) := by
  rw [withLock, ExceptT.run_bind]
  refine congrArg (_ >>= ·) (funext fun r => ?_)
  cases r with
  | error e => rfl
  | ok lock =>
    refine (ExceptT.run_bind_lift _ _).trans (congrArg (_ >>= ·) (funext fun result => ?_))
    rw [ExceptT.run_bind]
    refine congrArg (_ >>= ·) (funext fun released => ?_)
    cases released <;> cases result <;> rfl

theorem declined_of_error {e : Error} {s : Nat × World} (same : w.SameFiles s.2)
    (stopped : (acquire lockPath "").run.exec clock.serve (0, w) = (.error e, s)) :
    Declined clock (withLock (some lockPath) work) lockPath w e := by
  have ended : (withLock (some lockPath) work).run.exec clock.serve (0, w) = (.error e, s) := by
    rw [run_withLock, exec_bind, stopped]
    rfl
  refine ⟨?_, ?_, ?_⟩
  · rw [ended]
  · rw [run_withLock, journal_bind, stopped]
    exact List.append_nil _
  · rw [ended]
    exact same

theorem smooth_working {lock : LockInfo} {taken : Nat × World} :
    Smooth ((working lockPath work lock).journal clock.serve taken) ↔
      Smooth (work.run.journal clock.serve taken) ∧
        Smooth ((release lockPath lock.lockId).run.journal clock.serve
          (work.run.exec clock.serve taken).2) := by
  have ended : ∀ (result : Except Error β) (released : Except Error Unit) (s : Nat × World),
      journal clock.serve (match released with
        | .ok _ => (.done result : Session (Except Error β))
        | .error e => .done (.error e)) s = [] := by
    intro result released s
    cases released <;> rfl
  rw [working, journal_bind, smooth_append, journal_bind, ended, List.append_nil]

variable (spares : Only (MachineCall.Spares lockPath) work.run)

include spares

/-- The calls of a command that has its lock succeed if those of the work do, and the lock file can
be removed. -/
theorem smooth_working_of_held {lock : LockInfo} (plain : lock.Plain) {taken : Nat × World}
    (held : taken.2.Holds lockPath lock.toText.toUTF8)
    (worked : Smooth (work.run.journal clock.serve taken))
    {n : Nat} {v : World} (ended : (work.run.exec clock.serve taken).2 = (n, v))
    (removed : Smooth ((remove lockPath lock.lockId).journal clock.serve
      (n + 2, v.showing (clock (n + 1))))) :
    Smooth ((working lockPath work lock).journal clock.serve taken) := by
  have heldOn := (throughout_held clock lockPath spares held).2
  rw [smooth_working, ended]
  rw [ended] at heldOn
  refine ⟨worked, ?_⟩
  rw [(continues_release plain heldOn).journal, smooth_append]
  exact ⟨by simp [Smooth, Exchange.done], removed⟩

variable (apart : Apart path lockPath)

include apart

theorem exec_working {lock : LockInfo} (plain : lock.Plain) {taken : Nat × World}
    (held : taken.2.Holds lockPath lock.toText.toUTF8)
    (smooth : Smooth ((working lockPath work lock).journal clock.serve taken)) :
    let after := (working lockPath work lock).exec clock.serve taken
    after.1 = (work.run.exec clock.serve taken).1 ∧
      (working lockPath work lock).Throughout clock.serve (UnderLock path lockPath lock) taken ∧
      after.2.2.Lacks lockPath := by
  obtain ⟨lockedWork, heldOn⟩ := throughout_held clock path spares held
  obtain ⟨released, lacks⟩ := exec_release plain heldOn (smooth_working.mp smooth).2
  have lockedRelease :=
    throughout_apart clock lockPath lock (spares_release apart lock.lockId) heldOn.sound
  rw [working, exec_bind, exec_bind, throughout_bind, throughout_bind, released]
  exact ⟨rfl, ⟨lockedWork, lockedRelease, trivial⟩, lacks⟩

theorem completed_of_free (shown : ∀ n, (clock n).Datable) (sound : w.files.Sound)
    (smooth : Smooth ((withLock (some lockPath) work).run.journal clock.serve (0, w)))
    (free : Free clock 0 w lockPath) : ∃ lock taken,
      Completed clock (withLock (some lockPath) work) work path lockPath w lock taken := by
  rw [run_withLock, journal_bind] at smooth
  obtain ⟨smoothFirst, smoothRest⟩ := smooth_append.mp smooth
  obtain ⟨lock, taken, acquired, plain, held⟩ := exec_acquire shown sound free "" smoothFirst
  rw [acquired] at smoothRest
  have lockedFirst :=
    throughout_apart clock lockPath lock (spares_acquire apart "") (s := (0, w)) sound
  obtain ⟨result, lockedRest, lacks⟩ := exec_working spares apart plain held smoothRest
  have ended : (withLock (some lockPath) work).run.exec clock.serve (0, w) =
      (working lockPath work lock).exec clock.serve taken := by
    rw [run_withLock, exec_bind, acquired]
  refine ⟨lock, taken, acquired, ?_, ?_, ?_⟩
  · rw [ended, result]
  · rw [run_withLock, throughout_bind, acquired]
    exact ⟨lockedFirst, lockedRest⟩
  · rw [ended]
    exact lacks

end Commands

/--
A command on the live cluster, with no other process and no failing file step. If the lock file
holds a lock that has not expired when the command asks for the time, or nothing that can be read,
the command fails with the holder or with the cause and has done nothing. Otherwise its result is
that of the work alone, whatever the clock shows meanwhile; the state file is touched only while the
lock file holds the lock that the command has acquired; and in the end there is no lock file.
-/
theorem withLock_lifecycle {ctx : Context} {plane : LocalPlane}
    (unlike : Path.extension? path ≠ some "lock") (kept : plane.path = some path)
    (p : Reconciler.Attempt α) (shown : ∀ n, (clock n).Datable) (sound : w.files.Sound)
    (smooth : Smooth ((withLock plane.lockPath? (ctx.onPlane plane p)).run.journal clock.serve
      (0, w))) :
    let lockPath := Path.withExtension path "lock"
    let work := ctx.onPlane plane p
    let command := withLock plane.lockPath? work
    (∀ existing, found? w lockPath = some (.ok existing) → existing.isExpired (clock 2) = false →
        Declined clock command lockPath w
          (.state (.lockedByOther existing.holder existing.acquiredAt.text))) ∧
      (∀ e, found? w lockPath = some (.error e) → (∃ cause, e = .state (.corrupted cause)) ∧
        Declined clock command lockPath w e) ∧
      (Free clock 0 w lockPath → ∃ lock taken,
        Completed clock command work path lockPath w lock taken) := by
  intro lockPath work command
  have apart : Apart path lockPath := (Apart.beside (by decide) (by decide) unlike).1
  have spares : Only (MachineCall.Spares lockPath) work.run := spares_onPlane unlike kept p
  have locked : command = withLock (some lockPath) work := by
    simp only [command, LocalPlane.lockPath?, kept, Option.map_some, lockPath]
  change Smooth (command.run.journal clock.serve (0, w)) at smooth
  rw [locked] at smooth ⊢
  refine ⟨fun existing there live => ?_, fun e spoiled => ⟨?_, ?_⟩, fun free => ?_⟩
  · exact declined_of_error ⟨rfl, rfl⟩ (exec_acquire_held there live "")
  · exact verdict_eq_error (found?_eq_some.mp spoiled).2
  · exact declined_of_error ⟨rfl, rfl⟩ (exec_acquire_spoiled spoiled "")
  · exact completed_of_free spares apart shown sound smooth free

/-- The lock of a command has expired before its work is over, and still the command succeeds as
its work does. -/
theorem withLock_lifecycle_of_long_work :
    let clock : Clock := fun n => if n < 10 then ⟨0, 0⟩ else ⟨1000, 0⟩
    let ctx : Context := ⟨{}, false⟩
    let plane : LocalPlane := ⟨some "c.json", { Snapshot.empty with managers := ["root"] }⟩
    let work := ctx.onPlane plane (Reconciler.destroy false)
    let command := withLock plane.lockPath? work
    Smooth (command.run.journal clock.serve (0, .bare)) ∧ ∃ lock taken,
      lock.isExpired (clock 10) = true ∧
        Completed clock command work "c.json" (Path.withExtension "c.json" "lock") .bare lock
          taken := by
  intro clock ctx plane work command
  have unlike : Path.extension? "c.json" ≠ some "lock" := by decide +kernel
  have named : Path.withExtension "c.json" "lock" = "c.lock" := by decide +kernel
  have spares : Only (MachineCall.Spares "c.lock") work.run := by
    rw [← named]
    exact spares_onPlane unlike rfl _
  have shown : ∀ n, (clock n).Datable := by
    intro n
    by_cases early : n < 10
    · rw [show clock n = ⟨0, 0⟩ from if_pos early]
      decide +kernel
    · rw [show clock n = ⟨1000, 0⟩ from if_neg early]
      decide +kernel
  have free : Free clock 0 .bare "c.lock" := .inl (found?_eq_none.mpr (by decide +kernel))
  have first : Smooth ((acquire "c.lock" "").run.journal clock.serve (0, .bare)) := by
    rw [Smooth]
    decide +kernel
  obtain ⟨lock, taken, acquired, plain, held⟩ := exec_acquire shown World.sound_bare free "" first
  -- What was acquired can be computed, but not be read back by computing.
  let after := (acquire "c.lock" "").run.exec clock.serve (0, .bare)
  have same : after = (.ok lock, taken) := acquired
  have known : after.1.toOption = some ⟨"", "-0-", "", 0, ⟨0, 0⟩, ⟨300, 0⟩⟩ := by decide +kernel
  rw [same] at known
  have id : lock.lockId = "" := congrArg LockInfo.lockId (Option.some.inj known)
  have rest : Smooth ((working "c.lock" work lock).journal clock.serve taken) := by
    rw [show taken = after.2 from (congrArg Prod.snd same).symm] at held ⊢
    refine smooth_working_of_held spares plain held ?_ (Prod.eta _).symm ?_
    · rw [Smooth]
      decide +kernel
    · rw [id, Smooth]
      decide +kernel
  have locked : command = withLock (some "c.lock") work := by
    simp only [command, LocalPlane.lockPath?, plane, Option.map_some, named]
  have smooth : Smooth (command.run.journal clock.serve (0, .bare)) := by
    rw [locked, run_withLock, journal_bind, acquired, smooth_append]
    exact ⟨first, rest⟩
  refine ⟨smooth, ?_⟩
  obtain ⟨-, -, completes⟩ := withLock_lifecycle unlike rfl _ shown World.sound_bare smooth
  rw [named] at completes ⊢
  obtain ⟨own, taken', completed⟩ := completes free
  have ours : own = lock :=
    Except.ok.inj (congrArg Prod.fst (completed.acquired.symm.trans acquired))
  refine ⟨own, taken', ?_, completed⟩
  rw [ours, Option.some.inj known]
  decide +kernel

end Run.Context

end ClusterConf
