import ClusterConf.Proofs.LockContests
import ClusterConf.Proofs.LockedCommands
set_option autoImplicit false

/-!
Whole calls on one lock file, one after the other, by any clients at any times. Main statement: the
file holds exactly the lock that was granted last, unless that one was released since, and this
alone tells how each further call ends.
-/
namespace ClusterConf

open Program

/-- The file at a path holds this lock, or nothing is there. -/
def World.Shows (path : String) (w : World) : Option LockInfo → Prop
  | none => w.files.pathExists w.cwd path = false
  | some info => w.files.read? w.cwd path = some info.toText.toUTF8

theorem World.SameFiles.shows {w w' : World} (same : w.SameFiles w') {path : String}
    {held? : Option LockInfo} (shows : w.Shows path held?) : w'.Shows path held? := by
  cases held? with
  | none =>
    rw [Shows, same.files, same.cwd]
    exact shows
  | some info =>
    rw [Shows, same.files, same.cwd]
    exact shows

namespace Lock

/-! ## Calls and what is told of them -/

inductive LockCall where
  | acquire (holder : String)
  | release (lockId : String)
  | isLocked
  | read

namespace LockCall

abbrev Result : LockCall → Type
  | acquire _ => LockInfo
  | release _ => Unit
  | isLocked => Bool
  | read => Option LockInfo

def session (path : String) : (c : LockCall) → Attempt c.Result
  | acquire holder => Lock.acquire path holder
  | release lockId => Lock.release path lockId
  | isLocked => Lock.isLocked path
  | read => Lock.read path

end LockCall

/-- A client, and the time at which it calls. -/
structure Visit where
  time : Timestamp
  host : String
  pid : UInt32

/-- The machine as a client meets it. -/
def Visit.to (v : Visit) (w : World) : World :=
  { w with clock := v.time, hostName := v.host, processId := v.pid }

/-- A call of a client. -/
structure Turn extends Visit where
  call : LockCall

namespace Turn

def exec (path : String) (t : Turn) (w : World) : Except Error t.call.Result × World :=
  (t.call.session path).run.exec World.serve (t.to w)

def journal (path : String) (t : Turn) (w : World) : List (Exchange Machine) :=
  (t.call.session path).run.journal World.serve (t.to w)

end Turn

/-- What is remembered of a call that has succeeded. -/
inductive Mark where
  | granted (info : LockInfo)
  | released (lockId : String)

/-- Looking is not remembered. -/
def LockCall.mark? : (c : LockCall) → Except Error c.Result → Option Mark
  | acquire _, .ok info => some (.granted info)
  | release lockId, .ok _ => some (.released lockId)
  | _, _ => none

/-- The lock that was granted last, unless it was released since. Marks are given last first. -/
def current? : List Mark → Option LockInfo
  | [] => none
  | .granted info :: _ => some info
  | .released lockId :: before => (current? before).filter (·.lockId != lockId)

theorem current_released {marks : List Mark} {lockId : String}
    (own : ∃ info, current? marks = some info ∧ info.lockId = lockId) :
    current? (.released lockId :: marks) = none := by
  obtain ⟨info, held, rfl⟩ := own
  simp [current?, held]

theorem current_kept {marks : List Mark} {lockId : String}
    (other : ∀ info, current? marks = some info → info.lockId ≠ lockId) :
    current? (.released lockId :: marks) = current? marks := by
  rw [current?]
  cases held : current? marks with
  | none => rfl
  | some info => simp [other info held]

theorem granted_of_current {marks : List Mark} {info : LockInfo}
    (current : current? marks = some info) : .granted info ∈ marks := by
  induction marks with
  | nil => cases current
  | cons mark before ih =>
    cases mark with
    | granted other =>
      obtain rfl := Option.some.inj current
      exact List.mem_cons_self
    | released lockId =>
      exact List.mem_cons_of_mem _ (ih (Option.filter_eq_some_iff.mp current).1)

/-- A machine with a lock file, and what is remembered of the calls on it. -/
structure Chronicle where
  world : World
  /-- Last first. -/
  marks : List Mark

namespace Chronicle

def turn (path : String) (c : Chronicle) (t : Turn) : Chronicle :=
  let (result, world) := t.exec path c.world
  ⟨world, (t.call.mark? result).toList ++ c.marks⟩

theorem turn_eq {path : String} (c : Chronicle) (v : Visit) (call : LockCall)
    {result : Except Error call.Result} {world : World}
    (done : (call.session path).run.exec World.serve (v.to c.world) = (result, world)) :
    c.turn path ⟨v, call⟩ = ⟨world, (call.mark? result).toList ++ c.marks⟩ := by
  rw [turn, Turn.exec, done]

def run (path : String) (c : Chronicle) (ts : List Turn) : Chronicle := ts.foldl (turn path) c

/-- No file step fails in any of the calls. -/
def Unhindered (path : String) : Chronicle → List Turn → Prop
  | _, [] => True
  | c, t :: ts => Smooth (t.journal path c.world) ∧ Unhindered path (c.turn path t) ts

end Chronicle

/-! ## Calls on a file that holds a lock or is absent -/

theorem Advances.exec {α : Type} (p : Session α) (w : World) :
    Advances w (p.exec World.serve w).2 := by
  induction p generalizing w with
  | done a => exact .refl w
  | ask c next ih => exact (Advances.serve c w).trans (ih _ _)

/-- The names that a session is given are new. -/
theorem drawn_of_named {α : Type} {p : Session α} {w : World} {id : String}
    (named : ⟨.freshId, id⟩ ∈ p.journal World.serve w) :
    ∃ n, w.issued ≤ n ∧ n < (p.exec World.serve w).2.issued ∧ w.idOf n = id := by
  induction p generalizing w with
  | done a => cases named
  | ask c next ih =>
    have after := Advances.exec (next (World.serve c w).1) (World.serve c w).2
    rcases List.mem_cons.mp named with same | later
    · cases same
      exact ⟨w.issued, Nat.le_refl _, after.issued, rfl⟩
    · obtain ⟨n, fresh, drawn, name⟩ := ih _ later
      have step := Advances.serve c w
      exact ⟨n, Nat.le_trans step.issued fresh, drawn, step.idOf ▸ name⟩

theorem shown_of_now {α : Type} {p : Session α} {w : World} {t : Timestamp}
    (member : ⟨.now, t⟩ ∈ p.journal World.serve w) : t = w.clock := by
  induction p generalizing w with
  | done a => cases member
  | ask c next ih =>
    rcases List.mem_cons.mp member with same | later
    · cases same
      rfl
    · rw [ih _ later, World.serve_clock]

/-- How a session looks at a lock file that holds a lock or is absent. -/
def looks (path : String) : Option LockInfo → List (Exchange Machine)
  | none => [⟨.pathExists path, false⟩]
  | some info => [⟨.pathExists path, true⟩, ⟨.readFile path, some info.toText.toUTF8⟩]

theorem smooth_looks (path : String) (held? : Option LockInfo) : Smooth (looks path held?) := by
  cases held? <;> simp [looks, Smooth, Exchange.done]

/-- The machine when that was logged, if there was a lock. -/
def warned (held? : Option LockInfo) (w : World) : World :=
  match held? with
  | none => w
  | some info => (World.serve (.note (takingOver info)) w).2

section Calls

variable {path : String} {w : World} {held? : Option LockInfo} (shows : w.Shows path held?)
  (plain : ∀ info, held? = some info → info.Plain)

include shows plain

theorem onward_of_shows {α : Type} (absent : Session (Except Error α))
    (found : LockInfo → Session (Except Error α)) :
    onward path absent found w = held?.elim absent found := by
  rw [onward]
  cases held? with
  | none =>
    rw [if_neg (Bool.eq_false_iff.mp shows)]
    rfl
  | some info =>
    have reads : w.files.read? w.cwd path = some info.toText.toUTF8 := shows
    rw [if_pos (FileTree.pathExists_of_read? reads), reads, verdict_toText (plain info rfl)]
    rfl

theorem exec_read : (read path).run.exec World.serve w = (.ok held?, w) := by
  have split : (read path).run =
      afterReading path (.done (.ok none)) fun existing => .done (.ok (some existing)) := by
    rw [← bind_pure (read path), read_bind]
    rfl
  rw [split, exec_afterReading, onward_of_shows shows plain]
  cases held? <;> rfl

theorem exec_isLocked : (isLocked path).run.exec World.serve w =
    (.ok (held?.any fun info => !info.isExpired w.clock), w) := by
  rw [isLocked, read_bind, exec_afterReading, onward_of_shows shows plain]
  cases held? <;> rfl

theorem exec_acquire_refused {info : LockInfo} (held : held? = some info)
    (live : info.isExpired w.clock = false) (holder : String) :
    (acquire path holder).run.exec World.serve w =
      (.error (.state (.lockedByOther info.holder info.acquiredAt.text)), w) := by
  have asked : World.serve .now w = (w.clock, w) := rfl
  rw [acquire_eq, exec_afterReading, onward_of_shows shows plain, held, Option.elim, takeOver,
    exec_ask, asked]
  dsimp only
  rw [live]
  rfl

/-- A session that reads the file goes on with what is there. -/
theorem continues_shown {α : Type} (absent : Session (Except Error α))
    (found : LockInfo → Session (Except Error α)) :
    Continues World.serve (afterReading path absent found) w (looks path held?)
      (held?.elim absent found) w := by
  have split := journal_afterReading path absent found w
  rw [← List.cons_append, onward_of_shows shows plain] at split
  have exec := exec_afterReading path absent found w
  rw [onward_of_shows shows plain] at exec
  refine ⟨exec, split.trans (congrArg (· ++ _) ?_)⟩
  cases held? with
  | none =>
    rw [show w.files.pathExists w.cwd path = false from shows]
    rfl
  | some info =>
    have reads : w.files.read? w.cwd path = some info.toText.toUTF8 := shows
    rw [FileTree.pathExists_of_read? reads, if_pos rfl, reads]
    rfl

/-- A lock that is free is claimed after no more than a warning. -/
theorem continues_claim (free : ∀ info, held? = some info → info.isExpired w.clock = true)
    (holder : String) : ∃ calls, Smooth calls ∧
      Continues World.serve (acquire path holder).run w calls (claim path holder).run
        (warned held? w) := by
  have goes := continues_shown shows plain (claim path holder).run (takeOver path holder)
  rw [← acquire_eq] at goes
  cases held? with
  | none => exact ⟨_, smooth_looks path none, goes⟩
  | some info =>
    have asked : World.serve .now w = (w.clock, w) := rfl
    have warns := continues_takeOver asked (free info rfl) path holder
    refine ⟨_, smooth_append.mpr ⟨smooth_looks path _, ?_⟩, goes.trans warns⟩
    simp [Smooth, Exchange.done]

theorem exec_acquire_granted (free : ∀ info, held? = some info → info.isExpired w.clock = true)
    (holder : String) (smooth : Smooth ((acquire path holder).run.journal World.serve w)) :
    let after := (acquire path holder).run.exec World.serve w
    ∃ info, after.1 = .ok info ∧ after.2.Shows path (some info) ∧
      info.MadeOf ((acquire path holder).run.journal World.serve w) := by
  obtain ⟨calls, -, goes⟩ := continues_claim shows plain free holder
  rw [goes.journal] at smooth ⊢
  rw [goes.exec]
  obtain ⟨info, ok, reads, made⟩ :=
    exec_claims World.timed_serve (claims_claim path holder []) (smooth_append.mp smooth).2
  refine ⟨info, ok, reads, made.mono fun x member => ?_⟩
  rw [List.append_nil] at member
  exact List.mem_append_right calls member

theorem exec_release_other {lockId : String}
    (other : ∀ info, held? = some info → info.lockId ≠ lockId) :
    let after := (release path lockId).run.exec World.serve w
    after.1 = .ok () ∧ w.SameFiles after.2 := by
  have goes := continues_shown shows plain (.done (.ok ())) fun existing =>
    if existing.lockId = lockId then remove path lockId
    else .ask (.note (.debug .lock
      s!"Lock ID mismatch: expected {lockId}, found {existing.lockId}")) fun _ => .done (.ok ())
  rw [← release_eq] at goes
  rw [goes.exec]
  cases held? with
  | none => exact ⟨rfl, .refl w⟩
  | some info =>
    rw [Option.elim, if_neg (other info rfl)]
    exact ⟨rfl, rfl, rfl⟩

theorem exec_release_own (sound : w.files.Sound) {info : LockInfo} (held : held? = some info)
    (smooth : Smooth ((release path info.lockId).run.journal World.serve w)) :
    let after := (release path info.lockId).run.exec World.serve w
    after.1 = .ok () ∧ after.2.Lacks path := by
  have goes := continues_shown shows plain (.done (.ok ())) fun existing =>
    if existing.lockId = info.lockId then remove path info.lockId
    else .ask (.note (.debug .lock
      s!"Lock ID mismatch: expected {info.lockId}, found {existing.lockId}")) fun _ =>
        .done (.ok ())
  rw [← release_eq, held, Option.elim, if_pos rfl] at goes
  rw [goes.journal] at smooth
  rw [goes.exec]
  exact exec_remove World.timed_serve sound _ (smooth_append.mp smooth).2

end Calls

/-! ## Histories -/

/-- Every grant has a name of its own that was given out before. -/
structure Named (w : World) (marks : List Mark) : Prop where
  distinct : Function.Injective w.idOf
  plain : ∀ info, .granted info ∈ marks → info.Plain
  drawn : ∀ info, .granted info ∈ marks → ∃ n < w.issued, w.idOf n = info.lockId
  unique : ∀ info other, .granted info ∈ marks → .granted other ∈ marks →
    info.lockId = other.lockId → info = other

namespace Named

variable {w w' : World} {marks : List Mark}

theorem later (named : Named w marks) (idOf : w'.idOf = w.idOf) (issued : w.issued ≤ w'.issued) :
    Named w' marks where
  distinct := idOf ▸ named.distinct
  plain := named.plain
  drawn info member := by
    obtain ⟨n, drawn, name⟩ := named.drawn info member
    exact ⟨n, Nat.lt_of_lt_of_le drawn issued, idOf ▸ name⟩
  unique := named.unique

theorem released (named : Named w marks) (lockId : String) :
    Named w (.released lockId :: marks) := by
  have old : ∀ {info}, Mark.granted info ∈ .released lockId :: marks → .granted info ∈ marks := by
    intro info member
    simpa using member
  exact ⟨named.distinct, fun info member => named.plain info (old member),
    fun info member => named.drawn info (old member),
    fun info other first second => named.unique info other (old first) (old second)⟩

/-- A lock is granted under a new name. -/
theorem granted (named : Named w marks) {info : LockInfo} (plain : info.Plain)
    (idOf : w'.idOf = w.idOf) (issued : w.issued ≤ w'.issued)
    (drawn : ∃ n, w.issued ≤ n ∧ n < w'.issued ∧ w.idOf n = info.lockId) :
    Named w' (.granted info :: marks) := by
  obtain ⟨n, fresh, given, name⟩ := drawn
  have before := named.later idOf issued
  have new : ∀ other, .granted other ∈ marks → other.lockId ≠ info.lockId := by
    intro other member same
    obtain ⟨m, earlier, name'⟩ := named.drawn other member
    have equal : m = n := named.distinct (name'.trans (same.trans name.symm))
    omega
  have cases : ∀ {other}, Mark.granted other ∈ .granted info :: marks →
      other = info ∨ .granted other ∈ marks := by
    intro other member
    simpa using member
  refine ⟨before.distinct, fun other member => ?_, fun other member => ?_,
    fun first second member member' same => ?_⟩
  · rcases cases member with rfl | earlier
    · exact plain
    · exact before.plain other earlier
  · rcases cases member with rfl | earlier
    · exact ⟨n, given, idOf ▸ name⟩
    · exact before.drawn other earlier
  · rcases cases member with rfl | earlier <;> rcases cases member' with rfl | earlier'
    · rfl
    · exact absurd same.symm (new second earlier')
    · exact absurd same (new first earlier)
    · exact before.unique first second earlier earlier' same

end Named

/-- The lock file is in line with what is remembered. -/
structure Faithful (path : String) (c : Chronicle) : Prop where
  sound : c.world.files.Sound
  shows : c.world.Shows path (current? c.marks)
  named : Named c.world c.marks

namespace Faithful

variable {path : String} {c : Chronicle}

theorem start {w : World} (sound : w.files.Sound) (distinct : Function.Injective w.idOf)
    (absent : w.files.pathExists w.cwd path = false) : Faithful path ⟨w, []⟩ := by
  refine ⟨sound, absent, distinct, ?_, ?_, ?_⟩ <;> simp

/-- What is held is shown to each client, and can be read. -/
theorem visit (faithful : Faithful path c) (v : Visit) :
    (v.to c.world).Shows path (current? c.marks) ∧
      ∀ info, current? c.marks = some info → info.Plain := by
  refine ⟨?_, fun info current => faithful.named.plain info (granted_of_current current)⟩
  have shows := faithful.shows
  cases held : current? c.marks <;> rw [held] at shows <;> exact shows

/-- A call keeps the lock file in line. -/
theorem turn (faithful : Faithful path c) {t : Turn} (shown : t.time.Datable)
    (smooth : Smooth (t.journal path c.world)) : Faithful path (c.turn path t) := by
  obtain ⟨v, call⟩ := t
  obtain ⟨shows, plain⟩ := faithful.visit v
  let w := v.to c.world
  have advances : Advances w (Turn.exec path ⟨v, call⟩ c.world).2 := .exec _ _
  have sound : (Turn.exec path ⟨v, call⟩ c.world).2.files.Sound :=
    World.timed_serve.sound_exec _ faithful.sound
  have named := faithful.named.later advances.idOf advances.issued
  cases call with
  | acquire holder =>
    by_cases free : ∀ info, current? c.marks = some info → info.isExpired v.time = true
    · obtain ⟨info, ok, written, made⟩ := exec_acquire_granted shows plain free holder smooth
      rw [Chronicle.turn_eq c v (.acquire holder) (Prod.ext ok rfl)]
      refine ⟨sound, written, ?_⟩
      refine faithful.named.granted (made.plain fun t member => ?_) advances.idOf advances.issued
        (drawn_of_named made.named)
      rw [shown_of_now member]
      exact shown
    · simp only [not_forall, Bool.not_eq_true] at free
      obtain ⟨info, held, live⟩ := free
      have refused := exec_acquire_refused shows plain held live holder
      rw [Chronicle.turn_eq c v (.acquire holder) refused]
      exact ⟨faithful.sound, shows, faithful.named.later rfl (Nat.le_refl _)⟩
  | release lockId =>
    by_cases own : ∃ info, current? c.marks = some info ∧ info.lockId = lockId
    · have gone := current_released own
      obtain ⟨info, held, rfl⟩ := own
      obtain ⟨ok, lacks⟩ := exec_release_own shows plain faithful.sound held smooth
      rw [Chronicle.turn_eq c v (.release info.lockId) (Prod.ext ok rfl)]
      refine ⟨sound, ?_, named.released info.lockId⟩
      change World.Shows path _ (current? (.released info.lockId :: c.marks))
      rw [gone]
      exact lacks.path
    · simp only [not_exists, not_and] at own
      obtain ⟨ok, same⟩ := exec_release_other shows plain own
      rw [Chronicle.turn_eq c v (.release lockId) (Prod.ext ok rfl)]
      refine ⟨sound, ?_, named.released lockId⟩
      change World.Shows path _ (current? (.released lockId :: c.marks))
      rw [current_kept own]
      exact same.shows shows
  | isLocked =>
    rw [Chronicle.turn_eq c v .isLocked (exec_isLocked shows plain)]
    exact ⟨faithful.sound, shows, faithful.named.later rfl (Nat.le_refl _)⟩
  | read =>
    rw [Chronicle.turn_eq c v .read (exec_read shows plain)]
    exact ⟨faithful.sound, shows, faithful.named.later rfl (Nat.le_refl _)⟩

theorem run (faithful : Faithful path c) {ts : List Turn} (shown : ∀ t ∈ ts, t.time.Datable)
    (smooth : c.Unhindered path ts) : Faithful path (c.run path ts) := by
  induction ts generalizing c with
  | nil => exact faithful
  | cons t ts ih =>
    obtain ⟨first, rest⟩ := List.forall_mem_cons.mp shown
    exact ih (faithful.turn first smooth.1) rest smooth.2

end Faithful

/-- How calls end for a client, when the file holds a lock or is absent. A call leaves all files
alone that is not granted or releases nothing. -/
structure Governs (path : String) (w : World) (held? : Option LockInfo) : Prop where
  granted : ∀ holder, Smooth ((acquire path holder).run.journal World.serve w) →
    ((∃ info, ((acquire path holder).run.exec World.serve w).1 = .ok info) ↔
      ∀ info, held? = some info → info.expiresAt.before w.clock = true)
  refused : ∀ holder info, held? = some info → info.expiresAt.before w.clock = false →
    let after := (acquire path holder).run.exec World.serve w
    after.1 = .error (.state (.lockedByOther info.holder info.acquiredAt.text)) ∧
      w.SameFiles after.2
  passed : ∀ lockId, (∀ info, held? = some info → info.lockId ≠ lockId) →
    let after := (release path lockId).run.exec World.serve w
    after.1 = .ok () ∧ w.SameFiles after.2
  locked : ∀ holder, Smooth ((acquire path holder).run.journal World.serve w) →
    ∃ b, (isLocked path).run.exec World.serve w = (.ok b, w) ∧
      (b = true ↔ ∃ e, ((acquire path holder).run.exec World.serve w).1 = .error e)
  read : (read path).run.exec World.serve w = (.ok held?, w)

theorem governs_of_shows {path : String} {w : World} {held? : Option LockInfo}
    (shows : w.Shows path held?) (plain : ∀ info, held? = some info → info.Plain) :
    Governs path w held? where
  granted holder smooth := by
    constructor
    · rintro ⟨info, ok⟩ other held
      by_contra live
      rw [exec_acquire_refused shows plain held (Bool.eq_false_iff.mpr live)] at ok
      cases ok
    · intro free
      obtain ⟨info, ok, -⟩ := exec_acquire_granted shows plain free holder smooth
      exact ⟨info, ok⟩
  refused holder info held live := by
    have refused := exec_acquire_refused shows plain held live holder
    exact ⟨congrArg Prod.fst refused, by rw [refused]; exact .refl w⟩
  passed lockId other := exec_release_other shows plain other
  locked holder smooth := by
    refine ⟨_, exec_isLocked shows plain, ?_⟩
    rw [Option.any_eq_true]
    constructor
    · rintro ⟨info, held, live⟩
      rw [Bool.not_eq_true'] at live
      exact ⟨_, congrArg Prod.fst (exec_acquire_refused shows plain held live holder)⟩
    · rintro ⟨e, failed⟩
      -- It would have been granted if nothing were in the way.
      by_contra free
      simp only [not_exists, not_and, Bool.not_eq_true', Bool.not_eq_false] at free
      obtain ⟨info, ok, -⟩ := exec_acquire_granted shows plain free holder smooth
      rw [ok] at failed
      cases failed
  read := exec_read shows plain

/--
Clients have called on a lock file that was not there at first, in any order and at any times, and
no file step has failed. The file holds exactly the lock that was granted last, unless it was
released since; then the file is absent. A further call acquires the lock just if the file is absent
or the lock in it has expired, and fails with the holder otherwise. Releasing any other lock changes
nothing; so it is with each lock that was granted and then taken over. The lock counts as held just
if it could not be acquired.
-/
theorem history_governs {path : String} {w : World} (sound : w.files.Sound)
    (distinct : Function.Injective w.idOf) (absent : w.files.pathExists w.cwd path = false)
    {ts : List Turn} (shown : ∀ t ∈ ts, t.time.Datable)
    (smooth : Chronicle.Unhindered path ⟨w, []⟩ ts) :
    let c := Chronicle.run path ⟨w, []⟩ ts
    c.world.Shows path (current? c.marks) ∧
      (∀ v : Visit, Governs path (v.to c.world) (current? c.marks)) ∧
      ∀ (v : Visit) (info : LockInfo), .granted info ∈ c.marks → current? c.marks ≠ some info →
        let after := (release path info.lockId).run.exec World.serve (v.to c.world)
        after.1 = .ok () ∧ c.world.SameFiles after.2 := by
  intro c
  have faithful : Faithful path c := (Faithful.start sound distinct absent).run shown smooth
  refine ⟨faithful.shows, fun v => ?_, fun v info granted former => ?_⟩
  · obtain ⟨shows, plain⟩ := faithful.visit v
    exact governs_of_shows shows plain
  · obtain ⟨shows, plain⟩ := faithful.visit v
    have other : ∀ held, current? c.marks = some held → held.lockId ≠ info.lockId := by
      intro held current same
      have equal := faithful.named.unique held info (granted_of_current current) granted same
      exact former (equal ▸ current)
    obtain ⟨ok, same⟩ := exec_release_other shows plain other
    exact ⟨ok, same.cwd, same.files⟩

theorem eq_ok_of_toOption {ε α : Type} {r : Except ε α} {a : α} (known : r.toOption = some a) :
    r = .ok a := by
  cases r with
  | ok b => exact congrArg Except.ok (Option.some.inj known)
  | error e => cases known

/-- A lock has expired and another client has taken it over. When the first one releases it after
all, the second one keeps its lock. -/
theorem history_governs_of_takeover :
    let path := "c.lock"
    let w : World := { World.bare with idOf := fun n => String.ofList (.replicate n 'i') }
    let first : LockInfo := ⟨"", "a", "x", 1, ⟨0, 0⟩, ⟨300, 0⟩⟩
    let second : LockInfo := ⟨"i", "b", "y", 2, ⟨301, 0⟩, ⟨601, 0⟩⟩
    let ts : List Turn :=
      [⟨⟨⟨0, 0⟩, "x", 1⟩, .acquire "a"⟩, ⟨⟨⟨301, 0⟩, "y", 2⟩, .acquire "b"⟩]
    let c := Chronicle.run path ⟨w, []⟩ ts
    Chronicle.Unhindered path ⟨w, []⟩ ts ∧ c.world.Shows path (some second) ∧
      ∀ v : Visit, let after := (release path first.lockId).run.exec World.serve (v.to c.world)
        after.1 = .ok () ∧ c.world.SameFiles after.2 := by
  intro path w first second ts c
  have distinct : Function.Injective w.idOf := by
    intro n m same
    have lengths := congrArg (fun s : String => s.toList.length) same
    simpa [w] using lengths
  have shown : ∀ t ∈ ts, t.time.Datable := by
    simp only [ts, List.forall_mem_cons]
    exact ⟨by decide +kernel, by decide +kernel, nofun⟩
  have sound : w.files.Sound := World.sound_bare
  have absent : w.files.pathExists w.cwd path = false := by decide +kernel
  let v₁ : Visit := ⟨⟨0, 0⟩, "x", 1⟩
  let v₂ : Visit := ⟨⟨301, 0⟩, "y", 2⟩
  have smooth₁ : Smooth (Turn.journal path ⟨v₁, .acquire "a"⟩ w) := by
    rw [Smooth]
    decide +kernel
  let w₁ := ((acquire path "a").run.exec World.serve (v₁.to w)).2
  have turned₁ : Chronicle.turn path ⟨w, []⟩ ⟨v₁, .acquire "a"⟩ = ⟨w₁, [.granted first]⟩ :=
    Chronicle.turn_eq ⟨w, []⟩ v₁ (.acquire "a")
      (Prod.ext (eq_ok_of_toOption (by decide +kernel)) rfl)
  have faithful : Faithful path ⟨w₁, [.granted first]⟩ := by
    rw [← turned₁]
    exact (Faithful.start sound distinct absent).turn (shown _ List.mem_cons_self) smooth₁
  -- The second call reads the lock of the first one, which cannot be done by computing.
  obtain ⟨shows, plain⟩ := faithful.visit v₂
  have free : ∀ info, some first = some info → info.isExpired v₂.time = true := by
    intro info same
    rw [← Option.some.inj same]
    decide +kernel
  obtain ⟨calls, looked, goes⟩ := continues_claim shows plain free "b"
  have smooth₂ : Smooth (Turn.journal path ⟨v₂, .acquire "b"⟩ w₁) := by
    refine (congrArg Smooth goes.journal).mpr (smooth_append.mpr ⟨looked, ?_⟩)
    rw [Smooth]
    decide +kernel
  let w₂ := ((acquire path "b").run.exec World.serve (v₂.to w₁)).2
  have granted : ((acquire path "b").run.exec World.serve (v₂.to w₁)).1 = .ok second := by
    refine (congrArg Prod.fst goes.exec).trans (eq_ok_of_toOption ?_)
    decide +kernel
  have turned₂ : Chronicle.turn path ⟨w₁, [.granted first]⟩ ⟨v₂, .acquire "b"⟩ =
      ⟨w₂, [.granted second, .granted first]⟩ :=
    Chronicle.turn_eq ⟨w₁, [.granted first]⟩ v₂ (.acquire "b") (Prod.ext granted rfl)
  have ended : c = ⟨w₂, [.granted second, .granted first]⟩ := by
    rw [← turned₂, ← turned₁]
    rfl
  have smooth : Chronicle.Unhindered path ⟨w, []⟩ ts := by
    refine ⟨smooth₁, ?_⟩
    rw [turned₁]
    exact ⟨smooth₂, trivial⟩
  obtain ⟨shows, -, former⟩ := history_governs sound distinct absent shown smooth
  change c.world.Shows path (current? c.marks) at shows
  refine ⟨smooth, ?_, fun v => ?_⟩
  · rw [ended] at shows ⊢
    exact shows
  · refine former v first ?_ ?_
    · change Mark.granted first ∈ c.marks
      rw [ended]
      simp
    · change current? c.marks ≠ some first
      rw [ended]
      decide +kernel

end Lock

end ClusterConf
