import ClusterConf.Proofs.LockSteps
import Mathlib.Logic.Function.Basic
set_option autoImplicit false

/-!
Processes that contend for one lock. Reading the lock file, writing a lock to it and removing it are
their steps, and other processes may come in between. Main statement: at most one process holds a
lock that has not expired, as long as nobody writes or removes the lock file after it has changed
since he read it; a process that does so can break the lock of another one.
-/
namespace ClusterConf

open Program

/-! ## Steps of a session -/

namespace Session

/-- Whether a call belongs to the same step as the call before it. What is logged of a step belongs
to that step. -/
def joined : MachineCall → MachineCall → Bool
  | .pathExists _, .readFile _ => true
  | .createDirectories _, .createFile _ => true
  | .createFile _, .appendFile _ _ => true
  | .appendFile _ _, .syncFile _ => true
  | _, .note _ => true
  | _, _ => false

variable {α : Type}

/-- Finishes the step that a call belongs to. -/
def settle : Session α → MachineCall → World → Session α × World
  | .done a, _, w => (.done a, w)
  | .ask c next, last, w =>
    if joined last c then settle (next (World.serve c w).1) c (World.serve c w).2
    else (.ask c next, w)

/-- The next step of a session, and what is left of it then. -/
def turn : Session α → World → Session α × World
  | .done a, w => (.done a, w)
  | .ask c next, w => settle (next (World.serve c w).1) c (World.serve c w).2

section Induction

variable {R : World → World → Prop} (refl : ∀ w, R w w)
  (trans : ∀ {w w' w''}, R w w' → R w' w'' → R w w'')
  (serve : ∀ (c : MachineCall) w, R w (World.serve c w).2)

include refl trans serve

/-- What each call does to a machine, the rest of a step does. -/
theorem settle_induction (p : Session α) (last : MachineCall) (w : World) :
    R w (settle p last w).2 := by
  induction p generalizing last w with
  | done a => exact refl w
  | ask c next ih =>
    rw [settle]
    split
    · exact trans (serve c w) (ih _ c _)
    · exact refl w

theorem turn_induction (p : Session α) (w : World) : R w (turn p w).2 := by
  cases p with
  | done a => exact refl w
  | ask c next => exact trans (serve c w) (settle_induction refl trans serve _ c _)

end Induction

end Session

/-! ## Processes and their contest -/

namespace Lock

/-- How far a process has come with a lock. -/
inductive Locker where
  | acquiring (rest : Session (Except Error LockInfo))
  /-- It has acquired a lock, and not released it to the end. -/
  | holding (info : LockInfo) (rest : Session (Except Error Unit))
  | finished

namespace Locker

def next? : Locker → Option MachineCall
  | acquiring (.ask c _) | holding _ (.ask c _) => some c
  | _ => none

def lock? : Locker → Option LockInfo
  | holding info _ => some info
  | _ => none

/-- Whether a process is about to read the lock file. -/
def reads (l : Locker) : Bool :=
  match l.next? with
  | some (.pathExists _) => true
  | _ => false

/-- Whether a process is about to write or remove the lock file. -/
def changes (l : Locker) : Bool :=
  match l.next? with
  | some (.createDirectories _) | some (.createFile _) | some (.removeFile _) => true
  | _ => false

/-- A process that has come so far with acquiring a lock. -/
def acquired (path : String) : Session (Except Error LockInfo) → Locker
  | .done (.ok info) => holding info (release path info.lockId).run
  | .done (.error _) => finished
  | rest => acquiring rest

/-- A process that has come so far with releasing its lock. -/
def released (info : LockInfo) : Session (Except Error Unit) → Locker
  | .done _ => finished
  | rest => holding info rest

def turn (path : String) (w : World) : Locker → Locker × World
  | acquiring rest => (acquired path (rest.turn w).1, (rest.turn w).2)
  | holding info rest => (released info (rest.turn w).1, (rest.turn w).2)
  | finished => (finished, w)

end Locker

/-- Processes on one machine, with what each of them has found in the lock file when it last read
it. -/
structure Contest (ι : Type) where
  world : World
  locker : ι → Locker
  seen : ι → Option ByteArray

inductive Move (ι : Type) where
  | turn (i : ι)
  | wait (t : Timestamp)

namespace Contest

variable {ι : Type}

def content (path : String) (c : Contest ι) : Option ByteArray :=
  c.world.files.read? c.world.cwd path

/-- All processes are about to acquire the lock. -/
def start (path : String) (holder : ι → String) (w : World) : Contest ι where
  world := w
  locker i := .acquiring (acquire path (holder i)).run
  seen _ := none

variable [DecidableEq ι]

def turn (path : String) (c : Contest ι) (i : ι) : Contest ι where
  world := ((c.locker i).turn path c.world).2
  locker := Function.update c.locker i ((c.locker i).turn path c.world).1
  seen :=
    if (c.locker i).reads then Function.update c.seen i (c.content path) else c.seen

def move (path : String) (c : Contest ι) : Move ι → Contest ι
  | .turn i => c.turn path i
  | .wait t => { c with world := { c.world with clock := t } }

/-- What happens one after the other. -/
def run (path : String) (c : Contest ι) (moves : List (Move ι)) : Contest ι :=
  moves.foldl (move path) c

/-- A process writes or removes the lock file only while this is as the process has read it, and
time does not go back. -/
def Allows (path : String) (c : Contest ι) : Move ι → Prop
  | .turn i => (c.locker i).changes = true → c.content path = c.seen i
  | .wait t => t.before c.world.clock = false ∧ t.Datable

instance (path : String) (c : Contest ι) (m : Move ι) : Decidable (c.Allows path m) :=
  match m with
  | .turn i => inferInstanceAs
    (Decidable ((c.locker i).changes = true → c.content path = c.seen i))
  | .wait t => inferInstanceAs (Decidable (t.before c.world.clock = false ∧ t.Datable))

/-- Each move is allowed when it is made. -/
def Mindful (path : String) (c : Contest ι) : List (Move ι) → Prop
  | [] => True
  | m :: ms => c.Allows path m ∧ Mindful path (c.move path m) ms

instance decidableMindful (path : String) : (c : Contest ι) → (ms : List (Move ι)) →
    Decidable (c.Mindful path ms)
  | _, [] => .isTrue trivial
  | c, m :: ms =>
    have := decidableMindful path (c.move path m) ms
    inferInstanceAs (Decidable (c.Allows path m ∧ Mindful path (c.move path m) ms))

/-- Whether a process holds a lock that has not expired. -/
def holdsLive (c : Contest ι) (i : ι) : Bool :=
  (c.locker i).lock?.any fun info => !info.isExpired c.world.clock

omit [DecidableEq ι] in
theorem holdsLive_iff {c : Contest ι} {i : ι} : c.holdsLive i = true ↔
    ∃ info, (c.locker i).lock? = some info ∧ info.isExpired c.world.clock = false := by
  simp [holdsLive, Option.any_eq_true]

end Contest

/-! ## What a process knows -/

/-- What was answered to a process whose names have these numbers. -/
structure Told (w : World) (mine : Nat → Prop) (answers : List (Exchange Machine)) : Prop where
  named : ∀ id, ⟨.freshId, id⟩ ∈ answers → ∃ n < w.issued, mine n ∧ w.idOf n = id
  shown : ∀ t, ⟨.now, t⟩ ∈ answers → t.Datable

/-- A process that has found no lock, or one that has expired, may write its own. -/
def Permit (now : Timestamp) (seen : Option ByteArray) : Prop :=
  seen = none ∨ ∃ existing, verdict seen = .ok existing ∧ existing.isExpired now = true

/-- How a process has come to where it is. -/
inductive Course (path : String) (w : World) (mine : Nat → Prop) (seen : Option ByteArray) :
    Locker → Prop
  | starts (holder : String) : Course path w mine seen (.acquiring (acquire path holder).run)
  | weighs (holder : String) {existing : LockInfo} (found : verdict seen = .ok existing) :
      Course path w mine seen (.acquiring (takeOver path holder existing))
  | claims {answers : List (Exchange Machine)} {p : Session (Except Error LockInfo)}
      (claims : Claims path answers p) (told : Told w mine answers) (permit : Permit w.clock seen) :
      Course path w mine seen (.acquiring p)
  | holds {info : LockInfo} (plain : info.Plain)
      (named : ∃ n < w.issued, mine n ∧ w.idOf n = info.lockId) :
      Course path w mine seen (.holding info (release path info.lockId).run)
  | removes {info existing : LockInfo} (plain : info.Plain)
      (named : ∃ n < w.issued, mine n ∧ w.idOf n = info.lockId)
      (found : verdict seen = .ok existing) (own : existing.lockId = info.lockId) :
      Course path w mine seen (.holding info (remove path info.lockId))
  | finished : Course path w mine seen .finished

/-- A machine at a later moment. -/
structure Advances (w w' : World) : Prop where
  clock : w'.clock.before w.clock = false
  idOf : w'.idOf = w.idOf
  issued : w.issued ≤ w'.issued

namespace Advances

variable {w w' w'' : World}

theorem refl (w : World) : Advances w w := ⟨Timestamp.before_self _, rfl, Nat.le_refl _⟩

theorem trans (first : Advances w w') (second : Advances w' w'') : Advances w w'' where
  clock := Timestamp.not_before_trans second.clock first.clock
  idOf := second.idOf.trans first.idOf
  issued := Nat.le_trans first.issued second.issued

theorem serve (c : MachineCall) (w : World) : Advances w (World.serve c w).2 := by
  have changed : ∀ files? : Option FileTree, Advances w (w.change files?).2 := by
    intro files?
    cases files? <;> exact ⟨Timestamp.before_self _, rfl, Nat.le_refl _⟩
  cases c with
  | createFile path => exact changed _
  | appendFile path text => exact changed _
  | rename source target => exact changed _
  | removeFile path => exact changed _
  | freshId => exact ⟨Timestamp.before_self _, rfl, Nat.le_succ _⟩
  | _ => exact ⟨Timestamp.before_self _, rfl, Nat.le_refl _⟩

theorem settle {α : Type} (p : Session α) (last : MachineCall) (w : World) :
    Advances w (Session.settle p last w).2 :=
  Session.settle_induction refl trans serve p last w

theorem turn {α : Type} (p : Session α) (w : World) : Advances w (Session.turn p w).2 :=
  Session.turn_induction refl trans serve p w

end Advances

/-- The numbers of names that a process has, and those it has later. -/
structure Gains (w : World) (mine mine' : Nat → Prop) : Prop where
  old : ∀ n < w.issued, mine n → mine' n
  new : ∀ n, w.issued ≤ n → mine' n

section Later

variable {path : String} {w w' : World} {mine mine' : Nat → Prop}

theorem Told.nil (w : World) (mine : Nat → Prop) : Told w mine [] where
  named _ member := absurd member List.not_mem_nil
  shown _ member := absurd member List.not_mem_nil

theorem Told.later {answers : List (Exchange Machine)} (told : Told w mine answers)
    (advances : Advances w w') (old : ∀ n < w.issued, mine n → mine' n) :
    Told w' mine' answers where
  named id member := by
    obtain ⟨n, drawn, own, name⟩ := told.named id member
    exact ⟨n, Nat.lt_of_lt_of_le drawn advances.issued, old n drawn own,
      advances.idOf ▸ name⟩
  shown := told.shown

theorem Told.serve {answers : List (Exchange Machine)} {c : MachineCall}
    (told : Told w mine answers) (shown : w.clock.Datable) (gains : Gains w mine mine') :
    Told (World.serve c w).2 mine' (⟨c, (World.serve c w).1⟩ :: answers) where
  named id member := by
    rcases List.mem_cons.mp member with same | earlier
    · cases same
      exact ⟨w.issued, Nat.lt_succ_self _, gains.new _ (Nat.le_refl _), rfl⟩
    · exact (told.later (.serve c w) gains.old).named id earlier
  shown t member := by
    rcases List.mem_cons.mp member with same | earlier
    · cases same
      exact shown
    · exact told.shown t earlier

theorem Permit.later {now later : Timestamp} {seen : Option ByteArray} (permit : Permit now seen)
    (not_before : later.before now = false) : Permit later seen := by
  rcases permit with none | ⟨existing, found, expired⟩
  · exact .inl none
  · exact .inr ⟨existing, found, Timestamp.before_later expired not_before⟩

theorem Course.later {seen : Option ByteArray} {l : Locker} (course : Course path w mine seen l)
    (advances : Advances w w') (old : ∀ n < w.issued, mine n → mine' n) :
    Course path w' mine' seen l := by
  have kept : ∀ {info : LockInfo}, (∃ n < w.issued, mine n ∧ w.idOf n = info.lockId) →
      ∃ n < w'.issued, mine' n ∧ w'.idOf n = info.lockId := by
    rintro info ⟨n, drawn, own, name⟩
    exact ⟨n, Nat.lt_of_lt_of_le drawn advances.issued, old n drawn own, advances.idOf ▸ name⟩
  cases course with
  | starts holder => exact .starts holder
  | weighs holder found => exact .weighs holder found
  | claims claims told permit =>
    exact .claims claims (told.later advances old) (permit.later advances.clock)
  | holds plain named => exact .holds plain (kept named)
  | removes plain named found own => exact .removes plain (kept named) found own
  | finished => exact .finished

end Later

/-! ## What a step does -/

theorem joined_leaves {last c : MachineCall} (leaves : last.LeavesFiles)
    (changes : ¬ c.LeavesFiles) : Session.joined last c = false := by
  unfold Session.joined
  split
  case h_6 => rfl
  all_goals first | exact absurd leaves id | exact absurd trivial changes

theorem joined_quiet {last c : MachineCall} (quiet : c.isQuiet = true)
    (joined : Session.joined last c = true) : ∃ event, c = .note event := by
  unfold Session.joined at joined
  split at joined
  case h_5 event => exact ⟨event, rfl⟩
  all_goals first | cases quiet | cases joined

theorem joined_note (last : MachineCall) (event : Event) :
    Session.joined last (.note event) = true := by
  cases last <;> rfl

/-- A session comes to its end within a step. -/
def Settles {α : Type} (p : Session α) (last : MachineCall) : Prop :=
  ∀ w, Session.settle p last w =
    (.done (p.exec World.serve w).1, (p.exec World.serve w).2)

namespace Settles

theorem done {α : Type} (a : α) (last : MachineCall) : Settles (.done a) last := fun _ => rfl

theorem ask {α : Type} {c last : MachineCall} {next : c.Answer → Session α}
    (joined : Session.joined last c = true) (rest : ∀ answer, Settles (next answer) c) :
    Settles (.ask c next) last := by
  intro w
  rw [Session.settle, if_pos joined, rest, exec_ask]

theorem turn {α : Type} {c : MachineCall} {next : c.Answer → Session α}
    {p : Session α} (asks : p = .ask c next) (rest : ∀ answer, Settles (next answer) c)
    (w : World) : p.turn w = (.done (p.exec World.serve w).1, (p.exec World.serve w).2) := by
  rw [asks, Session.turn, rest, exec_ask]

end Settles

/-- Once the lock file is made it is written in the same step. -/
theorem settles_made (path : String) (info : LockInfo) (made : Bool) :
    Settles (if made then filling path info else refused .create) (.createFile path) := by
  cases made with
  | false => exact .done _ _
  | true =>
    refine .ask rfl fun written => ?_
    cases written with
    | false => exact .done _ _
    | true =>
      refine .ask rfl fun synced => ?_
      cases synced with
      | false => exact .done _ _
      | true => exact .ask rfl fun _ => .done _ _

theorem turn_claiming (path : String) (info : LockInfo) (w : World) :
    (claiming path info).turn w = (.done ((claiming path info).exec World.serve w).1,
      ((claiming path info).exec World.serve w).2) := by
  rw [claiming]
  cases Path.properParent? path with
  | none => exact Settles.turn rfl (settles_made path info) w
  | some parent =>
    refine Settles.turn rfl (fun made => ?_) w
    cases made with
    | false => exact .done _ _
    | true => exact .ask rfl (settles_made path info)

theorem turn_takeOver (path holder : String) (existing : LockInfo) (w : World) :
    ∃ event e, (takeOver path holder existing).turn w =
      if existing.isExpired w.clock then
        Session.settle (claim path holder).run (.note event) (World.serve (.note event) w).2
      else (.done (.error e), w) := by
  let event : Event := .warn .lock s!"Expired lock held by {existing.holder} found, taking over"
  let e : Error := .state (.lockedByOther existing.holder existing.acquiredAt.text)
  have settled : ∀ expired : Bool,
      Session.settle (if expired then .ask (.note event) fun _ => (claim path holder).run
        else .done (.error e)) .now w =
      if expired then
        Session.settle (claim path holder).run (.note event) (World.serve (.note event) w).2
      else (.done (.error e), w) := by
    intro expired
    cases expired <;> rfl
  exact ⟨event, e, settled (existing.isExpired w.clock)⟩

theorem turn_remove (path lockId : String) (w : World) : ∃ r u,
    (remove path lockId).turn w = (.done r, u) := by
  refine ⟨_, _, Settles.turn rfl (fun removed => ?_) w⟩
  cases removed with
  | false => exact .done _ _
  | true => exact .ask rfl fun _ => .done _ _

theorem settle_apart {α : Type} {c last : MachineCall} {next : c.Answer → Session α} {w : World}
    (apart : Session.joined last c = false) :
    Session.settle (.ask c next) last w = (.ask c next, w) := by
  rw [Session.settle, apart]
  rfl

/-- What a session goes on with that has read the lock file, if its next call is another step. -/
theorem turn_afterReading {α : Type} (path : String) (absent : Session (Except Error α))
    (found : LockInfo → Session (Except Error α)) (w : World) :
    ∃ last, last.LeavesFiles ∧ (afterReading path absent found).turn w =
      Session.settle (onward path absent found w) last w := by
  rw [afterReading, onward, Session.turn]
  cases there : w.files.pathExists w.cwd path with
  | false => exact ⟨.pathExists path, trivial, by simp only [World.serve, there]; rfl⟩
  | true => exact ⟨.readFile path, trivial, by simp only [World.serve, there]; rfl⟩

/-- The first call of writing a lock changes the files. -/
theorem claiming_asks (path : String) (info : LockInfo) :
    ∃ c next, claiming path info = .ask c next ∧ ¬ c.LeavesFiles := by
  rw [claiming]
  cases Path.properParent? path with
  | none => exact ⟨_, _, rfl, id⟩
  | some parent => exact ⟨_, _, rfl, id⟩

section Claims

variable {path : String} {answers : List (Exchange Machine)}
  {p : Session (Except Error LockInfo)} {mine : Nat → Prop}

theorem acquired_claims (claims : Claims path answers p) :
    Locker.acquired path p = .acquiring p ∧ (Locker.acquiring p).reads = false := by
  cases claims with
  | @asks _ c next quiet _ => cases c <;> first | exact ⟨rfl, rfl⟩ | cases quiet
  | @writes _ info _ =>
    obtain ⟨c, next, asks, changes⟩ := claiming_asks path info
    rw [asks]
    cases c <;> first | exact ⟨rfl, rfl⟩ | exact absurd trivial changes

/-- A process that claims a lock stays at that until it writes. -/
theorem settle_claims (claims : Claims path answers p) {last : MachineCall}
    (leaves : last.LeavesFiles) {w : World} (told : Told w mine answers) :
    ∃ answers', Claims path answers' (Session.settle p last w).1 ∧
      Told (Session.settle p last w).2 mine answers' ∧
      w.SameFiles (Session.settle p last w).2 := by
  induction claims generalizing last w with
  | @asks answers c next quiet rest ih =>
    rw [Session.settle]
    split
    · rename_i joined
      obtain ⟨event, rfl⟩ := joined_quiet quiet joined
      have later : Told (World.serve (.note event) w).2 mine (⟨.note event, ()⟩ :: answers) := by
        have kept := told.later (.serve (.note event) w) fun _ _ own => own
        constructor
        · intro id member
          exact kept.named id ((List.mem_cons.mp member).resolve_left (by simp))
        · intro t member
          exact kept.shown t ((List.mem_cons.mp member).resolve_left (by simp))
      have leaves : (MachineCall.note event).LeavesFiles := trivial
      obtain ⟨answers', claims, told, same⟩ := ih () leaves later
      exact ⟨answers', claims, told, (World.sameFiles_serve leaves w).trans same⟩
    · exact ⟨answers, .asks quiet rest, told, .refl w⟩
  | @writes answers info made =>
    obtain ⟨c, next, asks, changes⟩ := claiming_asks path info
    have claims : Claims path answers (claiming path info) := .writes made
    rw [asks] at claims ⊢
    rw [settle_apart (joined_leaves leaves changes)]
    exact ⟨answers, claims, told, .refl w⟩

end Claims

/-- What a step of a process does: it leaves the files alone, it writes a lock where it may, or it
removes its own lock. -/
inductive Turned (path : String) (w w' : World) (mine' : Nat → Prop)
    (seen seen' : Option ByteArray) (l l' : Locker) : Prop
  | looks (same : w.SameFiles w') (course : Course path w' mine' seen' l')
      (kept : l'.lock? = none ∨ l'.lock? = l.lock?)
  | writes (changes : l.changes = true) (permit : Permit w.clock seen)
      (course : Course path w' mine' seen' l')
      (written : ∀ info, l'.lock? = some info →
        w'.files.read? w'.cwd path = some info.toText.toUTF8)
  | removes (changes : l.changes = true) {info existing : LockInfo}
      (held : l.lock? = some info) (found : verdict seen = .ok existing)
      (own : existing.lockId = info.lockId) (ended : l' = .finished)

section Turns

variable {path : String} {w : World} {mine mine' : Nat → Prop} {seen : Option ByteArray}
  (shown : w.clock.Datable) (gains : Gains w mine mine')

include shown gains

theorem turned_claims {answers : List (Exchange Machine)} {p : Session (Except Error LockInfo)}
    (claims : Claims path answers p) (told : Told w mine answers) (permit : Permit w.clock seen) :
    Turned path w (p.turn w).2 mine' seen seen (.acquiring p)
      (Locker.acquired path (p.turn w).1) := by
  cases claims with
  | @asks _ c next quiet rest =>
    have leaves := MachineCall.leavesFiles_of_quiet quiet
    have told := told.serve (c := c) shown gains
    obtain ⟨answers', claims, told, same⟩ := settle_claims (rest _) leaves told
    have advances := Advances.turn (.ask c next) w
    rw [Session.turn] at advances ⊢
    rw [(acquired_claims claims).1]
    exact .looks ((World.sameFiles_serve leaves w).trans same)
      (.claims claims told (permit.later advances.clock)) (.inl rfl)
  | @writes _ info made =>
    have changes : (Locker.acquiring (claiming path info)).changes = true := by
      rw [claiming]
      cases Path.properParent? path <;> rfl
    have advances := Advances.turn (claiming path info) w
    rcases done : (claiming path info).exec World.serve w with ⟨result, w'⟩
    have turned : (claiming path info).turn w = (.done result, w') := by rw [turn_claiming, done]
    rw [turned] at advances ⊢
    cases result with
    | error e => exact .writes changes permit .finished fun _ held => by cases held
    | ok got =>
      obtain ⟨rfl, reads⟩ := exec_claiming World.timed_serve done
      obtain ⟨n, drawn, own, name⟩ := told.named _ made.named
      refine .writes changes permit (.holds (made.plain told.shown)
        ⟨n, Nat.lt_of_lt_of_le drawn advances.issued, gains.old n drawn own,
          advances.idOf ▸ name⟩) ?_
      intro info held
      rw [← Option.some.inj held]
      exact reads

omit shown gains in
/-- After reading, a process that may claim a lock has done nothing to the files. -/
theorem turned_claim {holder : String} {l : Locker} {w' : World} {seen' : Option ByteArray}
    (same : w.SameFiles w') {last : MachineCall} (leaves : last.LeavesFiles)
    (permit : Permit w'.clock seen') :
    let after := Session.settle (claim path holder).run last w'
    Turned path w after.2 mine' seen seen' l (Locker.acquired path after.1) := by
  intro after
  obtain ⟨answers, claims, told, kept⟩ :=
    settle_claims (claims_claim path holder []) leaves (Told.nil w' mine')
  rw [(acquired_claims claims).1]
  exact .looks (same.trans kept)
    (.claims claims told (permit.later (Advances.settle _ last w').clock)) (.inl rfl)

omit shown gains in
/-- The first step of acquiring a lock reads the lock file. -/
theorem turned_acquire (holder : String) :
    Turned path w ((acquire path holder).run.turn w).2 mine' seen (w.files.read? w.cwd path)
      (.acquiring (acquire path holder).run)
      (Locker.acquired path ((acquire path holder).run.turn w).1) := by
  rw [acquire_eq]
  obtain ⟨last, leaves, turned⟩ :=
    turn_afterReading path (claim path holder).run (takeOver path holder) w
  rw [turned, onward]
  cases there : w.files.pathExists w.cwd path with
  | false =>
    have none : w.files.read? w.cwd path = none := by
      rw [Option.eq_none_iff_forall_ne_some]
      intro content reads
      rw [FileTree.pathExists_of_read? reads] at there
      cases there
    exact turned_claim (.refl w) leaves (.inl none)
  | true =>
    simp only [if_true]
    cases found : verdict (w.files.read? w.cwd path) with
    | error e => exact .looks (.refl w) .finished (.inl rfl)
    | ok existing =>
      have apart : Session.joined last .now = false := by cases last <;> rfl
      have stays : Session.settle (takeOver path holder existing) last w =
        (takeOver path holder existing, w) := settle_apart apart
      simp only [stays]
      exact .looks (.refl w) (.weighs holder found) (.inl rfl)

omit shown in
/-- The first step of releasing a lock reads the lock file. -/
theorem turned_release {info : LockInfo} (plain : info.Plain)
    (named : ∃ n < w.issued, mine n ∧ w.idOf n = info.lockId) :
    Turned path w ((release path info.lockId).run.turn w).2 mine' seen
      (w.files.read? w.cwd path) (.holding info (release path info.lockId).run)
      (Locker.released info ((release path info.lockId).run.turn w).1) := by
  rw [release_eq]
  obtain ⟨last, leaves, turned⟩ := turn_afterReading path (.done (.ok ()))
    (fun existing => if existing.lockId = info.lockId then remove path info.lockId
      else .ask (.note (.debug .lock
        s!"Lock ID mismatch: expected {info.lockId}, found {existing.lockId}")) fun _ =>
          .done (.ok ())) w
  rw [turned, onward]
  split
  · cases found : verdict (w.files.read? w.cwd path) with
    | error e => exact .looks (.refl w) .finished (.inl rfl)
    | ok existing =>
      simp only
      split
      · rename_i own
        have stays : Session.settle (remove path info.lockId) last w =
          (remove path info.lockId, w) := settle_apart (joined_leaves leaves id)
        have renamed : ∃ n < w.issued, mine' n ∧ w.idOf n = info.lockId := by
          obtain ⟨n, drawn, mine, name⟩ := named
          exact ⟨n, drawn, gains.old n drawn mine, name⟩
        rw [stays]
        exact .looks (.refl w) (.removes plain renamed found own) (.inr rfl)
      · rw [Settles.ask (joined_note last _) (fun _ => .done _ _) w]
        exact .looks ⟨rfl, rfl⟩ .finished (.inl rfl)
  · exact .looks (.refl w) .finished (.inl rfl)

/-- A step of a process that has come on its course so far. -/
theorem Course.turn {l : Locker} (course : Course path w mine seen l) :
    Turned path w (l.turn path w).2 mine' seen
      (if l.reads then w.files.read? w.cwd path else seen) l (l.turn path w).1 := by
  cases course with
  | starts holder => exact turned_acquire holder
  | @weighs holder existing found =>
    have reads : (Locker.acquiring (takeOver path holder existing)).reads = false := rfl
    obtain ⟨event, e, weighed⟩ := turn_takeOver path holder existing w
    rw [reads, Locker.turn, weighed]
    split
    · rename_i expired
      exact turned_claim (World.sameFiles_serve (by trivial) w) (by trivial)
        (.inr ⟨existing, found, expired⟩)
    · exact .looks (.refl w) .finished (.inl rfl)
  | claims claims told permit =>
    rw [(acquired_claims claims).2]
    exact turned_claims shown gains claims told permit
  | holds plain named => exact turned_release gains plain named
  | @removes info existing plain named found own =>
    have reads : (Locker.holding info (remove path info.lockId)).reads = false := rfl
    obtain ⟨r, u, turned⟩ := turn_remove path info.lockId w
    rw [reads, Locker.turn, turned]
    exact .removes rfl rfl found own rfl
  | finished => exact .looks (.refl w) .finished (.inl rfl)

end Turns

/-! ## Every reachable contest -/

namespace Locker

theorem advances_turn (path : String) (l : Locker) (w : World) : Advances w (l.turn path w).2 := by
  cases l with
  | acquiring rest => exact .turn rest w
  | holding info rest => exact .turn rest w
  | finished => exact .refl w

theorem clock_turn (path : String) (l : Locker) (w : World) :
    (l.turn path w).2.clock = w.clock := by
  have kept : ∀ {α : Type} (rest : Session α), (rest.turn w).2.clock = w.clock := fun rest =>
    Session.turn_induction (R := fun w w' => w'.clock = w.clock) (fun _ => rfl)
      (fun first second => second.trans first) World.serve_clock rest w
  cases l with
  | acquiring rest => exact kept rest
  | holding info rest => exact kept rest
  | finished => rfl

end Locker

theorem Course.plain {path : String} {w : World} {mine : Nat → Prop} {seen : Option ByteArray}
    {l : Locker} {info : LockInfo} (course : Course path w mine seen l)
    (held : l.lock? = some info) :
    info.Plain ∧ ∃ n < w.issued, mine n ∧ w.idOf n = info.lockId := by
  cases course with
  | holds plain named =>
    obtain rfl := Option.some.inj held
    exact ⟨plain, named⟩
  | removes plain named _ _ =>
    obtain rfl := Option.some.inj held
    exact ⟨plain, named⟩
  | _ => cases held

namespace Contest

variable {ι : Type} {path : String} {owner : Nat → Option ι} {c : Contest ι}

/-- Each process has come on its course, where `owner` tells who was given a name, and a lock that
has not expired is in the lock file. -/
structure Orderly (path : String) (owner : Nat → Option ι) (c : Contest ι) : Prop where
  distinct : Function.Injective c.world.idOf
  shown : c.world.clock.Datable
  course : ∀ i, Course path c.world (fun n => owner n = some i) (c.seen i) (c.locker i)
  live : ∀ i info, (c.locker i).lock? = some info → info.isExpired c.world.clock = false →
    c.content path = some info.toText.toUTF8

namespace Orderly

theorem eq_of_lockId (orderly : Orderly path owner c) {i j : ι} {info other : LockInfo}
    (first : (c.locker i).lock? = some info) (second : (c.locker j).lock? = some other)
    (same : info.lockId = other.lockId) : i = j := by
  obtain ⟨-, n, -, mine, name⟩ := (orderly.course i).plain first
  obtain ⟨-, m, -, others, name'⟩ := (orderly.course j).plain second
  obtain rfl : n = m := orderly.distinct (name.trans (same.trans name'.symm))
  exact Option.some.inj (mine.symm.trans others)

/-- What is made of the lock file while a lock is held. -/
theorem verdict_live (orderly : Orderly path owner c) {i : ι} {info : LockInfo}
    (held : (c.locker i).lock? = some info) (live : info.isExpired c.world.clock = false) :
    verdict (c.content path) = .ok info := by
  rw [orderly.live i info held live]
  exact verdict_toText ((orderly.course i).plain held).1

theorem exclusive (orderly : Orderly path owner c) {i j : ι} (first : c.holdsLive i = true)
    (second : c.holdsLive j = true) : i = j := by
  obtain ⟨info, held, live⟩ := holdsLive_iff.mp first
  obtain ⟨other, held', live'⟩ := holdsLive_iff.mp second
  have same := (orderly.verdict_live held live).symm.trans (orderly.verdict_live held' live')
  exact orderly.eq_of_lockId held held' (congrArg LockInfo.lockId (Except.ok.inj same))

/-- Who removes the lock file finds its own lock there, unless the file has changed since. -/
theorem removes_own (orderly : Orderly path owner c) {i : ι} {info : LockInfo}
    (held : (c.locker i).lock? = some info) (removes : (c.locker i).changes = true)
    (allowed : c.content path = c.seen i) :
    ∃ existing, verdict (c.content path) = .ok existing ∧ existing.lockId = info.lockId := by
  have course := orderly.course i
  generalize c.locker i = l at course held removes
  cases course with
  | removes plain named found own =>
    obtain rfl := Option.some.inj held
    exact ⟨_, allowed ▸ found, own⟩
  | holds => cases removes
  | _ => cases held

theorem wait (orderly : Orderly path owner c) {t : Timestamp}
    (later : t.before c.world.clock = false) (shown : t.Datable) :
    Orderly path owner { c with world := { c.world with clock := t } } where
  distinct := orderly.distinct
  shown := shown
  course i := (orderly.course i).later ⟨later, rfl, Nat.le_refl _⟩ fun _ _ own => own
  live i info held live := orderly.live i info held (Timestamp.not_before_trans live later)

theorem start (path : String) (holder : ι → String) {w : World}
    (distinct : Function.Injective w.idOf) (shown : w.clock.Datable) :
    Orderly path (fun _ => none) (Contest.start path holder w) where
  distinct := distinct
  shown := shown
  course i := .starts (holder i)
  live _ _ held _ := by cases held

/-- Who was given a name after the next step of a process. -/
def given (owner : Nat → Option ι) (c : Contest ι) (i : ι) (n : Nat) : Option ι :=
  if n < c.world.issued then owner n else some i

theorem gains_given (owner : Nat → Option ι) (c : Contest ι) (i : ι) :
    Gains c.world (fun n => owner n = some i) (fun n => given owner c i n = some i) where
  old n drawn mine := by
    rw [given, if_pos drawn]
    exact mine
  new n undrawn := if_neg (Nat.not_lt.mpr undrawn)

variable [DecidableEq ι]

theorem others_turn {i j : ι} (other : j ≠ i) : (c.turn path i).locker j = c.locker j ∧
    (c.turn path i).seen j = c.seen j := by
  refine ⟨Function.update_of_ne other _ _, ?_⟩
  rw [Contest.turn]
  dsimp only
  split
  · exact Function.update_of_ne other _ _
  · rfl

/-- The next step of a process, with what it does. -/
theorem turned (orderly : Orderly path owner c) (i : ι) :
    Turned path c.world (c.turn path i).world (fun n => given owner c i n = some i) (c.seen i)
      ((c.turn path i).seen i) (c.locker i) ((c.turn path i).locker i) := by
  have seen : (c.turn path i).seen i =
      if (c.locker i).reads then c.content path else c.seen i := by
    rw [Contest.turn]
    dsimp only
    split
    · exact Function.update_self i _ _
    · rfl
  have locker : (c.turn path i).locker i = ((c.locker i).turn path c.world).1 :=
    Function.update_self i _ _
  rw [seen, locker]
  exact (orderly.course i).turn orderly.shown (gains_given owner c i)

/-- A lock that has not expired stays in the lock file, whoever makes the next step. -/
theorem live_turn (orderly : Orderly path owner c) {i j : ι} (allowed : c.Allows path (.turn i))
    {info : LockInfo} (held : ((c.turn path i).locker j).lock? = some info)
    (live : info.isExpired c.world.clock = false) :
    (c.turn path i).content path = some info.toText.toUTF8 := by
  have before : j ≠ i → (c.locker j).lock? = some info := fun other =>
    (others_turn other).1 ▸ held
  cases orderly.turned i with
  | looks same _ kept =>
    have content : (c.turn path i).content path = c.content path := by
      rw [Contest.content, same.files, same.cwd]
      rfl
    rw [content]
    by_cases own : j = i
    · subst own
      rcases kept with none | same
      · rw [none] at held
        cases held
      · exact orderly.live j info (same ▸ held) live
    · exact orderly.live j info (before own) live
  | writes changes permit _ written =>
    by_cases own : j = i
    · subst own
      exact written info held
    · -- No other process holds a lock, since this one was allowed to write.
      have seen : c.content path = c.seen i := allowed changes
      have verdict := orderly.verdict_live (before own) live
      rcases permit with none | ⟨existing, found, expired⟩
      · rw [orderly.live j info (before own) live, none] at seen
        cases seen
      · rw [← seen, verdict] at found
        rw [← Except.ok.inj found, live] at expired
        cases expired
  | removes changes holds found own ended =>
    by_cases same : j = i
    · subst same
      rw [ended] at held
      cases held
    · have seen : c.content path = c.seen i := allowed changes
      rw [← seen, orderly.verdict_live (before same) live] at found
      rw [← Except.ok.inj found] at own
      exact absurd (orderly.eq_of_lockId (before same) holds own) same

theorem turn (orderly : Orderly path owner c) {i : ι} (allowed : c.Allows path (.turn i)) :
    Orderly path (given owner c i) (c.turn path i) := by
  have advances : Advances c.world (c.turn path i).world := (c.locker i).advances_turn path c.world
  have clock : (c.turn path i).world.clock = c.world.clock := (c.locker i).clock_turn path c.world
  constructor
  case distinct =>
    rw [advances.idOf]
    exact orderly.distinct
  case shown =>
    rw [clock]
    exact orderly.shown
  case course =>
    intro j
    by_cases own : j = i
    · subst own
      cases orderly.turned j with
      | looks _ course _ => exact course
      | writes _ _ course _ => exact course
      | removes _ _ _ _ ended =>
        rw [ended]
        exact .finished
    · obtain ⟨locker, seen⟩ : (c.turn path i).locker j = c.locker j ∧
          (c.turn path i).seen j = c.seen j := others_turn own
      rw [locker, seen]
      refine (orderly.course j).later advances fun n drawn mine => ?_
      rw [given, if_pos drawn]
      exact mine
  case live =>
    intro j info held live
    rw [clock] at live
    exact orderly.live_turn allowed held live

/-- Who makes only allowed moves keeps a contest orderly. -/
theorem run {moves : List (Move ι)} (orderly : Orderly path owner c)
    (mindful : c.Mindful path moves) : ∃ owner', Orderly path owner' (c.run path moves) := by
  induction moves generalizing owner c with
  | nil => exact ⟨owner, orderly⟩
  | cons m ms ih =>
    obtain ⟨allowed, rest⟩ := mindful
    cases m with
    | turn i => exact ih (orderly.turn allowed) rest
    | wait t => exact ih (orderly.wait allowed.1 allowed.2) rest

end Orderly

variable [DecidableEq ι]

/-- At every moment of a contest at most one process holds a lock that has not expired, and who
removes the lock file finds its own lock there. This needs that each process writes or removes the
lock file only while it is as the process has read it. -/
theorem excludes (path : String) (holder : ι → String) {w : World}
    (distinct : Function.Injective w.idOf) (shown : w.clock.Datable) {moves : List (Move ι)}
    (mindful : (start path holder w).Mindful path moves) :
    let c := (start path holder w).run path moves
    (∀ i j, c.holdsLive i = true → c.holdsLive j = true → i = j) ∧
      ∀ i info, (c.locker i).lock? = some info →
        (c.locker i).next? = some (.removeFile path) → c.Allows path (.turn i) →
          ∃ existing, verdict (c.content path) = .ok existing ∧ existing.lockId = info.lockId := by
  intro c
  obtain ⟨owner, orderly⟩ := (Orderly.start path holder distinct shown).run mindful
  refine ⟨fun i j => orderly.exclusive, fun i info held next allowed => ?_⟩
  have changes : (c.locker i).changes = true := by rw [Locker.changes, next]
  exact orderly.removes_own held changes (allowed changes)

/-- Two processes have found no lock. One of them writes its own, and the other one has to stop. -/
theorem excludes_of_two :
    let path := "cluster.lock"
    let w : World := { World.bare with idOf := fun n => String.ofList (.replicate n 'i') }
    let moves : List (Move Bool) := .turn true :: .replicate 6 (.turn false)
    let c := (start path (fun _ => "h") w).run path moves
    Function.Injective w.idOf ∧ (start path (fun _ => "h") w).Mindful path moves ∧
      c.holdsLive false = true ∧
      (∀ i j, c.holdsLive i = true → c.holdsLive j = true → i = j) ∧
      ∀ i info, (c.locker i).lock? = some info →
        (c.locker i).next? = some (.removeFile path) → c.Allows path (.turn i) →
          ∃ existing, verdict (c.content path) = .ok existing ∧
            existing.lockId = info.lockId := by
  intro path w moves c
  have distinct : Function.Injective w.idOf := by
    intro n m same
    have lengths := congrArg (fun s : String => s.toList.length) same
    simpa [w] using lengths
  have mindful : (start path (fun _ => "h") w).Mindful path moves := by decide +kernel
  exact ⟨distinct, mindful, by decide +kernel, excludes path _ distinct (by decide +kernel) mindful⟩

/-- Two processes have found no lock, and each of them writes its own. -/
theorem contest_breaks :
    let path := "cluster.lock"
    let w : World := { World.bare with idOf := fun n => String.ofList (.replicate n 'i') }
    let moves : List (Move Bool) :=
      .turn true :: .replicate 6 (.turn false) ++ .replicate 5 (.turn true)
    let c := (start path (fun _ => "h") w).run path moves
    Function.Injective w.idOf ∧ w.clock.Datable ∧
      c.holdsLive false = true ∧ c.holdsLive true = true := by
  intro path w moves c
  refine ⟨?_, by decide +kernel, by decide +kernel, by decide +kernel⟩
  intro n m same
  have lengths := congrArg (fun s : String => s.toList.length) same
  simpa [w] using lengths

end Contest

end Lock

end ClusterConf
