import ClusterConf.Proofs.FileAccess
import ClusterConf.Proofs.LockTexts
import ClusterConf.Proofs.Persistence
set_option autoImplicit false

/-!
The steps of acquiring and releasing a lock: it is read, what a new lock is made of is asked for,
the new lock is written. Main statement: a lock that was written is what its file then holds.
-/
namespace ClusterConf

open Program
open FileTree (placeOf)
open Attempt (log)

namespace FileTree

variable {t t' : FileTree} {cwd : Place} {path : String}

theorem content?_of_read? {content : ByteArray} (read : t.read? cwd path = some content) :
    t.content? (placeOf cwd path) = some content := by
  obtain ⟨q, resolved, file⟩ := Option.bind_eq_some_iff.mp read
  rw [← resolve?_eq resolved]
  exact file

theorem append?_reads {content : ByteArray} (appended : t.append? cwd path content = some t') :
    ∃ before, t.content? (placeOf cwd path) = some before ∧
      t'.read? cwd path = some (before ++ content) := by
  obtain ⟨q, before, resolved, there, rfl⟩ := append?_cases appended
  have file := not_directory_of_content there
  have new : FileTree.entry? (t.put q (.file (before ++ content))) q =
      some (.file (before ++ content)) := entry?_put_self (not_root_of_not_directory file) _ _
  have kept : ∀ p, t.isDirectory p = true →
      (t.put q (.file (before ++ content))).isDirectory p = true := by
    intro p directory
    have other : p ≠ q := by
      rintro rfl
      rw [file] at directory
      cases directory
    rw [isDirectory_iff, entry?_put other]
    exact isDirectory_iff.mp directory
  have found := resolve?_of_resolveNew? kept (resolveNew?_of_resolve? resolved) (by rw [new]; rfl)
  refine ⟨before, ?_, ?_⟩
  · rw [← resolve?_eq resolved]
    exact there
  · rw [read?, found]
    simp [new]

theorem createFile?_content (made : t.createFile? cwd path = some t') :
    t'.content? (placeOf cwd path) = some ByteArray.empty := by
  obtain ⟨q, resolved, file, rfl⟩ := createFile?_cases made
  rw [← resolveNew?_eq resolved, content?_eq_some_iff]
  exact entry?_put_self (not_root_of_not_directory file) _ _

end FileTree

namespace Timestamp

variable {a b e : Timestamp} {n : Int}

theorem before_iff :
    a.before b = true ↔ a.seconds < b.seconds ∨ a.seconds = b.seconds ∧ a.nanos < b.nanos := by
  simp [before]

@[simp] theorem before_self (t : Timestamp) : t.before t = false := by
  simp [before]

@[simp] theorem plusSeconds_before : (a.plusSeconds n).before (b.plusSeconds n) = a.before b := by
  rw [Bool.eq_iff_iff, before_iff, before_iff]
  simp only [plusSeconds]
  omega

theorem not_before_trans (first : a.before b = false) (second : b.before e = false) :
    a.before e = false := by
  rw [Bool.eq_false_iff, ne_eq, before_iff] at first second ⊢
  omega

theorem before_later (first : a.before b = true) (later : e.before b = false) :
    a.before e = true := by
  rw [Bool.eq_false_iff, ne_eq, before_iff] at later
  rw [before_iff] at first ⊢
  omega

theorem before_of_not_before (first : a.before b = false) (second : a.before e = true) :
    b.before e = true := by
  rw [Bool.eq_false_iff, ne_eq, before_iff] at first
  rw [before_iff] at second ⊢
  omega

theorem plusSeconds_mono (later : b.before a = false) (soon : (a.plusSeconds n).before e = false) :
    (b.plusSeconds n).before e = false :=
  not_before_trans (by rwa [plusSeconds_before]) soon

end Timestamp

namespace Lock

open Session (call note)

/-! ## The shape of the sessions -/

def spelled (text? : Option String) : Except Error LockInfo :=
  match text? with
  | none => .error (.state (.corrupted .unreadableLock))
  | some text =>
    match LockInfo.ofText? text with
    | none => .error (.state (.corrupted .malformedLock))
    | some info => .ok info

/-- What is made of the content of a lock file. -/
def verdict (content? : Option ByteArray) : Except Error LockInfo :=
  spelled (content?.bind String.fromUTF8?)

theorem verdict_toText {info : LockInfo} (plain : info.Plain) :
    verdict (some info.toText.toUTF8) = .ok info := by
  simp only [verdict, spelled, Option.bind_some, fromUTF8?_toUTF8, LockInfo.ofText?_toText plain]

/-- A session that reads a lock file, and goes on with the lock in it, if there is one. -/
def afterReading {α : Type} (path : String) (absent : Session (Except Error α))
    (found : LockInfo → Session (Except Error α)) : Session (Except Error α) :=
  .ask (.pathExists path) fun there =>
    if there then
      .ask (.readFile path) fun content =>
        match verdict content with
        | .error e => .done (.error e)
        | .ok existing => found existing
    else absent

theorem read_bind {α : Type} (path : String) (f : Option LockInfo → Attempt α) :
    (read path >>= f).run =
      afterReading path (f none).run fun existing => (f (some existing)).run := by
  have judged : ∀ text? : Option String,
      ((match text? with
        | none => fail (.corrupted .unreadableLock)
        | some text =>
          match LockInfo.ofText? text with
          | none => fail (.corrupted .malformedLock)
          | some info => return some info : Attempt (Option LockInfo)) >>= f).run =
        match spelled text? with
        | .error e => .done (.error e)
        | .ok existing => (f (some existing)).run := by
    intro text?
    cases text? with
    | none => rfl
    | some text =>
      simp only [spelled]
      cases LockInfo.ofText? text <;> rfl
  refine congrArg (Program.ask _) (funext fun there => ?_)
  cases there with
  | false => rfl
  | true =>
    refine congrArg (Program.ask _) (funext fun content => ?_)
    cases content with
    | none => exact judged none
    | some content => exact judged (String.fromUTF8? content)

/-- What is left of acquiring a lock when no lock is in the way. -/
def claim (path holder : String) : Attempt LockInfo := do
  let holder ← if holder.isEmpty then (holderName : Session _) else pure holder
  let info ← (newInfo holder : Session _)
  write path info
  log (.info .lock s!"Acquired state lock: {info.lockId} (expires in {expirySeconds}s)")
  return info

/-- What is left of acquiring a lock when another one was found. -/
def takeOver (path holder : String) (existing : LockInfo) : Session (Except Error LockInfo) :=
  .ask .now fun now =>
    if existing.isExpired now then
      .ask (.note (.warn .lock s!"Expired lock held by {existing.holder} found, taking over"))
        fun _ => (claim path holder).run
    else .done (.error (.state (.lockedByOther existing.holder existing.acquiredAt.text)))

theorem acquire_eq (path holder : String) :
    (acquire path holder).run =
      afterReading path (claim path holder).run (takeOver path holder) := by
  rw [acquire, read_bind]
  refine congrArg (afterReading path _) (funext fun existing => ?_)
  refine congrArg (Program.ask _) (funext fun now => ?_)
  change (if existing.isExpired now then
      log (.warn .lock s!"Expired lock held by {existing.holder} found, taking over") >>= fun _ =>
        claim path holder
    else fail (.lockedByOther existing.holder existing.acquiredAt.text) >>= fun _ =>
      claim path holder : Attempt LockInfo).run = _
  split <;> rfl

/-- A session that ends at a step. -/
def refused {α : Type} (s : LockStep) : Session (Except Error α) :=
  .done (.error (.state (.lockFailed s)))

/-- What is left of releasing a lock when its own lock was found. -/
def remove (path lockId : String) : Session (Except Error Unit) :=
  .ask (.removeFile path) fun removed =>
    if removed then
      .ask (.note (.info .lock s!"Released state lock: {lockId}")) fun _ => .done (.ok ())
    else refused .delete

theorem release_eq (path lockId : String) : (release path lockId).run =
    afterReading path (.done (.ok ())) fun existing =>
      if existing.lockId = lockId then remove path lockId
      else .ask (.note (.debug .lock
        s!"Lock ID mismatch: expected {lockId}, found {existing.lockId}")) fun _ =>
          .done (.ok ()) := by
  rw [release, read_bind]
  refine congrArg (afterReading path _) (funext fun existing => ?_)
  dsimp only
  split
  · refine congrArg (Program.ask _) (funext fun removed => ?_)
    cases removed <;> rfl
  · rfl

/-- What is left of acquiring a lock when its file is empty. -/
def filling (path : String) (info : LockInfo) : Session (Except Error LockInfo) :=
  .ask (.appendFile path info.toText) fun written =>
    if written then
      .ask (.syncFile path) fun synced =>
        if synced then
          .ask (.note (.info .lock
            s!"Acquired state lock: {info.lockId} (expires in {expirySeconds}s)")) fun _ =>
              .done (.ok info)
        else refused .sync
    else refused .write

/-- What is left of acquiring a lock when the directory of its file is there. -/
def writing (path : String) (info : LockInfo) : Session (Except Error LockInfo) :=
  .ask (.createFile path) fun made => if made then filling path info else refused .create

/-- What is left of acquiring a lock when it is known which. -/
def claiming (path : String) (info : LockInfo) : Session (Except Error LockInfo) :=
  match Path.properParent? path with
  | none => writing path info
  | some parent =>
    .ask (.createDirectories parent) fun made =>
      if made then writing path info else .done (.error .io)

theorem claiming_eq (path : String) (info : LockInfo) : claiming path info =
    (do
      write path info
      log (.info .lock s!"Acquired state lock: {info.lockId} (expires in {expirySeconds}s)")
      return info : Attempt LockInfo).run := by
  have written : writing path info = (do
      (do
        step .create (call (.createFile path))
        step .write (call (.appendFile path info.toText))
        step .sync (call (.syncFile path)) : Attempt Unit)
      log (.info .lock s!"Acquired state lock: {info.lockId} (expires in {expirySeconds}s)")
      return info : Attempt LockInfo).run := by
    refine congrArg (Program.ask _) (funext fun made => ?_)
    cases made with
    | false => rfl
    | true =>
      refine congrArg (Program.ask _) (funext fun written => ?_)
      cases written with
      | false => rfl
      | true =>
        refine congrArg (Program.ask _) (funext fun synced => ?_)
        cases synced <;> rfl
  rw [claiming, write]
  cases Path.properParent? path with
  | none => exact written
  | some parent =>
    refine congrArg (Program.ask _) (funext fun made => ?_)
    cases made with
    | false => rfl
    | true => exact written

end Lock

/-- A time at which a lock may begin: it and the end of the lock can be written and read. -/
structure Timestamp.Datable (t : Timestamp) : Prop where
  begins : t.Plain
  ends : (t.plusSeconds Lock.expirySeconds).Plain

instance (t : Timestamp) : Decidable t.Datable :=
  decidable_of_iff (t.Plain ∧ (t.plusSeconds Lock.expirySeconds).Plain)
    ⟨fun ⟨begins, ends⟩ => ⟨begins, ends⟩, fun shown => ⟨shown.begins, shown.ends⟩⟩

/-- A call that asks for something that a lock is made of, or that logs. -/
def MachineCall.isQuiet : MachineCall → Bool
  | now | freshId | hostName | processId | note _ => true
  | _ => false

theorem MachineCall.leavesFiles_of_quiet {c : MachineCall} (quiet : c.isQuiet = true) :
    c.LeavesFiles := by
  cases c <;> trivial

/-- A lock is made of what was answered. -/
structure LockInfo.MadeOf (answers : List (Exchange Machine)) (info : LockInfo) : Prop where
  named : ⟨.freshId, info.lockId⟩ ∈ answers
  acquired : ⟨.now, info.acquiredAt⟩ ∈ answers
  expires : info.expiresAt = info.acquiredAt.plusSeconds Lock.expirySeconds

theorem LockInfo.MadeOf.mono {answers answers' : List (Exchange Machine)} {info : LockInfo}
    (made : info.MadeOf answers) (more : ∀ x ∈ answers, x ∈ answers') : info.MadeOf answers' where
  named := more _ made.named
  acquired := more _ made.acquired
  expires := made.expires

theorem LockInfo.MadeOf.plain {answers : List (Exchange Machine)} {info : LockInfo}
    (made : info.MadeOf answers) (shown : ∀ t, ⟨.now, t⟩ ∈ answers → t.Datable) : info.Plain where
  acquired := (shown _ made.acquired).begins
  expires := by
    rw [made.expires]
    exact (shown _ made.acquired).ends

namespace Lock

/-- After some answers a session asks on, and then writes a lock that is made of all answers. -/
inductive Claims (path : String) :
    List (Exchange Machine) → Session (Except Error LockInfo) → Prop
  | asks {answers : List (Exchange Machine)} {c : MachineCall}
      {next : c.Answer → Session (Except Error LockInfo)} (quiet : c.isQuiet = true)
      (rest : ∀ answer, Claims path (⟨c, answer⟩ :: answers) (next answer)) :
      Claims path answers (.ask c next)
  | writes {answers : List (Exchange Machine)} {info : LockInfo} (made : info.MadeOf answers) :
      Claims path answers (claiming path info)

theorem claims_claim (path holder : String) (answers : List (Exchange Machine)) :
    Claims path answers (claim path holder).run := by
  have made : ∀ (answers : List (Exchange Machine)) (holder : String), Claims path answers
      (do
        let info ← (newInfo holder : Session _)
        write path info
        log (.info .lock s!"Acquired state lock: {info.lockId} (expires in {expirySeconds}s)")
        return info : Attempt LockInfo).run := by
    intro answers holder
    refine .asks rfl fun now => .asks rfl fun id => .asks rfl fun host => .asks rfl fun pid => ?_
    let info : LockInfo := ⟨id, holder, host, pid, now, now.plusSeconds expirySeconds⟩
    have claims : Claims path (⟨.processId, pid⟩ :: ⟨.hostName, host⟩ :: ⟨.freshId, id⟩ ::
        ⟨.now, now⟩ :: answers) (claiming path info) := by
      refine .writes ⟨?_, ?_, rfl⟩ <;> simp [info]
    rw [claiming_eq] at claims
    exact claims
  rw [claim]
  cases holder.isEmpty with
  | false => exact made answers holder
  | true =>
    refine .asks rfl fun host => .asks rfl fun pid => .asks rfl fun id => ?_
    exact made _ s!"{host}-{pid}-{id.take 8}"

end Lock

/-! ## What the steps do to a machine -/

namespace World

theorem serve_clock (c : MachineCall) (w : World) : (serve c w).2.clock = w.clock := by
  have changed : ∀ files? : Option FileTree, (w.change files?).2.clock = w.clock := by
    intro files?
    cases files? <;> rfl
  cases c with
  | createFile path => exact changed _
  | appendFile path text => exact changed _
  | rename source target => exact changed _
  | removeFile path => exact changed _
  | _ => rfl

theorem sameFiles_serve {c : MachineCall} (leaves : c.LeavesFiles) (w : World) :
    w.SameFiles (serve c w).2 := by
  cases c <;> first | exact ⟨rfl, rfl⟩ | cases leaves

/-- The machine when its clock shows some time. -/
def showing (w : World) (t : Timestamp) : World := { w with clock := t }

/-- A server that answers as a machine does whose clock may show anything at each call. -/
def Timed {σ : Type} (serve : Server Machine σ) (view : σ → World) : Prop :=
  ∀ (c : MachineCall) (s : σ), ∃ t,
    World.serve c ((view s).showing t) = ((serve c s).1, view (serve c s).2)

theorem timed_serve : Timed World.serve id := fun _ w => ⟨w.clock, rfl⟩

theorem Timed.sameFiles {σ : Type} {serve : Server Machine σ} {view : σ → World}
    (timed : Timed serve view) {c : MachineCall} (leaves : c.LeavesFiles) (s : σ) :
    (view s).SameFiles (view (serve c s).2) := by
  obtain ⟨t, served⟩ := timed c s
  have same := sameFiles_serve leaves ((view s).showing t)
  rw [served] at same
  exact ⟨same.cwd, same.files⟩

end World

namespace Lock

section Reading

variable {α : Type} (path : String) (absent : Session (Except Error α))
  (found : LockInfo → Session (Except Error α)) (w : World)

/-- What is left of a session when it has read the lock file. -/
def onward : Session (Except Error α) :=
  if w.files.pathExists w.cwd path then
    match verdict (w.files.read? w.cwd path) with
    | .error e => .done (.error e)
    | .ok existing => found existing
  else absent

theorem exec_afterReading : (afterReading path absent found).exec World.serve w =
    (onward path absent found w).exec World.serve w := by
  rw [onward, afterReading, exec_ask]
  cases there : w.files.pathExists w.cwd path <;> simp only [World.serve, there] <;> rfl

theorem journal_afterReading : (afterReading path absent found).journal World.serve w =
    ⟨.pathExists path, w.files.pathExists w.cwd path⟩ ::
      ((if w.files.pathExists w.cwd path then [⟨.readFile path, w.files.read? w.cwd path⟩]
        else []) ++ (onward path absent found w).journal World.serve w) := by
  rw [onward, afterReading, journal]
  cases there : w.files.pathExists w.cwd path <;> simp only [World.serve, there] <;> rfl

end Reading

section Writing

variable {σ : Type} {serve : Server Machine σ} {view : σ → World} (timed : World.Timed serve view)
  {path : String} {info got : LockInfo} {s s' : σ}

include timed

theorem exec_filling (empty : (view s).contentOf path = some .empty)
    (done : (filling path info).exec serve s = (.ok got, s')) :
    got = info ∧ (view s').files.read? (view s').cwd path = some info.toText.toUTF8 := by
  obtain ⟨t, written⟩ := timed (.appendFile path info.toText) s
  rw [filling, exec_ask] at done
  rcases World.change_cases written with ⟨refused, -⟩ | ⟨files, answered, appended, left⟩
  · rw [refused] at done
    cases done
  · obtain ⟨before, there, reads⟩ := FileTree.append?_reads appended
    obtain rfl : before = .empty := Option.some.inj (there.symm.trans empty)
    rw [ByteArray.empty_append] at reads
    rw [answered] at done
    simp only [if_true, exec_ask] at done
    split at done
    · obtain ⟨same, rfl⟩ := Prod.mk.inj done
      have synced := timed.sameFiles (c := .syncFile path) trivial
        (serve (.appendFile path info.toText) s).2
      refine ⟨(Except.ok.inj same).symm, ?_⟩
      rw [(timed.sameFiles (c := .note _) trivial _).files,
        (timed.sameFiles (c := .note _) trivial _).cwd, synced.files, synced.cwd, left]
      exact reads
    · cases done

/-- A lock that was written is what its file then holds. -/
theorem exec_claiming (done : (claiming path info).exec serve s = (.ok got, s')) :
    got = info ∧ (view s').files.read? (view s').cwd path = some info.toText.toUTF8 := by
  have written : ∀ {s}, (writing path info).exec serve s = (.ok got, s') →
      got = info ∧ (view s').files.read? (view s').cwd path = some info.toText.toUTF8 := by
    intro s done
    obtain ⟨t, made⟩ := timed (.createFile path) s
    rw [writing, exec_ask] at done
    rcases World.change_cases made with ⟨refused, -⟩ | ⟨files, answered, created, left⟩
    · rw [refused] at done
      cases done
    · rw [answered] at done
      refine exec_filling timed ?_ done
      rw [World.contentOf, left]
      exact FileTree.createFile?_content created
  rw [claiming] at done
  cases parent : Path.properParent? path with
  | none =>
    rw [parent] at done
    exact written done
  | some parent' =>
    simp only [parent, exec_ask] at done
    split at done
    · exact written done
    · cases done

end Writing

end Lock

end ClusterConf
