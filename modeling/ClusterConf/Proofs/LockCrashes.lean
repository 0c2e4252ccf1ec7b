import ClusterConf.Proofs.LockSteps
set_option autoImplicit false

/-!
Processes that stop for good while they acquire a lock, work under it or release it. Main statement:
they leave no lock file, a whole one or the beginning of one; after the lock has expired it can be
acquired again in the first two cases, and never in the third.
-/
namespace ClusterConf

open Program
open FileTree (placeOf)

/-- Part of a file step: some directories are made, or some of a text is written. -/
inductive MachineCall.Cut : MachineCall → World → World → Prop
  | directories (path : String) (w : World) (made : Nat) :
      Cut (.createDirectories path) w
        { w with files := w.files.beginDirectories w.cwd path made }
  | text {path text : String} {w : World} {front back : ByteArray} {files : FileTree}
      (split : text.toUTF8 = front ++ back)
      (appended : w.files.append? w.cwd path front = some files) :
      Cut (.appendFile path text) w { w with files }

/-- How a session may leave a machine when it stops for good, before a call or within one. Time may
pass before each call. -/
inductive Stops {α : Type} : Session α → World → World → Prop
  | here (p : Session α) (w : World) : Stops p w w
  | within {c : MachineCall} {next : c.Answer → Session α} {w v : World} {t : Timestamp}
      (later : t.before w.clock = false) (shown : t.Datable)
      (cut : c.Cut { w with clock := t } v) : Stops (.ask c next) w v
  | after {c : MachineCall} {next : c.Answer → Session α} {w v : World} {t : Timestamp}
      (later : t.before w.clock = false) (shown : t.Datable)
      (rest : Stops (next (World.serve c { w with clock := t }).1)
        (World.serve c { w with clock := t }).2 v) : Stops (.ask c next) w v

namespace Stops

variable {α β : Type}

theorem done_inv {a : α} {w v : World} (stops : Stops (.done a) w v) : v = w := by
  cases stops
  rfl

theorem bind_inv {p : Session α} {f : α → Session β} {w v : World} (stops : Stops (p >>= f) w v) :
    Stops p w v ∨ ∃ a u, Stops p w u ∧ Stops (f a) u v := by
  induction p generalizing w with
  | done a => exact .inr ⟨a, w, .here _ w, stops⟩
  | ask c next ih =>
    rw [ask_bind] at stops
    cases stops with
    | here => exact .inl (.here _ _)
    | within later shown cut => exact .inl (.within later shown cut)
    | after later shown rest =>
      rcases ih _ rest with first | ⟨a, u, first, second⟩
      · exact .inl (.after later shown first)
      · exact .inr ⟨a, u, .after later shown first, second⟩

theorem moment (p : Session α) {w : World} (shown : w.clock.Datable) (n : Nat) :
    Stops p w (p.stateAfter World.serve w n) := by
  induction p generalizing w n with
  | done a => exact .here _ _
  | ask c next ih =>
    cases n with
    | zero => exact .here _ _
    | succ n =>
      refine .after (t := w.clock) ?_ shown (ih _ ?_ n)
      · exact Timestamp.before_self _
      · rw [World.serve_clock]
        exact shown

end Stops

/-- A call that leaves the file alone that a path names, also if it gets only half way. -/
structure MachineCall.Spares (path : String) (c : MachineCall) : Prop where
  served : ∀ w : World, w.files.Sound → World.Keeps path w (World.serve c w).2
  cut : ∀ w v : World, w.files.Sound → c.Cut w v → World.Keeps path w v

theorem MachineCall.Cut.clock {c : MachineCall} {w v : World} (cut : c.Cut w v) :
    v.clock = w.clock := by
  cases cut <;> rfl

theorem MachineCall.not_cut {c : MachineCall} (leaves : c.LeavesFiles) {w v : World} :
    ¬ c.Cut w v := by
  intro cut
  cases cut <;> cases leaves

theorem MachineCall.Spares.of_leaves {c : MachineCall} (leaves : c.LeavesFiles) (path : String) :
    c.Spares path where
  served w sound := by
    obtain ⟨cwd, files⟩ := World.sameFiles_serve leaves w
    refine ⟨cwd, ?_⟩
    rw [files]
    exact .refl sound _
  cut w v _ cut := absurd cut (not_cut leaves)

theorem MachineCall.Spares.createDirectories (path parent : String) :
    (MachineCall.createDirectories parent).Spares path where
  served w sound := ⟨rfl, FileTree.keeps_createDirectories sound w.cwd parent _⟩
  cut w v sound cut := by
    cases cut with
    | directories _ _ made => exact ⟨rfl, FileTree.keeps_beginDirectories sound w.cwd parent made _⟩

namespace Lock

/-- What is in a lock file: nothing, a lock that expires in time, or the beginning of a lock. -/
inductive Remains (path : String) (w : World) : Prop
  | absent (none : w.contentOf path = none)
  | whole {info : LockInfo} (plain : info.Plain)
      (soon : (w.clock.plusSeconds expirySeconds).before info.expiresAt = false)
      (held : w.contentOf path = some info.toText.toUTF8)
  | torn {info : LockInfo} {front back : ByteArray} (split : info.toText.toUTF8 = front ++ back)
      (cut : back ≠ .empty) (held : w.contentOf path = some front)

/-- A machine with a lock file as processes leave it. -/
structure Settled (path : String) (w : World) : Prop where
  sound : w.files.Sound
  remains : Remains path w

namespace Settled

variable {path : String} {w v : World}

theorem keeps (settled : Settled path w) (keeps : World.Keeps path w v)
    (later : v.clock.before w.clock = false) : Settled path v where
  sound := keeps.files.sound
  remains := by
    have same := keeps.contentOf
    cases settled.remains with
    | absent none => exact .absent (same.trans none)
    | whole plain soon held =>
      exact .whole plain (Timestamp.plusSeconds_mono later soon) (same.trans held)
    | torn split cut held => exact .torn split cut (same.trans held)

theorem wait (settled : Settled path w) {t : Timestamp} (later : t.before w.clock = false) :
    Settled path { w with clock := t } :=
  settled.keeps ⟨rfl, .refl settled.sound _⟩ later

theorem spared (settled : Settled path w) {c : MachineCall} (spares : c.Spares path) :
    Settled path (World.serve c w).2 := by
  refine settled.keeps (spares.served w settled.sound) ?_
  rw [World.serve_clock]
  exact Timestamp.before_self _

theorem cut (settled : Settled path w) {c : MachineCall} (spares : c.Spares path)
    (cut : c.Cut w v) : Settled path v := by
  refine settled.keeps (spares.cut w v settled.sound cut) ?_
  rw [cut.clock]
  exact Timestamp.before_self _

end Settled

/-- Wherever a session stops, it leaves the lock file as processes do. -/
def Safe {α : Type} (path : String) (p : Session α) : Prop :=
  ∀ w v, Settled path w → Stops p w v → Settled path v

namespace Safe

variable {α β : Type} {path : String}

theorem done (a : α) : Safe path (.done a) := by
  intro w v settled stops
  rw [stops.done_inv]
  exact settled

theorem ask {c : MachineCall} {next : c.Answer → Session α} (spares : c.Spares path)
    (rest : ∀ answer, Safe path (next answer)) : Safe path (.ask c next) := by
  intro w v settled stops
  cases stops with
  | here => exact settled
  | within later shown cut => exact (settled.wait later).cut spares cut
  | after later shown stops => exact rest _ _ _ ((settled.wait later).spared spares) stops

theorem bind {p : Session α} {f : α → Session β} (first : Safe path p)
    (second : ∀ a, Safe path (f a)) : Safe path (p >>= f) := by
  intro w v settled stops
  rcases stops.bind_inv with stops | ⟨a, u, ended, stops⟩
  · exact first w v settled stops
  · exact second a u v (first w u settled ended) stops

theorem attempt {p : Attempt α} {f : α → Attempt β} (first : Safe path p.run)
    (second : ∀ a, Safe path (f a).run) : Safe path (p >>= f).run := by
  rw [ExceptT.run_bind]
  refine first.bind fun r => ?_
  cases r with
  | ok a => exact second a
  | error e => exact done _

theorem of_only {p : Session α} (only : Only (MachineCall.Spares path) p) : Safe path p := by
  induction only with
  | done a => exact done a
  | ask spares _ ih => exact ask spares ih

end Safe

/-! ## Acquiring and releasing -/

section Sessions

variable {path : String}

theorem safe_afterReading {α : Type} {absent : Session (Except Error α)}
    {found : LockInfo → Session (Except Error α)} (none : Safe path absent)
    (some : ∀ existing, Safe path (found existing)) :
    Safe path (afterReading path absent found) := by
  refine .ask (.of_leaves (by trivial) path) fun there => ?_
  cases there with
  | false => exact none
  | true =>
    refine .ask (.of_leaves (by trivial) path) fun content => ?_
    cases verdict content with
    | error e => exact .done _
    | ok existing => exact some existing

theorem safe_note {α : Type} {event : Event} {p : Session α} (rest : Safe path p) :
    Safe path (.ask (.note event) fun _ => p) :=
  .ask (.of_leaves (by trivial) path) fun _ => rest

theorem Settled.removed {w v : World} {removed : Bool} (settled : Settled path w)
    (served : World.serve (.removeFile path) w = (removed, v)) : Settled path v := by
  rcases World.change_cases served with ⟨-, rfl⟩ | ⟨files, -, erased, rfl⟩
  · exact settled
  · refine ⟨settled.sound.remove? erased, .absent ?_⟩
    rw [World.contentOf, FileTree.content?, FileTree.remove?_gone erased]

theorem safe_remove (path lockId : String) : Safe path (remove path lockId) := by
  intro w v settled stops
  cases stops with
  | here => exact settled
  | within later shown cut => cases cut
  | @after _ _ _ _ t later shown stops =>
    rcases served : World.serve (.removeFile path) { w with clock := t } with ⟨removed, u⟩
    rw [served] at stops
    have kept := (settled.wait later).removed served
    cases removed with
    | false => exact Safe.done _ u v kept stops
    | true => exact safe_note (.done _) u v kept stops

theorem safe_release (path lockId : String) : Safe path (release path lockId).run := by
  rw [release_eq]
  refine safe_afterReading (.done _) fun existing => ?_
  split
  · exact safe_remove path lockId
  · exact safe_note (.done _)

section Writing

variable {info : LockInfo} (plain : info.Plain) {w v : World}
  (soon : (w.clock.plusSeconds expirySeconds).before info.expiresAt = false)

include plain soon

/-- A part of the text of a lock is written to an empty file. -/
theorem settled_of_written (sound : w.files.Sound) (empty : w.contentOf path = some .empty)
    {front back : ByteArray} (split : info.toText.toUTF8 = front ++ back) {files : FileTree}
    (appended : w.files.append? w.cwd path front = some files) :
    Settled path { w with files } := by
  obtain ⟨before, there, reads⟩ := FileTree.append?_reads appended
  obtain rfl : before = .empty := Option.some.inj (there.symm.trans empty)
  rw [ByteArray.empty_append] at reads
  have held := FileTree.content?_of_read? reads
  refine ⟨sound.append? appended, ?_⟩
  by_cases whole : back = .empty
  · rw [whole, ByteArray.append_empty] at split
    rw [← split] at held
    exact .whole plain soon held
  · exact .torn split whole held

theorem settled_filling (sound : w.files.Sound) (empty : w.contentOf path = some .empty)
    (stops : Stops (filling path info) w v) : Settled path v := by
  have emptied : ∀ t, Settled path { w with clock := t } := fun t =>
    ⟨sound, .torn ByteArray.empty_append.symm info.toText_ne_empty empty⟩
  cases stops with
  | here => exact emptied w.clock
  | @within _ _ _ _ t later shown cut =>
    cases cut with
    | text split appended =>
      exact settled_of_written (w := { w with clock := t }) plain
        (Timestamp.plusSeconds_mono later soon) sound empty split appended
  | @after _ _ _ _ t later shown stops =>
    rcases written : World.serve (.appendFile path info.toText) { w with clock := t } with
      ⟨written?, u⟩
    rw [written] at stops
    rcases World.change_cases written with ⟨rfl, rfl⟩ | ⟨files, rfl, appended, rfl⟩
    · exact Safe.done _ _ v (emptied t) stops
    · have whole := settled_of_written (w := { w with clock := t }) plain
        (Timestamp.plusSeconds_mono later soon) sound empty ByteArray.append_empty.symm appended
      refine Safe.ask (.of_leaves (by trivial) path) (fun synced => ?_) _ v whole stops
      cases synced with
      | false => exact .done _
      | true => exact safe_note (.done _)

theorem settled_writing (settled : Settled path w) (stops : Stops (writing path info) w v) :
    Settled path v := by
  cases stops with
  | here => exact settled
  | within later shown cut => cases cut
  | @after _ _ _ _ t later shown stops =>
    rcases made : World.serve (.createFile path) { w with clock := t } with ⟨made?, u⟩
    rw [made] at stops
    rcases World.change_cases made with ⟨rfl, rfl⟩ | ⟨files, rfl, created, rfl⟩
    · exact Safe.done _ _ v (settled.wait later) stops
    · exact settled_filling plain (Timestamp.plusSeconds_mono later soon)
        (settled.sound.createFile? created) (FileTree.createFile?_content created) stops

theorem settled_claiming (settled : Settled path w) (stops : Stops (claiming path info) w v) :
    Settled path v := by
  rw [claiming] at stops
  cases parent? : Path.properParent? path with
  | none =>
    rw [parent?] at stops
    exact settled_writing plain soon settled stops
  | some parent =>
    rw [parent?] at stops
    have spares := MachineCall.Spares.createDirectories path parent
    cases stops with
    | here => exact settled
    | within later shown cut => exact (settled.wait later).cut spares cut
    | @after _ _ _ _ t later shown stops =>
      have made := (settled.wait later).spared spares
      have same := World.serve_clock (.createDirectories parent) { w with clock := t }
      rcases served : World.serve (.createDirectories parent) { w with clock := t } with
        ⟨made?, u⟩
      rw [served] at stops made same
      cases made? with
      | false => exact Safe.done _ u v made stops
      | true =>
        refine settled_writing plain ?_ made stops
        rw [show u.clock = t from same]
        exact Timestamp.plusSeconds_mono later soon

end Writing

/-- A session that claims a lock, and was told no time of the future. -/
theorem settled_claims {answers : List (Exchange Machine)} {p : Session (Except Error LockInfo)}
    (claims : Claims path answers p) {w v : World}
    (told : ∀ t, ⟨.now, t⟩ ∈ answers → t.Datable ∧ w.clock.before t = false)
    (settled : Settled path w) (stops : Stops p w v) : Settled path v := by
  induction claims generalizing w with
  | @asks answers c next quiet _ ih =>
    have leaves := MachineCall.leavesFiles_of_quiet quiet
    cases stops with
    | here => exact settled
    | within later shown cut => exact absurd cut (MachineCall.not_cut leaves)
    | @after _ _ _ _ t later shown stops =>
      refine ih _ (fun t' member => ?_) ((settled.wait later).spared (.of_leaves leaves path)) stops
      rw [World.serve_clock]
      rcases List.mem_cons.mp member with same | earlier
      · cases same
        exact ⟨shown, Timestamp.before_self t⟩
      · obtain ⟨shown', before⟩ := told t' earlier
        exact ⟨shown', Timestamp.not_before_trans later before⟩
  | writes made =>
    obtain ⟨-, begun⟩ := told _ made.acquired
    refine settled_claiming (made.plain fun t member => (told t member).1) ?_ settled stops
    rw [made.expires, Timestamp.plusSeconds_before]
    exact begun

theorem safe_claim (path holder : String) : Safe path (claim path holder).run :=
  fun _ _ settled stops => settled_claims (claims_claim path holder [])
    (fun _ member => absurd member List.not_mem_nil) settled stops

theorem safe_acquire (path holder : String) : Safe path (acquire path holder).run := by
  rw [acquire_eq]
  refine safe_afterReading (safe_claim path holder) fun existing => ?_
  refine .ask (.of_leaves (by trivial) path) fun now => ?_
  split
  · exact safe_note (safe_claim path holder)
  · exact .done _

end Sessions

/-- Acquires a lock, works and releases it, however the work ends. -/
def guarded {α : Type} (path holder : String) (work : LockInfo → Session α) : Attempt α := do
  let lock ← acquire path holder
  let result ← (work lock : Session α)
  release path lock.lockId
  return result

theorem safe_guarded {α : Type} {path : String} (holder : String) {work : LockInfo → Session α}
    (spares : ∀ lock, Only (MachineCall.Spares path) (work lock)) :
    Safe path (guarded path holder work).run := by
  refine (safe_acquire path holder).attempt fun lock => ?_
  refine .attempt (p := ExceptT.lift (work lock)) (.bind (.of_only (spares lock)) fun _ => .done _)
    fun result => ?_
  exact (safe_release path lock.lockId).attempt fun _ => .done _

/-! ## Acquiring after a stop -/

/-- A session fails only if the machine did not do something. -/
def Sure {α : Type} (p : Session (Except Error α)) : Prop :=
  ∀ xs e, Trace p xs (.error e) → ¬ Smooth xs

namespace Sure

theorem ok {α : Type} (a : α) : Sure (.done (.ok a)) := by
  intro xs e trace
  cases (trace_done_iff.mp trace).2

theorem ask {α : Type} {c : MachineCall} {next : c.Answer → Session (Except Error α)}
    (answered : ∀ answer, Exchange.done ⟨c, answer⟩ = true → Sure (next answer)) :
    Sure (.ask c next) := by
  intro xs e trace smooth
  obtain ⟨answer, ys, rfl, rest⟩ := trace_ask_iff.mp trace
  obtain ⟨done, later⟩ := List.forall_mem_cons.mp smooth
  exact answered answer done ys e rest later

end Sure

theorem sure_writing (path : String) (info : LockInfo) : Sure (writing path info) := by
  refine .ask fun made done => ?_
  obtain rfl : made = true := done
  refine .ask fun written done => ?_
  obtain rfl : written = true := done
  refine .ask fun synced done => ?_
  obtain rfl : synced = true := done
  exact .ask fun _ _ => .ok info

theorem sure_claiming (path : String) (info : LockInfo) : Sure (claiming path info) := by
  rw [claiming]
  cases Path.properParent? path with
  | none => exact sure_writing path info
  | some parent =>
    refine .ask fun made done => ?_
    obtain rfl : made = true := done
    exact sure_writing path info

/-- Nothing keeps a session from its lock that does not find another one. -/
theorem exec_claims {σ : Type} {serve : Server Machine σ} {view : σ → World}
    (timed : World.Timed serve view) {path : String} {answers : List (Exchange Machine)}
    {p : Session (Except Error LockInfo)} (claims : Claims path answers p) {s : σ}
    (smooth : Smooth (p.journal serve s)) :
    let after := p.exec serve s
    ∃ info, after.1 = .ok info ∧
      (view after.2).files.read? (view after.2).cwd path = some info.toText.toUTF8 ∧
      info.MadeOf (p.journal serve s ++ answers) := by
  induction claims generalizing s with
  | asks _ _ ih =>
    obtain ⟨info, ok, reads, made⟩ := ih _ (List.forall_mem_cons.mp smooth).2
    refine ⟨info, ok, reads, made.mono fun x member => ?_⟩
    simp only [journal, List.cons_append, List.mem_cons, List.mem_append] at member ⊢
    tauto
  | @writes answers info made =>
    rcases done : (claiming path info).exec serve s with ⟨result, u⟩
    cases result with
    | error e =>
      have trace := exec_trace serve (claiming path info) s
      rw [done] at trace
      exact absurd smooth (sure_claiming path info _ e trace)
    | ok got =>
      obtain ⟨rfl, reads⟩ := exec_claiming timed done
      exact ⟨got, rfl, reads, made.mono fun x => List.mem_append_right _⟩

/-- Of the beginning of a lock nothing is made. -/
theorem verdict_torn {info : LockInfo} {front back : ByteArray}
    (split : info.toText.toUTF8 = front ++ back) (cut : back ≠ .empty) :
    ∃ cause, verdict (some front) = .error (.state (.corrupted cause)) := by
  cases text? : String.fromUTF8? front with
  | none => exact ⟨.unreadableLock, by simp only [verdict, spelled, Option.bind_some, text?]⟩
  | some text =>
    obtain rfl := toUTF8_of_fromUTF8? text?
    obtain ⟨rest, whole, some⟩ := chars_of_bytes split
    have nothing := LockInfo.ofText?_cut whole (some cut)
    rw [String.ofList_toList] at nothing
    exact ⟨.malformedLock, by simp only [verdict, spelled, Option.bind_some, text?, nothing]⟩

/-- A lock file is the beginning of a lock without its end. -/
def Torn (path : String) (w : World) : Prop :=
  ∃ (info : LockInfo) (front back : ByteArray), info.toText.toUTF8 = front ++ back ∧
    back ≠ .empty ∧ w.files.read? w.cwd path = some front

theorem torn_congr {path : String} {v u : World} (same : v.SameFiles u) :
    Torn path u ↔ Torn path v := by
  rw [Torn, Torn, same.files, same.cwd]

section Later

variable {α : Type} {path : String}

/-- A lock file as processes leave it does not stop anybody once its lock has expired, unless it is
torn. -/
theorem acquire_settled {later : String} {v u : World} (left : Settled path v)
    (same : v.SameFiles u) (late : (v.clock.plusSeconds expirySeconds).before u.clock = true)
    (smooth : Smooth ((acquire path later).run.journal World.serve u)) :
    let after := (acquire path later).run.exec World.serve u
    (¬ Torn path v → ∃ info, after.1 = .ok info ∧
        after.2.files.read? after.2.cwd path = some info.toText.toUTF8) ∧
      (Torn path v → (∃ cause, after.1 = .error (.state (.corrupted cause))) ∧
        u.SameFiles after.2) := by
  rw [acquire_eq, journal_afterReading] at smooth
  obtain ⟨answered, smooth⟩ := smooth_append.mp (List.forall_mem_cons.mp smooth).2
  rw [acquire_eq, exec_afterReading, ← torn_congr same]
  rw [onward] at smooth ⊢
  have claims : ∀ {u : World}, Smooth ((claim path later).run.journal World.serve u) →
      let after := (claim path later).run.exec World.serve u
      ∃ info, after.1 = .ok info ∧
        after.2.files.read? after.2.cwd path = some info.toText.toUTF8 := by
    intro u smooth
    obtain ⟨info, ok, reads, -⟩ :=
      exec_claims World.timed_serve (claims_claim path later []) smooth
    exact ⟨info, ok, reads⟩
  cases there : u.files.pathExists u.cwd path with
  | false =>
    rw [there] at smooth
    refine ⟨fun _ => claims smooth, ?_⟩
    rintro ⟨-, front, -, -, -, reads⟩
    rw [FileTree.pathExists_of_read? reads] at there
    cases there
  | true =>
    rw [there] at answered smooth
    have some := answered _ List.mem_cons_self
    obtain ⟨content, reads⟩ := Option.isSome_iff_exists.mp some
    have held : v.contentOf path = .some content := by
      have held := FileTree.content?_of_read? reads
      rw [same.files, same.cwd] at held
      exact held
    rw [reads] at smooth ⊢
    simp only [if_true] at smooth ⊢
    cases left.remains with
    | absent none =>
      rw [none] at held
      cases held
    | @whole info plain soon whole =>
      obtain rfl := Option.some.inj (whole.symm.trans held)
      rw [verdict_toText plain] at smooth ⊢
      have expired : info.isExpired u.clock = true := Timestamp.before_of_not_before soon late
      refine ⟨fun _ => ?_, ?_⟩
      · simp only [takeOver, journal, exec_ask, World.serve, expired, if_true] at smooth ⊢
        exact claims (List.forall_mem_cons.mp (List.forall_mem_cons.mp smooth).2).2
      · rintro ⟨torn, front, back, split, cut, begun⟩
        obtain ⟨cause, error⟩ := verdict_torn split cut
        rw [← begun, reads, verdict_toText plain] at error
        cases error
    | torn split cut torn =>
      obtain rfl := Option.some.inj (torn.symm.trans held)
      obtain ⟨cause, error⟩ := verdict_torn split cut
      rw [error]
      exact ⟨fun whole => absurd ⟨_, _, _, split, cut, reads⟩ whole,
        fun _ => ⟨⟨cause, rfl⟩, .refl u⟩⟩

/-- A process has stopped while it acquired a lock, worked under it or released it, and its lock has
expired. Then the lock can be acquired, unless its file was left torn. -/
theorem acquire_after_stop {holder later : String} {work : LockInfo → Session α} {w v u : World}
    (settled : Settled path w) (spares : ∀ lock, Only (MachineCall.Spares path) (work lock))
    (stops : Stops (guarded path holder work).run w v) (same : v.SameFiles u)
    (late : (v.clock.plusSeconds expirySeconds).before u.clock = true)
    (smooth : Smooth ((acquire path later).run.journal World.serve u)) :
    let after := (acquire path later).run.exec World.serve u
    (¬ Torn path v → ∃ info, after.1 = .ok info ∧
        after.2.files.read? after.2.cwd path = some info.toText.toUTF8) ∧
      (Torn path v → (∃ cause, after.1 = .error (.state (.corrupted cause))) ∧
        u.SameFiles after.2) :=
  acquire_settled (safe_guarded holder spares w v settled stops) same late smooth

end Later

/-- A process stops as it has seen the lock file of another one. When that lock is over, a third
process acquires it. -/
theorem acquire_after_stop_of_whole :
    let path := "cluster.lock"
    let lock : LockInfo := { holder := "first", expiresAt := ⟨300, 0⟩ }
    let start : World :=
      { World.bare with files := World.bare.files.put [path] (.file lock.toText.toUTF8) }
    let work : LockInfo → Session Unit := fun _ => .ask (.pause 1000) .done
    let stopped := { start with clock := ⟨10, 0⟩ }
    let later := { start with clock := ⟨311, 0⟩ }
    let after := (acquire path "third").run.exec World.serve later
    Stops (guarded path "second" work).run start stopped ∧
      Smooth ((acquire path "third").run.journal World.serve later) ∧
      (¬ Torn path stopped → ∃ info, after.1 = .ok info ∧
        after.2.files.read? after.2.cwd path = some info.toText.toUTF8) ∧
      (Torn path stopped → (∃ cause, after.1 = .error (.state (.corrupted cause))) ∧
        later.SameFiles after.2) := by
  intro path lock start work stopped later after
  have plain : lock.Plain := by
    constructor <;> decide +kernel
  have shown : stopped.clock.Datable := by decide +kernel
  have stops : Stops (guarded path "second" work).run start stopped :=
    .after (t := ⟨10, 0⟩) rfl shown (.here _ _)
  have reads : start.files.read? start.cwd path = some lock.toText.toUTF8 := by
    have resolved : start.files.resolve? start.cwd path = some [path] := by decide +kernel
    rw [FileTree.read?, resolved]
    rfl
  have absent : World.bare.files.isDirectory [path] = false := by decide +kernel
  have sound : start.files.Sound := World.sound_bare.put (by decide) rfl fun directory => by
    rw [absent] at directory
    cases directory
  have settled : Settled path start :=
    ⟨sound, .whole plain (by decide +kernel) (FileTree.content?_of_read? reads)⟩
  have spares : ∀ lock, Only (MachineCall.Spares path) (work lock) := fun _ =>
    .ask (.of_leaves (by trivial) path) fun _ => .done _
  have smooth : Smooth ((acquire path "third").run.journal World.serve later) := by
    have reads' : later.files.read? later.cwd path = some lock.toText.toUTF8 := reads
    rw [acquire_eq, journal_afterReading, onward, FileTree.pathExists_of_read? reads', reads',
      verdict_toText plain, Smooth]
    decide +kernel
  exact ⟨stops, smooth, acquire_after_stop settled spares stops ⟨rfl, rfl⟩ (by decide +kernel)
    smooth⟩

/-- A process stops right after it has made its lock file, and nobody acquires the lock again. -/
theorem stop_blocks :
    let path := "cluster.lock"
    let p := (guarded path "first" fun _ => (.done () : Session Unit)).run
    let stopped := p.stateAfter World.serve .bare 6
    let later := { stopped with clock := ⟨301, 0⟩ }
    Settled path .bare ∧ Stops p .bare stopped ∧
      (stopped.clock.plusSeconds expirySeconds).before later.clock = true ∧
      Smooth ((acquire path "second").run.journal World.serve later) ∧
      ((acquire path "second").run.exec World.serve later).1 =
        .error (.state (.corrupted .malformedLock)) := by
  intro path p stopped later
  have shown : World.bare.clock.Datable := by decide +kernel
  refine ⟨⟨World.sound_bare, .absent (by decide +kernel)⟩, .moment p shown 6,
    by decide +kernel, ?_, ?_⟩
  · rw [Smooth]
    decide +kernel
  · have there : later.files.pathExists later.cwd path = true := by decide +kernel
    have empty : later.files.read? later.cwd path = some "".toUTF8 := by decide +kernel
    have nothing : LockInfo.ofText? "" = none := by decide +kernel
    rw [acquire_eq, exec_afterReading, onward, if_pos there, empty]
    simp only [verdict, spelled, Option.bind_some, fromUTF8?_toUTF8, nothing]
    rfl

end Lock

end ClusterConf
