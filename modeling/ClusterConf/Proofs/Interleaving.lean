import ClusterConf.Proofs.Writers
import Mathlib.Logic.Function.Basic
set_option autoImplicit false

/-!
Two commands that write to one state file, by the steps that their sessions take on it: each loads
the file, acquires the lock, writes and releases the lock. The lock keeps their mutations apart, but
not what one of them has loaded before. Main statement: however their steps interleave, the entities
come out as if one command had run after the other, and the global configuration is lost just where
the later one has none of its own and has loaded another one than the earlier one left.
-/
namespace ClusterConf

open Kind (Alike)

inductive Side where
  | left
  | right
  deriving DecidableEq

namespace Side

def other : Side → Side
  | left => right
  | right => left

@[simp] theorem other_ne (side : Side) : side.other ≠ side := by
  cases side <;> decide

@[simp] theorem other_other (side : Side) : side.other.other = side := by
  cases side <;> rfl

theorem eq_or_other (side first : Side) : side = first ∨ side = first.other := by
  cases side <;> cases first <;> simp [other]

end Side

inductive Stage where
  | waiting
  /-- It has loaded the state file and found something to do. -/
  | opened (loaded : Snapshot)
  /-- It holds the lock, and has some snapshots left to write. -/
  | holding (loaded : Snapshot) (left : List Snapshot)
  | finished (loaded : Snapshot)
  /-- It found nothing to do, or it found the lock held. -/
  | stopped

/-- Whether a command has held the lock, and released it. -/
def Stage.isFinished : Stage → Bool
  | finished _ => true
  | _ => false

/-- A state file, its lock, and two commands. -/
structure Scene where
  file : Option Snapshot
  locked : Bool
  stage : Side → Stage

namespace Scene

/-- What a state file is loaded as; one that is not there is an empty cluster. -/
def live (scene : Scene) : Snapshot := scene.file.getD .empty

def put (scene : Scene) (side : Side) (stage : Stage) : Scene :=
  { scene with stage := Function.update scene.stage side stage }

/-- The next step of a command: it loads the state file, acquires the lock, writes to the file or
releases the lock. -/
def step (scene : Scene) (writers : Side → Writer) (side : Side) : Scene :=
  match scene.stage side with
  | .waiting =>
    if (writers side).proposes scene.live then scene.put side (.opened scene.live)
    else scene.put side .stopped
  | .opened loaded =>
    if scene.locked then scene.put side .stopped
    else { scene.put side (.holding loaded ((writers side).writes loaded)) with locked := true }
  | .holding loaded (next :: rest) =>
    { scene.put side (.holding loaded rest) with file := some next }
  | .holding loaded [] => { scene.put side (.finished loaded) with locked := false }
  | .finished _ | .stopped => scene

/-- The steps of two commands on a state file, one of each command at a time. -/
def run (writers : Side → Writer) (file : Option Snapshot) (schedule : List Side) : Scene :=
  schedule.foldl (fun scene side => scene.step writers side) ⟨file, false, fun _ => .waiting⟩

def serial (writers : Side → Writer) (first : Side) (s : Snapshot) : Snapshot :=
  (writers first.other).alone ((writers first).alone s)

end Scene

/-- Snapshots with the same records under the same keys, and the same global configuration. -/
structure Snapshot.SameCluster (s t : Snapshot) : Prop where
  entities : ∀ k, Alike (s.records k) (t.records k)
  globalConfig : s.globalConfig = t.globalConfig

namespace Writer

variable {w : Writer} {before loaded start live s : Snapshot} {rest : List Snapshot}

/-- What a state file can hold while a writer works that has loaded `before`. -/
def Passes (w : Writer) (before s : Snapshot) : Prop := s = before ∨ s ∈ w.writes before

/-- How far a writer has come with what it has loaded. When it acquired the lock the state file held
`start`, now it holds `live`. -/
structure Working (w : Writer) (loaded start live : Snapshot) (rest : List Snapshot) : Prop where
  proposes : w.proposes loaded = true
  written : ∃ done, w.writes loaded = done ++ rest ∧ done.getLast?.getD start = live

namespace Working

theorem begin (proposes : w.proposes loaded = true) :
    Working w loaded start start (w.writes loaded) :=
  ⟨proposes, [], rfl, rfl⟩

theorem next (working : Working w loaded start live (s :: rest)) :
    Working w loaded start s rest := by
  obtain ⟨proposes, done, split, -⟩ := working
  refine ⟨proposes, done ++ [s], ?_, ?_⟩
  · rw [split, List.append_assoc, List.singleton_append]
  · rw [List.getLast?_concat]
    rfl

theorem passes (working : Working w loaded loaded live rest) : w.Passes loaded live := by
  obtain ⟨-, done, split, last⟩ := working
  cases final : done.getLast? with
  | none =>
    rw [final] at last
    exact .inl last.symm
  | some t =>
    rw [final] at last
    obtain rfl : t = live := last
    right
    rw [split]
    exact List.mem_append_left rest (List.mem_of_getLast? final)

/-- When nothing is left to write the file holds the result, whatever was in it before. -/
theorem finish (working : Working w loaded start live []) : live = w.result loaded := by
  obtain ⟨proposes, done, split, last⟩ := working
  have attains := attains (accepts_of_proposes proposes)
  rw [List.append_nil] at split
  have some : done ≠ [] := by
    intro none
    rw [← split, attains.idle, proposes] at none
    cases none
  rw [← last, ← attains.last, split, List.getLast?_eq_some_getLast some]
  rfl

end Working

end Writer

namespace Scene

variable {writers : Side → Writer} {scene : Scene} {side : Side}

/-- A command that has not acquired the lock. It has not loaded the state file, or has found
something to do in one that it can have seen. -/
def Early (w : Writer) (seen : Snapshot → Prop) : Stage → Prop
  | .waiting | .stopped => True
  | .opened loaded => seen loaded ∧ w.proposes loaded = true
  | .holding _ _ | .finished _ => False

theorem Early.mono {w : Writer} {seen seen' : Snapshot → Prop} {stage : Stage}
    (early : Early w seen stage) (wider : ∀ s, seen s → seen' s) : Early w seen' stage := by
  cases stage with
  | opened loaded => exact early.imp_left (wider loaded)
  | waiting | stopped => trivial
  | holding _ _ | finished _ => exact early

theorem stage_step_of_ne {other : Side} (different : other ≠ side) :
    (scene.step writers side).stage other = scene.stage other := by
  have put : ∀ stage, (scene.put side stage).stage other = scene.stage other :=
    fun stage => Function.update_of_ne different ..
  unfold step
  split
  · split <;> exact put _
  · split <;> exact put _
  · exact put _
  · exact put _
  · rfl
  · rfl

@[simp] theorem stage_put_self (stage : Stage) : (scene.put side stage).stage side = stage :=
  Function.update_self ..

/-- A command that has not acquired the lock goes on without it, or acquires it. -/
theorem step_early {seen : Snapshot → Prop}
    (early : Early (writers side) seen (scene.stage side)) (visible : seen scene.live) :
    (scene.step writers side).live = scene.live ∧
      ((scene.step writers side).locked = scene.locked ∧
          Early (writers side) seen ((scene.step writers side).stage side) ∨
        scene.locked = false ∧ (scene.step writers side).locked = true ∧
          ∃ loaded, seen loaded ∧ (writers side).proposes loaded = true ∧
            (scene.step writers side).stage side =
              .holding loaded ((writers side).writes loaded)) := by
  cases reached : scene.stage side with
  | waiting =>
    by_cases proposes : (writers side).proposes scene.live = true
    · have next : scene.step writers side = scene.put side (.opened scene.live) := by
        simp only [step, reached, proposes, ↓reduceIte]
      rw [next, stage_put_self]
      exact ⟨rfl, .inl ⟨rfl, visible, proposes⟩⟩
    · have next : scene.step writers side = scene.put side .stopped := by
        simp only [step, reached, proposes, Bool.false_eq_true, ↓reduceIte]
      rw [next, stage_put_self]
      exact ⟨rfl, .inl ⟨rfl, trivial⟩⟩
  | opened loaded =>
    rw [reached] at early
    cases locked : scene.locked with
    | true =>
      have next : scene.step writers side = scene.put side .stopped := by
        simp only [step, reached, locked, ↓reduceIte]
      rw [next, stage_put_self]
      exact ⟨rfl, .inl ⟨locked, trivial⟩⟩
    | false =>
      have next : scene.step writers side =
          { scene.put side (.holding loaded ((writers side).writes loaded)) with
            locked := true } := by
        simp only [step, reached, locked, Bool.false_eq_true, ↓reduceIte]
      rw [next]
      exact ⟨rfl, .inr ⟨rfl, rfl, loaded, early.1, early.2, stage_put_self _⟩⟩
  | stopped =>
    have next : scene.step writers side = scene := by
      simp only [step, reached]
    rw [next, reached]
    exact ⟨rfl, .inl ⟨rfl, trivial⟩⟩
  | holding loaded rest =>
    rw [reached] at early
    exact early.elim
  | finished loaded =>
    rw [reached] at early
    exact early.elim

/-- A command that holds the lock writes its next snapshot. -/
theorem step_write (writers : Side → Writer) {loaded s : Snapshot} {rest : List Snapshot}
    (held : scene.stage side = .holding loaded (s :: rest)) :
    (scene.step writers side).stage side = .holding loaded rest ∧
      (scene.step writers side).live = s ∧ (scene.step writers side).locked = scene.locked := by
  unfold step
  rw [held]
  exact ⟨stage_put_self _, rfl, rfl⟩

/-- A command that has nothing left to write releases the lock. -/
theorem step_release (writers : Side → Writer) {loaded : Snapshot}
    (held : scene.stage side = .holding loaded []) :
    (scene.step writers side).stage side = .finished loaded ∧
      (scene.step writers side).live = scene.live ∧
      (scene.step writers side).locked = false := by
  unfold step
  rw [held]
  exact ⟨stage_put_self _, rfl, rfl⟩

theorem step_finished {loaded : Snapshot} (finished : scene.stage side = .finished loaded) :
    scene.step writers side = scene := by
  simp only [step, finished]

/-- The course of two commands on a state file that held `before`. The one that acquires the lock
first has loaded that; the other one may have loaded it too, or whatever the first one has written
when it does. -/
inductive Course (writers : Side → Writer) (before : Snapshot) (scene : Scene) : Prop
  | untouched (live : scene.live = before) (unlocked : scene.locked = false)
      (early : ∀ side, Early (writers side) (· = before) (scene.stage side))
  | earlier (first : Side) (rest : List Snapshot) (locked : scene.locked = true)
      (own : scene.stage first = .holding before rest)
      (working : (writers first).Working before before scene.live rest)
      (next : Early (writers first.other) ((writers first).Passes before)
        (scene.stage first.other))
  | between (first : Side) (unlocked : scene.locked = false)
      (own : scene.stage first = .finished before)
      (worked : (writers first).Working before before scene.live [])
      (next : Early (writers first.other) ((writers first).Passes before)
        (scene.stage first.other))
  | later (first : Side) (loaded : Snapshot) (rest : List Snapshot) (locked : scene.locked = true)
      (own : scene.stage first = .finished before)
      (proposed : (writers first).proposes before = true)
      (next : scene.stage first.other = .holding loaded rest)
      (passes : (writers first).Passes before loaded) (start : Snapshot)
      (working : (writers first.other).Working loaded start scene.live rest)
  | ended (first : Side) (loaded : Snapshot) (unlocked : scene.locked = false)
      (own : scene.stage first = .finished before)
      (proposed : (writers first).proposes before = true)
      (next : scene.stage first.other = .finished loaded)
      (passes : (writers first).Passes before loaded) (start : Snapshot)
      (worked : (writers first.other).Working loaded start scene.live [])

/-- Whatever step comes next, the commands stay on course. -/
theorem Course.step {before : Snapshot} (course : Course writers before scene) (side : Side) :
    Course writers before (scene.step writers side) := by
  cases course with
  | untouched live unlocked early =>
    obtain ⟨same, ⟨lock, stillEarly⟩ | ⟨-, locked, loaded, rfl, proposes, held⟩⟩ :=
      step_early (early side) live
    · refine .untouched (same.trans live) (lock.trans unlocked) fun other => ?_
      by_cases own : other = side
      · rw [own]
        exact stillEarly
      · rw [stage_step_of_ne own]
        exact early other
    · refine .earlier side _ locked held ?_ ?_
      · rw [same, live]
        exact .begin proposes
      · rw [stage_step_of_ne side.other_ne]
        exact (early side.other).mono fun s => .inl
  | earlier first rest locked own working next =>
    rcases side.eq_or_other first with rfl | rfl
    · have next' : Early (writers side.other) ((writers side).Passes before)
          ((scene.step writers side).stage side.other) := by
        rw [stage_step_of_ne side.other_ne]
        exact next
      cases rest with
      | nil =>
        obtain ⟨finished, live, unlocked⟩ := step_release writers own
        exact .between side unlocked finished (live ▸ working) next'
      | cons s rest =>
        obtain ⟨held, live, lock⟩ := step_write writers own
        exact .earlier side rest (lock.trans locked) held (live ▸ working.next) next'
    · obtain ⟨same, ⟨lock, stillEarly⟩ | ⟨unlocked, -⟩⟩ := step_early next working.passes
      · refine .earlier first rest (lock.trans locked) ?_ (same ▸ working) stillEarly
        rw [stage_step_of_ne first.other_ne.symm]
        exact own
      · rw [locked] at unlocked
        cases unlocked
  | between first unlocked own worked next =>
    rcases side.eq_or_other first with rfl | rfl
    · rw [step_finished own]
      exact .between side unlocked own worked next
    · have own' : (scene.step writers first.other).stage first = .finished before := by
        rw [stage_step_of_ne first.other_ne.symm]
        exact own
      obtain ⟨same, ⟨lock, stillEarly⟩ | ⟨-, locked, loaded, passes, proposes, held⟩⟩ :=
        step_early next worked.passes
      · exact .between first (lock.trans unlocked) own' (same ▸ worked) stillEarly
      · exact .later first loaded _ locked own' worked.proposes held passes _ (.begin proposes)
  | later first loaded rest locked own proposed next passes start working =>
    rcases side.eq_or_other first with rfl | rfl
    · rw [step_finished own]
      exact .later side loaded rest locked own proposed next passes start working
    · have own' : (scene.step writers first.other).stage first = .finished before := by
        rw [stage_step_of_ne first.other_ne.symm]
        exact own
      cases rest with
      | nil =>
        obtain ⟨finished, live, unlocked⟩ := step_release writers next
        exact .ended first loaded unlocked own' proposed finished passes start (live ▸ working)
      | cons s rest =>
        obtain ⟨held, live, lock⟩ := step_write writers next
        exact .later first loaded rest (lock.trans locked) own' proposed held passes start
          (live ▸ working.next)
  | ended first loaded unlocked own proposed next passes start worked =>
    rcases side.eq_or_other first with rfl | rfl
    · rw [step_finished own]
      exact .ended side loaded unlocked own proposed next passes start worked
    · rw [step_finished next]
      exact .ended first loaded unlocked own proposed next passes start worked

theorem course_run (writers : Side → Writer) (file : Option Snapshot) (schedule : List Side) :
    Course writers (file.getD .empty) (run writers file schedule) := by
  induction schedule using List.reverseRecOn with
  | nil => exact .untouched rfl rfl fun side => trivial
  | append_singleton schedule side ih =>
    rw [run, List.foldl_append]
    exact ih.step side

end Scene

namespace Writer

variable {w : Writer} {s t : Snapshot}

theorem Accepts.of_wellKeyed (accepts : w.Accepts s) (keyed : t.WellKeyed) : w.Accepts t := by
  cases w with
  | apply desired => exact ⟨keyed, accepts.2⟩
  | destroy goOn => trivial

theorem wellKeyed_alone (keyed : s.WellKeyed) (w : Writer) : (w.alone s).WellKeyed := by
  unfold alone
  split
  · rename_i proposes
    exact (attains (accepts_of_proposes proposes)).wellKeyed
  · exact keyed

theorem Accepts.alone (accepts : w.Accepts s) (v : Writer) : w.Accepts (v.alone s) := by
  cases w with
  | apply desired => exact ⟨wellKeyed_alone accepts.1 v, accepts.2⟩
  | destroy goOn => trivial

theorem globalConfig_alone (accepts : w.Accepts s) :
    (w.alone s).globalConfig = w.goal.globalConfig.or s.globalConfig := by
  rw [alone_eq_result accepts]
  exact (attains accepts).globalConfig

/-- A command without a global configuration of its own leaves the one that is there. -/
theorem globalConfig_alone_of_none (unset : w.goal.globalConfig = none) (s : Snapshot) :
    (w.alone s).globalConfig = s.globalConfig := by
  by_cases proposes : w.proposes s = true
  · rw [globalConfig_alone (accepts_of_proposes proposes), unset]
    rfl
  · rw [alone, if_neg proposes]

variable {earlier later : Writer} {before loaded : Snapshot}

/-- Whatever a command starts from, it comes to the same entities. -/
theorem alike_results (left : w.Accepts s) (right : w.Accepts t) (k : Kind) :
    Alike ((w.result s).records k) ((w.alone t).records k) := by
  rw [alone_eq_result right]
  exact ((attains left).entities k).of_alike ((attains right).entities k)

/-- What an earlier command leaves a later one can work on. -/
theorem accepts_alone (earlierAccepts : earlier.Accepts before) (accepts : later.Accepts loaded) :
    later.Accepts (earlier.alone before) := by
  rw [alone_eq_result earlierAccepts]
  exact accepts.of_wellKeyed (attains earlierAccepts).wellKeyed

/-- Whether what the later one makes of what it has loaded could be the outcome of the two commands
in some order. -/
theorem sameCluster_iff (earlierAccepts : earlier.Accepts before)
    (accepts : later.Accepts loaded) :
    ((later.result loaded).SameCluster (later.alone (earlier.alone before)) ∨
        (later.result loaded).SameCluster (earlier.alone (later.alone before))) ↔
      ¬ (later.goal.globalConfig = none ∧
        loaded.globalConfig ≠ (earlier.alone before).globalConfig) := by
  have next := accepts_alone earlierAccepts accepts
  have final := (attains accepts).globalConfig
  constructor
  · rintro same ⟨unset, lost⟩
    rw [unset, Option.none_or] at final
    rw [← final] at lost
    rcases same with inOrder | swapped
    · refine lost (inOrder.globalConfig.trans ?_)
      exact globalConfig_alone_of_none unset _
    · refine lost (swapped.globalConfig.trans ?_)
      rw [globalConfig_alone (earlierAccepts.alone later), globalConfig_alone_of_none unset,
        globalConfig_alone earlierAccepts]
  · intro kept
    refine .inl ⟨alike_results accepts next, ?_⟩
    rw [final, globalConfig_alone next]
    cases set : later.goal.globalConfig with
    | some g => rfl
    | none =>
      have same : loaded.globalConfig = (earlier.alone before).globalConfig := by
        by_contra lost
        exact kept ⟨set, lost⟩
      rw [same]

end Writer

namespace Scene

theorem Early.isFinished {w : Writer} {seen : Snapshot → Prop} {stage : Stage}
    (early : Early w seen stage) : stage.isFinished = false := by
  cases stage with
  | finished loaded => exact early.elim
  | waiting | stopped | opened _ | holding _ _ => rfl

theorem exists_serial_iff {writers : Side → Writer} {s t : Snapshot} (first : Side) :
    (∃ order, t.SameCluster (serial writers order s)) ↔
      t.SameCluster (serial writers first s) ∨ t.SameCluster (serial writers first.other s) := by
  constructor
  · rintro ⟨order, same⟩
    rcases order.eq_or_other first with rfl | rfl
    · exact .inl same
    · exact .inr same
  · rintro (same | same)
    · exact ⟨first, same⟩
    · exact ⟨first.other, same⟩

/--
Two commands whose steps interleave leave the entities that the one which held the lock first and
then the other one would leave if they ran one after the other. They leave a cluster as if they had
run in some order, except if the later one has no global configuration of its own and has loaded
another one than the earlier one left.
-/
theorem run_serial_iff (writers : Side → Writer) (file : Option Snapshot) (schedule : List Side)
    (ended : ∀ side, ((run writers file schedule).stage side).isFinished = true) :
    let before := file.getD .empty
    let final := run writers file schedule
    ∃ first loaded, final.stage first = .finished before ∧
      final.stage first.other = .finished loaded ∧ (writers first).Passes before loaded ∧
      (∀ k, Alike (final.live.records k) ((serial writers first before).records k)) ∧
      ((∃ order, final.live.SameCluster (serial writers order before)) ↔
        ¬ ((writers first.other).goal.globalConfig = none ∧
          loaded.globalConfig ≠ ((writers first).alone before).globalConfig)) := by
  intro before final
  have unfinished : ∀ {side : Side}, (final.stage side).isFinished = false → False := by
    intro side still
    have done := ended side
    rw [still] at done
    cases done
  cases course_run writers file schedule with
  | untouched live unlocked early => exact (unfinished (early .left).isFinished).elim
  | earlier first rest locked own working next => exact (unfinished next.isFinished).elim
  | between first unlocked own worked next => exact (unfinished next.isFinished).elim
  | later first loaded rest locked own proposed next passes start working =>
    exact (unfinished (congrArg Stage.isFinished next)).elim
  | ended first loaded unlocked own proposed next passes start worked =>
    have earlierAccepts := Writer.accepts_of_proposes proposed
    have accepts := Writer.accepts_of_proposes worked.proposes
    have live : final.live = (writers first.other).result loaded := worked.finish
    refine ⟨first, loaded, own, next, passes, fun k => ?_, ?_⟩
    · rw [live]
      exact Writer.alike_results accepts (Writer.accepts_alone earlierAccepts accepts) k
    · have swapped : serial writers first.other before =
          (writers first).alone ((writers first.other).alone before) := by
        rw [serial, Side.other_other]
      rw [exists_serial_iff first, live, swapped]
      exact Writer.sameCluster_iff earlierAccepts accepts

/-- A command has loaded a cluster of which another one has destroyed a part. -/
theorem run_serial_iff_of_destroy :
    let before := Snapshot.small "staff" ⟨0x3ff0000000000000⟩
    let writers : Side → Writer
      | .left => .destroy false
      | .right => .apply (.small "guests" ⟨0x4000000000000000⟩)
    let schedule : List Side :=
      [.left, .left, .left, .right] ++ List.replicate 4 .left ++ List.replicate 7 .right
    (∀ side, ((run writers (some before) schedule).stage side).isFinished = true) ∧
      ∃ order, ∀ k, Alike ((run writers (some before) schedule).live.records k)
        ((serial writers order before).records k) := by
  intro before writers schedule
  have ended : ∀ side,
      ((run writers (some before) schedule).stage side).isFinished = true := by
    intro side
    cases side <;> decide +kernel
  obtain ⟨first, -, -, -, -, entities, -⟩ :=
    run_serial_iff writers (some before) schedule ended
  exact ⟨ended, first, entities⟩

/-- A command that has a project in mind has loaded the state file before another command set the
global configuration there. -/
theorem run_loses_globalConfig :
    let writers : Side → Writer
      | .left => .apply { Snapshot.empty with globalConfig := some { maxJobs := 9 } }
      | .right => .apply { Snapshot.empty with projects := [{ name := "y" }] }
    let final := run writers none
      [.right, .left, .left, .left, .left, .right, .right, .right]
    (∀ side, (final.stage side).isFinished = true) ∧
      ¬ ∃ order, final.live.SameCluster (serial writers order .empty) := by
  intro writers final
  have ended : ∀ side, (final.stage side).isFinished = true := by
    intro side
    cases side <;> decide +kernel
  have lost : final.live.globalConfig = none := by decide +kernel
  refine ⟨ended, ?_⟩
  rintro ⟨order, same⟩
  have kept : (serial writers order .empty).globalConfig ≠ none := by
    cases order <;> decide +kernel
  exact kept (same.globalConfig ▸ lost)

end Scene

end ClusterConf
