import ClusterConf.Proofs.Clearing
import ClusterConf.Proofs.Convergence
import ClusterConf.Proofs.PlanExecution
import ClusterConf.Proofs.RecordEquality
import ClusterConf.Proofs.Recording
import ClusterConf.Proofs.Remainder
set_option autoImplicit false

/-!
Commands that write to a state file. Main statement: from what it has loaded, whatever that is, such
a command attains the entities that it works towards, while the global configuration is the loaded
one if the command has none of its own.
-/
namespace ClusterConf

open Program
open Control (mutations)
open Comparison (between stages)
open Kind (Alike Same)

/-- A command that writes to a state file: an apply of a desired snapshot, or a destroy. -/
inductive Writer where
  | apply (desired : Snapshot)
  | destroy (goOn : Bool)

namespace Writer

/-- What a writer works towards. -/
def goal : Writer → Snapshot
  | apply desired => desired
  | destroy _ => .empty

/-- Whether a writer finds something to do: an apply has a plan that is not empty, and a destroy
finds an entity. -/
def proposes (w : Writer) (loaded : Snapshot) : Bool :=
  match w with
  | apply desired =>
    match ((Reconciler.plan desired).run.exec recording (loaded, [])).1 with
    | .ok p => !p.isEmpty
    | .error _ => false
  | destroy _ =>
    match (Reconciler.current.run.exec recording (loaded, [])).1 with
    | .ok live => live.entityCount != 0
    | .error _ => false

/-- The work that a writer does while it holds the lock. -/
def work : Writer → Control Unit
  | apply desired => (Reconciler.apply desired false).run >>= fun _ => pure ()
  | destroy goOn => (Reconciler.destroy goOn).run >>= fun _ => pure ()

/-- What the work on a loaded snapshot comes to. -/
def result (w : Writer) (loaded : Snapshot) : Snapshot :=
  (w.work.exec recording (loaded, [])).2.1

/-- What is written during the work, once for each mutation. -/
def writes (w : Writer) (loaded : Snapshot) : List Snapshot :=
  (w.work.exec recording (loaded, [])).2.2

/-- A cluster after a command that runs alone. -/
def alone (w : Writer) (s : Snapshot) : Snapshot := if w.proposes s then w.result s else s

/-- Snapshots that a writer can work on: an apply has to compare them with its own. -/
def Accepts (w : Writer) (s : Snapshot) : Prop :=
  match w with
  | apply desired => s.WellKeyed ∧ desired.WellKeyed
  | destroy _ => True

/-- What becomes of the snapshot that a writer has loaded. -/
structure Attains (w : Writer) (loaded : Snapshot) : Prop where
  entities : ∀ k, Alike ((w.result loaded).records k) (w.goal.records k)
  globalConfig : (w.result loaded).globalConfig = w.goal.globalConfig.or loaded.globalConfig
  wellKeyed : (w.result loaded).WellKeyed
  last : (w.writes loaded).getLast?.getD loaded = w.result loaded
  meanwhile : ∀ s ∈ w.writes loaded, s.globalConfig = loaded.globalConfig ∨
    s.globalConfig = (w.result loaded).globalConfig
  idle : w.writes loaded = [] ↔ w.proposes loaded = false

end Writer

namespace Comparison

variable {live desired : Snapshot} {c : Comparison}

/-- The phases of a comparison leave the desired records, or records that equal them. -/
theorem alike_perform (compared : between live desired = .ok c) (k : Kind) :
    Alike ((c.perform stages live).records k) (desired.records k) := by
  obtain ⟨keyed, keyedDesired, describes⟩ := between_describes compared
  have settles := settles_perform describes
  have keyedAfter := settles.wellKeyed keyed keyedDesired
  refine Kind.alike_of_forall (keyedAfter.distinct k) (keyedDesired.distinct k)
    (fun key => settles.mem_keys_iff.mpr) fun r member => ?_
  rw [records_perform describes, List.mem_append] at member
  rcases member with survived | added
  · exact version_of_survivor describes keyed.distinct survived
  · exact ⟨r, (describes.mem_added_iff.mp added).1, rfl, .inl rfl⟩

end Comparison

namespace Writer

variable {loaded : Snapshot}

theorem exec_discard {α : Type} (p : Control α) (s : Recorded) :
    ((p >>= fun _ => pure ()).exec recording s).2 = (p.exec recording s).2 := by
  rw [exec_bind]
  rfl

theorem exec_apply (desired loaded : Snapshot) :
    ((Reconciler.apply desired false).run.exec recording (loaded, [])).2 =
      ((apply desired).result loaded, (apply desired).writes loaded) :=
  (exec_discard _ _).symm

theorem exec_destroy (goOn : Bool) (loaded : Snapshot) :
    ((Reconciler.destroy goOn).run.exec recording (loaded, [])).2 =
      ((destroy goOn).result loaded, (destroy goOn).writes loaded) :=
  (exec_discard _ _).symm

theorem attains_apply {desired : Snapshot} (keyed : loaded.WellKeyed)
    (keyedDesired : desired.WellKeyed) : Attains (.apply desired) loaded := by
  have trace := exec_trace recording (Reconciler.apply desired false).run (loaded, [])
  have follows := exec_follows recording (Reconciler.apply desired false).run (loaded, [])
  rw [exec_apply] at follows
  obtain ⟨c, compared, -, performed, calls⟩ := Reconciler.apply_succeeds keyed keyedDesired trace
    (follows.map Prod.fst fun _ _ _ => Recorded.ruled)
  obtain ⟨-, -, describes⟩ := Comparison.between_describes compared
  have result : (apply desired).result loaded = c.perform stages loaded := performed
  have global := Comparison.globalConfig_perform describes
  have changing := follows.mutations Recorded.unchanged
  rw [calls] at changing
  obtain ⟨written, appended, writes⟩ := Recorded.writes changing
  have told : (apply desired).writes loaded = written := appended
  have planned : (apply desired).proposes loaded = !(c.mutationsOf stages).isEmpty := by
    have plan := Reconciler.plan_tells compared
      (exec_trace recording (Reconciler.plan desired).run (loaded, []))
      ((exec_follows recording (Reconciler.plan desired).run (loaded, [])).map Prod.fst
        fun _ _ _ step => .inl (Recorded.ruled step))
    simp only [proposes, plan, Plan.isEmpty, Plan.actions_ofComparison, List.isEmpty_map]
  refine ⟨?_, ?_, ?_, ?_, ?_, ?_⟩
  · rw [result]
    exact Comparison.alike_perform compared
  · rw [result]
    exact global
  · rw [result]
    exact (Comparison.settles_perform describes).wellKeyed keyed keyedDesired
  · rw [told, result, ← performed]
    exact writes.last
  · intro s member
    rw [told] at member
    rcases writes.globalConfig s member with same | ⟨g, inside, set⟩
    · exact .inl same
    · rcases Comparison.mem_part_cases inside with ⟨operation, k, r, -, other⟩ | ⟨g', new, equal⟩
      · cases other
      · cases equal
        right
        rw [result, global, describes.new_of_modified_globalConfig new, set]
        rfl
  · rw [told, planned, ← List.length_eq_zero_iff, writes.length, List.length_eq_zero_iff]
    simp

theorem proposes_destroy {goOn : Bool} :
    (destroy goOn).proposes loaded = false ↔ ∀ k, loaded.records k = [] := by
  obtain ⟨live, found, mirrors⟩ := Reconciler.current_mirrors
    (exec_trace recording Reconciler.current.run (loaded, []))
    ((exec_follows recording Reconciler.current.run (loaded, [])).map Prod.fst
      fun _ _ _ => Recorded.ruled)
  rw [← mirrors.records_eq_nil_iff, ← Snapshot.entityCount_eq_zero_iff]
  simp [proposes, found]

theorem attains_destroy {goOn : Bool} : Attains (.destroy goOn) loaded := by
  have trace := exec_trace recording (Reconciler.destroy goOn).run (loaded, [])
  have follows := exec_follows recording (Reconciler.destroy goOn).run (loaded, [])
  rw [exec_destroy] at follows
  obtain ⟨es, calls, empty, cleared⟩ := Reconciler.destroy_clears trace
    (follows.map Prod.fst fun _ _ _ => Recorded.ruled)
  have changing := follows.mutations Recorded.unchanged
  rw [calls] at changing
  obtain ⟨written, appended, writes⟩ := Recorded.writes changing
  have told : (destroy goOn).writes loaded = written := appended
  have none : ∀ k, ((destroy goOn).result loaded).records k = [] := cleared
  have untouched : ∀ s ∈ (destroy goOn).writes loaded, s.globalConfig = loaded.globalConfig := by
    intro s member
    rw [told] at member
    rcases writes.globalConfig s member with same | ⟨g, inside, -⟩
    · exact same
    · obtain ⟨e, -, impossible⟩ := List.mem_map.mp inside
      cases impossible
  have last : ((destroy goOn).writes loaded).getLast?.getD loaded =
      (destroy goOn).result loaded := by
    rw [told]
    exact writes.last
  have kept : ((destroy goOn).result loaded).globalConfig = loaded.globalConfig := by
    rw [← last]
    cases final : ((destroy goOn).writes loaded).getLast? with
    | none => rfl
    | some s => exact untouched s (List.mem_of_getLast? final)
  refine ⟨fun k => ?_, ?_, ?_, last, fun s member => .inl (untouched s member), ?_⟩
  · have goal : ((destroy goOn).goal).records k = [] := Snapshot.records_empty k
    rw [none, goal]
    exact fun key => .none
  · rw [kept]
    rfl
  · refine ⟨fun k => ?_, fun k => ?_⟩ <;> simp [Snapshot.keys, none]
  · rw [told, proposes_destroy, ← empty, ← List.length_eq_zero_iff, writes.length,
      List.length_eq_zero_iff]
    exact List.map_eq_nil_iff

theorem attains {w : Writer} (accepts : w.Accepts loaded) : w.Attains loaded := by
  cases w with
  | apply desired => exact attains_apply accepts.1 accepts.2
  | destroy goOn => exact attains_destroy

/-- Who finds something to do can do it. -/
theorem accepts_of_proposes {w : Writer} (proposes : w.proposes loaded = true) :
    w.Accepts loaded := by
  cases w with
  | apply desired =>
    have trace := exec_trace recording (Reconciler.plan desired).run (loaded, [])
    have follows := exec_follows recording (Reconciler.plan desired).run (loaded, [])
    unfold Writer.proposes at proposes
    simp only at proposes
    split at proposes
    · rename_i p planned
      rw [planned] at trace
      obtain ⟨c, compared, -⟩ := Reconciler.plan_compares trace
        (follows.map Prod.fst fun _ _ _ step => .inl (Recorded.ruled step))
      obtain ⟨keyed, keyedDesired, -⟩ := Comparison.between_describes compared
      exact ⟨keyed, keyedDesired⟩
    · cases proposes
  | destroy goOn => trivial

/-- Who finds nothing to do leaves everything as it would after the work. -/
theorem alone_eq_result {w : Writer} (accepts : w.Accepts loaded) :
    w.alone loaded = w.result loaded := by
  have attains := attains accepts
  unfold alone
  split
  · rfl
  · rename_i idle
    rw [← attains.last, attains.idle.mpr (Bool.eq_false_iff.mpr idle)]
    rfl

end Writer
end ClusterConf
