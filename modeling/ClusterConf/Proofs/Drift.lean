import ClusterConf.Proofs.Convergence
import ClusterConf.Proofs.FileAccess
import ClusterConf.Proofs.PlanExecution
set_option autoImplicit false

/-!
Drift. Main statement: a drift report, a plan and an apply of one desired snapshot agree on whether
there is anything to do and on what it is, and an apply that succeeded leaves no drift.
-/
namespace ClusterConf

open Program
open Control (mutations)
open Comparison (stages)
open Keyed (keysOf)
open Difference (hasKey)
open DriftReport (describe)
open Store (Readable)

/-- What an action is aimed at, by kind and key. -/
def Action.name (a : Action) : String := a.target.label ++ " " ++ a.key

namespace Plan

/-- The entities that the actions of an operation are aimed at, in the order of the plan. -/
def names (p : Plan) (operation : Operation) : List String :=
  (p.actions.filter fun a => a.operation = operation ∧ a.target ≠ .globalConfig).map Action.name

theorem filter_actionsOn (o operation : Operation) (s : Snapshot) (order : List Kind) :
    (actionsOn o s order).filter (fun a => a.operation = operation ∧ a.target ≠ .globalConfig) =
      if o = operation then actionsOn o s order else [] := by
  have uniform : ∀ a ∈ actionsOn o s order, a.operation = o ∧ a.target ≠ .globalConfig := by
    intro a member
    obtain ⟨k, -, inside⟩ := List.mem_flatMap.mp member
    obtain ⟨key, -, rfl⟩ := List.mem_map.mp inside
    exact ⟨rfl, Target.noConfusion⟩
  split
  · rename_i same
    refine List.filter_eq_self.mpr fun a member => decide_eq_true ?_
    exact same ▸ uniform a member
  · rename_i different
    refine List.filter_eq_nil_iff.mpr fun a member aimed => different ?_
    exact (uniform a member).1.symm.trans (of_decide_eq_true aimed).1

variable (c : Comparison) (configHash : String)

theorem names_ofComparison (operation : Operation) :
    (ofComparison c configHash).names operation =
      (actionsOn operation (c.part operation)
        (if operation = .delete then Kind.deletionOrder else Kind.creationOrder)).map
        Action.name := by
  have aside : (if c.modified.globalConfig.isSome then
      [(⟨.update, .globalConfig, ""⟩ : Action)] else []).filter
        (fun a => a.operation = operation ∧ a.target ≠ .globalConfig) = [] := by
    split
    · rw [List.filter_cons_of_neg (by simp), List.filter_nil]
    · exact List.filter_nil
  simp only [names, ofComparison, List.filter_append, filter_actionsOn, aside, List.append_nil]
  cases operation <;> simp [Comparison.part]

theorem mem_globalConfig_iff :
    ⟨.update, .globalConfig, ""⟩ ∈ (ofComparison c configHash).actions ↔
      c.modified.globalConfig.isSome = true := by
  have others : ∀ o s order, (⟨.update, .globalConfig, ""⟩ : Action) ∉ actionsOn o s order := by
    intro o s order member
    obtain ⟨k, -, inside⟩ := List.mem_flatMap.mp member
    obtain ⟨key, -, same⟩ := List.mem_map.mp inside
    cases same
  simp [ofComparison, others]

theorem isEmpty_iff :
    (ofComparison c configHash).isEmpty = true ↔ c.mutationsOf stages = [] := by
  rw [isEmpty, List.isEmpty_iff, actions_ofComparison, List.map_eq_nil_iff]

end Plan

namespace DriftReport

theorem describe_eq (operation : Operation) (s : Snapshot) :
    describe s = (Plan.actionsOn operation s Kind.creationOrder).map Action.name := by
  simp only [describe, Plan.actionsOn, List.map_flatMap, List.map_map]
  rfl

theorem describe_perm (operation : Operation) (s : Snapshot) :
    (describe s).Perm ((Plan.actionsOn operation s Kind.deletionOrder).map Action.name) := by
  rw [describe_eq operation]
  exact ((List.reverse_perm Kind.creationOrder).symm.flatMap_right _).map _

theorem length_describe (s : Snapshot) : (describe s).length = s.entityCount := by
  simp only [describe, Snapshot.entityCount, List.length_flatMap, List.length_map, Snapshot.keys,
    Snapshot.entities]

end DriftReport

namespace Comparison.Describes

variable {c : Comparison} {old new : Snapshot}

/-- Of each kind the two sides share the keys that are neither missing nor unmanaged. -/
theorem count_balance (describes : c.Describes old new) (distinctOld : old.Distinct)
    (distinctNew : new.Distinct) (k : Kind) :
    old.count k + c.added.count k = new.count k + c.removed.count k := by
  have stays : ((old.records k).filter fun r => hasKey (k.key r) (new.records k)).length =
      ((new.records k).filter fun r => hasKey (k.key r) (old.records k)).length := by
    have shared : ((old.keys k).filter fun key => hasKey key (new.records k)).Perm
        ((new.keys k).filter fun key => hasKey key (old.records k)) := by
      refine (List.perm_ext_iff_of_nodup ((distinctOld k).filter _) ((distinctNew k).filter _)).mpr
        fun key => ?_
      simp only [List.mem_filter, Keyed.hasKey_iff]
      exact and_comm
    have counted := shared.length_eq
    rw [Snapshot.keys, Snapshot.keys, List.filter_map, List.filter_map, List.length_map,
      List.length_map] at counted
    exact counted
  have splitOld := (old.records k).length_eq_length_filter_add
    fun r => hasKey (k.key r) (new.records k)
  have splitNew := (new.records k).length_eq_length_filter_add
    fun r => hasKey (k.key r) (old.records k)
  simp only [Snapshot.count, describes.added, describes.removed, addedRecords, removedRecords]
  omega

/-- What is there with what is missing is as much as what is desired with what is not. -/
theorem entityCount_balance (describes : c.Describes old new) (distinctOld : old.Distinct)
    (distinctNew : new.Distinct) :
    old.entityCount + c.added.entityCount = new.entityCount + c.removed.entityCount := by
  have kinds : ∀ ks : List Kind,
      (ks.flatMap old.entities).length + (ks.flatMap c.added.entities).length =
        (ks.flatMap new.entities).length + (ks.flatMap c.removed.entities).length := by
    intro ks
    induction ks with
    | nil => rfl
    | cons k ks ih =>
      have first := describes.count_balance distinctOld distinctNew k
      simp only [Snapshot.count] at first
      simp only [List.flatMap_cons, List.length_append, Snapshot.entities, List.length_map] at ih ⊢
      omega
  exact kinds Kind.creationOrder

theorem globalConfigChanged_eq (describes : c.Describes old new) :
    (DriftReport.ofComparison c old new).globalConfigChanged = c.modified.globalConfig.isSome := by
  have told : (DriftReport.ofComparison c old new).globalConfigChanged =
      (c.globalConfigChanged && !(old.globalConfig.isSome && new.globalConfig.isNone)) := rfl
  rw [told, describes.globalConfigChanged, describes.modified_globalConfig]
  -- The four cases of a global configuration on either side.
  cases old.globalConfig with
  | none => cases new.globalConfig <;> rfl
  | some g =>
    cases new.globalConfig with
    | none => rfl
    | some g' => by_cases same : (some g == some g') = true <;> simp [same]

/-- There is drift if an apply would change something. -/
theorem hasDrift_eq (describes : c.Describes old new) :
    (DriftReport.ofComparison c old new).hasDrift = c.outcome.changed := by
  have told : (DriftReport.ofComparison c old new).hasDrift =
      (decide (0 < (describe c.added).length + (describe c.modified).length +
        (describe c.removed).length) ||
        (DriftReport.ofComparison c old new).globalConfigChanged) := rfl
  rw [told, describes.globalConfigChanged_eq]
  simp only [DriftReport.length_describe]
  rfl

end Comparison.Describes

/-- A drift report tells what a plan will do. -/
structure DriftReport.Tells (report : DriftReport) (p : Plan) (live desired : Snapshot) : Prop where
  hasDrift : report.hasDrift = false ↔ p.isEmpty = true
  missing : report.missing = p.names .create
  changed : report.changed = p.names .update
  unmanaged : report.unmanaged.Perm (p.names .delete)
  globalConfigChanged : report.globalConfigChanged = true ↔
    ⟨.update, .globalConfig, ""⟩ ∈ p.actions
  liveCount : report.liveCount = live.entityCount
  desiredCount : report.desiredCount = desired.entityCount
  balance :
    report.liveCount + report.missing.length = report.desiredCount + report.unmanaged.length

theorem DriftReport.tells {live desired : Snapshot} {c : Comparison}
    (compared : Comparison.between live desired = .ok c) (configHash : String) :
    (ofComparison c live desired).Tells (.ofComparison c configHash) live desired := by
  obtain ⟨keyed, keyedDesired, describes⟩ := Comparison.between_describes compared
  exact {
    hasDrift := by
      rw [describes.hasDrift_eq, Comparison.changed_eq_false_iff, Plan.isEmpty_iff]
    missing := by
      rw [Plan.names_ofComparison]
      exact describe_eq .create c.added
    changed := by
      rw [Plan.names_ofComparison]
      exact describe_eq .update c.modified
    unmanaged := by
      rw [Plan.names_ofComparison]
      exact describe_perm .delete c.removed
    globalConfigChanged := by
      rw [describes.globalConfigChanged_eq, Plan.mem_globalConfig_iff]
    liveCount := rfl
    desiredCount := rfl
    balance := by
      have counted := describes.entityCount_balance keyed.distinct keyedDesired.distinct
      rw [← length_describe c.added, ← length_describe c.removed] at counted
      exact counted }

/-- What has converged has not drifted. -/
theorem Converges.hasDrift_eq_false {live desired final : Snapshot} {c : Comparison}
    (converges : Converges live desired final) (distinct : desired.Distinct)
    (numbers : desired.NoNaN) (compared : Comparison.between final desired = .ok c) :
    (DriftReport.ofComparison c final desired).hasDrift = false := by
  obtain ⟨-, -, describes⟩ := Comparison.between_describes compared
  rw [describes.hasDrift_eq, Comparison.outcome_of_empty
    (converges.part_eq_empty distinct numbers describes)]

/-- What has converged keeps a global configuration that is not desired. -/
theorem Converges.globalConfigUnmanaged_iff {live desired final : Snapshot} {c : Comparison}
    (converges : Converges live desired final) :
    (DriftReport.ofComparison c final desired).globalConfigUnmanaged = true ↔
      live.globalConfig.isSome = true ∧ desired.globalConfig = none := by
  have told : (DriftReport.ofComparison c final desired).globalConfigUnmanaged =
      (final.globalConfig.isSome && desired.globalConfig.isNone) := rfl
  rw [told, converges.globalConfig]
  cases desired.globalConfig <;> simp

theorem Trials.eq_nil_iff {ms : List Mutation} {ts : List Trial} (trials : Trials false ms ts) :
    ts = [] ↔ ms = [] := by
  cases trials <;> simp

namespace Reconciler

variable {desired s t : Snapshot} {c : Comparison} {xs : List (Exchange Plane)}

/-- Where reading does not fail there is a report if the snapshots can be compared. -/
theorem drift_tells {r : Except Error DriftReport}
    (compared : Comparison.between s desired = .ok c)
    (trace : Trace (checkDrift desired).run xs r) (follows : Follows Readable s xs t) :
    r = .ok (.ofComparison c s desired) := by
  obtain ⟨keyed, -, -⟩ := Comparison.between_describes compared
  have reads := (only_checkDrift desired).trace trace
  obtain ⟨-, seen⟩ := follows.steady Readable.unchanged reads
  obtain ⟨us, rest, _, rfl, noted, reading⟩ := trace_attempt_bind trace
  obtain ⟨_, -, rfl⟩ := trace_lift_iff.mp noted
  obtain ⟨ys, zs, found, rfl, finding, comparing⟩ := trace_attempt_bind reading
  have obeyed : Live.Obeyed s ys := fun x member =>
    have inside := List.mem_append_right us (List.mem_append_left zs member)
    (seen x inside).ruled (reads x inside)
  rcases current_cases finding with ⟨e, unread, rfl⟩ | ⟨live, read, rfl⟩
  · obtain ⟨live, impossible⟩ := Live.read_succeeds unread obeyed
    cases impossible
  obtain rfl := (Live.read_mirrors read fun x member => .inl (obeyed x member)).eq keyed.distinct
  obtain ⟨vs, ws, compared', rfl, compares, last⟩ := trace_attempt_bind comparing
  obtain ⟨as, bs, _, rfl, logged, final⟩ := trace_attempt_bind compares
  obtain ⟨_, -, rfl⟩ := trace_lift_iff.mp logged
  simp only [Comparison.between_environment, compared] at final
  obtain ⟨-, rfl⟩ := trace_done_iff.mp final
  simp only at last
  split at last
  · obtain ⟨cs, ds, _, rfl, warned, ended⟩ := trace_attempt_bind last
    obtain ⟨_, -, rfl⟩ := trace_lift_iff.mp warned
    exact (trace_done_iff.mp ended).2
  · exact (trace_done_iff.mp last).2

/-- An apply makes no mutation if its comparison asks for none, and then it tells of no change. -/
theorem apply_changes {r : Except Error ApplyOutcome}
    (compared : Comparison.between s desired = .ok c)
    (trace : Trace (apply desired false).run xs r) (follows : Follows Readable s xs t) :
    (mutations xs = [] ↔ c.mutationsOf stages = []) ∧
      ((∃ outcome, r = .ok outcome ∧ outcome.changed = false) ↔ c.mutationsOf stages = []) := by
  obtain ⟨keyed, keyedDesired, -⟩ := Comparison.between_describes compared
  obtain ⟨found, ts, e, ys, enforced, same, -, rfl⟩ :=
    apply_enforced keyed keyedDesired trace follows
  obtain rfl : c = found := Except.ok.inj (compared.symm.trans same)
  have tried := enforced.tried.trials.eq_nil_iff
  refine ⟨by rw [enforced.mutations, List.map_eq_nil_iff, tried], ?_⟩
  constructor
  · rintro ⟨outcome, succeeded, unchanged⟩
    cases e with
    | some e => cases succeeded
    | none =>
      obtain rfl := Except.ok.inj succeeded
      exact Comparison.changed_eq_false_iff.mp unchanged
  · intro idle
    rcases enforced.tried.cases with ⟨-, rfl⟩ | ⟨before, operation, done, m, source, -, rfl, -⟩
    · exact ⟨c.outcome, rfl, Comparison.changed_eq_false_iff.mpr idle⟩
    · cases List.append_eq_nil_iff.mp (tried.mpr idle) |>.2

/--
A drift report, a plan and an apply of one desired snapshot agree. The report lists what the plan's
actions are aimed at. Where it tells of no drift the plan is empty, and then and only then an apply
makes no mutation and its outcome tells of no change. After an apply that succeeded there is no
drift, and a live global configuration that was not desired is still there, as unmanaged.
-/
theorem drift_agrees {W : Type} (machine : Server Machine W) (plane : LocalPlane) (world : W)
    (desired : Snapshot) (keyed : plane.state.WellKeyed) (keyedDesired : desired.WellKeyed) :
    let serve := LocalPlane.on machine
    let applied := (apply desired false).run.exec serve (plane, world)
    ∃ report p,
      ((checkDrift desired).run.exec serve (plane, world)).1 = .ok report ∧
      ((plan desired).run.exec serve (plane, world)).1 = .ok p ∧
      report.Tells p plane.state desired ∧
      (p.isEmpty = true ↔
        mutations ((apply desired false).run.journal serve (plane, world)) = []) ∧
      (p.isEmpty = true ↔ ∃ outcome, applied.1 = .ok outcome ∧ outcome.changed = false) ∧
      (desired.NoNaN → ∀ outcome, applied.1 = .ok outcome →
        ∃ again, ((checkDrift desired).run.exec serve applied.2).1 = .ok again ∧
          again.hasDrift = false ∧
          (again.globalConfigUnmanaged = true ↔
            plane.state.globalConfig.isSome = true ∧ desired.globalConfig = none)) := by
  intro serve applied
  obtain ⟨c, compared⟩ := Comparison.between_succeeds keyed keyedDesired
  obtain ⟨-, -, describes⟩ := Comparison.between_describes compared
  have applying := exec_trace serve (apply desired false).run (plane, world)
  have follows := LocalPlane.follows_readable machine (apply desired false).run (plane, world)
  obtain ⟨idle, unchanged⟩ := apply_changes compared applying follows
  have reported := drift_tells compared (exec_trace serve (checkDrift desired).run (plane, world))
    (LocalPlane.follows_readable machine _ (plane, world))
  have planned := plan_tells compared (exec_trace serve (plan desired).run (plane, world))
    (LocalPlane.follows_readable machine _ (plane, world))
  refine ⟨_, _, reported, planned, DriftReport.tells compared _, ?_, ?_, ?_⟩
  · rw [Plan.isEmpty_iff, idle]
  · rw [Plan.isEmpty_iff, unchanged]
  intro numbers outcome succeeded
  rw [succeeded] at applying
  have converges := converges_of_apply numbers compared applying
    (follows.map id fun _ _ _ => Readable.faulty)
  obtain ⟨c', compared'⟩ := Comparison.between_succeeds
    (converges.settles.wellKeyed keyed keyedDesired) keyedDesired
  have reported' := drift_tells compared' (exec_trace serve (checkDrift desired).run applied.2)
    (LocalPlane.follows_readable machine _ applied.2)
  exact ⟨_, reported', converges.hasDrift_eq_false keyedDesired.distinct numbers compared',
    converges.globalConfigUnmanaged_iff⟩

/-- A user set takes the place of another, a host is updated, and a global configuration stays that
is not desired. -/
theorem drift_agrees_of_small :
    let live := { Snapshot.small "staff" ⟨0x3ff0000000000000⟩ with globalConfig := some default }
    let desired := Snapshot.small "guests" ⟨0x4000000000000000⟩
    let serve := LocalPlane.on obliging
    let applied := (apply desired false).run.exec serve (.inMemory live, ())
    live.WellKeyed ∧ desired.WellKeyed ∧ desired.NoNaN ∧ (∃ outcome, applied.1 = .ok outcome) ∧
      ∃ report p again, ((checkDrift desired).run.exec serve (.inMemory live, ())).1 = .ok report ∧
        ((plan desired).run.exec serve (.inMemory live, ())).1 = .ok p ∧
        report.Tells p live desired ∧
        ((checkDrift desired).run.exec serve applied.2).1 = .ok again ∧
        again.hasDrift = false ∧ again.globalConfigUnmanaged = true := by
  intro live desired serve applied
  have keyed : live.WellKeyed := by decide
  have keyedDesired : desired.WellKeyed := by decide
  have numbers : desired.NoNaN := by decide
  obtain ⟨c, -, succeeded, -⟩ := apply_succeeds keyed keyedDesired (exec_trace serve _ _)
    (LocalPlane.follows_ruled obliging (apply desired false).run (.inMemory live) ()
      (smooth_obliging _))
  obtain ⟨report, p, reported, planned, tells, -, -, settled⟩ :=
    drift_agrees obliging (.inMemory live) () desired keyed keyedDesired
  obtain ⟨again, reported', none, unmanaged⟩ := settled numbers c.outcome succeeded
  exact ⟨keyed, keyedDesired, numbers, ⟨c.outcome, succeeded⟩, report, p, again, reported, planned,
    tells, reported', none, unmanaged.mpr ⟨rfl, rfl⟩⟩

end Reconciler
end ClusterConf
