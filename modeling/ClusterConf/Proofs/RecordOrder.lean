import ClusterConf.Proofs.PlanExecution
import ClusterConf.Proofs.Resumption
import ClusterConf.Proofs.Undoing
set_option autoImplicit false

/-!
The order of records. Main statement: snapshots that differ only in the order of their records are
compared alike, planned alike and applied alike, up to the order of records.
-/
namespace ClusterConf

open Program
open Comparison (stages)
open Keyed (key keysOf lookup latest)
open Difference (hasKey isModified)

namespace Keyed

variable {α : Type} [Keyed α] {xs ys : List α}

theorem keysOf_perm (order : xs.Perm ys) : (keysOf xs).Perm (keysOf ys) := order.map key

theorem nodup_of_perm (order : xs.Perm ys) (distinct : (keysOf xs).Nodup) : (keysOf ys).Nodup :=
  (keysOf_perm order).nodup_iff.mp distinct

theorem lookup_perm (order : xs.Perm ys) (distinct : (keysOf xs).Nodup) (k : String) :
    lookup k xs = lookup k ys := by
  by_cases present : k ∈ keysOf xs
  · obtain ⟨x, member, rfl⟩ := mem_keysOf.mp present
    rw [lookup_eq_some distinct member,
      lookup_eq_some (nodup_of_perm order distinct) (order.mem_iff.mp member)]
  · have absent : k ∉ keysOf ys := fun inside => present ((keysOf_perm order).mem_iff.mpr inside)
    rw [lookup_eq_none_iff.mpr present, lookup_eq_none_iff.mpr absent]

theorem hasKey_perm (order : xs.Perm ys) (k : String) : hasKey k xs = hasKey k ys := by
  rw [Bool.eq_iff_iff, hasKey_iff, hasKey_iff]
  exact (keysOf_perm order).mem_iff

theorem latest_perm (order : xs.Perm ys) (distinct : (keysOf xs).Nodup) :
    latest xs = latest ys := by
  funext x
  exact congrArg (Option.getD · x) (lookup_perm order distinct (key x))

theorem isModified_perm [BEq α] (order : xs.Perm ys) (distinct : (keysOf xs).Nodup) :
    isModified xs = isModified ys := by
  funext x
  have found : (xs.find? fun y => key y == key x) = ys.find? fun y => key y == key x :=
    lookup_perm order distinct (key x)
  rw [isModified, isModified, found]

/-- The order of a part that is put into effect only shows in the order of what comes of it. -/
theorem enact_perm {part part' : List α} (operation : Operation) (order : part.Perm part')
    (distinct : (keysOf part).Nodup) (among : xs.Perm ys) :
    (enact operation part xs).Perm (enact operation part' ys) := by
  cases operation with
  | create => exact among.append order
  | update =>
    rw [enact, enact, latest_perm order distinct]
    exact among.map _
  | delete =>
    have same : (fun x => !hasKey (key x) part) = fun x : α => !hasKey (key x) part' := by
      funext x
      rw [hasKey_perm order]
    rw [enact, enact, same]
    exact among.filter _

end Keyed

namespace Snapshot.SameUpToOrder

variable {s t : Snapshot} {k : Kind}

theorem keys (same : s.SameUpToOrder t) (k : Kind) : (s.keys k).Perm (t.keys k) :=
  Keyed.keysOf_perm (same.records k)

theorem wellKeyed (same : s.SameUpToOrder t) (keyed : s.WellKeyed) : t.WellKeyed where
  nonempty k := fun inside => keyed.nonempty k ((same.keys k).mem_iff.mpr inside)
  distinct k := (same.keys k).nodup_iff.mp (keyed.distinct k)

theorem isEmpty (same : s.SameUpToOrder t) : s.isEmpty = t.isEmpty := by
  rw [Bool.eq_iff_iff, isEmpty_iff, isEmpty_iff, same.globalConfig]
  refine and_congr_right fun _ => forall_congr' fun k => ?_
  rw [← List.length_eq_zero_iff, ← List.length_eq_zero_iff, (same.records k).length_eq]

theorem get? (same : s.SameUpToOrder t) (distinct : s.Distinct) (k : Kind) (key : String) :
    s.get? k key = t.get? k key :=
  congrArg (Option.map (Entity.mk k)) (Keyed.lookup_perm (same.records k) (distinct k) key)

theorem enact {part part' : Snapshot} (operation : Operation) (parts : part.SameUpToOrder part')
    (distinct : part.Distinct) (same : s.SameUpToOrder t) :
    (enact operation part s).SameUpToOrder (enact operation part' t) where
  records k := by
    rw [records_enact, records_enact]
    exact Keyed.enact_perm operation (parts.records k) (distinct k) (same.records k)
  globalConfig := by
    cases operation <;> simp only [Snapshot.enact, parts.globalConfig, same.globalConfig]
  environment := same.environment

end Snapshot.SameUpToOrder

/-- Comparisons that tell the same, records in any order. -/
structure Comparison.SameUpToOrder (c d : Comparison) : Prop where
  isSame : c.isSame = d.isSame
  globalConfigChanged : c.globalConfigChanged = d.globalConfigChanged
  added : c.added.SameUpToOrder d.added
  modified : c.modified.SameUpToOrder d.modified
  removed : c.removed.SameUpToOrder d.removed

namespace Comparison

variable {old old' new new' : Snapshot} {c d : Comparison}

/-- The differences of a kind are found whatever the order on both sides. -/
theorem Describes.sameUpToOrder (describes : c.Describes old new)
    (describes' : d.Describes old' new') (distinct : old.Distinct) (olds : old.SameUpToOrder old')
    (news : new.SameUpToOrder new') : c.SameUpToOrder d := by
  have added : c.added.SameUpToOrder d.added := by
    refine ⟨fun k => ?_, ?_, ?_⟩
    · have same : (fun r => !hasKey (k.key r) (old.records k)) =
          fun r => !hasKey (k.key r) (old'.records k) := by
        funext r
        rw [Keyed.hasKey_perm (olds.records k)]
      rw [describes.added, describes'.added, addedRecords, addedRecords, same]
      exact (news.records k).filter _
    · rw [describes.added_globalConfig, describes'.added_globalConfig]
    · rw [describes.added_environment, describes'.added_environment]
  have modified : c.modified.SameUpToOrder d.modified := by
    refine ⟨fun k => ?_, ?_, ?_⟩
    · rw [describes.modified, describes'.modified, modifiedRecords, modifiedRecords,
        Keyed.isModified_perm (olds.records k) (distinct k)]
      exact (news.records k).filter _
    · rw [describes.modified_globalConfig, describes'.modified_globalConfig, olds.globalConfig,
        news.globalConfig]
    · rw [describes.modified_environment, describes'.modified_environment]
  have removed : c.removed.SameUpToOrder d.removed := by
    refine ⟨fun k => ?_, ?_, ?_⟩
    · have same : (fun r => !hasKey (k.key r) (new.records k)) =
          fun r => !hasKey (k.key r) (new'.records k) := by
        funext r
        rw [Keyed.hasKey_perm (news.records k)]
      rw [describes.removed, describes'.removed, removedRecords, removedRecords, same]
      exact (olds.records k).filter _
    · rw [describes.removed_globalConfig, describes'.removed_globalConfig]
    · rw [describes.removed_environment, describes'.removed_environment]
  have changed : c.globalConfigChanged = d.globalConfigChanged := by
    rw [describes.globalConfigChanged, describes'.globalConfigChanged, olds.globalConfig,
      news.globalConfig]
  refine ⟨?_, changed, added, modified, removed⟩
  rw [describes.isSame, describes'.isSame, hasNoChanges, hasNoChanges, changed, added.isEmpty,
    modified.isEmpty, removed.isEmpty]

theorem between_sameUpToOrder (compared : between old new = .ok c) (olds : old.SameUpToOrder old')
    (news : new.SameUpToOrder new') : ∃ d, between old' new' = .ok d ∧ c.SameUpToOrder d := by
  obtain ⟨keyedOld, keyedNew, describes⟩ := between_describes compared
  obtain ⟨d, compared'⟩ := between_succeeds (olds.wellKeyed keyedOld) (news.wellKeyed keyedNew)
  obtain ⟨-, -, describes'⟩ := between_describes compared'
  exact ⟨d, compared', describes.sameUpToOrder describes' keyedOld.distinct olds news⟩

theorem SameUpToOrder.part (same : c.SameUpToOrder d) (operation : Operation) :
    (c.part operation).SameUpToOrder (d.part operation) := by
  cases operation with
  | create => exact same.added
  | update => exact same.modified
  | delete => exact same.removed

/-- Whole phases make the same of the same. -/
theorem SameUpToOrder.perform (same : c.SameUpToOrder d)
    (distinct : ∀ operation, (c.part operation).Distinct) (operations : List Operation)
    {s t : Snapshot} (begun : s.SameUpToOrder t) :
    (c.perform operations s).SameUpToOrder (d.perform operations t) := by
  induction operations generalizing s t with
  | nil => exact begun
  | cons operation rest ih =>
    exact ih ((same.part operation).enact operation (distinct operation) begun)

end Comparison

/-- What is done to what sort of target. -/
def Action.step (a : Action) : Operation × Target := (a.operation, a.target)

namespace Plan

variable {s t : Snapshot}

theorem actionsOn_perm (same : s.SameUpToOrder t) (operation : Operation) (order : List Kind) :
    (actionsOn operation s order).Perm (actionsOn operation t order) :=
  List.Perm.flatMap_left order fun k _ => (same.keys k).map _

theorem steps_actionsOn (operation : Operation) (s : Snapshot) (order : List Kind) :
    (actionsOn operation s order).map Action.step =
      order.flatMap fun k => List.replicate (s.count k) (operation, .entity k) := by
  rw [actionsOn, List.map_flatMap]
  refine congrArg (order.flatMap ·) (funext fun k => ?_)
  have step : Action.step ∘ (fun key => ⟨operation, .entity k, key⟩) =
      Function.const String (operation, Target.entity k) := rfl
  rw [List.map_map, step, List.map_const, Snapshot.keys, List.length_map]
  rfl

/-- Comparisons that tell the same are planned by the same actions, in the same steps. -/
theorem ofComparison_sameUpToOrder {c d : Comparison} (same : c.SameUpToOrder d)
    (hash hash' : String) :
    (ofComparison c hash).actions.Perm (ofComparison d hash').actions ∧
      (ofComparison c hash).actions.map Action.step =
        (ofComparison d hash').actions.map Action.step := by
  have counts : ∀ {s t : Snapshot}, s.SameUpToOrder t → s.count = t.count :=
    fun alike => funext fun k => (alike.records k).length_eq
  constructor
  · rw [ofComparison, ofComparison, same.modified.globalConfig]
    exact (((actionsOn_perm same.added _ _).append (actionsOn_perm same.modified _ _)).append_right
      _).append (actionsOn_perm same.removed _ _)
  · simp only [ofComparison, List.map_append, steps_actionsOn, counts same.added,
      counts same.modified, counts same.removed, same.modified.globalConfig]

end Plan

namespace Reconciler

variable {V W : Type} (machine : Server Machine V) (machine' : Server Machine W)
  (plane plane' : LocalPlane) (world : V) (world' : W) (desired desired' : Snapshot)

/--
Let two clusters and their desired snapshots hold the same, records in any order, and have good
keys. Then they are compared alike, their plans have the same actions in the same steps, and on
machines that do what they are asked both applies succeed and leave the same records by key and the
same global configuration.
-/
theorem record_order_is_free (keyed : plane.state.WellKeyed) (keyedDesired : desired.WellKeyed)
    (lives : plane.state.SameUpToOrder plane'.state) (desires : desired.SameUpToOrder desired')
    (smooth : Smooth
      (((LocalPlane.run (apply desired false).run).run plane).journal machine world))
    (smooth' : Smooth
      (((LocalPlane.run (apply desired' false).run).run plane').journal machine' world')) :
    let run := (apply desired false).run.exec (LocalPlane.on machine) (plane, world)
    let run' := (apply desired' false).run.exec (LocalPlane.on machine') (plane', world')
    (∃ c c', Comparison.between plane.state desired = .ok c ∧
        Comparison.between plane'.state desired' = .ok c' ∧ c.SameUpToOrder c') ∧
      (∃ p p', ((plan desired).run.exec (LocalPlane.on machine) (plane, world)).1 = .ok p ∧
        ((plan desired').run.exec (LocalPlane.on machine') (plane', world')).1 = .ok p' ∧
        p.actions.Perm p'.actions ∧ p.actions.map Action.step = p'.actions.map Action.step) ∧
      (∃ outcome, run.1 = .ok outcome) ∧ (∃ outcome, run'.1 = .ok outcome) ∧
      (∀ k key, run.2.1.state.get? k key = run'.2.1.state.get? k key) ∧
      run.2.1.state.globalConfig = run'.2.1.state.globalConfig := by
  obtain ⟨c, compared, succeeded, performed, -⟩ :=
    apply_succeeds keyed keyedDesired (exec_trace (LocalPlane.on machine) _ (plane, world))
      (LocalPlane.follows_ruled machine _ plane world smooth)
  obtain ⟨c', compared', succeeded', performed', -⟩ :=
    apply_succeeds (lives.wellKeyed keyed) (desires.wellKeyed keyedDesired)
      (exec_trace (LocalPlane.on machine') _ (plane', world'))
      (LocalPlane.follows_ruled machine' _ plane' world' smooth')
  obtain ⟨d, found, same⟩ := Comparison.between_sameUpToOrder compared lives desires
  obtain rfl : d = c' := Except.ok.inj (found.symm.trans compared')
  obtain ⟨-, -, describes⟩ := Comparison.between_describes compared
  have finals := same.perform (Comparison.distinct_part compared) stages lives
  have distinct := ((Comparison.settles_perform describes).wellKeyed keyed keyedDesired).distinct
  rw [← performed] at finals distinct
  rw [← performed'] at finals
  exact ⟨⟨c, d, compared, compared', same⟩,
    ⟨_, _, plan_succeeds machine plane world compared,
      plan_succeeds machine' plane' world' compared',
      Plan.ofComparison_sameUpToOrder same _ _⟩,
    ⟨c.outcome, succeeded⟩, ⟨d.outcome, succeeded'⟩, finals.get? distinct, finals.globalConfig⟩

/-- Managers in either order, one to go and one to come, beside a host that is updated. -/
theorem record_order_is_free_of_swap :
    let live : Snapshot := { Snapshot.small "staff" ⟨0x3ff0000000000000⟩ with
      managers := ["root", "ada"] }
    let live' : Snapshot := { live with managers := ["ada", "root"] }
    let desired : Snapshot := { Snapshot.small "guests" ⟨0x4000000000000000⟩ with
      managers := ["root", "bob"] }
    let desired' : Snapshot := { desired with managers := ["bob", "root"] }
    let run := (apply desired false).run.exec (LocalPlane.on obliging) (.inMemory live, ())
    let run' := (apply desired' false).run.exec (LocalPlane.on obliging)
      (⟨some "cluster.json", live'⟩, ())
    live.WellKeyed ∧ desired.WellKeyed ∧ live.SameUpToOrder live' ∧
      desired.SameUpToOrder desired' ∧ (∃ outcome, run.1 = .ok outcome) ∧
      (∃ outcome, run'.1 = .ok outcome) ∧
      ∀ k key, run.2.1.state.get? k key = run'.2.1.state.get? k key := by
  intro live live' desired desired'
  have keyed : live.WellKeyed := by decide
  have keyedDesired : desired.WellKeyed := by decide
  have lives : live.SameUpToOrder live' := by
    refine ⟨fun k => ?_, rfl, rfl⟩
    cases k <;> first | exact .refl _ | exact .swap _ _ _
  have desires : desired.SameUpToOrder desired' := by
    refine ⟨fun k => ?_, rfl, rfl⟩
    cases k <;> first | exact .refl _ | exact .swap _ _ _
  have free := record_order_is_free obliging obliging (.inMemory live) ⟨some "cluster.json", live'⟩
    () () desired desired' keyed keyedDesired lives desires (smooth_obliging _) (smooth_obliging _)
  exact ⟨keyed, keyedDesired, lives, desires, free.2.2.1, free.2.2.2.1, free.2.2.2.2.1⟩

end Reconciler

end ClusterConf
