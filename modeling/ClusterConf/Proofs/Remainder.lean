import ClusterConf.Proofs.Patching
import ClusterConf.Proofs.PlanExecution
set_option autoImplicit false

/-!
What is left to do after a mutation. Main statements: once a mutation of a comparison has been made,
a new comparison consists of the others, in their order; and so after a first part of the mutations
just the remaining ones are left.
-/
namespace ClusterConf

open Keyed (key keysOf enact latest lookup)
open Difference (hasKey isModified)
open Comparison (stages)

namespace Keyed

variable {α : Type} [Keyed α] {operation : Operation} {x : α} {xs ds : List α}

/-- An item that was put into effect is no longer to be added. -/
theorem filter_added_enact
    (settled : ∀ d ∈ ds, key d = key x → lookup (key x) (enact operation [x] xs) = some d) :
    ds.filter (fun d => !hasKey (key d) (enact operation [x] xs)) =
      (ds.filter fun d => !hasKey (key d) xs).filter fun d => decide (key d ≠ key x) := by
  rw [List.filter_filter]
  refine List.filter_congr fun d wanted => ?_
  by_cases same : key d = key x
  · simp [hasKey_eq_isSome_lookup, same, settled d wanted same]
  · simp [hasKey_eq_isSome_lookup, same, lookup_enact_of_ne (Ne.symm same)]

/-- An item that was put into effect is no longer to be removed: it is wanted, or it is gone. -/
theorem filter_removed_enact (wanted : operation ≠ .delete → key x ∈ keysOf ds) (xs : List α) :
    (enact operation [x] xs).filter (fun y => !hasKey (key y) ds) =
      (xs.filter fun y => !hasKey (key y) ds).filter fun y => decide (key y ≠ key x) := by
  have untouched : key x ∈ keysOf ds → ∀ y : α, (!hasKey (key y) ds) = true → key y ≠ key x := by
    intro held y gone same
    rw [same, hasKey_iff.mpr held] at gone
    cases gone
  have crossed : key x ∈ keysOf ds →
      (xs.filter fun y => !hasKey (key y) ds).filter (fun y => decide (key y ≠ key x)) =
        xs.filter fun y => !hasKey (key y) ds := by
    intro held
    refine List.filter_eq_self.mpr fun y member => decide_eq_true ?_
    exact untouched held y (List.mem_filter.mp member).2
  cases operation with
  | create =>
    have held := wanted (by decide)
    rw [crossed held, enact, List.filter_append, List.filter_cons_of_neg, List.filter_nil,
      List.append_nil]
    rw [hasKey_iff.mpr held]
    exact Bool.false_ne_true
  | update =>
    have held := wanted (by decide)
    have sameKey : (fun y => !hasKey (key y) ds) ∘ latest [x] = fun y => !hasKey (key y) ds := by
      funext y
      rw [Function.comp_apply, key_latest]
    rw [crossed held, enact, List.filter_map, sameKey]
    refine (List.map_congr_left fun y member => ?_).trans (List.map_id' _)
    have other := untouched held y (List.mem_filter.mp member).2
    rw [latest_singleton, if_neg (Ne.symm other)]
  | delete =>
    rw [enact, List.filter_filter, List.filter_filter]
    refine List.filter_congr fun y _ => ?_
    by_cases same : key y = key x
    · simp [hasKey, same]
    · simp [hasKey, same, Ne.symm same]

/-- An item that was put into effect is no longer to be modified, as it equals itself. -/
theorem filter_modified_enact [BEq α] (reflexive : ∀ d ∈ ds, (d == d) = true)
    (settled : ∀ d ∈ ds, key d = key x → lookup (key x) (enact operation [x] xs) = some d) :
    ds.filter (isModified (enact operation [x] xs)) =
      (ds.filter (isModified xs)).filter fun d => decide (key d ≠ key x) := by
  have looked : ∀ (ys : List α) (d : α),
      isModified ys d = (lookup (key d) ys).any fun y => !(y == d) := by
    intro ys d
    rw [isModified, lookup]
    cases ys.find? fun y => key y == key d <;> rfl
  rw [List.filter_filter]
  refine List.filter_congr fun d wanted => ?_
  by_cases same : key d = key x
  · simp [looked, same, settled d wanted same, reflexive d wanted]
  · simp [looked, same, lookup_enact_of_ne (Ne.symm same)]

end Keyed

namespace Mutation

/-- What a mutation is about: the key of an entity, or the global configuration. -/
def subject (m : Mutation) : Target × String := (m.action.target, m.action.key)

end Mutation

namespace Phase

theorem entitiesIn_filter {part rest : Snapshot} {keep : Entity → Bool}
    (records : ∀ k, rest.records k = (part.records k).filter fun r => keep ⟨k, r⟩)
    (order : List Kind) : entitiesIn order rest = (entitiesIn order part).filter keep := by
  rw [entitiesIn, entitiesIn, List.filter_flatMap]
  refine congrArg (order.flatMap ·) (funext fun k => ?_)
  rw [Snapshot.entities, Snapshot.entities, records, List.filter_map]
  rfl

/-- Of a part where something is left out the phase leaves out just that. -/
theorem mutationsOf_filter {operation : Operation} {part rest : Snapshot} {keep : Mutation → Bool}
    (records : ∀ k,
      rest.records k = (part.records k).filter fun r => keep (.entity operation ⟨k, r⟩))
    (globalConfig : rest.globalConfig.toList =
      part.globalConfig.toList.filter fun g => keep (.globalConfig g)) :
    mutationsOf operation rest = (mutationsOf operation part).filter keep := by
  have inEach : ∀ order, each operation (entitiesIn order rest) =
      (each operation (entitiesIn order part)).filter keep := by
    intro order
    have among : entitiesIn order rest =
        (entitiesIn order part).filter fun e => keep (.entity operation e) :=
      entitiesIn_filter records order
    rw [each, each, List.filter_map, among]
    rfl
  cases operation with
  | create =>
    rw [mutationsOf_create, mutationsOf_create]
    exact inEach _
  | delete =>
    rw [mutationsOf_delete, mutationsOf_delete]
    exact inEach _
  | update =>
    rw [mutationsOf_update, mutationsOf_update, List.filter_append, ← inEach, globalConfig, List.filter_map]
    rfl

theorem nodup_subjects {part : Snapshot} (distinct : part.Distinct) (operation : Operation) :
    ((mutationsOf operation part).map Mutation.subject).Nodup := by
  have flat : ∀ order, (each operation (entitiesIn order part)).map Mutation.subject =
      order.flatMap fun k => (part.keys k).map fun key => (Target.entity k, key) := by
    intro order
    simp only [each, entitiesIn, List.map_flatMap, List.map_map, Snapshot.entities, Snapshot.keys]
    rfl
  have inEach : ∀ {order : List Kind}, order.Nodup →
      ((each operation (entitiesIn order part)).map Mutation.subject).Nodup := by
    intro order once
    rw [flat, List.nodup_flatMap]
    refine ⟨fun k _ => (distinct k).map fun a b same => (Prod.mk.inj same).2, ?_⟩
    refine once.imp fun {k l} different subject left right => different ?_
    obtain ⟨a, -, rfl⟩ := List.mem_map.mp left
    obtain ⟨b, -, same⟩ := List.mem_map.mp right
    exact (Target.entity.inj (Prod.mk.inj same).1).symm
  cases operation with
  | create =>
    rw [mutationsOf_create]
    exact inEach Kind.nodup_creationOrder
  | delete =>
    rw [mutationsOf_delete]
    exact inEach Kind.nodup_deletionOrder
  | update =>
    rw [mutationsOf_update, List.map_append]
    refine (inEach Kind.nodup_creationOrder).append ?_ ?_
    · cases part.globalConfig <;> simp
    · intro subject left right
      rw [flat] at left
      obtain ⟨k, -, ofKind⟩ := List.mem_flatMap.mp left
      obtain ⟨key, -, rfl⟩ := List.mem_map.mp ofKind
      obtain ⟨m, global, same⟩ := List.mem_map.mp right
      obtain ⟨g, -, rfl⟩ := List.mem_map.mp global
      cases same

end Phase

namespace Comparison

variable {c rest : Comparison} {s desired : Snapshot} {m : Mutation}

theorem Describes.part_disjoint (describes : c.Describes s desired) (keyed : s.WellKeyed)
    (keyedDesired : desired.WellKeyed) {a b : Operation} (different : a ≠ b) (k : Kind) :
    ((c.part a).keys k).Disjoint ((c.part b).keys k) := by
  have apart := describes.apart (k := k) keyed.distinct keyedDesired.distinct
  cases a <;> cases b
  case create.update => exact apart.added_modified
  case create.delete => exact apart.added_removed
  case update.create => exact fun key left right => apart.added_modified right left
  case update.delete => exact apart.modified_removed
  case delete.create => exact fun key left right => apart.added_removed right left
  case delete.update => exact fun key left right => apart.modified_removed right left
  all_goals exact absurd rfl different

theorem nodup_subjects (compared : between s desired = .ok c) :
    ((c.mutationsOf stages).map Mutation.subject).Nodup := by
  obtain ⟨keyed, keyedDesired, describes⟩ := between_describes compared
  have once : stages.Nodup := by decide
  rw [mutationsOf, List.map_flatMap, List.nodup_flatMap]
  refine ⟨fun operation _ => Phase.nodup_subjects (distinct_part compared operation) operation, ?_⟩
  refine once.imp fun {a b} different subject left right => ?_
  obtain ⟨m, inLeft, rfl⟩ := List.mem_map.mp left
  obtain ⟨m', inRight, same⟩ := List.mem_map.mp right
  rcases Phase.cases_of_mem inLeft with ⟨k, r, held, rfl⟩ | ⟨rfl, g, -, rfl⟩
  · rcases Phase.cases_of_mem inRight with ⟨l, d, held', rfl⟩ | ⟨-, g, -, rfl⟩
    · obtain ⟨sameTarget, sameKey⟩ := Prod.mk.inj same
      obtain rfl : l = k := Target.entity.inj sameTarget
      have sameKey : l.key d = l.key r := sameKey
      refine describes.part_disjoint keyed keyedDesired different l (List.mem_map_of_mem held) ?_
      rw [← sameKey]
      exact List.mem_map_of_mem held'
    · cases same
  · rcases Phase.cases_of_mem inRight with ⟨l, d, held', rfl⟩ | ⟨rfl, g', -, rfl⟩
    · cases same
    · exact different rfl

theorem mem_part_cases (member : m ∈ c.mutationsOf stages) :
    (∃ operation k, ∃ r ∈ (c.part operation).records k, m = .entity operation ⟨k, r⟩) ∨
      ∃ g, c.modified.globalConfig = some g ∧ m = .globalConfig g := by
  obtain ⟨operation, -, inside⟩ := List.mem_flatMap.mp member
  rcases Phase.cases_of_mem inside with ⟨k, r, held, rfl⟩ | ⟨rfl, g, set, rfl⟩
  · exact .inl ⟨operation, k, r, held, rfl⟩
  · exact .inr ⟨g, set, rfl⟩

/-- Any mutation of a comparison may come first. -/
theorem admitted_of_mem (describes : c.Describes s desired) (member : m ∈ c.mutationsOf stages) :
    m.Admitted s := by
  rcases mem_part_cases member with ⟨operation, k, r, held, rfl⟩ | ⟨g, -, rfl⟩
  · cases operation with
    | create => exact (describes.mem_added_iff.mp held).2
    | update => exact describes.mem_keys_of_modified (List.mem_map_of_mem held)
    | delete => exact List.mem_map_of_mem (describes.mem_removed_iff.mp held).1
  · trivial

theorem filled_of_mem (compared : between s desired = .ok c) (member : m ∈ c.mutationsOf stages) :
    ∀ e, m = .entity .create e → e.key ≠ "" := by
  obtain ⟨-, keyedDesired, describes⟩ := between_describes compared
  rintro ⟨k, r⟩ rfl empty
  rcases mem_part_cases member with ⟨operation, l, d, held, same⟩ | ⟨g, -, impossible⟩
  · cases same
    refine keyedDesired.nonempty k ?_
    rw [← empty]
    exact List.mem_map_of_mem (describes.mem_added_iff.mp held).1
  · cases impossible

theorem wellKeyed_perform (compared : between s desired = .ok c)
    (member : m ∈ c.mutationsOf stages) : (m.perform s).WellKeyed := by
  obtain ⟨keyed, -, describes⟩ := between_describes compared
  exact Mutation.wellKeyed_perform keyed (admitted_of_mem describes member)
    (filled_of_mem compared member)

/-- What a mutation does to a collection is what the desired snapshot holds under its key. -/
theorem settled (describes : c.Describes s desired) (keyed : s.WellKeyed)
    (keyedDesired : desired.WellKeyed) {operation : Operation} {k : Kind} {x : k.Record}
    (held : x ∈ (c.part operation).records k) :
    ∀ d ∈ desired.records k, Keyed.key d = Keyed.key x →
      lookup (Keyed.key x) (enact operation [x] (s.records k)) = some d := by
  intro d wanted same
  have found : x ∈ desired.records k → operation ≠ .delete →
      lookup (Keyed.key x) (enact operation [x] (s.records k)) = some d := by
    intro new kept
    obtain rfl := Keyed.eq_of_key_eq (keyedDesired.distinct k) wanted new same
    refine Keyed.lookup_enact_self (keyed.distinct k) kept ?_ ?_
    · rintro rfl
      exact (describes.mem_added_iff.mp held).2
    · rintro rfl
      exact describes.mem_keys_of_modified (List.mem_map_of_mem held)
  cases operation with
  | create => exact found (describes.mem_added_iff.mp held).1 (by decide)
  | update => exact found (describes.mem_new_of_modified held) (by decide)
  | delete =>
    refine absurd ?_ (describes.mem_removed_iff.mp held).2
    exact List.mem_map.mpr ⟨d, wanted, same⟩

/-- After a mutation of an entity its record is crossed off, from whatever part. -/
theorem records_crossed (describes : c.Describes s desired) (keyed : s.WellKeyed)
    (keyedDesired : desired.WellKeyed) (numbers : desired.NoNaN) {operation : Operation} {k : Kind}
    {x : k.Record} (held : x ∈ (c.part operation).records k)
    (after : rest.Describes (Mutation.perform s (.entity operation ⟨k, x⟩)) desired)
    (other : Operation) (l : Kind) :
    (rest.part other).records l = ((c.part other).records l).filter fun r =>
      decide ((Target.entity l, l.key r) ≠ (Target.entity k, k.key x)) := by
  have changed : ∀ l, (Mutation.perform s (.entity operation ⟨k, x⟩)).records l =
      enact operation (Entity.recordsOf l [⟨k, x⟩]) (s.records l) := by
    intro l
    rw [Mutation.perform, Snapshot.records_enact, Snapshot.records_collect]
  by_cases same : l = k
  · subst same
    have sameTarget : ∀ r : l.Record,
        decide ((Target.entity l, l.key r) ≠ (Target.entity l, l.key x)) =
          decide (Keyed.key r ≠ Keyed.key x) := by
      intro r
      simp only [ne_eq, Prod.mk.injEq, true_and]
      rfl
    have now := changed l
    rw [Entity.recordsOf_singleton_self] at now
    simp only [sameTarget]
    have settles := settled describes keyed keyedDesired held
    cases other with
    | create =>
      rw [part, part, after.added, describes.added, addedRecords, now]
      exact Keyed.filter_added_enact settles
    | update =>
      rw [part, part, after.modified, describes.modified, modifiedRecords, now]
      exact Keyed.filter_modified_enact (fun d wanted => numbers.beq_self wanted) settles
    | delete =>
      rw [part, part, after.removed, describes.removed, removedRecords, now]
      refine Keyed.filter_removed_enact (fun kept => ?_) (s.records l)
      cases operation with
      | create => exact List.mem_map_of_mem (describes.mem_added_iff.mp held).1
      | update => exact List.mem_map_of_mem (describes.mem_new_of_modified held)
      | delete => exact absurd rfl kept
  · have now := changed l
    rw [Entity.recordsOf_singleton_of_ne (Ne.symm same), Keyed.enact_nil] at now
    have all : ((c.part other).records l).filter (fun r =>
        decide ((Target.entity l, l.key r) ≠ (Target.entity k, k.key x))) =
          (c.part other).records l := by
      refine List.filter_eq_self.mpr fun r _ => decide_eq_true fun equal => same ?_
      exact Target.entity.inj (Prod.mk.inj equal).1
    rw [all]
    cases other with
    | create => rw [part, part, after.added, describes.added, addedRecords, addedRecords, now]
    | update =>
      rw [part, part, after.modified, describes.modified, modifiedRecords, modifiedRecords, now]
    | delete =>
      rw [part, part, after.removed, describes.removed, removedRecords, removedRecords, now]

/-- After a mutation of an entity the global configuration is to be set just as before. -/
theorem globalConfig_kept (describes : c.Describes s desired) {operation : Operation} {k : Kind}
    {x : k.Record} (after : rest.Describes (Mutation.perform s (.entity operation ⟨k, x⟩)) desired)
    (other : Operation) : (rest.part other).globalConfig = (c.part other).globalConfig := by
  have same : (Mutation.perform s (.entity operation ⟨k, x⟩)).globalConfig = s.globalConfig :=
    Snapshot.globalConfig_enact_of_none (Snapshot.globalConfig_collect _) operation s
  cases other with
  | create => rw [part, part, after.added_globalConfig, describes.added_globalConfig]
  | update => rw [part, part, after.modified_globalConfig, describes.modified_globalConfig, same]
  | delete => rw [part, part, after.removed_globalConfig, describes.removed_globalConfig]

/-- Once the global configuration is set it is not to be set again, and the rest is as before. -/
theorem globalConfig_crossed (describes : c.Describes s desired) {g : GlobalConfig}
    (set : c.modified.globalConfig = some g)
    (after : rest.Describes (Mutation.perform s (.globalConfig g)) desired) (other : Operation) :
    (rest.part other).globalConfig = Option.none ∧
      ∀ l, (rest.part other).records l = (c.part other).records l := by
  have wanted := describes.new_of_modified_globalConfig set
  have changed : (Mutation.perform s (.globalConfig g)).globalConfig = some g := rfl
  have same : ∀ l, (Mutation.perform s (.globalConfig g)).records l = s.records l := by
    intro l
    rw [Mutation.perform, Snapshot.records_with_globalConfig]
  cases other with
  | create =>
    refine ⟨after.added_globalConfig, fun l => ?_⟩
    rw [part, part, after.added, describes.added, addedRecords, addedRecords, same]
  | update =>
    refine ⟨?_, fun l => ?_⟩
    · rw [part, after.modified_globalConfig, changed, wanted, if_pos (beq_self_eq_true (some g))]
    · rw [part, part, after.modified, describes.modified, modifiedRecords, modifiedRecords, same]
  | delete =>
    refine ⟨after.removed_globalConfig, fun l => ?_⟩
    rw [part, part, after.removed, describes.removed, removedRecords, removedRecords, same]

/-- A mutation that was made is crossed off, and the others stay in their order. -/
theorem mutationsOf_crossed (compared : between s desired = .ok c) (numbers : desired.NoNaN)
    (member : m ∈ c.mutationsOf stages) (again : between (m.perform s) desired = .ok rest) :
    rest.mutationsOf stages =
      (c.mutationsOf stages).filter fun m' => decide (m'.subject ≠ m.subject) := by
  obtain ⟨keyed, keyedDesired, describes⟩ := between_describes compared
  obtain ⟨-, -, after⟩ := between_describes again
  rw [mutationsOf, mutationsOf, List.filter_flatMap]
  refine congrArg (stages.flatMap ·) (funext fun operation => ?_)
  rcases mem_part_cases member with ⟨o, k, x, held, rfl⟩ | ⟨g, set, rfl⟩
  · refine Phase.mutationsOf_filter
      (records_crossed describes keyed keyedDesired numbers held after operation) ?_
    rw [globalConfig_kept describes after]
    refine (List.filter_eq_self.mpr fun g _ => decide_eq_true fun same => ?_).symm
    cases same
  · obtain ⟨unset, same⟩ := globalConfig_crossed describes set after operation
    refine Phase.mutationsOf_filter (fun l => ?_) ?_
    · rw [same]
      refine (List.filter_eq_self.mpr fun r _ => decide_eq_true fun same => ?_).symm
      cases same
    · rw [unset]
      refine (List.filter_eq_nil_iff.mpr fun g _ => ?_).symm
      simp [Mutation.subject, Mutation.action]

/-- One step: after the first mutation the others are left. -/
theorem remainder_step (compared : between s desired = .ok c) (numbers : desired.NoNaN)
    {ms : List Mutation} (split : c.mutationsOf stages = m :: ms) :
    ∃ rest, between (m.perform s) desired = .ok rest ∧ rest.mutationsOf stages = ms := by
  have member : m ∈ c.mutationsOf stages := split ▸ List.mem_cons_self
  have once := nodup_subjects compared
  rw [split, List.map_cons, List.nodup_cons] at once
  obtain ⟨-, keyedDesired, -⟩ := between_describes compared
  obtain ⟨rest, again⟩ := between_succeeds (wellKeyed_perform compared member) keyedDesired
  refine ⟨rest, again, ?_⟩
  rw [mutationsOf_crossed compared numbers member again, split, List.filter_cons_of_neg (by simp)]
  refine List.filter_eq_self.mpr fun m' inside => decide_eq_true fun same => once.1 ?_
  exact same ▸ List.mem_map_of_mem inside

/-- After some of the mutations, from the first on, just the remaining ones are left. -/
theorem remainder (compared : between s desired = .ok c) (numbers : desired.NoNaN)
    {done ms : List Mutation} (split : c.mutationsOf stages = done ++ ms) :
    ∃ rest, between (done.foldl Mutation.perform s) desired = .ok rest ∧
      rest.mutationsOf stages = ms := by
  induction done generalizing s c with
  | nil => exact ⟨c, compared, split⟩
  | cons m done ih =>
    obtain ⟨next, again, left⟩ := remainder_step compared numbers split
    exact ih again left

end Comparison

end ClusterConf
