import ClusterConf.Plane.Phase
import ClusterConf.Proofs.Collection
import Mathlib.Data.List.Induction
set_option autoImplicit false

/-!
Parts of a snapshot put into effect on another: entities created, updated or deleted, kind by kind.
Main statements: a part may be put into effect one entity after the other, and the entities of a
snapshot in any order of kinds make up that snapshot again.
-/
namespace ClusterConf

namespace Kind

theorem mem_creationOrder (k : Kind) : k ∈ creationOrder := by
  cases k <;> decide

theorem nodup_creationOrder : creationOrder.Nodup := by
  decide

theorem mem_deletionOrder (k : Kind) : k ∈ deletionOrder :=
  List.mem_reverse.mpr (mem_creationOrder k)

theorem nodup_deletionOrder : deletionOrder.Nodup :=
  List.nodup_reverse.mpr nodup_creationOrder

/-- Only execution hosts hold numbers that may equal without being the same. -/
theorem beq_iff {k : Kind} (plain : k ≠ .execHost) {r d : k.Record} : (r == d) = true ↔ r = d := by
  cases k
  case execHost => exact absurd rfl plain
  case userSetList => exact beq_iff_eq (α := UserSet)
  case project => exact beq_iff_eq (α := Project)
  case user => exact beq_iff_eq (α := User)
  case manager | operator | adminHost | submitHost => exact beq_iff_eq (α := String)
  case hostConfiguration => exact beq_iff_eq (α := HostConfig)
  case hostGroup => exact beq_iff_eq (α := HostGroup)
  case complexEntry => exact beq_iff_eq (α := ComplexEntry)
  case calendar => exact beq_iff_eq (α := Calendar)
  case ckptInterface => exact beq_iff_eq (α := CheckpointInterface)
  case resourceQuotaSet => exact beq_iff_eq (α := QuotaSet)
  case parallelEnvironment => exact beq_iff_eq (α := ParallelEnv)
  case clusterQueue => exact beq_iff_eq (α := Queue)

end Kind

namespace Keyed

variable {α : Type} [Keyed α]

open Difference (hasKey)

/-- What becomes of a collection when the items of `part` are created, updated or deleted there. -/
def enact (operation : Operation) (part xs : List α) : List α :=
  match operation with
  | .create => xs ++ part
  | .update => xs.map (latest part)
  | .delete => xs.filter fun x => !hasKey (key x) part

@[simp] theorem enact_nil (operation : Operation) (xs : List α) : enact operation [] xs = xs := by
  cases operation with
  | create => exact List.append_nil xs
  | update => exact (List.map_congr_left fun x _ => latest_nil x).trans (List.map_id' xs)
  | delete => exact List.filter_eq_self.mpr fun x _ => rfl

/-- Items may be put into effect one after the other, updates if each has a key of its own. -/
theorem enact_concat {operation : Operation} {part : List α} {a : α}
    (fresh : operation = .update → key a ∉ keysOf part) (xs : List α) :
    enact operation (part ++ [a]) xs = enact operation [a] (enact operation part xs) := by
  cases operation with
  | create => exact (List.append_assoc xs part [a]).symm
  | update =>
    simp only [enact, List.map_map]
    exact List.map_congr_left fun x _ => latest_concat (fresh rfl) x
  | delete =>
    simp only [enact, List.filter_filter, hasKey_append, Bool.not_or]
    exact List.filter_congr fun x _ => Bool.and_comm _ _

/-- Putting an item into effect concerns its own key only. -/
theorem lookup_enact_of_ne {operation : Operation} {x : α} {k : String} (different : key x ≠ k)
    (xs : List α) : lookup k (enact operation [x] xs) = lookup k xs := by
  cases operation with
  | create => simp [lookup, enact, different]
  | update =>
    have sameKey : ((fun y => key y == k) ∘ latest [x]) = fun y => key y == k := by
      funext y
      rw [Function.comp_apply, key_latest]
    rw [lookup, enact, List.find?_map, sameKey]
    cases found : xs.find? fun y => key y == k with
    | none => simp [lookup, found]
    | some y =>
      have keyed : key y = k := by simpa using List.find?_some found
      have kept : latest [x] y = y := by
        rw [latest_singleton, if_neg (by rwa [keyed])]
      simp [lookup, found, kept]
  | delete =>
    have stays : ∀ y : α, (decide ((!hasKey (key y) [x]) = true ∧ (key y == k) = true)) =
        (key y == k) := by
      intro y
      by_cases keyed : key y = k <;> simp [hasKey, keyed, different]
    simp only [lookup, enact, List.find?_filter, stays]

theorem lookup_enact_self {operation : Operation} {x : α} {xs : List α}
    (distinct : (keysOf xs).Nodup) (kept : operation ≠ .delete)
    (fresh : operation = .create → key x ∉ keysOf xs)
    (present : operation = .update → key x ∈ keysOf xs) :
    lookup (key x) (enact operation [x] xs) = some x := by
  cases operation with
  | create =>
    have once : (keysOf (xs ++ [x])).Nodup := by
      rw [keysOf_append]
      exact distinct.append (List.nodup_singleton _) (by simpa using fresh rfl)
    exact lookup_eq_some once (List.mem_append_right xs List.mem_cons_self)
  | update =>
    have once : (keysOf (xs.map (latest [x]))).Nodup := by rwa [keysOf_map_latest]
    obtain ⟨y, held, same⟩ := mem_keysOf.mp (present rfl)
    refine lookup_eq_some once (List.mem_map.mpr ⟨y, held, ?_⟩)
    rw [latest_singleton, if_pos same.symm]
  | delete => exact absurd rfl kept

end Keyed

namespace Entity

/-- The record of an entity if it is of the kind. -/
def record? (k : Kind) (e : Entity) : Option k.Record :=
  if same : e.kind = k then some (same ▸ e.record) else none

@[simp] theorem record?_self (k : Kind) (r : k.Record) : record? k ⟨k, r⟩ = some r := by
  simp [record?]

theorem record?_of_ne {k : Kind} {e : Entity} (different : e.kind ≠ k) : record? k e = none :=
  dif_neg different

def recordsOf (k : Kind) (es : List Entity) : List k.Record := es.filterMap (record? k)

@[simp] theorem recordsOf_nil (k : Kind) : recordsOf k [] = [] := rfl

theorem recordsOf_append (k : Kind) (es fs : List Entity) :
    recordsOf k (es ++ fs) = recordsOf k es ++ recordsOf k fs := List.filterMap_append

theorem recordsOf_singleton_of_ne {k : Kind} {e : Entity} (different : e.kind ≠ k) :
    recordsOf k [e] = [] := by
  simp [recordsOf, record?_of_ne different]

theorem recordsOf_singleton_self (k : Kind) (r : k.Record) : recordsOf k [⟨k, r⟩] = [r] := by
  simp [recordsOf]

/-- Entities of a kind among entities all of which are of it, or none. -/
theorem recordsOf_map_mk (k l : Kind) (rs : List l.Record) :
    recordsOf k (rs.map (Entity.mk l)) = if same : l = k then same ▸ rs else [] := by
  by_cases same : l = k
  · subst same
    simp [recordsOf, List.filterMap_map]
  · simp [recordsOf, List.filterMap_map, record?_of_ne, same]

end Entity

namespace Snapshot

open Entity (recordsOf)
open Keyed (keysOf)

theorem keys_eq_keysOf (s : Snapshot) (k : Kind) : s.keys k = keysOf (s.records k) := rfl

/-- No kind has two records of one key. -/
def Distinct (s : Snapshot) : Prop := ∀ k, (s.keys k).Nodup

/-- Keys are not empty, and no kind has one of them twice. -/
structure WellKeyed (s : Snapshot) : Prop where
  nonempty : ∀ k, "" ∉ s.keys k
  distinct : s.Distinct

instance (s : Snapshot) : Decidable s.Distinct :=
  decidable_of_iff (∀ k ∈ Kind.creationOrder, (s.keys k).Nodup)
    ⟨fun once k => once k (Kind.mem_creationOrder k), fun once k _ => once k⟩

instance (s : Snapshot) : Decidable s.WellKeyed :=
  decidable_of_iff ((∀ k ∈ Kind.creationOrder, "" ∉ s.keys k) ∧ s.Distinct)
    ⟨fun ⟨filled, distinct⟩ => ⟨fun k => filled k (Kind.mem_creationOrder k), distinct⟩,
      fun keyed => ⟨fun k _ => keyed.nonempty k, keyed.distinct⟩⟩

theorem records_append_self (s : Snapshot) (k : Kind) (rs : List k.Record) :
    (s.append k rs).records k = s.records k ++ rs := records_withRecords_self _ _ _

theorem records_append_of_ne (s : Snapshot) {k l : Kind} (rs : List k.Record) (different : l ≠ k) :
    (s.append k rs).records l = s.records l := records_withRecords_of_ne _ _ different

@[simp] theorem globalConfig_append (s : Snapshot) (k : Kind) (rs : List k.Record) :
    (s.append k rs).globalConfig = s.globalConfig := globalConfig_withRecords _ _ _

@[simp] theorem environment_append (s : Snapshot) (k : Kind) (rs : List k.Record) :
    (s.append k rs).environment = s.environment := environment_withRecords _ _ _

theorem records_push (s : Snapshot) (e : Entity) (k : Kind) :
    (s.push e).records k = s.records k ++ recordsOf k [e] := by
  obtain ⟨l, r⟩ := e
  by_cases same : l = k
  · subst same
    rw [Entity.recordsOf_singleton_self]
    exact records_append_self s l [r]
  · rw [Entity.recordsOf_singleton_of_ne same, List.append_nil]
    exact records_append_of_ne s [r] (Ne.symm same)

@[simp] theorem records_empty (k : Kind) : Snapshot.empty.records k = [] := by
  cases k <;> rfl

theorem entitiesIn_eq_nil_iff {order : List Kind} (every : ∀ k, k ∈ order) {s : Snapshot} :
    Phase.entitiesIn order s = [] ↔ ∀ k, s.records k = [] := by
  simp only [Phase.entitiesIn, List.flatMap_eq_nil_iff, entities, List.map_eq_nil_iff]
  exact ⟨fun none k => none k (every k), fun none k _ => none k⟩

theorem entityCount_eq_zero_iff {s : Snapshot} : s.entityCount = 0 ↔ ∀ k, s.records k = [] :=
  List.length_eq_zero_iff.trans (entitiesIn_eq_nil_iff Kind.mem_creationOrder)

theorem isEmpty_iff {s : Snapshot} :
    s.isEmpty = true ↔ s.globalConfig = none ∧ ∀ k, s.records k = [] := by
  simp only [isEmpty, Bool.and_eq_true, Option.isNone_iff_eq_none, beq_iff_eq,
    entityCount_eq_zero_iff]

theorem eq_empty {s : Snapshot} (environment : s.environment = none) (isEmpty : s.isEmpty = true) :
    s = .empty := by
  obtain ⟨globalConfig, none⟩ := isEmpty_iff.mp isEmpty
  exact ext_records environment globalConfig fun k => (none k).trans (records_empty k).symm

/-- The snapshot that holds some entities and nothing else. -/
def collect (es : List Entity) : Snapshot := es.foldl push .empty

theorem collect_concat (es : List Entity) (e : Entity) :
    collect (es ++ [e]) = (collect es).push e := by
  simp only [collect, List.foldl_append, List.foldl_cons, List.foldl_nil]

@[simp] theorem records_collect (es : List Entity) (k : Kind) :
    (collect es).records k = recordsOf k es := by
  induction es using List.reverseRecOn with
  | nil => exact records_empty k
  | append_singleton es e ih => rw [collect_concat, records_push, ih, Entity.recordsOf_append]

@[simp] theorem globalConfig_collect (es : List Entity) : (collect es).globalConfig = none := by
  induction es using List.reverseRecOn with
  | nil => rfl
  | append_singleton es e ih =>
    rw [collect_concat]
    exact (globalConfig_append _ _ _).trans ih

@[simp] theorem environment_collect (es : List Entity) : (collect es).environment = none := by
  induction es using List.reverseRecOn with
  | nil => rfl
  | append_singleton es e ih =>
    rw [collect_concat]
    exact (environment_append _ _ _).trans ih

theorem recordsOf_entities_self (s : Snapshot) (k : Kind) :
    recordsOf k (s.entities k) = s.records k := by
  rw [entities, Entity.recordsOf_map_mk, dif_pos rfl]

theorem recordsOf_entities_of_ne (s : Snapshot) {k l : Kind} (different : l ≠ k) :
    recordsOf k (s.entities l) = [] := by
  rw [entities, Entity.recordsOf_map_mk, dif_neg different]

theorem recordsOf_entitiesIn {order : List Kind} (once : order.Nodup) (s : Snapshot) (k : Kind) :
    recordsOf k (Phase.entitiesIn order s) = if k ∈ order then s.records k else [] := by
  induction order with
  | nil => rfl
  | cons l order ih =>
    obtain ⟨absent, rest⟩ := List.nodup_cons.mp once
    have split : Phase.entitiesIn (l :: order) s = s.entities l ++ Phase.entitiesIn order s :=
      List.flatMap_cons
    rw [split, Entity.recordsOf_append, ih rest]
    by_cases same : l = k
    · subst same
      simp [absent, recordsOf_entities_self]
    · simp [Ne.symm same, recordsOf_entities_of_ne s same]

/-- The collections of a snapshot, each replaced by what `f` makes of it. -/
def mapRecords (f : (k : Kind) → List k.Record → List k.Record) (s : Snapshot) : Snapshot where
  environment := s.environment
  globalConfig := s.globalConfig
  calendars := f .calendar s.calendars
  complexEntries := f .complexEntry s.complexEntries
  ckptInterfaces := f .ckptInterface s.ckptInterfaces
  hostConfigurations := f .hostConfiguration s.hostConfigurations
  execHosts := f .execHost s.execHosts
  adminHosts := f .adminHost s.adminHosts
  submitHosts := f .submitHost s.submitHosts
  hostGroups := f .hostGroup s.hostGroups
  resourceQuotaSets := f .resourceQuotaSet s.resourceQuotaSets
  managers := f .manager s.managers
  operators := f .operator s.operators
  parallelEnvironments := f .parallelEnvironment s.parallelEnvironments
  projects := f .project s.projects
  users := f .user s.users
  clusterQueues := f .clusterQueue s.clusterQueues
  userSetLists := f .userSetList s.userSetLists

@[simp] theorem records_mapRecords (f : (k : Kind) → List k.Record → List k.Record) (s : Snapshot)
    (k : Kind) : (s.mapRecords f).records k = f k (s.records k) := by
  cases k <;> rfl

@[simp] theorem records_with_globalConfig (s : Snapshot) (g : Option GlobalConfig) (k : Kind) :
    ({ s with globalConfig := g } : Snapshot).records k = s.records k := by
  cases k <;> rfl

/-- The snapshot after the entities of `part` have been created, updated or deleted, and with an
update its global configuration, if it has one. -/
def enact (operation : Operation) (part s : Snapshot) : Snapshot :=
  { s.mapRecords fun k rs => Keyed.enact operation (part.records k) rs with
    globalConfig :=
      match operation with
      | .update => part.globalConfig.or s.globalConfig
      | .create | .delete => s.globalConfig }

@[simp] theorem records_enact (operation : Operation) (part s : Snapshot) (k : Kind) :
    (enact operation part s).records k = Keyed.enact operation (part.records k) (s.records k) := by
  exact (records_with_globalConfig _ _ k).trans (records_mapRecords _ s k)

theorem globalConfig_enact_of_none {part : Snapshot} (unset : part.globalConfig = none)
    (operation : Operation) (s : Snapshot) :
    (enact operation part s).globalConfig = s.globalConfig := by
  cases operation <;> simp [enact, unset]

@[simp] theorem enact_empty (operation : Operation) (s : Snapshot) :
    enact operation .empty s = s := by
  refine ext_records rfl (globalConfig_enact_of_none rfl operation s) fun k => ?_
  rw [records_enact, records_empty, Keyed.enact_nil]

/-- Entities may be put into effect one after the other, updates if no two share kind and key. -/
theorem enact_push {operation : Operation} {part : Snapshot} {e : Entity}
    (fresh : operation = .update → e.key ∉ part.keys e.kind) (s : Snapshot) :
    enact operation (part.push e) s = enact operation (collect [e]) (enact operation part s) := by
  have same : (part.push e).globalConfig = part.globalConfig := globalConfig_append _ _ _
  refine ext_records rfl ?_ fun k => ?_
  · rw [globalConfig_enact_of_none (globalConfig_collect _)]
    cases operation <;> simp only [enact, same]
  · simp only [records_enact, records_push, records_collect]
    by_cases same : e.kind = k
    · subst same
      rw [Entity.recordsOf_singleton_self]
      exact Keyed.enact_concat fresh _
    · rw [Entity.recordsOf_singleton_of_ne same, List.append_nil, Keyed.enact_nil]

theorem keys_enact_create (part s : Snapshot) (k : Kind) :
    (enact .create part s).keys k = s.keys k ++ part.keys k := by
  simp only [keys_eq_keysOf, records_enact, Keyed.enact, Keyed.keysOf_append]

theorem keys_enact_update (part s : Snapshot) (k : Kind) :
    (enact .update part s).keys k = s.keys k := by
  simp only [keys_eq_keysOf, records_enact, Keyed.enact, Keyed.keysOf_map_latest]

theorem mem_records_enact_create {part s : Snapshot} {k : Kind} {r : k.Record} :
    r ∈ (enact .create part s).records k ↔ r ∈ s.records k ∨ r ∈ part.records k := by
  rw [records_enact, Keyed.enact, List.mem_append]

theorem mem_records_enact_update {part s : Snapshot} {k : Kind} {r : k.Record}
    (member : r ∈ (enact .update part s).records k) :
    r ∈ part.records k ∨ r ∈ s.records k ∧ k.key r ∉ part.keys k := by
  rw [records_enact] at member
  obtain ⟨old, held, rfl⟩ := List.mem_map.mp member
  rcases Keyed.latest_mem_or (part.records k) old with new | ⟨absent, same⟩
  · exact .inl new
  · rw [same]
    exact .inr ⟨held, absent⟩

theorem mem_records_enact_delete {part s : Snapshot} {k : Kind} {r : k.Record} :
    r ∈ (enact .delete part s).records k ↔ r ∈ s.records k ∧ k.key r ∉ part.keys k := by
  rw [records_enact, Keyed.enact, List.mem_filter, Bool.not_eq_true', Keyed.hasKey_eq_false_iff]
  rfl

theorem mem_keys_enact_delete {part s : Snapshot} {k : Kind} {key : String} :
    key ∈ (enact .delete part s).keys k ↔ key ∈ s.keys k ∧ key ∉ part.keys k := by
  simp only [keys, List.mem_map, mem_records_enact_delete]
  constructor
  · rintro ⟨r, ⟨held, absent⟩, rfl⟩
    exact ⟨⟨r, held, rfl⟩, by simpa [keys] using absent⟩
  · rintro ⟨⟨r, held, rfl⟩, absent⟩
    exact ⟨r, ⟨held, by simpa [keys] using absent⟩, rfl⟩

theorem keys_enact_delete (part s : Snapshot) (k : Kind) :
    (enact .delete part s).keys k =
      (s.keys k).filter fun key => !Difference.hasKey key (part.records k) := by
  rw [keys_eq_keysOf, records_enact]
  exact Keyed.keysOf_filter (fun key => !Difference.hasKey key (part.records k)) (s.records k)

/-- The entities of a snapshot make it up again, in any order of all kinds. -/
theorem collect_entitiesIn {order : List Kind} (once : order.Nodup) (every : ∀ k, k ∈ order)
    (s : Snapshot) :
    collect (Phase.entitiesIn order s) = { s with environment := none, globalConfig := none } := by
  refine ext_records (environment_collect _) (globalConfig_collect _) fun k => ?_
  rw [records_collect, recordsOf_entitiesIn once, if_pos (every k)]
  cases k <;> rfl

end Snapshot
end ClusterConf
