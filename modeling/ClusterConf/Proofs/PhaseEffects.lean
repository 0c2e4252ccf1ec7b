import ClusterConf.Proofs.PhaseRuns
set_option autoImplicit false

/-!
What the trials of a phase do to a plane. Main statements: on a plane where calls may fail without
effect, the state after some trials is that of the successful ones, and the mutations of a phase,
or a first part of them, put into effect just what they are recorded as.
-/
namespace ClusterConf

open Snapshot (collect enact)
open Keyed (keysOf)

theorem Follows.mutations {σ : Type} {step : σ → Exchange Plane → σ → Prop}
    (frame : ∀ {s x t}, step s x t → x.request.Reads → t = s) {s t : σ}
    {xs : List (Exchange Plane)} (follows : Follows step s xs t) :
    Follows step s (Control.mutations xs) t := by
  induction follows with
  | nil s => exact .nil s
  | @cons before between after x xs first rest ih =>
    by_cases changes : x.request.isMutation = true
    · have kept : Control.mutations (x :: xs) = x :: Control.mutations xs :=
        List.filter_cons_of_pos changes
      rw [kept]
      exact .cons first ih
    · have dropped : Control.mutations (x :: xs) = Control.mutations xs :=
        List.filter_cons_of_neg changes
      have same := frame first (Bool.eq_false_iff.mpr changes)
      subst same
      rw [dropped]
      exact ih

namespace Mutation

def perform (s : Snapshot) : Mutation → Snapshot
  | entity operation e => enact operation (collect [e]) s
  | globalConfig g => { s with globalConfig := some g }

/-- Whether a plane that keeps a snapshot allows a mutation. -/
def Admitted (s : Snapshot) : Mutation → Prop
  | entity operation e => Store.Admits operation e s
  | globalConfig _ => True

theorem distinct_perform {s : Snapshot} (distinct : s.Distinct) {m : Mutation}
    (admitted : m.Admitted s) : (m.perform s).Distinct := by
  cases m with
  | entity operation e => exact Store.distinct_enact distinct admitted
  | globalConfig g =>
    intro k
    rw [Snapshot.keys, perform, Snapshot.records_with_globalConfig]
    exact distinct k

variable {s t : Snapshot} {m : Mutation}

/-- Keys stay good unless an entity without a key is created. -/
theorem wellKeyed_perform (keyed : s.WellKeyed) (admitted : m.Admitted s)
    (filled : ∀ e, m = .entity .create e → e.key ≠ "") : (m.perform s).WellKeyed := by
  refine ⟨fun l => ?_, distinct_perform keyed.distinct admitted⟩
  cases m with
  | entity operation e =>
    obtain ⟨k, r⟩ := e
    cases operation with
    | create =>
      rw [perform, Snapshot.keys_enact_create, List.mem_append, not_or]
      refine ⟨keyed.nonempty l, fun empty => ?_⟩
      rw [Snapshot.keys, Snapshot.records_collect] at empty
      by_cases same : k = l
      · subst same
        rw [Entity.recordsOf_singleton_self, List.map_singleton, List.mem_singleton] at empty
        exact filled ⟨k, r⟩ rfl empty.symm
      · rw [Entity.recordsOf_singleton_of_ne same] at empty
        cases empty
    | update =>
      rw [perform, Snapshot.keys_enact_update]
      exact keyed.nonempty l
    | delete =>
      rw [perform, Snapshot.mem_keys_enact_delete]
      exact fun empty => keyed.nonempty l empty.1
  | globalConfig g =>
    rw [perform, Snapshot.keys, Snapshot.records_with_globalConfig]
    exact keyed.nonempty l

theorem accepted (distinct : s.Distinct) (step : Store.Faulty s (m.exchange (.ok ())) t) :
    m.Admitted s ∧ t = m.perform s := by
  cases m with
  | entity operation e => exact step.accepted distinct
  | globalConfig g => exact ⟨trivial, step.modifyGlobal_accepted⟩

theorem failed {source : PlaneError} (step : Store.Faulty s (m.exchange (.error source)) t) :
    t = s := by
  cases m with
  | entity operation e => exact step.failed
  | globalConfig g => exact step.modifyGlobal_failed

theorem succeeds (distinct : s.Distinct) {answer : Except PlaneError Unit}
    (step : Store.Ruled s (m.exchange answer) t) (admitted : m.Admitted s) : answer = .ok () := by
  cases m with
  | entity operation e => exact step.succeeds distinct admitted
  | globalConfig g => exact step.modifyGlobal.1

end Mutation

def Trial.perform (s : Snapshot) (t : Trial) : Snapshot :=
  match t.answer with
  | .ok () => t.mutation.perform s
  | .error _ => s

theorem Trial.foldl_perform_success (ms : List Mutation) (s : Snapshot) :
    (ms.map Trial.success).foldl Trial.perform s = ms.foldl Mutation.perform s := by
  rw [List.foldl_map]
  rfl

theorem Trial.not_failed_success (m : Mutation) : ¬ (Trial.success m).exchange.Failed := by
  rintro ⟨e, refused⟩
  cases m with
  | entity operation entity => cases Store.refusal?_exchange refused
  | globalConfig g => cases refused

theorem Trial.not_failed_of_success {ms : List Mutation} {x : Exchange Plane}
    (member : x ∈ (ms.map Trial.success).map Trial.exchange) : ¬ x.Failed := by
  obtain ⟨t, inside, rfl⟩ := List.mem_map.mp member
  obtain ⟨m, -, rfl⟩ := List.mem_map.mp inside
  exact Trial.not_failed_success m

theorem Trial.failed_failure (m : Mutation) (source : PlaneError) :
    (Trial.failure m source).exchange.Failed := by
  refine ⟨source, ?_⟩
  cases m with
  | entity operation entity => cases operation <;> rfl
  | globalConfig g => rfl

/-- Trials change a plane by those of them that succeeded. -/
theorem Follows.trials {s t : Snapshot} {ts : List Trial} (distinct : s.Distinct)
    (follows : Follows Store.Faulty s (ts.map Trial.exchange) t) :
    t.Distinct ∧ t = ts.foldl Trial.perform s := by
  induction ts generalizing s with
  | nil =>
    obtain rfl := follows.nil_inv
    exact ⟨distinct, rfl⟩
  | cons trial ts ih =>
    obtain ⟨m, answer⟩ := trial
    cases follows with
    | cons first rest =>
      cases answer with
      | ok done =>
        obtain ⟨admitted, rfl⟩ := Mutation.accepted distinct first
        exact ih (Mutation.distinct_perform distinct admitted) rest
      | error source =>
        obtain rfl := Mutation.failed first
        exact ih distinct rest

namespace Phase

open Entity (recordsOf)

/-- The mutations of a phase are about what its part holds. -/
theorem cases_of_mem {operation : Operation} {part : Snapshot} {m : Mutation}
    (member : m ∈ mutationsOf operation part) :
    (∃ k, ∃ r ∈ part.records k, m = .entity operation ⟨k, r⟩) ∨
      operation = .update ∧ ∃ g, part.globalConfig = some g ∧ m = .globalConfig g := by
  have inEach : ∀ {order : List Kind}, m ∈ each operation (entitiesIn order part) →
      ∃ k, ∃ r ∈ part.records k, m = .entity operation ⟨k, r⟩ := by
    intro order inside
    obtain ⟨e, among, rfl⟩ := List.mem_map.mp inside
    obtain ⟨k, -, ofKind⟩ := List.mem_flatMap.mp among
    obtain ⟨r, held, rfl⟩ := List.mem_map.mp ofKind
    exact ⟨k, r, held, rfl⟩
  cases operation with
  | create => exact .inl (inEach (mutationsOf_create part ▸ member))
  | delete => exact .inl (inEach (mutationsOf_delete part ▸ member))
  | update =>
    rw [mutationsOf_update] at member
    rcases List.mem_append.mp member with inside | inside
    · exact .inl (inEach inside)
    · obtain ⟨g, set, rfl⟩ := List.mem_map.mp inside
      exact .inr ⟨rfl, g, Option.mem_toList.mp set, rfl⟩

theorem operation_of_mem {operation : Operation} {part : Snapshot} {m : Mutation}
    (member : m ∈ mutationsOf operation part) : m.operation = operation := by
  rcases cases_of_mem member with ⟨k, r, -, rfl⟩ | ⟨rfl, g, -, rfl⟩ <;> rfl

theorem recorded_each (operation : Operation) (es : List Entity) :
    Mutation.recorded (each operation es) = collect es := by
  rw [Mutation.recorded, each, List.foldl_map]
  rfl

@[simp] theorem mutationsOf_empty (operation : Operation) : mutationsOf operation .empty = [] := by
  cases operation <;> rfl

def entitiesOf (ms : List Mutation) : List Entity :=
  ms.filterMap fun
    | .entity _ e => some e
    | .globalConfig _ => none

@[simp] theorem entitiesOf_each (operation : Operation) (es : List Entity) :
    entitiesOf (each operation es) = es := by
  simp [entitiesOf, each, List.filterMap_map]

theorem records_recorded (ms : List Mutation) (k : Kind) :
    (Mutation.recorded ms).records k = recordsOf k (entitiesOf ms) := by
  induction ms using List.reverseRecOn with
  | nil => exact Snapshot.records_empty k
  | append_singleton ms m ih =>
    rw [Mutation.recorded_concat, entitiesOf, List.filterMap_append, Entity.recordsOf_append]
    cases m with
    | entity operation e =>
      rw [Mutation.record, Snapshot.records_push, ih]
      rfl
    | globalConfig g =>
      rw [Mutation.record, Snapshot.records_with_globalConfig, ih]
      exact (List.append_nil _).symm

theorem recordsOf_mutationsOf (operation : Operation) (part : Snapshot) (k : Kind) :
    recordsOf k (entitiesOf (mutationsOf operation part)) = part.records k := by
  have inOrder : ∀ {order : List Kind}, order.Nodup → k ∈ order →
      recordsOf k (entitiesIn order part) = part.records k := by
    intro order once member
    rw [Snapshot.recordsOf_entitiesIn once, if_pos member]
  cases operation with
  | create =>
    rw [mutationsOf_create, entitiesOf_each]
    exact inOrder Kind.nodup_creationOrder (Kind.mem_creationOrder k)
  | update =>
    have none : entitiesOf (part.globalConfig.toList.map .globalConfig) = [] := by
      simp [entitiesOf, List.filterMap_map]
    rw [mutationsOf_update, entitiesOf, List.filterMap_append]
    change recordsOf k (entitiesOf _ ++ entitiesOf _) = _
    rw [entitiesOf_each, none, List.append_nil]
    exact inOrder Kind.nodup_creationOrder (Kind.mem_creationOrder k)
  | delete =>
    rw [mutationsOf_delete, entitiesOf_each]
    exact inOrder Kind.nodup_deletionOrder (Kind.mem_deletionOrder k)

/-- What a first part of a phase records is a first part of each collection. -/
theorem records_recorded_prefix {operation : Operation} {part : Snapshot} {ms : List Mutation}
    (first : ms <+: mutationsOf operation part) (k : Kind) :
    (Mutation.recorded ms).records k <+: part.records k := by
  rw [records_recorded, ← recordsOf_mutationsOf operation part k]
  exact (first.filterMap _).filterMap _

/-- With distinct keys no entity of a phase was changed before in that phase. -/
theorem fresh_of_prefix {operation : Operation} {part : Snapshot} (distinct : part.Distinct)
    {done : List Mutation} {o : Operation} {e : Entity}
    (first : done ++ [.entity o e] <+: mutationsOf operation part) :
    e.key ∉ (Mutation.recorded done).keys e.kind := by
  have prefixed := records_recorded_prefix first e.kind
  rw [Mutation.recorded_concat, Mutation.record, Snapshot.records_push,
    Entity.recordsOf_singleton_self] at prefixed
  have once : (keysOf ((Mutation.recorded done).records e.kind ++ [e.record])).Nodup :=
    (distinct e.kind).sublist (prefixed.map _).sublist
  rw [Keyed.keysOf_append] at once
  exact fun repeated => List.disjoint_of_nodup_append once repeated List.mem_cons_self

/-- A mutation is put into effect as it is recorded. -/
theorem perform_eq_enact {m : Mutation} {part : Snapshot}
    (fresh : ∀ o e, m = .entity o e → e.key ∉ part.keys e.kind) (s : Snapshot) :
    m.perform (enact m.operation part s) = enact m.operation (m.record part) s := by
  cases m with
  | entity operation e => exact (Snapshot.enact_push (fun _ => fresh operation e rfl) s).symm
  | globalConfig g =>
    refine Snapshot.ext_records rfl rfl fun k => ?_
    simp only [Mutation.perform, Mutation.operation, Mutation.record,
      Snapshot.records_with_globalConfig, Snapshot.records_enact]

/-- A first part of a phase has the effect that is recorded of it. -/
theorem foldl_perform_prefix {operation : Operation} {part : Snapshot} (distinct : part.Distinct)
    {ms : List Mutation} (first : ms <+: mutationsOf operation part) (s : Snapshot) :
    ms.foldl Mutation.perform s = enact operation (Mutation.recorded ms) s := by
  induction ms using List.reverseRecOn with
  | nil => exact (Snapshot.enact_empty operation s).symm
  | append_singleton ms m ih =>
    have operated : m.operation = operation :=
      operation_of_mem (first.subset (List.mem_append_right ms List.mem_cons_self))
    rw [List.foldl_append, List.foldl_cons, List.foldl_nil,
      ih ((List.prefix_append ms [m]).trans first), Mutation.recorded_concat, ← operated]
    refine perform_eq_enact (fun o e same => ?_) s
    rw [same] at first
    exact fresh_of_prefix distinct first

/-- A part holds nothing that its phase would not change. -/
structure Fits (operation : Operation) (part : Snapshot) : Prop where
  environment : part.environment = none
  globalConfig : operation ≠ .update → part.globalConfig = none

/-- A whole phase records the whole part. -/
theorem recorded_mutationsOf {operation : Operation} {part : Snapshot}
    (fits : Fits operation part) : Mutation.recorded (mutationsOf operation part) = part := by
  have collected : ∀ {order : List Kind}, order.Nodup → (∀ k, k ∈ order) →
      collect (entitiesIn order part) = { part with globalConfig := none } := by
    intro order once every
    rw [Snapshot.collect_entitiesIn once every, ← fits.environment]
  cases operation with
  | create =>
    rw [mutationsOf_create, recorded_each,
      collected Kind.nodup_creationOrder Kind.mem_creationOrder,
      ← fits.globalConfig (by decide)]
  | update =>
    rw [mutationsOf_update, Mutation.recorded, List.foldl_append]
    change List.foldl Mutation.record (Mutation.recorded _) _ = part
    rw [recorded_each, collected Kind.nodup_creationOrder Kind.mem_creationOrder]
    cases set : part.globalConfig with
    | none => exact congrArg (fun h => { part with globalConfig := h }) set.symm
    | some g => exact congrArg (fun h => { part with globalConfig := h }) set.symm
  | delete =>
    rw [mutationsOf_delete, recorded_each,
      collected Kind.nodup_deletionOrder Kind.mem_deletionOrder,
      ← fits.globalConfig (by decide)]

end Phase
end ClusterConf
