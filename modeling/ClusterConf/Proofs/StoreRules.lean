import ClusterConf.Plane.Store
import ClusterConf.Proofs.Enactment
import ClusterConf.Proofs.Runs
set_option autoImplicit false

/-!
What one call does to a plane that keeps a snapshot. Main statements: a call that fails and a call
that only reads leave the snapshot as it is, and a mutation that succeeds puts its entity into
effect and keeps the keys of each kind distinct.
-/
namespace ClusterConf

/-- The call for an entity and its answer. -/
def Phase.exchange : Operation → Entity → Except PlaneError Unit → Exchange Plane
  | .create, e, answer => ⟨.create e, answer⟩
  | .update, e, answer => ⟨.update e.key e, answer⟩
  | .delete, e, answer => ⟨.delete e.kind e.key, answer⟩

/-- A call that failed. -/
def Exchange.Failed (x : Exchange Plane) : Prop := ∃ e, x.request.refusal? e = some x.answer

namespace Store

open Keyed (keysOf)
open Snapshot (collect enact)

/-- The rules of the store for an operation on an entity. -/
def change (operation : Operation) (e : Entity) (s : Snapshot) : Except PlaneError Snapshot :=
  match operation with
  | .create => create e s
  | .update => update e.key e s
  | .delete => delete e.kind e.key s

/-- Whether the store has room for an entity that is created, or holds the one that is changed. -/
def Admits (operation : Operation) (e : Entity) (s : Snapshot) : Prop :=
  match operation with
  | .create => e.key ∉ s.keys e.kind
  | .update | .delete => e.key ∈ s.keys e.kind

theorem get?_eq_none_iff {s : Snapshot} {k : Kind} {key : String} :
    s.get? k key = none ↔ key ∉ s.keys k := by
  rw [Snapshot.get?, Option.map_eq_none_iff]
  exact Keyed.find?_key_eq_none_iff

/-- Putting one entity into effect changes the collection of its kind. -/
theorem withRecords_eq_enact (operation : Operation) (e : Entity) (s : Snapshot) :
    s.withRecords e.kind (Keyed.enact operation [e.record] (s.records e.kind)) =
      enact operation (collect [e]) s := by
  obtain ⟨k, r⟩ := e
  refine Snapshot.ext_records ?_ ?_ fun l => ?_
  · exact Snapshot.environment_withRecords _ _ _
  · rw [Snapshot.globalConfig_withRecords,
      Snapshot.globalConfig_enact_of_none (Snapshot.globalConfig_collect _)]
  · rw [Snapshot.records_enact, Snapshot.records_collect]
    by_cases same : l = k
    · subst same
      rw [Snapshot.records_withRecords_self, Entity.recordsOf_singleton_self]
    · rw [Snapshot.records_withRecords_of_ne _ _ same,
        Entity.recordsOf_singleton_of_ne (Ne.symm same), Keyed.enact_nil]

theorem create_eq (e : Entity) (s : Snapshot) :
    create e s =
      if e.key ∈ s.keys e.kind then .error (.alreadyExists e.kind e.key)
      else .ok (enact .create (collect [e]) s) := by
  unfold create
  split
  · rename_i found
    have present : e.key ∈ s.keys e.kind := by
      by_contra absent
      rw [get?_eq_none_iff.mpr absent] at found
      cases found
    rw [if_pos present]
  · rename_i missing
    rw [if_neg (get?_eq_none_iff.mp missing)]
    exact congrArg Except.ok (withRecords_eq_enact .create e s)

theorem update_eq {s : Snapshot} (distinct : s.Distinct) (e : Entity) :
    update e.key e s =
      if e.key ∈ s.keys e.kind then .ok (enact .update (collect [e]) s)
      else .error (.notFound e.kind e.key) := by
  simp only [update, ne_eq, not_true_eq_false, ↓reduceIte, Snapshot.replace?]
  by_cases present : e.key ∈ s.keys e.kind
  · rw [Keyed.replaceFirst?_of_mem (distinct e.kind) present, if_pos present]
    exact congrArg Except.ok (withRecords_eq_enact .update e s)
  · rw [Keyed.replaceFirst?_eq_none_iff.mpr present, if_neg present]
    rfl

theorem delete_eq {s : Snapshot} (distinct : s.Distinct) (e : Entity) :
    delete e.kind e.key s =
      if e.key ∈ s.keys e.kind then .ok (enact .delete (collect [e]) s)
      else .error (.notFound e.kind e.key) := by
  simp only [delete, Snapshot.remove?]
  by_cases present : e.key ∈ s.keys e.kind
  · obtain ⟨gone, removed⟩ := Keyed.removeFirst?_of_mem (distinct e.kind) present
    have removed' : Keyed.removeFirst? e.key (s.records e.kind) = _ := removed
    rw [removed', if_pos present]
    exact congrArg Except.ok (withRecords_eq_enact .delete e s)
  · rw [Keyed.removeFirst?_eq_none_iff.mpr present, if_neg present]
    rfl

/-- What the rules allow is exactly what puts an entity into effect. -/
theorem change_eq_ok_iff {s t : Snapshot} (distinct : s.Distinct) {operation : Operation}
    {e : Entity} :
    change operation e s = .ok t ↔ Admits operation e s ∧ t = enact operation (collect [e]) s := by
  cases operation with
  | create =>
    rw [change, create_eq]
    by_cases present : e.key ∈ s.keys e.kind <;> simp [Admits, present, eq_comm]
  | update =>
    rw [change, update_eq distinct]
    by_cases present : e.key ∈ s.keys e.kind <;> simp [Admits, present, eq_comm]
  | delete =>
    rw [change, delete_eq distinct]
    by_cases present : e.key ∈ s.keys e.kind <;> simp [Admits, present, eq_comm]

theorem globalConfig_change {s t : Snapshot} {operation : Operation} {e : Entity}
    (changed : change operation e s = .ok t) : t.globalConfig = s.globalConfig := by
  cases operation with
  | create =>
    rw [change, create_eq] at changed
    split at changed
    · cases changed
    · rw [← Except.ok.inj changed]
      exact Snapshot.globalConfig_enact_of_none (Snapshot.globalConfig_collect [e]) _ s
  | update =>
    simp only [change, update, ne_eq, not_true_eq_false, ↓reduceIte, Snapshot.replace?] at changed
    cases replaced : Keyed.replaceFirst? e.record (s.records e.kind) with
    | none =>
      rw [replaced] at changed
      cases changed
    | some rs =>
      rw [replaced] at changed
      rw [← Except.ok.inj changed]
      exact Snapshot.globalConfig_withRecords _ _ _
  | delete =>
    simp only [change, delete, Snapshot.remove?] at changed
    cases removed : Keyed.removeFirst? e.key (s.records e.kind) with
    | none =>
      rw [removed] at changed
      cases changed
    | some pair =>
      rw [removed] at changed
      rw [← Except.ok.inj changed]
      exact Snapshot.globalConfig_withRecords _ _ _

theorem distinct_enact {s : Snapshot} (distinct : s.Distinct) {operation : Operation} {e : Entity}
    (admits : Admits operation e s) : (enact operation (collect [e]) s).Distinct := by
  obtain ⟨k, r⟩ := e
  intro l
  rw [Snapshot.keys_eq_keysOf, Snapshot.records_enact, Snapshot.records_collect]
  by_cases same : k = l
  · subst same
    rw [Entity.recordsOf_singleton_self]
    cases operation with
    | create =>
      have absent : Keyed.key r ∉ s.keys k := admits
      rw [Keyed.enact, Keyed.keysOf_append]
      exact (distinct k).append (List.nodup_singleton _) (by simpa using absent)
    | update =>
      rw [Keyed.enact, Keyed.keysOf_map_latest]
      exact distinct k
    | delete => exact (distinct k).sublist (Keyed.keysOf_filter_sublist _ _)
  · rw [Entity.recordsOf_singleton_of_ne same, Keyed.enact_nil]
    exact distinct l

/-- An exchange by the rules of the store. What a plane calls itself is its own affair. -/
def Ruled (before : Snapshot) (x : Exchange Plane) (after : Snapshot) : Prop :=
  Server.Step inMemory before x after ∨ x.request = .backend ∧ after = before

/-- An exchange by the rules of the store, or a call that failed without effect. -/
def Faulty (before : Snapshot) (x : Exchange Plane) (after : Snapshot) : Prop :=
  Ruled before x after ∨ x.Failed ∧ after = before

/-- An exchange by the rules of the store, or a mutation that failed without effect. -/
def Readable (before : Snapshot) (x : Exchange Plane) (after : Snapshot) : Prop :=
  Ruled before x after ∨ x.request.isMutation = true ∧ x.Failed ∧ after = before

/-- Commits a snapshot to memory. -/
def keep (next : Snapshot) : StateM Snapshot (Except PlaneError Unit) := do
  set next
  return .ok ()

theorem step_inMemory_exchange {operation : Operation} {e : Entity}
    {answer : Except PlaneError Unit} {s t : Snapshot}
    (step : Server.Step inMemory s (Phase.exchange operation e answer) t) :
    change operation e s = .ok t ∧ answer = .ok () ∨
      ∃ err, change operation e s = .error err ∧ answer = .error err ∧ t = s := by
  have commits : (serve.commit keep (change operation e s)).run s = (answer, t) := by
    cases operation <;> exact step
  cases changed : change operation e s with
  | ok next =>
    rw [changed] at commits
    obtain ⟨rfl, rfl⟩ := Prod.mk.inj commits
    exact .inl ⟨rfl, rfl⟩
  | error err =>
    rw [changed] at commits
    obtain ⟨rfl, rfl⟩ := Prod.mk.inj commits
    exact .inr ⟨err, rfl, rfl, rfl⟩

theorem request_exchange_ne_backend (operation : Operation) (e : Entity)
    (answer : Except PlaneError Unit) :
    (Phase.exchange operation e answer).request ≠ .backend := by
  cases operation <;> exact nofun

theorem isMutation_exchange (operation : Operation) (e : Entity)
    (answer : Except PlaneError Unit) :
    (Phase.exchange operation e answer).request.isMutation = true := by
  cases operation <;> rfl

theorem refusal?_exchange {operation : Operation} {e : Entity} {answer : Except PlaneError Unit}
    {err : PlaneError}
    (refused : (Phase.exchange operation e answer).request.refusal? err =
      some (Phase.exchange operation e answer).answer) : answer = .error err := by
  cases operation <;> exact (Option.some.inj refused).symm

namespace Ruled

variable {s t : Snapshot}

theorem exchange {operation : Operation} {e : Entity} {answer : Except PlaneError Unit}
    (step : Ruled s (Phase.exchange operation e answer) t) :
    change operation e s = .ok t ∧ answer = .ok () ∨
      ∃ err, change operation e s = .error err ∧ answer = .error err ∧ t = s := by
  rcases step with step | ⟨named, -⟩
  · exact step_inMemory_exchange step
  · exact absurd named (request_exchange_ne_backend _ _ _)

theorem succeeds (distinct : s.Distinct) {operation : Operation} {e : Entity}
    {answer : Except PlaneError Unit} (step : Ruled s (Phase.exchange operation e answer) t)
    (admits : Admits operation e s) : answer = .ok () := by
  rcases step.exchange with ⟨-, accepted⟩ | ⟨err, failed, -, -⟩
  · exact accepted
  · rw [(change_eq_ok_iff distinct).mpr ⟨admits, rfl⟩] at failed
    cases failed

theorem modifyGlobal {g : GlobalConfig} {answer : Except PlaneError Unit}
    (step : Ruled s ⟨.modifyGlobal g, answer⟩ t) :
    answer = .ok () ∧ t = { s with globalConfig := some g } := by
  rcases step with step | ⟨named, -⟩
  · obtain ⟨rfl, rfl⟩ := Prod.mk.inj step
    exact ⟨rfl, rfl⟩
  · cases named

theorem list {k : Kind} {answer : Except PlaneError (List String)}
    (step : Ruled s ⟨.list k, answer⟩ t) : answer = .ok (s.keys k) := by
  rcases step with step | ⟨named, -⟩
  · exact (Prod.mk.inj step).1.symm
  · cases named

theorem read {k : Kind} {key : String} {answer : Except PlaneError k.Record}
    (step : Ruled s ⟨.read k key, answer⟩ t) : answer = Store.read k key s := by
  rcases step with step | ⟨named, -⟩
  · exact (Prod.mk.inj step).1.symm
  · cases named

theorem showGlobal {answer : Except PlaneError (Option GlobalConfig)}
    (step : Ruled s ⟨.showGlobal, answer⟩ t) : answer = .ok s.globalConfig := by
  rcases step with step | ⟨named, -⟩
  · exact (Prod.mk.inj step).1.symm
  · cases named

theorem unchanged {x : Exchange Plane} (step : Ruled s x t)
    (reads : x.request.isMutation = false) : t = s := by
  rcases step with step | ⟨-, same⟩
  · obtain ⟨request, answer⟩ := x
    cases request <;> first | exact (Prod.mk.inj step).2.symm | cases reads
  · exact same

theorem answer_unique {c : PlaneCall} (other : c ≠ .backend) {answer answer' : c.Answer}
    {t' : Snapshot} (step : Ruled s ⟨c, answer⟩ t) (step' : Ruled s ⟨c, answer'⟩ t') :
    answer = answer' := by
  rcases step with step | ⟨named, -⟩
  · rcases step' with step' | ⟨named, -⟩
    · exact (Prod.mk.inj (step.symm.trans step')).1
    · exact absurd named other
  · exact absurd named other

end Ruled

namespace Faulty

variable {s t : Snapshot}

/-- A successful call for an entity puts the entity into effect. -/
theorem accepted (distinct : s.Distinct) {operation : Operation} {e : Entity}
    (step : Faulty s (Phase.exchange operation e (.ok ())) t) :
    Admits operation e s ∧ t = enact operation (collect [e]) s := by
  rcases step with step | ⟨⟨err, refused⟩, -⟩
  · rcases step.exchange with ⟨changed, -⟩ | ⟨err, -, failed, -⟩
    · exact (change_eq_ok_iff distinct).mp changed
    · cases failed
  · cases refusal?_exchange refused

/-- A successful deletion takes out one record of its key, also if there are more of them. -/
theorem deleted {e : Entity} (step : Faulty s (Phase.exchange .delete e (.ok ())) t) :
    (t.records e.kind).Sublist (s.records e.kind) ∧ t.keys e.kind = (s.keys e.kind).erase e.key ∧
      ∀ k ≠ e.kind, t.records k = s.records k := by
  have changed : delete e.kind e.key s = .ok t := by
    rcases step with step | ⟨⟨err, refused⟩, -⟩
    · rcases step.exchange with ⟨changed, -⟩ | ⟨err, -, failed, -⟩
      · exact changed
      · cases failed
    · cases refusal?_exchange refused
  unfold delete Snapshot.remove? at changed
  cases removed : Keyed.removeFirst? e.key (s.records e.kind) with
  | none =>
    rw [removed] at changed
    cases changed
  | some pair =>
    rw [removed] at changed
    obtain rfl := Except.ok.inj changed
    obtain ⟨sublist, keys⟩ := Keyed.removeFirst?_some removed
    refine ⟨?_, ?_, fun k other => Snapshot.records_withRecords_of_ne _ _ other⟩
    · rw [Snapshot.records_withRecords_self]
      exact sublist
    · rw [Snapshot.keys, Snapshot.records_withRecords_self]
      exact keys

theorem failed {operation : Operation} {e : Entity} {err : PlaneError}
    (step : Faulty s (Phase.exchange operation e (.error err)) t) : t = s := by
  rcases step with step | ⟨-, same⟩
  · rcases step.exchange with ⟨-, accepted⟩ | ⟨err, -, -, same⟩
    · cases accepted
    · exact same
  · exact same

theorem modifyGlobal_accepted {g : GlobalConfig} (step : Faulty s ⟨.modifyGlobal g, .ok ()⟩ t) :
    t = { s with globalConfig := some g } := by
  rcases step with step | ⟨⟨err, refused⟩, -⟩
  · exact step.modifyGlobal.2
  · cases refused

theorem modifyGlobal_failed {g : GlobalConfig} {err : PlaneError}
    (step : Faulty s ⟨.modifyGlobal g, .error err⟩ t) : t = s := by
  rcases step with step | ⟨-, same⟩
  · cases step.modifyGlobal.1
  · exact same

theorem list {k : Kind} {keys : List String} (step : Faulty s ⟨.list k, .ok keys⟩ t) :
    keys = s.keys k := by
  rcases step with step | ⟨⟨err, refused⟩, -⟩
  · exact Except.ok.inj step.list
  · cases refused

theorem read {k : Kind} {key : String} {r : k.Record} (step : Faulty s ⟨.read k key, .ok r⟩ t) :
    Store.read k key s = .ok r := by
  rcases step with step | ⟨⟨err, refused⟩, -⟩
  · exact step.read.symm
  · cases refused

theorem showGlobal {g : Option GlobalConfig} (step : Faulty s ⟨.showGlobal, .ok g⟩ t) :
    g = s.globalConfig := by
  rcases step with step | ⟨⟨err, refused⟩, -⟩
  · exact Except.ok.inj step.showGlobal
  · cases refused

theorem unchanged {x : Exchange Plane} (step : Faulty s x t)
    (reads : x.request.isMutation = false) : t = s := by
  rcases step with step | ⟨-, same⟩
  · exact step.unchanged reads
  · exact same

end Faulty

namespace Readable

variable {s t : Snapshot} {x : Exchange Plane}

theorem faulty (step : Readable s x t) : Faulty s x t :=
  step.imp_right fun refused => refused.2

theorem ruled (step : Readable s x t) (reads : x.request.isMutation = false) : Ruled s x t := by
  rcases step with step | ⟨changes, -⟩
  · exact step
  · rw [reads] at changes
    cases changes

theorem unchanged (step : Readable s x t) (reads : x.request.isMutation = false) : t = s :=
  (step.ruled reads).unchanged reads

end Readable

end Store
end ClusterConf
