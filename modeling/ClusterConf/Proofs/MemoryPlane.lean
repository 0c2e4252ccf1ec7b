import ClusterConf.Proofs.LocalRuns
import ClusterConf.Proofs.Registry
set_option autoImplicit false

/-!
Planes in memory. Main statement: such a plane cannot be told from a registry, whatever it is asked,
and a call changes nothing but what it is about.
-/
namespace ClusterConf

open Program
open Snapshot (collect enact)

namespace Program

/-- Two servers that answer alike and stay related answer alike in whole runs. -/
theorem journal_related {I : Interface} {σ τ α : Type} {serve : Server I σ} {serve' : Server I τ}
    (related : σ → τ → Prop)
    (step : ∀ s t r, related s t →
      (serve r s).1 = (serve' r t).1 ∧ related (serve r s).2 (serve' r t).2)
    (p : Program I α) {s : σ} {t : τ} (start : related s t) :
    p.journal serve s = p.journal serve' t ∧
      ∀ n, related (p.stateAfter serve s n) (p.stateAfter serve' t n) := by
  induction p generalizing s t with
  | done a => exact ⟨rfl, fun _ => start⟩
  | ask r next ih =>
    obtain ⟨same, stays⟩ := step s t r start
    obtain ⟨journals, states⟩ := ih (serve r s).1 stays
    rw [journal, journal, ← same]
    refine ⟨congrArg (List.cons _) journals, fun n => ?_⟩
    cases n with
    | zero => exact start
    | succ n =>
      rw [stateAfter, stateAfter, ← same]
      exact states n

end Program

/-- The kind of the entity that a call is about. -/
def PlaneCall.kind? : PlaneCall → Option Kind
  | .create e | .update _ e => some e.kind
  | .delete k _ | .list k | .read k _ => some k
  | .showGlobal | .modifyGlobal _ | .backend | .note _ => none

namespace Store

variable {s : Snapshot}

theorem inMemory_create (e : Entity) (s : Snapshot) :
    inMemory (.create e) s =
      if e.key ∈ s.keys e.kind then (.error (.alreadyExists e.kind e.key), s)
      else (.ok (), enact .create (collect [e]) s) := by
  change (serve.commit keep (create e s)).run s = _
  rw [create_eq]
  split <;> rfl

theorem inMemory_update (distinct : s.Distinct) (key : String) (e : Entity) :
    inMemory (.update key e) s =
      if e.key ≠ key then
        (.error (.rejected s!"cannot rename {e.kind.label} '{key}' to '{e.key}'"), s)
      else if key ∈ s.keys e.kind then (.ok (), enact .update (collect [e]) s)
      else (.error (.notFound e.kind key), s) := by
  change (serve.commit keep (update key e s)).run s = _
  by_cases renames : e.key ≠ key
  · rw [update, if_pos renames, if_pos renames]
    rfl
  · obtain rfl := not_not.mp renames
    rw [update_eq distinct, if_neg renames]
    split <;> rfl

theorem inMemory_delete_of_mem (distinct : s.Distinct) {e : Entity}
    (present : e.key ∈ s.keys e.kind) :
    inMemory (.delete e.kind e.key) s = (.ok (), enact .delete (collect [e]) s) := by
  change (serve.commit keep (delete e.kind e.key s)).run s = _
  rw [delete_eq distinct, if_pos present]
  rfl

theorem inMemory_delete_of_not_mem {k : Kind} {key : String} (absent : key ∉ s.keys k) :
    inMemory (.delete k key) s = (.error (.notFound k key), s) := by
  have missing : Keyed.removeFirst? key (s.records k) = none :=
    Keyed.removeFirst?_eq_none_iff.mpr absent
  change (serve.commit keep (delete k key s)).run s = _
  rw [delete, Snapshot.remove?, missing]
  rfl

/-- A call changes only what it is about. -/
structure Framed (c : PlaneCall) (before after : Snapshot) : Prop where
  records : ∀ k, c.kind? ≠ some k → after.records k = before.records k
  globalConfig : c.kind?.isSome = true → after.globalConfig = before.globalConfig
  environment : after.environment = before.environment

theorem framed_self (c : PlaneCall) (s : Snapshot) : Framed c s s :=
  ⟨fun _ _ => rfl, fun _ => rfl, rfl⟩

theorem framed_enact {c : PlaneCall} {e : Entity} (about : c.kind? = some e.kind)
    (operation : Operation) (s : Snapshot) : Framed c s (enact operation (collect [e]) s) where
  records k other := by
    have different : e.kind ≠ k := fun same => other (same ▸ about)
    rw [Snapshot.records_enact, Snapshot.records_collect,
      Entity.recordsOf_singleton_of_ne different, Keyed.enact_nil]
  globalConfig _ := Snapshot.globalConfig_enact_of_none (Snapshot.globalConfig_collect [e]) _ s
  environment := rfl

theorem exists_entity {k : Kind} {key : String} (present : key ∈ s.keys k) :
    ∃ e : Entity, e.kind = k ∧ e.key = key := by
  obtain ⟨r, -, same⟩ := List.mem_map.mp present
  exact ⟨⟨k, r⟩, rfl, same⟩

/-- A call leaves the snapshot alone, or it succeeds: it puts an entity of its kind into effect, or
sets the global configuration. -/
theorem inMemory_cases (distinct : s.Distinct) (c : PlaneCall) :
    (inMemory c s).2 = s ∨ ¬ Exchange.Failed ⟨c, (inMemory c s).1⟩ ∧
      ((∃ operation e, c.kind? = some e.kind ∧
          (inMemory c s).2 = enact operation (collect [e]) s) ∨
        ∃ g, c = .modifyGlobal g ∧ (inMemory c s).2 = { s with globalConfig := some g }) := by
  have succeeded :
      ¬ ∃ e : PlaneError, some (.error e : Except PlaneError Unit) = some (.ok ()) := by
    rintro ⟨e, same⟩
    cases same
  cases c with
  | create e =>
    by_cases present : e.key ∈ s.keys e.kind
    · rw [inMemory_create, if_pos present]
      exact .inl rfl
    · rw [inMemory_create, if_neg present]
      exact .inr ⟨succeeded, .inl ⟨.create, e, rfl, rfl⟩⟩
  | update key e =>
    rw [inMemory_update distinct]
    split
    · exact .inl rfl
    · split
      · exact .inr ⟨succeeded, .inl ⟨.update, e, rfl, rfl⟩⟩
      · exact .inl rfl
  | delete k key =>
    by_cases present : key ∈ s.keys k
    · obtain ⟨e, rfl, rfl⟩ := exists_entity present
      rw [inMemory_delete_of_mem distinct present]
      exact .inr ⟨succeeded, .inl ⟨.delete, e, rfl, rfl⟩⟩
    · rw [inMemory_delete_of_not_mem present]
      exact .inl rfl
  | modifyGlobal g => exact .inr ⟨succeeded, .inr ⟨g, rfl, rfl⟩⟩
  | list _ | read _ _ | showGlobal | backend | note _ => exact .inl rfl

theorem inMemory_failed (distinct : s.Distinct) {c : PlaneCall}
    (failed : Exchange.Failed ⟨c, (inMemory c s).1⟩) : (inMemory c s).2 = s := by
  rcases inMemory_cases distinct c with same | ⟨succeeded, -⟩
  · exact same
  · exact absurd failed succeeded

theorem inMemory_framed (distinct : s.Distinct) (c : PlaneCall) :
    Framed c s (inMemory c s).2 := by
  rcases inMemory_cases distinct c with same | ⟨-, ⟨operation, e, about, after⟩ | ⟨g, rfl, after⟩⟩
  · rw [same]
    exact framed_self c s
  · rw [after]
    exact framed_enact about operation s
  · rw [after]
    exact ⟨fun k _ => Snapshot.records_with_globalConfig s _ k, nofun, rfl⟩

end Store

namespace Registry

/-- The registry that a snapshot stands for. Its keys are distinct. -/
structure Represents (s : Snapshot) (r : Registry) : Prop where
  distinct : s.Distinct
  same : r = ofSnapshot s distinct

/-- An entity that is put into effect, as the maps see it. -/
theorem represents_enact {s : Snapshot} (distinct : s.Distinct) (operation : Operation)
    {e : Entity} (admits : Store.Admits operation e s) {m : OrderedMap e.kind.Record}
    (inserted : ∀ after, .ofList (Keyed.enact operation [e.record] (s.records e.kind)) after = m) :
    Represents (enact operation (collect [e]) s) ((ofSnapshot s distinct).set e.kind m) := by
  have after := Store.distinct_enact distinct admits
  refine ⟨after, ?_⟩
  have ofKind : (Keyed.keysOf (Keyed.enact operation [e.record] (s.records e.kind))).Nodup := by
    have once := after e.kind
    rwa [Snapshot.keys_eq_keysOf, Snapshot.records_enact, Snapshot.records_collect,
      Entity.recordsOf_singleton_self] at once
  rw [ofSnapshot_enact distinct after ofKind, inserted]

/-- One call: a store in memory and a registry give the same answer and go on alike. -/
theorem step_inMemory {s : Snapshot} {r : Registry} (represents : Represents s r) (c : PlaneCall) :
    (Store.inMemory c s).1 = (serve c r).1 ∧
      Represents (Store.inMemory c s).2 (serve c r).2 := by
  obtain ⟨distinct, rfl⟩ := represents
  have stays : Represents s (ofSnapshot s distinct) := ⟨distinct, rfl⟩
  cases c with
  | create e =>
    have order : ((ofSnapshot s distinct).collections e.kind).order = s.keys e.kind := rfl
    rw [Store.inMemory_create, serve, order]
    by_cases present : e.key ∈ s.keys e.kind
    · have present' : e.kind.key e.record ∈ s.keys e.kind := present
      rw [if_pos present, if_pos present']
      exact ⟨rfl, stays⟩
    · have absent : e.kind.key e.record ∉ s.keys e.kind := present
      rw [if_neg present, if_neg absent]
      exact ⟨rfl, represents_enact distinct .create present
        (OrderedMap.ofList_create (distinct e.kind) present)⟩
  | update key e =>
    have order : ((ofSnapshot s distinct).collections e.kind).order = s.keys e.kind := rfl
    have named : e.kind.key e.record = e.key := rfl
    rw [Store.inMemory_update distinct, serve, order, named]
    by_cases renames : e.key ≠ key
    · rw [if_pos renames, if_pos renames]
      exact ⟨rfl, stays⟩
    · obtain rfl := not_not.mp renames
      rw [if_neg renames, if_neg renames]
      by_cases present : e.key ∈ s.keys e.kind
      · rw [if_pos present, if_pos present]
        exact ⟨rfl, represents_enact distinct .update present
          (OrderedMap.ofList_update (distinct e.kind) present)⟩
      · rw [if_neg present, if_neg present]
        exact ⟨rfl, stays⟩
  | delete k key =>
    have order : ((ofSnapshot s distinct).collections k).order = s.keys k := rfl
    rw [serve, order]
    by_cases present : key ∈ s.keys k
    · rw [if_pos present]
      obtain ⟨e, rfl, rfl⟩ := Store.exists_entity present
      rw [Store.inMemory_delete_of_mem distinct present]
      exact ⟨rfl, represents_enact distinct .delete present
        (OrderedMap.ofList_delete (distinct e.kind))⟩
    · rw [if_neg present, Store.inMemory_delete_of_not_mem present]
      exact ⟨rfl, stays⟩
  | list k => exact ⟨rfl, stays⟩
  | read k key =>
    have value : ((ofSnapshot s distinct).collections k).value key =
        (s.records k).find? fun r => k.key r == key := rfl
    have reading : Store.inMemory (.read k key) s = (Store.read k key s, s) := rfl
    rw [reading, serve, Store.read, value]
    cases (s.records k).find? fun r => k.key r == key <;> exact ⟨rfl, stays⟩
  | showGlobal => exact ⟨rfl, stays⟩
  | modifyGlobal g =>
    have after : ({ s with globalConfig := some g } : Snapshot).Distinct := fun k => by
      rw [Snapshot.keys, Snapshot.records_with_globalConfig]
      exact distinct k
    refine ⟨rfl, after, congrArg (Registry.mk · (some g)) (funext fun k => ?_)⟩
    exact ofList_congr (Snapshot.records_with_globalConfig s _ k).symm _ _
  | backend => exact ⟨rfl, stays⟩
  | note event => exact ⟨rfl, stays⟩

end Registry

namespace LocalPlane

variable {W : Type} (machine : Server Machine W)

theorem run_commit (s : Snapshot) (outcome : Except PlaneError Snapshot) :
    (Store.serve.commit commit outcome).run (inMemory s) =
      .done (((Store.serve.commit Store.keep outcome).run s).1,
        inMemory ((Store.serve.commit Store.keep outcome).run s).2) := by
  cases outcome <;> rfl

/-- On any machine a plane in memory answers by the rules of the store, and stays in memory. -/
theorem on_inMemory (s : Snapshot) (world : W) (c : PlaneCall) :
    (on machine c (inMemory s, world)).1 = (Store.inMemory c s).1 ∧
      (on machine c (inMemory s, world)).2.1 = inMemory (Store.inMemory c s).2 := by
  have committed : ∀ outcome : Except PlaneError Snapshot,
      (((Store.serve.commit commit outcome).run (inMemory s)).exec machine world).1 =
        (((Store.serve.commit Store.keep outcome).run s).1,
          inMemory ((Store.serve.commit Store.keep outcome).run s).2) := by
    intro outcome
    rw [run_commit]
    rfl
  cases c with
  | create e => exact Prod.mk.inj (committed (Store.create e s))
  | update key e => exact Prod.mk.inj (committed (Store.update key e s))
  | delete k key => exact Prod.mk.inj (committed (Store.delete k key s))
  | modifyGlobal g => exact Prod.mk.inj (committed (.ok { s with globalConfig := some g }))
  | list _ | read _ _ | showGlobal | backend | note _ => exact ⟨rfl, rfl⟩

theorem eq_inMemory {plane : LocalPlane} (path : plane.path = none) :
    plane = inMemory plane.state := by
  obtain ⟨_, state⟩ := plane
  obtain rfl := path
  rfl

/-- A plane without a state file that holds what a registry does. -/
structure Embodies (plane : LocalPlane) (r : Registry) : Prop where
  path : plane.path = none
  represents : Registry.Represents plane.state r

/-- One call to a plane in memory, and to the registry. -/
theorem step_on (before : LocalPlane × W) (r : Registry) (c : PlaneCall)
    (embodies : Embodies before.1 r) :
    (on machine c before).1 = (Registry.serve c r).1 ∧
      Embodies (on machine c before).2.1 (Registry.serve c r).2 := by
  obtain ⟨plane, world⟩ := before
  obtain ⟨answered, after⟩ := on_inMemory machine plane.state world c
  rw [← eq_inMemory embodies.path] at answered after
  obtain ⟨same, goesOn⟩ := Registry.step_inMemory embodies.represents c
  rw [answered, after]
  exact ⟨same, rfl, goesOn⟩

/-- A call that fails changes nothing, and any call changes only what it is about. -/
theorem framed_on {before : LocalPlane × W} {r : Registry} (embodies : Embodies before.1 r)
    (c : PlaneCall) :
    (Exchange.Failed ⟨c, (on machine c before).1⟩ →
        (on machine c before).2.1.state = before.1.state) ∧
      Store.Framed c before.1.state (on machine c before).2.1.state := by
  obtain ⟨plane, world⟩ := before
  obtain ⟨answered, after⟩ := on_inMemory machine plane.state world c
  rw [← eq_inMemory embodies.path] at answered after
  rw [answered, after]
  have distinct := embodies.represents.distinct
  exact ⟨Store.inMemory_failed distinct, Store.inMemory_framed distinct c⟩

/--
A plane in memory whose keys are distinct cannot be told from a registry: whatever it is asked, the
answers are the same, and at each moment its snapshot stands for the registry. At each moment a call
that fails changes nothing, and any call changes only what it is about.
-/
theorem inMemory_refines {α : Type} (world : W) (s : Snapshot) (distinct : s.Distinct)
    (p : Control α) :
    let serve := on machine
    let registry := Registry.ofSnapshot s distinct
    p.journal serve (inMemory s, world) = p.journal Registry.serve registry ∧
      ∀ n, let reached := p.stateAfter serve (inMemory s, world) n
        Registry.Represents reached.1.state (p.stateAfter Registry.serve registry n) ∧
          ∀ c, let next := serve c reached
            (Exchange.Failed ⟨c, next.1⟩ → next.2.1.state = reached.1.state) ∧
              Store.Framed c reached.1.state next.2.1.state := by
  have start : Embodies (inMemory s) (.ofSnapshot s distinct) := ⟨rfl, distinct, rfl⟩
  obtain ⟨journals, embodies⟩ :=
    journal_related (fun t r => Embodies t.1 r) (step_on machine) p (s := (inMemory s, world)) start
  exact ⟨journals, fun n => ⟨(embodies n).represents, framed_on machine (embodies n)⟩⟩

/-- A manager without a name is created, cannot be created again, and is deleted. -/
theorem inMemory_refines_of_unnamed :
    let s := Snapshot.small "staff" ⟨0x3ff0000000000000⟩
    let calls : List PlaneCall := [.create ⟨.manager, ""⟩, .create ⟨.manager, ""⟩, .list .manager,
      .update "staff" ⟨.userSetList, { name := "guests" }⟩, .delete .manager "", .read .manager ""]
    let p : Control Unit := calls.forM fun c => Control.call c >>= fun _ => pure ()
    ∃ distinct : s.Distinct, p.journal (on obliging) (inMemory s, ()) =
      p.journal Registry.serve (.ofSnapshot s distinct) := by
  intro s calls p
  have distinct : s.Distinct := by decide
  exact ⟨distinct, (inMemory_refines obliging () s distinct p).1⟩

end LocalPlane

end ClusterConf
