import ClusterConf.Proofs.Integrity
import Mathlib.Data.List.Perm.Subperm
set_option autoImplicit false

/-!
Destroying a cluster. Main statement: on a plane that answers by the rules of the store a destroy
makes one deletion for each record that is there, those with a repeated key included, and none is
left.
-/
namespace ClusterConf

open Program
open Control (mutations)
open Entity (recordsOf)
open Keyed (keysOf)
open Store (Ruled Faulty)

/-- By the rules what has a key that is there can be deleted, also if the key is there twice. -/
theorem Store.Ruled.deletes {s t : Snapshot} {e : Entity} {answer : Except PlaneError Unit}
    (step : Ruled s (Phase.exchange .delete e answer) t) (present : e.key ∈ s.keys e.kind) :
    answer = .ok () := by
  rcases step.exchange with ⟨-, accepted⟩ | ⟨err, failed, -, -⟩
  · exact accepted
  · have found : Keyed.removeFirst? e.key (s.records e.kind) ≠ none :=
      fun missing => Keyed.removeFirst?_eq_none_iff.mp missing present
    simp only [Store.change, Store.delete, Snapshot.remove?] at failed
    cases removed : Keyed.removeFirst? e.key (s.records e.kind) with
    | none => exact absurd removed found
    | some pair =>
      rw [removed] at failed
      cases failed

/-- A snapshot holds the keys of some entities, each as often as it is named. -/
def Snapshot.Holds (s : Snapshot) (es : List Entity) : Prop :=
  ∀ k, (keysOf (recordsOf k es)).Subperm (s.keys k)

namespace Snapshot.Holds

variable {s t : Snapshot} {e : Entity} {es : List Entity}

theorem present (holds : s.Holds (e :: es)) : e.key ∈ s.keys e.kind := by
  have first : recordsOf e.kind (e :: es) = e.record :: recordsOf e.kind es := by
    have split := Entity.recordsOf_append e.kind [e] es
    rw [Entity.recordsOf_singleton_self] at split
    exact split
  have within := (holds e.kind).subset
  rw [first, Keyed.keysOf_cons] at within
  exact within List.mem_cons_self

theorem deleted (holds : s.Holds (e :: es))
    (step : Faulty s (Phase.exchange .delete e (.ok ())) t) : t.Holds es := by
  obtain ⟨l, r⟩ := e
  obtain ⟨-, keys, others⟩ := step.deleted
  intro k
  have named := holds k
  have split : recordsOf k (⟨l, r⟩ :: es) = recordsOf k [⟨l, r⟩] ++ recordsOf k es :=
    Entity.recordsOf_append k [⟨l, r⟩] es
  rw [split] at named
  by_cases same : l = k
  · subst same
    rw [Entity.recordsOf_singleton_self, List.singleton_append, Keyed.keysOf_cons] at named
    have left := named.erase (l.key r)
    have erased : (Keyed.key r :: keysOf (recordsOf l es)).erase (l.key r) =
        keysOf (recordsOf l es) := List.erase_cons_head _ _
    rw [erased] at left
    rw [keys]
    exact left
  · rw [Entity.recordsOf_singleton_of_ne same, List.nil_append] at named
    rw [Snapshot.keys, others k (Ne.symm same)]
    exact named

end Snapshot.Holds

/-- By the rules each deletion of what is there succeeds. -/
theorem Trials.deletions {goOn : Bool} {es : List Entity} {ts : List Trial} {s t : Snapshot}
    (trials : Trials goOn (Phase.each .delete es) ts)
    (follows : Follows Ruled s (ts.map Trial.exchange) t) (holds : s.Holds es) :
    ts = (Phase.each .delete es).map Trial.success := by
  induction es generalizing s ts with
  | nil =>
    cases trials
    rfl
  | cons e es ih =>
    have tried : Trials goOn (.entity .delete e :: Phase.each .delete es) ts := trials
    have refused : ∀ {source : PlaneError} {u : Snapshot},
        ¬ Ruled s (Phase.exchange .delete e (.error source)) u := by
      intro source u step
      cases step.deletes holds.present
    cases tried with
    | succeed _ rest =>
      cases follows with
      | cons first later =>
        exact congrArg (List.cons _) (ih rest later (holds.deleted (.inl first)))
    | goOn _ source goes rest =>
      cases follows with
      | cons first later => exact absurd first refused
    | stop _ source ms stops =>
      cases follows with
      | cons first later => exact absurd first refused

namespace Reconciler

/-- The live cluster on a plane that answers by the rules. -/
theorem current_mirrors {s t : Snapshot} {xs : List (Exchange Plane)} {r : Except Error Snapshot}
    (trace : Trace current.run xs r) (follows : Follows Ruled s xs t) :
    ∃ live, r = .ok live ∧ Live.Mirrors s live := by
  rcases current_cases trace with ⟨e, reading, rfl⟩ | ⟨live, reading, rfl⟩
  · obtain ⟨-, obeyed⟩ := follows.steady Ruled.unchanged (Live.only_read.trace reading)
    obtain ⟨found, impossible⟩ := Live.read_succeeds reading obeyed
    cases impossible
  · obtain ⟨-, obeyed⟩ := follows.steady Ruled.unchanged (Live.only_read.trace reading)
    exact ⟨live, rfl, Live.read_mirrors reading fun x member => .inl (obeyed x member)⟩

/-- A destroy of a plane that answers by the rules deletes all that is there. -/
theorem destroy_clears {goOn : Bool} {s t : Snapshot} {xs : List (Exchange Plane)}
    {r : Except Error PhaseReport} (trace : Trace (destroy goOn).run xs r)
    (follows : Follows Ruled s xs t) :
    ∃ es, mutations xs = ((Phase.each .delete es).map Trial.success).map Trial.exchange ∧
      (es = [] ↔ ∀ k, s.records k = []) ∧ ∀ k, t.records k = [] := by
  rcases destroy_cases trace with ⟨e, reading⟩ | ⟨ys, zs, found, ts, rfl, reading, trials, same⟩
  · have reads := Live.only_read.trace reading
    obtain ⟨-, obeyed⟩ := follows.steady Ruled.unchanged reads
    obtain ⟨found, impossible⟩ := Live.read_succeeds reading obeyed
    cases impossible
  have reads := Live.only_read.trace reading
  obtain ⟨m, surveying, -⟩ := follows.append_inv
  obtain ⟨-, obeyed⟩ := surveying.steady Ruled.unchanged reads
  have mirrors := Live.read_mirrors reading fun x member => .inl (obeyed x member)
  have whole : ∀ k,
      keysOf (recordsOf k (Phase.entitiesIn Kind.deletionOrder found)) = s.keys k := by
    intro k
    rw [Snapshot.recordsOf_entitiesIn Kind.nodup_deletionOrder, if_pos (Kind.mem_deletionOrder k),
      ← Snapshot.keys_eq_keysOf, mirrors.keys]
  have changing := follows.mutations Ruled.unchanged
  rw [same] at changing
  rw [Phase.mutationsOf_delete] at trials
  obtain rfl := trials.deletions changing fun k => by rw [whole]
  have remains : Remains s _ t := remains_of_follows (changing.map id fun _ _ _ => .inl)
  refine ⟨Phase.entitiesIn Kind.deletionOrder found, same, ?_, fun k => ?_⟩
  · rw [← mirrors.records_eq_nil_iff]
    exact Snapshot.entitiesIn_eq_nil_iff Kind.mem_deletionOrder
  · obtain ⟨-, left⟩ := remains k
    rw [whole, diff_self] at left
    exact List.map_eq_nil_iff.mp left

end Reconciler
end ClusterConf
