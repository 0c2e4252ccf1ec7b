import ClusterConf.Proofs.ApplyEffects
import ClusterConf.Proofs.LocalRuns
set_option autoImplicit false

/-!
What an apply reports when calls fail. Main statement: whatever calls fail, the result of an apply
tells exactly which mutations have changed the plane.
-/
namespace ClusterConf.Reconciler

open Program
open Control (calls mutations)
open Snapshot (enact)
open Comparison (stages)
open Store (Faulty)

/--
The result of an apply accounts for its calls and for what they did to the plane. An apply that
could not read or compare has only read. One that stopped in a phase has made all mutations of the
phases before and those in `completed`; the call that failed was its last one. One that succeeded
has made all mutations of the comparison.
-/
def Accounts (live desired : Snapshot) (made : List (Exchange Plane)) (final : Snapshot) :
    Except Error ApplyOutcome → Prop
  | .error (.read _) | .error (.compare _) => (∀ x ∈ made, x.request.Reads) ∧ final = live
  | .error (.apply (.phase operation completed source)) =>
    ∃ c before done m err asked, Comparison.between live desired = .ok c ∧
      StopsAt c stages before operation done m ∧ (∀ x ∈ asked, x.request.Reads) ∧
      made = asked ++
        ((c.mutationsOf before ++ done).map Trial.success ++ [Trial.failure m err]).map
          Trial.exchange ∧
      completed = Mutation.recorded done ∧ source = .single (m.failure err) ∧
      final = enact operation completed (c.perform before live)
  | .ok outcome =>
    ∃ c asked, Comparison.between live desired = .ok c ∧ (∀ x ∈ asked, x.request.Reads) ∧
      made = asked ++ ((c.mutationsOf stages).map Trial.success).map Trial.exchange ∧
      outcome.added = c.added ∧ outcome.modified = c.modified ∧ outcome.deleted = c.removed ∧
      final = c.perform stages live
  | .error _ => False

theorem accounts_of_follows {live desired final : Snapshot} {xs : List (Exchange Plane)}
    {r : Except Error ApplyOutcome} (trace : Trace (apply desired false).run xs r)
    (follows : Follows Faulty live xs final) : Accounts live desired (calls xs) final r := by
  rcases apply_cases trace with ⟨e, surveyed, reads, rfl⟩ | ⟨c, ts, e, ys, enforced, rfl⟩
  · have asked : ∀ x ∈ calls xs, x.request.Reads := fun x member =>
      reads x (List.mem_of_mem_filter member)
    have unchanged : final = live := (follows.steady Faulty.unchanged reads).1
    cases surveyed with
    | unread reading => exact ⟨asked, unchanged⟩
    | incomparable front reading failed => exact ⟨asked, unchanged⟩
  · obtain ⟨compared, effect⟩ := enforced.effect follows
    have asked : ∀ x ∈ calls ys, x.request.Reads := fun x member =>
      enforced.reads x (List.mem_of_mem_filter member)
    rcases enforced.tried.cases with ⟨rfl, rfl⟩ | ⟨before, operation, done, m, err, stops, rfl, rfl⟩
    · refine ⟨c, calls ys, compared, asked, enforced.calls, rfl, rfl, rfl, ?_⟩
      rw [effect, Trial.foldl_perform_success, Comparison.foldl_perform_mutationsOf compared]
    · refine ⟨c, before, done, m, err, calls ys, compared, stops, asked, enforced.calls, rfl, rfl,
        ?_⟩
      have inside : done <+: Phase.mutationsOf operation (c.part operation) :=
        (List.prefix_append done [m]).trans stops.mutations
      have failing : ∀ s, Trial.perform s (.failure m err) = s := fun _ => rfl
      rw [effect, List.foldl_append, List.foldl_cons, List.foldl_nil, failing,
        Trial.foldl_perform_success, Comparison.foldl_perform_append compared inside]

/-- Whatever calls fail, in a local plane or on the way there, an apply accounts for all of them. -/
theorem apply_accounts {W : Type} (machine : Server Machine W) (faults : Faults)
    (plane : LocalPlane) (world : W) (desired : Snapshot) :
    let serve := faults.impose (LocalPlane.on machine)
    let program := (apply desired false).run
    Accounts plane.state desired (calls (program.journal serve (0, plane, world)))
      (program.exec serve (0, plane, world)).2.2.1.state
      (program.exec serve (0, plane, world)).1 := by
  intro serve program
  exact accounts_of_follows (exec_trace serve program _)
    (faults.follows_faulty machine program plane world)

end ClusterConf.Reconciler
