import ClusterConf.Proofs.Remainder
set_option autoImplicit false

/-!
Applies that end early. Main statement: when an apply has stopped at some mutation, a new plan
consists of the actions of the first plan from that mutation on.
-/
namespace ClusterConf.Reconciler

open Program
open Control (mutations)
open Comparison (between stages)
open Store (Faulty)

section

variable {desired s t : Snapshot} {c : Comparison} {k : Nat}

theorem plan_succeeds {W : Type} (machine : Server Machine W) (plane : LocalPlane) (world : W)
    (compared : between plane.state desired = .ok c) :
    ((plan desired).run.exec (LocalPlane.on machine) (plane, world)).1 =
      .ok (.ofComparison c desired.fingerprint) := by
  exact plan_tells compared (exec_trace (LocalPlane.on machine) _ (plane, world))
    (LocalPlane.follows_readable machine _ (plane, world))

/-- The mutation at which trials have stopped. -/
theorem Trials.stopped_at {ms : List Mutation} {ts : List Trial} (trials : Trials false ms ts)
    {x : Exchange Plane} (made : (ts.map Trial.exchange)[k]? = some x) (failed : x.Failed) :
    ∃ m source, ts = (ms.take k).map Trial.success ++ [.failure m source] := by
  rcases trials.stopped with rfl | ⟨done, m, rest, source, rfl, rfl⟩
  · exact absurd failed (Trial.not_failed_of_success (List.mem_of_getElem? made))
  · have inside : k < done.length + 1 := by
      have bound := (List.getElem?_eq_some_iff.mp made).1
      simpa using bound
    have reached : ¬ k < done.length := by
      intro early
      rw [List.map_append, List.getElem?_append_left (by simpa using early)] at made
      exact Trial.not_failed_of_success (List.mem_of_getElem? made) failed
    have last : k = done.length := by omega
    refine ⟨m, source, ?_⟩
    rw [last, List.take_left]

/-- An apply that has stopped at a mutation has made those before it. -/
theorem apply_stops (compared : between s desired = .ok c) {xs : List (Exchange Plane)}
    {r : Except Error ApplyOutcome} (trace : Trace (apply desired false).run xs r)
    (follows : Follows Faulty s xs t)
    (stopped : (∃ x, (mutations xs)[k]? = some x ∧ x.Failed) ∨
      k = (c.mutationsOf stages).length ∧ ∃ outcome, r = .ok outcome) :
    t = ((c.mutationsOf stages).take k).foldl Mutation.perform s := by
  rcases apply_cases trace with ⟨e, -, reads, rfl⟩ | ⟨c', ts, e, ys, enforced, rfl⟩
  · rcases stopped with ⟨x, made, -⟩ | ⟨-, outcome, impossible⟩
    · rw [Control.mutations_reads reads] at made
      cases made
    · cases impossible
  · obtain ⟨same, effect⟩ := enforced.effect follows
    rw [compared] at same
    obtain rfl := Except.ok.inj same
    rcases stopped with ⟨x, made, failed⟩ | ⟨rfl, outcome, succeeded⟩
    · rw [enforced.mutations] at made
      obtain ⟨m, source, rfl⟩ := Trials.stopped_at enforced.tried.trials made failed
      rw [effect, List.foldl_append, Trial.foldl_perform_success]
      rfl
    · rcases enforced.tried.cases with ⟨rfl, -⟩ | ⟨before, operation, done, m, source, -, -, rfl⟩
      · rw [effect, Trial.foldl_perform_success, List.take_length]
      · cases succeeded

end

/--
An apply that stops at the mutation after the first `k`, whatever makes that one fail, leaves a
plane on which a new plan has the actions of the first one without these `k`. If it does not stop
the new plan has none.
-/
theorem apply_resumes {W : Type} (machine : Server Machine W) (faults : Faults)
    (plane : LocalPlane) (world : W) (desired : Snapshot) (keyed : plane.state.WellKeyed)
    (keyedDesired : desired.WellKeyed) (numbers : desired.NoNaN) :
    let planning := (plan desired).run.exec (LocalPlane.on machine)
    let serve := faults.impose (LocalPlane.on machine)
    let made := mutations ((apply desired false).run.journal serve (0, plane, world))
    let finish := (apply desired false).run.exec serve (0, plane, world)
    ∃ p, (planning (plane, world)).1 = .ok p ∧ ∀ k ≤ p.actions.length,
      ((∃ x, made[k]? = some x ∧ x.Failed) ∨
        k = p.actions.length ∧ ∃ outcome, finish.1 = .ok outcome) →
      (planning finish.2.2).1 = .ok { p with actions := p.actions.drop k } := by
  obtain ⟨c, compared⟩ := Comparison.between_succeeds keyed keyedDesired
  refine ⟨.ofComparison c desired.fingerprint, plan_succeeds machine plane world compared, ?_⟩
  rw [Plan.actions_ofComparison, List.length_map]
  intro k within stopped
  have effect := apply_stops compared
    (exec_trace (faults.impose (LocalPlane.on machine)) _ (0, plane, world))
    (faults.follows_faulty machine _ plane world) stopped
  obtain ⟨rest, again, left⟩ :=
    Comparison.remainder compared numbers (List.take_append_drop k (c.mutationsOf stages)).symm
  rw [← effect] at again
  have told := plan_succeeds machine _ (((apply desired false).run.exec
    (faults.impose (LocalPlane.on machine)) (0, plane, world)).2.2.2) again
  refine told.trans (congrArg Except.ok ?_)
  have actions := Plan.actions_ofComparison rest desired.fingerprint
  rw [left, List.map_drop] at actions
  rw [← actions]
  rfl

/-- The third of four mutations fails, that of a parallel environment, and two are left. -/
theorem apply_resumes_of_fault :
    let live := LocalPlane.inMemory (.small "staff" ⟨0x3ff0000000000000⟩)
    let desired := Snapshot.small "guests" ⟨0x4000000000000000⟩
    let faults : Faults := fun n => if n = 39 then some (.backend "busy") else none
    let planning := (plan desired).run.exec (LocalPlane.on obliging)
    let finish :=
      (apply desired false).run.exec (faults.impose (LocalPlane.on obliging)) (0, live, ())
    live.state.WellKeyed ∧ desired.WellKeyed ∧ desired.NoNaN ∧
      ∃ p, (planning (live, ())).1 = .ok p ∧ p.actions.length = 4 ∧
        (planning finish.2.2).1 = .ok { p with actions := p.actions.drop 2 } := by
  intro live desired faults
  have keyed : live.state.WellKeyed := by decide
  have keyedDesired : desired.WellKeyed := by decide
  have numbers : desired.NoNaN := by decide
  obtain ⟨p, planned, resumes⟩ :=
    apply_resumes obliging faults live () desired keyed keyedDesired numbers
  have length : p.actions.length = 4 := by
    have count : ((plan desired).run.exec (LocalPlane.on obliging) (live, ())).1.toOption.map
        (fun p => p.actions.length) = some 4 := by
      decide +kernel
    rw [planned] at count
    exact Option.some.inj count
  have failed : ∃ x, (mutations ((apply desired false).run.journal
      (faults.impose (LocalPlane.on obliging)) (0, live, ())))[2]? = some x ∧ x.Failed := by
    have refused : ((mutations ((apply desired false).run.journal
        (faults.impose (LocalPlane.on obliging)) (0, live, ())))[2]?.any
          fun | ⟨.update _ _, .error _⟩ => true | _ => false) = true := by
      decide +kernel
    obtain ⟨x, made, updated⟩ := (Option.any_eq_true _ _).mp refused
    refine ⟨x, made, ?_⟩
    split at updated
    · exact ⟨_, rfl⟩
    · cases updated
  have left := resumes 2 (by omega) (.inl failed)
  exact ⟨keyed, keyedDesired, numbers, p, planned, length, left⟩

end ClusterConf.Reconciler
