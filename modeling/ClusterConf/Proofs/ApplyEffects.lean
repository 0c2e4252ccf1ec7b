import ClusterConf.Proofs.ApplyRuns
import ClusterConf.Proofs.Reading
set_option autoImplicit false

/-!
What an apply does to a plane that keeps a snapshot. Main statement: at any moment of an apply,
where calls may have failed without effect, the plane holds the live snapshot with the parts of all
earlier phases and a first part of the current phase put into effect.
-/
namespace ClusterConf

open Program
open Control (mutations mutations_append mutations_reads)
open Snapshot (enact)
open Comparison (stages)

theorem Control.mutations_prefix {xs ys : List (Exchange Plane)} (front : xs <+: ys) :
    mutations xs <+: mutations ys := front.filter _

/-- A first part of trials that stop at the first failure is a first part of their mutations, each
successful, and perhaps a failure. -/
theorem Trials.prefix_cases {ms : List Mutation} {ts us : List Trial}
    (trials : Trials false ms ts) (front : us <+: ts) :
    ∃ done, done <+: ms ∧ (us = done.map Trial.success ∨
      ∃ m source, us = done.map Trial.success ++ [.failure m source]) := by
  induction trials generalizing us with
  | nil => exact ⟨[], List.nil_prefix, .inl (List.prefix_nil.mp front)⟩
  | succeed m _ ih =>
    rcases List.prefix_cons_iff.mp front with rfl | ⟨vs, rfl, inside⟩
    · exact ⟨[], List.nil_prefix, .inl rfl⟩
    · obtain ⟨done, first, rfl | ⟨m', source, rfl⟩⟩ := ih inside
      · exact ⟨m :: done, (List.prefix_cons_inj m).mpr first, .inl rfl⟩
      · exact ⟨m :: done, (List.prefix_cons_inj m).mpr first, .inr ⟨m', source, rfl⟩⟩
  | goOn m source goes => cases goes
  | stop m source ms =>
    refine ⟨[], List.nil_prefix, ?_⟩
    rcases List.prefix_cons_iff.mp front with rfl | ⟨vs, rfl, inside⟩
    · exact .inl rfl
    · exact .inr ⟨m, source, by rw [List.prefix_nil.mp inside]; rfl⟩

/-- A first part of trials that stop at the first failure has the effect of a first part of their
mutations. -/
theorem Trials.prefix_effect {ms : List Mutation} {ts us : List Trial}
    (trials : Trials false ms ts) (front : us <+: ts) (s : Snapshot) :
    ∃ done, done <+: ms ∧ us.foldl Trial.perform s = done.foldl Mutation.perform s := by
  obtain ⟨done, first, rfl | ⟨m, source, rfl⟩⟩ := trials.prefix_cases front
  · exact ⟨done, first, Trial.foldl_perform_success done s⟩
  · refine ⟨done, first, ?_⟩
    rw [List.foldl_append, Trial.foldl_perform_success]
    rfl

namespace Comparison

/-- The snapshot after some phases of an apply. -/
def perform (c : Comparison) (operations : List Operation) (s : Snapshot) : Snapshot :=
  operations.foldl (fun s operation => enact operation (c.part operation) s) s

variable {c : Comparison} {old new : Snapshot}

theorem Describes.part_sublist (describes : c.Describes old new) (operation : Operation)
    (k : Kind) :
    ((c.part operation).records k).Sublist (new.records k) ∨
      ((c.part operation).records k).Sublist (old.records k) := by
  cases operation with
  | create => exact .inl (describes.added k ▸ List.filter_sublist)
  | update => exact .inl (describes.modified k ▸ List.filter_sublist)
  | delete => exact .inr (describes.removed k ▸ List.filter_sublist)

theorem distinct_part (compared : between old new = .ok c) (operation : Operation) :
    (c.part operation).Distinct := by
  obtain ⟨keyedOld, keyedNew, describes⟩ := between_describes compared
  intro k
  rcases describes.part_sublist operation k with sublist | sublist
  · exact (keyedNew.distinct k).sublist (sublist.map _)
  · exact (keyedOld.distinct k).sublist (sublist.map _)

theorem stages_cases {before : List Operation} {operation : Operation}
    (phases : before ++ [operation] <+: stages) :
    before = [] ∧ operation = .create ∨ before = [.create] ∧ operation = .update ∨
      before = [.create, .update] ∧ operation = .delete := by
  obtain ⟨rest, split⟩ := phases
  rcases before with _ | ⟨a, _ | ⟨b, _ | ⟨d, before⟩⟩⟩ <;>
    simp only [stages, List.nil_append, List.cons_append, List.cons.injEq] at split
  · exact .inl ⟨rfl, split.1⟩
  · obtain ⟨rfl, rfl, -⟩ := split
    exact .inr (.inl ⟨rfl, rfl⟩)
  · obtain ⟨rfl, rfl, rfl, -⟩ := split
    exact .inr (.inr ⟨rfl, rfl⟩)
  · simp at split

/-- A first part of the mutations is made of whole phases and a first part of one more. -/
theorem prefix_mutationsOf {operations : List Operation} (some : operations ≠ [])
    {ms : List Mutation} (first : ms <+: c.mutationsOf operations) :
    ∃ before operation done, before ++ [operation] <+: operations ∧
      ms = c.mutationsOf before ++ done ∧
      done <+: Phase.mutationsOf operation (c.part operation) := by
  induction operations generalizing ms with
  | nil => exact absurd rfl some
  | cons operation rest ih =>
    rw [mutationsOf_cons] at first
    have single : [] ++ [operation] <+: operation :: rest :=
      (List.prefix_cons_inj operation).mpr List.nil_prefix
    -- The first part ends in this phase, or in a later one if there is any.
    rcases List.prefix_or_prefix_of_prefix first (List.prefix_append _ _) with inside | ⟨ns, rfl⟩
    · exact ⟨[], operation, ms, single, rfl, inside⟩
    · have later := (List.prefix_append_right_inj _).mp first
      by_cases last : rest = []
      · subst last
        obtain rfl := List.prefix_nil.mp later
        exact ⟨[], operation, _, single, (List.append_nil _), List.prefix_rfl⟩
      · obtain ⟨before, o, done, split, rfl, inside⟩ := ih last later
        refine ⟨operation :: before, o, done, (List.prefix_cons_inj operation).mpr split, ?_,
          inside⟩
        rw [mutationsOf_cons, List.append_assoc]

theorem foldl_perform_mutationsOf (compared : between old new = .ok c) (operations : List Operation)
    (s : Snapshot) :
    (c.mutationsOf operations).foldl Mutation.perform s = c.perform operations s := by
  induction operations generalizing s with
  | nil => rfl
  | cons operation rest ih =>
    obtain ⟨-, -, describes⟩ := between_describes compared
    rw [mutationsOf_cons, List.foldl_append, ih,
      Phase.foldl_perform_prefix (distinct_part compared operation) List.prefix_rfl,
      Phase.recorded_mutationsOf (describes.fits operation)]
    rfl

/-- Whole phases and a first part of the next one. -/
theorem foldl_perform_append (compared : between old new = .ok c) {before : List Operation}
    {operation : Operation} {done : List Mutation}
    (inside : done <+: Phase.mutationsOf operation (c.part operation)) (s : Snapshot) :
    (c.mutationsOf before ++ done).foldl Mutation.perform s =
      enact operation (Mutation.recorded done) (c.perform before s) := by
  rw [List.foldl_append, foldl_perform_mutationsOf compared,
    Phase.foldl_perform_prefix (distinct_part compared operation) inside]

/-- An apply tells that it has changed something if it has mutations to make. -/
theorem changed_eq_false_iff : c.outcome.changed = false ↔ c.mutationsOf stages = [] := by
  have counted : c.outcome.changed = (decide (0 < c.added.entityCount + c.modified.entityCount +
      c.removed.entityCount) || c.modified.globalConfig.isSome) := rfl
  have empty : ∀ {operation : Operation} {order : List Kind} {s : Snapshot}, (∀ k, k ∈ order) →
      (Phase.each operation (Phase.entitiesIn order s) = [] ↔ s.entityCount = 0) := by
    intro operation order s every
    rw [Phase.each, List.map_eq_nil_iff, Snapshot.entitiesIn_eq_nil_iff every,
      Snapshot.entityCount_eq_zero_iff]
  have unset : c.modified.globalConfig.toList.map Mutation.globalConfig = [] ↔
      c.modified.globalConfig.isSome = false := by
    cases c.modified.globalConfig <;> simp
  simp only [counted, mutationsOf, stages, List.flatMap_cons, List.flatMap_nil,
    Phase.mutationsOf_create, Phase.mutationsOf_update, Phase.mutationsOf_delete, part,
    List.append_eq_nil_iff, empty Kind.mem_creationOrder, empty Kind.mem_deletionOrder, unset,
    Bool.or_eq_false_iff, decide_eq_false_iff_not]
  grind

end Comparison

namespace Reconciler

open Store (Faulty)

theorem keyed_of_mirrors {s found : Snapshot} (mirrors : Live.Mirrors s found)
    (keyed : found.WellKeyed) : s.WellKeyed :=
  ⟨fun k => mirrors.keys k ▸ keyed.nonempty k, fun k => mirrors.keys k ▸ keyed.distinct k⟩

/-- A survey compares what the plane holds. -/
theorem surveyed_compares {desired s t : Snapshot} {xs : List (Exchange Plane)} {c : Comparison}
    (surveyed : Surveyed desired xs (.ok c)) (reads : ∀ x ∈ xs, x.request.Reads)
    (follows : Follows Faulty s xs t) : Comparison.between s desired = .ok c := by
  obtain ⟨-, seen⟩ := follows.steady Faulty.unchanged reads
  cases surveyed with
  | compared front reading compared =>
    have mirrors := Live.read_mirrors reading fun x member => seen x (front.subset member)
    have keyed := keyed_of_mirrors mirrors (Comparison.between_describes compared).1
    rw [mirrors.eq keyed.distinct, Comparison.between_environment] at compared
    exact compared

/-- A plane after an apply that could read and compare. -/
theorem Enforced.effect {desired s t : Snapshot} {xs ys : List (Exchange Plane)} {c : Comparison}
    {ts : List Trial} {e : Option ApplyError} (enforced : Enforced desired xs c ts e ys)
    (follows : Follows Faulty s xs t) :
    Comparison.between s desired = .ok c ∧ t = ts.foldl Trial.perform s := by
  obtain ⟨rest, rfl⟩ := enforced.front
  obtain ⟨m, surveying, -⟩ := follows.append_inv
  have compared := surveyed_compares enforced.surveyed enforced.reads surveying
  have distinct := (Comparison.between_describes compared).1.distinct
  have changing := follows.mutations Faulty.unchanged
  rw [enforced.mutations] at changing
  exact ⟨compared, (changing.trials distinct).2⟩

/-- An apply that succeeded has made all mutations of the comparison. -/
theorem apply_done {desired s t : Snapshot} {xs : List (Exchange Plane)} {outcome : ApplyOutcome}
    (trace : Trace (apply desired false).run xs (.ok outcome))
    (follows : Follows Faulty s xs t) :
    ∃ c, Comparison.between s desired = .ok c ∧ outcome = c.outcome ∧ t = c.perform stages s ∧
      mutations xs = ((c.mutationsOf stages).map Trial.success).map Trial.exchange := by
  rcases apply_cases trace with ⟨e, -, -, impossible⟩ | ⟨c, ts, e, ys, enforced, ended⟩
  · cases impossible
  obtain ⟨compared, effect⟩ := enforced.effect follows
  rcases enforced.tried.cases with ⟨rfl, rfl⟩ | ⟨before, operation, done, m, source, -, -, rfl⟩
  · rw [Trial.foldl_perform_success, Comparison.foldl_perform_mutationsOf compared] at effect
    exact ⟨c, compared, Except.ok.inj ended, effect, enforced.mutations⟩
  · cases ended

/-- Up to any moment of an apply the plane was at most asked to make mutations of the comparison
with what it held, one after the other until one failed. -/
theorem apply_tries {desired s t : Snapshot} {xs front : List (Exchange Plane)}
    {r : Except Error ApplyOutcome} (trace : Trace (apply desired false).run xs r)
    (prefixed : front <+: xs) (follows : Follows Faulty s front t) :
    t = s ∨ ∃ c ts us, Comparison.between s desired = .ok c ∧
      Trials false (c.mutationsOf stages) ts ∧ us <+: ts ∧
      Follows Faulty s (us.map Trial.exchange) t := by
  rcases apply_cases trace with ⟨e, -, reads, -⟩ | ⟨c, ts, e, ys, enforced, -⟩
  · exact .inl (follows.steady Faulty.unchanged fun x member => reads x (prefixed.subset member)).1
  rcases List.prefix_or_prefix_of_prefix prefixed enforced.front with early | later
  · exact .inl (follows.steady Faulty.unchanged fun x member =>
      enforced.reads x (early.subset member)).1
  obtain ⟨rest, rfl⟩ := later
  obtain ⟨m, surveying, -⟩ := follows.append_inv
  have compared := surveyed_compares enforced.surveyed enforced.reads surveying
  have shorter := Control.mutations_prefix prefixed
  rw [enforced.mutations] at shorter
  obtain ⟨us, first, equal⟩ := List.prefix_map_iff.mp shorter
  have changing := follows.mutations Faulty.unchanged
  rw [equal] at changing
  exact .inr ⟨c, ts, us, compared, enforced.tried.trials, first, changing⟩

/-- At any moment of an apply the plane holds what it held, or with all parts of some phases and a
first part of the next one put into effect. -/
theorem apply_reaches {desired s t : Snapshot} {xs front : List (Exchange Plane)}
    {r : Except Error ApplyOutcome} (trace : Trace (apply desired false).run xs r)
    (prefixed : front <+: xs) (follows : Follows Faulty s front t) :
    t = s ∨ ∃ c before operation done, Comparison.between s desired = .ok c ∧
      before ++ [operation] <+: stages ∧ done <+: Phase.mutationsOf operation (c.part operation) ∧
      t = enact operation (Mutation.recorded done) (c.perform before s) := by
  rcases apply_tries trace prefixed follows with
    same | ⟨c, ts, us, compared, trials, first, changing⟩
  · exact .inl same
  have distinct := (Comparison.between_describes compared).1.distinct
  obtain ⟨done, inside, effect⟩ := trials.prefix_effect first s
  obtain ⟨before, operation, some, phases, rfl, part⟩ :=
    Comparison.prefix_mutationsOf (by decide) inside
  refine .inr ⟨c, before, operation, some, compared, phases, part, ?_⟩
  rw [(changing.trials distinct).2, effect, Comparison.foldl_perform_append compared part]

end Reconciler
end ClusterConf
