import Mathlib.Algebra.BigOperators.Group.List.Basic
import ClusterConf.Proofs.Deletions
set_option autoImplicit false

/-!
Reports of phases. Main statement: whatever a plane answers, and however its answers depend on the
calls before, a phase makes its calls in order up to the first failure, or all of them if it goes
on, and its report says exactly which of them succeeded and how many there were.
-/
namespace ClusterConf

open Program
open Control (calls)
open Entity (recordsOf)

namespace Snapshot

theorem length_recordsOf_singleton (k : Kind) (e : Entity) :
    (recordsOf k [e]).length = if e.kind = k then 1 else 0 := by
  obtain ⟨l, r⟩ := e
  by_cases same : l = k
  · subst same
    rw [Entity.recordsOf_singleton_self, if_pos rfl, List.length_singleton]
  · rw [Entity.recordsOf_singleton_of_ne same, if_neg same, List.length_nil]

theorem entityCount_push (s : Snapshot) (e : Entity) :
    (s.push e).entityCount = s.entityCount + 1 := by
  have once : ∀ k : Kind, (Kind.creationOrder.map fun l => if k = l then 1 else 0).sum = 1 := by
    intro k
    cases k <;> rfl
  simp only [entityCount, entities, List.length_flatMap, List.length_map, records_push,
    List.length_append, List.sum_map_add, length_recordsOf_singleton, once]

end Snapshot

namespace Phase

def globalsOf (ms : List Mutation) : List GlobalConfig :=
  ms.filterMap fun
    | .entity _ _ => none
    | .globalConfig g => some g

theorem mem_globalsOf {ms : List Mutation} {g : GlobalConfig} :
    g ∈ globalsOf ms ↔ .globalConfig g ∈ ms := by
  rw [globalsOf, List.mem_filterMap]
  constructor
  · rintro ⟨m, inside, told⟩
    cases m with
    | entity operation e => cases told
    | globalConfig g' =>
      rw [← Option.some.inj told]
      exact inside
  · exact fun inside => ⟨_, inside, rfl⟩

theorem length_eq (ms : List Mutation) :
    ms.length = (entitiesOf ms).length + (globalsOf ms).length := by
  induction ms with
  | nil => rfl
  | cons m ms ih =>
    cases m with
    | entity operation e =>
      have entities : entitiesOf (.entity operation e :: ms) = e :: entitiesOf ms := rfl
      have globals : globalsOf (.entity operation e :: ms) = globalsOf ms := rfl
      rw [entities, globals, List.length_cons, List.length_cons, ih]
      omega
    | globalConfig g =>
      have entities : entitiesOf (.globalConfig g :: ms) = entitiesOf ms := rfl
      have globals : globalsOf (.globalConfig g :: ms) = g :: globalsOf ms := rfl
      rw [entities, globals, List.length_cons, List.length_cons, ih]
      omega

theorem entityCount_recorded (ms : List Mutation) :
    (Mutation.recorded ms).entityCount = (entitiesOf ms).length := by
  induction ms using List.reverseRecOn with
  | nil => rfl
  | append_singleton ms m ih =>
    rw [Mutation.recorded_concat, entitiesOf, List.filterMap_append, List.length_append]
    cases m with
    | entity operation e => exact (Snapshot.entityCount_push _ e).trans (congrArg (· + 1) ih)
    | globalConfig g => exact ih

theorem globalConfig_recorded (ms : List Mutation) :
    (Mutation.recorded ms).globalConfig = (globalsOf ms).getLast? := by
  induction ms using List.reverseRecOn with
  | nil => rfl
  | append_singleton ms m ih =>
    rw [Mutation.recorded_concat, globalsOf, List.filterMap_append]
    cases m with
    | entity operation e =>
      exact (Snapshot.globalConfig_append _ _ _).trans
        (ih.trans (congrArg _ (List.append_nil _).symm))
    | globalConfig g => exact List.getLast?_concat.symm

theorem environment_recorded (ms : List Mutation) :
    (Mutation.recorded ms).environment = none := by
  induction ms using List.reverseRecOn with
  | nil => rfl
  | append_singleton ms m ih =>
    rw [Mutation.recorded_concat]
    cases m with
    | entity operation e => exact (Snapshot.environment_append _ _ _).trans ih
    | globalConfig g => exact ih

/-- A phase changes the global configuration at most once. -/
theorem length_globalsOf_le_one {operation : Operation} {s : Snapshot} {ms : List Mutation}
    (within : ms.Sublist (mutationsOf operation s)) : (globalsOf ms).length ≤ 1 := by
  have plain : ∀ o es, globalsOf (each o es) = [] := by
    intro o es
    simp [globalsOf, each, List.filterMap_map]
  have all : (globalsOf (mutationsOf operation s)).length ≤ 1 := by
    cases operation with
    | create => simp [mutationsOf_create, plain]
    | delete => simp [mutationsOf_delete, plain]
    | update =>
      have split : globalsOf (mutationsOf .update s) =
          globalsOf (each .update (entitiesIn Kind.creationOrder s)) ++
            globalsOf (s.globalConfig.toList.map .globalConfig) := by
        rw [mutationsOf_update, globalsOf, List.filterMap_append]
        rfl
      rw [split, plain, List.nil_append]
      cases s.globalConfig <;> simp [globalsOf]
  exact Nat.le_trans (within.filterMap _).length_le all

/-- What some mutations of a phase are recorded as counts each of them. -/
theorem count_recorded {operation : Operation} {s : Snapshot} {ms : List Mutation}
    (within : ms.Sublist (mutationsOf operation s)) :
    (Mutation.recorded ms).entityCount +
      (if (Mutation.recorded ms).globalConfig.isSome then 1 else 0) = ms.length := by
  have single := length_globalsOf_le_one within
  rw [entityCount_recorded, globalConfig_recorded, length_eq]
  match globalsOf ms, single with
  | [], _ => rfl
  | [g], _ => rfl

theorem globalConfig_recorded_iff {operation : Operation} {s : Snapshot} {ms : List Mutation}
    (within : ms.Sublist (mutationsOf operation s)) (g : GlobalConfig) :
    (Mutation.recorded ms).globalConfig = some g ↔ .globalConfig g ∈ ms := by
  have single := length_globalsOf_le_one within
  rw [globalConfig_recorded, ← mem_globalsOf]
  match globalsOf ms, single with
  | [], _ => simp
  | [g'], _ => simp [eq_comm]

/-- A report is exact for a phase that made the calls `made`, the trials `ts` of what it had to
change in `s`. -/
structure Reports (operation : Operation) (goOn : Bool) (s : Snapshot)
    (made : List (Exchange Plane)) (report : PhaseReport) (ts : List Trial) : Prop where
  tried : Trials goOn (mutationsOf operation s) ts
  called : made = ts.map Trial.exchange
  named : report.operation = operation
  attempted : report.attempted = made.length
  completed : ∀ k, report.completed.records k = recordsOf k (entitiesOf (Trial.done ts))
  globalConfig : ∀ g, report.completed.globalConfig = some g ↔ .globalConfig g ∈ Trial.done ts
  untouched : operation ≠ .update → report.completed.globalConfig = none
  environment : report.completed.environment = none
  error : report.error = none ↔ ∀ x ∈ made, ¬ x.Failed
  balance : report.attempted = report.succeeded + (Trial.failures ts).length

variable {operation : Operation} {goOn : Bool} {s : Snapshot} {xs : List (Exchange Plane)}
  {report : PhaseReport} {ts : List Trial}

theorem reports_of_trials (tried : Trials goOn (mutationsOf operation s) ts)
    (made : calls xs = ts.map Trial.exchange) {error : Option PhaseFailure}
    (told : report = ⟨operation, Mutation.recorded (Trial.done ts), ts.length, error⟩)
    (failing : error = none ↔ Trial.failures ts = []) :
    Reports operation goOn s (calls xs) report ts := by
  subst told
  have within := tried.done_sublist
  refine ⟨tried, made, rfl, ?_, records_recorded _, globalConfig_recorded_iff within, ?_,
    environment_recorded _, ?_, ?_⟩
  · rw [made, List.length_map]
  · intro different
    refine Option.eq_none_iff_forall_ne_some.mpr fun g set => ?_
    have inside := within.subset ((globalConfig_recorded_iff within g).mp set)
    rcases cases_of_mem inside with ⟨k, r, -, same⟩ | ⟨updates, -⟩
    · cases same
    · exact different updates
  · rw [made]
    exact failing.trans Trial.failures_eq_nil_iff
  · rw [PhaseReport.succeeded, count_recorded within]
    exact Trial.length_eq ts

theorem reports_of_stopped (tried : Trials goOn (mutationsOf operation s) ts)
    (made : calls xs = ts.map Trial.exchange) (told : report = stopped operation (.ofTrials ts)) :
    Reports operation goOn s (calls xs) report ts := by
  rw [ofTrials_eq] at told
  exact reports_of_trials tried made told (by simp)

theorem reports_of_phase (trace : Trace (phase operation s) xs report) :
    ∃ ts, Reports operation false s (calls xs) report ts := by
  obtain ⟨ts, tried, made, told⟩ := phase_trials trace
  have acts := fun x member => ((only_phase operation s).trace trace x member).acts
  exact ⟨ts, reports_of_stopped tried ((calls_eq_mutations acts).trans made) told⟩

theorem reports_of_deleteAll (trace : Trace (deleteAll s goOn) xs report) :
    ∃ ts, Reports .delete goOn s (calls xs) report ts := by
  obtain ⟨ts, tried, made, told⟩ := deleteAll_trials trace
  have acts := fun x member => ((only_deleteAll s goOn).trace trace x member).acts
  have called := (calls_eq_mutations acts).trans made
  refine ⟨ts, ?_⟩
  split at told
  · rename_i failed
    rw [ofTrials_eq] at told failed
    have some : Trial.failures ts ≠ [] := by
      simpa using (Bool.and_eq_true_iff.mp failed).2
    exact reports_of_trials tried called told (by simp [some])
  · exact reports_of_stopped tried called told

/-- Whatever a plane answers, and however that depends on the calls before, the report of a phase
is exact. Only deletions can go on after failures. -/
theorem phases_report_exactly {σ : Type} (serve : Server Plane σ) (start : σ) (s : Snapshot) :
    (∃ ts, Reports .create false s (calls ((addAll s).journal serve start))
      ((addAll s).exec serve start).1 ts) ∧
    (∃ ts, Reports .update false s (calls ((modifyAll s).journal serve start))
      ((modifyAll s).exec serve start).1 ts) ∧
    ∀ goOn, ∃ ts, Reports .delete goOn s (calls ((deleteAll s goOn).journal serve start))
      ((deleteAll s goOn).exec serve start).1 ts :=
  ⟨reports_of_phase (exec_trace serve (phase .create s) start),
    reports_of_phase (exec_trace serve (phase .update s) start),
    fun goOn => reports_of_deleteAll (exec_trace serve (deleteAll s goOn) start)⟩

end Phase
end ClusterConf
