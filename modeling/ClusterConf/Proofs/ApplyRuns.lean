import ClusterConf.Plane.Reconciler
import ClusterConf.Proofs.ComparisonLaws
import ClusterConf.Proofs.PhaseEffects
set_option autoImplicit false

/-!
The calls of an apply. Main statement: on any plane, whatever it answers, an apply that can read
and compare tries the mutations of the comparison phase by phase, up to the first failure, and its
result tells how far it came.
-/
namespace ClusterConf

open Program
open Control (mutations mutations_append mutations_reads note trace_call_iff)

namespace Comparison

/-- What the phase of an operation has to bring about. -/
def part (c : Comparison) : Operation → Snapshot
  | .create => c.added
  | .update => c.modified
  | .delete => c.removed

def stages : List Operation := [.create, .update, .delete]

def mutationsOf (c : Comparison) (operations : List Operation) : List Mutation :=
  operations.flatMap fun operation => Phase.mutationsOf operation (c.part operation)

/-- The outcome of an apply that brings a comparison about. -/
def outcome (c : Comparison) : ApplyOutcome :=
  let o : ApplyOutcome := ⟨false, false, c.added, c.modified, c.removed⟩
  { o with changed := o.issuedAny }

theorem Describes.fits {c : Comparison} {old new : Snapshot} (describes : c.Describes old new)
    (operation : Operation) : Phase.Fits operation (c.part operation) := by
  cases operation with
  | create => exact ⟨describes.added_environment, fun _ => describes.added_globalConfig⟩
  | update => exact ⟨describes.modified_environment, fun other => absurd rfl other⟩
  | delete => exact ⟨describes.removed_environment, fun _ => describes.removed_globalConfig⟩

theorem Describes.part_eq_empty {c : Comparison} {old new : Snapshot}
    (describes : c.Describes old new) (same : c.isSame = true) (operation : Operation) :
    c.part operation = .empty := by
  have nothing : c.hasNoChanges = true := describes.isSame.symm.trans same
  simp only [hasNoChanges, Bool.and_eq_true, Bool.not_eq_true'] at nothing
  obtain ⟨⟨⟨-, added⟩, modified⟩, removed⟩ := nothing
  cases operation with
  | create => exact Snapshot.eq_empty describes.added_environment added
  | update => exact Snapshot.eq_empty describes.modified_environment modified
  | delete => exact Snapshot.eq_empty describes.removed_environment removed

theorem mutationsOf_cons (c : Comparison) (operation : Operation) (rest : List Operation) :
    c.mutationsOf (operation :: rest) =
      Phase.mutationsOf operation (c.part operation) ++ c.mutationsOf rest :=
  List.flatMap_cons

theorem mutationsOf_of_empty {c : Comparison} (idle : ∀ operation, c.part operation = .empty)
    (operations : List Operation) : c.mutationsOf operations = [] := by
  simp [mutationsOf, idle]

theorem outcome_of_empty {c : Comparison} (idle : ∀ operation, c.part operation = .empty) :
    c.outcome = ⟨false, false, .empty, .empty, .empty⟩ := by
  have added : c.added = .empty := idle .create
  have modified : c.modified = .empty := idle .update
  have removed : c.removed = .empty := idle .delete
  rw [outcome, added, modified, removed]
  rfl

end Comparison

namespace Reconciler

open Comparison (stages)

/-- Some phases one after the other: each tries all its mutations and passes, or it stops at a
failure and what it had changed goes into the error. -/
inductive Tried (c : Comparison) : List Operation → List Trial → Option ApplyError → Prop
  | nil : Tried c [] [] none
  | pass (operation : Operation) {rest : List Operation} {ts : List Trial} {e : Option ApplyError}
      (later : Tried c rest ts e) :
      Tried c (operation :: rest)
        ((Phase.mutationsOf operation (c.part operation)).map Trial.success ++ ts) e
  | stop (operation : Operation) (rest : List Operation) {done left : List Mutation} {m : Mutation}
      (source : PlaneError)
      (split : Phase.mutationsOf operation (c.part operation) = done ++ m :: left) :
      Tried c (operation :: rest) (done.map Trial.success ++ [.failure m source])
        (some (.phase operation (Mutation.recorded done) (.single (m.failure source))))

/-- Where phases stop: all mutations of the phases before succeeded, and those in `done`. -/
structure StopsAt (c : Comparison) (operations before : List Operation) (operation : Operation)
    (done : List Mutation) (m : Mutation) : Prop where
  phases : before ++ [operation] <+: operations
  mutations : done ++ [m] <+: Phase.mutationsOf operation (c.part operation)

theorem Tried.cases {c : Comparison} {operations : List Operation} {ts : List Trial}
    {e : Option ApplyError} (tried : Tried c operations ts e) :
    ts = (c.mutationsOf operations).map Trial.success ∧ e = none ∨
      ∃ before operation done m source, StopsAt c operations before operation done m ∧
        ts = (c.mutationsOf before ++ done).map Trial.success ++ [.failure m source] ∧
        e = some (.phase operation (Mutation.recorded done) (.single (m.failure source))) := by
  induction tried with
  | nil => exact .inl ⟨rfl, rfl⟩
  | pass operation _ ih =>
    rw [Comparison.mutationsOf_cons, List.map_append]
    rcases ih with ⟨rfl, rfl⟩ | ⟨before, o, done, m, source, stops, rfl, rfl⟩
    · exact .inl ⟨rfl, rfl⟩
    · refine .inr ⟨operation :: before, o, done, m, source, ⟨?_, stops.mutations⟩, ?_, rfl⟩
      · exact (List.prefix_cons_inj operation).mpr stops.phases
      · simp only [Comparison.mutationsOf_cons, List.map_append, List.append_assoc]
  | @stop operation rest done left m source split =>
    refine .inr ⟨[], operation, done, m, source, ⟨?_, ?_⟩, rfl, rfl⟩
    · exact (List.prefix_cons_inj operation).mpr List.nil_prefix
    · exact ⟨left, by rw [split, List.append_assoc, List.singleton_append]⟩

/-- Phases try the mutations of a comparison in order, up to the first failure. -/
theorem Tried.trials {c : Comparison} {operations : List Operation} {ts : List Trial}
    {e : Option ApplyError} (tried : Tried c operations ts e) :
    Trials false (c.mutationsOf operations) ts := by
  induction tried with
  | nil => exact .nil
  | pass operation _ ih =>
    rw [Comparison.mutationsOf_cons]
    exact Trials.append_success _ ih
  | stop operation rest source split =>
    rw [Comparison.mutationsOf_cons, split, List.append_assoc, List.cons_append]
    exact Trials.append_failure _ _ _ source

def stage (c : Comparison) (operation : Operation) : Attempt Snapshot := do
  finishPhase (← ExceptT.lift (Phase.phase operation (c.part operation)))

theorem stage_cases {c : Comparison} {operation : Operation} {xs : List (Exchange Plane)}
    {r : Except Error Snapshot} (trace : Trace (stage c operation).run xs r) :
    mutations xs =
        ((Phase.mutationsOf operation (c.part operation)).map Trial.success).map Trial.exchange ∧
      r = .ok (Mutation.recorded (Phase.mutationsOf operation (c.part operation))) ∨
    ∃ done left m source, Phase.mutationsOf operation (c.part operation) = done ++ m :: left ∧
      mutations xs = (done.map Trial.success ++ [.failure m source]).map Trial.exchange ∧
      r = .error (.apply
        (.phase operation (Mutation.recorded done) (.single (m.failure source)))) := by
  obtain ⟨ys, zs, first, rfl, lifted, last⟩ := trace_attempt_bind trace
  obtain ⟨report, ran, rfl⟩ := trace_lift_iff.mp lifted
  obtain ⟨ts, trials, same, rfl⟩ := Phase.phase_trials ran
  rcases trials.stopped with rfl | ⟨done, m, left, source, split, rfl⟩
  · rw [Phase.ofTrials_success] at last
    obtain ⟨rfl, rfl⟩ := trace_done_iff.mp last
    exact .inl ⟨by rw [List.append_nil, same], rfl⟩
  · rw [Phase.ofTrials_failure] at last
    obtain ⟨rfl, rfl⟩ := trace_done_iff.mp last
    exact .inr ⟨done, left, m, source, split, by rw [List.append_nil, same], rfl⟩

/-- After a phase the program goes on, unless the phase stopped. -/
theorem trace_stage_bind {α : Type} {c : Comparison} {operation : Operation}
    {f : Snapshot → Attempt α} {xs : List (Exchange Plane)} {r : Except Error α}
    (trace : Trace (stage c operation >>= f).run xs r) :
    (∃ zs, mutations xs =
        ((Phase.mutationsOf operation (c.part operation)).map Trial.success).map Trial.exchange ++
          mutations zs ∧
      Trace (f (Mutation.recorded (Phase.mutationsOf operation (c.part operation)))).run zs r) ∨
    ∃ ts e, (∀ rest, Tried c (operation :: rest) ts (some e)) ∧
      mutations xs = ts.map Trial.exchange ∧ r = .error (.apply e) := by
  obtain ⟨ys, zs, first, rfl, staged, last⟩ := trace_attempt_bind trace
  rw [mutations_append]
  rcases stage_cases staged with ⟨same, rfl⟩ | ⟨done, left, m, source, split, same, rfl⟩
  · exact .inl ⟨zs, by rw [same], last⟩
  · obtain ⟨rfl, rfl⟩ := last
    exact .inr ⟨_, _, fun rest => .stop operation rest source split,
      by rw [same, Control.mutations_nil, List.append_nil], rfl⟩

/-- The result of phases of which all passed or one stopped. -/
def verdict {α : Type} (a : α) : Option ApplyError → Except Error α
  | none => .ok a
  | some e => .error (.apply e)

theorem phases_eq (c : Comparison) :
    (phases c fun p => p) =
      stage c .create >>= fun added => stage c .update >>= fun modified =>
        stage c .delete >>= fun deleted => pure (added, modified, deleted) := by
  simp only [phases, stage, bind_assoc]
  rfl

theorem phases_tried {c : Comparison} {xs : List (Exchange Plane)}
    {r : Except Error (Snapshot × Snapshot × Snapshot)}
    (trace : Trace (phases c fun p => p).run xs r) :
    ∃ ts e, Tried c stages ts e ∧ mutations xs = ts.map Trial.exchange ∧
      r = verdict (Mutation.recorded (Phase.mutationsOf .create (c.part .create)),
        Mutation.recorded (Phase.mutationsOf .update (c.part .update)),
        Mutation.recorded (Phase.mutationsOf .delete (c.part .delete))) e := by
  rw [phases_eq] at trace
  rcases trace_stage_bind trace with ⟨ys, created, trace⟩ | ⟨ts, e, tried, same, rfl⟩
  · rcases trace_stage_bind trace with ⟨zs, updated, trace⟩ | ⟨ts, e, tried, same, rfl⟩
    · rcases trace_stage_bind trace with ⟨us, deleted, trace⟩ | ⟨ts, e, tried, same, rfl⟩
      · obtain ⟨rfl, rfl⟩ := trace_done_iff.mp trace
        refine ⟨_, none, .pass .create (.pass .update (.pass .delete .nil)), ?_, rfl⟩
        simp only [created, updated, deleted, Control.mutations_nil, List.map_append, List.map_nil]
      · refine ⟨_, _, .pass .create (.pass .update (tried [])), ?_, rfl⟩
        simp only [created, updated, same, List.map_append]
    · refine ⟨_, _, .pass .create (tried [.delete]), ?_, rfl⟩
      simp only [created, same, List.map_append]
  · exact ⟨ts, some e, tried [.update, .delete], same, rfl⟩

/-- What an apply and a plan begin with: the comparison of the live with the desired snapshot. -/
def survey (desired : Snapshot) : Attempt Comparison := do
  compare (← current) desired

def conclude (dryRun : Bool) : Snapshot × Snapshot × Snapshot → Attempt ApplyOutcome
  | (added, modified, deleted) => do
    let outcome : ApplyOutcome := ⟨dryRun, false, added, modified, deleted⟩
    let outcome := { outcome with changed := outcome.issuedAny }
    unless outcome.changed do
      log (.warn .reconciliation
        "Live global configuration is not in the desired snapshot and cannot be removed")
    let (created, updated, removed) := outcome.counts
    log (.info .reconciliation
      s!"Apply complete: {created} created, {updated} updated, {removed} deleted")
    return outcome

/-- What an apply does once the snapshots are compared. -/
def enforce (c : Comparison) : Attempt ApplyOutcome :=
  if c.isSame then do
    log (.info .reconciliation "No changes required - cluster is converged")
    return ⟨false, false, .empty, .empty, .empty⟩
  else phases c (fun p => p) >>= conclude false

theorem plan_eq (desired : Snapshot) :
    plan desired = survey desired >>= fun c => pure (.ofComparison c desired.fingerprint) := by
  simp only [plan, survey, bind_assoc]

theorem apply_eq (desired : Snapshot) : apply desired false = survey desired >>= enforce := by
  rw [apply, survey, bind_assoc]
  rfl

/-- How a survey can go. -/
inductive Surveyed (desired : Snapshot) (xs : List (Exchange Plane)) :
    Except Error Comparison → Prop
  | unread {e : ReadError} (reading : Trace Live.read xs (.error e)) :
      Surveyed desired xs (.error (.read e))
  | incomparable {live : Snapshot} {ys : List (Exchange Plane)} {e : CompareError}
      (front : ys <+: xs) (reading : Trace Live.read ys (.ok live))
      (failed : Comparison.between live desired = .error e) :
      Surveyed desired xs (.error (.compare e))
  | compared {live : Snapshot} {ys : List (Exchange Plane)} {c : Comparison}
      (front : ys <+: xs) (reading : Trace Live.read ys (.ok live))
      (compared : Comparison.between live desired = .ok c) : Surveyed desired xs (.ok c)

theorem only_notes (events : List Event) : Only PlaneCall.AsksOrNotes (Control.notes events) := by
  induction events with
  | nil => exact .done _
  | cons event rest ih => exact (Control.only_note event).bind fun _ => ih

theorem only_current : Only PlaneCall.Reads current.run :=
  Live.only_read.lift.attempt fun answer => by
    cases answer <;> exact .done _

theorem only_compare (live desired : Snapshot) :
    Only PlaneCall.Reads (compare live desired).run := by
  refine ((only_notes _).mono fun _ => PlaneCall.AsksOrNotes.reads).lift.attempt fun _ => ?_
  cases Comparison.between live desired <;> exact .done _

theorem only_survey (desired : Snapshot) : Only PlaneCall.Reads (survey desired).run :=
  only_current.attempt fun live => only_compare live desired

theorem current_cases {xs : List (Exchange Plane)} {r : Except Error Snapshot}
    (trace : Trace current.run xs r) :
    (∃ e, Trace Live.read xs (.error e) ∧ r = .error (.read e)) ∨
      ∃ live, Trace Live.read xs (.ok live) ∧ r = .ok live := by
  obtain ⟨ys, zs, first, rfl, lifted, last⟩ := trace_attempt_bind trace
  obtain ⟨answer, reading, rfl⟩ := trace_lift_iff.mp lifted
  cases answer with
  | error e =>
    obtain ⟨rfl, rfl⟩ := trace_done_iff.mp last
    exact .inl ⟨e, by rwa [List.append_nil], rfl⟩
  | ok live =>
    obtain ⟨rfl, rfl⟩ := trace_done_iff.mp last
    exact .inr ⟨live, by rwa [List.append_nil], rfl⟩

theorem survey_surveyed {desired : Snapshot} {xs : List (Exchange Plane)}
    {r : Except Error Comparison} (trace : Trace (survey desired).run xs r) :
    Surveyed desired xs r := by
  obtain ⟨ys, zs, first, rfl, found, comparing⟩ := trace_attempt_bind trace
  rcases current_cases found with ⟨e, reading, rfl⟩ | ⟨live, reading, rfl⟩
  · obtain ⟨rfl, rfl⟩ := comparing
    rw [List.append_nil]
    exact .unread reading
  · obtain ⟨ws, rest, noted, rfl, logged, final⟩ := trace_attempt_bind comparing
    obtain ⟨_, -, rfl⟩ := trace_lift_iff.mp logged
    have front : ys <+: ys ++ (ws ++ rest) := List.prefix_append _ _
    cases compared : Comparison.between live desired with
    | error e =>
      rw [compared] at final
      obtain ⟨rfl, rfl⟩ := trace_done_iff.mp final
      exact .incomparable front reading compared
    | ok c =>
      rw [compared] at final
      obtain ⟨rfl, rfl⟩ := trace_done_iff.mp final
      exact .compared front reading compared

theorem trace_log_bind {α : Type} {event : Event} {f : Unit → Attempt α}
    {xs : List (Exchange Plane)} {r : Except Error α} (trace : Trace (log event >>= f).run xs r) :
    ∃ zs, mutations xs = mutations zs ∧ Trace (f ()).run zs r := by
  obtain ⟨ys, zs, first, rfl, noted, last⟩ := trace_attempt_bind trace
  obtain ⟨_, logged, rfl⟩ := trace_lift_iff.mp noted
  exact ⟨zs, by rw [mutations_append, Control.mutations_note logged, List.nil_append], last⟩

theorem conclude_outcome {c : Comparison} {xs : List (Exchange Plane)}
    {r : Except Error ApplyOutcome}
    (trace : Trace (conclude false (c.part .create, c.part .update, c.part .delete)).run xs r) :
    mutations xs = [] ∧ r = .ok c.outcome := by
  unfold conclude at trace
  simp only at trace
  split at trace
  · obtain ⟨zs, logged, last⟩ := trace_log_bind trace
    obtain ⟨rfl, rfl⟩ := trace_done_iff.mp last
    exact ⟨logged, rfl⟩
  · obtain ⟨ys, warned, rest⟩ := trace_log_bind trace
    obtain ⟨zs, logged, last⟩ := trace_log_bind rest
    obtain ⟨rfl, rfl⟩ := trace_done_iff.mp last
    exact ⟨warned.trans logged, rfl⟩

/-- Once compared, an apply tries the mutations of the comparison. If none fails its outcome tells
all of them, also when there are none. -/
theorem enforce_tried {live desired : Snapshot} {c : Comparison}
    (describes : c.Describes live desired) {xs : List (Exchange Plane)}
    {r : Except Error ApplyOutcome} (trace : Trace (enforce c).run xs r) :
    ∃ ts e, Tried c stages ts e ∧ mutations xs = ts.map Trial.exchange ∧
      r = verdict c.outcome e := by
  unfold enforce at trace
  split at trace
  · rename_i same
    have idle := describes.part_eq_empty same
    obtain ⟨zs, logged, last⟩ := trace_log_bind trace
    obtain ⟨rfl, rfl⟩ := trace_done_iff.mp last
    refine ⟨_, none, .pass .create (.pass .update (.pass .delete .nil)), ?_, ?_⟩
    · rw [logged, idle, idle, idle, Phase.mutationsOf_empty, Phase.mutationsOf_empty,
        Phase.mutationsOf_empty]
      rfl
    · rw [verdict, Comparison.outcome_of_empty idle]
  · obtain ⟨ys, zs, first, rfl, phased, last⟩ := trace_attempt_bind trace
    obtain ⟨ts, e, tried, same, rfl⟩ := phases_tried phased
    refine ⟨ts, e, tried, ?_⟩
    cases e with
    | some e =>
      obtain ⟨rfl, rfl⟩ := last
      exact ⟨by rw [List.append_nil, same], rfl⟩
    | none =>
      have whole : ∀ operation,
          Mutation.recorded (Phase.mutationsOf operation (c.part operation)) = c.part operation :=
        fun operation => Phase.recorded_mutationsOf (describes.fits operation)
      simp only [verdict, whole] at last
      obtain ⟨silent, rfl⟩ := conclude_outcome last
      exact ⟨by rw [mutations_append, same, silent, List.append_nil], rfl⟩

theorem only_log {event : Event} (plain : event.part ≠ .dryRun) :
    Only Phase.Works (log event).run :=
  Only.lift (Phase.only_note plain)

theorem only_stage (c : Comparison) (operation : Operation) :
    Only Phase.Works (stage c operation).run := by
  refine Only.attempt (Only.lift (Phase.only_phase operation _)) fun report => ?_
  unfold finishPhase
  split <;> exact .done _

theorem only_pure {allowed : PlaneCall → Prop} {α : Type} (a : α) :
    Only (I := Plane) allowed (pure a : Attempt α).run := .done _

theorem only_conclude (dryRun : Bool) (parts : Snapshot × Snapshot × Snapshot) :
    Only Phase.Works (conclude dryRun parts).run := by
  obtain ⟨added, modified, deleted⟩ := parts
  have closing : ∀ message (outcome : ApplyOutcome), Only Phase.Works
      (log (.info .reconciliation message) >>= fun _ => pure outcome : Attempt _).run :=
    fun _ outcome => (only_log (by nofun)).attempt fun _ => only_pure outcome
  unfold conclude
  refine Only.ite ?_ ?_
  · exact closing _ _
  · exact (only_log (by nofun)).attempt fun _ => closing _ _

theorem only_enforce (c : Comparison) : Only Phase.Works (enforce c).run := by
  unfold enforce
  split
  · exact Only.attempt (only_log (by nofun)) fun _ => only_pure _
  · rw [phases_eq]
    refine Only.attempt (f := conclude false) ?_ (only_conclude false)
    refine (only_stage c .create).attempt fun _ => (only_stage c .update).attempt fun _ =>
      (only_stage c .delete).attempt fun _ => only_pure _

/-- The calls of an apply that could read and compare: those of its survey, then its trials. -/
structure Enforced (desired : Snapshot) (xs : List (Exchange Plane)) (c : Comparison)
    (ts : List Trial) (e : Option ApplyError) (ys : List (Exchange Plane)) : Prop where
  front : ys <+: xs
  surveyed : Surveyed desired ys (.ok c)
  reads : ∀ y ∈ ys, y.request.Reads
  tried : Tried c stages ts e
  mutations : mutations xs = ts.map Trial.exchange
  calls : Control.calls xs = Control.calls ys ++ ts.map Trial.exchange

/-- An apply ends with its survey, or tries the mutations of the comparison. -/
theorem apply_cases {desired : Snapshot} {xs : List (Exchange Plane)}
    {r : Except Error ApplyOutcome} (trace : Trace (apply desired false).run xs r) :
    (∃ e, Surveyed desired xs (.error e) ∧ (∀ x ∈ xs, x.request.Reads) ∧ r = .error e) ∨
    ∃ c ts e ys, Enforced desired xs c ts e ys ∧ r = verdict c.outcome e := by
  rw [apply_eq] at trace
  obtain ⟨ys, zs, first, rfl, surveying, last⟩ := trace_attempt_bind trace
  have reads := (only_survey desired).trace surveying
  cases first with
  | error e =>
    obtain ⟨rfl, rfl⟩ := last
    rw [List.append_nil]
    exact .inl ⟨e, survey_surveyed surveying, reads, rfl⟩
  | ok c =>
    have surveyed := survey_surveyed surveying
    have acts := fun x member => ((only_enforce c).trace last x member).acts
    cases surveyed with
    | compared front reading compared =>
      obtain ⟨-, -, describes⟩ := Comparison.between_describes compared
      obtain ⟨ts, e, tried, same, rfl⟩ := enforce_tried describes last
      refine .inr ⟨c, ts, e, ys, ?_, rfl⟩
      exact {
        front := List.prefix_append ys zs
        surveyed := .compared front reading compared
        reads, tried
        mutations := by rw [mutations_append, mutations_reads reads, same, List.nil_append]
        calls := by rw [Control.calls_append, Phase.calls_eq_mutations acts, same] }

/-- What a destroy does with what it has read. -/
def raze (goOn : Bool) (live : Snapshot) : Attempt PhaseReport := do
  log (.info .reconciliation s!"Destroying {live.entityCount} live entities")
  let report ← (Phase.deleteAll live goOn : Control _)
  if let some e := report.error then log (.error .reconciliation s!"Destroy failed: {e.message}")
  return report

theorem destroy_eq (goOn : Bool) : destroy goOn = current >>= raze goOn := rfl

/-- Once the cluster is read, a destroy runs the phase of deletions and returns its report. -/
theorem raze_runs {goOn : Bool} {live : Snapshot} {xs : List (Exchange Plane)}
    {r : Except Error PhaseReport} (trace : Trace (raze goOn live).run xs r) :
    ∃ ys report, Trace (Phase.deleteAll live goOn) ys report ∧ mutations xs = mutations ys ∧
      r = .ok report := by
  obtain ⟨us, logged, deleting⟩ := trace_log_bind trace
  obtain ⟨ys, zs, first, rfl, phased, last⟩ := trace_attempt_bind deleting
  obtain ⟨report, ran, rfl⟩ := trace_lift_iff.mp phased
  have ended : mutations zs = [] ∧ r = .ok report := by
    simp only at last
    split at last
    · obtain ⟨vs, warned, final⟩ := trace_log_bind last
      obtain ⟨rfl, rfl⟩ := trace_done_iff.mp final
      exact ⟨warned, rfl⟩
    · obtain ⟨rfl, rfl⟩ := trace_done_iff.mp last
      exact ⟨rfl, rfl⟩
  exact ⟨ys, report, ran, by rw [logged, mutations_append, ended.1, List.append_nil], ended.2⟩

/-- A destroy ends where reading fails, or it tries to delete what it has read. -/
theorem destroy_cases {goOn : Bool} {xs : List (Exchange Plane)} {r : Except Error PhaseReport}
    (trace : Trace (destroy goOn).run xs r) :
    (∃ e, Trace Live.read xs (.error e)) ∨
    ∃ ys zs live ts, xs = ys ++ zs ∧ Trace Live.read ys (.ok live) ∧
      Trials goOn (Phase.mutationsOf .delete live) ts ∧ mutations xs = ts.map Trial.exchange := by
  rw [destroy_eq] at trace
  obtain ⟨ys, zs, first, rfl, found, rest⟩ := trace_attempt_bind trace
  rcases current_cases found with ⟨e, reading, rfl⟩ | ⟨live, reading, rfl⟩
  · obtain ⟨rfl, rfl⟩ := rest
    exact .inl ⟨e, by rwa [List.append_nil]⟩
  · have reads := Live.only_read.trace reading
    obtain ⟨us, report, ran, same, -⟩ := raze_runs rest
    obtain ⟨ts, trials, tried, -⟩ := Phase.deleteAll_trials ran
    refine .inr ⟨ys, zs, live, ts, rfl, reading, trials, ?_⟩
    rw [mutations_append, mutations_reads reads, List.nil_append, same, tried]

end Reconciler
end ClusterConf
