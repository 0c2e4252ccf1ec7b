import ClusterConf.Proofs.FileAccess
import ClusterConf.Proofs.PlanExecution
import ClusterConf.Proofs.Convergence
set_option autoImplicit false

/-!
Dry runs of an apply. Main statement: a dry run leaves a local plane as it is, logs the actions of
the plan one for one and in order, and ends like the apply itself where that needs no luck: with the
same error if the plane cannot be read or compared, and else with its outcome.
-/
namespace ClusterConf

open Program
open Control (call mutations note trace_call_iff)
open Comparison (stages)
open Phase (Works)

/-- The line by which a dry run tells of an action. -/
def Action.execution (a : Action) : Event :=
  .info .dryRun <| "Executing: " ++
    match a.target with
    | .globalConfig => "modify global configuration"
    | .entity kind =>
      let verb :=
        match a.operation with
        | .create => "create"
        | .update => "modify"
        | .delete => "delete"
      verb ++ " " ++ kind.label ++ " " ++ a.key

example : (Action.execution ⟨.update, .entity .clusterQueue, "all.q"⟩).message =
    "Executing: modify cluster queue all.q" := by decide

namespace PlaneCall

def action? : PlaneCall → Option Action
  | create e => some ⟨.create, .entity e.kind, e.key⟩
  | update key e => some ⟨.update, .entity e.kind, key⟩
  | delete kind key => some ⟨.delete, .entity kind, key⟩
  | modifyGlobal _ => some ⟨.update, .globalConfig, ""⟩
  | _ => none

/-- The line of a dry run that a call logs. -/
def execution? : PlaneCall → Option Event
  | note event => if event.part = .dryRun then some event else none
  | _ => none

/-- A call that does not tell of a dry run. -/
def Plain (c : PlaneCall) : Prop := c.execution? = none

theorem Asks.plain {c : PlaneCall} (asks : c.Asks) : c.Plain := by
  cases c <;> first | rfl | cases asks

theorem plain_note {event : Event} (plain : event.part ≠ .dryRun) : (note event).Plain :=
  if_neg plain

end PlaneCall

theorem Mutation.action?_exchange (m : Mutation) (answer : Except PlaneError Unit) :
    (m.exchange answer).request.action? = some m.action := by
  cases m with
  | entity operation e => cases operation <;> rfl
  | globalConfig g => rfl

namespace Control

def executions (xs : List (Exchange Plane)) : List Event :=
  xs.filterMap fun x => x.request.execution?

theorem executions_append (xs ys : List (Exchange Plane)) :
    executions (xs ++ ys) = executions xs ++ executions ys := List.filterMap_append

theorem executions_plain {xs : List (Exchange Plane)} (plain : ∀ x ∈ xs, x.request.Plain) :
    executions xs = [] := List.filterMap_eq_nil_iff.mpr plain

def actions (xs : List (Exchange Plane)) : List Action :=
  xs.filterMap fun x => x.request.action?

theorem actions_append (xs ys : List (Exchange Plane)) :
    actions (xs ++ ys) = actions xs ++ actions ys := List.filterMap_append

theorem actions_mutations (xs : List (Exchange Plane)) : actions (mutations xs) = actions xs := by
  rw [actions, mutations, List.filterMap_filter]
  refine List.filterMap_congr fun x _ => ?_
  obtain ⟨c, answer⟩ := x
  cases c <;> rfl

theorem actions_success (ms : List Mutation) :
    actions ((ms.map Trial.success).map Trial.exchange) = ms.map Mutation.action := by
  have each : (fun x : Exchange Plane => x.request.action?) ∘ Trial.exchange ∘ Trial.success =
      some ∘ Mutation.action := funext fun m => Mutation.action?_exchange m _
  rw [actions, List.map_map, List.filterMap_map, each, List.filterMap_eq_map]

end Control

open Control (executions executions_append executions_plain actions actions_append)

namespace DryRun

variable {α β : Type}

/-- What is logged in place of a mutation is the line of its action. -/
theorem trace_serve {c : PlaneCall} (works : Works c) {xs : List (Exchange Plane)}
    {answer : c.Answer} (trace : Trace (serve c) xs answer) :
    executions xs = (actions [⟨c, answer⟩]).map Action.execution ∧
      ¬ Exchange.Failed ⟨c, answer⟩ := by
  have logged : ∀ {event : Event} {given : Except PlaneError Unit},
      Trace (note event >>= fun _ => pure (.ok ()) : Control (Except PlaneError Unit)) xs given →
        executions xs = (PlaneCall.note event).execution?.toList ∧ given = .ok () := by
    intro event given noted
    obtain ⟨ys, zs, u, rfl, first, last⟩ := trace_bind_iff.mp noted
    obtain rfl := trace_call_iff.mp first
    obtain ⟨rfl, rfl⟩ := trace_done_iff.mp last
    refine ⟨?_, rfl⟩
    cases told : (PlaneCall.note event).execution? <;> simp [executions, told]
  cases c with
  | create e | update key e | delete kind key | modifyGlobal g =>
    obtain ⟨told, rfl⟩ := logged trace
    exact ⟨told, by rintro ⟨e, refused⟩; cases refused⟩
  | note event =>
    obtain rfl := trace_call_iff.mp trace
    rcases works with changes | ⟨_, same, plain⟩
    · cases changes
    · cases same
      refine ⟨executions_plain (List.forall_mem_singleton.mpr (PlaneCall.plain_note plain)), ?_⟩
      rintro ⟨e, refused⟩
      cases refused
  | list kind | read kind key | showGlobal | backend =>
    rcases works with changes | ⟨_, same, -⟩
    · cases changes
    · cases same

/-- A dry run of a program that only changes the plane goes as the program would if nothing
failed, and logs the line of each action instead. -/
theorem trace_dry {p : Control α} (works : Only Works p) {xs : List (Exchange Plane)} {a : α}
    (trace : Trace (dry p) xs a) :
    ∃ ys, Trace p ys a ∧ executions xs = (actions ys).map Action.execution ∧
      ∀ y ∈ ys, ¬ y.Failed := by
  induction p generalizing xs with
  | done b =>
    obtain ⟨rfl, rfl⟩ := trace_done_iff.mp trace
    exact ⟨[], .done _, rfl, List.forall_mem_nil _⟩
  | ask c next ih =>
    cases works with
    | ask first rest =>
      obtain ⟨us, vs, answer, rfl, served, later⟩ := trace_bind_iff.mp trace
      obtain ⟨told, done⟩ := trace_serve first served
      obtain ⟨ys, through, toldLater, doneLater⟩ := ih answer (rest answer) later
      refine ⟨⟨c, answer⟩ :: ys, .ask answer through, ?_,
        List.forall_mem_cons.mpr ⟨done, doneLater⟩⟩
      rw [executions_append, told, toldLater, ← List.map_append, ← actions_append]
      rfl

/-- An attempt with its mutations only reported. -/
def attempt (p : Reconciler.Attempt α) : Reconciler.Attempt α := ExceptT.mk (dry p.run)

theorem attempt_bind (p : Reconciler.Attempt α) (f : α → Reconciler.Attempt β) :
    attempt (p >>= f) = attempt p >>= fun a => attempt (f a) := by
  refine ExceptT.ext ?_
  rw [ExceptT.run_bind]
  change dry (p >>= f).run = dry p.run >>= _
  rw [ExceptT.run_bind, dry, run_bind]
  refine congrArg _ (funext fun r => ?_)
  cases r <;> rfl

theorem attempt_lift (p : Control α) :
    attempt (ExceptT.lift p) = ExceptT.lift (dry p) := by
  refine ExceptT.ext ?_
  change dry (p >>= fun a => pure (Except.ok (ε := Error) a)) =
    dry p >>= fun a => pure (.ok a)
  rw [dry, run_bind]
  rfl

end DryRun

namespace Reconciler

open DryRun (attempt attempt_bind attempt_lift)

theorem attempt_finishPhase (r : PhaseReport) : attempt (finishPhase r) = finishPhase r := by
  unfold finishPhase
  split <;> rfl

theorem phases_dry (c : Comparison) :
    (phases c fun p => DryRun.dry p) = attempt (phases c fun p => p) := by
  rw [phases_eq]
  simp only [stage, bind_assoc, attempt_bind, attempt_lift, attempt_finishPhase]
  rfl

/-- What a dry run does once the snapshots are compared. -/
def rehearse (c : Comparison) : Attempt ApplyOutcome :=
  if c.isSame then do
    log (.info .reconciliation "No changes required - cluster is converged")
    return ⟨true, false, .empty, .empty, .empty⟩
  else do
    log (.info .reconciliation "Dry run: mutations will only be reported")
    phases c (fun p => DryRun.dry p) >>= conclude true

theorem apply_dry_eq (desired : Snapshot) : apply desired true = survey desired >>= rehearse := by
  rw [apply, survey, bind_assoc]
  rfl

/-- An outcome told as that of a dry run. -/
def foretold (outcome : ApplyOutcome) : ApplyOutcome := { outcome with dryRun := true }

theorem conclude_dry :
    conclude true = fun parts => attempt (conclude false parts) >>= fun o => pure (foretold o) := by
  funext ⟨added, modified, deleted⟩
  have alike : (⟨true, false, added, modified, deleted⟩ : ApplyOutcome).issuedAny =
      (⟨false, false, added, modified, deleted⟩ : ApplyOutcome).issuedAny := rfl
  unfold conclude
  dsimp only
  rw [alike]
  split <;> rfl

/-- What a dry run says beforehand. -/
def forewarn (c : Comparison) : Control Unit :=
  if c.isSame then pure ()
  else note (.info .reconciliation "Dry run: mutations will only be reported")

/-- A dry run is the apply with its mutations only reported, told as such. -/
theorem rehearse_eq (c : Comparison) :
    rehearse c = ExceptT.lift (forewarn c) >>= fun _ =>
      attempt (enforce c) >>= fun o => pure (foretold o) := by
  unfold rehearse enforce forewarn
  split
  · rfl
  · simp only [attempt_bind, phases_dry, conclude_dry, bind_assoc]
    rfl

theorem plain_note {event : Event} (plain : event.part ≠ .dryRun) :
    Only PlaneCall.Plain (note event) :=
  .request (PlaneCall.plain_note plain)

theorem plain_forewarn (c : Comparison) : Only PlaneCall.Plain (forewarn c) := by
  unfold forewarn
  split
  · exact .done _
  · exact plain_note (by nofun)

/-- If nothing fails all mutations of a comparison are tried. -/
theorem Tried.complete {c : Comparison} {operations : List Operation} {ts : List Trial}
    {e : Option ApplyError} (tried : Tried c operations ts e)
    (done : ∀ t ∈ ts, ¬ t.exchange.Failed) :
    ts = (c.mutationsOf operations).map Trial.success ∧ e = none := by
  rcases tried.cases with complete | ⟨before, operation, front, m, source, -, rfl, -⟩
  · exact complete
  · exact absurd (Trial.failed_failure m source) (done _ (by simp))

/-- Once compared, a dry run logs the mutations of the comparison and tells their outcome. -/
theorem rehearse_foretells {live desired : Snapshot} {c : Comparison}
    (describes : c.Describes live desired) {xs : List (Exchange Plane)}
    {r : Except Error ApplyOutcome} (trace : Trace (rehearse c).run xs r) :
    executions xs = ((c.mutationsOf stages).map Mutation.action).map Action.execution ∧
      r = .ok (foretold c.outcome) := by
  rw [rehearse_eq] at trace
  obtain ⟨us, vs, first, rfl, lifted, trying⟩ := trace_attempt_bind trace
  obtain ⟨_, forewarned, rfl⟩ := trace_lift_iff.mp lifted
  obtain ⟨ys, zs, answer, rfl, reported, last⟩ := trace_attempt_bind trying
  obtain ⟨ws, through, told, done⟩ := DryRun.trace_dry (only_enforce c) reported
  obtain ⟨ts, e, tried, same, rfl⟩ := enforce_tried describes through
  have doneTrials : ∀ t ∈ ts, ¬ t.exchange.Failed := by
    intro t member
    have inside : t.exchange ∈ mutations ws := same ▸ List.mem_map_of_mem member
    exact done _ (List.mem_of_mem_filter inside)
  obtain ⟨rfl, rfl⟩ := tried.complete doneTrials
  obtain ⟨rfl, rfl⟩ := trace_done_iff.mp last
  refine ⟨?_, rfl⟩
  rw [executions_append, executions_append,
    executions_plain ((plain_forewarn c).trace forewarned), told, ← Control.actions_mutations,
    same, Control.actions_success]
  simp [executions]

/-! ## What reading and comparing log -/

theorem plain_read : Only PlaneCall.Plain Live.read := by
  rw [Live.read_eq]
  refine Only.bind (.request rfl) fun name => Only.bind (plain_note (by nofun)) fun _ =>
    Only.bind (.request rfl) fun answer => ?_
  cases answer with
  | error source => exact .done _
  | ok globalConfig =>
    refine ((Live.only_readCollections _ _).mono fun _ => PlaneCall.Asks.plain).bind
      fun answer => ?_
    cases answer with
    | error source => exact .done _
    | ok s => exact (plain_note (by nofun)).bind fun _ => .done _

end Reconciler

namespace Comparison

theorem plain_kindEvents {k : Kind} {d : Difference k.Record} {new : Snapshot} {event : Event}
    (member : event ∈ kindEvents k d new) : event.part ≠ .dryRun := by
  rcases List.mem_append.mp member with records | summary
  · rcases List.mem_append.mp records with changed | gone
    · obtain ⟨r, -, told⟩ := List.mem_filterMap.mp changed
      split at told
      · cases told
        nofun
      · split at told
        · cases told
          nofun
        · cases told
    · obtain ⟨r, -, rfl⟩ := List.mem_map.mp gone
      nofun
  · split at summary
    · cases summary
    · obtain rfl := List.mem_singleton.mp summary
      nofun

theorem plain_kindsEvents {old new : Snapshot} {kinds : List Kind} {event : Event}
    (member : event ∈ kindsEvents old new kinds) : event.part ≠ .dryRun := by
  induction kinds with
  | nil => cases member
  | cons k rest ih =>
    unfold kindsEvents at member
    split at member
    · rcases List.mem_append.mp member with here | later
      · exact plain_kindEvents here
      · exact ih later
    · cases member

theorem plain_events {old new : Snapshot} {event : Event} (member : event ∈ events old new) :
    event.part ≠ .dryRun := by
  rcases List.mem_append.mp member with kinds | summary
  · exact plain_kindsEvents kinds
  · split at summary
    · cases summary
    · rcases List.mem_append.mp summary with global | counts
      · split at global
        · obtain rfl := List.mem_singleton.mp global
          nofun
        · cases global
      · obtain rfl := List.mem_singleton.mp counts
        nofun

end Comparison

namespace Reconciler

theorem plain_notes {events : List Event} (plain : ∀ event ∈ events, event.part ≠ .dryRun) :
    Only PlaneCall.Plain (Control.notes events) := by
  induction events with
  | nil => exact .done _
  | cons event rest ih =>
    obtain ⟨first, others⟩ := List.forall_mem_cons.mp plain
    exact (plain_note first).bind fun _ => ih others

theorem plain_survey (desired : Snapshot) : Only PlaneCall.Plain (survey desired).run := by
  refine Only.attempt (plain_read.lift.attempt fun answer => ?_) fun live =>
    (plain_notes fun _ => Comparison.plain_events).lift.attempt fun _ => ?_
  · cases answer <;> exact .done _
  · cases Comparison.between live desired <;> exact .done _

variable {σ : Type} (serve : Server Plane σ) (s : σ) (desired : Snapshot)

/-- What a survey against a server finds. -/
def found : Except Error Comparison := ((survey desired).run.exec serve s).1

variable {serve s desired}

/-- What was compared is what there is to bring about. -/
theorem describes_of_found {c : Comparison} (same : found serve s desired = .ok c) :
    ∃ live, c.Describes live desired := by
  have surveyed := survey_surveyed (exec_trace serve (survey desired).run s)
  change Surveyed desired _ (found serve s desired) at surveyed
  rw [same] at surveyed
  cases surveyed with
  | compared _ _ compared => exact ⟨_, (Comparison.between_describes compared).2.2⟩

theorem plan_found :
    ((plan desired).run.exec serve s).1 =
      (found serve s desired).map fun c => .ofComparison c desired.fingerprint := by
  rw [plan_eq, exec_attempt_bind, found]
  cases (survey desired).run.exec serve s with
  | mk r t => cases r <;> rfl

/-- A dry run tells the outcome of what its survey has found, and logs its mutations. -/
theorem apply_dry_found :
    ((apply desired true).run.exec serve s).1 =
        (found serve s desired).map (fun c => foretold c.outcome) ∧
      executions ((apply desired true).run.journal serve s) =
        (match found serve s desired with
          | .ok c => (c.mutationsOf stages).map Mutation.action
          | .error _ => []).map Action.execution := by
  have quiet : executions ((survey desired).run.journal serve s) = [] :=
    executions_plain ((plain_survey desired).trace (exec_trace serve _ s))
  rw [apply_dry_eq, exec_attempt_bind, journal_attempt_bind, executions_append, quiet,
    List.nil_append]
  cases same : found serve s desired with
  | error e =>
    rw [found] at same
    rw [same]
    exact ⟨rfl, rfl⟩
  | ok c =>
    obtain ⟨live, describes⟩ := describes_of_found same
    rw [found] at same
    rw [same]
    obtain ⟨told, ended⟩ := rehearse_foretells describes (exec_trace serve (rehearse c).run _)
    exact ⟨ended, told⟩

/-- An apply fails like its survey, or with what it has found it comes to its phases. -/
theorem apply_found (serve : Server Plane σ) (s : σ) (desired : Snapshot) :
    match found serve s desired with
    | .error e => ((apply desired false).run.exec serve s).1 = .error e
    | .ok c => ∃ e, ((apply desired false).run.exec serve s).1 = verdict c.outcome e := by
  rw [apply_eq, exec_attempt_bind]
  cases same : found serve s desired with
  | error e =>
    rw [found] at same
    rw [same]
  | ok c =>
    obtain ⟨live, describes⟩ := describes_of_found same
    rw [found] at same
    rw [same]
    obtain ⟨ts, e, -, -, ended⟩ := enforce_tried describes (exec_trace serve (enforce c).run _)
    exact ⟨e, ended⟩

end Reconciler

/-- Reading the live cluster or comparing with it failed. -/
def Error.Early : Error → Prop
  | .read _ | .compare _ => True
  | _ => False

namespace Reconciler

theorem early_of_found {σ : Type} {serve : Server Plane σ} {s : σ} {desired : Snapshot}
    {e : Error} (same : found serve s desired = .error e) : e.Early := by
  have surveyed := survey_surveyed (exec_trace serve (survey desired).run s)
  change Surveyed desired _ (found serve s desired) at surveyed
  rw [same] at surveyed
  cases surveyed <;> trivial

/-- A dry run and the apply fail alike before the phases, and a dry run does not fail later. -/
theorem early_errors_agree {σ : Type} (serve : Server Plane σ) (s : σ) (desired : Snapshot)
    (e : Error) :
    ((apply desired true).run.exec serve s).1 = .error e ↔
      e.Early ∧ ((apply desired false).run.exec serve s).1 = .error e := by
  have real := apply_found serve s desired
  rw [apply_dry_found.1]
  cases same : found serve s desired with
  | error e' =>
    rw [same] at real
    rw [real]
    constructor
    · intro failed
      obtain rfl := Except.error.inj failed
      exact ⟨early_of_found same, rfl⟩
    · rintro ⟨-, failed⟩
      exact congrArg Except.error (Except.error.inj failed)
  | ok c =>
    rw [same] at real
    obtain ⟨late, ended⟩ := real
    rw [ended]
    constructor
    · intro failed
      cases failed
    · rintro ⟨early, failed⟩
      cases late with
      | none => cases failed
      | some source =>
        obtain rfl := Except.error.inj failed
        cases early

/-- The actions of a plan, of which there are none where planning failed. -/
def plannedActions (planned : Except Error Plan) : List Action :=
  match planned with
  | .ok p => p.actions
  | .error _ => []

theorem executions_dry {σ : Type} (serve : Server Plane σ) (s : σ) (desired : Snapshot) :
    executions ((apply desired true).run.journal serve s) =
      (plannedActions ((plan desired).run.exec serve s).1).map Action.execution := by
  rw [apply_dry_found.2, plan_found]
  cases found serve s desired with
  | error e => rfl
  | ok c => exact congrArg _ (Plan.actions_ofComparison c _).symm

/-- On a local plane whose machine does what it is asked, snapshots with good keys make the apply
succeed, and the dry run foretells its outcome. -/
theorem apply_dry_succeeds {W : Type} (machine : Server Machine W) (plane : LocalPlane) (world : W)
    (desired : Snapshot) (keyed : plane.state.WellKeyed) (keyedDesired : desired.WellKeyed)
    (smooth : Smooth
      (((LocalPlane.run (apply desired false).run).run plane).journal machine world)) :
    ∃ outcome : ApplyOutcome, outcome.dryRun = false ∧
      ((apply desired false).run.exec (LocalPlane.on machine) (plane, world)).1 = .ok outcome ∧
      ((apply desired true).run.exec (LocalPlane.on machine) (plane, world)).1 =
        .ok { outcome with dryRun := true } := by
  obtain ⟨c, -, succeeded, -, -⟩ :=
    apply_succeeds keyed keyedDesired (exec_trace (LocalPlane.on machine) _ (plane, world))
      (LocalPlane.follows_ruled machine _ plane world smooth)
  refine ⟨c.outcome, rfl, succeeded, ?_⟩
  have real := apply_found (LocalPlane.on machine) (plane, world) desired
  rw [succeeded] at real
  rw [apply_dry_found.1]
  cases same : found (LocalPlane.on machine) (plane, world) desired with
  | error e =>
    rw [same] at real
    cases real
  | ok c' =>
    rw [same] at real
    obtain ⟨late, ended⟩ := real
    cases late with
    | none => exact congrArg (fun o => Except.ok (foretold o)) (Except.ok.inj ended).symm
    | some source => cases ended

/--
A dry run of an apply to a local plane, whatever its machine does and whichever of its calls fail,
makes no mutation and leaves the snapshot as it is at every moment. What it logs are the actions of
the plan, one for one and in order. It fails only where reading or comparing does, and then the
apply fails alike; from good keys and without failing calls both succeed, with the same outcome but
for the mark of the dry run.
-/
theorem dry_run_foretells {W : Type} (machine : Server Machine W) (faults : Faults)
    (plane : LocalPlane) (world : W) (desired : Snapshot) :
    let serve := faults.impose (LocalPlane.on machine)
    let start := (0, plane, world)
    let dry := (apply desired true).run
    let real := (apply desired false).run
    mutations (dry.journal serve start) = [] ∧
      (dry.exec serve start).2.2.1.state = plane.state ∧
      (∀ n, (dry.stateAfter serve start n).2.1.state = plane.state) ∧
      executions (dry.journal serve start) =
        (plannedActions ((plan desired).run.exec serve start).1).map Action.execution ∧
      (∀ e, (dry.exec serve start).1 = .error e ↔
        e.Early ∧ (real.exec serve start).1 = .error e) ∧
      (plane.state.WellKeyed → desired.WellKeyed →
        Smooth (((LocalPlane.run real).run plane).journal machine world) →
        ∃ outcome : ApplyOutcome, outcome.dryRun = false ∧
          (real.exec (LocalPlane.on machine) (plane, world)).1 = .ok outcome ∧
          (dry.exec (LocalPlane.on machine) (plane, world)).1 =
            .ok { outcome with dryRun := true }) := by
  have reads := (only_apply_dry desired).trace
    (exec_trace (faults.impose (LocalPlane.on machine)) _ (0, plane, world))
  refine ⟨Control.mutations_reads reads, ?_, fun n => ?_, executions_dry _ _ desired,
    early_errors_agree _ _ desired, apply_dry_succeeds machine plane world desired⟩
  · exact ((faults.follows_faulty machine _ plane world).steady Store.Faulty.unchanged reads).1
  · obtain ⟨front, inside, follows⟩ :=
      faults.stateAfter_faulty machine (apply desired true).run plane world n
    exact (follows.steady Store.Faulty.unchanged fun x member =>
      reads x (inside.subset member)).1

/-- What takes a host update, a new user set and the deletion of another is foretold. -/
theorem dry_run_foretells_of_obliging :
    let live := Snapshot.small "staff" ⟨0x3ff0000000000000⟩
    let desired := Snapshot.small "guests" ⟨0x4000000000000000⟩
    let plane : LocalPlane := ⟨some "cluster.json", live⟩
    let real := (apply desired false).run
    live.WellKeyed ∧ desired.WellKeyed ∧
      Smooth (((LocalPlane.run real).run plane).journal obliging ()) ∧
      ∃ outcome : ApplyOutcome, outcome.dryRun = false ∧
        (real.exec (LocalPlane.on obliging) (plane, ())).1 = .ok outcome ∧
        ((apply desired true).run.exec (LocalPlane.on obliging) (plane, ())).1 =
          .ok { outcome with dryRun := true } := by
  have keyed : (Snapshot.small "staff" ⟨0x3ff0000000000000⟩).WellKeyed := by decide
  have keyedDesired : (Snapshot.small "guests" ⟨0x4000000000000000⟩).WellKeyed := by decide
  obtain ⟨-, -, -, -, -, ends⟩ := dry_run_foretells obliging (fun _ => none)
    ⟨some "cluster.json", .small "staff" ⟨0x3ff0000000000000⟩⟩ ()
    (.small "guests" ⟨0x4000000000000000⟩)
  exact ⟨keyed, keyedDesired, smooth_obliging _, ends keyed keyedDesired (smooth_obliging _)⟩

end Reconciler

end ClusterConf
