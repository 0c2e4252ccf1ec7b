import ClusterConf.Proofs.Reading
set_option autoImplicit false

/-!
The calls that phases make. Main statements: on any plane, whatever it answers, a phase tries its
mutations in order, up to the first failure unless it goes on, and its report is the record of
these trials.
-/
namespace ClusterConf

open Program
open Control (call note trace_call_iff)

namespace Kind

/-- What the kinds come to, in the order in which they are created. -/
def joinCreated {α : Type} (f : Kind → List α) : List α :=
  [f userSetList, f project, f user, f manager, f operator, f hostConfiguration, f hostGroup,
    f execHost, f complexEntry, f calendar, f ckptInterface, f adminHost, f resourceQuotaSet,
    f parallelEnvironment, f clusterQueue, f submitHost].flatten

/-- What the kinds come to, in the order in which they are deleted. -/
def joinDeleted {α : Type} (f : Kind → List α) : List α :=
  [f submitHost, f clusterQueue, f parallelEnvironment, f resourceQuotaSet, f adminHost,
    f ckptInterface, f calendar, f complexEntry, f execHost, f hostGroup, f hostConfiguration,
    f operator, f manager, f user, f project, f userSetList].flatten

theorem joinCreated_eq {α : Type} (f : Kind → List α) :
    joinCreated f = creationOrder.flatMap f := rfl

theorem joinDeleted_eq {α : Type} (f : Kind → List α) :
    joinDeleted f = deletionOrder.flatMap f := rfl

end Kind

/-- A mutation that a phase has to make. -/
inductive Mutation where
  | entity (operation : Operation) (entity : Entity)
  | globalConfig (config : GlobalConfig)

namespace Mutation

def operation : Mutation → Operation
  | entity operation _ => operation
  | globalConfig _ => .update

def exchange : Mutation → Except PlaneError Unit → Exchange Plane
  | entity operation e, answer => Phase.exchange operation e answer
  | globalConfig g, answer => ⟨.modifyGlobal g, answer⟩

def failure : Mutation → PlaneError → CallFailure
  | entity operation e, source => .entity operation e.kind e.key source
  | globalConfig _, source => .globalConfig source

/-- A snapshot of what was changed, with one mutation more. -/
def record (s : Snapshot) : Mutation → Snapshot
  | entity _ e => s.push e
  | globalConfig g => { s with globalConfig := some g }

def recorded (ms : List Mutation) : Snapshot := ms.foldl record .empty

theorem recorded_concat (ms : List Mutation) (m : Mutation) :
    recorded (ms ++ [m]) = m.record (recorded ms) := by
  simp only [recorded, List.foldl_append, List.foldl_cons, List.foldl_nil]

end Mutation

/-- A mutation that was tried, and how it was answered. -/
structure Trial where
  mutation : Mutation
  answer : Except PlaneError Unit

namespace Trial

def exchange (t : Trial) : Exchange Plane := t.mutation.exchange t.answer

def success (m : Mutation) : Trial := ⟨m, .ok ()⟩

def failure (m : Mutation) (source : PlaneError) : Trial := ⟨m, .error source⟩

end Trial

/-- Mutations tried in order. The first failure ends the trials unless they are to go on. -/
inductive Trials (goOn : Bool) : List Mutation → List Trial → Prop
  | nil : Trials goOn [] []
  | succeed (m : Mutation) {ms : List Mutation} {ts : List Trial} (rest : Trials goOn ms ts) :
      Trials goOn (m :: ms) (.success m :: ts)
  | goOn (m : Mutation) (source : PlaneError) {ms : List Mutation} {ts : List Trial}
      (goes : goOn = true) (rest : Trials goOn ms ts) :
      Trials goOn (m :: ms) (.failure m source :: ts)
  | stop (m : Mutation) (source : PlaneError) (ms : List Mutation) (stops : goOn = false) :
      Trials goOn (m :: ms) [.failure m source]

namespace Trials

theorem append_success {goOn : Bool} (ms : List Mutation) {ns : List Mutation} {ts : List Trial}
    (trials : Trials goOn ns ts) : Trials goOn (ms ++ ns) (ms.map Trial.success ++ ts) := by
  induction ms with
  | nil => exact trials
  | cons m ms ih => exact .succeed m ih

theorem append_failure (done : List Mutation) (m : Mutation) (rest : List Mutation)
    (source : PlaneError) :
    Trials false (done ++ m :: rest) (done.map Trial.success ++ [.failure m source]) :=
  append_success done (.stop m source rest rfl)

/-- Trials that stop at the first failure: all succeeded, or all but the last. -/
theorem stopped {ms : List Mutation} {ts : List Trial} (trials : Trials false ms ts) :
    ts = ms.map Trial.success ∨
      ∃ done m rest source, ms = done ++ m :: rest ∧
        ts = done.map Trial.success ++ [.failure m source] := by
  induction trials with
  | nil => exact .inl rfl
  | succeed m _ ih =>
    rcases ih with rfl | ⟨done, m', rest, source, rfl, rfl⟩
    · exact .inl rfl
    · exact .inr ⟨m :: done, m', rest, source, rfl, rfl⟩
  | goOn m source goes => cases goes
  | stop m source ms => exact .inr ⟨[], m, ms, source, rfl, rfl⟩

end Trials

def Control.mutations (xs : List (Exchange Plane)) : List (Exchange Plane) :=
  xs.filter fun x => x.request.isMutation

def Control.calls (xs : List (Exchange Plane)) : List (Exchange Plane) :=
  xs.filter fun x => x.request.isRoundTrip

namespace Control

theorem calls_append (xs ys : List (Exchange Plane)) : calls (xs ++ ys) = calls xs ++ calls ys :=
  List.filter_append xs ys

@[simp] theorem mutations_nil : mutations [] = [] := rfl

theorem mutations_append (xs ys : List (Exchange Plane)) :
    mutations (xs ++ ys) = mutations xs ++ mutations ys := List.filter_append xs ys

theorem mutations_reads {xs : List (Exchange Plane)} (reads : ∀ x ∈ xs, x.request.Reads) :
    mutations xs = [] := by
  rw [mutations, List.filter_eq_nil_iff]
  intro x member
  rw [reads x member]
  exact Bool.false_ne_true

theorem isMutation_exchange (m : Mutation) (answer : Except PlaneError Unit) :
    (m.exchange answer).request.isMutation = true := by
  cases m with
  | entity operation e => exact Store.isMutation_exchange operation e answer
  | globalConfig g => rfl

theorem mutations_exchange (m : Mutation) (answer : Except PlaneError Unit) :
    mutations [m.exchange answer] = [m.exchange answer] := by
  simp [mutations, isMutation_exchange]

theorem mutations_note {event : Event} {xs : List (Exchange Plane)} {u : Unit}
    (trace : Trace (note event) xs u) : mutations xs = [] := by
  obtain rfl := trace_call_iff.mp trace
  rfl

end Control

namespace Phase

open Control (mutations mutations_append mutations_note mutations_exchange)

namespace Progress

def after (p : Progress) (t : Trial) : Progress :=
  match t.answer with
  | .ok () => ⟨t.mutation.record p.completed, p.attempted + 1, p.failures⟩
  | .error source => p.failure (t.mutation.failure source)

def ofTrials (ts : List Trial) : Progress := ts.foldl after .start

end Progress

theorem trace_mutate_iff {operation : Operation} {e : Entity} {xs : List (Exchange Plane)}
    {answer : Except PlaneError Unit} :
    Trace (mutate operation e) xs answer ↔
      xs = [(Mutation.entity operation e).exchange answer] := by
  cases operation <;> exact trace_call_iff

/-- The mutations of a phase for entities in a row. -/
def each (operation : Operation) (es : List Entity) : List Mutation :=
  es.map (Mutation.entity operation)

/-- Calls for one entity after the other are trials of these mutations. -/
theorem mutateEach_trials {operation : Operation} {goOn : Bool} {es : List Entity}
    {p q : Progress} {xs : List (Exchange Plane)}
    (trace : Trace (mutateEach operation goOn es p) xs q) :
    ∃ ts, Trials goOn (each operation es) ts ∧ mutations xs = ts.map Trial.exchange ∧
      q = ts.foldl Progress.after p := by
  induction es generalizing p xs with
  | nil =>
    obtain ⟨rfl, rfl⟩ := trace_done_iff.mp trace
    exact ⟨[], .nil, rfl, rfl⟩
  | cons e rest ih =>
    obtain ⟨us, ys, _, rfl, noted, trying⟩ := trace_bind_iff.mp trace
    obtain ⟨vs, zs, answer, rfl, mutated, remaining⟩ := trace_bind_iff.mp trying
    obtain rfl := trace_mutate_iff.mp mutated
    rw [mutations_append, mutations_append, mutations_note noted, mutations_exchange]
    cases answer with
    | ok done =>
      obtain ⟨ts, trials, same, rfl⟩ := ih remaining
      exact ⟨.success (.entity operation e) :: ts, .succeed _ trials,
        congrArg (List.cons _) same, rfl⟩
    | error source =>
      obtain ⟨ws, ys, _, rfl, notedFailure, last⟩ := trace_bind_iff.mp remaining
      rw [mutations_append, mutations_note notedFailure]
      cases goOn with
      | true =>
        obtain ⟨ts, trials, same, rfl⟩ := ih last
        exact ⟨.failure (.entity operation e) source :: ts, .goOn _ source rfl trials,
          congrArg (List.cons _) same, rfl⟩
      | false =>
        obtain ⟨rfl, rfl⟩ := trace_done_iff.mp last
        exact ⟨[.failure (.entity operation e) source], .stop _ source _ rfl, rfl, rfl⟩

theorem ofTrials_concat (ts : List Trial) (t : Trial) :
    Progress.ofTrials (ts ++ [t]) = (Progress.ofTrials ts).after t := by
  rw [Progress.ofTrials, List.foldl_append]
  rfl

theorem ofTrials_success (ms : List Mutation) :
    Progress.ofTrials (ms.map Trial.success) = ⟨Mutation.recorded ms, ms.length, []⟩ := by
  induction ms using List.reverseRecOn with
  | nil => rfl
  | append_singleton ms m ih =>
    rw [List.map_append, List.map_singleton, ofTrials_concat, ih, Mutation.recorded_concat,
      List.length_append]
    rfl

theorem ofTrials_failure (ms : List Mutation) (m : Mutation) (source : PlaneError) :
    Progress.ofTrials (ms.map Trial.success ++ [.failure m source]) =
      ⟨Mutation.recorded ms, ms.length + 1, [m.failure source]⟩ := by
  rw [ofTrials_concat, ofTrials_success]
  rfl

/-- The mutations that a phase has to make for a snapshot: one for each record, and the global
configuration last of all updates. -/
def mutationsOf : Operation → Snapshot → List Mutation
  | .create, s => Kind.joinCreated fun k => (s.records k).map fun r => .entity .create ⟨k, r⟩
  | .update, s =>
    (Kind.joinCreated fun k => (s.records k).map fun r => .entity .update ⟨k, r⟩) ++
      s.globalConfig.toList.map .globalConfig
  | .delete, s => Kind.joinDeleted fun k => (s.records k).map fun r => .entity .delete ⟨k, r⟩

theorem map_entitiesIn {α : Type} (f : Entity → α) (order : List Kind) (s : Snapshot) :
    (entitiesIn order s).map f = order.flatMap fun k => (s.records k).map fun r => f ⟨k, r⟩ := by
  rw [entitiesIn, List.map_flatMap]
  refine congrArg (order.flatMap ·) (funext fun k => ?_)
  rw [Snapshot.entities, List.map_map]
  rfl

theorem map_entitiesIn_creationOrder {α : Type} (f : Entity → α) (s : Snapshot) :
    (entitiesIn Kind.creationOrder s).map f =
      Kind.joinCreated fun k => (s.records k).map fun r => f ⟨k, r⟩ := by
  rw [map_entitiesIn, Kind.joinCreated_eq]

theorem map_entitiesIn_deletionOrder {α : Type} (f : Entity → α) (s : Snapshot) :
    (entitiesIn Kind.deletionOrder s).map f =
      Kind.joinDeleted fun k => (s.records k).map fun r => f ⟨k, r⟩ := by
  rw [map_entitiesIn, Kind.joinDeleted_eq]

theorem mutationsOf_create (s : Snapshot) :
    mutationsOf .create s = each .create (entitiesIn Kind.creationOrder s) := by
  rw [mutationsOf, each, map_entitiesIn_creationOrder]

theorem mutationsOf_update (s : Snapshot) :
    mutationsOf .update s =
      each .update (entitiesIn Kind.creationOrder s) ++ s.globalConfig.toList.map .globalConfig := by
  rw [mutationsOf, each, map_entitiesIn_creationOrder]

theorem mutationsOf_delete (s : Snapshot) :
    mutationsOf .delete s = each .delete (entitiesIn Kind.deletionOrder s) := by
  rw [mutationsOf, each, map_entitiesIn_deletionOrder]

theorem addAll_trials {s : Snapshot} {xs : List (Exchange Plane)} {report : PhaseReport}
    (trace : Trace (addAll s) xs report) :
    ∃ ts, Trials false (mutationsOf .create s) ts ∧ mutations xs = ts.map Trial.exchange ∧
      report = stopped .create (.ofTrials ts) := by
  obtain ⟨us, ys, _, rfl, announced, trying⟩ := trace_bind_iff.mp trace
  obtain ⟨vs, zs, p, rfl, tried, last⟩ := trace_bind_iff.mp trying
  obtain ⟨rfl, rfl⟩ := trace_done_iff.mp last
  obtain ⟨ts, trials, same, rfl⟩ := mutateEach_trials tried
  rw [← mutationsOf_create] at trials
  refine ⟨ts, trials, ?_, rfl⟩
  rw [mutations_append, mutations_append, mutations_note announced, same]
  simp

theorem deleteAll_trials {s : Snapshot} {goOn : Bool} {xs : List (Exchange Plane)}
    {report : PhaseReport} (trace : Trace (deleteAll s goOn) xs report) :
    ∃ ts, Trials goOn (mutationsOf .delete s) ts ∧ mutations xs = ts.map Trial.exchange ∧
      report = if goOn && !(Progress.ofTrials ts).failures.isEmpty then
          ⟨.delete, (Progress.ofTrials ts).completed, (Progress.ofTrials ts).attempted,
            some (.aggregate (Progress.ofTrials ts).failures)⟩
        else stopped .delete (.ofTrials ts) := by
  obtain ⟨us, ys, _, rfl, announced, trying⟩ := trace_bind_iff.mp trace
  obtain ⟨vs, zs, p, rfl, tried, last⟩ := trace_bind_iff.mp trying
  obtain ⟨ts, trials, same, rfl⟩ := mutateEach_trials tried
  rw [← mutationsOf_delete] at trials
  refine ⟨ts, trials, ?_⟩
  rw [mutations_append, mutations_append, mutations_note announced, same]
  change Trace (if goOn && !(Progress.ofTrials ts).failures.isEmpty then _ else _) zs report at last
  split at last
  · rename_i failed
    rw [if_pos failed]
    obtain ⟨ws, ys, _, rfl, noted, final⟩ := trace_bind_iff.mp last
    obtain ⟨rfl, rfl⟩ := trace_done_iff.mp final
    rw [mutations_append, mutations_note noted]
    exact ⟨by simp, rfl⟩
  · rename_i failed
    rw [if_neg failed]
    obtain ⟨rfl, rfl⟩ := trace_done_iff.mp last
    exact ⟨by simp, rfl⟩

/-- What the updating phase does once the entities are updated. -/
def thenGlobal (g : Option GlobalConfig) (p : Progress) : Control PhaseReport :=
  match p.failures, g with
  | [], some g =>
    note (.debug .phases "Modifying global configuration") >>= fun _ =>
    call (.modifyGlobal g) >>= fun answer =>
    match answer with
    | .ok () => pure ⟨.update, { p.completed with globalConfig := some g }, p.attempted + 1, none⟩
    | .error source =>
      note (failureEvent .update false (.globalConfig source)) >>= fun _ =>
      pure ⟨.update, p.completed, p.attempted + 1, some (.single (.globalConfig source))⟩
  | _, _ => pure (stopped .update p)

theorem modifyAll_eq (s : Snapshot) :
    modifyAll s = announce .update s >>= fun _ =>
      mutateEach .update false (entitiesIn Kind.creationOrder s) .start >>=
        thenGlobal s.globalConfig := rfl

theorem thenGlobal_trials {ms : List Mutation} {g : Option GlobalConfig}
    {xs : List (Exchange Plane)} {report : PhaseReport}
    (trace : Trace (thenGlobal g (.ofTrials (ms.map Trial.success))) xs report) :
    ∃ ts, Trials false (g.toList.map .globalConfig) ts ∧ mutations xs = ts.map Trial.exchange ∧
      report = stopped .update (.ofTrials (ms.map Trial.success ++ ts)) := by
  rw [ofTrials_success] at trace
  cases g with
  | none =>
    obtain ⟨rfl, rfl⟩ := trace_done_iff.mp trace
    refine ⟨[], .nil, rfl, ?_⟩
    rw [List.append_nil, ofTrials_success]
  | some g =>
    obtain ⟨us, ys, _, rfl, announced, calling⟩ := trace_bind_iff.mp trace
    obtain ⟨vs, zs, answer, rfl, called, last⟩ := trace_bind_iff.mp calling
    obtain rfl := trace_call_iff.mp called
    rw [mutations_append, mutations_append, mutations_note announced]
    cases answer with
    | ok done =>
      obtain ⟨rfl, rfl⟩ := trace_done_iff.mp last
      refine ⟨[.success (.globalConfig g)], .succeed _ .nil, rfl, ?_⟩
      rw [ofTrials_concat, ofTrials_success]
      rfl
    | error source =>
      obtain ⟨ws, ys, _, rfl, noted, final⟩ := trace_bind_iff.mp last
      obtain ⟨rfl, rfl⟩ := trace_done_iff.mp final
      rw [mutations_append, mutations_note noted]
      refine ⟨[.failure (.globalConfig g) source], .stop _ source [] rfl, rfl, ?_⟩
      rw [ofTrials_failure]
      rfl

/-- The global configuration comes after the entities, and only if all of them succeeded. -/
theorem modifyAll_trials {s : Snapshot} {xs : List (Exchange Plane)} {report : PhaseReport}
    (trace : Trace (modifyAll s) xs report) :
    ∃ ts, Trials false (mutationsOf .update s) ts ∧ mutations xs = ts.map Trial.exchange ∧
      report = stopped .update (.ofTrials ts) := by
  rw [modifyAll_eq] at trace
  obtain ⟨us, ys, _, rfl, announced, trying⟩ := trace_bind_iff.mp trace
  obtain ⟨vs, zs, p, rfl, tried, last⟩ := trace_bind_iff.mp trying
  obtain ⟨ts, trials, same, rfl⟩ := mutateEach_trials tried
  rw [mutations_append, mutations_append, mutations_note announced, same, List.nil_append,
    mutationsOf_update]
  rcases trials.stopped with rfl | ⟨done, m, rest, source, split, rfl⟩
  · obtain ⟨us, global, sameGlobal, rfl⟩ := thenGlobal_trials last
    refine ⟨_, Trials.append_success _ global, ?_, rfl⟩
    rw [sameGlobal, List.map_append]
  · change Trace (thenGlobal s.globalConfig (.ofTrials _)) zs report at last
    rw [ofTrials_failure] at last
    obtain ⟨rfl, rfl⟩ := trace_done_iff.mp last
    refine ⟨done.map Trial.success ++ [.failure m source], ?_, by simp, ?_⟩
    · rw [split, List.append_assoc, List.cons_append]
      exact Trials.append_failure done m _ source
    · rw [ofTrials_failure]

/-- The phase of an operation, stopping at the first failure. -/
def phase : Operation → Snapshot → Control PhaseReport
  | .create, s => addAll s
  | .update, s => modifyAll s
  | .delete, s => deleteAll s false

/-- A phase tries its mutations in order, up to the first failure, and reports on these trials. -/
theorem phase_trials {operation : Operation} {s : Snapshot} {xs : List (Exchange Plane)}
    {report : PhaseReport} (trace : Trace (phase operation s) xs report) :
    ∃ ts, Trials false (mutationsOf operation s) ts ∧ mutations xs = ts.map Trial.exchange ∧
      report = stopped operation (.ofTrials ts) := by
  cases operation with
  | create => exact addAll_trials trace
  | update => exact modifyAll_trials trace
  | delete => exact deleteAll_trials trace

/-- A call that changes the cluster, or does not go there. -/
def Acts (c : PlaneCall) : Prop := c.isMutation = true ∨ c.isRoundTrip = false

theorem Acts.asks_eq_false {c : PlaneCall} (acts : Acts c) : c.asks = false := by
  rcases acts with changes | aside
  · rw [PlaneCall.asks, changes]
    exact Bool.and_false _
  · rw [PlaneCall.asks, aside]
    rfl

/-- Where nothing is read the calls are the mutations. -/
theorem calls_eq_mutations {xs : List (Exchange Plane)} (acts : ∀ x ∈ xs, Acts x.request) :
    Control.calls xs = mutations xs := by
  refine List.filter_congr fun x member => ?_
  obtain ⟨c, answer⟩ := x
  have act : Acts c := acts _ member
  have reads : ∀ d : PlaneCall, d.isMutation = false → d.isRoundTrip = true → ¬ Acts d := by
    intro d unchanging goes
    simp [Acts, unchanging, goes]
  cases c <;> first | rfl | exact absurd act (reads _ rfl rfl)

/-- A call that changes the cluster, or a line of the log that does not tell of a dry run. -/
def Works (c : PlaneCall) : Prop :=
  c.isMutation = true ∨ ∃ event, c = .note event ∧ event.part ≠ .dryRun

theorem Works.acts {c : PlaneCall} (works : Works c) : Acts c := by
  rcases works with changes | ⟨event, rfl, -⟩
  · exact .inl changes
  · exact .inr rfl

theorem only_change {c : PlaneCall} (changes : c.isMutation = true) : Only Works (call c) :=
  .request (.inl changes)

theorem only_note {event : Event} (plain : event.part ≠ .dryRun) : Only Works (note event) :=
  .request (.inr ⟨event, rfl, plain⟩)

theorem part_failureEvent (operation : Operation) (goOn : Bool) (f : CallFailure) :
    (failureEvent operation goOn f).part = .phases := by
  cases operation <;> cases goOn <;> rfl

theorem only_noteFailure (operation : Operation) (goOn : Bool) (f : CallFailure) :
    Only Works (note (failureEvent operation goOn f)) :=
  only_note (by rw [part_failureEvent]; decide)

theorem only_mutateEach (operation : Operation) (goOn : Bool) (es : List Entity) (p : Progress) :
    Only Works (mutateEach operation goOn es p) := by
  induction es generalizing p with
  | nil => exact .done _
  | cons e rest ih =>
    refine (only_note (by nofun)).bind fun _ => Only.bind ?_ fun answer => ?_
    · cases operation <;> exact only_change rfl
    · cases answer with
      | ok done => exact ih _
      | error source =>
        refine (only_noteFailure _ _ _).bind fun _ => ?_
        cases goOn with
        | true => exact ih _
        | false => exact .done _

theorem only_thenGlobal (g : Option GlobalConfig) (p : Progress) : Only Works (thenGlobal g p) := by
  unfold thenGlobal
  split
  · refine (only_note (by nofun)).bind fun _ => (only_change rfl).bind fun answer => ?_
    cases answer with
    | ok done => exact .done _
    | error source => exact (only_noteFailure _ _ _).bind fun _ => .done _
  · exact .done _

theorem only_deleteAll (s : Snapshot) (goOn : Bool) : Only Works (deleteAll s goOn) := by
  refine (only_note (by nofun)).bind fun _ => (only_mutateEach _ _ _ _).bind fun p => ?_
  split
  · exact (only_note (by nofun)).bind fun _ => .done _
  · exact .done _

/-- A phase reads nothing. -/
theorem only_phase (operation : Operation) (s : Snapshot) : Only Works (phase operation s) := by
  cases operation with
  | create =>
    exact (only_note (by nofun)).bind fun _ => (only_mutateEach _ _ _ _).bind fun _ => .done _
  | update =>
    rw [phase, modifyAll_eq]
    exact (only_note (by nofun)).bind fun _ =>
      (only_mutateEach _ _ _ _).bind fun p => only_thenGlobal _ p
  | delete => exact only_deleteAll s false

end Phase
end ClusterConf
