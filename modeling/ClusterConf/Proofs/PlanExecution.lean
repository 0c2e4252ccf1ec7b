import ClusterConf.Proofs.ApplyRuns
import ClusterConf.Proofs.LocalRuns
set_option autoImplicit false

/-!
Plans and what is done of them. Main statements: the actions of a plan are the mutations of its
comparison, one for one and in order, and an apply of the same snapshot to a plane that tells the
same makes just these calls, up to the first failure.
-/
namespace ClusterConf

open Program
open Control (call note mutations)
open Comparison (stages)
open Store (Ruled Readable)

/-- The questions that were asked, with their answers. -/
def Control.told (xs : List (Exchange Plane)) : List (Exchange Plane) :=
  xs.filter fun x => x.request.asks

/-- Two sides tell the same as long as they are asked the same. -/
def Agree {I : Interface} : List (Exchange I) → List (Exchange I) → Prop
  | x :: xs, y :: ys => x.request = y.request → x = y ∧ Agree xs ys
  | _, _ => True

/-- What is answered by the rules from one snapshot agrees. -/
theorem agree_of_ruled {s : Snapshot} {xs ys : List (Exchange Plane)}
    (left : ∀ x ∈ xs, x.request.asks = true ∧ Ruled s x s)
    (right : ∀ y ∈ ys, y.request.asks = true ∧ Ruled s y s) : Agree xs ys := by
  induction xs generalizing ys with
  | nil => trivial
  | cons x xs ih =>
    cases ys with
    | nil => trivial
    | cons y ys =>
      obtain ⟨⟨asks, ruled⟩, restLeft⟩ := List.forall_mem_cons.mp left
      obtain ⟨⟨-, ruled'⟩, restRight⟩ := List.forall_mem_cons.mp right
      intro same
      refine ⟨?_, ih restLeft restRight⟩
      obtain ⟨c, answer⟩ := x
      obtain ⟨c', answer'⟩ := y
      obtain rfl : c = c' := same
      have other : c ≠ .backend := by
        rintro rfl
        cases asks
      rw [ruled.answer_unique other ruled']

/-- Programs that ask the same questions. Only what they log may differ, and whom they name. -/
inductive Twin {α : Type} : Control α → Control α → Prop
  | done (a : α) : Twin (.done a) (.done a)
  | ask {c : PlaneCall} {next next' : c.Answer → Control α} (asks : c.asks = true)
      (rest : ∀ answer, Twin (next answer) (next' answer)) : Twin (.ask c next) (.ask c next')
  | aside {c d : PlaneCall} {next : c.Answer → Control α} {next' : d.Answer → Control α}
      (left : c.asks = false) (right : d.asks = false)
      (rest : ∀ a b, Twin (next a) (next' b)) : Twin (.ask c next) (.ask d next')

namespace Twin

variable {α β : Type}

/-- Programs that ask the same questions come to the same if they are told the same. -/
theorem same {p q : Control α} (twin : Twin p q) {xs ys us vs : List (Exchange Plane)} {a b : α}
    (left : Trace p xs a) (right : Trace q ys b)
    (agree : Agree (Control.told (xs ++ us)) (Control.told (ys ++ vs))) : a = b := by
  induction twin generalizing xs ys with
  | done c =>
    obtain ⟨-, rfl⟩ := trace_done_iff.mp left
    obtain ⟨-, rfl⟩ := trace_done_iff.mp right
    rfl
  | @ask c next next' asks _ ih =>
    obtain ⟨answer, zs, rfl, later⟩ := trace_ask_iff.mp left
    obtain ⟨answer', ws, rfl, later'⟩ := trace_ask_iff.mp right
    have first : ∀ (given : c.Answer) (rest : List (Exchange Plane)),
        Control.told (⟨c, given⟩ :: rest) = ⟨c, given⟩ :: Control.told rest :=
      fun given rest => List.filter_cons_of_pos asks
    rw [List.cons_append, List.cons_append, first, first] at agree
    obtain ⟨equal, onward⟩ := agree rfl
    cases equal
    exact ih answer later later' onward
  | @aside c d next next' leftAside rightAside _ ih =>
    obtain ⟨answer, zs, rfl, later⟩ := trace_ask_iff.mp left
    obtain ⟨answer', ws, rfl, later'⟩ := trace_ask_iff.mp right
    have dropped : ∀ (x : Exchange Plane) (rest : List (Exchange Plane)), x.request.asks = false →
        Control.told (x :: rest) = Control.told rest :=
      fun x rest aside => List.filter_cons_of_neg (by rw [aside]; exact Bool.false_ne_true)
    rw [List.cons_append, List.cons_append, dropped _ _ leftAside, dropped _ _ rightAside] at agree
    exact ih answer answer' later later' agree

theorem of_only {p : Control α} (only : Only PlaneCall.AsksOrNotes p) : Twin p p := by
  induction only with
  | done a => exact .done a
  | @ask c next first _ ih =>
    rcases first with asks | ⟨event, rfl⟩
    · exact .ask asks ih
    · exact .aside rfl rfl fun a b => ih a

theorem bind {p q : Control α} {f : α → Control β} (first : Twin p q)
    (second : ∀ a, Twin (f a) (f a)) : Twin (p >>= f) (q >>= f) := by
  induction first with
  | done a => exact second a
  | ask asks _ ih => exact .ask asks ih
  | aside left right _ ih => exact .aside left right ih

theorem lift {ε : Type} {p : Control α} (twin : Twin p p) :
    Twin (ExceptT.lift p : ExceptT ε Control α).run (ExceptT.lift p : ExceptT ε Control α).run :=
  twin.bind fun _ => .done _

theorem attempt {ε : Type} {p : ExceptT ε Control α} {f : α → ExceptT ε Control β}
    (first : Twin p.run p.run) (second : ∀ a, Twin (f a).run (f a).run) :
    Twin (p >>= f).run (p >>= f).run := by
  rw [ExceptT.run_bind]
  refine first.bind fun r => ?_
  cases r with
  | ok a => exact second a
  | error e => exact .done _

end Twin

theorem Live.twin_read : Twin read read :=
  .aside rfl rfl fun _ _ => .aside rfl rfl fun _ _ => .of_only only_readAll

namespace Mutation

def call (m : Mutation) : PlaneCall := (m.exchange (.ok ())).request

theorem request_exchange (m : Mutation) (answer : Except PlaneError Unit) :
    (m.exchange answer).request = m.call := by
  cases m with
  | entity operation e => cases operation <;> rfl
  | globalConfig g => rfl

/-- The action by which a plan tells of a mutation. -/
def action : Mutation → Action
  | entity operation e => ⟨operation, .entity e.kind, e.key⟩
  | globalConfig _ => ⟨.update, .globalConfig, ""⟩

end Mutation

namespace Plan

theorem actionsOn_eq (operation : Operation) (s : Snapshot) (order : List Kind) :
    actionsOn operation s order =
      (Phase.each operation (Phase.entitiesIn order s)).map Mutation.action := by
  simp only [actionsOn, Phase.each, Phase.entitiesIn, List.map_flatMap, List.map_map]
  refine congrArg (order.flatMap ·) (funext fun k => ?_)
  rw [Snapshot.keys, Snapshot.entities, List.map_map, List.map_map]
  rfl

/-- A plan tells the mutations of its comparison, one for one and in order. -/
theorem actions_ofComparison (c : Comparison) (configHash : String) :
    (ofComparison c configHash).actions = (c.mutationsOf stages).map Mutation.action := by
  have globalConfig : ∀ g : Option GlobalConfig,
      (if g.isSome then [(⟨.update, .globalConfig, ""⟩ : Action)] else []) =
        (g.toList.map Mutation.globalConfig).map Mutation.action := by
    intro g
    cases g <;> rfl
  simp only [ofComparison, actionsOn_eq, globalConfig, Comparison.mutationsOf, stages,
    List.flatMap_cons, List.flatMap_nil, Phase.mutationsOf_create, Phase.mutationsOf_update,
    Phase.mutationsOf_delete, Comparison.part, List.map_append, List.append_nil,
    List.append_assoc]

end Plan

/-- The call that an action plans, by what the desired snapshot holds. -/
def Action.call? (desired : Snapshot) : Action → Option PlaneCall
  | ⟨.create, .entity kind, key⟩ => (desired.get? kind key).map .create
  | ⟨.update, .entity kind, key⟩ => (desired.get? kind key).map (.update key)
  | ⟨.update, .globalConfig, _⟩ => desired.globalConfig.map .modifyGlobal
  | ⟨.delete, .entity kind, key⟩ => some (.delete kind key)
  | _ => none

theorem Snapshot.get?_of_mem {s : Snapshot} (distinct : s.Distinct) {k : Kind} {r : k.Record}
    (member : r ∈ s.records k) : s.get? k (k.key r) = some ⟨k, r⟩ := by
  have found := Keyed.find?_key_eq_some (distinct k) member
  exact congrArg (Option.map (Entity.mk k)) found

namespace Reconciler

theorem twin_survey (desired : Snapshot) : Twin (survey desired).run (survey desired).run := by
  refine Twin.attempt (Twin.attempt (Twin.lift Live.twin_read) fun answer => ?_) fun live =>
    Twin.attempt (Twin.lift (Twin.of_only (only_notes _))) fun _ => ?_
  · cases answer <;> exact .done _
  · cases Comparison.between live desired <;> exact .done _

/-- A mutation of a comparison is the call that its action plans. -/
theorem call?_action {live desired : Snapshot} {c : Comparison}
    (compared : Comparison.between live desired = .ok c) {m : Mutation}
    (member : m ∈ c.mutationsOf stages) : m.action.call? desired = some m.call := by
  obtain ⟨-, keyed, describes⟩ := Comparison.between_describes compared
  obtain ⟨operation, -, inside⟩ := List.mem_flatMap.mp member
  have desires : ∀ {k : Kind} {r : k.Record}, r ∈ desired.records k →
      desired.get? k (Entity.key ⟨k, r⟩) = some ⟨k, r⟩ := Snapshot.get?_of_mem keyed.distinct
  rcases Phase.cases_of_mem inside with ⟨k, r, held, rfl⟩ | ⟨rfl, g, set, rfl⟩
  · cases operation with
    | create =>
      have wanted : r ∈ desired.records k :=
        (describes.mem_added_iff.mp held).1
      exact congrArg (Option.map PlaneCall.create) (desires wanted)
    | update =>
      have wanted : r ∈ desired.records k :=
        describes.mem_new_of_modified held
      exact congrArg (Option.map (PlaneCall.update _)) (desires wanted)
    | delete => rfl
  · have wanted := describes.new_of_modified_globalConfig set
    exact congrArg (Option.map PlaneCall.modifyGlobal) wanted

/-- Calls made as they were planned: all if none fails, or else up to the first that fails. -/
def MadeAsPlanned (planned : List PlaneCall) (made : List (Exchange Plane)) : Prop :=
  made.map (·.request) = planned ∧ (∀ x ∈ made, ¬ x.Failed) ∨
    ∃ front last, made = front ++ [last] ∧ made.map (·.request) <+: planned ∧
      (∀ x ∈ front, ¬ x.Failed) ∧ last.Failed

theorem map_request_exchange (ts : List Trial) :
    (ts.map Trial.exchange).map (·.request) = ts.map fun t => t.mutation.call := by
  rw [List.map_map]
  exact List.map_congr_left fun t _ => Mutation.request_exchange t.mutation t.answer

theorem madeAsPlanned_of_trials {ms : List Mutation} {ts : List Trial}
    (trials : Trials false ms ts) :
    MadeAsPlanned (ms.map Mutation.call) (ts.map Trial.exchange) := by
  have called : ∀ done : List Mutation,
      (done.map Trial.success).map (fun t => t.mutation.call) = done.map Mutation.call := by
    intro done
    rw [List.map_map]
    rfl
  rcases trials.stopped with rfl | ⟨done, m, rest, source, rfl, rfl⟩
  · exact .inl ⟨by rw [map_request_exchange, called], fun _ => Trial.not_failed_of_success⟩
  · refine .inr ⟨(done.map Trial.success).map Trial.exchange, (Trial.failure m source).exchange,
      List.map_append, ?_, fun _ => Trial.not_failed_of_success, Trial.failed_failure m source⟩
    rw [map_request_exchange, List.map_append, called, List.map_append]
    exact (List.prefix_append_right_inj _).mpr ⟨rest.map Mutation.call, rfl⟩

/-- An apply keeps to a plan, or fails as planning did and changes nothing. -/
def Keeps (desired : Snapshot) (made : List (Exchange Plane)) (r : Except Error ApplyOutcome) :
    Except Error Plan → Prop
  | .ok p => ∃ planned, p.actions.map (Action.call? desired) = planned.map some ∧
      MadeAsPlanned planned made
  | .error e => r = .error e ∧ made = []

theorem keeps_of_traces {desired : Snapshot} {xs ys : List (Exchange Plane)}
    {p : Except Error Plan} {r : Except Error ApplyOutcome}
    (planning : Trace (plan desired).run xs p) (applying : Trace (apply desired false).run ys r)
    (agree : Agree (Control.told xs) (Control.told ys)) : Keeps desired (mutations ys) r p := by
  rw [plan_eq] at planning
  rw [apply_eq] at applying
  obtain ⟨us, vs, first, rfl, surveying, concluding⟩ := trace_attempt_bind planning
  obtain ⟨us', vs', first', rfl, surveying', enforcing⟩ := trace_attempt_bind applying
  have reads := (only_survey desired).trace surveying'
  obtain rfl := (twin_survey desired).same surveying surveying' agree
  cases first with
  | error e =>
    obtain ⟨-, rfl⟩ := concluding
    obtain ⟨rfl, rfl⟩ := enforcing
    exact ⟨rfl, by rw [List.append_nil, Control.mutations_reads reads]⟩
  | ok c =>
    obtain ⟨-, rfl⟩ := trace_done_iff.mp concluding
    cases survey_surveyed surveying with
    | compared front reading compared =>
      obtain ⟨-, -, describes⟩ := Comparison.between_describes compared
      obtain ⟨ts, e, tried, same, rfl⟩ := enforce_tried describes enforcing
      refine ⟨(c.mutationsOf stages).map Mutation.call, ?_, ?_⟩
      · rw [Plan.actions_ofComparison, List.map_map, List.map_map]
        exact List.map_congr_left fun m member => call?_action compared member
      · rw [Control.mutations_append, Control.mutations_reads reads, List.nil_append, same]
        exact madeAsPlanned_of_trials tried.trials

theorem told_ruled {α : Type} {desired s t : Snapshot} {f : Comparison → Attempt α}
    (acts : ∀ c, Only Phase.Acts (f c).run) {xs : List (Exchange Plane)} {r : Except Error α}
    (trace : Trace (survey desired >>= f).run xs r) (follows : Follows Readable s xs t) :
    ∀ x ∈ Control.told xs, x.request.asks = true ∧ Ruled s x s := by
  obtain ⟨ys, zs, first, rfl, surveying, rest⟩ := trace_attempt_bind trace
  obtain ⟨m, reading, -⟩ := follows.append_inv
  have reads := (only_survey desired).trace surveying
  obtain ⟨-, seen⟩ := reading.steady Readable.unchanged reads
  intro x member
  obtain ⟨inside, asks⟩ := List.mem_filter.mp member
  refine ⟨asks, ?_⟩
  rcases List.mem_append.mp inside with early | late
  · exact (seen x early).ruled (reads x early)
  · cases first with
    | error e =>
      rw [rest.1] at late
      cases late
    | ok c =>
      have silent := Phase.Acts.asks_eq_false ((acts c).trace rest x late)
      rw [silent] at asks
      cases asks

/-- Local planes that hold the same tell the same, whatever their machines do. -/
theorem local_agree {V W : Type} (machine : Server Machine V) (machine' : Server Machine W)
    (before : LocalPlane × V) (before' : LocalPlane × W) (same : before.1.state = before'.1.state)
    (desired : Snapshot) :
    Agree (Control.told ((plan desired).run.journal (LocalPlane.on machine) before))
      (Control.told ((apply desired false).run.journal (LocalPlane.on machine') before')) := by
  rw [plan_eq, apply_eq]
  have planner := told_ruled (fun _ => only_pure _) (exec_trace _ _ _)
    (LocalPlane.follows_readable machine
      (survey desired >>= fun c => pure (Plan.ofComparison c desired.fingerprint)).run before)
  have applier := told_ruled (fun c => (only_enforce c).mono fun _ => Phase.Works.acts)
    (exec_trace _ _ _)
    (LocalPlane.follows_readable machine' (survey desired >>= enforce).run before')
  rw [same] at planner
  exact agree_of_ruled planner applier

/--
An apply makes the calls that the plan of the same snapshot tells, one for one and in order, up to
the first that fails; without a plan it fails alike and makes none. The planes of the two runs may
be any, as long as they tell the same; what they make of mutations is up to them.
-/
theorem apply_keeps_plan {σ τ : Type} (planner : Server Plane σ) (applier : Server Plane τ)
    (s : σ) (t : τ) (desired : Snapshot)
    (agree : Agree (Control.told ((plan desired).run.journal planner s))
      (Control.told ((apply desired false).run.journal applier t))) :
    Keeps desired (mutations ((apply desired false).run.journal applier t))
      ((apply desired false).run.exec applier t).1 ((plan desired).run.exec planner s).1 :=
  keeps_of_traces (exec_trace planner _ s) (exec_trace applier _ t) agree

/-- A machine that renames so many files and then no more. -/
def weary : Server Machine Nat
  | .rename _ _, n => (0 < n, n - 1)
  | c, n => ((obliging c ()).1, n)

/-- What was planned in memory is applied to a state file that can be replaced twice. -/
theorem apply_keeps_plan_of_weary :
    let live := Snapshot.small "staff" ⟨0x3ff0000000000000⟩
    let desired := Snapshot.small "guests" ⟨0x4000000000000000⟩
    let planning := (plan desired).run.journal (LocalPlane.on obliging) (.inMemory live, ())
    let applying :=
      (apply desired false).run.journal (LocalPlane.on weary) (⟨some "cluster.json", live⟩, 2)
    Agree (Control.told planning) (Control.told applying) ∧
      Keeps desired (mutations applying)
        ((apply desired false).run.exec (LocalPlane.on weary) (⟨some "cluster.json", live⟩, 2)).1
        ((plan desired).run.exec (LocalPlane.on obliging) (.inMemory live, ())).1 := by
  have agree := local_agree obliging weary (.inMemory (.small "staff" ⟨0x3ff0000000000000⟩), ())
    (⟨some "cluster.json", .small "staff" ⟨0x3ff0000000000000⟩⟩, 2) rfl
    (.small "guests" ⟨0x4000000000000000⟩)
  have keeps := apply_keeps_plan (LocalPlane.on obliging) (LocalPlane.on weary)
    (.inMemory (.small "staff" ⟨0x3ff0000000000000⟩), ())
    (⟨some "cluster.json", .small "staff" ⟨0x3ff0000000000000⟩⟩, 2)
    (.small "guests" ⟨0x4000000000000000⟩) agree
  exact ⟨agree, keeps⟩

end Reconciler
end ClusterConf
