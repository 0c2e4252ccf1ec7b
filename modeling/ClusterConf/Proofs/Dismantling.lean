import ClusterConf.Proofs.Deletions
set_option autoImplicit false

/-!
Destroying a cluster in which some deletions fail. Main statement: a destroy that goes on after
failures tries each entity once and in order, what it reports and what it leaves make up the
cluster, and its failures are told for just the entities that are left.
-/
namespace ClusterConf

open Program
open Control (calls mutations mutations_append mutations_reads)
open Keyed (key keysOf)
open Difference (hasKey)
open Entity (recordsOf)
open Snapshot (collect enact)
open Store (Ruled Faulty)

namespace Trial

theorem left_failures (ts : List Trial) :
    List.Forall₂ (fun m f => ∃ source, failure m source ∈ ts ∧ f = m.failure source)
      (left ts) (failures ts) := by
  induction ts with
  | nil => exact .nil
  | cons t ts ih =>
    have later : List.Forall₂ (fun m f => ∃ source, failure m source ∈ t :: ts ∧
        f = m.failure source) (left ts) (failures ts) := by
      refine ih.imp ?_
      rintro m f ⟨source, inside, same⟩
      exact ⟨source, List.mem_cons_of_mem t inside, same⟩
    obtain ⟨m, answer⟩ := t
    cases answer with
    | ok u => exact later
    | error source => exact .cons ⟨source, List.mem_cons_self, rfl⟩ later

end Trial

/-- The records of a snapshot, some taken out and the others left, all in their order. -/
structure Snapshot.Splits (s taken left : Snapshot) : Prop where
  takenInOrder : ∀ k, (taken.records k).Sublist (s.records k)
  leftInOrder : ∀ k, (left.records k).Sublist (s.records k)
  whole : ∀ k, (taken.records k ++ left.records k).Perm (s.records k)

/-- Some entities, taken from a snapshot in any order of kinds, and what is left without them. -/
theorem Snapshot.splits_delete {order : List Kind} (once : order.Nodup) {s : Snapshot}
    (distinct : s.Distinct) {ds : List Entity} (within : ds.Sublist (Phase.entitiesIn order s)) :
    s.Splits (collect ds) (enact .delete (collect ds) s) := by
  have taken : ∀ k, (recordsOf k ds).Sublist (s.records k) := by
    intro k
    have sublist : (recordsOf k ds).Sublist (recordsOf k (Phase.entitiesIn order s)) :=
      within.filterMap _
    rw [recordsOf_entitiesIn once] at sublist
    split at sublist
    · exact sublist
    · rw [List.sublist_nil.mp sublist]
      exact List.nil_sublist _
  constructor
  · intro k
    rw [records_collect]
    exact taken k
  · intro k
    rw [records_enact]
    exact List.filter_sublist
  · intro k
    rw [records_enact, records_collect]
    exact Keyed.perm_of_taken (distinct k) ((distinct k).sublist ((taken k).map _))
      (taken k).subset

theorem Phase.length_entitiesIn_deletionOrder (s : Snapshot) :
    (entitiesIn Kind.deletionOrder s).length = s.entityCount := by
  rw [Snapshot.entityCount, entitiesIn, Kind.deletionOrder, List.length_flatMap,
    List.length_flatMap, List.map_reverse, List.sum_reverse]

/-- What is left when some entities of a snapshot are deleted, in any order of kinds. -/
theorem Phase.entitiesIn_deleted (order : List Kind) (ds : List Entity) (s : Snapshot) :
    each .delete (entitiesIn order (enact .delete (collect ds) s)) =
      (each .delete (entitiesIn order s)).filter fun m =>
        decide (m.subject ∉ (each .delete ds).map Mutation.subject) := by
  have named : ∀ (k : Kind) (r : k.Record),
      hasKey (k.key r) (recordsOf k ds) =
        decide ((Mutation.entity .delete ⟨k, r⟩).subject ∈
          (each .delete ds).map Mutation.subject) := by
    intro k r
    rw [Bool.eq_iff_iff, Keyed.hasKey_iff, Entity.mem_keysOf_recordsOf, decide_eq_true_iff, each,
      List.map_map, List.mem_map]
    refine exists_congr fun e => and_congr_right fun _ => ?_
    simp [Mutation.subject, Mutation.action, Entity.key, eq_comm]
  have records : ∀ k, (enact .delete (collect ds) s).records k = (s.records k).filter fun r =>
      decide ((Mutation.entity .delete ⟨k, r⟩).subject ∉
        (each .delete ds).map Mutation.subject) := by
    intro k
    rw [Snapshot.records_enact, Snapshot.records_collect]
    refine List.filter_congr fun r _ => ?_
    rw [decide_not, ← named k r]
    rfl
  have kept : entitiesIn order (enact .delete (collect ds) s) =
      (entitiesIn order s).filter fun e => decide ((Mutation.entity .delete e).subject ∉
        (each .delete ds).map Mutation.subject) := entitiesIn_filter records order
  rw [kept]
  unfold each
  rw [List.filter_map]
  rfl

namespace Reconciler

theorem only_raze (goOn : Bool) (live : Snapshot) : Only Phase.Works (raze goOn live).run := by
  refine (only_log (by nofun)).attempt fun _ =>
    Only.attempt (Only.lift (Phase.only_deleteAll live goOn)) fun report => ?_
  split
  · exact (only_log (by nofun)).attempt fun _ => only_pure _
  · exact only_pure _

/-- The report of deletions that go on after failures. -/
def deletionReport (ts : List Trial) : PhaseReport :=
  ⟨.delete, Mutation.recorded (Trial.done ts), ts.length,
    if (Trial.failures ts).isEmpty then none else some (.aggregate (Trial.failures ts))⟩

/-- Once the cluster is read, a destroy that goes on tries all deletions and reports on them. -/
theorem raze_trials {live : Snapshot} {xs : List (Exchange Plane)} {r : Except Error PhaseReport}
    (trace : Trace (raze true live).run xs r) :
    ∃ ts, Trials true (Phase.mutationsOf .delete live) ts ∧ calls xs = ts.map Trial.exchange ∧
      r = .ok (deletionReport ts) := by
  have acts := fun x member => ((only_raze true live).trace trace x member).acts
  obtain ⟨ys, report, ran, same, rfl⟩ := raze_runs trace
  obtain ⟨ts, trials, tried, told⟩ := Phase.deleteAll_trials ran
  rw [Phase.ofTrials_eq] at told
  have reported : report = deletionReport ts := by
    rw [told, deletionReport]
    cases Trial.failures ts with
    | nil => rfl
    | cons f fs => rfl
  exact ⟨ts, trials, by rw [Phase.calls_eq_mutations acts, same, tried], by rw [reported]⟩

end Reconciler

theorem Live.read_fails {s t : Snapshot} {xs : List (Exchange Plane)} {e : ReadError}
    (trace : Trace read xs (.error e)) (follows : Follows Faulty s xs t) :
    ∃ x ∈ xs, x.Failed := by
  by_contra none
  obtain ⟨-, seen⟩ := follows.steady Faulty.unchanged (only_read.trace trace)
  have obeyed : Obeyed s xs := by
    intro x member
    rcases seen x member with ruled | ⟨failed, -⟩
    · exact ruled
    · exact absurd ⟨x, member, failed⟩ none
  obtain ⟨found, impossible⟩ := read_succeeds trace obeyed
  cases impossible

namespace Reconciler

/-- What a destroy does that goes on after failures, and what it tells. `made` are its calls after
reading. -/
structure Dismantles (live final : Snapshot) (made : List (Exchange Plane))
    (report : PhaseReport) : Prop where
  /-- Each entity is to be deleted once, kinds in deletion order and records in live order. -/
  requests : made.map Exchange.request =
    Kind.joinDeleted fun k => (live.records k).map fun r => .delete k (k.key r)
  attempted : report.attempted = live.entityCount
  /-- What is reported and what is left make up the cluster. -/
  splits : live.Splits report.completed final
  completed : ∀ k r, r ∈ report.completed.records k ↔
    r ∈ live.records k ∧ Phase.exchange .delete ⟨k, r⟩ (.ok ()) ∈ made
  globalConfig : final.globalConfig = live.globalConfig
  environment : final.environment = live.environment
  error_eq_none_iff : report.error = none ↔ ∀ x ∈ made, ¬ x.Failed
  /-- Each entity that is left has its failure, in the order of the calls. -/
  failures : ∃ fs,
    report.error = (if fs.isEmpty then none else some (.aggregate fs)) ∧
    List.Forall₂ (fun e f => ∃ source, Phase.exchange .delete e (.error source) ∈ made ∧
      f = .entity .delete e.kind e.key source)
      (Kind.joinDeleted fun k => (final.records k).map fun r => ⟨k, r⟩) fs
  failedKeys : ∀ e, report.error = some e → e.failedKeys = Kind.joinDeleted final.keys

/-- The deletion of an entity has succeeded if the entity was there and a call for its key has. -/
theorem success_mem_iff_exchange {live : Snapshot} {ts : List Trial} (distinct : live.Distinct)
    (trials : Trials true (Phase.mutationsOf .delete live) ts) {k : Kind} {r : k.Record} :
    Trial.success (.entity .delete ⟨k, r⟩) ∈ ts ↔
      r ∈ live.records k ∧ Phase.exchange .delete ⟨k, r⟩ (.ok ()) ∈ ts.map Trial.exchange := by
  rw [Phase.mutationsOf_delete] at trials
  constructor
  · intro succeeded
    refine ⟨?_, List.mem_map_of_mem succeeded⟩
    have tried := trials.tried_prefix.subset (List.mem_map_of_mem succeeded)
    obtain ⟨e, among, same⟩ := List.mem_map.mp tried
    obtain rfl : e = ⟨k, r⟩ := (Mutation.entity.inj same).2
    exact Phase.mem_entitiesIn_deletionOrder.mp among
  · rintro ⟨held, called⟩
    obtain ⟨⟨m, answer⟩, inside, same⟩ := List.mem_map.mp called
    have tried := trials.tried_prefix.subset (List.mem_map_of_mem inside)
    obtain ⟨⟨l, r'⟩, among, rfl⟩ := List.mem_map.mp tried
    obtain ⟨sameRequest, sameAnswer⟩ := Exchange.mk.inj same
    obtain ⟨rfl, sameKey⟩ := PlaneCall.delete.inj sameRequest
    obtain rfl : answer = .ok () := eq_of_heq sameAnswer
    have held' := Phase.mem_entitiesIn_deletionOrder.mp among
    -- The call names a key only, which no other record of the cluster has.
    obtain rfl := Keyed.eq_of_key_eq (distinct l) held' held sameKey
    exact inside

theorem failedKeys_aggregate {Told : Entity → PlaneError → Prop} {es : List Entity}
    {fs : List CallFailure}
    (failures : List.Forall₂ (fun e f => ∃ source, Told e source ∧
      f = .entity .delete e.kind e.key source) es fs) :
    (PhaseFailure.aggregate fs).failedKeys = es.map Entity.key := by
  rw [PhaseFailure.failedKeys]
  induction failures with
  | nil => rfl
  | cons first _ ih =>
    obtain ⟨source, -, rfl⟩ := first
    exact congrArg (List.cons _) ih

/-- Trials of all deletions dismantle a cluster with distinct keys. -/
theorem dismantles_of_trials {live final : Snapshot} {ts : List Trial} (distinct : live.Distinct)
    (trials : Trials true (Phase.mutationsOf .delete live) ts)
    (follows : Follows Faulty live (ts.map Trial.exchange) final) :
    Dismantles live final (ts.map Trial.exchange) (deletionReport ts) := by
  have inOrder := trials
  rw [Phase.mutationsOf_delete] at inOrder
  obtain ⟨ds, within, done, performed, -⟩ := inOrder.deleted distinct follows
  obtain ⟨globalConfig, environment⟩ := inOrder.outside follows
  have tried := inOrder.tried_all
  have recorded : Mutation.recorded (Trial.done ts) = collect ds := by
    rw [done, Phase.recorded_each]
  have left : Trial.left ts = Phase.each .delete (Phase.entitiesIn Kind.deletionOrder final) := by
    rw [trials.left_eq_filter (Phase.nodup_subjects distinct .delete), done, performed,
      Phase.entitiesIn_deleted, Phase.mutationsOf_delete]
  have failures : List.Forall₂ (fun e f => ∃ source,
      Phase.exchange .delete e (.error source) ∈ ts.map Trial.exchange ∧
        f = .entity .delete e.kind e.key source)
      (Phase.entitiesIn Kind.deletionOrder final) (Trial.failures ts) := by
    have paired := Trial.left_failures ts
    rw [left, Phase.each, List.forall₂_map_left_iff] at paired
    refine paired.imp ?_
    rintro e f ⟨source, inside, same⟩
    exact ⟨source, List.mem_map_of_mem inside, same⟩
  constructor
  case requests =>
    have called : ts.map (fun t => t.mutation.call) =
        (ts.map Trial.mutation).map Mutation.call := by
      rw [List.map_map]
      rfl
    rw [Reconciler.map_request_exchange, called, tried, Phase.each, List.map_map,
      Phase.map_entitiesIn_deletionOrder]
    rfl
  case attempted =>
    have length := congrArg List.length tried
    rw [List.length_map, Phase.each, List.length_map,
      Phase.length_entitiesIn_deletionOrder] at length
    exact length
  case splits =>
    rw [deletionReport, recorded, performed]
    exact Snapshot.splits_delete Kind.nodup_deletionOrder distinct within
  case completed =>
    intro k r
    have told : r ∈ (deletionReport ts).completed.records k ↔
        Trial.success (.entity .delete ⟨k, r⟩) ∈ ts := by
      have listed : Mutation.entity .delete ⟨k, r⟩ ∈ Phase.each .delete ds ↔ ⟨k, r⟩ ∈ ds :=
        List.mem_map_of_injective fun _ _ same => (Mutation.entity.inj same).2
      rw [Trial.success_mem_iff, done, listed, deletionReport, recorded,
        Snapshot.records_collect, Entity.mem_recordsOf]
    exact told.trans (success_mem_iff_exchange distinct trials)
  case globalConfig => exact globalConfig
  case environment => exact environment
  case error_eq_none_iff =>
    rw [← Trial.failures_eq_nil_iff, deletionReport]
    cases Trial.failures ts <;> simp
  case failures => exact ⟨Trial.failures ts, rfl, failures⟩
  case failedKeys =>
    intro e told
    have some : e = .aggregate (Trial.failures ts) := by
      rw [deletionReport] at told
      split at told
      · cases told
      · exact (Option.some.inj told).symm
    rw [some, failedKeys_aggregate failures, Phase.map_entitiesIn_deletionOrder]
    rfl

/--
A destroy that goes on after failures, on a cluster with distinct keys, whichever calls fail without
effect. If the cluster could be read, it is dismantled; otherwise nothing was changed, and a call of
the reading failed.
-/
theorem destroy_dismantles {W : Type} (machine : Server Machine W) (faults : Faults)
    (plane : LocalPlane) (world : W) (distinct : plane.state.Distinct) :
    let serve := faults.impose (LocalPlane.on machine)
    let journal := (destroy true).run.journal serve (0, plane, world)
    let run := (destroy true).run.exec serve (0, plane, world)
    let final := run.2.2.1.state
    (∀ report, run.1 = .ok report → ∃ asked made, calls journal = asked ++ made ∧
      (∀ x ∈ asked, x.request.Reads) ∧ Dismantles plane.state final made report) ∧
    ∀ e, run.1 = .error e → (∃ cause, e = .read cause) ∧ (∀ x ∈ journal, x.request.Reads) ∧
      (∃ x ∈ journal, x.Failed) ∧ final = plane.state := by
  intro serve journal run final
  have trace : Trace (destroy true).run journal run.1 := exec_trace serve _ (0, plane, world)
  have follows : Follows Faulty plane.state journal final :=
    faults.follows_faulty machine _ plane world
  obtain ⟨ys, zs, found, split, reading, razing⟩ := trace_attempt_bind trace
  rw [split] at follows ⊢
  obtain ⟨between, first, second⟩ := follows.append_inv
  have reads := only_current.trace reading
  obtain ⟨rfl, seen⟩ := first.steady Faulty.unchanged reads
  rcases current_cases reading with ⟨e, failed, rfl⟩ | ⟨live, succeeded, rfl⟩
  · obtain ⟨rfl, ended⟩ := razing
    rw [ended, List.append_nil]
    constructor
    · intro report impossible
      cases impossible
    · rintro - ⟨⟩
      exact ⟨⟨e, rfl⟩, reads, Live.read_fails failed first, second.nil_inv⟩
  · obtain ⟨ts, trials, called, ended⟩ := raze_trials razing
    have acts := fun x member => ((only_raze true live).trace razing x member).acts
    have deletions := second.mutations Faulty.unchanged
    rw [← Phase.calls_eq_mutations acts, called] at deletions
    have held := (Live.read_mirrors succeeded seen).eq distinct
    have same : Phase.mutationsOf .delete live = Phase.mutationsOf .delete plane.state := by
      rw [held]
      rfl
    rw [same] at trials
    rw [ended]
    constructor
    · rintro - ⟨⟩
      refine ⟨calls ys, ts.map Trial.exchange, ?_, ?_, ?_⟩
      · rw [Control.calls_append, called]
      · intro x asked
        exact reads x (List.mem_of_mem_filter asked)
      · exact dismantles_of_trials distinct trials deletions
    · intro e impossible
      cases impossible

/-- A parallel environment and the user set it refers to are not deleted, and two others are. -/
theorem destroy_dismantles_of_faults :
    let plane := LocalPlane.inMemory (.small "staff" ⟨0x3ff0000000000000⟩)
    let faults : Faults := fun n => if n = 29 ∨ n = 34 then some (.backend "busy") else none
    let run := (destroy true).run.exec (faults.impose (LocalPlane.on obliging)) (0, plane, ())
    plane.state.Distinct ∧ ∃ report made, run.1 = .ok report ∧
      report.error.map PhaseFailure.failedKeys = some ["mpi", "staff"] ∧
      Dismantles plane.state run.2.2.1.state made report := by
  intro plane faults
  have distinct : plane.state.Distinct := by decide
  have razes := (destroy_dismantles obliging faults plane () distinct).1
  generalize ran : (destroy true).run.exec (faults.impose (LocalPlane.on obliging)) (0, plane, ())
    = run at razes ⊢
  have told : run.1.toOption.bind (fun report => report.error.map PhaseFailure.failedKeys) =
      some ["mpi", "staff"] := by
    rw [← ran]
    decide +kernel
  obtain ⟨report, finished, failed⟩ := Option.bind_eq_some_iff.mp told
  have ended : run.1 = .ok report := by
    cases given : run.1 with
    | error e =>
      rw [given] at finished
      cases finished
    | ok other =>
      rw [given] at finished
      rw [Option.some.inj finished]
  obtain ⟨asked, made, -, -, dismantles⟩ := razes report ended
  exact ⟨distinct, report, made, ended, failed, dismantles⟩

end Reconciler

end ClusterConf
