import ClusterConf.Proofs.Clearing
import ClusterConf.Proofs.Deletions
import ClusterConf.Proofs.MemoryPlane
set_option autoImplicit false

/-!
Undoing a phase by its report, on a plane in memory. Main statement: deleting what a phase of
creations reports gives back the snapshot that was there before, and creating what a phase of
deletions reports gives it back up to the order of records, wherever the phase stopped.
-/
namespace ClusterConf

open Program
open Control (calls mutations)
open Keyed (key keysOf)
open Entity (recordsOf)
open Snapshot (collect enact)
open Store (Ruled Faulty)

theorem append_diff_self {xs ys : List String} (apart : xs.Disjoint ys) :
    (xs ++ ys).diff ys = xs := by
  induction ys with
  | nil => exact List.append_nil xs
  | cons y ys ih =>
    obtain ⟨absent, rest⟩ := List.disjoint_cons_right.mp apart
    rw [List.diff_cons, List.erase_append_right _ absent, List.erase_cons_head, ih rest]

namespace Keyed

variable {α : Type} [Keyed α] {xs ys zs : List α}

/-- Part of a collection to which others were added is what was there before, if its keys are. -/
theorem eq_of_sublist_append (within : ys.Sublist (xs ++ zs))
    (apart : (keysOf xs).Disjoint (keysOf zs)) (same : keysOf ys = keysOf xs) : ys = xs := by
  obtain ⟨front, back, rfl, old, new⟩ := List.sublist_append_iff.mp within
  have none : back = [] := by
    refine List.eq_nil_iff_forall_not_mem.mpr fun y inside => ?_
    have among : key y ∈ keysOf (front ++ back) :=
      key_mem_keysOf (List.mem_append_right front inside)
    rw [same] at among
    exact apart among (key_mem_keysOf (new.subset inside))
  rw [none, List.append_nil] at same ⊢
  have length := congrArg List.length same
  rw [keysOf, keysOf, List.length_map, List.length_map] at length
  exact old.eq_of_length length

end Keyed

theorem Trials.creations {goOn : Bool} {es : List Entity} {ts : List Trial} {s t : Snapshot}
    (trials : Trials goOn (Phase.each .create es) ts) (distinct : s.Distinct)
    (follows : Follows Ruled s (ts.map Trial.exchange) t)
    (fresh : ∀ k, (s.keys k ++ keysOf (recordsOf k es)).Nodup) :
    ts = (Phase.each .create es).map Trial.success ∧ t = enact .create (collect es) s := by
  induction es generalizing s ts with
  | nil =>
    cases trials
    obtain rfl := follows.nil_inv
    exact ⟨rfl, (Snapshot.enact_empty .create t).symm⟩
  | cons e es ih =>
    have tried : Trials goOn (.entity .create e :: Phase.each .create es) ts := trials
    have admits : Store.Admits .create e s := by
      intro held
      refine (List.nodup_append.mp (fresh e.kind)).2.2 e.key held e.key ?_ rfl
      exact Entity.mem_keysOf_recordsOf.mpr ⟨e, List.mem_cons_self, rfl, rfl⟩
    have refused : ∀ {source : PlaneError} {u : Snapshot},
        ¬ Ruled s (Phase.exchange .create e (.error source)) u := by
      intro source u step
      cases step.succeeds distinct admits
    cases tried with
    | succeed _ rest =>
      cases follows with
      | @cons _ between _ _ _ first later =>
        obtain ⟨-, rfl⟩ : Store.Admits .create e s ∧ between = enact .create (collect [e]) s :=
          Faulty.accepted distinct (.inl first)
        have freshRest : ∀ k, ((enact .create (collect [e]) s).keys k ++
            keysOf (recordsOf k es)).Nodup := by
          intro k
          have fresh := fresh k
          rwa [Entity.recordsOf_cons, Keyed.keysOf_append, ← List.append_assoc,
            ← Snapshot.keys_collect, ← Snapshot.keys_enact_create] at fresh
        obtain ⟨same, rfl⟩ :=
          ih rest (Store.distinct_enact distinct admits) later freshRest
        exact ⟨congrArg (List.cons _) same, Snapshot.enact_enact_create [e] es s⟩
    | goOn _ source goes rest =>
      cases follows with
      | cons first later => exact absurd first refused
    | stop _ source ms stops =>
      cases follows with
      | cons first later => exact absurd first refused

namespace Phase

theorem recordsOf_reordered {order : List Kind} (once : order.Nodup) (every : ∀ k, k ∈ order)
    (ds : List Entity) (k : Kind) :
    recordsOf k (entitiesIn order (collect ds)) = recordsOf k ds := by
  rw [Snapshot.recordsOf_entitiesIn once, if_pos (every k), Snapshot.records_collect]

/-- By the rules, deleting what creations have reported gives back what was there before. -/
theorem deleteAll_undoes {s t u c : Snapshot} {xs ys : List (Exchange Plane)}
    {report undo : PhaseReport} (adding : Trace (addAll c) xs report)
    (first : Follows Faulty s xs t)
    (deleting : Trace (deleteAll report.completed false) ys undo)
    (second : Follows Ruled t ys u) : undo.error = none ∧ u = s := by
  obtain ⟨ts, trials, made, told⟩ := addAll_trials adding
  rw [mutationsOf_create] at trials
  have creations := first.mutations Faulty.unchanged
  rw [made] at creations
  obtain ⟨ds, done, rfl, fresh⟩ := trials.created creations
  have completed : report.completed = collect ds := by
    rw [told, ofTrials_eq, done, recorded_each]
    rfl
  rw [completed] at deleting
  obtain ⟨us, undoing, unmade, ended⟩ := deleteAll_trials deleting
  rw [mutationsOf_delete] at undoing
  have deletions := second.mutations Ruled.unchanged
  rw [unmade] at deletions
  have named : ∀ k, recordsOf k (entitiesIn Kind.deletionOrder (collect ds)) = recordsOf k ds :=
    recordsOf_reordered Kind.nodup_deletionOrder Kind.mem_deletionOrder ds
  have holds : (enact .create (collect ds) s).Holds
      (entitiesIn Kind.deletionOrder (collect ds)) := by
    intro k
    rw [named, Snapshot.keys_enact_create, Snapshot.keys_collect]
    exact (List.sublist_append_right _ _).subperm
  obtain rfl := undoing.deletions deletions holds
  have faulty : Follows Faulty (enact .create (collect ds) s) _ u :=
    deletions.map id fun _ _ _ => .inl
  have reported : undo.error = none := by
    rw [ended, ofTrials_success]
    rfl
  have remains := Reconciler.remains_of_follows faulty
  obtain ⟨globalConfig, environment⟩ := undoing.outside faulty
  refine ⟨reported, Snapshot.ext_records environment ?_ fun k => ?_⟩
  · exact globalConfig.trans
      (Snapshot.globalConfig_enact_of_none (Snapshot.globalConfig_collect ds) .create s)
  · obtain ⟨within, keys⟩ := remains k
    have apart : (s.keys k).Disjoint (keysOf (recordsOf k ds)) := by
      intro key held named
      exact fresh k key named held
    rw [named, Snapshot.keys_enact_create, Snapshot.keys_collect, append_diff_self apart] at keys
    rw [Snapshot.records_enact, Snapshot.records_collect] at within
    exact Keyed.eq_of_sublist_append within apart keys

end Phase

/-- Two snapshots that hold the same, records in any order. -/
structure Snapshot.SameUpToOrder (s t : Snapshot) : Prop where
  records : ∀ k, (s.records k).Perm (t.records k)
  globalConfig : s.globalConfig = t.globalConfig
  environment : s.environment = t.environment

namespace Phase

/-- By the rules, creating what deletions have reported gives back what was there before, though
records may be in another order. -/
theorem addAll_undoes {s t u c : Snapshot} {goOn : Bool} {xs ys : List (Exchange Plane)}
    {report undo : PhaseReport} (distinct : s.Distinct)
    (held : ∀ k, ∀ r ∈ c.records k, r ∈ s.records k)
    (deleting : Trace (deleteAll c goOn) xs report) (first : Follows Faulty s xs t)
    (adding : Trace (addAll report.completed) ys undo)
    (second : Follows Ruled t ys u) : undo.error = none ∧ u.SameUpToOrder s := by
  obtain ⟨ts, trials, made, told⟩ := deleteAll_trials deleting
  rw [mutationsOf_delete] at trials
  have deletions := first.mutations Faulty.unchanged
  rw [made] at deletions
  obtain ⟨ds, within, done, rfl, once⟩ := trials.deleted distinct deletions
  obtain ⟨globalBefore, environmentBefore⟩ := trials.outside deletions
  have completed : report.completed = collect ds := by
    have recorded : (Progress.ofTrials ts).completed = collect ds := by
      rw [ofTrials_eq, done, recorded_each]
    rw [told]
    split <;> exact recorded
  rw [completed] at adding
  obtain ⟨us, undoing, unmade, ended⟩ := addAll_trials adding
  rw [mutationsOf_create] at undoing
  have creations := second.mutations Ruled.unchanged
  rw [unmade] at creations
  have named : ∀ k, recordsOf k (entitiesIn Kind.creationOrder (collect ds)) = recordsOf k ds :=
    recordsOf_reordered Kind.nodup_creationOrder Kind.mem_creationOrder ds
  have removed : ∀ k, (enact .delete (collect ds) s).keys k =
      (s.keys k).filter fun key => !Difference.hasKey key (recordsOf k ds) := by
    intro k
    rw [Snapshot.keys_enact_delete, Snapshot.records_collect]
  have distinctBetween : (enact .delete (collect ds) s).Distinct := by
    intro k
    rw [removed]
    exact (distinct k).filter _
  have fresh : ∀ k, ((enact .delete (collect ds) s).keys k ++
      keysOf (recordsOf k (entitiesIn Kind.creationOrder (collect ds)))).Nodup := by
    intro k
    rw [named, ← Snapshot.keys_collect]
    refine (distinctBetween k).append (once k) fun key left taken => ?_
    exact (Snapshot.mem_keys_enact_delete.mp left).2 taken
  obtain ⟨rfl, rfl⟩ := undoing.creations distinctBetween creations fresh
  have reported : undo.error = none := by
    rw [ended, ofTrials_success]
    rfl
  refine ⟨reported, fun k => ?_, ?_, ?_⟩
  · have taken : ∀ r ∈ recordsOf k ds, r ∈ s.records k := by
      intro r inside
      have among := within.subset (Entity.mem_recordsOf.mp inside)
      exact held k r (mem_entitiesIn_deletionOrder.mp among)
    have onceTaken : (keysOf (recordsOf k ds)).Nodup := by
      rw [← Snapshot.keys_collect]
      exact once k
    rw [Snapshot.records_enact, Snapshot.records_enact, Snapshot.records_collect,
      Snapshot.records_collect, named]
    exact List.perm_append_comm.trans (Keyed.perm_of_taken (distinct k) onceTaken taken)
  · exact (Snapshot.globalConfig_enact_of_none (Snapshot.globalConfig_collect _) .create _).trans
      globalBefore
  · exact environmentBefore

end Phase

/-- What no request changes is the same after a run. -/
theorem Program.exec_keeps {I : Interface} {σ τ α : Type} {serve : Server I σ} (view : σ → τ)
    (keeps : ∀ r s, view (serve r s).2 = view s) (p : Program I α) (s : σ) :
    view (p.exec serve s).2 = view s := by
  induction p generalizing s with
  | done a => rfl
  | ask r next ih => exact (ih _ _).trans (keeps r s)

section Machine

variable {W : Type} (machine : Server Machine W)

namespace LocalPlane

theorem path_on (c : PlaneCall) (before : LocalPlane × W) :
    (on machine c before).2.1.path = before.1.path :=
  (trace_serve (exec_trace machine ((serve c).run before.1) before.2)).1

theorem path_impose (faults : Faults) (c : PlaneCall) (before : Nat × LocalPlane × W) :
    (faults.impose (on machine) c before).2.2.1.path = before.2.1.path := by
  obtain ⟨n, before⟩ := before
  unfold Faults.impose
  simp only
  split
  · rfl
  · exact path_on machine c before

/-- Without a state file, calls are answered by the rules of the store on any machine. -/
theorem run_inMemory {α : Type} (p : Control α) (s : Snapshot) (world : W) :
    ∃ t later, (p.exec (on machine) (inMemory s, world)).2 = (inMemory t, later) ∧
      Follows Ruled s (p.journal (on machine) (inMemory s, world)) t := by
  induction p generalizing s world with
  | done a => exact ⟨s, world, rfl, .nil s⟩
  | ask c next ih =>
    obtain ⟨answered, after⟩ := on_inMemory machine s world c
    obtain ⟨t, later, ended, rest⟩ := ih (on machine c (inMemory s, world)).1
      (Store.inMemory c s).2 (on machine c (inMemory s, world)).2.2
    rw [← after] at ended rest
    refine ⟨t, later, ended, .cons (.inl ?_) rest⟩
    rw [answered]
    rfl

/-- Without a state file, calls are answered by the rules of the store or fail without effect. -/
theorem run_inMemory_impose (faults : Faults) {α : Type} (p : Control α) (s : Snapshot)
    (world : W) :
    ∃ t later, (p.exec (faults.impose (on machine)) (0, inMemory s, world)).2.2 =
        (inMemory t, later) ∧
      Follows Faulty s (p.journal (faults.impose (on machine)) (0, inMemory s, world)) t := by
  have kept := Program.exec_keeps (fun before => before.2.1.path) (path_impose machine faults) p
    (0, inMemory s, world)
  have follows := faults.follows_faulty machine p (inMemory s) world
  exact ⟨_, _, Prod.ext (eq_inMemory kept) rfl, follows⟩

end LocalPlane

/--
On a plane in memory whose calls may fail without effect, a phase is undone by its report when calls
no longer fail. Creations, wherever they stopped, are undone to the very snapshot that was there.
Deletions of records that were there are undone up to the order of records, if keys were distinct.
-/
theorem Phase.reports_undo (faults : Faults) (world : W) (s c : Snapshot) :
    let broken := faults.impose (LocalPlane.on machine)
    let mended := LocalPlane.on machine
    (let first := (addAll c).exec broken (0, .inMemory s, world)
      let second := (deleteAll first.1.completed false).exec mended first.2.2
      second.1.error = none ∧ second.2.1 = .inMemory s) ∧
    ∀ goOn : Bool, s.Distinct → (∀ k, ∀ r ∈ c.records k, r ∈ s.records k) →
      let first := (deleteAll c goOn).exec broken (0, .inMemory s, world)
      let second := (addAll first.1.completed).exec mended first.2.2
      second.1.error = none ∧ ∃ t, second.2.1 = .inMemory t ∧ t.SameUpToOrder s := by
  intro broken mended
  constructor
  · intro first second
    obtain ⟨t, between, reached, adding⟩ :=
      LocalPlane.run_inMemory_impose machine faults (addAll c) s world
    obtain ⟨u, later, ended, deleting⟩ :=
      LocalPlane.run_inMemory machine (deleteAll first.1.completed false) t between
    rw [← reached] at ended deleting
    obtain ⟨succeeded, rfl⟩ := deleteAll_undoes (exec_trace broken (addAll c) _) adding
      (exec_trace mended (deleteAll first.1.completed false) _) deleting
    exact ⟨succeeded, congrArg Prod.fst ended⟩
  · intro goOn distinct held first second
    obtain ⟨t, between, reached, deleting⟩ :=
      LocalPlane.run_inMemory_impose machine faults (deleteAll c goOn) s world
    obtain ⟨u, later, ended, adding⟩ :=
      LocalPlane.run_inMemory machine (addAll first.1.completed) t between
    rw [← reached] at ended adding
    obtain ⟨succeeded, same⟩ := addAll_undoes distinct held
      (exec_trace broken (deleteAll c goOn) _) deleting
      (exec_trace mended (addAll first.1.completed) _) adding
    exact ⟨succeeded, u, congrArg Prod.fst ended, same⟩

/-- One of four deletions fails, and the other three are undone. -/
theorem Phase.reports_undo_of_fault :
    let s := Snapshot.small "staff" ⟨0x3ff0000000000000⟩
    let faults : Faults := fun n => if n = 6 then some (.backend "busy") else none
    let first :=
      (deleteAll s true).exec (faults.impose (LocalPlane.on obliging)) (0, .inMemory s, ())
    let second := (addAll first.1.completed).exec (LocalPlane.on obliging) first.2.2
    first.1.completed.entityCount = 3 ∧ second.1.error = none ∧
      ∃ t, second.2.1 = .inMemory t ∧ t.SameUpToOrder s := by
  intro s faults
  have distinct : s.Distinct := by decide
  have undone := (reports_undo obliging faults () s s).2 true distinct fun _ _ held => held
  refine ⟨?_, undone⟩
  decide +kernel

end Machine

end ClusterConf
