import ClusterConf.Proofs.Remainder
set_option autoImplicit false

/-!
Phases of deletions and creations on a plane that keeps a snapshot. Main statements: the report of
a phase tells which of its trials succeeded and which failed; deletions take out just what they
report, and that and what is left make up the collections again; creations add just what they
report, under keys that were not there.
-/
namespace ClusterConf

open Program
open Keyed (key keysOf)
open Difference (hasKey)
open Entity (recordsOf)
open Snapshot (collect enact)
open Store (Ruled Faulty)

/-- What has distinct keys and is taken from a collection makes it up with what is left there. -/
theorem Keyed.perm_of_taken {α : Type} [Keyed α] {xs taken : List α}
    (distinct : (keysOf xs).Nodup) (once : (keysOf taken).Nodup)
    (within : ∀ x ∈ taken, x ∈ xs) :
    (taken ++ xs.filter fun x => !hasKey (key x) taken).Perm xs := by
  have apart : taken.Disjoint (xs.filter fun x => !hasKey (key x) taken) := by
    intro x inside outside
    have absent : hasKey (key x) taken = false := by
      simpa using (List.mem_filter.mp outside).2
    exact hasKey_eq_false_iff.mp absent (key_mem_keysOf inside)
  have distinctLeft := (List.Nodup.of_map key distinct).filter fun x => !hasKey (key x) taken
  have distinctAll := (List.Nodup.of_map key once).append distinctLeft apart
  refine (List.perm_ext_iff_of_nodup distinctAll (List.Nodup.of_map key distinct)).mpr fun x => ?_
  rw [List.mem_append, List.mem_filter]
  constructor
  · rintro (inside | ⟨held, -⟩)
    · exact within x inside
    · exact held
  · intro held
    by_cases named : key x ∈ keysOf taken
    · obtain ⟨y, inside, same⟩ := mem_keysOf.mp named
      rw [← eq_of_key_eq distinct (within y inside) held same]
      exact .inl inside
    · exact .inr ⟨held, by simp [hasKey_eq_false_iff.mpr named]⟩

theorem Entity.mem_recordsOf {k : Kind} {r : k.Record} {es : List Entity} :
    r ∈ recordsOf k es ↔ ⟨k, r⟩ ∈ es := by
  rw [recordsOf, List.mem_filterMap]
  constructor
  · rintro ⟨⟨l, r'⟩, inside, same⟩
    by_cases ofKind : l = k
    · subst ofKind
      rw [record?_self] at same
      rwa [← Option.some.inj same]
    · rw [record?_of_ne ofKind] at same
      cases same
  · intro inside
    exact ⟨⟨k, r⟩, inside, record?_self k r⟩

theorem Entity.recordsOf_cons (k : Kind) (e : Entity) (es : List Entity) :
    recordsOf k (e :: es) = recordsOf k [e] ++ recordsOf k es := recordsOf_append k [e] es

theorem Entity.mem_keysOf_singleton {k : Kind} {name : String} {e : Entity} :
    name ∈ keysOf (recordsOf k [e]) ↔ e.kind = k ∧ name = e.key := by
  obtain ⟨l, r⟩ := e
  by_cases same : l = k
  · subst same
    rw [recordsOf_singleton_self, Keyed.keysOf_cons, Keyed.keysOf_nil, List.mem_singleton]
    exact (and_iff_right rfl).symm
  · rw [recordsOf_singleton_of_ne same]
    simp [same]

theorem Entity.mem_keysOf_recordsOf {k : Kind} {name : String} {es : List Entity} :
    name ∈ keysOf (recordsOf k es) ↔ ∃ e ∈ es, e.kind = k ∧ name = e.key := by
  induction es with
  | nil => simp
  | cons e es ih =>
    rw [recordsOf_cons, Keyed.keysOf_append, List.mem_append, mem_keysOf_singleton, ih,
      List.exists_mem_cons_iff]

theorem Entity.nodup_keysOf_singleton (k : Kind) (e : Entity) :
    (keysOf (recordsOf k [e])).Nodup := by
  obtain ⟨l, r⟩ := e
  by_cases same : l = k
  · subst same
    rw [recordsOf_singleton_self]
    exact List.nodup_singleton _
  · rw [recordsOf_singleton_of_ne same]
    exact List.nodup_nil

theorem Phase.mem_entitiesIn_deletionOrder {s : Snapshot} {k : Kind} {r : k.Record} :
    ⟨k, r⟩ ∈ entitiesIn Kind.deletionOrder s ↔ r ∈ s.records k := by
  rw [← Entity.mem_recordsOf, Snapshot.recordsOf_entitiesIn Kind.nodup_deletionOrder,
    if_pos (Kind.mem_deletionOrder k)]

namespace Trial

def done? (t : Trial) : Option Mutation :=
  match t.answer with
  | .ok () => some t.mutation
  | .error _ => none

def left? (t : Trial) : Option Mutation :=
  match t.answer with
  | .ok () => none
  | .error _ => some t.mutation

def failure? (t : Trial) : Option CallFailure :=
  match t.answer with
  | .ok () => none
  | .error source => some (t.mutation.failure source)

def done (ts : List Trial) : List Mutation := ts.filterMap done?

def left (ts : List Trial) : List Mutation := ts.filterMap left?

def failures (ts : List Trial) : List CallFailure := ts.filterMap failure?

theorem success_mem_iff {ts : List Trial} {m : Mutation} : success m ∈ ts ↔ m ∈ done ts := by
  rw [done, List.mem_filterMap]
  constructor
  · intro inside
    exact ⟨success m, inside, rfl⟩
  · rintro ⟨⟨m', answer⟩, inside, told⟩
    cases answer with
    | ok u =>
      obtain rfl : m' = m := Option.some.inj told
      exact inside
    | error source => cases told

theorem failures_eq_nil_iff {ts : List Trial} :
    failures ts = [] ↔ ∀ x ∈ ts.map exchange, ¬ x.Failed := by
  rw [failures, List.filterMap_eq_nil_iff, List.forall_mem_map]
  refine forall₂_congr fun t _ => ?_
  obtain ⟨m, answer⟩ := t
  cases answer with
  | ok u => exact iff_of_true rfl (not_failed_success m)
  | error source => exact iff_of_false nofun (not_not_intro (failed_failure m source))

theorem length_eq (ts : List Trial) :
    ts.length = (done ts).length + (failures ts).length := by
  induction ts with
  | nil => rfl
  | cons t ts ih =>
    obtain ⟨m, answer⟩ := t
    cases answer with
    | ok u =>
      have done : done (⟨m, .ok u⟩ :: ts) = m :: done ts := rfl
      have failures : failures (⟨m, .ok u⟩ :: ts) = failures ts := rfl
      rw [done, failures, List.length_cons, List.length_cons, ih]
      omega
    | error source =>
      have done : done (⟨m, .error source⟩ :: ts) = done ts := rfl
      have failures : failures (⟨m, .error source⟩ :: ts) = m.failure source :: failures ts := rfl
      rw [done, failures, List.length_cons, List.length_cons, ih]
      omega

/-- Trials change a plane by the mutations that succeeded. -/
theorem foldl_perform_done (ts : List Trial) (s : Snapshot) :
    ts.foldl Trial.perform s = (done ts).foldl Mutation.perform s := by
  induction ts generalizing s with
  | nil => rfl
  | cons t ts ih =>
    obtain ⟨m, answer⟩ := t
    cases answer with
    | ok u => exact ih (m.perform s)
    | error source => exact ih s

end Trial

namespace Phase

/-- The report on some trials: the mutations that succeeded are recorded, all trials are counted,
and the failures are told in order. -/
theorem ofTrials_eq (ts : List Trial) :
    Progress.ofTrials ts =
      ⟨Mutation.recorded (Trial.done ts), ts.length, Trial.failures ts⟩ := by
  induction ts using List.reverseRecOn with
  | nil => rfl
  | append_singleton ts t ih =>
    obtain ⟨m, answer⟩ := t
    rw [ofTrials_concat, ih]
    cases answer with
    | ok u =>
      have done : Trial.done (ts ++ [⟨m, .ok u⟩]) = Trial.done ts ++ [m] := List.filterMap_append
      have failures : Trial.failures (ts ++ [⟨m, .ok u⟩]) = Trial.failures ts ++ [] :=
        List.filterMap_append
      rw [done, failures, Mutation.recorded_concat, List.append_nil, List.length_append]
      rfl
    | error source =>
      have done : Trial.done (ts ++ [⟨m, .error source⟩]) = Trial.done ts ++ [] :=
        List.filterMap_append
      have failures : Trial.failures (ts ++ [⟨m, .error source⟩]) =
          Trial.failures ts ++ [m.failure source] := List.filterMap_append
      rw [done, failures, List.append_nil, List.length_append]
      rfl

end Phase

namespace Trials

variable {goOn : Bool} {ms : List Mutation} {ts : List Trial} {es : List Entity}

/-- Trials are made in the order of their mutations. -/
theorem tried_prefix (trials : Trials goOn ms ts) : ts.map Trial.mutation <+: ms := by
  induction trials with
  | nil => exact List.prefix_rfl
  | succeed m _ ih => exact (List.prefix_cons_inj m).mpr ih
  | goOn m source goes _ ih => exact (List.prefix_cons_inj m).mpr ih
  | stop m source ms stops => exact (List.prefix_cons_inj m).mpr List.nil_prefix

/-- Trials that go on after failures are made for all mutations. -/
theorem tried_all (trials : Trials true ms ts) : ts.map Trial.mutation = ms := by
  generalize going : true = goOn at trials
  induction trials with
  | nil => rfl
  | succeed m _ ih => exact congrArg (List.cons m) ih
  | goOn m source goes _ ih => exact congrArg (List.cons m) ih
  | stop m source ms stops =>
    rw [← going] at stops
    cases stops

theorem done_sublist (trials : Trials goOn ms ts) : (Trial.done ts).Sublist ms := by
  induction trials with
  | nil => exact List.Sublist.refl _
  | succeed m _ ih => exact ih.cons_cons m
  | goOn m source goes _ ih => exact ih.cons m
  | stop m source ms stops => exact List.nil_sublist _

theorem done_each {operation : Operation} (trials : Trials goOn (Phase.each operation es) ts) :
    ∃ ds, ds.Sublist es ∧ Trial.done ts = Phase.each operation ds := by
  obtain ⟨ds, within, same⟩ := List.sublist_map_iff.mp trials.done_sublist
  exact ⟨ds, within, same⟩

/-- Trials that go on leave just those mutations that are not among the successful ones. -/
theorem left_eq_filter (trials : Trials true ms ts) (once : (ms.map Mutation.subject).Nodup) :
    Trial.left ts =
      ms.filter fun m => decide (m.subject ∉ (Trial.done ts).map Mutation.subject) := by
  generalize going : true = goOn at trials
  induction trials with
  | nil => rfl
  | @succeed m ms ts rest ih =>
    obtain ⟨apart, once⟩ := List.nodup_cons.mp once
    have done : Trial.done (.success m :: ts) = m :: Trial.done ts := rfl
    have left : Trial.left (.success m :: ts) = Trial.left ts := rfl
    rw [left, ih once, done, List.filter_cons_of_neg (by simp)]
    refine List.filter_congr fun n inside => ?_
    have different : n.subject ≠ m.subject := by
      intro same
      exact apart (same ▸ List.mem_map_of_mem inside)
    simp [different]
  | @goOn m source ms ts goes rest ih =>
    obtain ⟨apart, once⟩ := List.nodup_cons.mp once
    have done : Trial.done (.failure m source :: ts) = Trial.done ts := rfl
    have left : Trial.left (.failure m source :: ts) = m :: Trial.left ts := rfl
    have absent : m.subject ∉ (Trial.done ts).map Mutation.subject := by
      intro inside
      exact apart ((rest.done_sublist.map Mutation.subject).subset inside)
    rw [left, ih once, done, List.filter_cons_of_pos (by simpa using absent)]
  | stop m source ms stops =>
    rw [← going] at stops
    cases stops

end Trials

namespace Snapshot

theorem keys_collect (es : List Entity) (k : Kind) :
    (collect es).keys k = keysOf (recordsOf k es) := by
  rw [keys_eq_keysOf, records_collect]

theorem enact_enact_create (es fs : List Entity) (s : Snapshot) :
    enact .create (collect fs) (enact .create (collect es) s) =
      enact .create (collect (es ++ fs)) s := by
  refine ext_records rfl ?_ fun k => ?_
  · simp only [globalConfig_enact_of_none (globalConfig_collect _)]
  · simp only [records_enact, records_collect, Keyed.enact, Entity.recordsOf_append,
      List.append_assoc]

end Snapshot

/-- Deletions one after the other take out all of their entities. -/
theorem Phase.foldl_perform_deletions (es : List Entity) (s : Snapshot) :
    (each .delete es).foldl Mutation.perform s = enact .delete (collect es) s := by
  induction es using List.reverseRecOn with
  | nil => exact (Snapshot.enact_empty .delete s).symm
  | append_singleton es e ih =>
    have split : each .delete (es ++ [e]) = each .delete es ++ each .delete [e] :=
      List.map_append
    have kept : Operation.delete = .update → e.key ∉ (collect es).keys e.kind := by
      intro impossible
      cases impossible
    rw [split, List.foldl_append, ih, Snapshot.collect_concat, Snapshot.enact_push kept]
    rfl

/-- Calls for entities leave the global configuration and the environment alone. -/
theorem Store.Faulty.outside {s t : Snapshot} {operation : Operation} {e : Entity}
    {answer : Except PlaneError Unit} (step : Faulty s (Phase.exchange operation e answer) t) :
    t.globalConfig = s.globalConfig ∧ t.environment = s.environment := by
  have committed : ∀ {k : Kind} {rs : List k.Record}, t = s.withRecords k rs →
      t.globalConfig = s.globalConfig ∧ t.environment = s.environment := by
    rintro k rs rfl
    exact ⟨Snapshot.globalConfig_withRecords s k rs, Snapshot.environment_withRecords s k rs⟩
  rcases step with step | ⟨-, rfl⟩
  swap
  · exact ⟨rfl, rfl⟩
  rcases step.exchange with ⟨changed, -⟩ | ⟨err, -, -, rfl⟩
  swap
  · exact ⟨rfl, rfl⟩
  cases operation with
  | create =>
    simp only [Store.change, Store.create] at changed
    split at changed
    · cases changed
    · exact committed (Except.ok.inj changed).symm
  | update =>
    simp only [Store.change, Store.update, ne_eq, not_true_eq_false, ↓reduceIte, Snapshot.replace?]
      at changed
    cases replaced : Keyed.replaceFirst? e.record (s.records e.kind) with
    | none =>
      rw [replaced] at changed
      cases changed
    | some rs =>
      rw [replaced] at changed
      exact committed (Except.ok.inj changed).symm
  | delete =>
    simp only [Store.change, Store.delete, Snapshot.remove?] at changed
    cases removed : Keyed.removeFirst? e.key (s.records e.kind) with
    | none =>
      rw [removed] at changed
      cases changed
    | some pair =>
      rw [removed] at changed
      exact committed (Except.ok.inj changed).symm

/-- A successful creation adds its entity, whose key was not there. -/
theorem Store.Faulty.created {s t : Snapshot} {e : Entity}
    (step : Faulty s (Phase.exchange .create e (.ok ())) t) :
    e.key ∉ s.keys e.kind ∧ t = enact .create (collect [e]) s := by
  rcases step with step | ⟨⟨err, refused⟩, -⟩
  · rcases step.exchange with ⟨changed, -⟩ | ⟨err, -, failed, -⟩
    · rw [Store.change, Store.create_eq] at changed
      split at changed
      · cases changed
      · rename_i absent
        exact ⟨absent, (Except.ok.inj changed).symm⟩
    · cases failed
  · cases Store.refusal?_exchange refused

namespace Trials

variable {goOn : Bool} {es : List Entity} {ts : List Trial} {s t : Snapshot}

theorem outside {operation : Operation} (trials : Trials goOn (Phase.each operation es) ts)
    (follows : Follows Faulty s (ts.map Trial.exchange) t) :
    t.globalConfig = s.globalConfig ∧ t.environment = s.environment := by
  have all : ∀ trial ∈ ts, ∃ e, trial.mutation = .entity operation e := by
    intro trial member
    have inside := trials.tried_prefix.subset (List.mem_map_of_mem member)
    obtain ⟨e, -, same⟩ := List.mem_map.mp inside
    exact ⟨e, same.symm⟩
  clear trials
  induction ts generalizing s with
  | nil =>
    obtain rfl := follows.nil_inv
    exact ⟨rfl, rfl⟩
  | cons trial ts ih =>
    cases follows with
    | cons first rest =>
      obtain ⟨m, answer⟩ := trial
      obtain ⟨e, same⟩ := all ⟨m, answer⟩ List.mem_cons_self
      obtain rfl : m = .entity operation e := same
      have step : Faulty s (Phase.exchange operation e answer) _ := first
      obtain ⟨globalConfig, environment⟩ := step.outside
      obtain ⟨sameGlobal, sameEnvironment⟩ :=
        ih rest fun trial member => all trial (List.mem_cons_of_mem _ member)
      exact ⟨sameGlobal.trans globalConfig, sameEnvironment.trans environment⟩

/-- Creations add what they report, and none of it has a key that was there. -/
theorem created (trials : Trials goOn (Phase.each .create es) ts)
    (follows : Follows Faulty s (ts.map Trial.exchange) t) :
    ∃ ds, Trial.done ts = Phase.each .create ds ∧ t = enact .create (collect ds) s ∧
      ∀ k, ∀ key ∈ keysOf (recordsOf k ds), key ∉ s.keys k := by
  induction es generalizing s ts with
  | nil =>
    cases trials
    obtain rfl := follows.nil_inv
    exact ⟨[], rfl, (Snapshot.enact_empty .create t).symm, fun k key none => by cases none⟩
  | cons e es ih =>
    have tried : Trials goOn (.entity .create e :: Phase.each .create es) ts := trials
    cases tried with
    | succeed _ rest =>
      cases follows with
      | @cons _ between _ _ _ first later =>
        obtain ⟨ds, done, rfl, fresh⟩ := ih rest later
        obtain ⟨absent, rfl⟩ : e.key ∉ s.keys e.kind ∧ between = enact .create (collect [e]) s :=
          Faulty.created first
        refine ⟨e :: ds, ?_, Snapshot.enact_enact_create [e] ds s, fun k key named => ?_⟩
        · exact congrArg (List.cons _) done
        rw [Entity.recordsOf_cons, Keyed.keysOf_append, List.mem_append] at named
        rcases named with head | tail
        · obtain ⟨rfl, rfl⟩ := Entity.mem_keysOf_singleton.mp head
          exact absent
        · have later := fresh k key tail
          rw [Snapshot.keys_enact_create, List.mem_append, not_or] at later
          exact later.1
    | goOn _ source goes rest =>
      cases follows with
      | cons first later =>
        have unchanged := Mutation.failed (m := .entity .create e) first
        subst unchanged
        obtain ⟨ds, done, performed, fresh⟩ := ih rest later
        exact ⟨ds, done, performed, fresh⟩
    | stop _ source ms stops =>
      have unchanged := Mutation.failed (m := .entity .create e) (Follows.singleton_iff.mp follows)
      subst unchanged
      exact ⟨[], rfl, (Snapshot.enact_empty .create t).symm, fun k key none => by cases none⟩

/-- What was deleted was there, each key once. -/
theorem deleted_present (trials : Trials goOn (Phase.each .delete es) ts) (distinct : s.Distinct)
    (follows : Follows Faulty s (ts.map Trial.exchange) t) {ds : List Entity}
    (done : Trial.done ts = Phase.each .delete ds) (k : Kind) :
    (keysOf (recordsOf k ds)).Nodup ∧ ∀ key ∈ keysOf (recordsOf k ds), key ∈ s.keys k := by
  induction es generalizing s ts ds with
  | nil =>
    cases trials
    obtain rfl : ds = [] := List.map_eq_nil_iff.mp done.symm
    exact ⟨List.nodup_nil, fun key none => by cases none⟩
  | cons e es ih =>
    have tried : Trials goOn (.entity .delete e :: Phase.each .delete es) ts := trials
    cases tried with
    | succeed _ rest =>
      cases follows with
      | @cons _ between _ _ _ first later =>
        obtain ⟨e', ds, rfl, same, doneRest⟩ := List.map_eq_cons_iff.mp done.symm
        obtain rfl : e' = e := (Mutation.entity.inj same).2
        obtain ⟨admits, rfl⟩ := Faulty.accepted distinct first
        obtain ⟨once, held⟩ := ih rest (Store.distinct_enact distinct admits) later doneRest.symm
        have kept : ∀ key ∈ keysOf (recordsOf k ds),
            key ∈ s.keys k ∧ key ∉ keysOf (recordsOf k [e']) := by
          intro key named
          have still := held key named
          rwa [Snapshot.mem_keys_enact_delete, Snapshot.keys_collect] at still
        rw [Entity.recordsOf_cons, Keyed.keysOf_append]
        constructor
        · refine (Entity.nodup_keysOf_singleton k e').append once fun key head tail => ?_
          exact (kept key tail).2 head
        · intro key named
          rcases List.mem_append.mp named with head | tail
          · obtain ⟨rfl, rfl⟩ := Entity.mem_keysOf_singleton.mp head
            exact admits
          · exact (kept key tail).1
    | goOn _ source goes rest =>
      cases follows with
      | cons first later =>
        have unchanged := Mutation.failed (m := .entity .delete e) first
        subst unchanged
        exact ih rest distinct later done
    | stop _ source ms stops =>
      obtain rfl : ds = [] := List.map_eq_nil_iff.mp done.symm
      exact ⟨List.nodup_nil, fun key none => by cases none⟩

/-- Deletions take out what they report: entities that were there, each once. -/
theorem deleted (trials : Trials goOn (Phase.each .delete es) ts) (distinct : s.Distinct)
    (follows : Follows Faulty s (ts.map Trial.exchange) t) :
    ∃ ds, ds.Sublist es ∧ Trial.done ts = Phase.each .delete ds ∧
      t = enact .delete (collect ds) s ∧ (collect ds).Distinct := by
  obtain ⟨ds, within, done⟩ := trials.done_each
  have performed : t = enact .delete (collect ds) s := by
    rw [(follows.trials distinct).2, Trial.foldl_perform_done, done, Phase.foldl_perform_deletions]
  refine ⟨ds, within, done, performed, fun k => ?_⟩
  rw [Snapshot.keys_collect]
  exact (deleted_present trials distinct follows done k).1

end Trials

end ClusterConf
