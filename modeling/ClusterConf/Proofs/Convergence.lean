import ClusterConf.Proofs.ApplyEffects
import ClusterConf.Proofs.LocalRuns
set_option autoImplicit false

/-!
Convergence. Main statement: an apply to a local plane whose machine does what it is asked brings
the cluster to the desired snapshot, and a second one finds nothing to do.
-/
namespace ClusterConf

open Program
open Control (mutations)
open Snapshot (enact)
open Comparison (stages)
open Store (Ruled Faulty Readable)
open Keyed (keysOf latest)
open Difference (hasKey)

/-- No load or usage factor is a NaN, which would differ from itself. -/
def Snapshot.NoNaN (s : Snapshot) : Prop :=
  ∀ h ∈ s.execHosts, ∀ e ∈ h.loadScaling.entries ++ h.usageScaling.entries, e.2.isNaN = false

instance (s : Snapshot) : Decidable s.NoNaN :=
  inferInstanceAs (Decidable (∀ h ∈ s.execHosts,
    ∀ e ∈ h.loadScaling.entries ++ h.usageScaling.entries, e.2.isNaN = false))

theorem beq_self_of_forall {α : Type} [BEq α] {xs : List α} (same : ∀ x ∈ xs, (x == x) = true) :
    (xs == xs) = true := by
  induction xs with
  | nil => rfl
  | cons x xs ih =>
    rw [List.cons_beq_cons, same x List.mem_cons_self,
      ih fun y member => same y (List.mem_cons_of_mem x member)]
    rfl

theorem Table.beq_self {t : Table Double} (numbers : ∀ e ∈ t.entries, e.2.isNaN = false) :
    (t == t) = true := by
  refine beq_self_of_forall fun e member => ?_
  have value : (e.2 == e.2) = true := by
    change (!e.2.isNaN && !e.2.isNaN && (e.2.bits == e.2.bits || _)) = true
    simp [numbers e member]
  change (e.1 == e.1 && e.2 == e.2) = true
  rw [value, beq_self_eq_true]
  rfl

theorem ExecHost.beq_self {h : ExecHost} (load : (h.loadScaling == h.loadScaling) = true)
    (usage : (h.usageScaling == h.usageScaling) = true) : (h == h) = true := by
  have complexValues : (h.complexValues == h.complexValues) = true :=
    beq_self_eq_true h.complexValues.entries
  change instBEqExecHost.beq h h = true
  simp only [instBEqExecHost.beq, load, usage, complexValues, beq_self_eq_true, Bool.and_self]

theorem Snapshot.NoNaN.beq_self {s : Snapshot} (numbers : s.NoNaN) {k : Kind} {r : k.Record}
    (member : r ∈ s.records k) : (r == r) = true := by
  by_cases host : k = .execHost
  · subst host
    have scaled := numbers r member
    exact ExecHost.beq_self
      (Table.beq_self fun e inside => scaled e (List.mem_append_left _ inside))
      (Table.beq_self fun e inside => scaled e (List.mem_append_right _ inside))
  · exact (Kind.beq_iff host).mpr rfl

/-- The keys of a cluster that was brought to a desired snapshot: of each kind those that were live
and are desired, in their order, and then those that were not live. -/
def Settles (live desired final : Snapshot) : Prop :=
  ∀ k, final.keys k = (live.keys k).filter (fun key => key ∈ desired.keys k) ++
    (desired.keys k).filter fun key => !hasKey key (live.records k)

namespace Settles

variable {live desired final : Snapshot} {k : Kind}

theorem mem_keys_iff (settles : Settles live desired final) {key : String} :
    key ∈ final.keys k ↔ key ∈ desired.keys k := by
  rw [settles, List.mem_append, List.mem_filter, List.mem_filter, decide_eq_true_iff,
    Bool.not_eq_true', Keyed.hasKey_eq_false_iff, ← Snapshot.keys_eq_keysOf]
  tauto

theorem wellKeyed (settles : Settles live desired final) (keyed : live.WellKeyed)
    (keyedDesired : desired.WellKeyed) : final.WellKeyed where
  nonempty k := fun member => keyedDesired.nonempty k (settles.mem_keys_iff.mp member)
  distinct k := by
    rw [settles]
    refine ((keyed.distinct k).filter _).append ((keyedDesired.distinct k).filter _) ?_
    intro key stayed added
    have absent := (List.mem_filter.mp added).2
    rw [Bool.not_eq_true', Keyed.hasKey_eq_false_iff] at absent
    exact absent (List.mem_filter.mp stayed).1

end Settles

/-- A cluster that was brought to a desired snapshot: of each kind the records that were live and
are desired, in their order and equal to their desired versions, and then those that were not live.
What cannot be desired, a missing global configuration and the environment, stays. -/
structure Converges (live desired final : Snapshot) : Prop where
  records : ∀ k, ∃ kept,
    final.records k =
      kept ++ (desired.records k).filter (fun d => !hasKey (k.key d) (live.records k)) ∧
    keysOf kept = (live.keys k).filter (fun key => key ∈ desired.keys k) ∧
    ∀ r ∈ kept, ∃ d ∈ desired.records k, k.key d = k.key r ∧ (r == d) = true
  globalConfig : final.globalConfig = desired.globalConfig.or live.globalConfig
  environment : final.environment = live.environment

namespace Converges

variable {live desired final : Snapshot} {k : Kind}

theorem settles (converges : Converges live desired final) : Settles live desired final := by
  intro k
  obtain ⟨kept, split, stayed, -⟩ := converges.records k
  rw [Snapshot.keys_eq_keysOf, split, Keyed.keysOf_append, stayed]
  exact congrArg _ (Keyed.keysOf_filter (fun key => !hasKey key (live.records k)) _)

theorem equal (converges : Converges live desired final) (distinct : desired.Distinct)
    (numbers : desired.NoNaN) {r d : k.Record} (member : r ∈ final.records k)
    (version : d ∈ desired.records k) (same : k.key r = k.key d) : (r == d) = true := by
  obtain ⟨kept, split, -, versions⟩ := converges.records k
  rw [split] at member
  rcases List.mem_append.mp member with stayed | added
  · obtain ⟨d', version', same', equal⟩ := versions r stayed
    obtain rfl := Keyed.eq_of_key_eq (distinct k) version' version (same'.trans same)
    exact equal
  · obtain rfl := Keyed.eq_of_key_eq (distinct k) (List.mem_of_mem_filter added) version same
    exact numbers.beq_self version

/-- After convergence there is nothing to do. -/
theorem part_eq_empty (converges : Converges live desired final) (distinct : desired.Distinct)
    (numbers : desired.NoNaN) {c : Comparison} (describes : c.Describes final desired)
    (operation : Operation) : c.part operation = .empty := by
  have fits := describes.fits operation
  refine Snapshot.ext_records fits.environment ?_ fun k => ?_
  · cases operation with
    | create => exact describes.added_globalConfig
    | update =>
      have global := describes.modified_globalConfig
      rw [converges.globalConfig] at global
      rw [Comparison.part, global]
      cases desired.globalConfig with
      | none => exact ite_self _
      | some g => exact if_pos (beq_self_eq_true (some g))
    | delete => exact describes.removed_globalConfig
  · rw [Snapshot.records_empty, List.eq_nil_iff_forall_not_mem]
    intro r member
    cases operation with
    | create =>
      obtain ⟨wanted, absent⟩ := describes.mem_added_iff.mp member
      exact absent (converges.settles.mem_keys_iff.mpr (List.mem_map_of_mem wanted))
    | update =>
      have wanted := describes.mem_new_of_modified member
      obtain ⟨old, held, same, differs⟩ := describes.exists_unequal member
      rw [converges.equal distinct numbers held wanted same] at differs
      cases differs
    | delete =>
      obtain ⟨held, unwanted⟩ := describes.mem_removed_iff.mp member
      exact unwanted (converges.settles.mem_keys_iff.mp (List.mem_map_of_mem held))

end Converges

namespace Comparison

variable {live desired : Snapshot} {c : Comparison} {k : Kind}

/-- What was live, after its updates and the deletions. -/
def survivors (c : Comparison) (live : Snapshot) : Snapshot :=
  enact .delete c.removed (enact .update c.modified live)

theorem keys_survivors (describes : c.Describes live desired) :
    (c.survivors live).keys k = (live.keys k).filter (fun key => key ∈ desired.keys k) := by
  have dropped : ∀ key ∈ live.keys k, (!hasKey key (c.removed.records k)) =
      decide (key ∈ desired.keys k) := by
    intro key present
    rw [Bool.eq_iff_iff, Bool.not_eq_true', Keyed.hasKey_eq_false_iff, ← Snapshot.keys_eq_keysOf,
      describes.mem_keys_removed_iff, decide_eq_true_iff]
    tauto
  rw [survivors, Snapshot.keys_enact_delete, Snapshot.keys_enact_update]
  exact List.filter_congr dropped

/-- What was live and stays has a desired version, which it equals if it was not replaced by it. -/
theorem version_of_survivor (describes : c.Describes live desired) (distinct : live.Distinct)
    {r : k.Record} (member : r ∈ (c.survivors live).records k) :
    ∃ d ∈ desired.records k, k.key d = k.key r ∧ (r = d ∨ (r == d) = true) := by
  obtain ⟨updated, stays⟩ := Snapshot.mem_records_enact_delete.mp member
  rcases Snapshot.mem_records_enact_update updated with modified | ⟨held, unchanged⟩
  · exact ⟨r, describes.mem_new_of_modified modified, rfl, .inl rfl⟩
  · have wanted : k.key r ∈ desired.keys k := by
      by_contra unwanted
      exact stays (List.mem_map_of_mem (describes.mem_removed_iff.mpr ⟨held, unwanted⟩))
    obtain ⟨d, version, same, equal⟩ := describes.exists_equal distinct held wanted unchanged
    exact ⟨d, version, same, .inr equal⟩

/-- What was live and stays equals its desired version. -/
theorem equal_of_survivor (describes : c.Describes live desired) (distinct : live.Distinct)
    (numbers : desired.NoNaN) {r : k.Record} (member : r ∈ (c.survivors live).records k) :
    ∃ d ∈ desired.records k, k.key d = k.key r ∧ (r == d) = true := by
  obtain ⟨d, version, same, rfl | equal⟩ := version_of_survivor describes distinct member
  · exact ⟨r, version, same, numbers.beq_self version⟩
  · exact ⟨d, version, same, equal⟩

/-- The records that are added are neither updated nor deleted. -/
theorem records_perform (describes : c.Describes live desired) :
    (c.perform stages live).records k = (c.survivors live).records k ++ c.added.records k := by
  have untouched : ∀ r ∈ c.added.records k, latest (c.modified.records k) r = r := by
    intro r added
    refine Keyed.latest_of_not_mem fun modified => ?_
    exact (describes.mem_added_iff.mp added).2 (describes.mem_keys_of_modified modified)
  have stays : ∀ r ∈ c.added.records k, (!hasKey (Keyed.key r) (c.removed.records k)) = true := by
    intro r added
    rw [Bool.not_eq_true', Keyed.hasKey_eq_false_iff]
    intro gone
    exact (describes.mem_keys_removed_iff.mp gone).2
      (List.mem_map_of_mem (describes.mem_added_iff.mp added).1)
  have inOrder : c.perform stages live =
      enact .delete c.removed (enact .update c.modified (enact .create c.added live)) := rfl
  simp only [inOrder, survivors, Snapshot.records_enact, Keyed.enact, List.map_append,
    List.filter_append]
  rw [List.map_congr_left untouched, List.map_id', List.filter_eq_self.mpr stays]

/-- Of each kind the survivors are there, and then what was missing. -/
theorem settles_perform (describes : c.Describes live desired) :
    Settles live desired (c.perform stages live) := by
  intro k
  rw [Snapshot.keys_eq_keysOf, records_perform describes, Keyed.keysOf_append,
    ← Snapshot.keys_eq_keysOf, keys_survivors describes, describes.added, addedRecords]
  exact congrArg _ (Keyed.keysOf_filter (fun key => !hasKey key (live.records k)) _)

/-- A global configuration is set, but never removed. -/
theorem globalConfig_perform (describes : c.Describes live desired) :
    (c.perform stages live).globalConfig = desired.globalConfig.or live.globalConfig := by
  have global : (c.perform stages live).globalConfig =
      c.modified.globalConfig.or live.globalConfig := rfl
  rw [global, describes.modified_globalConfig]
  split
  · rename_i same
    have equal : live.globalConfig = desired.globalConfig := beq_iff_eq.mp same
    rw [← equal]
    cases live.globalConfig <;> rfl
  · rfl

/-- The phases of a comparison bring the desired snapshot about. -/
theorem converges_perform (describes : c.Describes live desired) (distinct : live.Distinct)
    (numbers : desired.NoNaN) : Converges live desired (c.perform stages live) where
  records k := by
    refine ⟨(c.survivors live).records k, ?_, keys_survivors describes,
      fun r => equal_of_survivor describes distinct numbers⟩
    rw [records_perform describes, describes.added, addedRecords]
  globalConfig := globalConfig_perform describes
  environment := rfl

/-- Whatever is left to do after some phases and a part of the next one, the plane allows. -/
theorem admitted_of_stops (compared : between live desired = .ok c) {before : List Operation}
    {operation : Operation} {done : List Mutation} {m : Mutation}
    (stops : Reconciler.StopsAt c stages before operation done m) :
    m.Admitted (enact operation (Mutation.recorded done) (c.perform before live)) := by
  obtain ⟨-, -, describes⟩ := between_describes compared
  have inside : m ∈ Phase.mutationsOf operation (c.part operation) :=
    stops.mutations.subset (List.mem_append_right done List.mem_cons_self)
  rcases Phase.cases_of_mem inside with ⟨k, r, held, rfl⟩ | ⟨-, g, -, rfl⟩
  swap
  · trivial
  have fresh : k.key r ∉ (Mutation.recorded done).keys k :=
    Phase.fresh_of_prefix (distinct_part compared operation) stops.mutations
  rcases stages_cases stops.phases with ⟨rfl, rfl⟩ | ⟨rfl, rfl⟩ | ⟨rfl, rfl⟩
  · change k.key r ∉ (enact .create (Mutation.recorded done) live).keys k
    rw [Snapshot.keys_enact_create, List.mem_append, not_or]
    exact ⟨(describes.mem_added_iff.mp held).2, fresh⟩
  · change k.key r ∈ (enact .update (Mutation.recorded done) (enact .create c.added live)).keys k
    rw [Snapshot.keys_enact_update, Snapshot.keys_enact_create]
    exact List.mem_append_left _ (describes.mem_keys_of_modified (List.mem_map_of_mem held))
  · change k.key r ∈ (enact .delete (Mutation.recorded done)
      (enact .update c.modified (enact .create c.added live))).keys k
    rw [Snapshot.mem_keys_enact_delete, Snapshot.keys_enact_update, Snapshot.keys_enact_create]
    have present : k.key r ∈ live.keys k :=
      List.mem_map_of_mem (describes.mem_removed_iff.mp held).1
    exact ⟨List.mem_append_left _ present, fresh⟩

end Comparison

namespace Reconciler

/-- A survey of a plane that answers by the rules succeeds if all keys are good. -/
theorem surveyed_succeeds {desired s : Snapshot} {xs : List (Exchange Plane)}
    {r : Except Error Comparison} (keyed : s.WellKeyed) (keyedDesired : desired.WellKeyed)
    (surveyed : Surveyed desired xs r) (obeyed : Live.Obeyed s xs) :
    ∃ c, Comparison.between s desired = .ok c ∧ r = .ok c := by
  obtain ⟨c, compared⟩ := Comparison.between_succeeds keyed keyedDesired
  have found : ∀ {ys : List (Exchange Plane)} {live : Snapshot}, ys <+: xs →
      Trace Live.read ys (.ok live) → Comparison.between live desired = .ok c := by
    intro ys live front reading
    have mirrors := Live.read_mirrors reading fun x member => .inl (obeyed x (front.subset member))
    rw [mirrors.eq keyed.distinct, Comparison.between_environment, compared]
  cases surveyed with
  | unread reading =>
    obtain ⟨live, impossible⟩ := Live.read_succeeds reading obeyed
    cases impossible
  | incomparable front reading failed =>
    rw [found front reading] at failed
    cases failed
  | compared front reading same =>
    rw [found front reading] at same
    exact ⟨c, compared, by rw [Except.ok.inj same]⟩

/-- Where reading does not fail an apply between snapshots with good keys comes to its phases. -/
theorem apply_enforced {desired s t : Snapshot} {xs : List (Exchange Plane)}
    {r : Except Error ApplyOutcome} (keyed : s.WellKeyed) (keyedDesired : desired.WellKeyed)
    (trace : Trace (apply desired false).run xs r) (follows : Follows Readable s xs t) :
    ∃ c ts e ys, Enforced desired xs c ts e ys ∧ Comparison.between s desired = .ok c ∧
      t = ts.foldl Trial.perform s ∧ r = verdict c.outcome e := by
  rcases apply_cases trace with ⟨e, surveyed, reads, rfl⟩ | ⟨c, ts, e, ys, enforced, rfl⟩
  · obtain ⟨-, seen⟩ := follows.steady Readable.unchanged reads
    have obeyed : Live.Obeyed s xs := fun x member => (seen x member).ruled (reads x member)
    obtain ⟨c, -, impossible⟩ := surveyed_succeeds keyed keyedDesired surveyed obeyed
    cases impossible
  · obtain ⟨compared, effect⟩ := enforced.effect (follows.map id fun _ _ _ => Readable.faulty)
    exact ⟨c, ts, e, ys, enforced, compared, effect, rfl⟩

/-- An apply that succeeded has brought the desired snapshot about. -/
theorem converges_of_apply {desired s t : Snapshot} {c : Comparison} {xs : List (Exchange Plane)}
    {outcome : ApplyOutcome} (numbers : desired.NoNaN)
    (compared : Comparison.between s desired = .ok c)
    (trace : Trace (apply desired false).run xs (.ok outcome))
    (follows : Follows Faulty s xs t) : Converges s desired t := by
  obtain ⟨keyed, -, describes⟩ := Comparison.between_describes compared
  obtain ⟨found, same, -, rfl, -⟩ := apply_done trace follows
  obtain rfl : c = found := Except.ok.inj (compared.symm.trans same)
  exact Comparison.converges_perform describes keyed.distinct numbers

theorem plan_compares {desired s t : Snapshot} {xs : List (Exchange Plane)} {p : Plan}
    (trace : Trace (plan desired).run xs (.ok p)) (follows : Follows Faulty s xs t) :
    ∃ c, Comparison.between s desired = .ok c ∧ p = .ofComparison c desired.fingerprint := by
  rw [plan_eq] at trace
  obtain ⟨ys, zs, first, rfl, surveying, last⟩ := trace_attempt_bind trace
  cases first with
  | error e => cases last.2
  | ok c =>
    obtain ⟨m, reading, -⟩ := follows.append_inv
    have reads := (only_survey desired).trace surveying
    have compared := surveyed_compares (survey_surveyed surveying) reads reading
    exact ⟨c, compared, Except.ok.inj (trace_done_iff.mp last).2⟩

/-- Where reading does not fail there is a plan if the snapshots can be compared. -/
theorem plan_tells {desired s t : Snapshot} {c : Comparison} {xs : List (Exchange Plane)}
    {r : Except Error Plan} (compared : Comparison.between s desired = .ok c)
    (trace : Trace (plan desired).run xs r) (follows : Follows Readable s xs t) :
    r = .ok (.ofComparison c desired.fingerprint) := by
  obtain ⟨keyed, keyedDesired, -⟩ := Comparison.between_describes compared
  rw [plan_eq] at trace
  obtain ⟨ys, zs, first, rfl, surveying, last⟩ := trace_attempt_bind trace
  obtain ⟨m, reading, -⟩ := follows.append_inv
  have reads := (only_survey desired).trace surveying
  obtain ⟨-, seen⟩ := reading.steady Readable.unchanged reads
  have obeyed : Live.Obeyed s ys := fun x member => (seen x member).ruled (reads x member)
  obtain ⟨found, same, rfl⟩ :=
    surveyed_succeeds keyed keyedDesired (survey_surveyed surveying) obeyed
  rw [compared] at same
  rw [Except.ok.inj same]
  exact (trace_done_iff.mp last).2

/-- On a plane that answers by the rules an apply between snapshots with good keys succeeds. -/
theorem apply_succeeds {desired s t : Snapshot} {xs : List (Exchange Plane)}
    {r : Except Error ApplyOutcome} (keyed : s.WellKeyed) (keyedDesired : desired.WellKeyed)
    (trace : Trace (apply desired false).run xs r) (follows : Follows Ruled s xs t) :
    ∃ c, Comparison.between s desired = .ok c ∧ r = .ok c.outcome ∧ t = c.perform stages s ∧
      mutations xs = ((c.mutationsOf stages).map Trial.success).map Trial.exchange := by
  have readable : Follows Readable s xs t := follows.map id fun _ _ _ => .inl
  obtain ⟨c, ts, e, ys, enforced, compared, effect, rfl⟩ :=
    apply_enforced keyed keyedDesired trace readable
  rcases enforced.tried.cases with ⟨rfl, rfl⟩ |
    ⟨before, operation, done, m, source, stops, rfl, rfl⟩
  · refine ⟨c, compared, rfl, ?_, enforced.mutations⟩
    rw [effect, Trial.foldl_perform_success, Comparison.foldl_perform_mutationsOf compared]
  · -- By the rules the mutation that failed would have succeeded: its phase was allowed to try it.
    have changing := follows.mutations Ruled.unchanged
    rw [enforced.mutations, List.map_append] at changing
    obtain ⟨u, succeeded, failing⟩ := changing.append_inv
    have within : done <+: Phase.mutationsOf operation (c.part operation) :=
      (List.prefix_append done [m]).trans stops.mutations
    have soFar : Follows Faulty s _ u := succeeded.map id fun _ _ _ => .inl
    obtain ⟨distinct, state⟩ := soFar.trials keyed.distinct
    rw [Trial.foldl_perform_success, Comparison.foldl_perform_append compared within] at state
    have admitted := Comparison.admitted_of_stops compared stops
    rw [← state] at admitted
    have impossible := Mutation.succeeds distinct (Follows.singleton_iff.mp failing) admitted
    cases impossible

/-- Where nothing is left to do an apply only reads, and says so. -/
theorem apply_idles {live desired s t : Snapshot} {xs : List (Exchange Plane)}
    {r : Except Error ApplyOutcome} (converges : Converges live desired s) (keyed : s.WellKeyed)
    (keyedDesired : desired.WellKeyed) (numbers : desired.NoNaN)
    (trace : Trace (apply desired false).run xs r) (follows : Follows Readable s xs t) :
    mutations xs = [] ∧ t = s ∧ ∃ outcome, r = .ok outcome ∧ outcome.changed = false := by
  obtain ⟨c, ts, e, ys, enforced, compared, -, rfl⟩ :=
    apply_enforced keyed keyedDesired trace follows
  obtain ⟨-, -, describes⟩ := Comparison.between_describes compared
  have idle := converges.part_eq_empty keyedDesired.distinct numbers describes
  have none := Comparison.mutationsOf_of_empty idle
  have changing := follows.mutations Readable.unchanged
  rcases enforced.tried.cases with ⟨rfl, rfl⟩ | ⟨before, operation, done, m, source, stops, -, -⟩
  · have silent : mutations xs = [] := by
      rw [enforced.mutations, none]
      rfl
    rw [silent] at changing
    refine ⟨silent, changing.nil_inv, c.outcome, rfl, ?_⟩
    rw [Comparison.outcome_of_empty idle]
  · have inside := stops.mutations.subset (List.mem_append_right done List.mem_cons_self)
    rw [idle operation] at inside
    cases operation <;> cases inside

/--
An apply to a local plane whose machine does what it is asked succeeds. It brings the desired
snapshot about without a call that fails, and a second one then finds nothing to do.
-/
theorem apply_converges {W : Type} (machine : Server Machine W) (plane : LocalPlane) (world : W)
    (desired : Snapshot) (keyed : plane.state.WellKeyed) (keyedDesired : desired.WellKeyed)
    (numbers : desired.NoNaN)
    (smooth : Smooth
      (((LocalPlane.run (apply desired false).run).run plane).journal machine world)) :
    let serve := LocalPlane.on machine
    let program := (apply desired false).run
    let first := program.exec serve (plane, world)
    let second := program.exec serve first.2
    (∃ outcome, first.1 = .ok outcome) ∧
      (∀ x ∈ mutations (program.journal serve (plane, world)), ¬ x.Failed) ∧
      Converges plane.state desired first.2.1.state ∧
      (∃ outcome, second.1 = .ok outcome ∧ outcome.changed = false) ∧
      mutations (program.journal serve first.2) = [] ∧
      second.2.1.state = first.2.1.state := by
  obtain ⟨c, compared, succeeded, performed, calls⟩ :=
    apply_succeeds keyed keyedDesired (exec_trace (LocalPlane.on machine) _ (plane, world))
      (LocalPlane.follows_ruled machine _ plane world smooth)
  obtain ⟨-, -, describes⟩ := Comparison.between_describes compared
  have converges := Comparison.converges_perform describes keyed.distinct numbers
  rw [← performed] at converges
  obtain ⟨silent, same, quiet⟩ :=
    apply_idles converges (converges.settles.wellKeyed keyed keyedDesired) keyedDesired numbers
      (exec_trace (LocalPlane.on machine) _ _) (LocalPlane.follows_readable machine _ _)
  refine ⟨⟨c.outcome, succeeded⟩, ?_, converges, quiet, silent, same⟩
  intro x member
  rw [calls] at member
  exact Trial.not_failed_of_success member

/-- A host is updated and a user set takes the place of another. -/
theorem apply_converges_of_obliging :
    let live := Snapshot.small "staff" ⟨0x3ff0000000000000⟩
    let desired := Snapshot.small "guests" ⟨0x4000000000000000⟩
    let run := (apply desired false).run.exec (LocalPlane.on obliging)
      (⟨some "cluster.json", live⟩, ())
    live.WellKeyed ∧ desired.WellKeyed ∧ desired.NoNaN ∧
      (∃ outcome, run.1 = .ok outcome) ∧ Converges live desired run.2.1.state := by
  have keyed : (Snapshot.small "staff" ⟨0x3ff0000000000000⟩).WellKeyed := by decide
  have keyedDesired : (Snapshot.small "guests" ⟨0x4000000000000000⟩).WellKeyed := by decide
  have numbers : (Snapshot.small "guests" ⟨0x4000000000000000⟩).NoNaN := by decide
  have run := apply_converges obliging
    ⟨some "cluster.json", .small "staff" ⟨0x3ff0000000000000⟩⟩ ()
    (.small "guests" ⟨0x4000000000000000⟩) keyed keyedDesired numbers (smooth_obliging _)
  exact ⟨keyed, keyedDesired, numbers, run.1, run.2.2.1⟩

end Reconciler

end ClusterConf
