import ClusterConf.Proofs.ApplyEffects
import ClusterConf.Proofs.LocalRuns
import ClusterConf.Proofs.References
set_option autoImplicit false

/-!
Integrity of references while the cluster changes. Main statement: at no moment of an apply between
closed snapshots, or of a destroy of one, does an entity refer to one that is not there.
-/
namespace ClusterConf

open Program
open Control (mutations)
open Snapshot (enact)
open Validation (Resolved Closed references references_earlier closed_iff)
open Comparison (stages)
open Store (Faulty)

namespace Phase

open Entity (recordsOf)

/-- When entities are taken kind by kind, a kind is complete before the next one is begun. -/
theorem complete_of_reached {order : List Kind} (once : order.Nodup) {s : Snapshot}
    {es : List Entity} (first : es <+: entitiesIn order s) {a b : Kind}
    (sorted : [a, b].Sublist order) (reached : recordsOf b es ≠ []) :
    recordsOf a es = s.records a := by
  induction order generalizing es with
  | nil => cases sorted
  | cons l order ih =>
    obtain ⟨fresh, onceRest⟩ := List.nodup_cons.mp once
    have split : entitiesIn (l :: order) s = s.entities l ++ entitiesIn order s :=
      List.flatMap_cons
    rw [split] at first
    have different : b ≠ l := by
      rintro rfl
      cases sorted with
      | cons _ later => exact fresh (later.subset (by simp))
      | cons_cons _ later => exact fresh (later.subset (by simp))
    have whole := Snapshot.recordsOf_entities_of_ne s (Ne.symm different)
    -- What was taken ends within the entities of `l`, or goes beyond them into the other kinds.
    rcases List.prefix_or_prefix_of_prefix first (List.prefix_append _ _) with inside | ⟨fs, rfl⟩
    · have none : recordsOf b es <+: recordsOf b (s.entities l) := inside.filterMap _
      rw [whole] at none
      exact absurd (List.prefix_nil.mp none) reached
    · have later : fs <+: entitiesIn order s := (List.prefix_append_right_inj _).mp first
      rw [Entity.recordsOf_append, whole, List.nil_append] at reached
      rw [Entity.recordsOf_append]
      cases sorted with
      | cons _ sorted =>
        have other : a ≠ l := by
          rintro rfl
          exact fresh (sorted.subset (by simp))
        rw [ih onceRest later sorted reached, Snapshot.recordsOf_entities_of_ne s (Ne.symm other),
          List.nil_append]
      | cons_cons _ _ =>
        have gone : recordsOf a fs <+: recordsOf a (entitiesIn order s) := later.filterMap _
        rw [Snapshot.recordsOf_entitiesIn onceRest, if_neg fresh] at gone
        rw [List.prefix_nil.mp gone, Snapshot.recordsOf_entities_self, List.append_nil]

/-- In a first part of a phase a kind is complete before the next one is begun. -/
theorem complete_of_begun {operation : Operation} {order : List Kind} (once : order.Nodup)
    {part : Snapshot} {done : List Mutation}
    (first : done <+: each operation (entitiesIn order part)) {a b : Kind}
    (sorted : [a, b].Sublist order) {key : String} (begun : key ∈ (Mutation.recorded done).keys b) :
    (Mutation.recorded done).records a = part.records a := by
  have among : entitiesOf done <+: entitiesIn order part := by
    rw [← entitiesOf_each operation (entitiesIn order part)]
    exact first.filterMap _
  rw [records_recorded]
  refine complete_of_reached once among sorted fun none => ?_
  rw [Snapshot.keys, records_recorded, none] at begun
  cases begun

end Phase

namespace Validation

theorem references_eq_of_beq {k : Kind} {r d : k.Record} (equal : (r == d) = true) :
    references k r = references k d := by
  by_cases host : k = .execHost
  · subst host
    rfl
  · rw [(Kind.beq_iff host).mp equal]

end Validation

/-- Snapshots where every reference is resolved. -/
def Snapshot.Sound (s : Snapshot) : Prop := ∀ k, ∀ r ∈ s.records k, Resolved s.keys k r

namespace Reconciler

variable {live desired : Snapshot} {c : Comparison}

/-- While entities are created each finds those that it refers to. -/
theorem sound_creating (describes : c.Describes live desired) (soundLive : live.Sound)
    (soundDesired : desired.Sound) {done : List Mutation}
    (first : done <+: Phase.mutationsOf .create c.added) :
    (enact .create (Mutation.recorded done) live).Sound := by
  intro k r member
  rcases Snapshot.mem_records_enact_create.mp member with old | created
  · refine (soundLive k r old).mono fun ref _ name known => ?_
    rw [Snapshot.keys_enact_create]
    exact List.mem_append_left _ known
  · have added : r ∈ c.added.records k := (Phase.records_recorded_prefix first k).subset created
    have new : r ∈ desired.records k := (describes.mem_added_iff.mp added).1
    refine (soundDesired k r new).mono fun ref refers name wanted => ?_
    rw [Snapshot.keys_enact_create]
    rcases describes.mem_keys_of_new wanted with known | missing
    · exact List.mem_append_left _ known
    · -- `r` is of a later kind than what it refers to, and the earlier kinds are complete.
      rw [Phase.mutationsOf_create] at first
      have complete := Phase.complete_of_begun Kind.nodup_creationOrder first
        (references_earlier refers) (List.mem_map_of_mem created)
      rw [Snapshot.keys, ← complete] at missing
      exact List.mem_append_right _ missing

theorem mem_keys_created (describes : c.Describes live desired) (part : Snapshot) {k : Kind}
    {key : String} (either : key ∈ live.keys k ∨ key ∈ desired.keys k) :
    key ∈ (enact .update part (enact .create c.added live)).keys k := by
  rw [Snapshot.keys_enact_update, Snapshot.keys_enact_create, List.mem_append]
  exact either.elim .inl describes.mem_keys_of_new

theorem origin_of_created (describes : c.Describes live desired) {k : Kind} {r : k.Record}
    (created : r ∈ (enact .create c.added live).records k) :
    r ∈ live.records k ∨ r ∈ desired.records k :=
  (Snapshot.mem_records_enact_create.mp created).imp_right fun added =>
    (describes.mem_added_iff.mp added).1

/-- While entities are updated all keys are there, old and new ones. -/
theorem sound_updating (describes : c.Describes live desired) (soundLive : live.Sound)
    (soundDesired : desired.Sound) {done : List Mutation}
    (first : done <+: Phase.mutationsOf .update c.modified) :
    (enact .update (Mutation.recorded done) (enact .create c.added live)).Sound := by
  intro k r member
  have origin : r ∈ live.records k ∨ r ∈ desired.records k := by
    rcases Snapshot.mem_records_enact_update member with updated | ⟨created, -⟩
    · exact .inr (describes.mem_new_of_modified
        ((Phase.records_recorded_prefix first k).subset updated))
    · exact origin_of_created describes created
  rcases origin with old | new
  · exact (soundLive k r old).mono fun ref _ name held => mem_keys_created describes _ (.inl held)
  · exact (soundDesired k r new).mono fun ref _ name wanted =>
      mem_keys_created describes _ (.inr wanted)

/-- While entities are deleted none goes before those that refer to it. -/
theorem sound_deleting (describes : c.Describes live desired) (distinct : live.Distinct)
    (soundLive : live.Sound) (soundDesired : desired.Sound) {done : List Mutation}
    (first : done <+: Phase.mutationsOf .delete c.removed) :
    (enact .delete (Mutation.recorded done)
      (enact .update c.modified (enact .create c.added live))).Sound := by
  have known : ∀ k key, key ∈ live.keys k ∨ key ∈ desired.keys k →
      key ∉ (Mutation.recorded done).keys k →
      key ∈ (enact .delete (Mutation.recorded done)
        (enact .update c.modified (enact .create c.added live))).keys k :=
    fun k key either stays =>
      Snapshot.mem_keys_enact_delete.mpr ⟨mem_keys_created describes _ either, stays⟩
  have wantedStays : ∀ k key, key ∈ desired.keys k → key ∉ (Mutation.recorded done).keys k := by
    intro k key wanted gone
    have removed : key ∈ c.removed.keys k :=
      ((Phase.records_recorded_prefix first k).map _).subset gone
    exact (describes.mem_keys_removed_iff.mp removed).2 wanted
  have asDesired : ∀ k r, (∃ d ∈ desired.records k, references k r = references k d) →
      Resolved (enact .delete (Mutation.recorded done)
        (enact .update c.modified (enact .create c.added live))).keys k r := by
    rintro k r ⟨d, new, same⟩
    have resolved : Resolved desired.keys k r := by
      unfold Validation.Resolved
      rw [same]
      exact soundDesired k d new
    exact resolved.mono fun ref _ name wanted => known _ _ (.inr wanted) (wantedStays _ _ wanted)
  intro k r member
  obtain ⟨updated, stays⟩ := Snapshot.mem_records_enact_delete.mp member
  rcases Snapshot.mem_records_enact_update updated with modified | ⟨created, unchanged⟩
  · exact asDesired k r ⟨r, describes.mem_new_of_modified modified, rfl⟩
  rcases origin_of_created describes created with old | new
  · by_cases wanted : k.key r ∈ desired.keys k
    · obtain ⟨d, new, -, equal⟩ := describes.exists_equal distinct old wanted unchanged
      exact asDesired k r ⟨d, new, Validation.references_eq_of_beq equal⟩
    · have dropped : r ∈ c.removed.records k := describes.mem_removed_iff.mpr ⟨old, wanted⟩
      refine (soundLive k r old).mono fun ref refers name held =>
        known _ _ (.inl held) fun gone => ?_
      -- A kind that is referred to is deleted later, so `r` would be gone already.
      have later : [k, ref.2].Sublist Kind.deletionOrder :=
        List.reverse_sublist.mpr (references_earlier refers)
      rw [Phase.mutationsOf_delete] at first
      have complete := Phase.complete_of_begun Kind.nodup_deletionOrder first later gone
      refine stays ?_
      rw [Snapshot.keys, complete]
      exact List.mem_map_of_mem dropped
  · exact asDesired k r ⟨r, new, rfl⟩

/-- At every moment of an apply between sound snapshots the plane holds a sound one. -/
theorem sound_of_apply {s t : Snapshot} {xs front : List (Exchange Plane)}
    {r : Except Error ApplyOutcome} (soundLive : s.Sound) (soundDesired : desired.Sound)
    (trace : Trace (apply desired false).run xs r) (prefixed : front <+: xs)
    (follows : Follows Faulty s front t) : t.Sound := by
  rcases apply_reaches trace prefixed follows with rfl | ⟨c, before, operation, done, compared,
    phases, first, rfl⟩
  · exact soundLive
  · obtain ⟨keyed, -, describes⟩ := Comparison.between_describes compared
    rcases Comparison.stages_cases phases with ⟨rfl, rfl⟩ | ⟨rfl, rfl⟩ | ⟨rfl, rfl⟩
    · exact sound_creating describes soundLive soundDesired first
    · exact sound_updating describes soundLive soundDesired first
    · exact sound_deleting describes keyed.distinct soundLive soundDesired first

/-- What remains of a snapshot when some entities are deleted, one for each time they are named. -/
def Remains (s : Snapshot) (es : List Entity) (t : Snapshot) : Prop :=
  ∀ k, (t.records k).Sublist (s.records k) ∧
    t.keys k = (s.keys k).diff (Keyed.keysOf (Entity.recordsOf k es))

theorem remains_of_follows {s t : Snapshot} {es : List Entity}
    (follows : Follows Faulty s
      (((Phase.each .delete es).map Trial.success).map Trial.exchange) t) : Remains s es t := by
  induction es generalizing s with
  | nil =>
    obtain rfl := follows.nil_inv
    exact fun k => ⟨List.Sublist.refl _, rfl⟩
  | cons e es ih =>
    cases follows with
    | @cons _ m _ _ _ first rest =>
      obtain ⟨l, r⟩ := e
      obtain ⟨sublist, keys, others⟩ := Faulty.deleted first
      intro k
      obtain ⟨kept, left⟩ := ih rest k
      have split : Entity.recordsOf k (⟨l, r⟩ :: es) =
          Entity.recordsOf k [⟨l, r⟩] ++ Entity.recordsOf k es :=
        Entity.recordsOf_append k [⟨l, r⟩] es
      rw [split, left]
      by_cases same : l = k
      · subst same
        rw [Entity.recordsOf_singleton_self, keys]
        exact ⟨kept.trans sublist, (List.diff_cons _ _ _).symm⟩
      · have other : m.records k = s.records k := others k (Ne.symm same)
        rw [Entity.recordsOf_singleton_of_ne same, List.nil_append, Snapshot.keys, other]
        exact ⟨other ▸ kept, rfl⟩

theorem diff_self (keys : List String) : keys.diff keys = [] := by
  induction keys with
  | nil => rfl
  | cons key keys ih => rw [List.diff_cons, List.erase_cons_head, ih]

/-- Deleting in deletion order leaves a sound snapshot sound at every moment. -/
theorem sound_of_remains {s found t : Snapshot} (sound : s.Sound)
    (keys : ∀ k, found.keys k = s.keys k) {es : List Entity}
    (first : es <+: Phase.entitiesIn Kind.deletionOrder found) (remains : Remains s es t) :
    t.Sound := by
  intro k r member
  obtain ⟨sublist, left⟩ := remains k
  refine (sound k r (sublist.subset member)).mono fun ref refers name known => ?_
  rw [(remains ref.2).2]
  by_cases begun : Entity.recordsOf ref.2 es = []
  · rw [begun]
    exact known
  · -- If the kind that is referred to was begun, all of the kind of `r` are gone, and `r` too.
    have later : [k, ref.2].Sublist Kind.deletionOrder :=
      List.reverse_sublist.mpr (references_earlier refers)
    have complete := Phase.complete_of_reached Kind.nodup_deletionOrder first later begun
    have gone : t.keys k = [] := by
      rw [left, complete]
      change (s.keys k).diff (found.keys k) = []
      rw [keys, diff_self]
    have present : k.key r ∈ t.keys k := List.mem_map_of_mem member
    rw [gone] at present
    cases present

/-- At every moment of a destroy of a sound snapshot the plane holds a sound one. -/
theorem sound_of_destroy {s t : Snapshot} {xs front : List (Exchange Plane)}
    {r : Except Error PhaseReport} (sound : s.Sound) (trace : Trace (destroy false).run xs r)
    (prefixed : front <+: xs) (follows : Follows Faulty s front t) : t.Sound := by
  rcases destroy_cases trace with ⟨e, reading⟩ | ⟨ys, zs, found, ts, rfl, reading, trials, same⟩
  · have reads := Live.only_read.trace reading
    obtain ⟨rfl, -⟩ :=
      follows.steady Faulty.unchanged fun x member => reads x (prefixed.subset member)
    exact sound
  have reads := Live.only_read.trace reading
  rcases List.prefix_or_prefix_of_prefix prefixed (List.prefix_append ys zs) with
    early | ⟨rest, rfl⟩
  · obtain ⟨rfl, -⟩ := follows.steady Faulty.unchanged fun x member => reads x (early.subset member)
    exact sound
  obtain ⟨m, surveying, -⟩ := follows.append_inv
  obtain ⟨-, seen⟩ := surveying.steady Faulty.unchanged reads
  have keys := (Live.read_mirrors reading seen).keys
  have shorter := Control.mutations_prefix prefixed
  rw [same] at shorter
  obtain ⟨us, first, equal⟩ := List.prefix_map_iff.mp shorter
  have changing := follows.mutations Faulty.unchanged
  rw [equal] at changing
  obtain ⟨done, inside, tried⟩ := trials.prefix_cases first
  rw [Phase.mutationsOf_delete] at inside
  obtain ⟨es, among, rfl⟩ := List.prefix_map_iff.mp inside
  have deleted : Follows Faulty s
      (((Phase.each .delete es).map Trial.success).map Trial.exchange) t := by
    rcases tried with rfl | ⟨m, source, rfl⟩
    · exact changing
    · rw [List.map_append] at changing
      obtain ⟨u, succeeded, failing⟩ := changing.append_inv
      obtain rfl := Mutation.failed (Follows.singleton_iff.mp failing)
      exact succeeded
  exact sound_of_remains sound keys among (remains_of_follows deleted)

/--
No reference dangles at any moment, whichever calls fail: neither while an apply leads from one
closed snapshot to another, nor while a closed cluster is destroyed. The moments are those before
and after each request, and so after each mutation.
-/
theorem references_stay_closed {W : Type} (machine : Server Machine W) (faults : Faults)
    (plane : LocalPlane) (world : W) (knownTypes : List String)
    (closed : Closed knownTypes plane.state) :
    (∀ desired, Closed knownTypes desired → ∀ n,
      Closed knownTypes ((apply desired false).run.stateAfter
        (faults.impose (LocalPlane.on machine)) (0, plane, world) n).2.1.state) ∧
    ∀ n, Closed knownTypes ((destroy false).run.stateAfter
      (faults.impose (LocalPlane.on machine)) (0, plane, world) n).2.1.state := by
  have sound : plane.state.Sound := closed_iff.mp closed
  constructor
  · intro desired closedDesired n
    obtain ⟨front, prefixed, follows⟩ :=
      faults.stateAfter_faulty machine (apply desired false).run plane world n
    exact closed_iff.mpr (sound_of_apply sound (closed_iff.mp closedDesired)
      (exec_trace _ _ _) prefixed follows)
  · intro n
    obtain ⟨front, prefixed, follows⟩ :=
      faults.stateAfter_faulty machine (destroy false).run plane world n
    exact closed_iff.mpr (sound_of_destroy sound (exec_trace _ _ _) prefixed follows)

/-- A user set takes the place of another, which a parallel environment that cannot be updated
refers to. -/
theorem references_stay_closed_of_fault :
    let live := Snapshot.small "staff" ⟨0x3ff0000000000000⟩
    let desired := Snapshot.small "guests" ⟨0x3ff0000000000000⟩
    let faults : Faults := fun n => if n = 35 then some (.backend "busy") else none
    Closed [] live ∧ Closed [] desired ∧
      ∀ n, Closed [] ((apply desired false).run.stateAfter (faults.impose (LocalPlane.on obliging))
        (0, ⟨some "cluster.json", live⟩, ()) n).2.1.state := by
  have closed : Closed [] (.small "staff" ⟨0x3ff0000000000000⟩) := by decide +kernel
  have closedDesired : Closed [] (.small "guests" ⟨0x3ff0000000000000⟩) := by decide +kernel
  have stays := references_stay_closed obliging
    (fun n => if n = 35 then some (.backend "busy") else none)
    ⟨some "cluster.json", .small "staff" ⟨0x3ff0000000000000⟩⟩ () [] closed
  exact ⟨closed, closedDesired, stays.1 _ closedDesired⟩

end Reconciler

end ClusterConf
