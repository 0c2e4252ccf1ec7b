import ClusterConf.Proofs.Convergence
import ClusterConf.Proofs.RecordEquality
import Mathlib.Data.List.Perm.Basic
set_option autoImplicit false

/-!
Comparisons as patches. Main statement: a comparison turns each old collection into the new one and
names no key twice or in vain; turned around it undoes this, and it says whether anything differs.
-/
namespace ClusterConf

open Keyed (key keysOf enact latest lookup)
open Difference (hasKey)

namespace Keyed

variable {α : Type} [Keyed α] [BEq α]

/-- Collections that hold equal items under the same keys. -/
structure SameMap (xs ys : List α) : Prop where
  left : (keysOf xs).Nodup
  right : (keysOf ys).Nodup
  lookup : ∀ k, (lookup k xs == lookup k ys) = true

/-- Some order of the items of `xs` equals `ys`. -/
def Rearranges (xs ys : List α) : Prop := ∃ zs : List α, zs.Perm xs ∧ (zs == ys) = true

theorem sameMap_of_forall {xs ys : List α} (left : (keysOf xs).Nodup) (right : (keysOf ys).Nodup)
    (keys : ∀ k, k ∈ keysOf xs ↔ k ∈ keysOf ys)
    (equal : ∀ x ∈ xs, ∀ y ∈ ys, key x = key y → (x == y) = true) : SameMap xs ys := by
  refine ⟨left, right, fun k => ?_⟩
  by_cases present : k ∈ keysOf xs
  · obtain ⟨x, held, rfl⟩ := mem_keysOf.mp present
    obtain ⟨y, version, same⟩ := mem_keysOf.mp ((keys _).mp present)
    have found := lookup_eq_some right version
    rw [same] at found
    rw [lookup_eq_some left held, found]
    exact equal x held y version same.symm
  · have absent : k ∉ keysOf ys := fun inside => present ((keys k).mpr inside)
    rw [lookup_eq_none_iff.mpr present, lookup_eq_none_iff.mpr absent]
    rfl

/-- Items with equal versions on the other side may be put in the order of that side. -/
theorem rearranges_of_forall {xs ys : List α} (left : (keysOf xs).Nodup)
    (right : (keysOf ys).Nodup) (keys : ∀ k, k ∈ keysOf ys ↔ k ∈ keysOf xs)
    (equal : ∀ x ∈ xs, ∀ y ∈ ys, key x = key y → (x == y) = true) : Rearranges xs ys := by
  have version : ∀ y ∈ ys, latest xs y ∈ xs := by
    intro y member
    rcases latest_mem_or xs y with inside | ⟨absent, -⟩
    · exact inside
    · exact absurd ((keys _).mp (key_mem_keysOf member)) absent
  refine ⟨ys.map (latest xs), ?_, ?_⟩
  · have once : (keysOf (ys.map (latest xs))).Nodup := by rwa [keysOf_map_latest]
    refine (List.perm_ext_iff_of_nodup once.of_map left.of_map).mpr fun x => ⟨?_, ?_⟩
    · intro chosen
      obtain ⟨y, member, rfl⟩ := List.mem_map.mp chosen
      exact version y member
    · intro member
      obtain ⟨y, inside, same⟩ := mem_keysOf.mp ((keys _).mpr (key_mem_keysOf member))
      refine List.mem_map.mpr ⟨y, inside, ?_⟩
      exact eq_of_key_eq left (version y inside) member ((key_latest xs y).trans same)
  · clear right keys
    induction ys with
    | nil => rfl
    | cons y ys ih =>
      have rest := ih (fun x held z inside => equal x held z (List.mem_cons_of_mem y inside))
        fun z inside => version z (List.mem_cons_of_mem y inside)
      have head := equal _ (version y List.mem_cons_self) y List.mem_cons_self (key_latest xs y)
      rw [List.map_cons, List.cons_beq_cons, head, rest]
      rfl

omit [BEq α] in
/-- Deletions and updates may change places, as an update keeps the key. -/
theorem enact_delete_update (removed versions xs : List α) :
    enact .delete removed (enact .update versions xs) =
      enact .update versions (enact .delete removed xs) := by
  simp only [enact, List.filter_map]
  refine congrArg _ (List.filter_congr fun x _ => ?_)
  rw [Function.comp_apply, key_latest]

end Keyed

namespace Comparison

open Keyed (SameMap Rearranges)

variable {c : Comparison} {old new : Snapshot} {k : Kind}

/-- The differences of one kind that a comparison holds. -/
def difference (c : Comparison) (k : Kind) : Difference k.Record :=
  ⟨c.added.records k, c.modified.records k, c.removed.records k⟩

/-- What a comparison makes of a collection: what is removed goes, what is modified takes the place
of its old version, and what is added comes at the end. -/
def patch (c : Comparison) (k : Kind) (rs : List k.Record) : List k.Record :=
  enact .create (c.added.records k)
    (enact .update (c.modified.records k) (enact .delete (c.removed.records k) rs))

/-- No key is in two parts of a comparison, and none is there that has equal records on both sides.
-/
structure Apart (c : Comparison) (old new : Snapshot) (k : Kind) : Prop where
  added_modified : (c.added.keys k).Disjoint (c.modified.keys k)
  added_removed : (c.added.keys k).Disjoint (c.removed.keys k)
  modified_removed : (c.modified.keys k).Disjoint (c.removed.keys k)
  unequal : ∀ r ∈ old.records k, ∀ d ∈ new.records k, k.key r = k.key d → (r == d) = true →
    k.key r ∉ c.added.keys k ∧ k.key r ∉ c.modified.keys k ∧ k.key r ∉ c.removed.keys k

namespace Describes

/-- The differences of a kind come from its two collections alone. -/
theorem difference_eq (describes : c.Describes old new) (keyedOld : old.WellKeyed)
    (keyedNew : new.WellKeyed) :
    Difference.between (old.records k) (new.records k) = .ok (c.difference k) := by
  refine Difference.between_eq_ok_iff.mpr
    ⟨(wellKeyed_iff old).mp keyedOld k, (wellKeyed_iff new).mp keyedNew k, ?_⟩
  rw [difference, describes.added, describes.modified, describes.removed]
  rfl

/-- A patch and the phases of an apply make the same of a collection: deletions and updates may
change places. -/
theorem patch_eq (describes : c.Describes old new) :
    c.patch k (old.records k) = (c.perform stages old).records k := by
  have swap := Keyed.enact_delete_update (c.removed.records k) (c.modified.records k)
    (old.records k)
  rw [records_perform describes, survivors, Snapshot.records_enact, Snapshot.records_enact, swap]
  rfl

theorem mem_keys_added_iff (describes : c.Describes old new) {key : String} :
    key ∈ c.added.keys k ↔ key ∈ new.keys k ∧ key ∉ old.keys k := by
  constructor
  · intro member
    obtain ⟨r, added, rfl⟩ := List.mem_map.mp member
    obtain ⟨held, absent⟩ := describes.mem_added_iff.mp added
    exact ⟨List.mem_map_of_mem held, absent⟩
  · rintro ⟨wanted, absent⟩
    exact (describes.mem_keys_of_new wanted).resolve_left absent

theorem mem_keys_modified_iff (describes : c.Describes old new) (distinct : old.Distinct)
    {key : String} :
    key ∈ c.modified.keys k ↔ ∃ r ∈ old.records k, ∃ d ∈ new.records k,
      k.key r = key ∧ k.key d = key ∧ (r == d) = false := by
  constructor
  · intro member
    obtain ⟨d, modified, rfl⟩ := List.mem_map.mp member
    obtain ⟨r, held, same, differs⟩ := describes.exists_unequal modified
    exact ⟨r, held, d, describes.mem_new_of_modified modified, same, rfl, differs⟩
  · rintro ⟨r, held, d, wanted, rfl, same, differs⟩
    have found := Keyed.find?_key_eq_some (distinct k) held
    have sameKey : Keyed.key r = Keyed.key d := same.symm
    rw [sameKey] at found
    refine List.mem_map.mpr ⟨d, ?_, same⟩
    rw [describes.modified, modifiedRecords, List.mem_filter]
    exact ⟨wanted, Difference.isModified_iff.mpr ⟨r, found, differs⟩⟩

theorem apart (describes : c.Describes old new) (distinctOld : old.Distinct)
    (distinctNew : new.Distinct) : c.Apart old new k where
  added_modified := by
    intro key added modified
    exact (describes.mem_keys_added_iff.mp added).2 (describes.mem_keys_of_modified modified)
  added_removed := by
    intro key added removed
    exact (describes.mem_keys_added_iff.mp added).2 (describes.mem_keys_removed_iff.mp removed).1
  modified_removed := by
    intro key modified removed
    obtain ⟨-, -, d, wanted, -, rfl, -⟩ := (describes.mem_keys_modified_iff distinctOld).mp modified
    exact (describes.mem_keys_removed_iff.mp removed).2 (List.mem_map_of_mem wanted)
  unequal := by
    intro r held d wanted same equal
    refine ⟨?_, ?_, ?_⟩
    · intro added
      exact (describes.mem_keys_added_iff.mp added).2 (List.mem_map_of_mem held)
    · intro modified
      obtain ⟨r', held', d', wanted', sameOld, sameNew, differs⟩ :=
        (describes.mem_keys_modified_iff distinctOld).mp modified
      obtain rfl := Keyed.eq_of_key_eq (distinctOld k) held' held sameOld
      obtain rfl := Keyed.eq_of_key_eq (distinctNew k) wanted' wanted (sameNew.trans same)
      rw [equal] at differs
      cases differs
    · intro removed
      refine (describes.mem_keys_removed_iff.mp removed).2 ?_
      rw [same]
      exact List.mem_map_of_mem wanted

/-- The patched collection and the new one are the same map. -/
theorem patched (describes : c.Describes old new) (keyedOld : old.WellKeyed)
    (keyedNew : new.WellKeyed) (numbers : new.NoNaN) :
    SameMap (c.patch k (old.records k)) (new.records k) := by
  have converges := converges_perform describes keyedOld.distinct numbers
  rw [describes.patch_eq]
  exact Keyed.sameMap_of_forall ((converges.settles.wellKeyed keyedOld keyedNew).distinct k)
    (keyedNew.distinct k) (fun _ => converges.settles.mem_keys_iff)
    fun r member d version same => converges.equal keyedNew.distinct numbers member version same

/-- Nothing differs if no part names a record and the global configurations are the same. -/
theorem isSame_iff (describes : c.Describes old new) :
    c.isSame = true ↔ old.globalConfig = new.globalConfig ∧
      ∀ k, c.added.records k = [] ∧ c.modified.records k = [] ∧ c.removed.records k = [] := by
  have unchanged : c.globalConfigChanged = false ↔ old.globalConfig = new.globalConfig := by
    rw [describes.globalConfigChanged, Bool.not_eq_false', beq_iff_eq]
  simp only [describes.isSame, hasNoChanges, Bool.and_eq_true, Bool.not_eq_true', unchanged,
    Snapshot.isEmpty_iff, describes.added_globalConfig, describes.removed_globalConfig, true_and]
  constructor
  · rintro ⟨⟨⟨same, added⟩, -, modified⟩, removed⟩
    exact ⟨same, fun k => ⟨added k, modified k, removed k⟩⟩
  · rintro ⟨same, none⟩
    have unset : c.modified.globalConfig = Option.none := by
      rw [describes.modified_globalConfig, same, beq_self_eq_true, if_pos rfl]
    exact ⟨⟨⟨same, fun k => (none k).1⟩, unset, fun k => (none k).2.1⟩, fun k => (none k).2.2⟩

/-- No record of a kind differs exactly if one collection is the other in some order. -/
theorem rearranges_iff (describes : c.Describes old new) (distinctOld : old.Distinct)
    (distinctNew : new.Distinct) :
    Rearranges (old.records k) (new.records k) ↔
      c.added.records k = [] ∧ c.modified.records k = [] ∧ c.removed.records k = [] := by
  simp only [List.eq_nil_iff_forall_not_mem]
  constructor
  · rintro ⟨zs, order, equal⟩
    have newKeys : ∀ d ∈ new.records k, k.key d ∈ old.keys k := by
      intro d wanted
      obtain ⟨r, among, same⟩ := exists_beq_of_mem equal wanted
      exact List.mem_map.mpr ⟨r, order.mem_iff.mp among, Kind.key_eq_of_beq same⟩
    refine ⟨fun d added => ?_, fun d modified => ?_, fun r removed => ?_⟩
    · obtain ⟨wanted, absent⟩ := describes.mem_added_iff.mp added
      exact absent (newKeys d wanted)
    · obtain ⟨r, among, same⟩ := exists_beq_of_mem equal (describes.mem_new_of_modified modified)
      obtain ⟨y, held, sameKey, differs⟩ := describes.exists_unequal modified
      obtain rfl := Keyed.eq_of_key_eq (distinctOld k) (order.mem_iff.mp among) held
        ((Kind.key_eq_of_beq same).trans sameKey.symm)
      rw [same] at differs
      cases differs
    · obtain ⟨held, gone⟩ := describes.mem_removed_iff.mp removed
      have turned : (new.records k == zs) = true :=
        (beq_comm_of_forall Kind.beq_comm _ _).trans equal
      obtain ⟨d, wanted, same⟩ := exists_beq_of_mem turned (order.mem_iff.mpr held)
      exact gone (List.mem_map.mpr ⟨d, wanted, Kind.key_eq_of_beq same⟩)
  · rintro ⟨added, modified, removed⟩
    have unmodified : ∀ key, key ∉ c.modified.keys k := by
      intro key member
      obtain ⟨d, inside, -⟩ := List.mem_map.mp member
      exact modified d inside
    refine Keyed.rearranges_of_forall (distinctOld k) (distinctNew k) (fun key => ⟨?_, ?_⟩) ?_
    · intro wanted
      refine (describes.mem_keys_of_new wanted).resolve_right fun member => ?_
      obtain ⟨d, inside, -⟩ := List.mem_map.mp member
      exact added d inside
    · intro present
      obtain ⟨r, held, rfl⟩ := List.mem_map.mp present
      by_contra gone
      exact removed r (describes.mem_removed_iff.mpr ⟨held, gone⟩)
    · intro r held d wanted same
      by_contra differs
      refine unmodified (k.key r) ((describes.mem_keys_modified_iff distinctOld).mpr ?_)
      exact ⟨r, held, d, wanted, rfl, same.symm, Bool.eq_false_iff.mpr differs⟩

end Describes

theorem between_environments (old new : Snapshot) (before after : Option Environment) :
    between { old with environment := before } { new with environment := after } =
      between old new := by
  have records : ∀ k, ({ new with environment := after } : Snapshot).records k = new.records k := by
    intro k
    cases k <;> rfl
  have step : addKind old { new with environment := after } = addKind old new := by
    funext d k
    simp only [addKind, differenceOf, records]
  rw [between_environment]
  unfold between
  rw [step]
  rfl

/--
Snapshots with good keys can be compared, from either side. The comparison holds for each kind what
differs between its two collections: patched with it the old one is the new one as a map, and no key
is named twice or in vain. Turned around it adds what was removed and modifies the same keys. It
says whether anything differs, and it holds a global configuration exactly if a new one is to be
set.
-/
theorem between_patches {old new : Snapshot} (keyedOld : old.WellKeyed)
    (keyedNew : new.WellKeyed) (numbers : new.NoNaN) :
    ∃ c back, between old new = .ok c ∧ between new old = .ok back ∧
      (∀ k, Difference.between (old.records k) (new.records k) = .ok (c.difference k) ∧
        SameMap (c.patch k (old.records k)) (new.records k) ∧ c.Apart old new k ∧
        back.added.records k = c.removed.records k ∧
        back.removed.records k = c.added.records k ∧
        ∀ key, key ∈ back.modified.keys k ↔ key ∈ c.modified.keys k) ∧
      (c.isSame = true ↔ (∀ k, Rearranges (old.records k) (new.records k)) ∧
        old.globalConfig = new.globalConfig) ∧
      (∀ g, c.modified.globalConfig = some g ↔
        old.globalConfig ≠ new.globalConfig ∧ new.globalConfig = some g) ∧
      ∀ before after, between { old with environment := before }
        { new with environment := after } = .ok c := by
  obtain ⟨c, compared⟩ := between_succeeds keyedOld keyedNew
  obtain ⟨back, turned⟩ := between_succeeds keyedNew keyedOld
  obtain ⟨-, -, describes⟩ := between_describes compared
  obtain ⟨-, -, reverses⟩ := between_describes turned
  refine ⟨c, back, compared, turned, fun k => ⟨describes.difference_eq keyedOld keyedNew,
    describes.patched keyedOld keyedNew numbers,
    describes.apart keyedOld.distinct keyedNew.distinct, ?_, ?_, ?_⟩, ?_, ?_, ?_⟩
  · rw [reverses.added, describes.removed]
    rfl
  · rw [reverses.removed, describes.added]
    rfl
  · intro key
    rw [reverses.mem_keys_modified_iff keyedNew.distinct,
      describes.mem_keys_modified_iff keyedOld.distinct]
    constructor
    · rintro ⟨d, wanted, r, held, sameNew, sameOld, differs⟩
      exact ⟨r, held, d, wanted, sameOld, sameNew, (Kind.beq_comm r d).trans differs⟩
    · rintro ⟨r, held, d, wanted, sameOld, sameNew, differs⟩
      exact ⟨d, wanted, r, held, sameNew, sameOld, (Kind.beq_comm d r).trans differs⟩
  · rw [describes.isSame_iff, and_comm]
    exact and_congr_left fun _ => forall_congr' fun k =>
      (describes.rearranges_iff keyedOld.distinct keyedNew.distinct).symm
  · intro g
    rw [describes.modified_globalConfig]
    by_cases same : old.globalConfig = new.globalConfig
    · simp [same]
    · simp [same]
  · intro before after
    rw [between_environments, compared]

/-- A host is changed, a user set takes the place of another and a global configuration is set. -/
theorem between_patches_of_small :
    let old := Snapshot.small "staff" ⟨0x3ff0000000000000⟩
    let new := { Snapshot.small "guests" ⟨0x4000000000000000⟩ with globalConfig := some {} }
    old.WellKeyed ∧ new.WellKeyed ∧ new.NoNaN ∧ ∃ c, between old new = .ok c ∧
      (∀ k, SameMap (c.patch k (old.records k)) (new.records k) ∧ c.Apart old new k) ∧
      c.modified.globalConfig = some {} := by
  intro old new
  have keyedOld : old.WellKeyed := by decide
  have keyedNew : new.WellKeyed := by decide
  have numbers : new.NoNaN := by decide
  obtain ⟨c, back, compared, -, kinds, -, global, -⟩ :=
    between_patches keyedOld keyedNew numbers
  refine ⟨keyedOld, keyedNew, numbers, c, compared, fun k => ⟨(kinds k).2.1, (kinds k).2.2.1⟩, ?_⟩
  exact (global {}).mpr ⟨by decide, rfl⟩

end Comparison

end ClusterConf
