import ClusterConf.Plan.Comparison
import ClusterConf.Proofs.Enactment
set_option autoImplicit false

/-!
What a comparison finds. Main statements: two snapshots can be compared exactly if their keys are
good, and then the three parts hold, kind by kind, the records of one side chosen by their keys and
their versions on the other.
-/
namespace ClusterConf

namespace Difference

open Keyed (key keysOf)

variable {α : Type} [Keyed α]

/-- Keys are not empty and not repeated. -/
def Usable (xs : List α) : Prop := "" ∉ keysOf xs ∧ (keysOf xs).Nodup

theorem checkKeys_eq_ok_iff {xs : List α} {seen : List String} :
    checkKeys xs seen = .ok () ↔ Usable xs ∧ ∀ x ∈ xs, key x ∉ seen := by
  induction xs generalizing seen with
  | nil => simp [checkKeys, Usable]
  | cons x xs ih =>
    simp only [checkKeys]
    by_cases empty : key x = ""
    · simp [empty, Usable]
    · by_cases repeated : key x ∈ seen
      · simp [empty, repeated]
      · have split : Usable (x :: xs) ↔ key x ∉ keysOf xs ∧ Usable xs := by
          have filled : ¬ "" = key x := Ne.symm empty
          simp only [Usable, Keyed.keysOf_cons, List.mem_cons, List.nodup_cons, filled, false_or]
          tauto
        rw [if_neg empty, if_neg (by simpa using repeated), ih, split]
        simp only [List.mem_cons, not_or, forall_eq_or_imp, repeated, not_false_eq_true, true_and,
          Keyed.mem_keysOf, not_exists, not_and]
        constructor
        · rintro ⟨usable, apart⟩
          exact ⟨⟨fun y member => (apart y member).1, usable⟩, fun y member => (apart y member).2⟩
        · rintro ⟨⟨apart, usable⟩, unseen⟩
          exact ⟨usable, fun y member => ⟨apart y member, unseen y member⟩⟩

/-- A record is taken out of an index with distinct keys. -/
theorem removeFirst?_unmatched {old new : List α} (distinct : (keysOf old).Nodup) {x : α}
    (fresh : key x ∉ keysOf new) :
    Keyed.removeFirst? (key x) (old.filter fun y => !hasKey (key y) new) =
      (Keyed.lookup (key x) old).map fun y =>
        (y, old.filter fun y => !hasKey (key y) (new ++ [x])) := by
  have unused : hasKey (key x) new = false := Keyed.hasKey_eq_false_iff.mpr fresh
  induction old with
  | nil => rfl
  | cons y old ih =>
    obtain ⟨head, tail⟩ := List.nodup_cons.mp distinct
    by_cases same : key y = key x
    · -- The rest of the index has no record of this key, so nothing else goes.
      have others : old.filter (fun z => !hasKey (key z) (new ++ [x])) =
          old.filter fun z => !hasKey (key z) new := by
        apply List.filter_congr
        intro z member
        have different : key x ≠ key z := by
          intro equal
          exact head (same.trans equal ▸ Keyed.key_mem_keysOf member)
        simp [hasKey, different]
      have kept : (!hasKey (key y) new) = true := by simp [same, unused]
      have gone : ¬ (!hasKey (key y) (new ++ [x])) = true := by simp [hasKey, same]
      rw [List.filter_cons, if_pos kept, List.filter_cons, if_neg gone, others,
        Keyed.removeFirst?, if_pos same]
      simp [Keyed.lookup, same]
    · have different : key x ≠ key y := Ne.symm same
      have found : Keyed.lookup (key x) (y :: old) = Keyed.lookup (key x) old := by
        simp [Keyed.lookup, same]
      have stays : hasKey (key y) (new ++ [x]) = hasKey (key y) new := by
        simp [hasKey, different]
      rw [found, List.filter_cons, List.filter_cons, stays]
      split
      · rw [Keyed.removeFirst?, if_neg same, ih tail, Option.map_map]
        rfl
      · exact ih tail

/-- After some new records, what they were matched with is used up, and they are where they belong
by all of the old records. -/
theorem foldl_visit [BEq α] {old new : List α} (distinct : (keysOf old).Nodup)
    (distinctNew : (keysOf new).Nodup) :
    new.foldl visit ⟨old, [], []⟩ =
      ⟨old.filter fun y => !hasKey (key y) new, new.filter fun x => !hasKey (key x) old,
        new.filter (isModified old)⟩ := by
  induction new using List.reverseRecOn with
  | nil => simp
  | append_singleton new x ih =>
    rw [Keyed.keysOf_append, List.nodup_append] at distinctNew
    obtain ⟨earlier, -, apart⟩ := distinctNew
    have fresh : key x ∉ keysOf new := fun repeated => apart _ repeated _ (by simp) rfl
    rw [List.foldl_append, ih earlier, List.foldl_cons, List.foldl_nil, visit,
      removeFirst?_unmatched distinct fresh, List.filter_append, List.filter_append]
    cases found : Keyed.lookup (key x) old with
    | none =>
      have absent : hasKey (key x) old = false := by
        rw [Keyed.hasKey_eq_isSome_lookup, found]
        rfl
      have unmodified : isModified old x = false := by
        rw [isModified, show old.find? (fun y => key y == key x) = none from found]
      have unmatched : old.filter (fun y => !hasKey (key y) (new ++ [x])) =
          old.filter fun y => !hasKey (key y) new := by
        apply List.filter_congr
        intro y member
        have different : key x ≠ key y := by
          intro same
          exact Keyed.hasKey_eq_false_iff.mp absent (same ▸ Keyed.key_mem_keysOf member)
        simp [hasKey, different]
      simp [absent, unmodified, unmatched]
    | some y =>
      have present : hasKey (key x) old = true := by
        rw [Keyed.hasKey_eq_isSome_lookup, found]
        rfl
      have modified : isModified old x = !(y == x) := by
        rw [isModified, show old.find? (fun y => key y == key x) = some y from found]
      cases equal : y == x <;> simp [present, modified, equal]

theorem filter_unmatched {old new : List α} :
    (old.filter fun x => hasKey (key x) (old.filter fun y => !hasKey (key y) new)) =
      old.filter fun x => !hasKey (key x) new := by
  apply List.filter_congr
  intro x member
  have kept : keysOf (old.filter fun y => !hasKey (key y) new) =
      (keysOf old).filter fun k => !hasKey k new := Keyed.keysOf_filter (fun k => !hasKey k new) old
  rw [Bool.eq_iff_iff, Keyed.hasKey_iff, kept, List.mem_filter]
  exact and_iff_right (Keyed.key_mem_keysOf member)

theorem between_eq_ok_iff [BEq α] {old new : List α} {d : Difference α} :
    between old new = .ok d ↔
      Usable old ∧ Usable new ∧
        d = ⟨new.filter fun x => !hasKey (key x) old, new.filter (isModified old),
          old.filter fun x => !hasKey (key x) new⟩ := by
  have checked : ∀ xs : List α, checkKeys xs [] = .ok () ↔ Usable xs := fun xs => by
    simp [checkKeys_eq_ok_iff]
  unfold between
  cases oldKeys : checkKeys old [] with
  | error e =>
    have bad : ¬ Usable old := fun usable => by
      rw [(checked old).mpr usable] at oldKeys
      cases oldKeys
    simp [bind, Except.bind, bad]
  | ok u =>
    cases newKeys : checkKeys new [] with
    | error e =>
      have bad : ¬ Usable new := fun usable => by
        rw [(checked new).mpr usable] at newKeys
        cases newKeys
      simp [bind, Except.bind, bad]
    | ok v =>
      have usableOld := (checked old).mp oldKeys
      have usableNew := (checked new).mp newKeys
      rw [foldl_visit usableOld.2 usableNew.2]
      simp only [usableOld, usableNew, true_and, filter_unmatched]
      exact ⟨fun equal => (Except.ok.inj equal).symm, fun equal => congrArg Except.ok equal.symm⟩

theorem isModified_iff [BEq α] {old : List α} {x : α} :
    isModified old x = true ↔
      ∃ y, old.find? (fun y => key y == key x) = some y ∧ (y == x) = false := by
  unfold isModified
  cases found : old.find? fun y => key y == key x with
  | none => simp
  | some y => simp

end Difference

namespace Comparison

open Difference (Usable hasKey isModified)
open Snapshot (WellKeyed)

theorem wellKeyed_iff (s : Snapshot) : s.WellKeyed ↔ ∀ k, Usable (s.records k) :=
  ⟨fun keyed k => ⟨keyed.nonempty k, keyed.distinct k⟩,
    fun usable => ⟨fun k => (usable k).1, fun k => (usable k).2⟩⟩

/-- The new records of a kind whose key is not among the old ones. -/
def addedRecords (old new : Snapshot) (k : Kind) : List k.Record :=
  (new.records k).filter fun r => !hasKey (k.key r) (old.records k)

/-- The new records of a kind of which there is an unequal old version. -/
def modifiedRecords (old new : Snapshot) (k : Kind) : List k.Record :=
  (new.records k).filter (isModified (old.records k))

/-- The old records of a kind whose key is not among the new ones. -/
def removedRecords (old new : Snapshot) (k : Kind) : List k.Record :=
  (old.records k).filter fun r => !hasKey (k.key r) (new.records k)

/-- A comparison tells how two snapshots differ. -/
structure Describes (c : Comparison) (old new : Snapshot) : Prop where
  added : ∀ k, c.added.records k = addedRecords old new k
  modified : ∀ k, c.modified.records k = modifiedRecords old new k
  removed : ∀ k, c.removed.records k = removedRecords old new k
  added_globalConfig : c.added.globalConfig = Option.none
  modified_globalConfig :
    c.modified.globalConfig =
      if old.globalConfig == new.globalConfig then Option.none else new.globalConfig
  removed_globalConfig : c.removed.globalConfig = Option.none
  added_environment : c.added.environment = Option.none
  modified_environment : c.modified.environment = Option.none
  removed_environment : c.removed.environment = Option.none
  globalConfigChanged : c.globalConfigChanged = !(old.globalConfig == new.globalConfig)
  isSame : c.isSame = c.hasNoChanges

theorem addKind_eq_ok_iff {old new : Snapshot} {c d : Comparison} {k : Kind} :
    addKind old new c k = .ok d ↔
      Usable (old.records k) ∧ Usable (new.records k) ∧
        d = { c with
          added := c.added.append k (addedRecords old new k)
          modified := c.modified.append k (modifiedRecords old new k)
          removed := c.removed.append k (removedRecords old new k) } := by
  unfold addKind differenceOf
  cases found : Difference.between (old.records k) (new.records k) with
  | error e =>
    have bad : ¬ (Usable (old.records k) ∧ Usable (new.records k)) := by
      rintro ⟨usableOld, usableNew⟩
      rw [Difference.between_eq_ok_iff.mpr ⟨usableOld, usableNew, rfl⟩] at found
      cases found
    simp only [Except.mapError, bind, Except.bind, reduceCtorEq, false_iff]
    exact fun usable => bad ⟨usable.1, usable.2.1⟩
  | ok difference =>
    obtain ⟨usableOld, usableNew, rfl⟩ := Difference.between_eq_ok_iff.mp found
    simp only [usableOld, usableNew, true_and]
    exact ⟨fun equal => (Except.ok.inj equal).symm, fun equal => congrArg Except.ok equal.symm⟩

/-- What the parts hold after some kinds have been compared. -/
structure Gathered (old new : Snapshot) (before after : Comparison) (kinds : List Kind) : Prop where
  added : ∀ k, after.added.records k =
    before.added.records k ++ if k ∈ kinds then addedRecords old new k else []
  modified : ∀ k, after.modified.records k =
    before.modified.records k ++ if k ∈ kinds then modifiedRecords old new k else []
  removed : ∀ k, after.removed.records k =
    before.removed.records k ++ if k ∈ kinds then removedRecords old new k else []
  globalConfigs : after.added.globalConfig = before.added.globalConfig ∧
    after.modified.globalConfig = before.modified.globalConfig ∧
    after.removed.globalConfig = before.removed.globalConfig
  environments : after.added.environment = before.added.environment ∧
    after.modified.environment = before.modified.environment ∧
    after.removed.environment = before.removed.environment
  globalConfigChanged : after.globalConfigChanged = before.globalConfigChanged

theorem gathered_nil (old new : Snapshot) (c : Comparison) : Gathered old new c c [] := by
  constructor <;> simp

theorem append_gathered {s t : Snapshot} {k : Kind} {rs : (k : Kind) → List k.Record}
    {kinds : List Kind} (fresh : k ∉ kinds)
    (rest : ∀ l, t.records l = (s.append k (rs k)).records l ++ if l ∈ kinds then rs l else [])
    (l : Kind) : t.records l = s.records l ++ if l ∈ k :: kinds then rs l else [] := by
  rw [rest l]
  by_cases same : l = k
  · subst same
    simp [fresh, Snapshot.records_append_self]
  · simp [same, Snapshot.records_append_of_ne _ _ same]

theorem foldlM_gathered {old new : Snapshot} {kinds : List Kind} (once : kinds.Nodup)
    {c d : Comparison} (folded : kinds.foldlM (addKind old new) c = .ok d) :
    (∀ k ∈ kinds, Usable (old.records k) ∧ Usable (new.records k)) ∧
      Gathered old new c d kinds := by
  induction kinds generalizing c with
  | nil =>
    obtain rfl : c = d := Except.ok.inj folded
    exact ⟨by simp, gathered_nil old new c⟩
  | cons k kinds ih =>
    obtain ⟨fresh, onceRest⟩ := List.nodup_cons.mp once
    rw [List.foldlM_cons] at folded
    cases first : addKind old new c k with
    | error e =>
      rw [first] at folded
      cases folded
    | ok next =>
      rw [first] at folded
      obtain ⟨usableOld, usableNew, rfl⟩ := addKind_eq_ok_iff.mp first
      obtain ⟨usable, rest⟩ := ih onceRest folded
      refine ⟨?_, ?_, ?_, ?_, ?_, ?_, ?_⟩
      · intro l member
        rcases List.mem_cons.mp member with rfl | member
        · exact ⟨usableOld, usableNew⟩
        · exact usable l member
      · exact append_gathered fresh rest.added
      · exact append_gathered fresh rest.modified
      · exact append_gathered fresh rest.removed
      · simpa only [Snapshot.globalConfig_append] using rest.globalConfigs
      · simpa only [Snapshot.environment_append] using rest.environments
      · exact rest.globalConfigChanged

theorem foldlM_succeeds {old new : Snapshot} (keyedOld : old.WellKeyed) (keyedNew : new.WellKeyed)
    (kinds : List Kind) (c : Comparison) :
    ∃ d, kinds.foldlM (addKind old new) c = .ok d := by
  induction kinds generalizing c with
  | nil => exact ⟨c, rfl⟩
  | cons k kinds ih =>
    rw [List.foldlM_cons, addKind_eq_ok_iff.mpr
      ⟨(wellKeyed_iff old).mp keyedOld k, (wellKeyed_iff new).mp keyedNew k, rfl⟩]
    exact ih _

theorem describes_of_gathered {old new : Snapshot} {d : Comparison}
    (gathered : Gathered old new none d Kind.creationOrder) :
    let c := addGlobalConfig old new d
    Describes { c with isSame := c.hasNoChanges } old new := by
  obtain ⟨added, modified, removed, globals, environments, changed⟩ := gathered
  have every := Kind.mem_creationOrder
  have blank : ∀ k, (Snapshot.empty.records k : List k.Record) = [] := Snapshot.records_empty
  simp only [every, ↓reduceIte, none, blank, List.nil_append] at added modified removed
  by_cases same : (old.globalConfig == new.globalConfig) = true
  · simp only [addGlobalConfig, same, ↓reduceIte]
    exact {
      added, modified, removed
      added_globalConfig := globals.1
      modified_globalConfig := by rw [same]; exact globals.2.1
      removed_globalConfig := globals.2.2
      added_environment := environments.1
      modified_environment := environments.2.1
      removed_environment := environments.2.2
      globalConfigChanged := by rw [same]; exact changed
      isSame := rfl }
  · simp only [addGlobalConfig, same, Bool.false_eq_true, ↓reduceIte]
    exact {
      added, removed
      modified := fun k => (Snapshot.records_with_globalConfig _ _ k).trans (modified k)
      added_globalConfig := globals.1
      modified_globalConfig := by simp [same]
      removed_globalConfig := globals.2.2
      added_environment := environments.1
      modified_environment := environments.2.1
      removed_environment := environments.2.2
      globalConfigChanged := by simp [same]
      isSame := rfl }

/-- A comparison succeeds only between snapshots with good keys, and tells how they differ. -/
theorem between_describes {old new : Snapshot} {c : Comparison}
    (compared : between old new = .ok c) :
    old.WellKeyed ∧ new.WellKeyed ∧ c.Describes old new := by
  unfold between at compared
  cases folded : Kind.creationOrder.foldlM (addKind old new) none with
  | error e =>
    rw [folded] at compared
    cases compared
  | ok d =>
    rw [folded] at compared
    obtain rfl := Except.ok.inj compared
    obtain ⟨usable, gathered⟩ := foldlM_gathered Kind.nodup_creationOrder folded
    have every := Kind.mem_creationOrder
    refine ⟨(wellKeyed_iff old).mpr fun k => (usable k (every k)).1,
      (wellKeyed_iff new).mpr fun k => (usable k (every k)).2, ?_⟩
    exact describes_of_gathered gathered

theorem between_environment (old new : Snapshot) (environment : Option Environment) :
    between { old with environment } new = between old new := by
  have records : ∀ k, ({ old with environment } : Snapshot).records k = old.records k := by
    intro k
    cases k <;> rfl
  have step : addKind { old with environment } new = addKind old new := by
    funext c k
    simp only [addKind, differenceOf, records]
  unfold between
  rw [step]
  rfl

/-- Snapshots with good keys can be compared. -/
theorem between_succeeds {old new : Snapshot} (keyedOld : old.WellKeyed)
    (keyedNew : new.WellKeyed) : ∃ c, between old new = .ok c := by
  obtain ⟨d, folded⟩ := foldlM_succeeds keyedOld keyedNew Kind.creationOrder none
  unfold between
  rw [folded]
  exact ⟨_, rfl⟩

namespace Describes

variable {c : Comparison} {old new : Snapshot} {k : Kind}

theorem mem_added_iff (describes : c.Describes old new) {r : k.Record} :
    r ∈ c.added.records k ↔ r ∈ new.records k ∧ k.key r ∉ old.keys k := by
  rw [describes.added, addedRecords, List.mem_filter, Bool.not_eq_true',
    Keyed.hasKey_eq_false_iff]
  rfl

theorem mem_removed_iff (describes : c.Describes old new) {r : k.Record} :
    r ∈ c.removed.records k ↔ r ∈ old.records k ∧ k.key r ∉ new.keys k := by
  rw [describes.removed, removedRecords, List.mem_filter, Bool.not_eq_true',
    Keyed.hasKey_eq_false_iff]
  rfl

theorem new_of_modified_globalConfig (describes : c.Describes old new) {g : GlobalConfig}
    (set : c.modified.globalConfig = some g) : new.globalConfig = some g := by
  rw [describes.modified_globalConfig] at set
  split at set
  · cases set
  · exact set

theorem mem_new_of_modified (describes : c.Describes old new) {r : k.Record}
    (changed : r ∈ c.modified.records k) : r ∈ new.records k := by
  rw [describes.modified] at changed
  exact List.mem_of_mem_filter changed

/-- What is modified was there before and did not equal. -/
theorem exists_unequal (describes : c.Describes old new) {r : k.Record}
    (changed : r ∈ c.modified.records k) :
    ∃ y ∈ old.records k, k.key y = k.key r ∧ (y == r) = false := by
  rw [describes.modified] at changed
  obtain ⟨y, found, differs⟩ := Difference.isModified_iff.mp (List.mem_filter.mp changed).2
  have same : Keyed.key y = Keyed.key r := by simpa using List.find?_some found
  exact ⟨y, List.mem_of_find?_eq_some found, same, differs⟩

theorem mem_keys_of_modified (describes : c.Describes old new) {key : String}
    (changed : key ∈ c.modified.keys k) : key ∈ old.keys k := by
  obtain ⟨r, held, rfl⟩ := List.mem_map.mp changed
  obtain ⟨y, version, same, -⟩ := describes.exists_unequal held
  exact same ▸ List.mem_map_of_mem version

theorem mem_keys_removed_iff (describes : c.Describes old new) {key : String} :
    key ∈ c.removed.keys k ↔ key ∈ old.keys k ∧ key ∉ new.keys k := by
  have filtered : c.removed.keys k =
      (old.keys k).filter fun key => !hasKey key (new.records k) := by
    rw [Snapshot.keys_eq_keysOf, describes.removed]
    exact Keyed.keysOf_filter (fun key => !hasKey key (new.records k)) _
  rw [filtered, List.mem_filter, Bool.not_eq_true', Keyed.hasKey_eq_false_iff]
  rfl

/-- A new key is an old one or that of a record that is added. -/
theorem mem_keys_of_new (describes : c.Describes old new) {key : String}
    (wanted : key ∈ new.keys k) : key ∈ old.keys k ∨ key ∈ c.added.keys k := by
  by_cases present : key ∈ old.keys k
  · exact .inl present
  · obtain ⟨r, held, rfl⟩ := List.mem_map.mp wanted
    exact .inr (List.mem_map_of_mem (describes.mem_added_iff.mpr ⟨held, present⟩))

/-- An old record that stays as it is equals its new version. -/
theorem exists_equal (describes : c.Describes old new) (distinct : old.Distinct) {r : k.Record}
    (held : r ∈ old.records k) (wanted : k.key r ∈ new.keys k)
    (unchanged : k.key r ∉ c.modified.keys k) :
    ∃ d ∈ new.records k, k.key d = k.key r ∧ (r == d) = true := by
  obtain ⟨d, version, same⟩ := List.mem_map.mp wanted
  refine ⟨d, version, same, ?_⟩
  by_contra different
  refine unchanged (List.mem_map.mpr ⟨d, ?_, same⟩)
  have found := Keyed.find?_key_eq_some (distinct k) held
  have sameKey : Keyed.key r = Keyed.key d := same.symm
  rw [describes.modified, modifiedRecords, List.mem_filter]
  refine ⟨version, Difference.isModified_iff.mpr ⟨r, ?_, Bool.eq_false_iff.mpr different⟩⟩
  rw [← sameKey]
  exact found

end Describes

end Comparison
end ClusterConf
