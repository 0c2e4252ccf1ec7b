import ClusterConf.Proofs.Comparability
set_option autoImplicit false

/-!
Differences between two lists of keyed records. Main statement: they cannot be told exactly if a
key is empty or repeated, and the first bad position is blamed; otherwise each record is added,
modified, removed or none of these by the keys alone and by its own equality, whatever laws that
has.
-/
namespace ClusterConf.Difference

open Keyed (key keysOf keyField)

variable {α : Type} [Keyed α]

/-! ## Bad keys -/

theorem checkKeys_append {before : List α} (usable : Usable before) (rest : List α)
    {seen : List String} (unseen : ∀ x ∈ before, key x ∉ seen) :
    checkKeys (before ++ rest) seen = checkKeys rest ((keysOf before).reverse ++ seen) := by
  induction before generalizing seen with
  | nil => rfl
  | cons x before ih =>
    obtain ⟨filled, distinct⟩ := usable
    rw [Keyed.keysOf_cons, List.mem_cons, not_or] at filled
    rw [Keyed.keysOf_cons, List.nodup_cons] at distinct
    obtain ⟨first, others⟩ := List.forall_mem_cons.mp unseen
    have later : ∀ y ∈ before, key y ∉ key x :: seen := by
      intro y member
      rw [List.mem_cons, not_or]
      refine ⟨fun same => distinct.1 ?_, others y member⟩
      rw [← same]
      exact Keyed.key_mem_keysOf member
    have some : ¬ key x = "" := Ne.symm filled.1
    rw [List.cons_append, checkKeys, if_neg some, if_neg (by simpa using first),
      ih ⟨filled.2, distinct.2⟩ later, Keyed.keysOf_cons, List.reverse_cons, List.append_assoc,
      List.singleton_append]

/-- The error of a list is that of its first bad position. -/
theorem checkKeys_eq_error_iff {xs : List α} {e : KeyError} :
    checkKeys xs [] = .error e ↔ Rejects xs e := by
  constructor
  · exact checkKeys_rejects
  · rintro ⟨before, x, after, rfl, usable, fault⟩
    rw [checkKeys_append usable _ fun _ _ => List.not_mem_nil, List.append_nil, checkKeys]
    rcases fault with ⟨empty, rfl⟩ | ⟨filled, repeated, rfl⟩
    · rw [if_pos empty]
    · rw [if_neg filled, if_pos (by simpa using repeated)]

theorem between_eq_error_iff [BEq α] {old new : List α} {e : KeyError} :
    between old new = .error e ↔ Rejects old e ∨ Usable old ∧ Rejects new e := by
  constructor
  · exact between_rejects
  · rintro (rejects | ⟨usable, rejects⟩)
    · rw [between, checkKeys_eq_error_iff.mpr rejects]
      rfl
    · have passes : checkKeys old [] = .ok () :=
        checkKeys_eq_ok_iff.mpr ⟨usable, fun _ _ => List.not_mem_nil⟩
      rw [between, passes, checkKeys_eq_error_iff.mpr rejects]
      rfl

theorem not_usable_iff {old new : List α} : ¬ (Usable old ∧ Usable new) ↔
    (∃ x ∈ old ++ new, key x = "") ∨ ¬ (keysOf old).Nodup ∨ ¬ (keysOf new).Nodup := by
  rw [← Keyed.mem_keysOf, Keyed.keysOf_append, List.mem_append]
  unfold Usable
  tauto

/-! ## Good keys -/

section Classes

variable [BEq α] {old new : List α}

/-- What a difference holds. Each part is in the order of the list that it is taken from, and a key
belongs to at most one of them. -/
structure Classifies (old new : List α) (d : Difference α) : Prop where
  added : d.added = new.filter fun x => key x ∉ keysOf old
  modified : d.modified = new.filter fun x => old.any fun y => key y == key x && !(y == x)
  removed : d.removed = old.filter fun x => key x ∉ keysOf new
  addedModified : (keysOf d.added).Disjoint (keysOf d.modified)
  addedRemoved : (keysOf d.added).Disjoint (keysOf d.removed)
  modifiedRemoved : (keysOf d.modified).Disjoint (keysOf d.removed)
  unchanged : ∀ k ∈ keysOf old ++ keysOf new,
    (k ∉ keysOf d.added ∧ k ∉ keysOf d.modified ∧ k ∉ keysOf d.removed) ↔
      ∃ y ∈ old, ∃ x ∈ new, key y = k ∧ key x = k ∧ (y == x) = true

/-- With distinct keys the old version of a record is the only one. -/
theorem isModified_eq_any (distinct : (keysOf old).Nodup) (x : α) :
    isModified old x = old.any fun y => key y == key x && !(y == x) := by
  rw [Bool.eq_iff_iff, isModified_iff, List.any_eq_true]
  constructor
  · rintro ⟨y, found, differs⟩
    have same : (key y == key x) = true := by simpa using List.find?_some found
    refine ⟨y, List.mem_of_find?_eq_some found, ?_⟩
    rw [same, differs]
    rfl
  · rintro ⟨y, member, version⟩
    simp only [Bool.and_eq_true, beq_iff_eq, Bool.not_eq_true'] at version
    obtain ⟨same, differs⟩ := version
    refine ⟨y, ?_, differs⟩
    rw [← same]
    exact Keyed.find?_key_eq_some distinct member

omit [BEq α] in
theorem mem_keysOf_absent {xs ys : List α} {k : String} :
    k ∈ keysOf (xs.filter fun x => key x ∉ keysOf ys) ↔ k ∈ keysOf xs ∧ k ∉ keysOf ys := by
  have keys := Keyed.keysOf_filter (fun k => decide (k ∉ keysOf ys)) xs
  rw [keys, List.mem_filter, decide_eq_true_iff]

theorem mem_keysOf_unequal {k : String} :
    k ∈ keysOf (new.filter fun x => old.any fun y => key y == key x && !(y == x)) ↔
      ∃ y ∈ old, ∃ x ∈ new, key y = k ∧ key x = k ∧ (y == x) = false := by
  simp only [Keyed.mem_keysOf, List.mem_filter, List.any_eq_true, Bool.and_eq_true, beq_iff_eq,
    Bool.not_eq_true']
  constructor
  · rintro ⟨x, ⟨inNew, y, inOld, same, differs⟩, rfl⟩
    exact ⟨y, inOld, x, inNew, same, rfl, differs⟩
  · rintro ⟨y, inOld, x, inNew, rfl, same, differs⟩
    exact ⟨x, ⟨inNew, y, inOld, same.symm, differs⟩, same⟩

theorem classifies_of_usable (usableOld : Usable old) (usableNew : Usable new) :
    Classifies old new ⟨new.filter fun x => key x ∉ keysOf old,
      new.filter fun x => old.any fun y => key y == key x && !(y == x),
      old.filter fun x => key x ∉ keysOf new⟩ where
  added := rfl
  modified := rfl
  removed := rfl
  addedModified k isAdded isModified := by
    obtain ⟨y, inOld, -, -, rfl, -⟩ := mem_keysOf_unequal.mp isModified
    exact (mem_keysOf_absent.mp isAdded).2 (Keyed.key_mem_keysOf inOld)
  addedRemoved k isAdded isRemoved :=
    (mem_keysOf_absent.mp isRemoved).2 (mem_keysOf_absent.mp isAdded).1
  modifiedRemoved k isModified isRemoved := by
    obtain ⟨-, -, x, inNew, -, rfl, -⟩ := mem_keysOf_unequal.mp isModified
    exact (mem_keysOf_absent.mp isRemoved).2 (Keyed.key_mem_keysOf inNew)
  unchanged k known := by
    rw [mem_keysOf_absent, mem_keysOf_unequal, mem_keysOf_absent]
    constructor
    · rintro ⟨notAdded, notModified, notRemoved⟩
      -- The key is known, and neither side lacks it.
      have inBoth : k ∈ keysOf old ∧ k ∈ keysOf new := by
        rcases List.mem_append.mp known with inOld | inNew
        · exact ⟨inOld, by_contra fun absent => notRemoved ⟨inOld, absent⟩⟩
        · exact ⟨by_contra fun absent => notAdded ⟨inNew, absent⟩, inNew⟩
      obtain ⟨y, inOld, keyOld⟩ := Keyed.mem_keysOf.mp inBoth.1
      obtain ⟨x, inNew, keyNew⟩ := Keyed.mem_keysOf.mp inBoth.2
      refine ⟨y, inOld, x, inNew, keyOld, keyNew, ?_⟩
      cases equal : y == x with
      | true => rfl
      | false => exact absurd ⟨y, inOld, x, inNew, keyOld, keyNew, equal⟩ notModified
    · rintro ⟨y, inOld, x, inNew, rfl, same, equal⟩
      refine ⟨fun lacks => lacks.2 (Keyed.key_mem_keysOf inOld), ?_, fun lacks => lacks.2 ?_⟩
      · rintro ⟨y', inOld', x', inNew', sameOld, sameNew, differs⟩
        obtain rfl := Keyed.eq_of_key_eq usableOld.2 inOld' inOld sameOld
        obtain rfl := Keyed.eq_of_key_eq usableNew.2 inNew' inNew (sameNew.trans same.symm)
        rw [equal] at differs
        cases differs
      · rw [← same]
        exact Keyed.key_mem_keysOf inNew

theorem between_eq_ok_iff_classifies {d : Difference α} :
    between old new = .ok d ↔ Usable old ∧ Usable new ∧ Classifies old new d := by
  have absent (ys : List α) :
      (fun x : α => !hasKey (key x) ys) = fun x => decide (key x ∉ keysOf ys) := by
    funext x
    rw [Bool.eq_iff_iff, Bool.not_eq_true', Keyed.hasKey_eq_false_iff, decide_eq_true_iff]
  rw [between_eq_ok_iff, absent old, absent new]
  constructor
  · rintro ⟨usableOld, usableNew, rfl⟩
    rw [funext (isModified_eq_any usableOld.2)]
    exact ⟨usableOld, usableNew, classifies_of_usable usableOld usableNew⟩
  · rintro ⟨usableOld, usableNew, classifies⟩
    refine ⟨usableOld, usableNew, ?_⟩
    rw [funext (isModified_eq_any usableOld.2), ← classifies.added, ← classifies.modified,
      ← classifies.removed]

/--
Two lists of records cannot be compared exactly if a key in them is empty or repeated. The error is
that of the first bad position, all of the old list being looked at before the new one. Otherwise
the added, modified and removed records are told apart by key, and a key is in none of the three
just if both lists have it with equal records.
-/
theorem between_classifies (old new : List α) :
    ((∃ e, between old new = .error e) ↔
        (∃ x ∈ old ++ new, key x = "") ∨ ¬ (keysOf old).Nodup ∨ ¬ (keysOf new).Nodup) ∧
      (∀ e, between old new = .error e ↔ Rejects old e ∨ Usable old ∧ Rejects new e) ∧
      ∀ d, between old new = .ok d ↔ Usable old ∧ Usable new ∧ Classifies old new d := by
  refine ⟨?_, fun e => between_eq_error_iff, fun d => between_eq_ok_iff_classifies⟩
  rw [← not_usable_iff]
  cases compared : between old new with
  | error e =>
    refine iff_of_true ⟨e, rfl⟩ fun usable => ?_
    rcases between_rejects compared with rejects | ⟨-, rejects⟩
    · exact rejects.not_usable usable.1
    · exact rejects.not_usable usable.2
  | ok d =>
    obtain ⟨usableOld, usableNew, -⟩ := between_eq_ok_iff.mp compared
    exact iff_of_false (by rintro ⟨e, impossible⟩; cases impossible)
      (not_not.mpr ⟨usableOld, usableNew⟩)

end Classes

/-- A host whose scaling is no number is modified although nothing was changed, since it does not
equal itself. -/
theorem between_classifies_of_nan : ∃ (k : Kind) (x : k.Record),
    between [x] [x] = .ok ⟨[], [x], []⟩ ∧ Classifies [x] [x] ⟨[], [x], []⟩ := by
  have differs : ∃ (k : Kind) (x : k.Record), between [x] [x] = .ok ⟨[], [x], []⟩ :=
    ⟨.execHost,
      { name := "n"
        loadScaling := ⟨[("load_avg", ⟨0x7ff8000000000000⟩)], List.pairwise_singleton _ _⟩ }, rfl⟩
  obtain ⟨k, x, compared⟩ := differs
  obtain ⟨-, -, classifies⟩ := ((between_classifies [x] [x]).2.2 _).mp compared
  exact ⟨k, x, compared, classifies⟩

end ClusterConf.Difference
