import ClusterConf.Cluster.Snapshot
import ClusterConf.Plan.Difference
import Mathlib.Data.List.Nodup
set_option autoImplicit false

/-!
Collections as lists of keyed items. Main statements: replacing and removing the first item of a
key is a map and a filter when no key is there twice, and the keys that result are known in any
case.
-/
namespace ClusterConf.Keyed

variable {α : Type} [Keyed α]

open Difference (hasKey)

def keysOf (xs : List α) : List String := xs.map key

@[simp] theorem keysOf_nil : keysOf ([] : List α) = [] := rfl

@[simp] theorem keysOf_cons (x : α) (xs : List α) : keysOf (x :: xs) = key x :: keysOf xs := rfl

@[simp] theorem keysOf_append (xs ys : List α) : keysOf (xs ++ ys) = keysOf xs ++ keysOf ys :=
  List.map_append

theorem mem_keysOf {k : String} {xs : List α} : k ∈ keysOf xs ↔ ∃ x ∈ xs, key x = k :=
  List.mem_map

theorem key_mem_keysOf {x : α} {xs : List α} (member : x ∈ xs) : key x ∈ keysOf xs :=
  List.mem_map_of_mem member

theorem keysOf_filter_sublist (p : α → Bool) (xs : List α) :
    (keysOf (xs.filter p)).Sublist (keysOf xs) :=
  List.filter_sublist.map key

theorem keysOf_filter (p : String → Bool) (xs : List α) :
    keysOf (xs.filter fun x => p (key x)) = (keysOf xs).filter p :=
  List.filter_map.symm

theorem hasKey_iff {k : String} {xs : List α} : hasKey k xs = true ↔ k ∈ keysOf xs := by
  simp only [hasKey, List.any_eq_true, beq_iff_eq, mem_keysOf]

@[simp] theorem hasKey_nil (k : String) : hasKey k ([] : List α) = false := rfl

theorem hasKey_append (k : String) (xs ys : List α) :
    hasKey k (xs ++ ys) = (hasKey k xs || hasKey k ys) := List.any_append

theorem hasKey_eq_false_iff {k : String} {xs : List α} : hasKey k xs = false ↔ k ∉ keysOf xs := by
  rw [← hasKey_iff, Bool.not_eq_true]

theorem find?_key_eq_some {xs : List α} (distinct : (keysOf xs).Nodup) {x : α} (member : x ∈ xs) :
    xs.find? (fun y => key y == key x) = some x := by
  induction xs with
  | nil => cases member
  | cons y ys ih =>
    have head : key y ∉ keysOf ys := (List.nodup_cons.mp distinct).1
    rcases List.mem_cons.mp member with rfl | inside
    · rw [List.find?_cons_of_pos (by simp)]
    · have different : key y ≠ key x := fun same => head (same ▸ key_mem_keysOf inside)
      rw [List.find?_cons_of_neg (by simpa using different)]
      exact ih (List.nodup_cons.mp distinct).2 inside

theorem find?_key_eq_none_iff {xs : List α} {k : String} :
    xs.find? (fun y => key y == k) = none ↔ k ∉ keysOf xs := by
  simp only [List.find?_eq_none, beq_iff_eq, mem_keysOf, not_exists, not_and]

def lookup (k : String) (xs : List α) : Option α := xs.find? fun x => key x == k

theorem lookup_eq_some {xs : List α} (distinct : (keysOf xs).Nodup) {x : α} (member : x ∈ xs) :
    lookup (key x) xs = some x := find?_key_eq_some distinct member

theorem lookup_eq_none_iff {xs : List α} {k : String} : lookup k xs = none ↔ k ∉ keysOf xs :=
  find?_key_eq_none_iff

theorem hasKey_eq_isSome_lookup (k : String) (xs : List α) :
    hasKey k xs = (lookup k xs).isSome := by
  rw [Bool.eq_iff_iff, hasKey_iff, Option.isSome_iff_ne_none, ne_eq, lookup_eq_none_iff, not_not]

theorem eq_of_key_eq {xs : List α} (distinct : (keysOf xs).Nodup) {x y : α} (hx : x ∈ xs)
    (hy : y ∈ xs) (same : key x = key y) : x = y :=
  List.inj_on_of_nodup_map distinct hx hy same

/-- The version of an item among `versions`, or the item itself if there is none. -/
def latest (versions : List α) (x : α) : α := (versions.find? fun v => key v == key x).getD x

@[simp] theorem latest_nil (x : α) : latest [] x = x := rfl

@[simp] theorem key_latest (versions : List α) (x : α) : key (latest versions x) = key x := by
  unfold latest
  cases found : versions.find? fun v => key v == key x with
  | none => rfl
  | some v => simpa using List.find?_some found

@[simp] theorem keysOf_map_latest (versions xs : List α) :
    keysOf (xs.map (latest versions)) = keysOf xs := by
  simp only [keysOf, List.map_map]
  exact List.map_congr_left fun x _ => key_latest versions x

theorem latest_singleton (v x : α) : latest [v] x = if key v = key x then v else x := by
  by_cases same : key v = key x <;> simp [latest, same]

theorem latest_of_not_mem {versions : List α} {x : α} (absent : key x ∉ keysOf versions) :
    latest versions x = x := by
  rw [latest, find?_key_eq_none_iff.mpr absent, Option.getD_none]

theorem latest_mem_or (versions : List α) (x : α) :
    latest versions x ∈ versions ∨ key x ∉ keysOf versions ∧ latest versions x = x := by
  unfold latest
  cases found : versions.find? fun v => key v == key x with
  | none => exact .inr ⟨find?_key_eq_none_iff.mp found, rfl⟩
  | some v => exact .inl (List.mem_of_find?_eq_some found)

/-- Versions with a new key may come one after the other. -/
theorem latest_concat {versions : List α} {v : α} (fresh : key v ∉ keysOf versions) (x : α) :
    latest (versions ++ [v]) x = latest [v] (latest versions x) := by
  rw [latest_singleton, key_latest]
  unfold latest
  rw [List.find?_append]
  cases found : versions.find? fun w => key w == key x with
  | some w =>
    have same : key w = key x := by simpa using List.find?_some found
    have different : key v ≠ key x := fun equal =>
      fresh (equal ▸ same ▸ key_mem_keysOf (List.mem_of_find?_eq_some found))
    simp [different]
  | none => by_cases same : key v = key x <;> simp [same]

theorem map_latest_of_not_mem {v : α} {xs : List α} (absent : key v ∉ keysOf xs) :
    xs.map (latest [v]) = xs := by
  have same : ∀ x ∈ xs, latest [v] x = x := by
    intro x member
    have different : key v ≠ key x := fun equal => absent (equal ▸ key_mem_keysOf member)
    rw [latest_singleton, if_neg different]
  rw [List.map_congr_left same, List.map_id']

theorem replaceFirst?_eq_none_iff {a : α} {xs : List α} :
    replaceFirst? a xs = none ↔ key a ∉ keysOf xs := by
  induction xs with
  | nil => simp [replaceFirst?]
  | cons x xs ih =>
    by_cases same : key x = key a
    · simp [replaceFirst?, same]
    · have different : key a ≠ key x := Ne.symm same
      simp [replaceFirst?, same, different, ih]

theorem replaceFirst?_of_mem {a : α} {xs : List α} (distinct : (keysOf xs).Nodup)
    (member : key a ∈ keysOf xs) : replaceFirst? a xs = some (xs.map (latest [a])) := by
  induction xs with
  | nil => cases member
  | cons x xs ih =>
    obtain ⟨head, tail⟩ := List.nodup_cons.mp distinct
    by_cases same : key x = key a
    · have others : xs.map (latest [a]) = xs := map_latest_of_not_mem (same ▸ head)
      simp [replaceFirst?, same, latest_singleton, others]
    · have different : key a ≠ key x := Ne.symm same
      have inside : key a ∈ keysOf xs := (List.mem_cons.mp member).resolve_left different
      simp [replaceFirst?, same, ih tail inside, latest_singleton, different]

theorem removeFirst?_eq_none_iff {k : String} {xs : List α} :
    removeFirst? k xs = none ↔ k ∉ keysOf xs := by
  induction xs with
  | nil => simp [removeFirst?]
  | cons x xs ih =>
    by_cases same : key x = k
    · simp [removeFirst?, same]
    · have different : k ≠ key x := Ne.symm same
      simp [removeFirst?, same, different, ih]

/-- What is removed leaves a part of the list, without one copy of its key. -/
theorem removeFirst?_some {k : String} {a : α} {xs ys : List α}
    (removed : removeFirst? k xs = some (a, ys)) :
    ys.Sublist xs ∧ keysOf ys = (keysOf xs).erase k := by
  induction xs generalizing ys with
  | nil => cases removed
  | cons x xs ih =>
    by_cases same : key x = k
    · simp only [removeFirst?, same, ↓reduceIte, Option.some.injEq, Prod.mk.injEq] at removed
      obtain ⟨rfl, rfl⟩ := removed
      exact ⟨List.sublist_cons_self _ _, by simp [same]⟩
    · simp only [removeFirst?, same, ↓reduceIte, Option.map_eq_some_iff] at removed
      obtain ⟨⟨b, rest⟩, found, equal⟩ := removed
      obtain ⟨rfl, rfl⟩ := Prod.mk.inj equal
      obtain ⟨sublist, keys⟩ := ih found
      refine ⟨sublist.cons_cons x, ?_⟩
      rw [keysOf_cons, keysOf_cons, keys, List.erase_cons_tail (by simpa using same)]

theorem filter_key_of_not_mem {a : α} {xs : List α} (absent : key a ∉ keysOf xs) :
    xs.filter (fun x => !hasKey (key x) [a]) = xs := by
  rw [List.filter_eq_self]
  intro x member
  have different : key a ≠ key x := fun equal => absent (equal ▸ key_mem_keysOf member)
  simp [hasKey, different]

theorem removeFirst?_of_mem {a : α} {xs : List α} (distinct : (keysOf xs).Nodup)
    (member : key a ∈ keysOf xs) :
    ∃ b, removeFirst? (key a) xs = some (b, xs.filter fun x => !hasKey (key x) [a]) := by
  induction xs with
  | nil => cases member
  | cons x xs ih =>
    obtain ⟨head, tail⟩ := List.nodup_cons.mp distinct
    by_cases same : key x = key a
    · refine ⟨x, ?_⟩
      have others : xs.filter (fun y => !hasKey (key y) [a]) = xs :=
        filter_key_of_not_mem (same ▸ head)
      have goes : (!hasKey (key x) [a]) = false := by simp [hasKey, same]
      rw [removeFirst?, if_pos same, List.filter_cons_of_neg (by simp [goes]), others]
    · have different : key a ≠ key x := Ne.symm same
      have inside : key a ∈ keysOf xs := (List.mem_cons.mp member).resolve_left different
      obtain ⟨b, found⟩ := ih tail inside
      refine ⟨b, ?_⟩
      simp [removeFirst?, same, found, hasKey, different]

end ClusterConf.Keyed
