import ClusterConf.Proofs.StoreRules
import Mathlib.Logic.Function.Basic
set_option autoImplicit false

/-!
Registries: a map from keys to records for each kind that remembers the order of insertion, and
perhaps a global configuration. Main statements: with distinct keys a collection is such a map, and
what is created, updated or deleted in it is inserted into the map or taken out.
-/
namespace ClusterConf

open Keyed (key keysOf lookup)

/-- A finite map from keys to items that remembers the order in which keys were inserted. -/
structure OrderedMap (α : Type) where
  order : List String
  value : String → Option α
  distinct : order.Nodup
  mem_order : ∀ k, k ∈ order ↔ (value k).isSome = true

namespace OrderedMap

variable {α : Type}

@[ext] theorem ext {m n : OrderedMap α} (order : m.order = n.order)
    (value : ∀ k, m.value k = n.value k) : m = n := by
  obtain ⟨order, f, _, _⟩ := m
  obtain ⟨order', g, _, _⟩ := n
  obtain rfl : f = g := funext value
  cases order
  rfl

/-- Gives a key an item. A key that is there keeps its place, another one comes at the end. -/
def put (m : OrderedMap α) (k : String) (a : α) : OrderedMap α where
  order := if k ∈ m.order then m.order else m.order ++ [k]
  value := Function.update m.value k (some a)
  distinct := by
    split
    · exact m.distinct
    · rename_i absent
      exact m.distinct.append (List.nodup_singleton k) (by simpa using absent)
  mem_order l := by
    by_cases same : l = k
    · subst same
      split <;> simp_all
    · rw [Function.update_of_ne same, ← m.mem_order]
      split <;> simp [same]

def erase (m : OrderedMap α) (k : String) : OrderedMap α where
  order := m.order.erase k
  value := Function.update m.value k none
  distinct := m.distinct.erase k
  mem_order l := by
    by_cases same : l = k
    · subst same
      simp [m.distinct.not_mem_erase]
    · rw [Function.update_of_ne same, ← m.mem_order, List.mem_erase_of_ne same]

/-- A collection with distinct keys as a map. -/
def ofList [Keyed α] (xs : List α) (distinct : (keysOf xs).Nodup) : OrderedMap α where
  order := keysOf xs
  value k := lookup k xs
  distinct := distinct
  mem_order k := by
    rw [Option.isSome_iff_ne_none, ne_eq, Keyed.lookup_eq_none_iff, not_not]

variable [Keyed α] {xs : List α} {x : α} (distinct : (keysOf xs).Nodup)

theorem ofList_create (absent : key x ∉ keysOf xs)
    (after : (keysOf (Keyed.enact .create [x] xs)).Nodup) :
    ofList (Keyed.enact .create [x] xs) after = (ofList xs distinct).put (key x) x := by
  refine OrderedMap.ext ?_ fun k => ?_
  · simp only [ofList, put, absent, ↓reduceIte, Keyed.enact, Keyed.keysOf_append,
      Keyed.keysOf_cons, Keyed.keysOf_nil]
  · by_cases same : k = key x
    · subst same
      simp only [ofList, put, Function.update_self]
      exact Keyed.lookup_enact_self distinct (by decide) (fun _ => absent)
        fun impossible => by cases impossible
    · simp only [ofList, put, Function.update_of_ne same]
      exact Keyed.lookup_enact_of_ne (Ne.symm same) xs

theorem ofList_update (present : key x ∈ keysOf xs)
    (after : (keysOf (Keyed.enact .update [x] xs)).Nodup) :
    ofList (Keyed.enact .update [x] xs) after = (ofList xs distinct).put (key x) x := by
  refine OrderedMap.ext ?_ fun k => ?_
  · simp only [ofList, put, present, ↓reduceIte, Keyed.enact, Keyed.keysOf_map_latest]
  · by_cases same : k = key x
    · subst same
      simp only [ofList, put, Function.update_self]
      exact Keyed.lookup_enact_self distinct (by decide)
        (fun impossible => by cases impossible) fun _ => present
    · simp only [ofList, put, Function.update_of_ne same]
      exact Keyed.lookup_enact_of_ne (Ne.symm same) xs

theorem ofList_delete (after : (keysOf (Keyed.enact .delete [x] xs)).Nodup) :
    ofList (Keyed.enact .delete [x] xs) after = (ofList xs distinct).erase (key x) := by
  have keys : keysOf (Keyed.enact .delete [x] xs) = (keysOf xs).erase (key x) := by
    rw [distinct.erase_eq_filter]
    refine (Keyed.keysOf_filter (fun k => !Difference.hasKey k [x]) xs).trans ?_
    refine List.filter_congr fun k _ => ?_
    simp [Difference.hasKey, bne, BEq.comm (a := k)]
  refine OrderedMap.ext keys fun k => ?_
  by_cases same : k = key x
  · subst same
    simp only [ofList, erase, Function.update_self]
    rw [Keyed.lookup_eq_none_iff, keys]
    exact distinct.not_mem_erase
  · simp only [ofList, erase, Function.update_of_ne same]
    exact Keyed.lookup_enact_of_ne (Ne.symm same) xs

end OrderedMap

/-- A map for each kind, and perhaps a global configuration. -/
structure Registry where
  collections : (k : Kind) → OrderedMap k.Record
  globalConfig : Option GlobalConfig

namespace Registry

def set (s : Registry) (k : Kind) (m : OrderedMap k.Record) : Registry :=
  { s with collections := Function.update s.collections k m }

/-- How a registry answers calls. A key is there or not; nothing else can fail, except that a record
cannot be renamed. -/
def serve : Server Plane Registry
  | .create ⟨k, r⟩, s =>
    if k.key r ∈ (s.collections k).order then (.error (.alreadyExists k (k.key r)), s)
    else (.ok (), s.set k ((s.collections k).put (k.key r) r))
  | .update key ⟨k, r⟩, s =>
    if k.key r ≠ key then
      (.error (.rejected s!"cannot rename {k.label} '{key}' to '{k.key r}'"), s)
    else if key ∈ (s.collections k).order then (.ok (), s.set k ((s.collections k).put key r))
    else (.error (.notFound k key), s)
  | .delete k key, s =>
    if key ∈ (s.collections k).order then (.ok (), s.set k ((s.collections k).erase key))
    else (.error (.notFound k key), s)
  | .list k, s => (.ok (s.collections k).order, s)
  | .read k key, s =>
    match (s.collections k).value key with
    | some r => (.ok r, s)
    | none => (.error (.notFound k key), s)
  | .showGlobal, s => (.ok s.globalConfig, s)
  | .modifyGlobal g, s => (.ok (), { s with globalConfig := some g })
  | .backend, s => ("memory", s)
  | .note _, s => ((), s)

/-- A snapshot with distinct keys as a registry. -/
def ofSnapshot (s : Snapshot) (distinct : s.Distinct) : Registry where
  collections k := .ofList (s.records k) (distinct k)
  globalConfig := s.globalConfig

theorem ofList_congr {α : Type} [Keyed α] {xs ys : List α} (same : xs = ys)
    (left : (keysOf xs).Nodup) (right : (keysOf ys).Nodup) :
    OrderedMap.ofList xs left = .ofList ys right := by
  subst same
  rfl

/-- An entity put into effect concerns the map of its kind. -/
theorem ofSnapshot_enact {s : Snapshot} (distinct : s.Distinct) {operation : Operation}
    {e : Entity} (after : (Snapshot.enact operation (Snapshot.collect [e]) s).Distinct)
    (ofKind : (keysOf (Keyed.enact operation [e.record] (s.records e.kind))).Nodup) :
    ofSnapshot _ after = (ofSnapshot s distinct).set e.kind (.ofList _ ofKind) := by
  have global := Snapshot.globalConfig_enact_of_none (Snapshot.globalConfig_collect [e]) operation s
  have collections : (fun l => OrderedMap.ofList _ (after l)) =
      Function.update (fun l => OrderedMap.ofList (s.records l) (distinct l)) e.kind
        (.ofList _ ofKind) := by
    funext l
    by_cases same : l = e.kind
    · subst same
      rw [Function.update_self]
      refine ofList_congr ?_ _ _
      rw [Snapshot.records_enact, Snapshot.records_collect, Entity.recordsOf_singleton_self]
    · rw [Function.update_of_ne same]
      refine ofList_congr ?_ _ _
      rw [Snapshot.records_enact, Snapshot.records_collect,
        Entity.recordsOf_singleton_of_ne (Ne.symm same), Keyed.enact_nil]
  rw [ofSnapshot, global]
  exact congrArg (Registry.mk · s.globalConfig) collections

end Registry

end ClusterConf
