import ClusterConf.Cluster.Fingerprint
import ClusterConf.Proofs.Patching
import ClusterConf.Proofs.RecordTexts
set_option autoImplicit false

/-!
What fingerprints tell apart. Main statement: two snapshots are digested as the same bytes exactly
if their comparison finds no difference, so neither the order of records nor the environment enters
a fingerprint, and only a collision of digests gives snapshots that differ the same one.
-/
namespace ClusterConf

open Keyed (key keysOf Rearranges)

theorem ByteArray.loop_eq (bytes : ByteArray) (i : Nat) (read : List UInt8) :
    ByteArray.toList.loop bytes i read = read.reverse ++ bytes.data.toList.drop i := by
  fun_induction ByteArray.toList.loop bytes i read with
  | case1 i read inside ih =>
    have here : bytes.data.toList.drop i = bytes.get! i :: bytes.data.toList.drop (i + 1) := by
      rw [List.drop_eq_getElem_cons (by simpa using inside), Array.getElem_toList]
      exact congrArg (· :: _) (getElem!_pos bytes.data i inside).symm
    rw [ih, here]
    simp
  | case2 i read outside =>
    have none : bytes.data.toList.length ≤ i := by
      rw [Array.length_toList]
      exact Nat.le_of_not_lt outside
    rw [List.drop_eq_nil_of_le none, List.append_nil]

theorem ByteArray.toList_inj {a b : ByteArray} (same : a.toList = b.toList) : a = b := by
  have data : ∀ bytes : ByteArray, bytes.toList = bytes.data.toList :=
    fun bytes => loop_eq bytes 0 []
  rw [data, data] at same
  exact ByteArray.ext (Array.toList_inj.mp same)

/-- Two messages with one digest. -/
structure Sha256.Collides (m m' : List UInt8) : Prop where
  differ : m ≠ m'
  digest : hex m = hex m'

namespace Snapshot

variable {s t : Snapshot}

/-- All numbers are finite, and none of them is the negative zero. -/
def Plain (s : Snapshot) : Prop :=
  ∀ d ∈ s.numbers, d.isFinite = true ∧ (d.isZero = true → d.isNegative = false)

instance (s : Snapshot) : Decidable s.Plain :=
  inferInstanceAs (Decidable (∀ d ∈ s.numbers, _))

/-- What of a snapshot is digested. -/
def message (s : Snapshot) : List UInt8 := s.canonicalText.toUTF8.toList

theorem fingerprint_eq (s : Snapshot) : s.fingerprint = Sha256.hex s.message := rfl

theorem sortedRecords_perm (s : Snapshot) (k : Kind) : (s.sortedRecords k).Perm (s.records k) :=
  List.mergeSort_perm _ _

/-- Sorting is canonical: the same records in any order are sorted to the same list. -/
theorem sortedRecords_eq_iff {k : Kind} (once : (s.keys k).Nodup) :
    s.sortedRecords k = t.sortedRecords k ↔ (s.records k).Perm (t.records k) := by
  constructor
  · intro same
    have sorted := s.sortedRecords_perm k
    rw [same] at sorted
    exact sorted.symm.trans (t.sortedRecords_perm k)
  · intro order
    let le := fun a b : k.Record => !decide (k.key b < k.key a)
    have le_iff : ∀ a b, le a b = true ↔ k.key a ≤ k.key b := by
      intro a b
      rw [Bool.not_eq_true', decide_eq_false_iff_not, String.not_lt]
    have trans : ∀ a b c, le a b = true → le b c = true → le a c = true := by
      intro a b c
      simp only [le_iff]
      exact String.le_trans
    have total : ∀ a b, (le a b || le b a) = true := by
      intro a b
      simp only [Bool.or_eq_true, le_iff]
      exact String.le_total _ _
    have perm : (s.sortedRecords k).Perm (t.sortedRecords k) :=
      (s.sortedRecords_perm k).trans (order.trans (t.sortedRecords_perm k).symm)
    refine List.Perm.eq_of_pairwise (fun a b left right below above => ?_)
      (List.pairwise_mergeSort trans total _) (List.pairwise_mergeSort trans total _) perm
    have among := (s.sortedRecords_perm k).mem_iff.mp left
    have among' := order.mem_iff.mpr ((t.sortedRecords_perm k).mem_iff.mp right)
    have keys : k.key a = k.key b :=
      String.le_antisymm ((le_iff a b).mp below) ((le_iff b a).mp above)
    exact Keyed.eq_of_key_eq once among among' keys

theorem records_foldl_append {rs : (k : Kind) → List k.Record} {kinds : List Kind}
    (once : kinds.Nodup) (s : Snapshot) :
    ∀ l, (kinds.foldl (fun c k => c.append k (rs k)) s).records l =
      s.records l ++ if l ∈ kinds then rs l else [] := by
  induction kinds generalizing s with
  | nil => simp
  | cons k kinds ih =>
    obtain ⟨fresh, onceRest⟩ := List.nodup_cons.mp once
    exact Comparison.append_gathered fresh (ih onceRest _)

@[simp] theorem records_canonical (s : Snapshot) (k : Kind) :
    s.canonical.records k = s.sortedRecords k := by
  rw [canonical, records_foldl_append Kind.nodup_creationOrder, if_pos (Kind.mem_creationOrder k),
    records_with_globalConfig, records_empty, List.nil_append]

theorem site_foldl_append (rs : (k : Kind) → List k.Record) (kinds : List Kind) (s : Snapshot) :
    (kinds.foldl (fun c k => c.append k (rs k)) s).globalConfig = s.globalConfig ∧
      (kinds.foldl (fun c k => c.append k (rs k)) s).environment = s.environment := by
  induction kinds generalizing s with
  | nil => exact ⟨rfl, rfl⟩
  | cons k kinds ih =>
    obtain ⟨globalConfig, environment⟩ := ih (s.append k (rs k))
    exact ⟨globalConfig.trans (globalConfig_append _ _ _),
      environment.trans (environment_append _ _ _)⟩

@[simp] theorem globalConfig_canonical (s : Snapshot) :
    s.canonical.globalConfig = s.globalConfig :=
  (site_foldl_append _ _ _).1

@[simp] theorem environment_canonical (s : Snapshot) : s.canonical.environment = none :=
  (site_foldl_append _ _ _).2

/-- Canonical snapshots are the same if the collections are, in any order. -/
theorem canonical_eq_iff (distinct : s.Distinct) :
    s.canonical = t.canonical ↔
      s.globalConfig = t.globalConfig ∧ ∀ k, (s.records k).Perm (t.records k) := by
  have collections : (∀ k, (s.records k).Perm (t.records k)) ↔
      ∀ k, s.canonical.records k = t.canonical.records k := by
    simp only [records_canonical, sortedRecords_eq_iff (distinct _)]
  rw [collections]
  constructor
  · intro same
    refine ⟨?_, fun k => by rw [same]⟩
    rw [← globalConfig_canonical s, same, globalConfig_canonical]
  · rintro ⟨globalConfig, records⟩
    refine ext_records (by simp) (by simpa) records

theorem mem_numbers_canonical {d : Double} : d ∈ s.canonical.numbers ↔ d ∈ s.numbers := by
  have hosts : ∀ h, h ∈ s.canonical.execHosts ↔ h ∈ s.execHosts := by
    intro h
    rw [show s.canonical.execHosts = s.sortedRecords .execHost from records_canonical s .execHost]
    exact (s.sortedRecords_perm .execHost).mem_iff
  simp only [numbers, List.mem_flatMap, hosts]

/-- What is digested tells the canonical snapshot. -/
theorem message_eq_iff (plain : s.Plain) (plain' : t.Plain) :
    s.message = t.message ↔ s.canonical = t.canonical := by
  constructor
  · intro same
    have texts : s.canonicalText = t.canonicalText :=
      String.toByteArray_inj.mp (ByteArray.toList_inj same)
    refine injective_toDocument (Json.compact_inj ?_ ?_ texts) <;>
      refine legible_toDocument fun d member => ?_
    · exact (plain d (mem_numbers_canonical.mp member)).1
    · exact (plain' d (mem_numbers_canonical.mp member)).1
  · intro same
    rw [message, message, canonicalText, canonicalText, same]

end Snapshot

theorem eq_of_beq_of_forall {α : Type} [BEq α] {xs ys : List α}
    (each : ∀ x ∈ xs, ∀ y ∈ ys, (x == y) = true → x = y) (equal : (xs == ys) = true) : xs = ys := by
  induction xs generalizing ys with
  | nil =>
    cases ys with
    | nil => rfl
    | cons y ys => cases equal
  | cons x xs ih =>
    cases ys with
    | nil => cases equal
    | cons y ys =>
      rw [List.cons_beq_cons, Bool.and_eq_true] at equal
      rw [each x List.mem_cons_self y List.mem_cons_self equal.1, ih _ equal.2]
      exact fun w left z right =>
        each w (List.mem_cons_of_mem x left) z (List.mem_cons_of_mem y right)

/-- Equal numbers are one number, unless they are the two zeros. -/
theorem Double.eq_of_beq {a b : Double} (sign : a.isZero = true → a.isNegative = false)
    (sign' : b.isZero = true → b.isNegative = false) (equal : (a == b) = true) : a = b := by
  obtain ⟨-, -, same | ⟨zero, zero'⟩⟩ := Double.beq_iff.mp equal
  · exact same
  · obtain ⟨significand, exponent⟩ := parts_of_isZero zero
    obtain ⟨significand', exponent'⟩ := parts_of_isZero zero'
    exact ext_parts ((sign zero).trans (sign' zero').symm)
      (significand.trans significand'.symm) (exponent.trans exponent'.symm)

theorem ExecHost.eq_of_beq {g h : ExecHost}
    (signs : ∀ d ∈ g.numbers, d.isZero = true → d.isNegative = false)
    (signs' : ∀ d ∈ h.numbers, d.isZero = true → d.isNegative = false)
    (equal : (g == h) = true) : g = h := by
  have factors := List.forall_mem_append.mp (List.forall_mem_map.mp signs)
  have factors' := List.forall_mem_append.mp (List.forall_mem_map.mp signs')
  have table : ∀ {t u : Table Double},
      (∀ e ∈ t.entries, e.2.isZero = true → e.2.isNegative = false) →
      (∀ e ∈ u.entries, e.2.isZero = true → e.2.isNegative = false) → (t == u) = true → t = u := by
    intro t u left right same
    refine Table.ext_entries (eq_of_beq_of_forall (fun e member f member' entries => ?_) same)
    obtain ⟨name, value⟩ := Bool.and_eq_true_iff.mp entries
    exact Prod.ext (beq_iff_eq.mp name) (Double.eq_of_beq (left e member) (right f member') value)
  have texts : ∀ {t u : Table String}, (t == u) = true → t = u :=
    fun same => Table.ext_entries (beq_iff_eq.mp same)
  have parts : instBEqExecHost.beq g h = true := equal
  simp only [instBEqExecHost.beq, Bool.and_eq_true, beq_iff_eq] at parts
  obtain ⟨name, load, usage, values, rest⟩ := parts
  have loads := table factors.1 factors'.1 load
  have usages := table factors.2 factors'.2 usage
  have complexValues := texts values
  cases g
  cases h
  simp_all

namespace Snapshot

variable {s t : Snapshot}

theorem Plain.noNaN (plain : s.Plain) : s.NoNaN := by
  intro h member e inside
  have number : e.2 ∈ s.numbers :=
    List.mem_flatMap.mpr ⟨h, member, List.mem_map_of_mem inside⟩
  rw [Double.isNaN, (plain e.2 number).1]
  rfl

/-- Records of plain snapshots are equal if they are one record. -/
theorem Plain.beq_iff (plain : s.Plain) (plain' : t.Plain) {k : Kind} {r d : k.Record}
    (member : r ∈ s.records k) (member' : d ∈ t.records k) : (r == d) = true ↔ r = d := by
  by_cases host : k = .execHost
  · subst host
    constructor
    · refine ExecHost.eq_of_beq (fun x inside => ?_) (fun x inside => ?_)
      · exact (plain x (List.mem_flatMap.mpr ⟨r, member, inside⟩)).2
      · exact (plain' x (List.mem_flatMap.mpr ⟨d, member', inside⟩)).2
    · rintro rfl
      exact plain.noNaN.beq_self member
  · exact Kind.beq_iff host

/-- Collections of plain snapshots that equal each other in some order are rearranged. -/
theorem Plain.rearranges_iff (plain : s.Plain) (plain' : t.Plain) (k : Kind) :
    Rearranges (s.records k) (t.records k) ↔ (s.records k).Perm (t.records k) := by
  constructor
  · rintro ⟨rs, order, equal⟩
    have same : rs = t.records k := eq_of_beq_of_forall (fun r member d member' =>
      (plain.beq_iff plain' (order.mem_iff.mp member) member').mp) equal
    rw [← same]
    exact order.symm
  · intro order
    exact ⟨_, order.symm, beq_self_of_forall fun r member => plain'.noNaN.beq_self member⟩

/--
Snapshots with good keys and plain numbers can be compared, and what is digested of them is the same
exactly if nothing differs. Their fingerprints are the same then; those of snapshots that differ
are the same only by a collision. No other order of the records and no other environment changes
a fingerprint.
-/
theorem fingerprints_separate (keyed : s.WellKeyed) (keyed' : t.WellKeyed) (plain : s.Plain)
    (plain' : t.Plain) :
    ∃ c, Comparison.between s t = .ok c ∧
      (s.message = t.message ↔ c.isSame = true) ∧
      (c.isSame = true → s.fingerprint = t.fingerprint) ∧
      (c.isSame = false → s.fingerprint = t.fingerprint →
        Sha256.Collides s.message t.message) ∧
      ∀ u : Snapshot, u.globalConfig = s.globalConfig →
        (∀ k, (u.records k).Perm (s.records k)) → u.fingerprint = s.fingerprint := by
  obtain ⟨c, compared⟩ := Comparison.between_succeeds keyed keyed'
  obtain ⟨-, -, describes⟩ := Comparison.between_describes compared
  have same : s.message = t.message ↔ c.isSame = true := by
    rw [message_eq_iff plain plain', canonical_eq_iff keyed.distinct, describes.isSame_iff]
    refine and_congr_right fun _ => forall_congr' fun k => ?_
    rw [← describes.rearranges_iff keyed.distinct keyed'.distinct, plain.rearranges_iff plain']
  refine ⟨c, compared, same, fun equal => ?_, fun differs digest => ⟨fun equal => ?_, digest⟩,
    fun u globalConfig order => ?_⟩
  · rw [fingerprint_eq, fingerprint_eq, same.mpr equal]
  · rw [same.mp equal] at differs
    cases differs
  · have canonical : s.canonical = u.canonical :=
      (canonical_eq_iff keyed.distinct).mpr ⟨globalConfig.symm, fun k => (order k).symm⟩
    rw [fingerprint, fingerprint, canonicalText, canonicalText, canonical]

/-- A load factor of one or two is told apart. -/
theorem fingerprints_separate_of_small :
    let s := Snapshot.small "staff" ⟨0x3ff0000000000000⟩
    let t := Snapshot.small "staff" ⟨0x4000000000000000⟩
    s.WellKeyed ∧ t.WellKeyed ∧ s.Plain ∧ t.Plain ∧ ∃ c, Comparison.between s t = .ok c ∧
      (s.message = t.message ↔ c.isSame = true) := by
  intro s t
  have keyed : s.WellKeyed := by decide
  have keyed' : t.WellKeyed := by decide
  have plain : s.Plain := by decide
  have plain' : t.Plain := by decide
  obtain ⟨c, compared, same, -⟩ := fingerprints_separate keyed keyed' plain plain'
  exact ⟨keyed, keyed', plain, plain', c, compared, same⟩

end Snapshot
end ClusterConf
