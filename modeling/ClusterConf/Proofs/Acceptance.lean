import ClusterConf.Cluster.Validation
import ClusterConf.Proofs.Enactment
set_option autoImplicit false

/-!
What is accepted. Main statement: a check of a snapshot finds no error exactly if the keys of each
kind are distinct names, host groups are marked as such, and the values of complex entries, user
sets and parallel environments are in their range.
-/
namespace ClusterConf

namespace Text

theorem wordsFrom_eq (current cs : List Char) :
    wordsFrom current cs =
      ((cs.splitOnP isSeparator).modifyHead (current.reverse ++ ·)).filter (· ≠ []) := by
  induction cs generalizing current with
  | nil => cases current <;> simp [wordsFrom, List.splitOnP_nil]
  | cons c rest ih =>
    rw [wordsFrom, List.splitOnP_cons_eq_if_modifyHead, ih [], ih (c :: current)]
    have whole : (List.splitOnP isSeparator rest).modifyHead (fun x => x) =
        List.splitOnP isSeparator rest := congrFun List.modifyHead_id _
    by_cases separates : isSeparator c = true
    · cases current <;> simp [separates, whole]
    · simp [separates, List.modifyHead_modifyHead, Function.comp_def]

/-- The words of a text are what stands between separators and is not empty. -/
theorem words_eq (cs : List Char) :
    words cs = (cs.splitOnP isSeparator).filter (· ≠ []) := by
  rw [words, wordsFrom_eq]
  exact congrArg _ (congrFun List.modifyHead_id _)

end Text

namespace Validation

/-- A key of a kind that is fit to be a name. -/
structure Named (k : Kind) (key : String) : Prop where
  nonempty : key ≠ ""
  plain : ∀ c ∈ key.toList, Text.isBlank c = false ∧ c ∉ reserved
  marked : k = .hostGroup → "@".toList <+: key.toList

/-- The values of a complex entry that are drawn from lists; all but the type may be left empty. -/
structure InRange (knownTypes : List String) (e : ComplexEntry) : Prop where
  valueType : e.valueType ∈ knownTypes
  relop : e.relop = "" ∨ e.relop ∈ relationalOperators
  requestable : e.requestable = "" ∨ e.requestable ∈ requestableValues
  consumable : e.consumable = "" ∨ e.consumable ∈ consumableValues

/-- What a check looks for. -/
structure Acceptable (knownTypes : List String) (s : Snapshot) : Prop where
  distinct : s.Distinct
  named : ∀ k, ∀ key ∈ s.keys k, Named k key
  complexEntries : ∀ e ∈ s.complexEntries, InRange knownTypes e
  userSets : ∀ u ∈ s.userSetLists, ∀ w ∈ u.types.toList.splitOnP Text.isSeparator,
    w = [] ∨ w = "ACL".toList ∨ w = "DEPT".toList
  slots : ∀ pe ∈ s.parallelEnvironments, 0 ≤ pe.slots

theorem Acceptable.wellKeyed {knownTypes : List String} {s : Snapshot}
    (acceptable : Acceptable knownTypes s) : s.WellKeyed where
  nonempty k := fun inside => (acceptable.named k "" inside).nonempty rfl
  distinct := acceptable.distinct

theorem isName_iff {name : String} :
    isName name = true ↔
      name ≠ "" ∧ ∀ c ∈ name.toList, Text.isBlank c = false ∧ c ∉ reserved := by
  simp [isName]

theorem keyFault?_eq_none_iff {k : Kind} {seen : List String} {key : String} :
    keyFault? k seen key = none ↔ key ∉ seen ∧ Named k key := by
  have named : Named k key ↔ isName key = true ∧
      (k = .hostGroup → key.startsWith "@" = true) := by
    rw [isName_iff, String.startsWith_string_iff]
    exact ⟨fun ⟨filled, plain, marked⟩ => ⟨⟨filled, plain⟩, marked⟩,
      fun ⟨⟨filled, plain⟩, marked⟩ => ⟨filled, plain, marked⟩⟩
  rw [named, keyFault?]
  by_cases empty : key = ""
  · subst empty
    simp [isName]
  · by_cases repeated : key ∈ seen
    · simp [empty, repeated]
    · by_cases name : isName key = true
      · by_cases group : k = .hostGroup <;> simp [empty, repeated, name, group]
      · simp [empty, repeated, name]

/-- No key of a collection is at fault exactly if all are names and none was seen before. -/
theorem keyFaults_eq_nil_iff {k : Kind} {i : Nat} {seen keys : List String} :
    keyFaults k i seen keys = [] ↔
      keys.Nodup ∧ (∀ key ∈ keys, key ∉ seen) ∧ ∀ key ∈ keys, Named k key := by
  induction keys generalizing i seen with
  | nil => simp [keyFaults]
  | cons key rest ih =>
    have step : keyFaults k i seen (key :: rest) = [] ↔
        keyFault? k seen key = none ∧ keyFaults k (i + 1) (key :: seen) rest = [] := by
      rw [keyFaults]
      cases keyFault? k seen key <;> simp
    rw [step, keyFault?_eq_none_iff, ih]
    simp only [List.nodup_cons, List.mem_cons, forall_eq_or_imp, not_or]
    constructor
    · rintro ⟨⟨unseen, named⟩, once, apart, others⟩
      exact ⟨⟨fun inside => (apart key inside).1 rfl, once⟩,
        ⟨unseen, fun other inside => (apart other inside).2⟩, named, others⟩
    · rintro ⟨⟨fresh, once⟩, ⟨unseen, apart⟩, named, others⟩
      exact ⟨⟨unseen, named⟩, once,
        fun other inside => ⟨fun same => fresh (same ▸ inside), apart other inside⟩, others⟩

theorem enumFault?_eq_none_iff {path entry name value : String} {allowed : List String} :
    enumFault? path entry name value allowed = none ↔ value = "" ∨ value ∈ allowed := by
  unfold enumFault?
  split
  · rename_i fine
    simpa using fine
  · rename_i bad
    simpa using bad

theorem complexFaults_eq_nil_iff (knownTypes : List String) (i : Nat) (e : ComplexEntry) :
    complexFaults knownTypes i e = [] ↔ InRange knownTypes e := by
  have typed : ∀ fault : Fault, (if knownTypes.contains e.valueType then [] else [fault]) = [] ↔
      e.valueType ∈ knownTypes := by
    intro fault
    split <;> simp_all
  simp only [complexFaults, List.append_eq_nil_iff, typed, Option.toList_eq_nil_iff,
    enumFault?_eq_none_iff]
  exact ⟨fun ⟨⟨⟨valueType, relop⟩, requestable⟩, consumable⟩ =>
      ⟨valueType, relop, requestable, consumable⟩,
    fun range => ⟨⟨⟨range.valueType, range.relop⟩, range.requestable⟩, range.consumable⟩⟩

theorem userSetFaults_eq_nil_iff (i : Nat) (u : UserSet) :
    userSetFaults i u = [] ↔ ∀ w ∈ u.types.toList.splitOnP Text.isSeparator,
      w = [] ∨ w = "ACL".toList ∨ w = "DEPT".toList := by
  have typed : ∀ w : List Char, userSetTypes.contains (String.ofList w) = true ↔
      w = "ACL".toList ∨ w = "DEPT".toList := by
    intro w
    simp only [userSetTypes, List.contains_cons, List.contains_nil, Bool.or_false, Bool.or_eq_true,
      beq_iff_eq, ← String.toList_inj, String.toList_ofList]
  unfold userSetFaults
  rw [Text.words_eq]
  split
  · rename_i fine
    simp only [List.all_eq_true, List.mem_filter, typed, decide_eq_true_eq] at fine
    simp only [true_iff]
    intro w member
    by_cases empty : w = []
    · exact .inl empty
    · exact .inr (fine w ⟨member, empty⟩)
  · rename_i bad
    simp only [List.all_eq_true, List.mem_filter, typed, decide_eq_true_eq] at bad
    simp only [List.cons_ne_nil, false_iff]
    exact fun fine => bad fun w ⟨member, filled⟩ => (fine w member).resolve_left filled

theorem slotFaults_eq_nil_iff (i : Nat) (pe : ParallelEnv) :
    slotFaults i pe = [] ↔ 0 ≤ pe.slots := by
  unfold slotFaults
  split <;> simp_all

theorem eachWithIndex_eq_nil_iff {α β : Type} {rule : Nat → α → List β} {P : α → Prop}
    (each : ∀ i x, rule i x = [] ↔ P x) {xs : List α} :
    eachWithIndex rule xs = [] ↔ ∀ x ∈ xs, P x := by
  simp only [eachWithIndex, List.flatMap_eq_nil_iff, each]
  constructor
  · intro all x member
    obtain ⟨i, inside, rfl⟩ := List.mem_iff_getElem.mp member
    exact all (xs[i], i) (List.mem_zipIdx_iff_getElem?.mpr (List.getElem?_eq_getElem inside))
  · rintro all ⟨x, i⟩ member
    exact all x (List.fst_mem_of_mem_zipIdx member)

theorem errors_eq_nil_iff {knownTypes : List String} {s : Snapshot} :
    (check knownTypes s).errors = [] ↔ Acceptable knownTypes s := by
  have keys : (∀ k ∈ Kind.creationOrder, keyFaults k 0 [] (s.keys k) = []) ↔
      s.Distinct ∧ ∀ k, ∀ key ∈ s.keys k, Named k key := by
    simp only [keyFaults_eq_nil_iff, List.not_mem_nil, not_false_eq_true, implies_true, true_and,
      Kind.mem_creationOrder, forall_true_left, Snapshot.Distinct, forall_and]
  simp only [check, List.append_eq_nil_iff, List.flatMap_eq_nil_iff, keys,
    eachWithIndex_eq_nil_iff (complexFaults_eq_nil_iff knownTypes),
    eachWithIndex_eq_nil_iff userSetFaults_eq_nil_iff,
    eachWithIndex_eq_nil_iff slotFaults_eq_nil_iff]
  exact ⟨fun ⟨⟨⟨⟨distinct, named⟩, complexEntries⟩, userSets⟩, slots⟩ =>
      ⟨distinct, named, complexEntries, userSets, slots⟩,
    fun acceptable => ⟨⟨⟨⟨acceptable.distinct, acceptable.named⟩, acceptable.complexEntries⟩,
      acceptable.userSets⟩, acceptable.slots⟩⟩

end Validation
end ClusterConf
