import ClusterConf.Cluster.Validation
import ClusterConf.Proofs.Enactment
set_option autoImplicit false

/-!
References between the entities of a cluster. Main statements: a snapshot is checked without
warnings on references exactly if every name that a record refers to is a key of the right kind, and
records only refer to kinds that are created before their own.
-/
namespace ClusterConf

namespace Validation

/-- How warnings on references end. -/
def undefinedText : String := " is not defined in the snapshot"

/-- A check of the snapshot warns of no reference. -/
def Closed (knownTypes : List String) (s : Snapshot) : Prop :=
  ∀ w ∈ (check knownTypes s).warnings, ¬ undefinedText.toList <:+ w.toList

instance (knownTypes : List String) (s : Snapshot) : Decidable (Closed knownTypes s) :=
  inferInstanceAs (Decidable
    (∀ w ∈ (check knownTypes s).warnings, ¬ undefinedText.toList <:+ w.toList))

/-- The texts of a record that refer to entities, with the kind of these. -/
def references : (k : Kind) → k.Record → List (List String × Kind)
  | .clusterQueue, q => [(Queue.peList q, .parallelEnvironment), (Queue.ckptList q, .ckptInterface),
      (Queue.calendar q, .calendar), (Queue.userLists q, .userSetList),
      (Queue.xuserLists q, .userSetList), (Queue.projects q, .project),
      (Queue.xprojects q, .project), ((Queue.hostList q).filter (·.startsWith "@"), .hostGroup)]
  | .parallelEnvironment, pe =>
    [(ParallelEnv.userLists pe, .userSetList), (ParallelEnv.xuserLists pe, .userSetList)]
  | .project, p => [(Project.acl p, .userSetList), (Project.xacl p, .userSetList)]
  | .user, u =>
    if (User.defaultProject u).isEmpty then [] else [([User.defaultProject u], .project)]
  | _, _ => []

/-- Every name that a record refers to is among the keys of its kind. -/
def Resolved (keys : Kind → List String) (k : Kind) (r : k.Record) : Prop :=
  ∀ ref ∈ references k r, ∀ name ∈ referencedNames ref.1, name ∈ keys ref.2

theorem Resolved.mono {keys keys' : Kind → List String} {k : Kind} {r : k.Record}
    (resolved : Resolved keys k r)
    (kept : ∀ ref ∈ references k r, ∀ name ∈ keys ref.2, name ∈ keys' ref.2) :
    Resolved keys' k r :=
  fun ref member name named => kept ref member name (resolved ref member name named)

/-- Records refer to kinds that are created earlier. -/
theorem references_earlier {k : Kind} {r : k.Record} {ref : List String × Kind}
    (member : ref ∈ references k r) : [ref.2, k].Sublist Kind.creationOrder := by
  cases k <;> simp only [references, List.mem_cons, List.not_mem_nil, or_false] at member
  case clusterQueue =>
    rcases member with rfl | rfl | rfl | rfl | rfl | rfl | rfl | rfl <;> dsimp only <;> decide
  case parallelEnvironment => rcases member with rfl | rfl <;> dsimp only <;> decide
  case project => rcases member with rfl | rfl <;> dsimp only <;> decide
  case user =>
    split at member
    · cases member
    · obtain rfl := List.mem_singleton.mp member
      dsimp only
      decide

theorem suffix_of_mem_missing {owner field : String} {values known : List String} {w : String}
    (member : w ∈ missing owner field values known) : undefinedText.toList <:+ w.toList := by
  obtain ⟨name, -, rfl⟩ := List.mem_map.mp member
  refine ⟨(owner ++ "." ++ field ++ ": '" ++ name ++ "'").toList, ?_⟩
  rw [← String.toList_append]
  refine congrArg String.toList ?_
  simp [undefinedText, String.append_assoc, toString]

theorem missing_eq_nil_iff {owner field : String} {values known : List String} :
    missing owner field values known = [] ↔ ∀ name ∈ referencedNames values, name ∈ known := by
  simp [missing, List.filter_eq_nil_iff]

/-- Some warnings on references are none at all exactly if all names are known. -/
theorem missing_closed_iff {owner field : String} {values known : List String} :
    (∀ w ∈ missing owner field values known, ¬ undefinedText.toList <:+ w.toList) ↔
      ∀ name ∈ referencedNames values, name ∈ known := by
  rw [← missing_eq_nil_iff, List.eq_nil_iff_forall_not_mem]
  exact ⟨fun closed w member => closed w member (suffix_of_mem_missing member),
    fun none w member => absurd member (none w)⟩

/-- Texts that end otherwise do not warn of references. -/
theorem not_suffix_of_last {w : String} (last : w.toList.getLast? = some 's') :
    ¬ undefinedText.toList <:+ w.toList := by
  rintro ⟨front, same⟩
  have other : undefinedText.toList.getLast? = some 't' := by decide
  rw [← same, List.getLast?_append, other] at last
  cases last

theorem userSetWarnings_closed {i : Nat} {u : UserSet} {w : String}
    (member : w ∈ userSetWarnings i u) : ¬ undefinedText.toList <:+ w.toList := by
  unfold userSetWarnings at member
  split at member
  · obtain rfl := List.mem_singleton.mp member
    refine not_suffix_of_last ?_
    rw [String.toList_append, List.getLast?_append]
    rfl
  · cases member

theorem hostGroupWarnings_closed {g : HostGroup} {w : String}
    (member : w ∈ hostGroupWarnings g) : ¬ undefinedText.toList <:+ w.toList := by
  unfold hostGroupWarnings at member
  split at member
  · obtain rfl := List.mem_singleton.mp member
    refine not_suffix_of_last ?_
    rw [String.toList_append, List.getLast?_append]
    rfl
  · cases member

def warningsOf (s : Snapshot) : (k : Kind) → k.Record → List String
  | .clusterQueue, q => queueWarnings s q
  | .parallelEnvironment, pe => parallelEnvWarnings s pe
  | .project, p => projectWarnings s p
  | .user, u => userWarnings s u
  | _, _ => []

theorem warningsOf_closed_iff {s : Snapshot} {k : Kind} {r : k.Record} :
    (∀ w ∈ warningsOf s k r, ¬ undefinedText.toList <:+ w.toList) ↔ Resolved s.keys k r := by
  cases k
  case clusterQueue =>
    simp only [warningsOf, queueWarnings, Resolved, references, List.forall_mem_append,
      missing_closed_iff, List.forall_mem_cons, List.not_mem_nil, false_implies, implies_true,
      and_true, and_assoc]
  case parallelEnvironment =>
    simp only [warningsOf, parallelEnvWarnings, Resolved, references, List.forall_mem_append,
      missing_closed_iff, List.forall_mem_cons, List.not_mem_nil, false_implies, implies_true,
      and_true]
  case project =>
    simp only [warningsOf, projectWarnings, Resolved, references, List.forall_mem_append,
      missing_closed_iff, List.forall_mem_cons, List.not_mem_nil, false_implies, implies_true,
      and_true]
  case user =>
    simp only [warningsOf, userWarnings, Resolved, references]
    split
    · simp only [List.not_mem_nil, false_implies, implies_true]
    · simp only [missing_closed_iff, List.forall_mem_cons, List.not_mem_nil, false_implies,
        implies_true, and_true]
  all_goals
    simp only [warningsOf, Resolved, references, List.not_mem_nil, false_implies, implies_true]

/-- A snapshot is closed exactly if the references of all records are resolved. -/
theorem closed_iff {knownTypes : List String} {s : Snapshot} :
    Closed knownTypes s ↔ ∀ k, ∀ r ∈ s.records k, Resolved s.keys k r := by
  constructor
  · intro closed k r member
    rw [← warningsOf_closed_iff]
    intro w warned
    refine closed w ?_
    simp only [check, List.mem_append, List.mem_flatMap]
    cases k <;> simp only [warningsOf, List.not_mem_nil] at warned
    case clusterQueue => exact .inl (.inl (.inl (.inl (.inr ⟨r, member, warned⟩))))
    case parallelEnvironment => exact .inl (.inl (.inl (.inr ⟨r, member, warned⟩)))
    case project => exact .inl (.inl (.inr ⟨r, member, warned⟩))
    case user => exact .inl (.inr ⟨r, member, warned⟩)
  · intro resolved w warned
    have silent : ∀ k, ∀ r ∈ s.records k, w ∈ warningsOf s k r →
        ¬ undefinedText.toList <:+ w.toList :=
      fun k r member => warningsOf_closed_iff.mpr (resolved k r member) w
    simp only [check, List.mem_append, List.mem_flatMap] at warned
    rcases warned with
      ((((sets | ⟨q, member, inside⟩) | ⟨pe, member, inside⟩) | ⟨p, member, inside⟩) |
        ⟨u, member, inside⟩) | ⟨g, -, inside⟩
    · obtain ⟨⟨u, i⟩, -, inside⟩ := List.mem_flatMap.mp sets
      exact userSetWarnings_closed inside
    · exact silent .clusterQueue q member inside
    · exact silent .parallelEnvironment pe member inside
    · exact silent .project p member inside
    · exact silent .user u member inside
    · exact hostGroupWarnings_closed inside

end Validation
end ClusterConf
