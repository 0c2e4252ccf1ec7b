import ClusterConf.Proofs.NameLists
import ClusterConf.Proofs.References
set_option autoImplicit false

/-!
Warnings on references. Main statement: for each field that names entities a check warns exactly of
those names, one by one and in order, that are neither `NONE` nor keys of the kind that the field
refers to, and how the names are written makes no difference.
-/
namespace ClusterConf.Validation

/-- A field whose values name entities of some kind. -/
structure ReferenceField where
  name : String
  values : List String
  target : Kind

/-- The fields of a record that name entities, in the order in which they are checked. Host lists
are not among them, since they name hosts too. -/
def referenceFields : (k : Kind) → k.Record → List ReferenceField
  | .clusterQueue, q => [⟨"pe_list", Queue.peList q, .parallelEnvironment⟩,
      ⟨"ckpt_list", Queue.ckptList q, .ckptInterface⟩, ⟨"calendar", Queue.calendar q, .calendar⟩,
      ⟨"user_lists", Queue.userLists q, .userSetList⟩,
      ⟨"xuser_lists", Queue.xuserLists q, .userSetList⟩,
      ⟨"projects", Queue.projects q, .project⟩, ⟨"xprojects", Queue.xprojects q, .project⟩]
  | .parallelEnvironment, pe => [⟨"user_lists", ParallelEnv.userLists pe, .userSetList⟩,
      ⟨"xuser_lists", ParallelEnv.xuserLists pe, .userSetList⟩]
  | .project, p => [⟨"acl", Project.acl p, .userSetList⟩, ⟨"xacl", Project.xacl p, .userSetList⟩]
  | .user, u => [⟨"default_project", [User.defaultProject u], .project⟩]
  | _, _ => []

/-- How warnings call a record. -/
def owner (k : Kind) (r : k.Record) : String := s!"{k.label} '{k.key r}'"

def undefinedWarning (owner field name : String) : String :=
  s!"{owner}.{field}: '{name}' is not defined in the snapshot"

/-- The names that are to refer to something and do not. -/
def dangling (known names : List String) : List String :=
  names.filter fun name => decide (¬ IsNone name ∧ name ∉ known)

/-- The warnings that are due on the fields of a record, given the names that each of them lists. -/
def danglingWarnings (s : Snapshot) (names : ReferenceField → List String) (k : Kind)
    (r : k.Record) : List String :=
  (referenceFields k r).flatMap fun f =>
    (dangling (s.keys f.target) (names f)).map (undefinedWarning (owner k r) f.name)

def fieldWarnings (s : Snapshot) (k : Kind) (r : k.Record) : List String :=
  (referenceFields k r).flatMap fun f => missing (owner k r) f.name f.values (s.keys f.target)

/-- The host list of a record that is checked for groups: that of a queue. -/
def hostListOf : (k : Kind) → k.Record → List String
  | .clusterQueue, q => Queue.hostList q
  | _, _ => []

def hostListWarnings (s : Snapshot) (k : Kind) (r : k.Record) : List String :=
  missing (owner k r) "hostlist" ((hostListOf k r).filter (·.startsWith "@")) (s.keys .hostGroup)

/-- The kinds whose records are checked for references, in the order of the checks. -/
def referringKinds : List Kind := [.clusterQueue, .parallelEnvironment, .project, .user]

/-- The warnings of a check that are on references. -/
def referenceWarnings (knownTypes : List String) (s : Snapshot) : List String :=
  (check knownTypes s).warnings.filter fun w => decide (undefinedText.toList <:+ w.toList)

theorem missing_of_listed {names values : List String} (listed : Listed names values)
    (owner field : String) (known : List String) :
    missing owner field values known = (dangling known names).map (undefinedWarning owner field) := by
  have kept : (names.filter fun name => decide ¬ IsNone name).filter (!known.contains ·) =
      dangling known names := by
    rw [List.filter_filter, dangling]
    refine List.filter_congr fun name _ => ?_
    by_cases inside : name ∈ known <;> by_cases none : IsNone name <;> simp [inside, none]
  rw [missing, listed.referencedNames, kept]
  rfl

/-- A record is checked field by field, and then its host list. -/
theorem warningsOf_eq (s : Snapshot) (k : Kind) (r : k.Record) :
    warningsOf s k r = fieldWarnings s k r ++ hostListWarnings s k r := by
  have unlisted : hostListOf k r = [] → hostListWarnings s k r = [] := by
    intro none
    rw [hostListWarnings, none]
    rfl
  cases k with
  | clusterQueue =>
    simp only [warningsOf, queueWarnings, fieldWarnings, referenceFields, hostListWarnings,
      List.flatMap_cons, List.flatMap_nil, List.append_nil, List.append_assoc]
    rfl
  | parallelEnvironment =>
    rw [unlisted rfl]
    simp only [warningsOf, parallelEnvWarnings, fieldWarnings, referenceFields, List.flatMap_cons,
      List.flatMap_nil, List.append_nil]
    rfl
  | project =>
    rw [unlisted rfl]
    simp only [warningsOf, projectWarnings, fieldWarnings, referenceFields, List.flatMap_cons,
      List.flatMap_nil, List.append_nil]
    rfl
  | user =>
    rw [unlisted rfl]
    simp only [warningsOf, userWarnings, fieldWarnings, referenceFields, List.flatMap_cons,
      List.flatMap_nil, List.append_nil]
    -- A default project that is left empty names nothing.
    split
    · rename_i empty
      have blank : r.defaultProject = "" := by simpa using empty
      rw [blank]
      rfl
    · rfl
  | _ => exact (unlisted rfl).symm

theorem undefined_of_mem_warningsOf {s : Snapshot} {k : Kind} {r : k.Record} {w : String}
    (member : w ∈ warningsOf s k r) : undefinedText.toList <:+ w.toList := by
  rw [warningsOf_eq, List.mem_append] at member
  rcases member with onField | onHosts
  · obtain ⟨f, -, warned⟩ := List.mem_flatMap.mp onField
    exact suffix_of_mem_missing warned
  · exact suffix_of_mem_missing onHosts

/-- A rule that says nothing of references has no part in the warnings on them. -/
theorem filter_undefined_eq_nil {α : Type} (rule : α → List String)
    (other : ∀ x w, w ∈ rule x → ¬ undefinedText.toList <:+ w.toList) (xs : List α) :
    (xs.flatMap rule).filter (fun w => decide (undefinedText.toList <:+ w.toList)) = [] := by
  refine List.filter_eq_nil_iff.mpr fun w member => ?_
  obtain ⟨x, -, warned⟩ := List.mem_flatMap.mp member
  simpa using other x w warned

/-- The warnings of a check: on user sets, on references record by record, and on host groups. -/
theorem warnings_eq (knownTypes : List String) (s : Snapshot) :
    (check knownTypes s).warnings = eachWithIndex userSetWarnings s.userSetLists ++
      (referringKinds.flatMap fun k => (s.records k).flatMap (warningsOf s k)) ++
      s.hostGroups.flatMap hostGroupWarnings := by
  simp only [check, referringKinds, List.flatMap_cons, List.flatMap_nil, List.append_nil,
    List.append_assoc]
  rfl

theorem referenceWarnings_eq (knownTypes : List String) (s : Snapshot) :
    referenceWarnings knownTypes s =
      referringKinds.flatMap fun k => (s.records k).flatMap (warningsOf s k) := by
  have sets : (eachWithIndex userSetWarnings s.userSetLists).filter
      (fun w => decide (undefinedText.toList <:+ w.toList)) = [] :=
    filter_undefined_eq_nil _ (fun _ _ => userSetWarnings_closed) _
  have groups := filter_undefined_eq_nil hostGroupWarnings
    (fun _ _ => hostGroupWarnings_closed) s.hostGroups
  have onRecords : ((referringKinds.flatMap fun k => (s.records k).flatMap (warningsOf s k)).filter
        fun w => decide (undefinedText.toList <:+ w.toList)) =
      referringKinds.flatMap fun k => (s.records k).flatMap (warningsOf s k) := by
    refine List.filter_eq_self.mpr fun w member => ?_
    obtain ⟨k, -, ofKind⟩ := List.mem_flatMap.mp member
    obtain ⟨r, -, warned⟩ := List.mem_flatMap.mp ofKind
    exact decide_eq_true (undefined_of_mem_warningsOf warned)
  rw [referenceWarnings, warnings_eq, List.filter_append, List.filter_append, sets, onRecords, groups,
    List.nil_append, List.append_nil]

/-- Rules that say the same of the items of two lists in turn say the same of the lists. -/
theorem flatMap_eq_of_forall₂ {α β γ : Type} {f : α → List γ} {g : β → List γ} {xs : List α}
    {ys : List β} (same : List.Forall₂ (fun x y => f x = g y) xs ys) :
    xs.flatMap f = ys.flatMap g := by
  induction same with
  | nil => rfl
  | cons first _ ih => rw [List.flatMap_cons, List.flatMap_cons, first, ih]

theorem fieldWarnings_of_listed {s : Snapshot} {k : Kind} {r : k.Record}
    {names : ReferenceField → List String}
    (listed : ∀ f ∈ referenceFields k r, Listed (names f) f.values) :
    fieldWarnings s k r = danglingWarnings s names k r := by
  refine flatMap_eq_of_forall₂ (List.forall₂_same.mpr fun f member => ?_)
  exact missing_of_listed (listed f member) _ _ _

/-- Fields that list the same names, each in its own way. -/
def ListAlike (f g : ReferenceField) : Prop :=
  f.name = g.name ∧ f.target = g.target ∧ ∃ names, Listed names f.values ∧ Listed names g.values

/-- Records with the same key, the same host list and fields that list the same names. -/
structure RecordsAlike (k : Kind) (r r' : k.Record) : Prop where
  key : k.key r = k.key r'
  hostList : hostListOf k r = hostListOf k r'
  fields : List.Forall₂ ListAlike (referenceFields k r) (referenceFields k r')

/-- Snapshots that differ in how their records name others, and in nothing else that references are
made by. -/
def ReferAlike (s t : Snapshot) : Prop :=
  ∀ k, List.Forall₂ (RecordsAlike k) (s.records k) (t.records k)

theorem ReferAlike.keys {s t : Snapshot} (alike : ReferAlike s t) : s.keys = t.keys := by
  funext k
  have same : ∀ {rs rs' : List k.Record}, List.Forall₂ (RecordsAlike k) rs rs' →
      rs.map k.key = rs'.map k.key := by
    intro rs rs' pairs
    induction pairs with
    | nil => rfl
    | cons first _ ih => rw [List.map_cons, List.map_cons, first.key, ih]
  exact same (alike k)

theorem warningsOf_alike {s t : Snapshot} (keys : s.keys = t.keys) {k : Kind} {r r' : k.Record}
    (alike : RecordsAlike k r r') : warningsOf s k r = warningsOf t k r' := by
  have fields : fieldWarnings s k r = fieldWarnings t k r' := by
    refine flatMap_eq_of_forall₂ (alike.fields.imp fun f g pair => ?_)
    obtain ⟨name, target, names, listed, listed'⟩ := pair
    rw [missing_of_listed listed, missing_of_listed listed', owner, owner, alike.key, name, target,
      keys]
  have hosts : hostListWarnings s k r = hostListWarnings t k r' := by
    rw [hostListWarnings, hostListWarnings, owner, owner, alike.key, alike.hostList, keys]
  rw [warningsOf_eq, warningsOf_eq, fields, hosts]

/--
A check warns of references exactly as is due: record by record and field by field, once for each
occurrence of a name that is neither `NONE` nor a key of the kind that the field refers to. How the
names are spread over the values of a field and whether they are given for one host makes no
difference.
-/
theorem references_are_warned_of (knownTypes : List String) (s : Snapshot)
    (names : ReferenceField → List String)
    (listed : ∀ k, ∀ r ∈ s.records k, ∀ f ∈ referenceFields k r, Listed (names f) f.values) :
    (referenceWarnings knownTypes s = referringKinds.flatMap fun k =>
      (s.records k).flatMap fun r => danglingWarnings s names k r ++ hostListWarnings s k r) ∧
    ∀ t, ReferAlike s t → referenceWarnings knownTypes t = referenceWarnings knownTypes s := by
  constructor
  · rw [referenceWarnings_eq]
    refine flatMap_eq_of_forall₂ (List.forall₂_same.mpr fun k _ => ?_)
    refine flatMap_eq_of_forall₂ (List.forall₂_same.mpr fun r member => ?_)
    rw [warningsOf_eq, fieldWarnings_of_listed (listed k r member)]
  · intro t alike
    rw [referenceWarnings_eq, referenceWarnings_eq]
    refine (flatMap_eq_of_forall₂ (List.forall₂_same.mpr fun k _ => ?_)).symm
    exact flatMap_eq_of_forall₂ ((alike k).imp fun _ _ => warningsOf_alike alike.keys)

theorem listed_nil : Listed [] [] := ⟨[], rfl, .nil⟩

/-- A queue that names parallel environments, and a user with a default project. -/
def referring (peList : List String) : Snapshot where
  clusterQueues := [{ name := "all.q", peList, hostList := ["@all"] }]
  parallelEnvironments := [{ name := "mpi" }]
  users := [{ name := "alice", defaultProject := "p1" }]

theorem references_are_warned_of_spread :
    let spread := referring ["mpi, smp", " [node1=NoNe,mpi openmp]"]
    let joined := referring ["mpi smp,NoNe", "[node2=mpi]", "openmp "]
    let names : ReferenceField → List String := fun f =>
      if f.name = "pe_list" then ["mpi", "smp", "NoNe", "mpi", "openmp"]
      else if f.name = "default_project" then ["p1"] else []
    (∀ k, ∀ r ∈ spread.records k, ∀ f ∈ referenceFields k r, Listed (names f) f.values) ∧
      ReferAlike spread joined ∧
      referenceWarnings [] spread =
        ["cluster queue 'all.q'.pe_list: 'smp' is not defined in the snapshot",
          "cluster queue 'all.q'.pe_list: 'openmp' is not defined in the snapshot",
          "cluster queue 'all.q'.hostlist: '@all' is not defined in the snapshot",
          "user 'alice'.default_project: 'p1' is not defined in the snapshot"] ∧
      referenceWarnings [] joined = referenceWarnings [] spread := by
  intro spread joined names
  have blank : ∀ c ∈ [' '], Text.isBlank c = true := List.forall_mem_singleton.mpr rfl
  have noBlank : ∀ c ∈ ([] : List Char), Text.isBlank c = true := List.forall_mem_nil _
  have listedSpread : Listed ["mpi", "smp", "NoNe", "mpi", "openmp"]
      ["mpi, smp", " [node1=NoNe,mpi openmp]"] := by
    refine ⟨[["mpi", "smp"], ["NoNe", "mpi", "openmp"]], rfl, .cons (.plain (by decide))
      (.cons ?_ .nil)⟩
    exact .forHost blank noBlank (by decide : '=' ∉ "node1".toList)
      (by decide : Listing ["NoNe", "mpi", "openmp"] "NoNe,mpi openmp".toList)
  have listedJoined : Listed ["mpi", "smp", "NoNe", "mpi", "openmp"]
      ["mpi smp,NoNe", "[node2=mpi]", "openmp "] := by
    refine ⟨[["mpi", "smp", "NoNe"], ["mpi"], ["openmp"]], rfl, .cons (.plain (by decide))
      (.cons ?_ (.cons (.plain (by decide)) .nil))⟩
    exact .forHost noBlank noBlank (by decide : '=' ∉ "node2".toList)
      (by decide : Listing ["mpi"] "mpi".toList)
  have listedProject : Listed ["p1"] ["p1"] := ⟨[["p1"]], rfl, .cons (.plain (by decide)) .nil⟩
  have listed : ∀ k, ∀ r ∈ spread.records k, ∀ f ∈ referenceFields k r,
      Listed (names f) f.values := by
    intro k r member f field
    cases k with
    | clusterQueue =>
      obtain rfl := List.mem_singleton.mp member
      simp only [referenceFields, List.mem_cons, List.not_mem_nil, or_false] at field
      rcases field with rfl | rfl | rfl | rfl | rfl | rfl | rfl
      · exact listedSpread
      all_goals exact listed_nil
    | parallelEnvironment =>
      obtain rfl := List.mem_singleton.mp member
      simp only [referenceFields, List.mem_cons, List.not_mem_nil, or_false] at field
      rcases field with rfl | rfl
      all_goals exact listed_nil
    | user =>
      obtain rfl := List.mem_singleton.mp member
      obtain rfl := List.mem_singleton.mp field
      exact listedProject
    | _ => cases member
  have alike : ReferAlike spread joined := by
    have unset : ∀ (field : String) (k : Kind), ListAlike ⟨field, [], k⟩ ⟨field, [], k⟩ :=
      fun _ _ => ⟨rfl, rfl, [], listed_nil, listed_nil⟩
    intro k
    cases k with
    | clusterQueue =>
      refine .cons ⟨rfl, rfl, .cons ⟨rfl, rfl, _, listedSpread, listedJoined⟩ ?_⟩ .nil
      exact .cons (unset _ _) (.cons (unset _ _) (.cons (unset _ _) (.cons (unset _ _)
        (.cons (unset _ _) (.cons (unset _ _) .nil)))))
    | parallelEnvironment =>
      exact .cons ⟨rfl, rfl, .cons (unset _ _) (.cons (unset _ _) .nil)⟩ .nil
    | user => exact .cons ⟨rfl, rfl, .cons ⟨rfl, rfl, _, listedProject, listedProject⟩ .nil⟩ .nil
    | _ => exact .nil
  obtain ⟨due, same⟩ := references_are_warned_of [] spread names listed
  exact ⟨listed, alike, due.trans (by decide +kernel), same joined alike⟩

end ClusterConf.Validation
