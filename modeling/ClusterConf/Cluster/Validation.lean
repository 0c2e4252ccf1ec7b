import ClusterConf.Cluster.Snapshot
import ClusterConf.Text.Blank
set_option autoImplicit false

/-!
Validation of snapshots. Errors are keys that cannot be used and values out of their range;
warnings are references to entities that the snapshot does not hold and things that are empty.
-/
namespace ClusterConf

/-- What is wrong, and in which field. -/
structure Fault where
  field : String
  message : String
  deriving DecidableEq

def Fault.text (f : Fault) : String := f.field ++ ": " ++ f.message

structure Validation where
  errors : List Fault
  warnings : List String

namespace Validation

/-- Warnings do not make a snapshot invalid. -/
def isValid (v : Validation) : Bool := v.errors.isEmpty

def valueTypes : List String :=
  ["INT", "DOUBLE", "MEMORY", "TIME", "STRING", "CSTRING", "RESTRING", "HOST", "BOOL", "RSMAP"]

def relationalOperators : List String := ["==", "<", ">", "<=", ">=", "!=", "EXCL"]

def requestableValues : List String := ["YES", "NO", "FORCED"]

def consumableValues : List String := ["YES", "NO", "JOB", "HOST"]

def userSetTypes : List String := ["ACL", "DEPT"]

/-- Characters that no name may hold. -/
def reserved : List Char :=
  [',', '/', ':', '\'', '"', '\\', '[', ']', '\x7b', '\x7d', '|', '(', ')', '=']

/-- Names are not empty and hold neither blanks nor separators nor quotes. -/
def isName (name : String) : Bool :=
  !name.isEmpty && !name.toList.any fun c => Text.isBlank c || reserved.contains c

def keyPath (k : Kind) (i : Nat) : String :=
  match k.keyField? with
  | none => s!"{k.collection}[{i}]"
  | some name => s!"{k.collection}[{i}].{name}"

def duplicateMessage (k : Kind) (key : String) : String := s!"Duplicate {k.label} name: {key}"

/-- What is wrong with one key, given the keys before it. -/
def keyFault? (k : Kind) (seen : List String) (key : String) : Option String :=
  if key.isEmpty then some s!"{k.label} name cannot be empty"
  else if seen.contains key then some (duplicateMessage k key)
  else if !isName key then
    some s!"{k.label} name '{key}' contains whitespace or reserved characters"
  else if k = .hostGroup && !key.startsWith "@" then
    some s!"Host group name '{key}' must start with '@'"
  else none

/-- The faults of the keys from position `i` on, in order. -/
def keyFaults (k : Kind) : Nat → List String → List String → List Fault
  | _, _, [] => []
  | i, seen, key :: rest =>
    let later := keyFaults k (i + 1) (key :: seen) rest
    match keyFault? k seen key with
    | some message => ⟨keyPath k i, message⟩ :: later
    | none => later

/-- A value of an enumeration may be left empty. -/
def enumFault? (prefixPath entry name value : String) (allowed : List String) : Option Fault :=
  if value.isEmpty || allowed.contains value then none
  else
    let choices := ", ".intercalate allowed
    some ⟨s!"{prefixPath}.{name}",
      s!"Complex entry '{entry}' has invalid {name} '{value}', expected one of {choices}"⟩

/-- The faults of a complex entry apart from its key. -/
def complexFaults (knownTypes : List String) (i : Nat) (e : ComplexEntry) : List Fault :=
  let path := s!"complex_entries[{i}]"
  let typeFault :=
    if knownTypes.contains e.valueType then []
    else [⟨s!"{path}.type", s!"Complex entry '{e.name}' has unknown type '{e.valueType}'"⟩]
  typeFault ++
    (enumFault? path e.name "relop" e.relop relationalOperators).toList ++
    (enumFault? path e.name "requestable" e.requestable requestableValues).toList ++
    (enumFault? path e.name "consumable" e.consumable consumableValues).toList

/-- Every word of the types of a user set has to be one of those known. -/
def userSetFaults (i : Nat) (u : UserSet) : List Fault :=
  if (Text.words u.types.toList).all fun w => userSetTypes.contains (String.ofList w) then []
  else [⟨s!"user_set_lists[{i}].type", s!"User set list '{u.name}' has invalid type '{u.types}'"⟩]

def userSetWarnings (i : Nat) (u : UserSet) : List String :=
  if u.entries.isEmpty then [s!"user_set_lists[{i}]: '{u.name}' has no entries"] else []

/-- A parallel environment has no negative number of slots. -/
def slotFaults (i : Nat) (pe : ParallelEnv) : List Fault :=
  if pe.slots < 0 then
    [⟨s!"parallel_environments[{i}].slots",
      s!"Parallel environment '{pe.name}' has negative slot count {pe.slots}"⟩]
  else []

/-- What one value of an attribute says: the part after the first equals sign of an override in
brackets, or else the whole. -/
def attributeText (value : String) : List Char :=
  match Text.trim value.toList with
  | '[' :: rest =>
    if rest.getLast? = some ']' then
      let inner := rest.dropLast
      match inner.dropWhile (· ≠ '=') with
      | _ :: after => after
      | [] => inner
    else '[' :: rest
  | cs => cs

/-- The names that the values of an attribute refer to; the word `NONE` refers to nothing. -/
def referencedNames (values : List String) : List String :=
  (values.flatMap fun v => (Text.words (attributeText v)).map String.ofList).filter
    fun name => !Text.sameLetters name "NONE"

/-- One warning for each name that is not known. -/
def missing (owner field : String) (values known : List String) : List String :=
  ((referencedNames values).filter fun name => !known.contains name).map fun name =>
    s!"{owner}.{field}: '{name}' is not defined in the snapshot"

def queueWarnings (s : Snapshot) (q : Queue) : List String :=
  let owner := s!"cluster queue '{q.name}'"
  missing owner "pe_list" q.peList (s.keys .parallelEnvironment) ++
  missing owner "ckpt_list" q.ckptList (s.keys .ckptInterface) ++
  missing owner "calendar" q.calendar (s.keys .calendar) ++
  missing owner "user_lists" q.userLists (s.keys .userSetList) ++
  missing owner "xuser_lists" q.xuserLists (s.keys .userSetList) ++
  missing owner "projects" q.projects (s.keys .project) ++
  missing owner "xprojects" q.xprojects (s.keys .project) ++
  missing owner "hostlist" (q.hostList.filter (·.startsWith "@")) (s.keys .hostGroup)

def parallelEnvWarnings (s : Snapshot) (pe : ParallelEnv) : List String :=
  let owner := s!"parallel environment '{pe.name}'"
  missing owner "user_lists" pe.userLists (s.keys .userSetList) ++
  missing owner "xuser_lists" pe.xuserLists (s.keys .userSetList)

def projectWarnings (s : Snapshot) (p : Project) : List String :=
  let owner := s!"project '{p.name}'"
  missing owner "acl" p.acl (s.keys .userSetList) ++
  missing owner "xacl" p.xacl (s.keys .userSetList)

/-- Warnings on the default project of a user, which may be left empty. -/
def userWarnings (s : Snapshot) (u : User) : List String :=
  if u.defaultProject.isEmpty then []
  else missing s!"user '{u.name}'" "default_project" [u.defaultProject] (s.keys .project)

def hostGroupWarnings (g : HostGroup) : List String :=
  if g.members.isEmpty then [s!"host group '{g.name}' has no members"] else []

/-- Applies a rule to each item of a list and its position. -/
def eachWithIndex {α β : Type} (rule : Nat → α → List β) (xs : List α) : List β :=
  xs.zipIdx.flatMap fun (x, i) => rule i x

/-- Checks a snapshot, given the value types that complex entries may have. -/
def check (knownTypes : List String) (s : Snapshot) : Validation where
  errors :=
    (Kind.creationOrder.flatMap fun k => keyFaults k 0 [] (s.keys k)) ++
    eachWithIndex (complexFaults knownTypes) s.complexEntries ++
    eachWithIndex userSetFaults s.userSetLists ++
    eachWithIndex slotFaults s.parallelEnvironments
  warnings :=
    eachWithIndex userSetWarnings s.userSetLists ++
    s.clusterQueues.flatMap (queueWarnings s) ++
    s.parallelEnvironments.flatMap (parallelEnvWarnings s) ++
    s.projects.flatMap (projectWarnings s) ++
    s.users.flatMap (userWarnings s) ++
    s.hostGroups.flatMap hostGroupWarnings

end Validation
end ClusterConf
