import ClusterConf.Cluster.Kind
import ClusterConf.Cluster.Site
set_option autoImplicit false

/-!
Snapshots: the whole configuration of a cluster. A snapshot holds a list of records for each kind,
`records`, and every operation on entities acts on that list for one kind. Of several records with
one key the first is meant.
-/
namespace ClusterConf

namespace Keyed

variable {α : Type} [Keyed α]

/-- Puts `a` in the place of the first item with its key. -/
def replaceFirst? (a : α) : List α → Option (List α)
  | [] => none
  | b :: rest => if key b = key a then some (a :: rest) else (replaceFirst? a rest).map (b :: ·)

/-- Takes the first item with a key out of a list. -/
def removeFirst? (k : String) : List α → Option (α × List α)
  | [] => none
  | b :: rest =>
    if key b = k then some (b, rest)
    else (removeFirst? k rest).map fun (a, rest) => (a, b :: rest)

end Keyed

/-- The configuration of a cluster. The environment only informs: it is never compared. -/
structure Snapshot where
  environment : Option Environment := none
  globalConfig : Option GlobalConfig := none
  calendars : List Calendar := []
  complexEntries : List ComplexEntry := []
  ckptInterfaces : List CheckpointInterface := []
  hostConfigurations : List HostConfig := []
  execHosts : List ExecHost := []
  adminHosts : List String := []
  submitHosts : List String := []
  hostGroups : List HostGroup := []
  resourceQuotaSets : List QuotaSet := []
  managers : List String := []
  operators : List String := []
  parallelEnvironments : List ParallelEnv := []
  projects : List Project := []
  users : List User := []
  clusterQueues : List Queue := []
  userSetLists : List UserSet := []
  deriving BEq, Inhabited

namespace Snapshot

def empty : Snapshot := {}

/-- The records of one kind, in order. -/
def records (s : Snapshot) : (k : Kind) → List k.Record
  | .userSetList => s.userSetLists
  | .project => s.projects
  | .user => s.users
  | .manager => s.managers
  | .operator => s.operators
  | .hostConfiguration => s.hostConfigurations
  | .hostGroup => s.hostGroups
  | .execHost => s.execHosts
  | .complexEntry => s.complexEntries
  | .calendar => s.calendars
  | .ckptInterface => s.ckptInterfaces
  | .adminHost => s.adminHosts
  | .resourceQuotaSet => s.resourceQuotaSets
  | .parallelEnvironment => s.parallelEnvironments
  | .clusterQueue => s.clusterQueues
  | .submitHost => s.submitHosts

def withRecords (s : Snapshot) : (k : Kind) → List k.Record → Snapshot
  | .userSetList, rs => { s with userSetLists := rs }
  | .project, rs => { s with projects := rs }
  | .user, rs => { s with users := rs }
  | .manager, rs => { s with managers := rs }
  | .operator, rs => { s with operators := rs }
  | .hostConfiguration, rs => { s with hostConfigurations := rs }
  | .hostGroup, rs => { s with hostGroups := rs }
  | .execHost, rs => { s with execHosts := rs }
  | .complexEntry, rs => { s with complexEntries := rs }
  | .calendar, rs => { s with calendars := rs }
  | .ckptInterface, rs => { s with ckptInterfaces := rs }
  | .adminHost, rs => { s with adminHosts := rs }
  | .resourceQuotaSet, rs => { s with resourceQuotaSets := rs }
  | .parallelEnvironment, rs => { s with parallelEnvironments := rs }
  | .clusterQueue, rs => { s with clusterQueues := rs }
  | .submitHost, rs => { s with submitHosts := rs }

@[simp] theorem records_withRecords_self (s : Snapshot) (k : Kind) (rs : List k.Record) :
    (s.withRecords k rs).records k = rs := by
  cases k <;> rfl

theorem records_withRecords_of_ne (s : Snapshot) {k l : Kind} (rs : List k.Record) (h : l ≠ k) :
    (s.withRecords k rs).records l = s.records l := by
  cases k <;> cases l <;> first | rfl | exact absurd rfl h

@[simp] theorem globalConfig_withRecords (s : Snapshot) (k : Kind) (rs : List k.Record) :
    (s.withRecords k rs).globalConfig = s.globalConfig := by
  cases k <;> rfl

@[simp] theorem environment_withRecords (s : Snapshot) (k : Kind) (rs : List k.Record) :
    (s.withRecords k rs).environment = s.environment := by
  cases k <;> rfl

theorem ext_records {s t : Snapshot} (henv : s.environment = t.environment)
    (hglobal : s.globalConfig = t.globalConfig) (h : ∀ k, s.records k = t.records k) : s = t := by
  cases s
  cases t
  simp only [mk.injEq]
  exact ⟨henv, hglobal, h .calendar, h .complexEntry, h .ckptInterface, h .hostConfiguration,
    h .execHost, h .adminHost, h .submitHost, h .hostGroup, h .resourceQuotaSet, h .manager,
    h .operator, h .parallelEnvironment, h .project, h .user, h .clusterQueue, h .userSetList⟩

def entities (s : Snapshot) (k : Kind) : List Entity := (s.records k).map fun r => ⟨k, r⟩

def keys (s : Snapshot) (k : Kind) : List String := (s.records k).map k.key

def count (s : Snapshot) (k : Kind) : Nat := (s.records k).length

def entityCount (s : Snapshot) : Nat := (Kind.creationOrder.flatMap s.entities).length

/-- No entity and no global configuration; the environment does not matter. -/
def isEmpty (s : Snapshot) : Bool := s.globalConfig.isNone && s.entityCount == 0

def queueNames (s : Snapshot) : List String := s.clusterQueues.map Queue.name

def append (s : Snapshot) (k : Kind) (rs : List k.Record) : Snapshot :=
  s.withRecords k (s.records k ++ rs)

/-- Adds an entity at the end of the collection of its kind. -/
def push (s : Snapshot) (e : Entity) : Snapshot := s.append e.kind [e.record]

/-- The entity of a kind and key, if there is one. -/
def get? (s : Snapshot) (k : Kind) (key : String) : Option Entity :=
  ((s.records k).find? fun r => k.key r == key).map fun r => ⟨k, r⟩

/-- Puts an entity in the place of the one with its kind and key, if there is one. -/
def replace? (s : Snapshot) (e : Entity) : Option Snapshot :=
  (Keyed.replaceFirst? e.record (s.records e.kind)).map (s.withRecords e.kind)

/-- Takes out the entity of a kind and key, if there is one. -/
def remove? (s : Snapshot) (k : Kind) (key : String) : Option (Entity × Snapshot) :=
  (Keyed.removeFirst? key (s.records k)).map fun (r, rs) => (⟨k, r⟩, s.withRecords k rs)

/-- How a snapshot is held in documents: what is unset at the top is left out, and all collections
are always there. -/
def layout : Layout Snapshot where
  fields := [
    .sparseOf (.optional (.record Environment.layout)) "cluster_environment" (·.environment)
      fun s v => { s with environment := v },
    .sparseOf (.optional (.record GlobalConfig.layout)) "global_config" (·.globalConfig)
      fun s v => { s with globalConfig := v }] ++
    ([.calendar, .complexEntry, .ckptInterface, .hostConfiguration, .execHost, .adminHost,
        .submitHost, .hostGroup, .resourceQuotaSet, .manager, .operator, .parallelEnvironment,
        .project, .user, .clusterQueue, .userSetList] : List Kind).map fun k =>
      .of (.list k.codec) k.collection (·.records k) fun s v => s.withRecords k v
  blank := {}
  strict := false

def codec : Codec Snapshot := .record layout

def read? {ν : Type} (src : Source ν) (limit : Nat) (v : ν) : Option Snapshot :=
  codec.read? src limit v

def toDocument (s : Snapshot) : Document := codec.write s

end Snapshot
end ClusterConf
