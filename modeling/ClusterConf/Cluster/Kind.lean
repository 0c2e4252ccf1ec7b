import ClusterConf.Cluster.Accounts
import ClusterConf.Cluster.Hosts
import ClusterConf.Cluster.Resources
import ClusterConf.Cluster.Queues
set_option autoImplicit false

/-!
The sixteen kinds of entities in a cluster: their names, their records, and the order in which they
are created. Records of a kind are told apart by their keys.
-/
namespace ClusterConf

/-- Values with a key that identifies them within a collection. -/
class Keyed (α : Type) where
  key : α → String
  /-- The field that holds the key, `none` for a value that is its own key. -/
  keyField : Option String

/-- Names are their own keys. -/
instance : Keyed String := ⟨id, none⟩

inductive Kind where
  | userSetList
  | project
  | user
  | manager
  | operator
  | hostConfiguration
  | hostGroup
  | execHost
  | complexEntry
  | calendar
  | ckptInterface
  | adminHost
  | resourceQuotaSet
  | parallelEnvironment
  | clusterQueue
  | submitHost
  deriving DecidableEq, Inhabited

namespace Kind

/-- Kinds are created in this order: later ones refer to earlier ones by name. -/
def creationOrder : List Kind :=
  [.userSetList, .project, .user, .manager, .operator, .hostConfiguration, .hostGroup, .execHost,
    .complexEntry, .calendar, .ckptInterface, .adminHost, .resourceQuotaSet,
    .parallelEnvironment, .clusterQueue, .submitHost]

/-- Kinds are deleted in the opposite order, so that no entity goes before those that refer to it.
-/
def deletionOrder : List Kind := creationOrder.reverse

def collection : Kind → String
  | userSetList => "user_set_lists"
  | project => "projects"
  | user => "users"
  | manager => "managers"
  | operator => "operators"
  | hostConfiguration => "host_configurations"
  | hostGroup => "host_groups"
  | execHost => "exec_hosts"
  | complexEntry => "complex_entries"
  | calendar => "calendars"
  | ckptInterface => "ckpt_interfaces"
  | adminHost => "admin_hosts"
  | resourceQuotaSet => "resource_quota_sets"
  | parallelEnvironment => "parallel_environments"
  | clusterQueue => "cluster_queues"
  | submitHost => "submit_hosts"

def label : Kind → String
  | userSetList => "user set list"
  | project => "project"
  | user => "user"
  | manager => "manager"
  | operator => "operator"
  | hostConfiguration => "host configuration"
  | hostGroup => "host group"
  | execHost => "exec host"
  | complexEntry => "complex entry"
  | calendar => "calendar"
  | ckptInterface => "checkpoint interface"
  | adminHost => "admin host"
  | resourceQuotaSet => "resource quota set"
  | parallelEnvironment => "parallel environment"
  | clusterQueue => "cluster queue"
  | submitHost => "submit host"

/-- The field that holds the key, `none` for the flat kinds, whose records are names. -/
def keyField? : Kind → Option String
  | manager | operator | adminHost | submitHost => none
  | calendar => some "calendar_name"
  | ckptInterface => some "ckpt_name"
  | execHost => some "hostname"
  | hostGroup => some "group_name"
  | parallelEnvironment => some "pe_name"
  | clusterQueue => some "qname"
  | userSetList | project | user | hostConfiguration | complexEntry | resourceQuotaSet =>
    some "name"

def isFlat (k : Kind) : Bool := k.keyField?.isNone

abbrev Record : Kind → Type
  | userSetList => UserSet
  | project => Project
  | user => User
  | manager => String
  | operator => String
  | hostConfiguration => HostConfig
  | hostGroup => HostGroup
  | execHost => ExecHost
  | complexEntry => ComplexEntry
  | calendar => Calendar
  | ckptInterface => CheckpointInterface
  | adminHost => String
  | resourceQuotaSet => QuotaSet
  | parallelEnvironment => ParallelEnv
  | clusterQueue => Queue
  | submitHost => String

def key : (k : Kind) → k.Record → String
  | userSetList, r => UserSet.name r
  | project, r => Project.name r
  | user, r => User.name r
  | manager, r => r
  | operator, r => r
  | hostConfiguration, r => HostConfig.name r
  | hostGroup, r => HostGroup.name r
  | execHost, r => ExecHost.name r
  | complexEntry, r => ComplexEntry.name r
  | calendar, r => Calendar.name r
  | ckptInterface, r => CheckpointInterface.name r
  | adminHost, r => r
  | resourceQuotaSet, r => QuotaSet.name r
  | parallelEnvironment, r => ParallelEnv.name r
  | clusterQueue, r => Queue.name r
  | submitHost, r => r

instance (k : Kind) : Keyed k.Record := ⟨k.key, k.keyField?⟩

instance : (k : Kind) → BEq k.Record
  | userSetList => inferInstanceAs (BEq UserSet)
  | project => inferInstanceAs (BEq Project)
  | user => inferInstanceAs (BEq User)
  | manager => inferInstanceAs (BEq String)
  | operator => inferInstanceAs (BEq String)
  | hostConfiguration => inferInstanceAs (BEq HostConfig)
  | hostGroup => inferInstanceAs (BEq HostGroup)
  | execHost => inferInstanceAs (BEq ExecHost)
  | complexEntry => inferInstanceAs (BEq ComplexEntry)
  | calendar => inferInstanceAs (BEq Calendar)
  | ckptInterface => inferInstanceAs (BEq CheckpointInterface)
  | adminHost => inferInstanceAs (BEq String)
  | resourceQuotaSet => inferInstanceAs (BEq QuotaSet)
  | parallelEnvironment => inferInstanceAs (BEq ParallelEnv)
  | clusterQueue => inferInstanceAs (BEq Queue)
  | submitHost => inferInstanceAs (BEq String)

def codec : (k : Kind) → Codec k.Record
  | userSetList => .record UserSet.layout
  | project => .record Project.layout
  | user => .record User.layout
  | manager => .text
  | operator => .text
  | hostConfiguration => .record HostConfig.layout
  | hostGroup => .record HostGroup.layout
  | execHost => .record ExecHost.layout
  | complexEntry => .record ComplexEntry.layout
  | calendar => .record Calendar.layout
  | ckptInterface => .record CheckpointInterface.layout
  | adminHost => .text
  | resourceQuotaSet => .record QuotaSet.layout
  | parallelEnvironment => .record ParallelEnv.layout
  | clusterQueue => .record Queue.layout
  | submitHost => .text

/-- The record that a listed key stands for by itself: flat kinds have nothing else to read. -/
def ofKey? : (k : Kind) → String → Option k.Record
  | manager, key | operator, key | adminHost, key | submitHost, key => some key
  | _, _ => none

end Kind

/-- One record of any kind. -/
structure Entity where
  kind : Kind
  record : kind.Record

namespace Entity

def key (e : Entity) : String := e.kind.key e.record

end Entity
end ClusterConf
