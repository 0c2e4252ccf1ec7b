import ClusterConf.Codec
set_option autoImplicit false

/-!
What jobs ask for: resource attributes, calendars, checkpointing, quotas and parallel
environments.
Each record comes with the layout of its fields in documents; every field has a default.
-/
namespace ClusterConf

/-- Complex entry (resource attribute) definition. -/
structure ComplexEntry where
  name : String := ""
  shortcut : String := ""
  valueType : String := ""
  relop : String := ""
  requestable : String := ""
  consumable : String := ""
  defaultValue : String := ""
  urgency : Int64 := 0
  deriving DecidableEq, Inhabited

def ComplexEntry.layout : Layout ComplexEntry where
  fields := [
    .text "name" (·.name) fun r v => { r with name := v },
    .text "shortcut" (·.shortcut) fun r v => { r with shortcut := v },
    .text "type" (·.valueType) fun r v => { r with valueType := v },
    .text "relop" (·.relop) fun r v => { r with relop := v },
    .text "requestable" (·.requestable) fun r v => { r with requestable := v },
    .text "consumable" (·.consumable) fun r v => { r with consumable := v },
    .text "default" (·.defaultValue) fun r v => { r with defaultValue := v },
    .integer "urgency" (·.urgency) fun r v => { r with urgency := v }]
  blank := {}
  strict := false

structure Calendar where
  name : String := ""
  year : String := ""
  week : String := ""
  deriving DecidableEq, Inhabited

def Calendar.layout : Layout Calendar where
  fields := [
    .text "calendar_name" (·.name) fun r v => { r with name := v },
    .text "year" (·.year) fun r v => { r with year := v },
    .text "week" (·.week) fun r v => { r with week := v }]
  blank := {}
  strict := false

structure CheckpointInterface where
  name : String := ""
  interfaceType : String := ""
  cleanCommand : String := ""
  ckptCommand : String := ""
  migrCommand : String := ""
  restartCommand : String := ""
  ckptDir : String := ""
  signal : String := ""
  occasion : String := ""
  deriving DecidableEq, Inhabited

def CheckpointInterface.layout : Layout CheckpointInterface where
  fields := [
    .text "ckpt_name" (·.name) fun r v => { r with name := v },
    .text "interface" (·.interfaceType) fun r v => { r with interfaceType := v },
    .text "clean_command" (·.cleanCommand) fun r v => { r with cleanCommand := v },
    .text "ckpt_command" (·.ckptCommand) fun r v => { r with ckptCommand := v },
    .text "migr_command" (·.migrCommand) fun r v => { r with migrCommand := v },
    .text "restart_command" (·.restartCommand) fun r v => { r with restartCommand := v },
    .text "ckpt_dir" (·.ckptDir) fun r v => { r with ckptDir := v },
    .text "signal" (·.signal) fun r v => { r with signal := v },
    .text "when" (·.occasion) fun r v => { r with occasion := v }]
  blank := {}
  strict := false

structure QuotaSet where
  name : String := ""
  description : String := ""
  enabled : Bool := false
  limits : List String := []
  deriving DecidableEq, Inhabited

def QuotaSet.layout : Layout QuotaSet where
  fields := [
    .text "name" (·.name) fun r v => { r with name := v },
    .text "description" (·.description) fun r v => { r with description := v },
    .flag "enabled" (·.enabled) fun r v => { r with enabled := v },
    .texts "limits" (·.limits) fun r v => { r with limits := v }]
  blank := {}
  strict := false

structure ParallelEnv where
  name : String := ""
  slots : Int64 := 0
  userLists : List String := []
  xuserLists : List String := []
  startProcArgs : String := ""
  stopProcArgs : String := ""
  allocationRule : String := ""
  controlSlaves : String := ""
  jobIsFirstTask : Bool := false
  urgencySlots : String := ""
  accountingSummary : Bool := false
  ignoreSlaveRequestsOnMasterHost : Bool := false
  masterForksSlaves : Bool := false
  daemonForksSlaves : Bool := false
  deriving DecidableEq, Inhabited

def ParallelEnv.layout : Layout ParallelEnv where
  fields := [
    .text "pe_name" (·.name) fun r v => { r with name := v },
    .integer "slots" (·.slots) fun r v => { r with slots := v },
    .texts "user_lists" (·.userLists) fun r v => { r with userLists := v },
    .texts "xuser_lists" (·.xuserLists) fun r v => { r with xuserLists := v },
    .text "start_proc_args" (·.startProcArgs) fun r v => { r with startProcArgs := v },
    .text "stop_proc_args" (·.stopProcArgs) fun r v => { r with stopProcArgs := v },
    .text "allocation_rule" (·.allocationRule) fun r v => { r with allocationRule := v },
    .text "control_slaves" (·.controlSlaves) fun r v => { r with controlSlaves := v },
    .flag "job_is_first_task" (·.jobIsFirstTask) fun r v => { r with jobIsFirstTask := v },
    .text "urgency_slots" (·.urgencySlots) fun r v => { r with urgencySlots := v },
    .flag "accounting_summary" (·.accountingSummary) fun r v => { r with accountingSummary := v },
    .flag "ign_sreq_on_mhost" (·.ignoreSlaveRequestsOnMasterHost)
      fun r v => { r with ignoreSlaveRequestsOnMasterHost := v },
    .flag "master_forks_slaves" (·.masterForksSlaves) fun r v => { r with masterForksSlaves := v },
    .flag "daemon_forks_slaves" (·.daemonForksSlaves) fun r v => { r with daemonForksSlaves := v }]
  blank := {}
  strict := false

end ClusterConf
