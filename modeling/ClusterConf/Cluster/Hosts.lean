import ClusterConf.Codec
set_option autoImplicit false

/-!
The hosts of a cluster: their own configurations, their groups, and execution hosts.
Each record comes with the layout of its fields in documents; every field has a default.
-/
namespace ClusterConf

/--
Host-local configuration overriding parts of the global configuration.  Unset values inherit the
global value, so every override is optional.
-/
structure HostConfig where
  name : String := ""
  execdSpoolDir : Option String := none
  mailer : Option String := none
  xterm : Option String := none
  loadSensors : List String := []
  prolog : Option String := none
  epilog : Option String := none
  shellStartMode : Option String := none
  loginShells : List String := []
  loadReportTime : Option String := none
  shepherdCmd : Option String := none
  execdParams : List String := []
  reportingParams : List String := []
  gidRange : List String := []
  qloginDaemon : Option String := none
  qloginCommand : Option String := none
  rshDaemon : Option String := none
  rshCommand : Option String := none
  rloginDaemon : Option String := none
  rloginCommand : Option String := none
  rescheduleUnknown : Option String := none
  libjvmPath : Option String := none
  additionalJvmArgs : Option String := none
  deriving DecidableEq, Inhabited

def HostConfig.layout : Layout HostConfig where
  fields := [
    .text "name" (·.name) fun r v => { r with name := v },
    .override "execd_spool_dir" (·.execdSpoolDir) fun r v => { r with execdSpoolDir := v },
    .override "mailer" (·.mailer) fun r v => { r with mailer := v },
    .override "xterm" (·.xterm) fun r v => { r with xterm := v },
    .overrides "load_sensor" (·.loadSensors) fun r v => { r with loadSensors := v },
    .override "prolog" (·.prolog) fun r v => { r with prolog := v },
    .override "epilog" (·.epilog) fun r v => { r with epilog := v },
    .override "shell_start_mode" (·.shellStartMode) fun r v => { r with shellStartMode := v },
    .overrides "login_shells" (·.loginShells) fun r v => { r with loginShells := v },
    .override "load_report_time" (·.loadReportTime) fun r v => { r with loadReportTime := v },
    .override "shepherd_cmd" (·.shepherdCmd) fun r v => { r with shepherdCmd := v },
    .overrides "execd_params" (·.execdParams) fun r v => { r with execdParams := v },
    .overrides "reporting_params" (·.reportingParams) fun r v => { r with reportingParams := v },
    .overrides "gid_range" (·.gidRange) fun r v => { r with gidRange := v },
    .override "qlogin_daemon" (·.qloginDaemon) fun r v => { r with qloginDaemon := v },
    .override "qlogin_command" (·.qloginCommand) fun r v => { r with qloginCommand := v },
    .override "rsh_daemon" (·.rshDaemon) fun r v => { r with rshDaemon := v },
    .override "rsh_command" (·.rshCommand) fun r v => { r with rshCommand := v },
    .override "rlogin_daemon" (·.rloginDaemon) fun r v => { r with rloginDaemon := v },
    .override "rlogin_command" (·.rloginCommand) fun r v => { r with rloginCommand := v },
    .override "reschedule_unknown" (·.rescheduleUnknown)
      fun r v => { r with rescheduleUnknown := v },
    .override "libjvm_path" (·.libjvmPath) fun r v => { r with libjvmPath := v },
    .override "additional_jvm_args" (·.additionalJvmArgs)
      fun r v => { r with additionalJvmArgs := v }]
  blank := {}
  strict := false

structure HostGroup where
  name : String := ""
  members : List String := []
  deriving DecidableEq, Inhabited

def HostGroup.layout : Layout HostGroup where
  fields := [
    .text "group_name" (·.name) fun r v => { r with name := v },
    .texts "hostlist" (·.members) fun r v => { r with members := v }]
  blank := {}
  strict := false

structure ExecHost where
  name : String := ""
  loadScaling : Table Double := ∅
  usageScaling : Table Double := ∅
  complexValues : Table String := ∅
  userLists : List String := []
  xuserLists : List String := []
  projects : List String := []
  xprojects : List String := []
  reportVariables : List String := []
  deriving BEq, Inhabited

def ExecHost.layout : Layout ExecHost where
  fields := [
    .text "hostname" (·.name) fun r v => { r with name := v },
    .of (.table .number) "load_scaling" (·.loadScaling) fun r v => { r with loadScaling := v },
    .of (.table .number) "usage_scaling" (·.usageScaling) fun r v => { r with usageScaling := v },
    .of (.table .text) "complex_values" (·.complexValues) fun r v => { r with complexValues := v },
    .texts "user_lists" (·.userLists) fun r v => { r with userLists := v },
    .texts "xuser_lists" (·.xuserLists) fun r v => { r with xuserLists := v },
    .texts "projects" (·.projects) fun r v => { r with projects := v },
    .texts "xprojects" (·.xprojects) fun r v => { r with xprojects := v },
    .texts "report_variables" (·.reportVariables) fun r v => { r with reportVariables := v }]
  blank := {}
  strict := false

end ClusterConf
