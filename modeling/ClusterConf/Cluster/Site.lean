import ClusterConf.Codec
set_option autoImplicit false

/-!
The two singletons of a cluster: where it is installed, and its global configuration.
Each record comes with the layout of its fields in documents; every field has a default.
-/
namespace ClusterConf

/-- Installation details of a cluster. -/
structure Environment where
  name : String := ""
  root : String := ""
  cell : String := ""
  qmasterPort : UInt16 := 0
  execdPort : UInt16 := 0
  version : String := ""
  deriving DecidableEq, Inhabited

def Environment.layout : Layout Environment where
  fields := [
    .text "sge_name" (·.name) fun r v => { r with name := v },
    .text "sge_root" (·.root) fun r v => { r with root := v },
    .text "sge_cell" (·.cell) fun r v => { r with cell := v },
    .of .word16 "sge_qmaster_port" (·.qmasterPort) fun r v => { r with qmasterPort := v },
    .of .word16 "sge_execd_port" (·.execdPort) fun r v => { r with execdPort := v },
    .text "sge_version" (·.version) fun r v => { r with version := v }]
  blank := {}
  strict := false

structure GlobalConfig where
  execdSpoolDir : String := ""
  mailer : String := ""
  xterm : String := ""
  loadSensors : List String := []
  prolog : String := ""
  epilog : String := ""
  shellStartMode : String := ""
  loginShells : List String := []
  minUid : Int64 := 0
  minGid : Int64 := 0
  userLists : List String := []
  xuserLists : List String := []
  projects : List String := []
  xprojects : List String := []
  enforceProject : String := ""
  enforceUser : String := ""
  loadReportTime : String := ""
  maxUnheard : String := ""
  rescheduleUnknown : String := ""
  loglevel : String := ""
  administratorMail : String := ""
  setTokenCmd : String := ""
  pagCmd : String := ""
  tokenExtendTime : String := ""
  shepherdCmd : String := ""
  qmasterParams : List String := []
  execdParams : List String := []
  reportingParams : List String := []
  finishedJobs : Int64 := 0
  gidRange : List String := []
  qloginCommand : String := ""
  qloginDaemon : String := ""
  rloginCommand : String := ""
  rloginDaemon : String := ""
  rshCommand : String := ""
  rshDaemon : String := ""
  maxAjInstances : Int64 := 0
  maxAjTasks : Int64 := 0
  maxUJobs : Int64 := 0
  maxJobs : Int64 := 0
  maxAdvanceReservations : Int64 := 0
  autoUserOticket : Int64 := 0
  autoUserFshare : Int64 := 0
  autoUserDefaultProject : String := ""
  autoUserDeleteTime : Int64 := 0
  delegatedFileStaging : Bool := false
  reprioritize : Int64 := 0
  jsvUrl : String := ""
  jsvAllowedMod : List String := []
  deriving DecidableEq, Inhabited

def GlobalConfig.layout : Layout GlobalConfig where
  fields := [
    .text "execd_spool_dir" (·.execdSpoolDir) fun r v => { r with execdSpoolDir := v },
    .text "mailer" (·.mailer) fun r v => { r with mailer := v },
    .text "xterm" (·.xterm) fun r v => { r with xterm := v },
    .texts "load_sensor" (·.loadSensors) fun r v => { r with loadSensors := v },
    .text "prolog" (·.prolog) fun r v => { r with prolog := v },
    .text "epilog" (·.epilog) fun r v => { r with epilog := v },
    .text "shell_start_mode" (·.shellStartMode) fun r v => { r with shellStartMode := v },
    .texts "login_shells" (·.loginShells) fun r v => { r with loginShells := v },
    .integer "min_uid" (·.minUid) fun r v => { r with minUid := v },
    .integer "min_gid" (·.minGid) fun r v => { r with minGid := v },
    .texts "user_lists" (·.userLists) fun r v => { r with userLists := v },
    .texts "xuser_lists" (·.xuserLists) fun r v => { r with xuserLists := v },
    .texts "projects" (·.projects) fun r v => { r with projects := v },
    .texts "xprojects" (·.xprojects) fun r v => { r with xprojects := v },
    .text "enforce_project" (·.enforceProject) fun r v => { r with enforceProject := v },
    .text "enforce_user" (·.enforceUser) fun r v => { r with enforceUser := v },
    .text "load_report_time" (·.loadReportTime) fun r v => { r with loadReportTime := v },
    .text "max_unheard" (·.maxUnheard) fun r v => { r with maxUnheard := v },
    .text "reschedule_unknown" (·.rescheduleUnknown) fun r v => { r with rescheduleUnknown := v },
    .text "loglevel" (·.loglevel) fun r v => { r with loglevel := v },
    .text "administrator_mail" (·.administratorMail) fun r v => { r with administratorMail := v },
    .text "set_token_cmd" (·.setTokenCmd) fun r v => { r with setTokenCmd := v },
    .text "pag_cmd" (·.pagCmd) fun r v => { r with pagCmd := v },
    .text "token_extend_time" (·.tokenExtendTime) fun r v => { r with tokenExtendTime := v },
    .text "shepherd_cmd" (·.shepherdCmd) fun r v => { r with shepherdCmd := v },
    .texts "qmaster_params" (·.qmasterParams) fun r v => { r with qmasterParams := v },
    .texts "execd_params" (·.execdParams) fun r v => { r with execdParams := v },
    .texts "reporting_params" (·.reportingParams) fun r v => { r with reportingParams := v },
    .integer "finished_jobs" (·.finishedJobs) fun r v => { r with finishedJobs := v },
    .texts "gid_range" (·.gidRange) fun r v => { r with gidRange := v },
    .text "qlogin_command" (·.qloginCommand) fun r v => { r with qloginCommand := v },
    .text "qlogin_daemon" (·.qloginDaemon) fun r v => { r with qloginDaemon := v },
    .text "rlogin_command" (·.rloginCommand) fun r v => { r with rloginCommand := v },
    .text "rlogin_daemon" (·.rloginDaemon) fun r v => { r with rloginDaemon := v },
    .text "rsh_command" (·.rshCommand) fun r v => { r with rshCommand := v },
    .text "rsh_daemon" (·.rshDaemon) fun r v => { r with rshDaemon := v },
    .integer "max_aj_instances" (·.maxAjInstances) fun r v => { r with maxAjInstances := v },
    .integer "max_aj_tasks" (·.maxAjTasks) fun r v => { r with maxAjTasks := v },
    .integer "max_u_jobs" (·.maxUJobs) fun r v => { r with maxUJobs := v },
    .integer "max_jobs" (·.maxJobs) fun r v => { r with maxJobs := v },
    .integer "max_advance_reservations" (·.maxAdvanceReservations)
      fun r v => { r with maxAdvanceReservations := v },
    .integer "auto_user_oticket" (·.autoUserOticket) fun r v => { r with autoUserOticket := v },
    .integer "auto_user_fshare" (·.autoUserFshare) fun r v => { r with autoUserFshare := v },
    .text "auto_user_default_project" (·.autoUserDefaultProject)
      fun r v => { r with autoUserDefaultProject := v },
    .integer "auto_user_delete_time" (·.autoUserDeleteTime)
      fun r v => { r with autoUserDeleteTime := v },
    .flag "delegated_file_staging" (·.delegatedFileStaging)
      fun r v => { r with delegatedFileStaging := v },
    .integer "reprioritize" (·.reprioritize) fun r v => { r with reprioritize := v },
    .text "jsv_url" (·.jsvUrl) fun r v => { r with jsvUrl := v },
    .texts "jsv_allowed_mod" (·.jsvAllowedMod) fun r v => { r with jsvAllowedMod := v }]
  blank := {}
  strict := false

end ClusterConf
