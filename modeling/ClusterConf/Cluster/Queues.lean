import ClusterConf.Codec
set_option autoImplicit false

/-!
Cluster queues.
Each record comes with the layout of its fields in documents; every field has a default.
-/
namespace ClusterConf

/--
Cluster queue definition.  Apart from the name every attribute is a list of values where the first
entry is the queue default and later entries are `[host=value]` overrides.
-/
structure Queue where
  name : String := ""
  hostList : List String := []
  seqNo : List String := []
  loadThresholds : List String := []
  suspendThresholds : List String := []
  nsuspend : List String := []
  suspendInterval : List String := []
  priority : List String := []
  minCpuInterval : List String := []
  processors : List String := []
  qtype : List String := []
  ckptList : List String := []
  peList : List String := []
  rerun : List String := []
  slots : List String := []
  tmpdir : List String := []
  shell : List String := []
  prolog : List String := []
  epilog : List String := []
  shellStartMode : List String := []
  starterMethod : List String := []
  suspendMethod : List String := []
  resumeMethod : List String := []
  terminateMethod : List String := []
  notify : List String := []
  ownerList : List String := []
  userLists : List String := []
  xuserLists : List String := []
  subordinateList : List String := []
  complexValues : List String := []
  projects : List String := []
  xprojects : List String := []
  calendar : List String := []
  initialState : List String := []
  sRt : List String := []
  hRt : List String := []
  sCpu : List String := []
  hCpu : List String := []
  sFsize : List String := []
  hFsize : List String := []
  sData : List String := []
  hData : List String := []
  sStack : List String := []
  hStack : List String := []
  sCore : List String := []
  hCore : List String := []
  sRss : List String := []
  hRss : List String := []
  sVmem : List String := []
  hVmem : List String := []
  deriving DecidableEq, Inhabited

def Queue.layout : Layout Queue where
  fields := [
    .text "qname" (·.name) fun r v => { r with name := v },
    .texts "hostlist" (·.hostList) fun r v => { r with hostList := v },
    .texts "seq_no" (·.seqNo) fun r v => { r with seqNo := v },
    .texts "load_thresholds" (·.loadThresholds) fun r v => { r with loadThresholds := v },
    .texts "suspend_thresholds" (·.suspendThresholds) fun r v => { r with suspendThresholds := v },
    .texts "nsuspend" (·.nsuspend) fun r v => { r with nsuspend := v },
    .texts "suspend_interval" (·.suspendInterval) fun r v => { r with suspendInterval := v },
    .texts "priority" (·.priority) fun r v => { r with priority := v },
    .texts "min_cpu_interval" (·.minCpuInterval) fun r v => { r with minCpuInterval := v },
    .texts "processors" (·.processors) fun r v => { r with processors := v },
    .texts "qtype" (·.qtype) fun r v => { r with qtype := v },
    .texts "ckpt_list" (·.ckptList) fun r v => { r with ckptList := v },
    .texts "pe_list" (·.peList) fun r v => { r with peList := v },
    .texts "rerun" (·.rerun) fun r v => { r with rerun := v },
    .texts "slots" (·.slots) fun r v => { r with slots := v },
    .texts "tmpdir" (·.tmpdir) fun r v => { r with tmpdir := v },
    .texts "shell" (·.shell) fun r v => { r with shell := v },
    .texts "prolog" (·.prolog) fun r v => { r with prolog := v },
    .texts "epilog" (·.epilog) fun r v => { r with epilog := v },
    .texts "shell_start_mode" (·.shellStartMode) fun r v => { r with shellStartMode := v },
    .texts "starter_method" (·.starterMethod) fun r v => { r with starterMethod := v },
    .texts "suspend_method" (·.suspendMethod) fun r v => { r with suspendMethod := v },
    .texts "resume_method" (·.resumeMethod) fun r v => { r with resumeMethod := v },
    .texts "terminate_method" (·.terminateMethod) fun r v => { r with terminateMethod := v },
    .texts "notify" (·.notify) fun r v => { r with notify := v },
    .texts "owner_list" (·.ownerList) fun r v => { r with ownerList := v },
    .texts "user_lists" (·.userLists) fun r v => { r with userLists := v },
    .texts "xuser_lists" (·.xuserLists) fun r v => { r with xuserLists := v },
    .texts "subordinate_list" (·.subordinateList) fun r v => { r with subordinateList := v },
    .texts "complex_values" (·.complexValues) fun r v => { r with complexValues := v },
    .texts "projects" (·.projects) fun r v => { r with projects := v },
    .texts "xprojects" (·.xprojects) fun r v => { r with xprojects := v },
    .texts "calendar" (·.calendar) fun r v => { r with calendar := v },
    .texts "initial_state" (·.initialState) fun r v => { r with initialState := v },
    .texts "s_rt" (·.sRt) fun r v => { r with sRt := v },
    .texts "h_rt" (·.hRt) fun r v => { r with hRt := v },
    .texts "s_cpu" (·.sCpu) fun r v => { r with sCpu := v },
    .texts "h_cpu" (·.hCpu) fun r v => { r with hCpu := v },
    .texts "s_fsize" (·.sFsize) fun r v => { r with sFsize := v },
    .texts "h_fsize" (·.hFsize) fun r v => { r with hFsize := v },
    .texts "s_data" (·.sData) fun r v => { r with sData := v },
    .texts "h_data" (·.hData) fun r v => { r with hData := v },
    .texts "s_stack" (·.sStack) fun r v => { r with sStack := v },
    .texts "h_stack" (·.hStack) fun r v => { r with hStack := v },
    .texts "s_core" (·.sCore) fun r v => { r with sCore := v },
    .texts "h_core" (·.hCore) fun r v => { r with hCore := v },
    .texts "s_rss" (·.sRss) fun r v => { r with sRss := v },
    .texts "h_rss" (·.hRss) fun r v => { r with hRss := v },
    .texts "s_vmem" (·.sVmem) fun r v => { r with sVmem := v },
    .texts "h_vmem" (·.hVmem) fun r v => { r with hVmem := v }]
  blank := {}
  strict := false

end ClusterConf
