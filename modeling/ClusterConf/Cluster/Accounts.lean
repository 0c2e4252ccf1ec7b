import ClusterConf.Codec
set_option autoImplicit false

/-!
Who may use a cluster: user sets, projects and users.
Each record comes with the layout of its fields in documents; every field has a default.
-/
namespace ClusterConf

/-- User set list (access list or department). -/
structure UserSet where
  name : String := ""
  types : String := ""
  fshare : Int64 := 0
  oticket : Int64 := 0
  entries : List String := []
  deriving DecidableEq, Inhabited

def UserSet.layout : Layout UserSet where
  fields := [
    .text "name" (·.name) fun r v => { r with name := v },
    .text "type" (·.types) fun r v => { r with types := v },
    .integer "fshare" (·.fshare) fun r v => { r with fshare := v },
    .integer "oticket" (·.oticket) fun r v => { r with oticket := v },
    .texts "entries" (·.entries) fun r v => { r with entries := v }]
  blank := {}
  strict := false

structure Project where
  name : String := ""
  oticket : Int64 := 0
  fshare : Int64 := 0
  acl : List String := []
  xacl : List String := []
  deriving DecidableEq, Inhabited

def Project.layout : Layout Project where
  fields := [
    .text "name" (·.name) fun r v => { r with name := v },
    .integer "oticket" (·.oticket) fun r v => { r with oticket := v },
    .integer "fshare" (·.fshare) fun r v => { r with fshare := v },
    .texts "acl" (·.acl) fun r v => { r with acl := v },
    .texts "xacl" (·.xacl) fun r v => { r with xacl := v }]
  blank := {}
  strict := false

structure User where
  name : String := ""
  oticket : Int64 := 0
  fshare : Int64 := 0
  deleteTime : Int64 := 0
  defaultProject : String := ""
  deriving DecidableEq, Inhabited

def User.layout : Layout User where
  fields := [
    .text "name" (·.name) fun r v => { r with name := v },
    .integer "oticket" (·.oticket) fun r v => { r with oticket := v },
    .integer "fshare" (·.fshare) fun r v => { r with fshare := v },
    .integer "delete_time" (·.deleteTime) fun r v => { r with deleteTime := v },
    .text "default_project" (·.defaultProject) fun r v => { r with defaultProject := v }]
  blank := {}
  strict := false

end ClusterConf
