import ClusterConf.Cluster.Snapshot
import ClusterConf.Json.Reader
import ClusterConf.Json.Writer
import ClusterConf.Yaml.Reader
import ClusterConf.Yaml.Writer
set_option autoImplicit false

/-!
Snapshots as texts in one of two formats.
-/
namespace ClusterConf

inductive TextFormat where
  | yaml
  | json
  deriving DecidableEq, Inhabited

namespace Snapshot

/-- Reads a snapshot, if the text is well-formed and holds one. -/
def ofText? (format : TextFormat) (text : String) : Option Snapshot :=
  match format with
  | .json => (Json.read? text).bind (read? Document.source 0)
  | .yaml => (Yaml.read? text).bind fun v => read? Yaml.View.source v.limit v

def toText (format : TextFormat) (s : Snapshot) : String :=
  match format with
  | .json => Json.pretty s.toDocument
  | .yaml => (Yaml.Node.ofDocument s.toDocument).write

end Snapshot
end ClusterConf
