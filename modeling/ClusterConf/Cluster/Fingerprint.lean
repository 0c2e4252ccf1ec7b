import ClusterConf.Cluster.Snapshot
import ClusterConf.Digest.Sha256
import ClusterConf.Json.Writer
set_option autoImplicit false

/-!
Fingerprints of snapshots: the SHA-256 digest of a canonical JSON text. The order of the records in
a collection and the cluster environment do not enter it.
-/
namespace ClusterConf.Snapshot

/-- The records of one kind sorted by key; records of one key keep their order. -/
def sortedRecords (s : Snapshot) (k : Kind) : List k.Record :=
  (s.records k).mergeSort fun a b => !decide (k.key b < k.key a)

/-- The compared parts of a snapshot with every collection sorted by key. -/
def canonical (s : Snapshot) : Snapshot :=
  Kind.creationOrder.foldl (fun c k => c.append k (s.sortedRecords k))
    { empty with globalConfig := s.globalConfig }

def canonicalText (s : Snapshot) : String := Json.compact s.canonical.toDocument

/-- The fingerprint of a snapshot, in hexadecimal digits. -/
def fingerprint (s : Snapshot) : String := Sha256.hex s.canonicalText.toUTF8.toList

def shortFingerprint (fingerprint : String) : String := (fingerprint.take 8).toString

end ClusterConf.Snapshot
