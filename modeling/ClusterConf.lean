import ClusterConf.Cli.Arguments
import ClusterConf.Cli.Grid
import ClusterConf.Cli.LogFilter
import ClusterConf.Cli.LogLine
import ClusterConf.Cli.Report
import ClusterConf.Cli.Run
import ClusterConf.Cli.Usage
import ClusterConf.Cluster.Accounts
import ClusterConf.Cluster.Fingerprint
import ClusterConf.Cluster.Hosts
import ClusterConf.Cluster.Kind
import ClusterConf.Cluster.Queues
import ClusterConf.Cluster.Resources
import ClusterConf.Cluster.Site
import ClusterConf.Cluster.Snapshot
import ClusterConf.Cluster.SnapshotText
import ClusterConf.Cluster.Validation
import ClusterConf.Codec
import ClusterConf.Digest.Sha256
import ClusterConf.Document
import ClusterConf.Error
import ClusterConf.Json.Reader
import ClusterConf.Json.Writer
import ClusterConf.Log
import ClusterConf.Machine.Call
import ClusterConf.Machine.EnvFile
import ClusterConf.Machine.FileTree
import ClusterConf.Machine.LocalPlane
import ClusterConf.Machine.Lock
import ClusterConf.Machine.Path
import ClusterConf.Machine.SnapshotFile
import ClusterConf.Machine.World
import ClusterConf.Main
import ClusterConf.Number.Double
import ClusterConf.Number.Shortest
import ClusterConf.Plan.Action
import ClusterConf.Plan.Comparison
import ClusterConf.Plan.Difference
import ClusterConf.Plane.Call
import ClusterConf.Plane.DryRun
import ClusterConf.Plane.Live
import ClusterConf.Plane.Phase
import ClusterConf.Plane.Reconciler
import ClusterConf.Plane.Rehearsal
import ClusterConf.Plane.Store
import ClusterConf.Plane.Throttle
import ClusterConf.Program
import ClusterConf.Proofs.Acceptance
import ClusterConf.Proofs.Accounting
import ClusterConf.Proofs.ApplyEffects
import ClusterConf.Proofs.ApplyRuns
import ClusterConf.Proofs.Clearing
import ClusterConf.Proofs.CodecLaws
import ClusterConf.Proofs.Collection
import ClusterConf.Proofs.CommandRuns
import ClusterConf.Proofs.CompactTexts
import ClusterConf.Proofs.Comparability
import ClusterConf.Proofs.ComparisonLaws
import ClusterConf.Proofs.Convergence
import ClusterConf.Proofs.Dates
import ClusterConf.Proofs.Decimals
import ClusterConf.Proofs.Deletions
import ClusterConf.Proofs.Dismantling
import ClusterConf.Proofs.Drift
import ClusterConf.Proofs.DryRuns
import ClusterConf.Proofs.Enactment
import ClusterConf.Proofs.FileAccess
import ClusterConf.Proofs.FilePlaces
import ClusterConf.Proofs.Fingerprints
import ClusterConf.Proofs.HostLists
import ClusterConf.Proofs.Integrity
import ClusterConf.Proofs.Interleaving
import ClusterConf.Proofs.JsonNumerals
import ClusterConf.Proofs.JsonPrefixes
import ClusterConf.Proofs.JsonReading
import ClusterConf.Proofs.JsonTokens
import ClusterConf.Proofs.KeyedDifferences
import ClusterConf.Proofs.LocalRuns
import ClusterConf.Proofs.LockContests
import ClusterConf.Proofs.LockCrashes
import ClusterConf.Proofs.LockHistories
import ClusterConf.Proofs.LockSteps
import ClusterConf.Proofs.LockTexts
import ClusterConf.Proofs.LockedCommands
import ClusterConf.Proofs.LockedWork
import ClusterConf.Proofs.MemoryPlane
import ClusterConf.Proofs.Mishaps
import ClusterConf.Proofs.NameLists
import ClusterConf.Proofs.NearestDoubles
import ClusterConf.Proofs.Patching
import ClusterConf.Proofs.PathLaws
import ClusterConf.Proofs.Persistence
import ClusterConf.Proofs.PhaseEffects
import ClusterConf.Proofs.PhaseReports
import ClusterConf.Proofs.PhaseRuns
import ClusterConf.Proofs.PlanExecution
import ClusterConf.Proofs.Reading
import ClusterConf.Proofs.ReadingOrder
import ClusterConf.Proofs.RecordEquality
import ClusterConf.Proofs.RecordOrder
import ClusterConf.Proofs.RecordTexts
import ClusterConf.Proofs.Recording
import ClusterConf.Proofs.ReferenceWarnings
import ClusterConf.Proofs.References
import ClusterConf.Proofs.Registry
import ClusterConf.Proofs.Remainder
import ClusterConf.Proofs.Reopening
import ClusterConf.Proofs.Resumption
import ClusterConf.Proofs.RoundTrips
import ClusterConf.Proofs.Roundings
import ClusterConf.Proofs.Runs
import ClusterConf.Proofs.SnapshotReading
import ClusterConf.Proofs.StoreRules
import ClusterConf.Proofs.TimestampTexts
import ClusterConf.Proofs.Undoing
import ClusterConf.Proofs.Unlocking
import ClusterConf.Proofs.UpwardSearch
import ClusterConf.Proofs.Writers
import ClusterConf.Proofs.YamlScalars
import ClusterConf.Table
import ClusterConf.Text.Blank
import ClusterConf.Text.EmojiTable
import ClusterConf.Text.HiddenTable
import ClusterConf.Text.Letter
import ClusterConf.Text.LetterTable
import ClusterConf.Text.Pattern
import ClusterConf.Text.Quoted
import ClusterConf.Text.Ranges
import ClusterConf.Text.Width
import ClusterConf.Text.WidthTable
import ClusterConf.Time
import ClusterConf.Yaml.Block
import ClusterConf.Yaml.Character
import ClusterConf.Yaml.Folding
import ClusterConf.Yaml.Grammar
import ClusterConf.Yaml.Lexer
import ClusterConf.Yaml.Mark
import ClusterConf.Yaml.Node
import ClusterConf.Yaml.Reader
import ClusterConf.Yaml.Scalar
import ClusterConf.Yaml.Style
import ClusterConf.Yaml.Token
import ClusterConf.Yaml.Writer
