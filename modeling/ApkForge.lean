import ApkForge.Build
import ApkForge.Changes
import ApkForge.CommandLine.Commands
import ApkForge.CommandLine.Help
import ApkForge.CommandLine.Reach
import ApkForge.Diagnostics
import ApkForge.Doctor
import ApkForge.Main
import ApkForge.Progress
import ApkForge.Rehearsal
import ApkForge.Script.Runner
import ApkForge.Proofs.Records
import ApkForge.Proofs.Uses
import ApkForge.Proofs.Conversion
import ApkForge.Proofs.Calls
import ApkForge.Proofs.StageOrder
import ApkForge.Proofs.Guarded
import ApkForge.Proofs.MemoryGate
import ApkForge.Proofs.Markup.Reader
import ApkForge.Proofs.Markup.Reading
import ApkForge.Proofs.Markup.Written
import ApkForge.Proofs.ManifestReading
import ApkForge.Proofs.Runs
import ApkForge.Proofs.CompilerVerdict
import ApkForge.Proofs.Places
import ApkForge.Proofs.Frames
import ApkForge.Proofs.Containment
import ApkForge.Proofs.CachedLibraries
import ApkForge.Proofs.CachedMerging
import ApkForge.Proofs.Failures
import ApkForge.Proofs.Reports
import ApkForge.Proofs.Waiting
import ApkForge.Proofs.Milestones
import ApkForge.Proofs.Memories
import ApkForge.Proofs.Classpath
import ApkForge.Proofs.PrivateCopies
import ApkForge.Proofs.Repeats
import ApkForge.Proofs.Interference
import ApkForge.Proofs.Launcher
import ApkForge.Proofs.Upkeep
import ApkForge.Proofs.Stagewise
import ApkForge.Proofs.Readiness
import ApkForge.Proofs.Ways
import ApkForge.Proofs.Clearing
import ApkForge.Proofs.CleanSlate
import ApkForge.Proofs.Listings
import ApkForge.Proofs.Aggregation
import ApkForge.Proofs.DexPlans
import ApkForge.Proofs.Servings
import ApkForge.Proofs.Lookups
import ApkForge.Proofs.Encoding
import ApkForge.Proofs.Trimming
import ApkForge.Proofs.PropertyLines
import ApkForge.Proofs.Discovery
import ApkForge.Proofs.NormalPaths
import ApkForge.Proofs.Toml.Strings
import ApkForge.Proofs.Toml.Values
import ApkForge.Proofs.Toml.Documents
import ApkForge.Proofs.SavedConfig
import ApkForge.Proofs.Sweeping
import ApkForge.Proofs.RobotLibraries
import ApkForge.Proofs.Vacancies
import ApkForge.Proofs.Icons
import ApkForge.Proofs.Deliveries
import ApkForge.Proofs.Watching
import ApkForge.Proofs.Complaints
import ApkForge.Proofs.Permissions
import ApkForge.Proofs.Bundles
import ApkForge.Proofs.Capacity
import ApkForge.Proofs.ReceiverDeclarations
