import NubiSync.Sync.ConvergedMeaning
import NubiSync.Sync.ConvergenceSafety
import NubiSync.Sync.ProjectionRuns
import NubiSync.Daemon.ConvergenceProgress
import NubiSync.Daemon.CreatedNames
import NubiSync.Daemon.FolderDeletion
import NubiSync.Daemon.ResidualEvents
import NubiSync.Daemon.SourceEvents
import NubiSync.Storage.IntentExecution
import NubiSync.Storage.ProjectionRefinement
import NubiSync.Storage.ReceiptInvariant
import NubiSync.Storage.SettlementHistory
import NubiSync.Storage.StrandedIntents
import NubiSync.Library.Runs
import NubiSync.Cli.ConfirmedSettlement
import NubiSync.Daemon.PlanSafety
import NubiSync.Daemon.TrashedFolders
import NubiSync.Daemon.UploadProtocol
import NubiSync.Storage.WindowStaging
import NubiSync.Storage.AnchoredWindows
import NubiSync.Storage.AuthorityFreshness
import NubiSync.Storage.BaselineInvariant
import NubiSync.Daemon.WindowClosure
import NubiSync.Storage.ReceiptPaths
import NubiSync.Sync.TreeOrder
import NubiSync.Sync.PlanOrder
import NubiSync.Sync.ActionOrder
import NubiSync.Daemon.DiffJournal
import NubiSync.Daemon.StorableCreates
import NubiSync.Daemon.ReceiveOnlyRun
import NubiSync.Daemon.RunReports
import NubiSync.Daemon.DirectBatches
import NubiSync.Storage.AccountCatalog
import NubiSync.Cli.AccountCommands
import NubiSync.Cli.AccountFeed
import NubiSync.Drive.Ancestry
import NubiSync.Drive.BoundedDownload
import NubiSync.Daemon.PeriodicSchedule
import NubiSync.Sync.ProjectionInPlace
import NubiSync.Daemon.InventoryTraversal
import NubiSync.Daemon.ReceiptOwnership
import NubiSync.Storage.SubmissionProtocol
import NubiSync.Cli.UploadFence
import NubiSync.Daemon.FileMaterialization
import NubiSync.Daemon.DirectoryMaterialization
import NubiSync.Daemon.StaleFileDeletion
import NubiSync.Daemon.StaleFileReplacement
