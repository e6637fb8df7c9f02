import NubiSync.Storage.Catalog
import NubiSync.Sync.Convergence
import NubiSync.Sync.Projection

set_option autoImplicit false

/-! # Errors of the executor -/

namespace NubiSync

/-- `SelectedRootExecutorError`, the errors of the modelled functions of the daemon. -/
inductive SelectedRootExecutorError where
  | storage (error : StorageError)
  | convergencePlan (error : ReceiveOnlyConvergencePlanError)
  | materializationPlan (error : ReceiveOnlyMaterializationPlanError)
  | projection (error : RootCatalogProjectionError)
  | drive
  | countOverflow
  | missingRemoteRoot
  | invalidCanonicalRoot
  | rootIdentityChanged
  | changeWindowSnapshotMissing
  | changeWindowCursorMissing
  | changeWindowMissing
  | changeWindowIncomplete
  | changeWindowChangeCountMismatch
  | localDiffBaselineMissing
  | localDiffBaselineInvalidated
  | localDiffBaselineCountMismatch
  | localDiffScanRace
  | localDiffDuplicatePath
  | twoWayLocalJournalModeUnsupported
  | remoteWritePlanLocalBaselineMissing
  | remoteWritePlanLocalBaselineInvalid
  | remoteWritePlanLocalBaselineCountMismatch
  | remoteWritePlanLocalScanRace
  | remoteWritePlanLocalJournalMismatch
  | remoteWritePlanRemoteCatalogNotReady
  | remoteWritePlanRemoteChangeWindowPending
  | remoteWritePlanRemoteCursorMissing
  | remoteWritePlanRemoteCatalogCountMismatch
  | remoteWritePlanRemoteCatalogIdentityAmbiguous
  | remoteWritePlanAuthorityStateMissing
  | remoteWritePlanAuthorityCursorMismatch
  | remoteWritePlanAuthorityCountMismatch
  | remoteWritePlanAuthorityCoverageMismatch
  | remoteWritePlanOwnershipAmbiguous
  | remoteWriteCreateIntentNotEligible
  | remoteWriteFileCreateReadFailed
  | remoteWriteFileCreateStreamIncomplete
  | remoteWriteFileCreateChunkSizeInvalid
  | remoteWriteFileCreateResumeOffsetMismatch
  | remoteWriteFileSettlementModeUnsupported
  | remoteWriteFileSettlementNotEligible
  | remoteWriteFileSettlementLocalAuthorityMismatch
  | remoteWriteFileSettlementSourceEventMismatch
  | remoteWriteFileSettlementEvidenceMismatch
  | remoteWriteFileSettlementRemoteCatalogMismatch
  | remoteWriteFileSettlementSnapshotInvalid
  | remoteWriteFileSettlementContentMismatch
  | remoteWriteFolderSettlementModeUnsupported
  | remoteWriteFolderSettlementNotEligible
  | remoteWriteFolderSettlementLocalAuthorityMismatch
  | remoteWriteFolderSettlementLocalIdentityMismatch
  | remoteWriteFolderSettlementSourceDiffMismatch
  | remoteWriteFolderSettlementRemoteCatalogMismatch
  | remoteWriteFolderSettlementResidualMismatch
  | unifiedConvergenceBlocked
  | localDirectoryPhaseBlocked
  | localDirectoryTargetCountMismatch
  | localFilePhaseBlocked
  | localFileTargetCountMismatch
  | localFileSizeUnknown
  | localFileTooLarge
  | localFileVerificationBatchNotReady
  | localFileVerificationBatchTargetMismatch
  | remoteReplacementPlanPhaseBlocked
  | localReceiptVerificationSafetyLimitExceeded
  | remoteReplacementPlanTargetMismatch
  | remoteReplacementBatchNotReady
  | remoteDeletionBatchNotReady
  | remoteDirectoryDeletionBatchNotReady
  | remoteDirectoryDeletionBatchTargetMismatch
  | localPlanModeUnsupported
  | localPlanSnapshotMissing
  | localPlanCatchupIncomplete
  | localPlanCursorMissing
  | localPlanChangeWindowPending
  | localPlanCatalogItemCountMismatch
  | receiveOnlyCycleModeUnsupported
  | unifiedConvergenceProviderRequired
  | unifiedConvergencePhaseCountMismatch
  | bootstrapInvalidItem
  | bootstrapParentMismatch
  | bootstrapDuplicateRemoteId
  | bootstrapPaginationLoop
  | bootstrapSafetyLimitExceeded
  deriving DecidableEq, Repr

/-- The `?` that turns a storage error into an executor error. -/
def fromStorage {α : Type} (result : Except StorageError α) :
    Except SelectedRootExecutorError α :=
  result.mapError .storage

end NubiSync
