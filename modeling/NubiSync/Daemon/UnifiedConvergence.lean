import NubiSync.Daemon.ExecutorErrors
import NubiSync.Library.Checks

set_option autoImplicit false

/-! # The unified convergence step

One invocation of the daemon plans convergence, decides on one phase and hands the tree to that
phase's executor. Every executor plans again and admits the phase by its own checks before it touches
the filesystem. This module holds the decision and those admission checks; both read the same catalog,
local scan and receipts, and the receipt tables of the store are the receipt list, split by kind and
state. -/

namespace NubiSync

open Checks

/-- What an invocation reads: the catalog, the local scan and the ownership receipts. -/
structure RootInputs where
  remoteItems : List RemoteItem
  localEntries : List LocalTreeEntry
  receipts : List ReceiveOnlyOwnershipReceipt

/-- The receipt table of a kind and a state. -/
def RootInputs.receiptTable (inputs : RootInputs) (kind : LocalTreeEntryKind)
    (state : ReceiveOnlyReceiptState) : List ReceiveOnlyOwnershipReceipt :=
  inputs.receipts.filter fun r => r.kind == kind && r.state == state

/-! ## Limits -/

def selectedRootConvergenceMaxActions : ℕ := 10000

def supervisedFileBatchMaxActions : ℕ := 64

def supervisedFileDownloadMaxBytes : ℕ := 16 * 1024 * 1024

def supervisedStaleFilePlanMaxActions : ℕ := 64

def supervisedStaleDirectoryDeletionMaxActions : ℕ := 64

/-! ## The decision -/

inductive SelectedRootUnifiedConvergencePhase where
  | createDirectories
  | materializeMissingFiles
  | verifyExistingFiles
  | replaceStaleFiles
  | deleteStaleFiles
  | deleteStaleDirectories
  deriving DecidableEq, Repr

/-- `SelectedRootUnifiedConvergenceStopReason`, the reasons the decision gives. -/
inductive SelectedRootUnifiedConvergenceStopReason where
  | mixedActionClasses
  | batchActionLimitExceeded
  deriving DecidableEq, Repr

inductive SelectedRootUnifiedConvergenceDecision where
  | converged
  | dispatch (phase : SelectedRootUnifiedConvergencePhase) (plannedActions : ℕ)
  | safeStop (reason : SelectedRootUnifiedConvergenceStopReason)
  deriving DecidableEq, Repr

/-- The phase of the one active class, with its planned actions and its batch limit. -/
def soleActivePhase (plan : ReceiveOnlyConvergencePlan) :
    SelectedRootUnifiedConvergencePhase × ℕ × ℕ :=
  if plan.materializeMissingFiles ≠ 0 then
    (.materializeMissingFiles, plan.materializeMissingFiles, supervisedFileBatchMaxActions)
  else if plan.verifyExistingFiles ≠ 0 then
    (.verifyExistingFiles, plan.verifyExistingFiles, supervisedFileBatchMaxActions)
  else if plan.revalidateStaleFileReplacements ≠ 0 then
    (.replaceStaleFiles, plan.revalidateStaleFileReplacements, supervisedStaleFilePlanMaxActions)
  else if plan.revalidateStaleFileDeletions ≠ 0 then
    (.deleteStaleFiles, plan.revalidateStaleFileDeletions, supervisedStaleFilePlanMaxActions)
  else
    (.deleteStaleDirectories, plan.deleteOwnedEmptyDirectories,
      supervisedStaleDirectoryDeletionMaxActions)

/-- The number of active classes besides the creation of directories. -/
def activeClasses (plan : ReceiveOnlyConvergencePlan) : ℕ :=
  [plan.materializeMissingFiles, plan.verifyExistingFiles, plan.revalidateStaleFileReplacements,
    plan.revalidateStaleFileDeletions, plan.deleteOwnedEmptyDirectories].countP (· != 0)

def decideSelectedRootUnifiedConvergenceStep (plan : ReceiveOnlyConvergencePlan) :
    Except SelectedRootExecutorError SelectedRootUnifiedConvergenceDecision :=
  if plan.blocked then .error .unifiedConvergenceBlocked
  else if plan.actionCount = 0 then .ok .converged
  else if plan.createDirectories ≠ 0 then
    .ok (.dispatch .createDirectories plan.createDirectories)
  else if activeClasses plan ≠ 1 then .ok (.safeStop .mixedActionClasses)
  else
    let (phase, plannedActions, maxActions) := soleActivePhase plan
    if plannedActions > maxActions then .ok (.safeStop .batchActionLimitExceeded)
    else .ok (.dispatch phase plannedActions)

/-! ## Planning on the inputs -/

/-- `plan_selected_root_receive_only_convergence`, with its `?`. -/
def planRootConvergence (inputs : RootInputs) :
    Except SelectedRootExecutorError ReceiveOnlyConvergencePlan :=
  match planReceiveOnlyConvergence inputs.remoteItems inputs.localEntries inputs.receipts
    selectedRootConvergenceMaxActions with
  | .ok plan => .ok plan
  | .error e => .error (.convergencePlan e)

def planSelectedRootUnifiedConvergenceStep (inputs : RootInputs) :
    Except SelectedRootExecutorError SelectedRootUnifiedConvergenceDecision := do
  let plan ← planRootConvergence inputs
  decideSelectedRootUnifiedConvergenceStep plan

/-- `?` on a materialization planner inside an executor. -/
def fromMaterializationPlan {α : Type} :
    Except ReceiveOnlyMaterializationPlanError α → Except SelectedRootExecutorError α
  | .ok a => .ok a
  | .error e => .error (.materializationPlan e)

/-! ## Admission checks of the executors -/

/-- The check on the size of a file that is about to be downloaded: the executors make it in their
    loops, on nothing but the target. -/
def checkDownloadSize (target : ReceiveOnlyFileTarget) : Except SelectedRootExecutorError Unit := do
  let expectedSize ← orRefuse target.sizeBytes .localFileSizeUnknown
  refuseIf (decide (expectedSize > supervisedFileDownloadMaxBytes)) .localFileTooLarge

/-- `materialize_selected_root_directories`, up to `validated_selected_root_path`. -/
def admitDirectories (inputs : RootInputs) : Except SelectedRootExecutorError Unit := do
  let convergence ← planRootConvergence inputs
  refuseIf convergence.blocked .localDirectoryPhaseBlocked
  let preflight ← fromMaterializationPlan
    (planReceiveOnlyMaterialization inputs.remoteItems inputs.localEntries)
  -- `ready_for_directory_phase` asks for a tree without local-only entries, which the plan does not
  refuseIf (!preflight.readyForDirectoryPhase
    || convergence.remoteItems != preflight.remoteItems
    || convergence.localEntries != preflight.localEntries
    || convergence.createDirectories != preflight.missingDirectories
    || convergence.materializeMissingFiles != preflight.missingFiles) .localDirectoryPhaseBlocked
  let targets ← fromMaterializationPlan
    (planReceiveOnlyMissingDirectoryTargets inputs.remoteItems inputs.localEntries)
  refuseIf (targets.length != preflight.missingDirectories
    || targets.length != convergence.createDirectories
    || decide (targets.length > selectedRootConvergenceMaxActions))
    .localDirectoryTargetCountMismatch

/-- `materialize_selected_root_missing_files`, up to `validated_selected_root_path`. -/
def admitMissingFiles (inputs : RootInputs) : Except SelectedRootExecutorError Unit := do
  let convergence ← planRootConvergence inputs
  refuseIf (convergence.blocked
    || convergence.createDirectories != 0
    || convergence.verifyExistingFiles != 0
    || convergence.revalidateStaleFileReplacements != 0
    || convergence.revalidateStaleFileDeletions != 0
    || convergence.deleteOwnedEmptyDirectories != 0) .localFilePhaseBlocked
  let preflight ← fromMaterializationPlan
    (planReceiveOnlyMaterialization inputs.remoteItems inputs.localEntries)
  refuseIf (!preflight.readyForDirectoryPhase
    || preflight.missingDirectories != 0
    || preflight.matchingDirectories != preflight.remoteDirectories
    || convergence.remoteItems != preflight.remoteItems
    || convergence.localEntries != preflight.localEntries
    || convergence.materializeMissingFiles != preflight.missingFiles
    || preflight.existingFilesUnverified
      != convergence.currentOwnedFiles + convergence.verifyExistingFiles) .localFilePhaseBlocked
  let targets ← fromMaterializationPlan
    (planReceiveOnlyMissingFileTargets inputs.remoteItems inputs.localEntries)
  refuseIf (targets.length != preflight.missingFiles
    || targets.length != convergence.materializeMissingFiles
    || decide (targets.length > supervisedFileBatchMaxActions)) .localFileTargetCountMismatch

/-- The checks of `materialize_selected_root_missing_files` with those of its loop on the sizes. -/
def admitMissingFileDownloads (inputs : RootInputs) : Except SelectedRootExecutorError Unit := do
  admitMissingFiles inputs
  let targets ← fromMaterializationPlan
    (planReceiveOnlyMissingFileTargets inputs.remoteItems inputs.localEntries)
  targets.forM checkDownloadSize

/-- The collection of the verification targets, over the planned actions: every action names an item once
    and has a target among the existing files. -/
def collectVerificationTargets (allTargets : List ReceiveOnlyFileTarget) :
    List ReceiveOnlyConvergenceAction → List Text →
      Except SelectedRootExecutorError (List ReceiveOnlyFileTarget)
  | [], _ => .ok []
  | action :: rest, seenRemoteIds =>
      match action.remoteId with
      | none => .error .localFileVerificationBatchTargetMismatch
      | some remoteId =>
          if seenRemoteIds.contains remoteId then .error .localFileVerificationBatchTargetMismatch
          else
            match allTargets.find? fun target =>
              target.remoteId == remoteId && target.relativePath == action.relativePath with
            | none => .error .localFileVerificationBatchTargetMismatch
            | some target => do
                let targets ← collectVerificationTargets allTargets rest (remoteId :: seenRemoteIds)
                .ok (target :: targets)

/-- `verify_selected_root_existing_files`, up to `validated_selected_root_path`, and the checks of its
    loop on the sizes. -/
def admitVerification (inputs : RootInputs) : Except SelectedRootExecutorError Unit := do
  let convergence ← planRootConvergence inputs
  refuseIf (convergence.blocked
    || convergence.verifyExistingFiles == 0
    || decide (convergence.verifyExistingFiles > supervisedFileBatchMaxActions)
    || convergence.createDirectories != 0
    || convergence.materializeMissingFiles != 0
    || convergence.revalidateStaleFileReplacements != 0
    || convergence.revalidateStaleFileDeletions != 0
    || convergence.deleteOwnedEmptyDirectories != 0) .localFileVerificationBatchNotReady
  let materialization ← fromMaterializationPlan
    (planReceiveOnlyMaterialization inputs.remoteItems inputs.localEntries)
  let expectedExistingFiles := convergence.currentOwnedFiles + convergence.verifyExistingFiles
  refuseIf (!materialization.readyForDirectoryPhase
    || materialization.missingDirectories != 0
    || materialization.missingFiles != 0
    || materialization.matchingDirectories != materialization.remoteDirectories
    || materialization.localOnlyEntries != 0
    || materialization.typeConflicts != 0
    || materialization.existingFilesUnverified != expectedExistingFiles
    || materialization.remoteFiles != expectedExistingFiles) .localFileVerificationBatchNotReady
  refuseIf ((inputs.receiptTable .file .current).length != convergence.currentOwnedFiles
    || (inputs.receiptTable .file .stale).length != 0) .localFileVerificationBatchTargetMismatch
  let allTargets ← fromMaterializationPlan
    (planReceiveOnlyExistingFileTargets inputs.remoteItems inputs.localEntries)
  refuseIf (allTargets.length != expectedExistingFiles) .localFileVerificationBatchTargetMismatch
  let verificationTargets ← collectVerificationTargets allTargets
    (convergence.actions.filter (·.kind == .verifyExistingFile)) []
  refuseIf (verificationTargets.length != convergence.verifyExistingFiles
    || decide (verificationTargets.length > supervisedFileBatchMaxActions))
    .localFileVerificationBatchTargetMismatch
  verificationTargets.forM checkDownloadSize

/-- What the loop of `plan_selected_root_stale_files` asks of a receipt before it looks at the file on
    disk: where the item of the receipt is still there, a target of a size that can be downloaded. -/
def checkStaleReceipt (remoteItems : List RemoteItem) (currentTargets : List ReceiveOnlyFileTarget)
    (receipt : ReceiveOnlyOwnershipReceipt) : Except SelectedRootExecutorError Unit :=
  if remoteItems.any (·.remoteId == receipt.remoteId) then do
    let target ← orRefuse (currentTargets.find? fun target =>
      target.remoteId == receipt.remoteId && target.relativePath == receipt.relativePath)
      .remoteReplacementPlanTargetMismatch
    checkDownloadSize target
  else .ok ()

/-- The candidate counts of `SelectedRootStaleFileBatchPlan`, next to the convergence counts it
    carries along. -/
structure StaleFileCandidates where
  staleReceiptsTotal : ℕ
  replacementCandidates : ℕ
  deletionCandidates : ℕ
  convergenceReplacementActions : ℕ
  convergenceDeletionActions : ℕ
  deriving DecidableEq, Repr

/-- `plan_selected_root_stale_files` without the inspection of the files on disk: the checks up to
    `validated_selected_root_path`, then those of the receipt loop with its candidate counts, and the
    comparison after the loop. -/
def planStaleFileCandidates (inputs : RootInputs) :
    Except SelectedRootExecutorError StaleFileCandidates := do
  let convergence ← planRootConvergence inputs
  refuseIf (convergence.blocked
    || convergence.createDirectories != 0
    || convergence.materializeMissingFiles != 0
    || convergence.verifyExistingFiles != 0
    || convergence.deleteOwnedEmptyDirectories != 0) .remoteReplacementPlanPhaseBlocked
  let materialization ← fromMaterializationPlan
    (planReceiveOnlyMaterialization inputs.remoteItems inputs.localEntries)
  refuseIf (materialization.missingDirectories != 0
    || materialization.missingFiles != 0
    || materialization.matchingDirectories != materialization.remoteDirectories
    || materialization.typeConflicts != 0
    || materialization.localOnlyEntries != convergence.revalidateStaleFileDeletions)
    .remoteReplacementPlanPhaseBlocked
  let staleReceipts := inputs.receiptTable .file .stale
  refuseIf (decide (staleReceipts.length > supervisedStaleFilePlanMaxActions))
    .localReceiptVerificationSafetyLimitExceeded
  refuseIf (convergence.revalidateStaleFileReplacements + convergence.revalidateStaleFileDeletions
    != staleReceipts.length) .remoteReplacementPlanPhaseBlocked
  let currentTargets ← fromMaterializationPlan
    (planReceiveOnlyExistingFileTargets inputs.remoteItems inputs.localEntries)
  let remotePresent (receipt : ReceiveOnlyOwnershipReceipt) : Bool :=
    inputs.remoteItems.any (·.remoteId == receipt.remoteId)
  staleReceipts.forM (checkStaleReceipt inputs.remoteItems currentTargets)
  let replacementCandidates := staleReceipts.countP remotePresent
  let deletionCandidates := staleReceipts.countP fun receipt => !remotePresent receipt
  refuseIf (replacementCandidates != convergence.revalidateStaleFileReplacements
    || deletionCandidates != convergence.revalidateStaleFileDeletions)
    .remoteReplacementPlanTargetMismatch
  .ok {
    staleReceiptsTotal := staleReceipts.length
    replacementCandidates := replacementCandidates
    deletionCandidates := deletionCandidates
    convergenceReplacementActions := convergence.revalidateStaleFileReplacements
    convergenceDeletionActions := convergence.revalidateStaleFileDeletions }

/-- The readiness checks of `replace_selected_root_stale_files` on the candidate counts. -/
def admitReplacement (inputs : RootInputs) : Except SelectedRootExecutorError Unit := do
  let readiness ← planStaleFileCandidates inputs
  refuseIf (readiness.staleReceiptsTotal == 0
    || decide (readiness.staleReceiptsTotal > supervisedStaleFilePlanMaxActions)
    || readiness.deletionCandidates != 0
    || readiness.replacementCandidates != readiness.staleReceiptsTotal
    || readiness.convergenceDeletionActions != 0
    || readiness.convergenceReplacementActions != readiness.replacementCandidates)
    .remoteReplacementBatchNotReady

/-- The readiness checks of `delete_selected_root_stale_files` on the candidate counts, and its check
    that no stale receipt belongs to a catalogued item. -/
def admitStaleFileDeletion (inputs : RootInputs) : Except SelectedRootExecutorError Unit := do
  let readiness ← planStaleFileCandidates inputs
  refuseIf (readiness.staleReceiptsTotal == 0
    || decide (readiness.staleReceiptsTotal > supervisedStaleFilePlanMaxActions)
    || readiness.replacementCandidates != 0
    || readiness.deletionCandidates != readiness.staleReceiptsTotal
    || readiness.convergenceReplacementActions != 0
    || readiness.convergenceDeletionActions != readiness.deletionCandidates)
    .remoteDeletionBatchNotReady
  refuseIf ((inputs.receiptTable .file .stale).any fun receipt =>
    inputs.remoteItems.any (·.remoteId == receipt.remoteId)) .remoteDeletionBatchNotReady

/-- `delete_selected_root_stale_directories`, up to `validated_selected_root_path`. -/
def admitStaleDirectoryDeletion (inputs : RootInputs) : Except SelectedRootExecutorError Unit := do
  let convergence ← planRootConvergence inputs
  let plannedDeletions := convergence.deleteOwnedEmptyDirectories
  refuseIf (convergence.blocked
    || plannedDeletions == 0
    || decide (plannedDeletions > supervisedStaleDirectoryDeletionMaxActions)
    || convergence.createDirectories != 0
    || convergence.materializeMissingFiles != 0
    || convergence.verifyExistingFiles != 0
    || convergence.revalidateStaleFileReplacements != 0
    || convergence.revalidateStaleFileDeletions != 0) .remoteDirectoryDeletionBatchNotReady
  let staleReceipts := inputs.receiptTable .directory .stale
  refuseIf (staleReceipts.length != plannedDeletions
    || decide (staleReceipts.length > supervisedStaleDirectoryDeletionMaxActions))
    .remoteDirectoryDeletionBatchTargetMismatch
  refuseIf (staleReceipts.any fun receipt =>
    inputs.remoteItems.any (·.remoteId == receipt.remoteId))
    .remoteDirectoryDeletionBatchTargetMismatch

/-- The admission checks of the executor a phase is handed to. -/
def admitPhase (inputs : RootInputs) :
    SelectedRootUnifiedConvergencePhase → Except SelectedRootExecutorError Unit
  | .createDirectories => admitDirectories inputs
  | .materializeMissingFiles => admitMissingFileDownloads inputs
  | .verifyExistingFiles => admitVerification inputs
  | .replaceStaleFiles => admitReplacement inputs
  | .deleteStaleFiles => admitStaleFileDeletion inputs
  | .deleteStaleDirectories => admitStaleDirectoryDeletion inputs

end NubiSync
