import NubiSync.Storage.LocalInventory
import NubiSync.Storage.MaterializationReceipts
import NubiSync.Storage.RemoteWriteIntents

set_option autoImplicit false

/-! # Create settlements

A confirmed create is settled in one transaction: the created item joins the local baseline, the
baseline moves on to the next generation, the source event is applied, the other pending events are
replaced by the residual ones, and a current receipt takes ownership of the remote item. The two
settlements share all of it but the evidence they compare. -/

namespace NubiSync

open Checks

/-! ## Inputs -/

/-- The fields both settlement inputs have. -/
structure RemoteWriteCreateSettlementFields where
  intentId : ℕ
  sourceLocalEventId : ℕ
  expectedIntentExecutionGeneration : ℕ
  expectedFromGeneration : ℕ
  expectedItemCount : ℕ
  expectedSnapshotCompletedAtUnixMs : Option Int
  promoted : LocalItemSnapshot
  residualEvents : List LocalChangeEventInput
  predeterminedRemoteId : Text
  expectedParentRemoteId : Text
  settledAtUnixMs : Int

/-- The identifiers and times both constructors check first. -/
def RemoteWriteCreateSettlementFields.checkCommon (input : RemoteWriteCreateSettlementFields)
    (promotedKind : LocalItemKind) : Except StorageError Unit :=
  refuseIf (input.intentId == 0 || input.sourceLocalEventId == 0
    || input.expectedFromGeneration == 0 || decide (input.settledAtUnixMs ≤ 0)
    || input.promoted.kind != promotedKind || !isSafeRelativePath input.promoted.relativePath)
    .invalidRemoteWriteSettlement

/-- The checks of `RemoteWriteFileCreateSettlementInput::new`. -/
def RemoteWriteCreateSettlementFields.checkFile (input : RemoteWriteCreateSettlementFields)
    (sha256Hex : Text) (expectedRemoteVersion : ℕ) : Except StorageError Unit := do
  input.checkCommon .file
  refuseIf (expectedRemoteVersion == 0 || !input.promoted.sizeBytes.any (· != 0))
    .invalidRemoteWriteSettlement
  validateRemoteWriteIdentifier input.expectedParentRemoteId
  validateMaterializationReceiptValues input.predeterminedRemoteId input.promoted.relativePath
    sha256Hex
  refuseIf (!decide (input.residualEvents.map LocalChangeEventInput.relativePath).Nodup)
    .invalidRemoteWriteSettlement

/-- The checks of `RemoteWriteFolderCreateSettlementInput::new`. -/
def RemoteWriteCreateSettlementFields.checkFolder (input : RemoteWriteCreateSettlementFields) :
    Except StorageError Unit := do
  input.checkCommon .directory
  refuseIf input.promoted.sizeBytes.isSome .invalidRemoteWriteSettlement
  validateRemoteWriteIdentifier input.predeterminedRemoteId
  validateRemoteWriteIdentifier input.expectedParentRemoteId
  refuseIf (input.residualEvents.any (·.relativePath == input.promoted.relativePath))
    .invalidRemoteWriteSettlement

/-- `RemoteWriteFileCreateSettlementInput`, which only its constructor can build. -/
structure RemoteWriteFileCreateSettlementInput extends RemoteWriteCreateSettlementFields where
  sha256Hex : Text
  expectedRemoteVersion : ℕ
  checked : toRemoteWriteCreateSettlementFields.checkFile sha256Hex expectedRemoteVersion = .ok ()

/-- `RemoteWriteFolderCreateSettlementInput`, which only its constructor can build. -/
structure RemoteWriteFolderCreateSettlementInput extends RemoteWriteCreateSettlementFields where
  checked : toRemoteWriteCreateSettlementFields.checkFolder = .ok ()

/-- `RemoteWriteFileCreateSettlementResult` and `RemoteWriteFolderCreateSettlementResult`, less the
    flags that are always set. -/
structure RemoteWriteCreateSettlementResult where
  settledFromGeneration : ℕ
  settledToGeneration : ℕ
  baselineItemCount : ℕ
  residualPendingEvents : ℕ
  supersededOldEvents : ℕ
  deriving DecidableEq, Repr

/-! ## Preconditions -/

/-- The root and its local baseline are as the settlement expects them, and the intent has not been
    settled. -/
def RootStore.checkSettlementRoot (store : RootStore) (input : RemoteWriteCreateSettlementFields)
    (generation itemCount : ℕ) : Except StorageError Unit := do
  refuseIf (store.settlements.find? input.intentId).isSome .remoteWriteSettlementAlreadyExists
  refuseIf (store.mode != .twoWay) .remoteWriteSettlementPreconditionFailed
  let state ← orRefuse store.localState .remoteWriteSettlementPreconditionFailed
  refuseIf (!state.snapshotComplete || !state.observationValid || state.itemCount != itemCount
    || state.generation != generation
    || state.snapshotCompletedAtUnixMs != input.expectedSnapshotCompletedAtUnixMs)
    .remoteWriteSettlementPreconditionFailed

/-- The confirmed intent of the settlement. -/
def RootStore.settledIntent (store : RootStore) (input : RemoteWriteCreateSettlementFields)
    (operation : RemoteWriteIntentOperation) (localKind : LocalItemKind)
    (generation executionGeneration : ℕ) : Except StorageError RemoteWriteIntentRow := do
  let intent ← orRefuse (store.intents.find? input.intentId)
    .remoteWriteSettlementPreconditionFailed
  refuseIf (intent.sourceLocalEventId != input.sourceLocalEventId
    || intent.baselineGeneration != generation || intent.operation != operation
    || intent.status != .confirmed || intent.relativePath != input.promoted.relativePath
    || intent.localKind != localKind || intent.localDeviceId != some input.promoted.deviceId
    || intent.localInode != some input.promoted.inode
    || intent.predeterminedRemoteId != some input.predeterminedRemoteId
    || intent.expectedParentRemoteId != some input.expectedParentRemoteId
    || intent.executionGeneration != executionGeneration) .remoteWriteSettlementPreconditionFailed
  .ok intent

/-- What a file settlement asks of the intent beyond that: the size and time of the promoted file,
    and the evidence of the confirmed upload. -/
def RemoteWriteFileCreateSettlementInput.checkEvidence (input : RemoteWriteFileCreateSettlementInput)
    (intent : RemoteWriteIntentRow) (promotedSize : ℕ) : Except StorageError Unit := do
  refuseIf (intent.localSizeBytes != some promotedSize
    || intent.localModifiedUnixNs != some input.promoted.modifiedUnixNs)
    .remoteWriteSettlementPreconditionFailed
  let remoteVersion ← orRefuse intent.expectedRemoteVersion .remoteWriteSettlementPreconditionFailed
  refuseIf (intent.expectedRemoteKind != some .file || remoteVersion != input.expectedRemoteVersion
    || remoteVersion == 0 || intent.expectedRemoteSizeBytes != some promotedSize
    || intent.expectedChecksumAlgorithm != some "sha256".toList
    || intent.expectedContentChecksum != some input.sha256Hex)
    .remoteWriteSettlementPreconditionFailed

/-- The source event is still the pending creation of the promoted item. -/
def RootStore.checkSettlementSource (store : RootStore) (input : RemoteWriteCreateSettlementFields)
    (createdKind : LocalItemKind) (generation : ℕ) : Except StorageError Unit := do
  let event ← orRefuse (store.localEvent? input.sourceLocalEventId)
    .remoteWriteSettlementPreconditionFailed
  refuseIf (event.eventKind != .created || event.relativePath != input.promoted.relativePath
    || event.currentKind != some createdKind || event.status != .pending
    || event.baselineGeneration != generation) .remoteWriteSettlementPreconditionFailed

/-- The catalog has the created item where the intent put it. -/
def RootStore.settledRemoteItem (store : RootStore) (input : RemoteWriteCreateSettlementFields)
    (kind : RemoteItemKind) : Except StorageError CatalogRow := do
  let expectedName := input.promoted.relativePath.basename
  refuseIf expectedName.isEmpty .remoteWriteSettlementPreconditionFailed
  let row ← orRefuse (store.catalog.items.find? input.predeterminedRemoteId)
    .remoteWriteSettlementPreconditionFailed
  refuseIf (row.parentRemoteId != some input.expectedParentRemoteId || row.name != expectedName
    || row.itemKind != kind || row.trashed) .remoteWriteSettlementPreconditionFailed
  .ok row

/-! ## Writes -/

/-- The plain `INSERT` of a residual event. -/
def RootStore.insertLocalChange (generation : ℕ) (store : RootStore)
    (event : LocalChangeEventInput) : Except StorageError RootStore := do
  let localEvents ← insertNew store.localEvents ⟨store.nextEventId, generation, event.kind,
    event.relativePath, event.baselineKind, event.currentKind, .pending⟩
  .ok { store with localEvents := localEvents, nextEventId := store.nextEventId + 1 }

/-- The baseline with the promoted item, at the next generation. -/
def RootStore.promoteLocalItem (store : RootStore) (input : RemoteWriteCreateSettlementFields)
    (nextGeneration nextItemCount : ℕ) : Except StorageError RootStore := do
  let localItems ← insertNew store.localItems input.promoted
  .ok { store with
    localItems := localItems
    localState := some ⟨true, nextItemCount, some input.settledAtUnixMs, nextGeneration, true⟩ }

/-- The journal after a settlement: the source event applied, the other pending ones superseded, and
    the residual ones pending at the next generation. Also the number of superseded events. -/
def RootStore.settleJournal (store : RootStore) (input : RemoteWriteCreateSettlementFields)
    (generation nextGeneration : ℕ) : Except StorageError (RootStore × ℕ) := do
  let isSource := fun (event : LocalChangeEventRow) =>
    event.id == input.sourceLocalEventId && event.isPending generation
  refuseIf (!store.localEvents.rows.any isSource) .remoteWriteSettlementCompareAndSetFailed
  let applied := store.setEventStatus isSource .applied
  let superseded := applied.setEventStatus (·.isPending generation) .superseded
  let journal ← input.residualEvents.foldlM (RootStore.insertLocalChange nextGeneration) superseded
  refuseIf (journal.localEvents.rows.countP (·.isPending nextGeneration)
    != input.residualEvents.length) .remoteWriteSettlementResidualMismatch
  .ok (journal, applied.localEvents.rows.countP (·.isPending generation))

/-- The settlement row, and the final count of the baseline. -/
def RootStore.recordSettlement (store : RootStore) (input : RemoteWriteCreateSettlementFields)
    (generation nextGeneration nextItemCount : ℕ) : Except StorageError RootStore := do
  refuseIf (store.settlements.rows.any (·.sourceLocalEventId == input.sourceLocalEventId)) .sqlite
  let settlements ← insertNew store.settlements
    ⟨input.intentId, input.sourceLocalEventId, generation, nextGeneration⟩
  refuseIf (store.localItems.rows.length != nextItemCount)
    .remoteWriteSettlementBaselineCountMismatch
  .ok { store with settlements := settlements }

/-- The plain `INSERT` of a current file receipt. -/
def CatalogStore.insertFileReceipt (catalog : CatalogStore) (remoteId relativePath : Text)
    (sizeBytes : ℕ) (sha256Hex : Text) : Except StorageError CatalogStore := do
  refuseIf (catalog.hasOtherCurrentFile remoteId relativePath) .sqlite
  let fileReceipts ← insertNew catalog.fileReceipts
    ⟨remoteId, relativePath, sizeBytes, sha256Hex, .current⟩
  .ok { catalog with fileReceipts := fileReceipts }

/-- The plain `INSERT` of a current directory receipt. -/
def CatalogStore.insertDirectoryReceipt (catalog : CatalogStore) (remoteId relativePath : Text) :
    Except StorageError CatalogStore := do
  refuseIf (catalog.hasOtherCurrentDirectory remoteId relativePath) .sqlite
  let directoryReceipts ← insertNew catalog.directoryReceipts ⟨remoteId, relativePath, .current⟩
  .ok { catalog with directoryReceipts := directoryReceipts }

/-! ## The settlements -/

/-- `settle_confirmed_sync_root_file_create`. -/
def RootStore.settleConfirmedFileCreate (store : RootStore)
    (input : RemoteWriteFileCreateSettlementInput) :
    Except StorageError (RootStore × RemoteWriteCreateSettlementResult) := do
  let fields := input.toRemoteWriteCreateSettlementFields
  let generation ← toI64 input.expectedFromGeneration
  let itemCount ← toI64 input.expectedItemCount
  let executionGeneration ← toI64 input.expectedIntentExecutionGeneration
  let size ← orRefuse input.promoted.sizeBytes .remoteWriteSettlementPreconditionFailed
  let promotedSize ← toI64 size
  let nextGeneration ← checkedAdd generation 1
  let nextItemCount ← checkedAdd itemCount 1
  store.checkSettlementRoot fields generation itemCount
  let intent ← store.settledIntent fields .createFile .file generation executionGeneration
  input.checkEvidence intent promotedSize
  store.checkSettlementSource fields .file generation
  let row ← store.settledRemoteItem fields .file
  refuseIf (row.sizeBytes != some promotedSize) .remoteWriteSettlementPreconditionFailed
  -- neither the path nor the item may be taken: the baseline row and the receipt are plain inserts
  refuseIf (store.localItems.find? input.promoted.relativePath).isSome
    .remoteWriteSettlementPreconditionFailed
  refuseIf (store.catalog.fileReceipts.rows.any fun receipt =>
    receipt.remoteId == input.predeterminedRemoteId
      || receipt.relativePath == input.promoted.relativePath)
    .remoteWriteSettlementPreconditionFailed
  let promoted ← store.promoteLocalItem fields nextGeneration nextItemCount
  let (journal, superseded) ← promoted.settleJournal fields generation nextGeneration
  let catalog ← journal.catalog.insertFileReceipt input.predeterminedRemoteId
    input.promoted.relativePath promotedSize input.sha256Hex
  let settled ← { journal with catalog := catalog : RootStore }.recordSettlement fields generation
    nextGeneration nextItemCount
  .ok (settled, ⟨generation, nextGeneration, nextItemCount, input.residualEvents.length, superseded⟩)

/-- `settle_confirmed_sync_root_folder_create`. -/
def RootStore.settleConfirmedFolderCreate (store : RootStore)
    (input : RemoteWriteFolderCreateSettlementInput) :
    Except StorageError (RootStore × RemoteWriteCreateSettlementResult) := do
  let fields := input.toRemoteWriteCreateSettlementFields
  let generation ← toI64 input.expectedFromGeneration
  let itemCount ← toI64 input.expectedItemCount
  let executionGeneration ← toI64 input.expectedIntentExecutionGeneration
  let nextGeneration ← checkedAdd generation 1
  let nextItemCount ← checkedAdd itemCount 1
  store.checkSettlementRoot fields generation itemCount
  let _ ← store.settledIntent fields .createFolder .directory generation executionGeneration
  store.checkSettlementSource fields .directory generation
  let _ ← store.settledRemoteItem fields .folder
  refuseIf (store.localItems.find? input.promoted.relativePath).isSome
    .remoteWriteSettlementPreconditionFailed
  let promoted ← store.promoteLocalItem fields nextGeneration nextItemCount
  let (journal, superseded) ← promoted.settleJournal fields generation nextGeneration
  let catalog ← journal.catalog.insertDirectoryReceipt input.predeterminedRemoteId
    input.promoted.relativePath
  let settled ← { journal with catalog := catalog : RootStore }.recordSettlement fields generation
    nextGeneration nextItemCount
  .ok (settled, ⟨generation, nextGeneration, nextItemCount, input.residualEvents.length, superseded⟩)

end NubiSync
