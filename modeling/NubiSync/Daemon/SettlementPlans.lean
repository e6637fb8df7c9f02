import NubiSync.Daemon.RemoteWritePlan
import NubiSync.Daemon.UploadBuffer
import NubiSync.Storage.Settlements

set_option autoImplicit false

/-! # Planning settlements

What a settlement commits is computed from the durable baseline and two scans in a row: the baseline
with the created item, and the diff of that against the tree, whose entries become the residual
events. A file is promoted as it was uploaded, a folder as it is now. -/

namespace NubiSync

open Checks

/-! ## What the planners share -/

/-- `sync_root_local_inventory_state`. -/
def RootStore.localInventoryState (store : RootStore) : LocalInventoryState :=
  store.localState.getD ⟨false, 0, none, 0, false⟩

/-- The local authority of a settlement: the complete baseline of the candidate's generation, with
    nothing at the candidate's path. -/
def RootStore.settlementBaseline (store : RootStore) (baselineGeneration : ℕ) (relativePath : Text)
    (mismatch : SelectedRootExecutorError) :
    Except SelectedRootExecutorError (LocalInventoryState × List LocalItemSnapshot) := do
  let state := store.localInventoryState
  refuseIf (!state.snapshotComplete || !state.observationValid
    || state.generation != baselineGeneration) mismatch
  let baseline := store.listLocalItems
  refuseIf (baseline.length != state.itemCount || baseline.any (·.relativePath == relativePath))
    mismatch
  .ok (state, baseline)

/-- The catalog has the created item where the candidate put it, and it passes the further checks of
    its kind. -/
def RootStore.checkSettlementRemote (store : RootStore)
    (predeterminedRemoteId expectedParentRemoteId relativePath : Text) (kind : RemoteItemKind)
    (fits : CatalogRow → Bool) (mismatch : SelectedRootExecutorError) :
    Except SelectedRootExecutorError Unit := do
  let remote ← orRefuse (store.catalog.items.find? predeterminedRemoteId) mismatch
  let expectedName := relativePath.basename
  refuseIf (expectedName.isEmpty || remote.name != expectedName || remote.itemKind != kind
    || !fits remote || remote.parentRemoteId != some expectedParentRemoteId || remote.trashed)
    mismatch

/-- The baseline a settlement proposes. -/
def proposedBaseline (baseline : List LocalItemSnapshot) (promoted : LocalItemSnapshot) :
    List LocalItemSnapshot :=
  (baseline ++ [promoted]).insertionSort fun left right => left.relativePath ≤ right.relativePath

/-- The diff that remains once the created item is in the baseline. -/
def residualDiff (state : LocalInventoryState) (baseline current : List LocalItemSnapshot)
    (promoted : LocalItemSnapshot) (settledAtUnixMs : Int) :
    Except SelectedRootExecutorError SelectedRootLocalInventoryDiff := do
  refuseIf (decide (2 ^ 64 ≤ state.generation + 1)) .countOverflow
  buildSelectedRootLocalInventoryDiff (proposedBaseline baseline promoted) current
    (state.generation + 1) (some settledAtUnixMs)

/-- The events of the entries of a diff. -/
def residualEvents (entries : List SelectedRootLocalDiffEntry) :
    Except SelectedRootExecutorError (List LocalChangeEventInput) :=
  fromStorage (entries.mapM fun entry =>
    LocalChangeEventInput.new entry.relativePath entry.kind entry.baselineKind entry.currentKind)

/-! ## Inputs -/

def RemoteWriteFileCreateSettlementInput.new (fields : RemoteWriteCreateSettlementFields)
    (sha256Hex : Text) (expectedRemoteVersion : ℕ) :
    Except StorageError RemoteWriteFileCreateSettlementInput :=
  match h : fields.checkFile sha256Hex expectedRemoteVersion with
  | .ok () => .ok ⟨fields, sha256Hex, expectedRemoteVersion, h⟩
  | .error error => .error error

def RemoteWriteFolderCreateSettlementInput.new (fields : RemoteWriteCreateSettlementFields) :
    Except StorageError RemoteWriteFolderCreateSettlementInput :=
  match h : fields.checkFolder with
  | .ok () => .ok ⟨fields, h⟩
  | .error error => .error error

/-- `LocalItemSnapshot::new` for the file a candidate uploaded. -/
def RemoteWriteFileCreateCandidate.uploaded (candidate : RemoteWriteFileCreateCandidate) :
    Option LocalItemSnapshot :=
  if h : isSafeRelativePath candidate.relativePath = true then
    some ⟨candidate.relativePath, .file, some candidate.localSizeBytes,
      candidate.localModifiedUnixNs, candidate.localDeviceId, candidate.localInode, h, rfl⟩
  else none

/-- The item is the file that was uploaded, by its metadata. -/
def RemoteWriteFileCreateCandidate.metadataMatchesUploaded
    (candidate : RemoteWriteFileCreateCandidate) (current : LocalItemSnapshot) : Bool :=
  current.kind == .file && current.sizeBytes == some candidate.localSizeBytes
    && current.modifiedUnixNs == candidate.localModifiedUnixNs
    && current.deviceId == candidate.localDeviceId && current.inode == candidate.localInode

/-- The local file, where its metadata is that of the upload, still has the uploaded content. -/
def RemoteWriteFileCreateCandidate.checkSource (candidate : RemoteWriteFileCreateCandidate)
    (current : List LocalItemSnapshot) (sha256Hex : Text)
    (source : Except SelectedRootExecutorError SelectedRootFileCreateStreamResult) :
    Except SelectedRootExecutorError Unit :=
  if (snapshotAt current candidate.relativePath).any candidate.metadataMatchesUploaded then do
    let finished ← source
    refuseIf (!finished.sourceStable || finished.sha256Hex != sha256Hex)
      .remoteWriteFileSettlementContentMismatch
  else .ok ()

/-! ## The planners -/

/-- `plan_selected_root_confirmed_file_create_settlement`, on two scans in a row and what reading the
    candidate's local file gives. -/
def planSelectedRootConfirmedFileCreateSettlement (store : RootStore)
    (candidate : RemoteWriteFileCreateCandidate) (settledAtUnixMs : Int)
    (first second : List LocalItemSnapshot)
    (source : Except SelectedRootExecutorError SelectedRootFileCreateStreamResult) :
    Except SelectedRootExecutorError RemoteWriteFileCreateSettlementInput := do
  refuseIf (store.mode != .twoWay) .remoteWriteFileSettlementModeUnsupported
  refuseIf (candidate.status != .confirmed || decide (settledAtUnixMs ≤ 0))
    .remoteWriteFileSettlementNotEligible
  let found ← fromStorage (store.fileCreateContentEvidence candidate.intentId)
  let evidence ← orRefuse found .remoteWriteFileSettlementEvidenceMismatch
  let remoteVersion ← orRefuse evidence.remoteVersion .remoteWriteFileSettlementEvidenceMismatch
  refuseIf (evidence.sizeBytes != candidate.localSizeBytes || evidence.sizeBytes == 0)
    .remoteWriteFileSettlementEvidenceMismatch
  let (state, baseline) ← store.settlementBaseline candidate.baselineGeneration
    candidate.relativePath .remoteWriteFileSettlementLocalAuthorityMismatch
  let pending := store.listPendingLocalChangeEvents candidate.baselineGeneration
  let sourceEvent ← orRefuse (pending.find? (·.id == candidate.sourceLocalEventId))
    .remoteWriteFileSettlementSourceEventMismatch
  refuseIf (sourceEvent.relativePath != candidate.relativePath || sourceEvent.eventKind != .created
    || sourceEvent.baselineKind.isSome || sourceEvent.currentKind != some .file)
    .remoteWriteFileSettlementSourceEventMismatch
  -- the tree has to stand still over two scans
  refuseIf (first != second) .localDiffScanRace
  let promoted ← orRefuse candidate.uploaded .remoteWriteFileSettlementSnapshotInvalid
  candidate.checkSource first evidence.sha256Hex source
  store.checkSettlementRemote candidate.predeterminedRemoteId candidate.expectedParentRemoteId
    candidate.relativePath .file (·.sizeBytes == some evidence.sizeBytes)
    .remoteWriteFileSettlementRemoteCatalogMismatch
  let diff ← residualDiff state baseline first promoted settledAtUnixMs
  let events ← residualEvents diff.entries
  fromStorage (RemoteWriteFileCreateSettlementInput.new
    { intentId := candidate.intentId
      sourceLocalEventId := candidate.sourceLocalEventId
      expectedIntentExecutionGeneration := candidate.executionGeneration
      expectedFromGeneration := state.generation
      expectedItemCount := state.itemCount
      expectedSnapshotCompletedAtUnixMs := state.snapshotCompletedAtUnixMs
      promoted := promoted
      residualEvents := events
      predeterminedRemoteId := candidate.predeterminedRemoteId
      expectedParentRemoteId := candidate.expectedParentRemoteId
      settledAtUnixMs := settledAtUnixMs } evidence.sha256Hex remoteVersion)

/-- `plan_selected_root_confirmed_folder_create_settlement`, on two scans in a row. -/
def planSelectedRootConfirmedFolderCreateSettlement (store : RootStore)
    (candidate : RemoteWriteFolderCreateCandidate) (settledAtUnixMs : Int)
    (first second : List LocalItemSnapshot) :
    Except SelectedRootExecutorError RemoteWriteFolderCreateSettlementInput := do
  refuseIf (store.mode != .twoWay) .remoteWriteFolderSettlementModeUnsupported
  refuseIf (candidate.status != .confirmed || decide (settledAtUnixMs ≤ 0))
    .remoteWriteFolderSettlementNotEligible
  let (state, baseline) ← store.settlementBaseline candidate.baselineGeneration
    candidate.relativePath .remoteWriteFolderSettlementLocalAuthorityMismatch
  refuseIf (first != second) .localDiffScanRace
  let currentSource ← orRefuse (snapshotAt first candidate.relativePath)
    .remoteWriteFolderSettlementLocalIdentityMismatch
  refuseIf (currentSource.kind != .directory || currentSource.sizeBytes.isSome
    || currentSource.deviceId != candidate.localDeviceId
    || currentSource.inode != candidate.localInode) .remoteWriteFolderSettlementLocalIdentityMismatch
  let oldDiff ← buildSelectedRootLocalInventoryDiff baseline first state.generation
    state.snapshotCompletedAtUnixMs
  let sourceEntry ← orRefuse (oldDiff.entries.find? (·.relativePath == candidate.relativePath))
    .remoteWriteFolderSettlementSourceDiffMismatch
  refuseIf (sourceEntry.kind != .created || sourceEntry.baselineKind.isSome
    || sourceEntry.currentKind != some .directory) .remoteWriteFolderSettlementSourceDiffMismatch
  store.checkSettlementRemote candidate.predeterminedRemoteId candidate.expectedParentRemoteId
    candidate.relativePath .folder (fun _ => true) .remoteWriteFolderSettlementRemoteCatalogMismatch
  let diff ← residualDiff state baseline first currentSource settledAtUnixMs
  -- once the folder is in the baseline it must not differ any more
  refuseIf (diff.entries.any (·.relativePath == candidate.relativePath))
    .remoteWriteFolderSettlementResidualMismatch
  let events ← residualEvents diff.entries
  fromStorage (RemoteWriteFolderCreateSettlementInput.new
    { intentId := candidate.intentId
      sourceLocalEventId := candidate.sourceLocalEventId
      expectedIntentExecutionGeneration := candidate.executionGeneration
      expectedFromGeneration := state.generation
      expectedItemCount := state.itemCount
      expectedSnapshotCompletedAtUnixMs := state.snapshotCompletedAtUnixMs
      promoted := currentSource
      residualEvents := events
      predeterminedRemoteId := candidate.predeterminedRemoteId
      expectedParentRemoteId := candidate.expectedParentRemoteId
      settledAtUnixMs := settledAtUnixMs })

end NubiSync
