import NubiSync.Daemon.LocalDiff
import NubiSync.Storage.RemoteWriteIntents

set_option autoImplicit false

/-! # Planning remote writes

The plan that turns the pending local changes of a root into remote-write operations: which remote item
a change is about, by the current receipts, and whether the observed authority allows it. A create
resolves its parent through the receipts of the directories above it. -/

namespace NubiSync

open Checks

/-! ## Paths -/

/-- The path of components that are listed last first. -/
def pathOfReversed (components : List Text) : Text := ['/'].intercalate components.reverse

/-- The paths strictly above a path of components that are listed last first. -/
def pathsAbove : List Text → List Text
  | [] | [_] => []
  | _ :: parent :: rest => pathOfReversed (parent :: rest) :: pathsAbove (parent :: rest)

def hasDeletedAncestor (relativePath : Text) (deletedPaths : List Text) : Bool :=
  (pathsAbove relativePath.components.reverse).any (· ∈ deletedPaths)

/-! ## Entries -/

inductive SelectedRootRemoteWritePlanDisposition where
  | ready
  | needsPredeterminedRemoteId
  | conflict
  | blockedIdentity
  | blockedAuthority
  deriving DecidableEq, Repr

structure SelectedRootRemoteWritePlanEntry where
  sourceLocalEventId : ℕ
  relativePath : Text
  operation : Option RemoteWriteIntentOperation
  disposition : SelectedRootRemoteWritePlanDisposition
  localKind : Option LocalItemKind
  localSizeBytes : Option ℕ
  localModifiedUnixNs : Option Int
  localDeviceId : Option ℕ
  localInode : Option ℕ
  targetRemoteId : Option Text
  expectedParentRemoteId : Option Text
  expectedRemoteKind : Option RemoteItemKind
  expectedRemoteVersion : Option ℕ
  expectedRemoteSizeBytes : Option ℕ
  expectedChecksumAlgorithm : Option Text
  expectedContentChecksum : Option Text
  deriving DecidableEq, Repr

def planEntryFromSnapshot (event : LocalChangeEventRow)
    (operation : Option RemoteWriteIntentOperation) (snapshot : Option LocalItemSnapshot) :
    SelectedRootRemoteWritePlanEntry where
  sourceLocalEventId := event.id
  relativePath := event.relativePath
  operation := operation
  disposition := .blockedIdentity
  localKind := snapshot.map LocalItemSnapshot.kind
  localSizeBytes := snapshot.bind LocalItemSnapshot.sizeBytes
  localModifiedUnixNs := snapshot.map LocalItemSnapshot.modifiedUnixNs
  localDeviceId := snapshot.map LocalItemSnapshot.deviceId
  localInode := snapshot.map LocalItemSnapshot.inode
  targetRemoteId := none
  expectedParentRemoteId := none
  expectedRemoteKind := none
  expectedRemoteVersion := none
  expectedRemoteSizeBytes := none
  expectedChecksumAlgorithm := none
  expectedContentChecksum := none

/-- The operation of an event. -/
def planOperation (event : LocalChangeEventRow) : Option RemoteWriteIntentOperation :=
  match event.eventKind, event.currentKind with
  | .created, some .file => some .createFile
  | .created, some .directory => some .createFolder
  | .modified, some .file => some .updateFile
  | .deleted, _ => some .trashItem
  | _, _ => none

/-! ## Resolution -/

/-- What the entries of a plan are derived from. -/
structure RemoteWritePlanInputs where
  remoteRootId : Text
  events : List LocalChangeEventRow
  baseline : List LocalItemSnapshot
  current : List LocalItemSnapshot
  remoteItems : List RemoteItem
  fileReceipts : List FileReceiptRow
  directoryReceipts : List DirectoryReceiptRow
  authorities : List RemoteWriteAuthoritySnapshot

namespace RemoteWritePlanInputs

variable (inputs : RemoteWritePlanInputs)

/-- The owned paths, with the remote id and the kind of their owner. -/
def ownership : List (Text × Text × LocalItemKind) :=
  inputs.fileReceipts.map (fun receipt => (receipt.relativePath, receipt.remoteId, .file))
    ++ inputs.directoryReceipts.map
      fun receipt => (receipt.relativePath, receipt.remoteId, .directory)

/-- The owner of a path. -/
def ownerOf (relativePath : Text) : Option (Text × LocalItemKind) :=
  inputs.ownership.lookup relativePath

/-- The item of a remote id. -/
def remoteById (remoteId : Text) : Option RemoteItem :=
  inputs.remoteItems.find? (·.remoteId == remoteId)

/-- The authority on a remote id. -/
def authorityById (remoteId : Text) : Option RemoteWriteAuthoritySnapshot :=
  inputs.authorities.find? (·.remoteId == remoteId)

/-- `resolve_owned_directory_remote_id`, on the components of the path listed last first. -/
def resolveOwnedDirectoryRemoteId : List Text → Option Text
  | [] => none
  | name :: rest => do
      let (remoteId, kind) ← inputs.ownerOf (pathOfReversed (name :: rest))
      guard (kind = .directory)
      let remote ← inputs.remoteById remoteId
      guard (remote.kind = .folder ∧ remote.trashed = false ∧ remote.name = name)
      let expectedParent ←
        if rest = [] then some inputs.remoteRootId else resolveOwnedDirectoryRemoteId rest
      guard (remote.parentRemoteId = some expectedParent)
      some remoteId

def resolveOwnedParentRemoteId (relativePath : Text) : Option Text :=
  match relativePath.components.reverse.tail with
  | [] => some inputs.remoteRootId
  | parent => inputs.resolveOwnedDirectoryRemoteId parent

/-! ## Deriving the entries -/

/-- The entry of a creation whose local item is there. -/
def createdEntry (event : LocalChangeEventRow) (snapshot : LocalItemSnapshot)
    (entry : SelectedRootRemoteWritePlanEntry) : SelectedRootRemoteWritePlanEntry :=
  match inputs.resolveOwnedParentRemoteId event.relativePath with
  | none => { entry with disposition := .blockedIdentity }
  | some parent =>
      let entry := { entry with expectedParentRemoteId := some parent }
      if (inputs.authorityById parent).any (·.canAddChildren) then
        { entry with
          localKind := some snapshot.kind
          disposition := .needsPredeterminedRemoteId }
      else { entry with disposition := .blockedAuthority }

/-- The kind an owned item of a local kind has to have. -/
def remoteKindOf : LocalItemKind → RemoteItemKind
  | .file => .file
  | .directory => .folder

/-- The remote item a modification or a deletion is about, with its parent: the owned item of the
    path, still live and still of the expected kind, name and place. -/
def ownedItem (relativePath : Text) (expectedKind : LocalItemKind) :
    Option (RemoteItem × Text) := do
  let (remoteId, receiptKind) ← inputs.ownerOf relativePath
  guard (receiptKind = expectedKind)
  let remote ← inputs.remoteById remoteId
  guard (remote.kind = remoteKindOf expectedKind ∧ remote.trashed = false
    ∧ remote.name = relativePath.basename)
  let parent ← inputs.resolveOwnedParentRemoteId relativePath
  guard (remote.parentRemoteId = some parent)
  some (remote, parent)

/-- The capability a modification or a deletion needs of its item. -/
def hasCapability (kind : LocalChangeEventKind) (authority : RemoteWriteAuthoritySnapshot) : Bool :=
  match kind with
  | .modified => authority.canEdit
  | .deleted => authority.canTrash
  | .created | .typeChanged => false

/-- The entry of a modification or a deletion of an item of a kind. -/
def existingEntry (event : LocalChangeEventRow) (expectedKind : LocalItemKind)
    (entry : SelectedRootRemoteWritePlanEntry) : SelectedRootRemoteWritePlanEntry :=
  match inputs.ownedItem event.relativePath expectedKind with
  | none => { entry with disposition := .blockedIdentity }
  | some (remote, parent) =>
      match (inputs.authorityById remote.remoteId).filter (hasCapability event.eventKind) with
      | none => { entry with disposition := .blockedAuthority }
      | some authority =>
          { entry with
            targetRemoteId := some remote.remoteId
            expectedParentRemoteId := some parent
            expectedRemoteKind := some (remoteKindOf expectedKind)
            expectedRemoteVersion := some authority.remoteVersion
            expectedRemoteSizeBytes := remote.sizeBytes
            expectedChecksumAlgorithm := authority.checksumAlgorithm
            expectedContentChecksum := authority.contentChecksum
            disposition := .ready }

/-- The paths of the deletions among the events. -/
def deletedPaths : List Text :=
  (inputs.events.filter (·.eventKind == .deleted)).map LocalChangeEventRow.relativePath

/-- The snapshot that identifies the item of an event: that of the baseline for a deletion, else that
    of the scan. -/
def identitySnapshot (event : LocalChangeEventRow) : Option LocalItemSnapshot :=
  match event.eventKind with
  | .deleted => snapshotAt inputs.baseline event.relativePath
  | .created | .modified | .typeChanged => snapshotAt inputs.current event.relativePath

/-- The entry of one event. -/
def planEntry (event : LocalChangeEventRow) : SelectedRootRemoteWritePlanEntry :=
  let entry := planEntryFromSnapshot event (planOperation event) (inputs.identitySnapshot event)
  if event.eventKind = .typeChanged
      ∨ (event.eventKind = .modified ∧ event.currentKind = some .directory) then
    { entry with disposition := .conflict }
  else
    match inputs.identitySnapshot event with
    | none => { entry with disposition := .blockedIdentity }
    | some snapshot =>
        -- what lies below a deleted folder goes with the folder
        if event.eventKind = .deleted
            ∧ hasDeletedAncestor event.relativePath inputs.deletedPaths = true then
          { entry with disposition := .blockedIdentity }
        else
          match event.eventKind with
          | .created => inputs.createdEntry event snapshot entry
          | .modified | .deleted | .typeChanged =>
              -- a modified item is of the kind that was scanned, a deleted one of the kind it had
              match (if event.eventKind = .modified then event.currentKind
                else event.baselineKind) with
              | none => { entry with disposition := .blockedIdentity }
              | some expectedKind => inputs.existingEntry event expectedKind entry

/-- `derive_selected_root_remote_write_plan_entries`. -/
def deriveEntries : Except SelectedRootExecutorError (List SelectedRootRemoteWritePlanEntry) := do
  refuseIf (hasDuplicatePath inputs.baseline || hasDuplicatePath inputs.current)
    .localDiffDuplicatePath
  refuseIf (!decide (inputs.remoteItems.map RemoteItem.remoteId).Nodup)
    .remoteWritePlanRemoteCatalogIdentityAmbiguous
  refuseIf (!decide (inputs.authorities.map RemoteWriteAuthoritySnapshot.remoteId).Nodup)
    .remoteWritePlanAuthorityCoverageMismatch
  refuseIf (!decide (inputs.ownership.map Prod.fst).Nodup) .remoteWritePlanOwnershipAmbiguous
  .ok (inputs.events.map inputs.planEntry)

end RemoteWritePlanInputs

/-! ## What the plan reads -/

/-- `list_pending_sync_root_local_change_events`. -/
def RootStore.listPendingLocalChangeEvents (store : RootStore) (baselineGeneration : ℕ) :
    List LocalChangeEventRow :=
  (store.localEvents.rows.filter (·.isPending baselineGeneration)).insertionSort
    fun left right => left.relativePath ≤ right.relativePath

/-- A row of the catalog as the store reports it. -/
def CatalogRow.remoteItem (row : CatalogRow) : RemoteItem :=
  ⟨row.remoteId, row.parentRemoteId, row.name, row.itemKind, row.sizeBytes, none, row.trashed⟩

/-- `list_sync_root_remote_items`. -/
def RootStore.listRemoteItems (store : RootStore) : List RemoteItem :=
  (store.catalog.items.rows.insertionSort fun left right => left.remoteId ≤ right.remoteId).map
    fun row => ⟨row.remoteId, row.parentRemoteId, row.name, row.itemKind, row.sizeBytes, none,
      row.trashed⟩

/-- `list_sync_root_remote_write_authorities`. -/
def RootStore.listRemoteWriteAuthorities (store : RootStore) : List RemoteWriteAuthoritySnapshot :=
  store.authority.rows.insertionSort fun left right => left.remoteId ≤ right.remoteId

/-- `list_sync_root_file_materialization_receipts`. -/
def RootStore.listFileReceipts (store : RootStore) : Except StorageError (List FileReceiptRow) := do
  let receipts := (store.catalog.fileReceipts.rows.filter (·.receiptState == .current)).insertionSort
    fun left right => left.remoteId ≤ right.remoteId
  receipts.forM fun receipt =>
    validateMaterializationReceiptValues receipt.remoteId receipt.relativePath receipt.sha256Hex
  .ok receipts

/-- `list_sync_root_directory_materialization_receipts`. -/
def RootStore.listDirectoryReceipts (store : RootStore) :
    Except StorageError (List DirectoryReceiptRow) := do
  let receipts :=
    (store.catalog.directoryReceipts.rows.filter (·.receiptState == .current)).insertionSort
      fun left right => left.remoteId ≤ right.remoteId
  receipts.forM fun receipt =>
    validateDirectoryMaterializationReceiptValues receipt.remoteId receipt.relativePath
  .ok receipts

/-! ## The plan -/

/-- `SelectedRootRemoteWriteIntentPlan`; its counts are counts of the entries. -/
structure SelectedRootRemoteWriteIntentPlan where
  baselineGeneration : ℕ
  pendingEvents : ℕ
  rootWriteCapable : Bool
  fullSyncCredentialPresent : Bool
  entries : List SelectedRootRemoteWritePlanEntry
  deriving DecidableEq, Repr

/-- The journal holds one pending event for each entry of the diff, in the same order. -/
def journalMatches (events : List LocalChangeEventRow) (entries : List SelectedRootLocalDiffEntry) :
    Bool :=
  events.map (fun event => SelectedRootLocalDiffEntry.mk event.relativePath event.eventKind
    event.baselineKind event.currentKind) == entries

/-- The remote side of the plan: the caught-up catalog with its cursor, and an authority snapshot of
    the same cursor that covers the root and every item. -/
def RootStore.checkRemoteWritePlan (store : RootStore) (remoteRootId : Text) :
    Except SelectedRootExecutorError Unit := do
  let state ← orRefuse store.remoteState .remoteWritePlanRemoteCatalogNotReady
  refuseIf (!state.snapshotComplete || !state.catchupComplete) .remoteWritePlanRemoteCatalogNotReady
  refuseIf store.windowState.isSome .remoteWritePlanRemoteChangeWindowPending
  let remoteCursor ← orRefuse state.changeCursor .remoteWritePlanRemoteCursorMissing
  let remoteItems := store.listRemoteItems
  refuseIf (remoteItems.length != store.catalog.itemCount) .remoteWritePlanRemoteCatalogCountMismatch
  let authorityState ← orRefuse store.authorityState .remoteWritePlanAuthorityStateMissing
  refuseIf (authorityState.changeCursor != remoteCursor) .remoteWritePlanAuthorityCursorMismatch
  let authorities := store.listRemoteWriteAuthorities
  refuseIf (authorityState.itemCount != remoteItems.length + 1
    || authorities.length != remoteItems.length + 1) .remoteWritePlanAuthorityCountMismatch
  refuseIf (!decide ((remoteRootId :: remoteItems.map RemoteItem.remoteId).toFinset
    = (authorities.map RemoteWriteAuthoritySnapshot.remoteId).toFinset))
    .remoteWritePlanAuthorityCoverageMismatch

/-- `plan_selected_root_remote_write_intents`, on two scans in a row. -/
def planSelectedRootRemoteWriteIntents (store : RootStore) (remoteRootId : Option Text)
    (first second : List LocalItemSnapshot) (fullSyncCredentialPresent : Bool) :
    Except SelectedRootExecutorError SelectedRootRemoteWriteIntentPlan := do
  let localState ← orRefuse store.completeBaseline? .remoteWritePlanLocalBaselineMissing
  refuseIf (!localState.observationValid) .remoteWritePlanLocalBaselineInvalid
  let baseline := store.listLocalItems
  refuseIf (baseline.length != localState.itemCount) .remoteWritePlanLocalBaselineCountMismatch
  refuseIf (first != second) .remoteWritePlanLocalScanRace
  let diff ← buildSelectedRootLocalInventoryDiff baseline first localState.generation
    localState.snapshotCompletedAtUnixMs
  let events := store.listPendingLocalChangeEvents localState.generation
  refuseIf (!journalMatches events diff.entries) .remoteWritePlanLocalJournalMismatch
  let root ← orRefuse remoteRootId .missingRemoteRoot
  store.checkRemoteWritePlan root
  let fileReceipts ← fromStorage store.listFileReceipts
  let directoryReceipts ← fromStorage store.listDirectoryReceipts
  let entries ← RemoteWritePlanInputs.deriveEntries ⟨root, events, baseline, first,
    store.listRemoteItems, fileReceipts, directoryReceipts, store.listRemoteWriteAuthorities⟩
  .ok ⟨localState.generation, events.length, store.mode != .receiveOnly, fullSyncCredentialPresent,
    entries⟩

/-! ## Creating the intents of a plan -/

def RemoteWriteIntentInput.new (fields : RemoteWriteIntentFields) :
    Except StorageError RemoteWriteIntentInput :=
  match h : fields.check with
  | .ok () => .ok { toRemoteWriteIntentFields := fields, checked := h }
  | .error error => .error error

def SelectedRootRemoteWritePlanEntry.createIntentInput (entry : SelectedRootRemoteWritePlanEntry)
    (baselineGeneration : ℕ) (predeterminedRemoteId : Text) :
    Except SelectedRootExecutorError RemoteWriteIntentInput := do
  refuseIf (entry.disposition != .needsPredeterminedRemoteId) .remoteWriteCreateIntentNotEligible
  let operation ← orRefuse entry.operation .remoteWriteCreateIntentNotEligible
  refuseIf (operation != .createFile && operation != .createFolder)
    .remoteWriteCreateIntentNotEligible
  let localKind ← orRefuse entry.localKind .remoteWriteCreateIntentNotEligible
  let parent ← orRefuse entry.expectedParentRemoteId .remoteWriteCreateIntentNotEligible
  fromStorage (RemoteWriteIntentInput.new
    { sourceLocalEventId := entry.sourceLocalEventId
      baselineGeneration := baselineGeneration
      operation := operation
      relativePath := entry.relativePath
      localKind := localKind
      localSizeBytes := entry.localSizeBytes
      localModifiedUnixNs := entry.localModifiedUnixNs
      localDeviceId := entry.localDeviceId
      localInode := entry.localInode
      targetRemoteId := none
      predeterminedRemoteId := some predeterminedRemoteId
      expectedParentRemoteId := some parent
      expectedRemoteKind := none
      expectedRemoteVersion := none
      expectedRemoteSizeBytes := none
      expectedChecksumAlgorithm := none
      expectedContentChecksum := none })

end NubiSync
