import Mathlib.Logic.Relation
import NubiSync.Library.Runs
import NubiSync.Storage.CatalogCommits
import NubiSync.Storage.Settlements

set_option autoImplicit false

/-! # Operations on a root, and runs of them

Every operation of the store that writes to a root, as one type, and what each does to the catalog:
all but the snapshot and rebaseline commits, which put the staged inventory in its place, are a
sequence of the few writes of `CatalogWrite`. -/

namespace NubiSync

open Checks

/-! ## The operations -/

/-- The operations on the staged inventory, the change window and the catalog. -/
inductive InventoryOperation where
  | clearStaging
  | stageItems (items : List RemoteItem)
  | commitSnapshot (catchupFromCursor : ChangeCursor)
  | commitRebaseline (expectedWindowBaseCursor : ChangeCursor)
      (expectedWindowPageCount expectedWindowChangeCount expectedLocalGeneration
        expectedStagedItemCount : ℕ)
      (catchupFromCursor : ChangeCursor) (completedAtUnixMs : Int)
  | stageWindowPage (baseCursor : ChangeCursor) (expectedContinuation : Option ContinuationToken)
      (page : ChangePage)
  | discardWindow (expectedBaseCursor : ChangeCursor)
  | commitBatch (expectedCursor : ChangeCursor) (mutations : List SyncRootCatalogMutation)
      (nextCursor : ChangeCursor)
  | commitWindow (expectedBaseCursor expectedCheckpoint : ChangeCursor) (expectedChangeCount : ℕ)
      (mutations : List SyncRootCatalogMutation)
  | upsertItem (item : RemoteItem)
  | deleteSubtree (remoteId : Text)

/-- The operations on materialization receipts. -/
inductive ReceiptOperation where
  | recordFile (file : FileMaterialization)
  | recordFiles (files : List FileMaterialization)
  | recordDirectories (directories : List DirectoryMaterialization)
  | deleteStaleFile (remoteId : Text)
  | deleteStaleFiles (remoteIds : List Text)
  | deleteStaleDirectory (remoteId : Text)
  | deleteStaleDirectories (remoteIds : List Text)

/-- The operations on the local baseline and journal. -/
inductive LocalOperation where
  | beginStaging
  | stageItems (items : List LocalItemSnapshot)
  | commitSnapshot (completedAtUnixMs : Int)
  | invalidateBaseline
  | reconcileJournal (expectedGeneration expectedItemCount : ℕ)
      (expectedSnapshotCompletedAtUnixMs : Option Int) (events : List LocalChangeEventInput)

/-- The operations on the remote-write authority. -/
inductive AuthorityOperation where
  | upsert (authority : RemoteWriteAuthoritySnapshot)
  | replace (authorities : List RemoteWriteAuthoritySnapshot)
  | commitSnapshot (expectedChangeCursor : ChangeCursor)
      (authorities : List RemoteWriteAuthoritySnapshot) (observedAtUnixMs : Int)

/-- The operations on remote-write intents. -/
inductive IntentOperation where
  | create (input : RemoteWriteIntentInput)
  | createBatch (inputs : List RemoteWriteIntentInput)
  | beginFileCreate (intentId expectedExecutionGeneration : ℕ)
      (preSubmitChangeCursor : ChangeCursor) (attemptAtUnixMs : Int)
  | beginFolderCreate (intentId expectedExecutionGeneration : ℕ)
      (preSubmitChangeCursor : ChangeCursor) (attemptAtUnixMs : Int)
  | restartFileCreate (intentId expectedExecutionGeneration expectedAttemptCount : ℕ)
      (preSubmitChangeCursor : ChangeCursor) (attemptAtUnixMs : Int)
  | recordFingerprint (intentId expectedExecutionGeneration sizeBytes : ℕ) (sha256Hex : Text)
  | completeUpload (intentId expectedExecutionGeneration remoteVersion : ℕ)
      (completedAtUnixMs : Int)
  | recoverConflict (intentId expectedExecutionGeneration expectedAttemptCount : ℕ)
      (confirmedAtUnixMs : Int)
  | transitionFileCreate (intentId : ℕ) (expectedStatus : RemoteWriteIntentStatus)
      (expectedExecutionGeneration : ℕ) (newStatus : RemoteWriteIntentStatus)
      (transitionedAtUnixMs : Int)
  | transitionFolderCreate (intentId : ℕ) (expectedStatus : RemoteWriteIntentStatus)
      (expectedExecutionGeneration : ℕ) (newStatus : RemoteWriteIntentStatus)
      (transitionedAtUnixMs : Int)

/-- The settlements of confirmed creates. -/
inductive SettlementOperation where
  | fileCreate (input : RemoteWriteFileCreateSettlementInput)
  | folderCreate (input : RemoteWriteFolderCreateSettlementInput)

/-- Every write to a root. `skipIds` is what the other roots of the database and the conflicting
    inserts do to the shared `AUTOINCREMENT` sequences. -/
inductive RootOperation where
  | updateMode (expected mode : SyncMode)
  | skipIds (events intents : ℕ)
  | inventory (op : InventoryOperation)
  | receipts (op : ReceiptOperation)
  | localItems (op : LocalOperation)
  | authority (op : AuthorityOperation)
  | intents (op : IntentOperation)
  | settle (op : SettlementOperation)

/-! ## Applying them -/

/-- Only the state of an operation that also returns something. -/
def stateOf {α : Type} (result : Except StorageError (RootStore × α)) :
    Except StorageError RootStore := do
  let (store, _) ← result
  .ok store

/-- `stateOf` keeps what an operation ensures of its state. -/
theorem ensures_stateOf {α : Type} {result : Except StorageError (RootStore × α)}
    {P : RootStore → Prop} (h : Ensures result fun r => P r.1) : Ensures (stateOf result) P :=
  h.bind fun _ hr => .ok hr

def InventoryOperation.apply (store : RootStore) :
    InventoryOperation → Except StorageError RootStore
  | .clearStaging => .ok store.clearRemoteInventoryStaging
  | .stageItems items => stateOf (store.stageRemoteInventoryItems items)
  | .commitSnapshot fence => stateOf (store.commitRemoteInventorySnapshot fence)
  | .commitRebaseline base pages changes generation staged fence completedAt =>
      stateOf (store.commitRemoteInventoryRebaseline base pages changes generation staged fence
        completedAt)
  | .stageWindowPage base continuation page =>
      stateOf (store.stageChangeWindowPage base continuation page)
  | .discardWindow base => stateOf (store.discardChangeWindow base)
  | .commitBatch expected mutations next =>
      stateOf (store.commitCatalogBatchAndCursor expected mutations next)
  | .commitWindow base checkpoint changes mutations =>
      stateOf (store.commitCatalogChangeWindow base checkpoint changes mutations)
  | .upsertItem item => store.upsertRemoteItem item
  | .deleteSubtree remoteId => .ok (store.deleteRemoteSubtree remoteId).1

def ReceiptOperation.apply (store : RootStore) : ReceiptOperation → Except StorageError RootStore
  | .recordFile file => store.recordFileMaterialization file
  | .recordFiles files => stateOf (store.recordFileMaterializations files)
  | .recordDirectories directories => stateOf (store.recordDirectoryMaterializations directories)
  | .deleteStaleFile remoteId => .ok (store.deleteStaleFileReceipt remoteId).1
  | .deleteStaleFiles remoteIds => stateOf (store.deleteStaleFileReceipts remoteIds)
  | .deleteStaleDirectory remoteId => .ok (store.deleteStaleDirectoryReceipt remoteId).1
  | .deleteStaleDirectories remoteIds => stateOf (store.deleteStaleDirectoryReceipts remoteIds)

def LocalOperation.apply (store : RootStore) : LocalOperation → Except StorageError RootStore
  | .beginStaging => .ok store.beginLocalInventoryStaging
  | .stageItems items => stateOf (store.stageLocalInventoryItems items)
  | .commitSnapshot completedAt => stateOf (store.commitLocalInventorySnapshot completedAt)
  | .invalidateBaseline => .ok store.invalidateLocalObservationBaseline.1
  | .reconcileJournal generation itemCount completedAt events =>
      stateOf (store.reconcileLocalChangeJournal generation itemCount completedAt events)

def AuthorityOperation.apply (store : RootStore) :
    AuthorityOperation → Except StorageError RootStore
  | .upsert authority => .ok (store.upsertRemoteWriteAuthority authority)
  | .replace authorities => stateOf (store.replaceRemoteWriteAuthority authorities)
  | .commitSnapshot cursor authorities observedAt =>
      stateOf (store.commitRemoteWriteAuthoritySnapshot cursor authorities observedAt)

def IntentOperation.apply (store : RootStore) : IntentOperation → Except StorageError RootStore
  | .create input => stateOf (store.createRemoteWriteIntent input)
  | .createBatch inputs => stateOf (store.createRemoteWriteIntentsBatch inputs)
  | .beginFileCreate id generation cursor attemptAt =>
      stateOf (store.beginFileCreateSubmission id generation cursor attemptAt)
  | .beginFolderCreate id generation cursor attemptAt =>
      stateOf (store.beginFolderCreateSubmission id generation cursor attemptAt)
  | .restartFileCreate id generation attempts cursor attemptAt =>
      stateOf (store.restartFileCreateSubmission id generation attempts cursor attemptAt)
  | .recordFingerprint id generation size sha256Hex =>
      stateOf (store.recordFileCreateStreamFingerprint id generation size sha256Hex)
  | .completeUpload id generation version completedAt =>
      stateOf (store.completeFileCreateUpload id generation version completedAt)
  | .recoverConflict id generation attempts confirmedAt =>
      stateOf (store.recoverFileCreateConfirmationConflict id generation attempts confirmedAt)
  | .transitionFileCreate id expected generation new at_ =>
      stateOf (store.transitionFileCreateIntent id expected generation new at_)
  | .transitionFolderCreate id expected generation new at_ =>
      stateOf (store.transitionFolderCreateIntent id expected generation new at_)

def SettlementOperation.apply (store : RootStore) :
    SettlementOperation → Except StorageError RootStore
  | .fileCreate input => stateOf (store.settleConfirmedFileCreate input)
  | .folderCreate input => stateOf (store.settleConfirmedFolderCreate input)

/-- One transaction on a root. -/
def RootStore.apply (store : RootStore) : RootOperation → Except StorageError RootStore
  | .updateMode expected mode => .ok (store.updateMode expected mode).1
  | .skipIds events intents =>
      .ok { store with
        nextEventId := store.nextEventId + events
        nextIntentId := store.nextIntentId + intents }
  | .inventory op => op.apply store
  | .receipts op => op.apply store
  | .localItems op => op.apply store
  | .authority op => op.apply store
  | .intents op => op.apply store
  | .settle op => op.apply store

/-- A committed transaction. -/
def RootStore.Step (store : RootStore) (op : RootOperation) (store' : RootStore) : Prop :=
  store.apply op = .ok store'

end NubiSync
