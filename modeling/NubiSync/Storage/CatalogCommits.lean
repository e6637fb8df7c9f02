import NubiSync.Storage.RootStore

set_option autoImplicit false

/-! # Inventory, window and catalog commits

The operations that change what a root knows of the remote tree: the staged inventory with the
snapshot and rebaseline commits that put it in place of the catalog, the durable change window, and
the commits that apply mutations to the catalog and move the cursor. -/

namespace NubiSync

open Checks

/-! ## Staged inventory -/

/-- `begin_sync_root_remote_inventory_staging` and `clear_sync_root_remote_inventory_staging`. -/
def RootStore.clearRemoteInventoryStaging (store : RootStore) : RootStore :=
  { store with remoteStaging := ∅ }

/-- `insert_sync_root_inventory_item`, which keeps the `trashed` flag. -/
def insertInventoryItem (staging : Table CatalogRow.remoteId) (item : RemoteItem) :
    Except StorageError (Table CatalogRow.remoteId) := do
  let sizeBytes ← toI64? item.sizeBytes
  .ok (staging.upsert
    ⟨item.remoteId, item.parentRemoteId, item.name, item.kind, sizeBytes, item.trashed⟩)

/-- `stage_sync_root_remote_inventory_items`. -/
def RootStore.stageRemoteInventoryItems (store : RootStore) (items : List RemoteItem) :
    Except StorageError (RootStore × ℕ) := do
  let staging ← items.foldlM insertInventoryItem store.remoteStaging
  .ok ({ store with remoteStaging := staging }, items.length)

/-- The catalog a snapshot or a rebaseline leaves: the staged rows, and the receipts untouched. -/
def RootStore.replacedCatalog (store : RootStore) (itemCount : ℕ) : CatalogStore :=
  { store.catalog with items := store.remoteStaging, itemCount := itemCount }

/-- `commit_sync_root_remote_inventory_snapshot`. -/
def RootStore.commitRemoteInventorySnapshot (store : RootStore) (catchupFromCursor : ChangeCursor) :
    Except StorageError (RootStore × ℕ) := do
  let itemCount ← toI64 store.remoteStaging.rows.length
  .ok ({ store with
    catalog := store.replacedCatalog itemCount
    remoteState := some ⟨true, false, some catchupFromCursor, none⟩
    remoteStaging := ∅ }, itemCount)

/-- The statuses the rebaseline counts as active: `planned`, `submitted`, `awaiting_confirmation` and
    `conflict`. -/
def RemoteWriteIntentStatus.isActive : RemoteWriteIntentStatus → Bool
  | .planned | .submitted | .awaitingConfirmation | .conflict => true
  | .confirmed | .failed | .superseded => false

/-- The preconditions of a rebaseline on the local side of the root: a valid baseline of the expected
    generation, nothing pending on it, no active intent and no confirmed intent left to settle. -/
def RootStore.checkRebaselineLocal (store : RootStore) (expectedGeneration : ℕ) :
    Except StorageError Unit := do
  refuseIf (store.mode != .twoWay) .syncRootRemoteRebaselinePreconditionFailed
  refuseIf (!store.localState.any fun state => state.snapshotComplete
    && state.generation == expectedGeneration && state.observationValid)
    .syncRootRemoteRebaselinePreconditionFailed
  refuseIf (store.localEvents.rows.any (·.isPending expectedGeneration))
    .syncRootRemoteRebaselinePreconditionFailed
  refuseIf (store.intents.rows.any (·.status.isActive)) .syncRootRemoteRebaselinePreconditionFailed
  refuseIf (store.intents.rows.any fun intent => intent.status == .confirmed
    && (store.settlements.find? intent.id).isNone) .syncRootRemoteRebaselinePreconditionFailed

/-- Its preconditions on the remote side: the exhausted window it was decided on and the cursor that
    window starts from. -/
def RootStore.checkRebaselineRemote (store : RootStore) (expectedWindowBaseCursor : ChangeCursor)
    (expectedPages expectedChanges : ℕ) : Except StorageError Unit := do
  let window ← orRefuse store.windowState .syncRootRemoteRebaselinePreconditionFailed
  refuseIf (window.baseCursor != expectedWindowBaseCursor || window.continuation.isNone
    || window.checkpoint.isSome || window.pageCount != expectedPages
    || window.changeCount != expectedChanges) .syncRootRemoteRebaselinePreconditionFailed
  let remote ← orRefuse store.remoteState .syncRootRemoteRebaselinePreconditionFailed
  refuseIf (!remote.snapshotComplete || !remote.catchupComplete
    || remote.changeCursor != some expectedWindowBaseCursor)
    .syncRootRemoteRebaselinePreconditionFailed

/-- What a rebaseline writes. -/
def RootStore.rebaselined (store : RootStore) (catchupFromCursor : ChangeCursor) (itemCount : ℕ) :
    RootStore :=
  { store with
    catalog := store.replacedCatalog itemCount
    remoteState := some ⟨true, false, some catchupFromCursor, none⟩
    windowEvents := []
    windowTokens := []
    windowState := none
    authority := ∅
    authorityState := none
    remoteStaging := ∅ }

/-- `commit_sync_root_remote_inventory_rebaseline`. -/
def RootStore.commitRemoteInventoryRebaseline (store : RootStore)
    (expectedWindowBaseCursor : ChangeCursor) (expectedWindowPageCount expectedWindowChangeCount
      expectedLocalGeneration expectedStagedItemCount : ℕ)
    (catchupFromCursor : ChangeCursor) (completedAtUnixMs : Int) :
    Except StorageError (RootStore × ℕ) := do
  refuseIf (decide (expectedWindowPageCount < 64) || decide (completedAtUnixMs ≤ 0))
    .syncRootRemoteRebaselinePreconditionFailed
  let expectedPages ← toI64 expectedWindowPageCount
  let expectedChanges ← toI64 expectedWindowChangeCount
  let expectedGeneration ← toI64 expectedLocalGeneration
  let expectedStaged ← toI64 expectedStagedItemCount
  store.checkRebaselineLocal expectedGeneration
  store.checkRebaselineRemote expectedWindowBaseCursor expectedPages expectedChanges
  refuseIf (store.remoteStaging.rows.length != expectedStaged)
    .syncRootRemoteRebaselinePreconditionFailed
  let itemCount ← toI64 store.remoteStaging.rows.length
  .ok (store.rebaselined catchupFromCursor itemCount, itemCount)

/-! ## Cursors -/

/-- `sync_root_change_cursor`. -/
def RootStore.changeCursor (store : RootStore) : Option ChangeCursor :=
  store.remoteState.bind (·.changeCursor)

/-- The inventory state of a root with a complete snapshot. -/
def RootStore.snapshotState (store : RootStore) : Except StorageError RemoteInventoryStateRow := do
  let state ← orRefuse store.remoteState .syncRootCatalogSnapshotMissing
  refuseIf (!state.snapshotComplete) .syncRootCatalogSnapshotMissing
  .ok state

/-- The cursor the next window starts from: the fence of the snapshot until the first commit. -/
def RemoteInventoryStateRow.durableCursor (state : RemoteInventoryStateRow) :
    Except StorageError ChangeCursor :=
  if state.catchupComplete then
    orRefuse state.changeCursor .syncRootCatalogChangeCursorMissing
  else
    orRefuse state.catchupFromCursor .syncRootCatalogCatchupCursorMissing

/-- The cursor a commit is compared with. -/
def RemoteInventoryStateRow.commitCursor (state : RemoteInventoryStateRow) :
    Except StorageError ChangeCursor := do
  refuseIf (!state.catchupComplete && state.changeCursor.isSome) .syncRootCatalogInvalidCursorState
  state.durableCursor

/-- The inventory state after a commit has moved the cursor. -/
def RemoteInventoryStateRow.advanced (state : RemoteInventoryStateRow) (cursor : ChangeCursor) :
    RemoteInventoryStateRow :=
  { state with catchupComplete := true, changeCursor := some cursor }

/-! ## The durable change window -/

/-- One event as the window keeps it: `modified_unix_ms` has no column. -/
def RemoteChange.windowEvent : RemoteChange → Except StorageError RemoteChange
  | .delete remoteId => do
      refuseIf remoteId.isBlank .invalidSyncRootChangeEvent
      .ok (.delete remoteId)
  | .upsert item => do
      refuseIf (item.remoteId.isBlank || item.name.isEmpty) .invalidSyncRootChangeEvent
      let sizeBytes ← toI64? item.sizeBytes
      .ok (.upsert { item with sizeBytes := sizeBytes, modifiedUnixMs := none })

/-- The page and change counts a page is added to. -/
def RootStore.windowCounts (store : RootStore) (baseCursor : ChangeCursor)
    (expectedContinuation : Option ContinuationToken) : Except StorageError (ℕ × ℕ) :=
  match store.windowState with
  | some window => do
      refuseIf window.checkpoint.isSome .syncRootChangeWindowAlreadyComplete
      refuseIf (window.baseCursor != baseCursor) .syncRootChangeWindowBaseCursorMismatch
      refuseIf (window.continuation != expectedContinuation)
        .syncRootChangeWindowContinuationMismatch
      .ok (window.pageCount, window.changeCount)
  | none => do
      refuseIf expectedContinuation.isSome .syncRootChangeWindowContinuationMismatch
      .ok (0, 0)

/-- `INSERT OR IGNORE` of the continuation, where an ignored row is a pagination loop. -/
def RootStore.recordWindowToken (store : RootStore) :
    Option ContinuationToken → Except StorageError (List ContinuationToken)
  | none => .ok store.windowTokens
  | some token => do
      refuseIf (decide (token ∈ store.windowTokens)) .syncRootChangeWindowPaginationLoop
      .ok (store.windowTokens ++ [token])

/-- `stage_sync_root_change_window_page`. -/
def RootStore.stageChangeWindowPage (store : RootStore) (baseCursor : ChangeCursor)
    (expectedContinuation : Option ContinuationToken) (page : ChangePage) :
    Except StorageError (RootStore × SyncRootChangeWindowState) := do
  -- a page ends in a continuation or in a checkpoint, and never in both
  refuseIf (page.continuation.isSome == page.checkpoint.isSome) .invalidSyncRootChangePageBoundary
  let state ← store.snapshotState
  let durableCursor ← state.durableCursor
  refuseIf (durableCursor != baseCursor) .syncRootChangeWindowBaseCursorMismatch
  let (pageCount, changeCount) ← store.windowCounts baseCursor expectedContinuation
  let nextPageCount ← checkedAdd pageCount 1
  refuseIf (decide (nextPageCount > 1000000)) .syncRootChangeWindowSafetyLimitExceeded
  let nextChangeCount ← checkedAdd changeCount page.changes.length
  refuseIf (decide (nextChangeCount > 100000000)) .syncRootChangeWindowSafetyLimitExceeded
  let events ← page.changes.mapM RemoteChange.windowEvent
  let tokens ← store.recordWindowToken page.continuation
  let window : SyncRootChangeWindowState :=
    ⟨baseCursor, page.continuation, page.checkpoint, nextPageCount, nextChangeCount⟩
  .ok ({ store with
    windowState := some window
    windowEvents := store.windowEvents ++ events
    windowTokens := tokens }, window)

/-- The rows of the window, deleted. -/
def RootStore.clearChangeWindow (store : RootStore) : RootStore :=
  { store with windowEvents := [], windowTokens := [], windowState := none }

/-- `discard_sync_root_change_window`: whether there was a window. -/
def RootStore.discardChangeWindow (store : RootStore) (expectedBaseCursor : ChangeCursor) :
    Except StorageError (RootStore × Bool) :=
  match store.windowState with
  | none => .ok (store, false)
  | some window => do
      refuseIf (window.baseCursor != expectedBaseCursor) .syncRootChangeWindowBaseCursorMismatch
      let state ← store.snapshotState
      let durableCursor ← state.durableCursor
      refuseIf (durableCursor != expectedBaseCursor) .syncRootCatalogExpectedCursorMismatch
      .ok (store.clearChangeWindow, true)

/-! ## Catalog commits -/

/-- The check every commit makes of a mutation before it applies it. -/
def SyncRootCatalogMutation.isValid : SyncRootCatalogMutation → Bool
  | .upsert item => !(item.trashed || item.remoteId.isBlank)
  | .deleteSubtree remoteId => !remoteId.isBlank

/-- One round of the loop over the mutations. -/
def CatalogStore.applyCheckedMutation (catalog : CatalogStore) (mutation : SyncRootCatalogMutation) :
    Except StorageError CatalogStore := do
  refuseIf (!mutation.isValid) .invalidSyncRootCatalogMutation
  catalog.applyMutation mutation

structure SyncRootCatalogBatchCommit where
  mutationsApplied : ℕ
  authoritativeItems : ℕ
  completedInitialCatchup : Bool
  deriving DecidableEq, Repr

/-- The part the two commits share: the cursor comparison, the mutations, the count and the move to
    the next cursor. -/
def RootStore.commitMutations (store : RootStore) (expectedCursor : ChangeCursor)
    (mutations : List SyncRootCatalogMutation) (nextCursor : ChangeCursor) :
    Except StorageError (RootStore × SyncRootCatalogBatchCommit) := do
  let state ← store.snapshotState
  let currentCursor ← state.commitCursor
  refuseIf (currentCursor != expectedCursor) .syncRootCatalogExpectedCursorMismatch
  let applied ← mutations.foldlM CatalogStore.applyCheckedMutation store.catalog
  let catalog := applied.refreshCatalogCount
  .ok ({ store with catalog := catalog, remoteState := some (state.advanced nextCursor) },
    ⟨mutations.length, catalog.itemCount, !state.catchupComplete⟩)

/-- `commit_sync_root_catalog_batch_and_cursor`. -/
def RootStore.commitCatalogBatchAndCursor (store : RootStore) (expectedCursor : ChangeCursor)
    (mutations : List SyncRootCatalogMutation) (nextCursor : ChangeCursor) :
    Except StorageError (RootStore × SyncRootCatalogBatchCommit) :=
  store.commitMutations expectedCursor mutations nextCursor

/-- The window a commit executes. -/
def RootStore.checkCompleteWindow (store : RootStore) (expectedBaseCursor expectedCheckpoint :
    ChangeCursor) (expectedChangeCount : ℕ) : Except StorageError Unit := do
  let window ← orRefuse store.windowState .syncRootChangeWindowMissing
  refuseIf (!window.isComplete) .syncRootChangeWindowIncomplete
  refuseIf (window.baseCursor != expectedBaseCursor) .syncRootChangeWindowBaseCursorMismatch
  refuseIf (window.checkpoint != some expectedCheckpoint) .syncRootChangeWindowCheckpointMismatch
  refuseIf (window.changeCount != expectedChangeCount) .syncRootChangeWindowChangeCountMismatch
  refuseIf (store.windowEvents.length != window.changeCount)
    .syncRootChangeWindowChangeCountMismatch

/-- `commit_sync_root_catalog_change_window`. -/
def RootStore.commitCatalogChangeWindow (store : RootStore) (expectedBaseCursor expectedCheckpoint :
    ChangeCursor) (expectedChangeCount : ℕ) (mutations : List SyncRootCatalogMutation) :
    Except StorageError (RootStore × SyncRootCatalogBatchCommit) := do
  let changeCount ← toI64 expectedChangeCount
  store.checkCompleteWindow expectedBaseCursor expectedCheckpoint changeCount
  let (committed, commit) ← store.commitMutations expectedBaseCursor mutations expectedCheckpoint
  .ok (committed.clearChangeWindow, commit)

/-! ## Single mutations -/

/-- A reported item: a trashed one takes its subtree with it. -/
def CatalogStore.applyRemoteItem (catalog : CatalogStore) (item : RemoteItem) :
    Except StorageError CatalogStore :=
  if item.trashed then .ok (catalog.deleteSubtreeInTransaction item.remoteId)
  else catalog.upsertCatalogItem item

/-- `upsert_sync_root_remote_item`. -/
def RootStore.upsertRemoteItem (store : RootStore) (item : RemoteItem) :
    Except StorageError RootStore := do
  let catalog ← store.catalog.applyRemoteItem item
  .ok { store with catalog := catalog.refreshCatalogCount }

/-- `delete_sync_root_remote_subtree`: the number of deleted rows. -/
def RootStore.deleteRemoteSubtree (store : RootStore) (remoteId : Text) : RootStore × ℕ :=
  let catalog := store.catalog.deleteSubtreeInTransaction remoteId
  ({ store with catalog := catalog.refreshCatalogCount },
    store.catalog.items.rows.countP ((subtreeIds store.catalog.items remoteId).contains ·.remoteId))

end NubiSync
