import Mathlib.Data.List.Sort
import NubiSync.Storage.CatalogCommits

set_option autoImplicit false

/-! # The tables of a change window

`RootStore` keeps the events of the open window as a list. The database keeps them as rows that are
numbered by the transaction that inserts them, and reads them back in the order of the numbers; the
state row and the tokens are tables of their own. `WindowTables` is that, one transaction of the source
a definition. -/

namespace NubiSync

open Checks

/-! ## Rows -/

/-- The `event_kind` column. -/
inductive WindowEventKind where
  | upsert
  | delete
  deriving DecidableEq, Repr

/-- A row of `sync_root_change_window_events`. -/
structure WindowEventRow where
  sequence : ℕ
  eventKind : WindowEventKind
  remoteId : Text
  parentRemoteId : Option Text
  name : Option Text
  itemKind : Option RemoteItemKind
  sizeBytes : Option ℕ
  trashed : Bool
  deriving DecidableEq, Repr

/-- The row a change is inserted as. -/
def windowEventRow (sequence : ℕ) : RemoteChange → Except StorageError WindowEventRow
  | .delete remoteId => do
      refuseIf remoteId.isBlank .invalidSyncRootChangeEvent
      .ok ⟨sequence, .delete, remoteId, none, none, none, none, false⟩
  | .upsert item => do
      refuseIf (item.remoteId.isBlank || item.name.isEmpty) .invalidSyncRootChangeEvent
      let sizeBytes ← toI64? item.sizeBytes
      .ok ⟨sequence, .upsert, item.remoteId, item.parentRemoteId, some item.name, some item.kind,
        sizeBytes, item.trashed⟩

/-- The change a row is read back as. -/
def WindowEventRow.change (row : WindowEventRow) : Except StorageError RemoteChange :=
  match row.eventKind with
  | .delete => .ok (.delete row.remoteId)
  | .upsert => do
      let name ← orRefuse row.name .invalidStoredRemoteChange
      let kind ← orRefuse row.itemKind .invalidStoredRemoteChange
      .ok (.upsert ⟨row.remoteId, row.parentRemoteId, name, kind, row.sizeBytes, none, row.trashed⟩)

/-! ## The tables -/

/-- The tables a page of a window reads and writes. -/
structure WindowTables where
  remoteState : Option RemoteInventoryStateRow
  windowState : Option SyncRootChangeWindowState
  events : Table WindowEventRow.sequence
  tokens : List ContinuationToken

namespace WindowTables

variable (tables : WindowTables)

/-- The cursor a page has to start from. -/
def checkBaseCursor (baseCursor : ChangeCursor) : Except StorageError Unit := do
  let state ← orRefuse tables.remoteState .syncRootCatalogSnapshotMissing
  refuseIf (!state.snapshotComplete) .syncRootCatalogSnapshotMissing
  let durableCursor ← state.durableCursor
  refuseIf (durableCursor != baseCursor) .syncRootChangeWindowBaseCursorMismatch

/-- The counts of the window that a page is added to. -/
def counts (baseCursor : ChangeCursor) (expectedContinuation : Option ContinuationToken) :
    Except StorageError (ℕ × ℕ) :=
  match tables.windowState with
  | some window => do
      refuseIf window.checkpoint.isSome .syncRootChangeWindowAlreadyComplete
      refuseIf (window.baseCursor != baseCursor) .syncRootChangeWindowBaseCursorMismatch
      refuseIf (window.continuation != expectedContinuation)
        .syncRootChangeWindowContinuationMismatch
      .ok (window.pageCount, window.changeCount)
  | none => do
      refuseIf expectedContinuation.isSome .syncRootChangeWindowContinuationMismatch
      .ok (0, 0)

/-- One round of the loop over the changes of a page: a plain `INSERT` under the next number. -/
def insertEvent (changeCount : ℕ) (events : Table WindowEventRow.sequence)
    (numbered : RemoteChange × ℕ) : Except StorageError (Table WindowEventRow.sequence) := do
  let offset ← toI64 numbered.2
  let sequence ← checkedAdd changeCount offset
  let row ← windowEventRow sequence numbered.1
  insertNew events row

/-- `INSERT OR IGNORE` of the continuation; a row that is ignored is a pagination loop. -/
def insertToken : Option ContinuationToken → Except StorageError (List ContinuationToken)
  | none => .ok tables.tokens
  | some token => do
      refuseIf (decide (token ∈ tables.tokens)) .syncRootChangeWindowPaginationLoop
      .ok (tables.tokens ++ [token])

/-- `INSERT … ON CONFLICT DO UPDATE` of the state row, which keeps the base cursor of an open window. -/
def upsertState (window : SyncRootChangeWindowState) : SyncRootChangeWindowState :=
  match tables.windowState with
  | some stored => { window with baseCursor := stored.baseCursor }
  | none => window

/-- `stage_sync_root_change_window_page`. -/
def stagePage (baseCursor : ChangeCursor) (expectedContinuation : Option ContinuationToken)
    (page : ChangePage) : Except StorageError (WindowTables × SyncRootChangeWindowState) := do
  refuseIf (page.continuation.isSome == page.checkpoint.isSome) .invalidSyncRootChangePageBoundary
  tables.checkBaseCursor baseCursor
  let (pageCount, changeCount) ← tables.counts baseCursor expectedContinuation
  let nextPageCount ← checkedAdd pageCount 1
  refuseIf (decide (nextPageCount > 1000000)) .syncRootChangeWindowSafetyLimitExceeded
  let pageChangeCount ← toI64 page.changes.length
  let nextChangeCount ← checkedAdd changeCount pageChangeCount
  refuseIf (decide (nextChangeCount > 100000000)) .syncRootChangeWindowSafetyLimitExceeded
  let events ← page.changes.zipIdx.foldlM (insertEvent changeCount) tables.events
  let tokens ← tables.insertToken page.continuation
  let window : SyncRootChangeWindowState :=
    ⟨baseCursor, page.continuation, page.checkpoint, nextPageCount, nextChangeCount⟩
  .ok (⟨tables.remoteState, some (tables.upsertState window), events, tokens⟩, window)

/-- The rows of the window, deleted: what a discard, a window commit and a rebaseline end with. -/
def clear : WindowTables := ⟨tables.remoteState, none, ∅, []⟩

/-- `sync_root_change_window_changes`. -/
def changes : Except StorageError (List RemoteChange) :=
  (tables.events.rows.insertionSort fun left right => left.sequence ≤ right.sequence).mapM
    WindowEventRow.change

end WindowTables

end NubiSync
