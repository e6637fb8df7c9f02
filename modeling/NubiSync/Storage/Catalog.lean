import Mathlib.Algebra.Group.Int.Defs
import Mathlib.Algebra.Group.Nat.Defs
import NubiSync.Core.Items
import NubiSync.Library.Checks
import NubiSync.Library.LinkedTable

set_option autoImplicit false

/-! # The durable catalog of a root

The rows of `sync_root_remote_items` and of the two receipt tables of one sync root, and the
operations that change the catalog inside a transaction. A recursive query that collects a subtree
with `UNION` is the search with a visited set of `Library/Search.lean`, so unlike the projection's
queue it ends on any parent links. -/

namespace NubiSync

/-! ## Rows -/

/-- The `receipt_state` column. -/
inductive ReceiptState where
  | current
  | stale
  deriving DecidableEq, Repr

/-- A row of `sync_root_remote_items`. -/
structure CatalogRow where
  remoteId : Text
  parentRemoteId : Option Text
  name : Text
  itemKind : RemoteItemKind
  sizeBytes : Option ℕ
  trashed : Bool
  deriving DecidableEq, Repr

/-- A row of `sync_root_file_materialization_receipts`. -/
structure FileReceiptRow where
  remoteId : Text
  relativePath : Text
  sizeBytes : ℕ
  sha256Hex : Text
  receiptState : ReceiptState
  deriving DecidableEq, Repr

/-- A row of `sync_root_directory_materialization_receipts`. -/
structure DirectoryReceiptRow where
  remoteId : Text
  relativePath : Text
  receiptState : ReceiptState
  deriving DecidableEq, Repr

/-- The rows of one root, with the `item_count` column of its inventory state. -/
structure CatalogStore where
  items : Table CatalogRow.remoteId
  fileReceipts : Table FileReceiptRow.remoteId
  directoryReceipts : Table DirectoryReceiptRow.remoteId
  itemCount : ℕ

/-- `StorageError`, the errors of the modelled operations. -/
inductive StorageError where
  | invalidMaterializationReceipt
  | invalidDirectoryMaterializationReceipt
  | directoryMaterializationReceiptRemoteItemMissing
  | directoryMaterializationReceiptRemoteItemMismatch
  | materializationReceiptRemoteItemMissing
  | materializationReceiptRemoteItemMismatch
  | staleMaterializationReceiptBatchMismatch
  | staleDirectoryMaterializationReceiptBatchMismatch
  | sqlite
  | numericOverflow
  | invalidLocalChangePath
  | invalidLocalChangeShape
  | localChangeBaselineMismatch
  | localChangeJournalCountMismatch
  | invalidRemoteWriteIdentifier
  | invalidRemoteWriteChecksum
  | invalidRemoteWriteAuthority
  | invalidRemoteWriteIntent
  | invalidRemoteWriteIntentBatch
  | invalidRemoteWriteSettlement
  | remoteWriteSettlementAlreadyExists
  | remoteWriteSettlementPreconditionFailed
  | remoteWriteSettlementCompareAndSetFailed
  | remoteWriteSettlementResidualMismatch
  | remoteWriteSettlementBaselineCountMismatch
  | invalidRemoteWriteIntentExecutionTransition
  | invalidStoredRemoteWriteIntentExecutionState
  | remoteWriteIntentExecutionPreconditionFailed
  | remoteWriteIntentExecutionCompareAndSetFailed
  | remoteWriteIntentSourceMismatch
  | remoteWriteIntentRootNotWriteCapable
  | remoteWriteIntentAuthorityMismatch
  | remoteWriteAuthorityCatalogNotReady
  | remoteWriteAuthorityCursorMismatch
  | remoteWriteAuthorityCountMismatch
  | invalidSyncRootCatalogMutation
  | invalidSyncRootChangePageBoundary
  | invalidSyncRootChangeEvent
  | syncRootChangeWindowBaseCursorMismatch
  | syncRootChangeWindowContinuationMismatch
  | syncRootChangeWindowAlreadyComplete
  | syncRootChangeWindowMissing
  | syncRootChangeWindowIncomplete
  | syncRootChangeWindowCheckpointMismatch
  | syncRootChangeWindowChangeCountMismatch
  | syncRootChangeWindowPaginationLoop
  | syncRootChangeWindowSafetyLimitExceeded
  | syncRootRemoteRebaselinePreconditionFailed
  | syncRootCatalogSnapshotMissing
  | syncRootCatalogCatchupCursorMissing
  | syncRootCatalogChangeCursorMissing
  | syncRootCatalogExpectedCursorMismatch
  | syncRootCatalogInvalidCursorState
  | invalidStoredRemoteChange
  | remoteCatalogSnapshotMissing
  | remoteCatalogCatchupAlreadyComplete
  | remoteCatalogCatchupCursorMissing
  | remoteCatalogCatchupCursorMismatch
  deriving DecidableEq, Repr

/-- `i64::try_from` on an unsigned size. -/
def toI64 (n : ℕ) : Except StorageError ℕ :=
  if n < 2 ^ 63 then .ok n else .error .numericOverflow

/-- `Option::map(i64::try_from)` with `transpose`. -/
def toI64? : Option ℕ → Except StorageError (Option ℕ)
  | none => .ok none
  | some n => (toI64 n).map some

/-! ## Subtrees -/

/-- The rows whose parent is a given id. -/
def childIds (items : Table CatalogRow.remoteId) (parent : Text) : List Text :=
  (items.rows.filter (·.parentRemoteId = some parent)).map CatalogRow.remoteId

/-- The recursive query `subtree(remote_id)`. -/
def subtreeIds (items : Table CatalogRow.remoteId) (remoteId : Text) : List Text :=
  Worklist.search (childIds items) (items.rows.length + 1) [remoteId] [remoteId]

/-! ## Receipt invalidation -/

/-- `SET receipt_state = 'stale' WHERE receipt_state = 'current'` on one file receipt. -/
def FileReceiptRow.invalidate (selected : Text → Bool) (r : FileReceiptRow) : FileReceiptRow :=
  if r.receiptState = .current ∧ selected r.remoteId then { r with receiptState := .stale } else r

/-- The same on one directory receipt. -/
def DirectoryReceiptRow.invalidate (selected : Text → Bool) (r : DirectoryReceiptRow) :
    DirectoryReceiptRow :=
  if r.receiptState = .current ∧ selected r.remoteId then { r with receiptState := .stale } else r

theorem FileReceiptRow.remoteId_invalidate (selected : Text → Bool) (r : FileReceiptRow) :
    (r.invalidate selected).remoteId = r.remoteId := by
  unfold invalidate
  split <;> rfl

theorem DirectoryReceiptRow.remoteId_invalidate (selected : Text → Bool) (r : DirectoryReceiptRow) :
    (r.invalidate selected).remoteId = r.remoteId := by
  unfold invalidate
  split <;> rfl

namespace CatalogStore

/-- Stale the current file receipts of the selected items. -/
def invalidateFiles (store : CatalogStore) (selected : Text → Bool) : CatalogStore :=
  { store with
    fileReceipts := store.fileReceipts.update (FileReceiptRow.invalidate selected)
      (FileReceiptRow.remoteId_invalidate selected) }

/-- Stale the current directory receipts of the selected items. -/
def invalidateDirectories (store : CatalogStore) (selected : Text → Bool) : CatalogStore :=
  { store with
    directoryReceipts := store.directoryReceipts.update (DirectoryReceiptRow.invalidate selected)
      (DirectoryReceiptRow.remoteId_invalidate selected) }

/-- `invalidate_sync_root_materialization_subtree`. -/
def invalidateMaterializationSubtree (store : CatalogStore) (remoteId : Text) : CatalogStore :=
  let subtree := subtreeIds store.items remoteId
  (store.invalidateFiles (subtree.contains ·)).invalidateDirectories (subtree.contains ·)

/-- `invalidate_sync_root_file_materialization`. -/
def invalidateFileMaterialization (store : CatalogStore) (remoteId : Text) : CatalogStore :=
  store.invalidateFiles (· == remoteId)

/-! ## Catalog mutations -/

/-- The receipts an upsert invalidates, read off the row it replaces. -/
def invalidateForUpsert (store : CatalogStore) (item : RemoteItem) : CatalogStore :=
  match store.items.find? item.remoteId with
  | none => store
  | some existing =>
      match existing.itemKind with
      | .folder =>
          if item.kind ≠ .folder ∨ existing.parentRemoteId ≠ item.parentRemoteId
              ∨ existing.name ≠ item.name then
            store.invalidateMaterializationSubtree item.remoteId
          else store
      | .file => store.invalidateFileMaterialization item.remoteId

/-- The `INSERT … ON CONFLICT DO UPDATE` of an item, with the size as the column holds it. -/
def writeItem (store : CatalogStore) (item : RemoteItem) (sizeBytes : Option ℕ) : CatalogStore :=
  { store with
    items := store.items.upsert
      ⟨item.remoteId, item.parentRemoteId, item.name, item.kind, sizeBytes, false⟩ }

/-- `upsert_sync_root_catalog_item`. -/
def upsertCatalogItem (store : CatalogStore) (item : RemoteItem) :
    Except StorageError CatalogStore := do
  let invalidated := store.invalidateForUpsert item
  let sizeBytes ← toI64? item.sizeBytes
  .ok (invalidated.writeItem item sizeBytes)

/-- `delete_sync_root_subtree_in_transaction`. -/
def deleteSubtreeInTransaction (store : CatalogStore) (remoteId : Text) : CatalogStore :=
  let invalidated := store.invalidateMaterializationSubtree remoteId
  let subtree := subtreeIds invalidated.items remoteId
  { invalidated with items := invalidated.items.deleteWhere (subtree.contains ·.remoteId) }

/-- `refresh_sync_root_catalog_count`. -/
def refreshCatalogCount (store : CatalogStore) : CatalogStore :=
  { store with itemCount := store.items.rows.length }

end CatalogStore

inductive SyncRootCatalogMutation where
  | upsert (item : RemoteItem)
  | deleteSubtree (remoteId : Text)
  deriving DecidableEq, Repr

/-- What the commits do with one mutation that has passed their checks. -/
def CatalogStore.applyMutation (store : CatalogStore) :
    SyncRootCatalogMutation → Except StorageError CatalogStore
  | .upsert item => store.upsertCatalogItem item
  | .deleteSubtree remoteId => .ok (store.deleteSubtreeInTransaction remoteId)

/-! ## What the operations do to the items -/

section Items

variable (store : CatalogStore)

theorem mem_childIds (items : Table CatalogRow.remoteId) (parent child : Text) :
    child ∈ childIds items parent ↔
      (items.find? child).map CatalogRow.parentRemoteId = some (some parent) :=
  items.mem_childKeys CatalogRow.parentRemoteId parent child

/-- The recursive query selects what the id reaches. -/
theorem mem_subtreeIds (items : Table CatalogRow.remoteId) (remoteId id : Text) :
    id ∈ subtreeIds items remoteId ↔ Worklist.Reach (childIds items) [remoteId] id :=
  items.mem_subtreeKeys CatalogRow.parentRemoteId remoteId id

@[simp] theorem items_invalidateForUpsert (item : RemoteItem) :
    (store.invalidateForUpsert item).items = store.items := by
  unfold CatalogStore.invalidateForUpsert
  split
  · rfl
  · split
    · split <;> rfl
    · rfl

theorem find?_deleteSubtreeInTransaction (remoteId id : Text) :
    (store.deleteSubtreeInTransaction remoteId).items.find? id =
      if id ∈ subtreeIds store.items remoteId then none else store.items.find? id :=
  store.items.find?_deleteWhere_keys (fun _ => List.contains_iff_mem) id

theorem find?_writeItem (item : RemoteItem) (sizeBytes : Option ℕ) (id : Text) :
    (store.writeItem item sizeBytes).items.find? id =
      if item.remoteId = id then
        some ⟨item.remoteId, item.parentRemoteId, item.name, item.kind, sizeBytes, false⟩
      else store.items.find? id :=
  Table.find?_upsert store.items _ id

/-- The size of an item fits its column. -/
def RemoteItem.SizeFits (item : RemoteItem) : Prop := ∀ n ∈ item.sizeBytes, n < 2 ^ 63

theorem toI64_of_lt {n : ℕ} (h : n < 2 ^ 63) : toI64 n = .ok n := if_pos h

theorem toI64_eq_ok_iff {n m : ℕ} : toI64 n = .ok m ↔ n < 2 ^ 63 ∧ m = n := by
  unfold toI64
  split
  · next hn => exact ⟨fun h => ⟨hn, (Except.ok.inj h).symm⟩, fun h => by rw [h.2]⟩
  · next hn => exact ⟨fun h => (nomatch h), fun h => absurd h.1 hn⟩

theorem toI64?_eq_ok_iff {size size' : Option ℕ} :
    toI64? size = .ok size' ↔ (∀ n ∈ size, n < 2 ^ 63) ∧ size' = size := by
  cases size with
  | none => simp [toI64?, eq_comm]
  | some n =>
      have hmap : toI64? (some n) = .ok size' ↔ ∃ m, toI64 n = .ok m ∧ some m = size' := by
        change (toI64 n).map some = .ok size' ↔ _
        cases toI64 n with
        | error e => simp [Except.map]
        | ok m => simp [Except.map]
      rw [hmap]
      simp only [toI64_eq_ok_iff, Option.mem_some_iff, forall_eq']
      exact ⟨fun ⟨m, ⟨hn, hm⟩, hsize⟩ => ⟨hn, by rw [← hsize, hm]⟩,
        fun ⟨hn, hsize⟩ => ⟨n, ⟨hn, rfl⟩, hsize.symm⟩⟩

theorem ensures_toI64 (n : ℕ) : Checks.Ensures (toI64 n) fun m => m = n :=
  fun _ h => (toI64_eq_ok_iff.mp h).2

theorem ensures_toI64_fits (n : ℕ) : Checks.Ensures (toI64 n) fun _ => n < 2 ^ 63 :=
  fun _ h => (toI64_eq_ok_iff.mp h).1

/-- An upsert writes the item, and fails only on a size that does not fit the column. -/
theorem upsertCatalogItem_eq_ok_iff (item : RemoteItem) (store' : CatalogStore) :
    store.upsertCatalogItem item = .ok store' ↔ item.SizeFits ∧
      store' = (store.invalidateForUpsert item).writeItem item item.sizeBytes := by
  unfold CatalogStore.upsertCatalogItem
  simp only [Checks.bind_eq_ok, toI64?_eq_ok_iff]
  constructor
  · rintro ⟨size, ⟨hfits, rfl⟩, hwrite⟩
    exact ⟨hfits, (Except.ok.inj hwrite).symm⟩
  · rintro ⟨hfits, rfl⟩
    exact ⟨_, ⟨hfits, rfl⟩, rfl⟩

end Items

end NubiSync
