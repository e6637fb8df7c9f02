import NubiSync.Storage.RootStore

set_option autoImplicit false

/-! # Materialization receipts

Recording what was materialized locally, and deleting receipts that have gone stale. The partial
unique indexes on the two tables allow one *current* receipt of a kind for each path; an insert that
would make a second one is an SQLite error. -/

namespace NubiSync

open Checks

/-! ## Writing one receipt -/

namespace CatalogStore

/-- The index `sync_root_file_materialization_current_path_idx` has the path for another item. -/
def hasOtherCurrentFile (catalog : CatalogStore) (remoteId relativePath : Text) : Bool :=
  catalog.fileReceipts.rows.any fun receipt => receipt.receiptState == .current
    && receipt.relativePath == relativePath && receipt.remoteId != remoteId

/-- The index `sync_root_directory_materialization_current_path_idx` has the path for another item. -/
def hasOtherCurrentDirectory (catalog : CatalogStore) (remoteId relativePath : Text) : Bool :=
  catalog.directoryReceipts.rows.any fun receipt => receipt.receiptState == .current
    && receipt.relativePath == relativePath && receipt.remoteId != remoteId

/-- The `INSERT … ON CONFLICT DO UPDATE` of a current file receipt. -/
def writeFileReceipt (catalog : CatalogStore) (remoteId relativePath : Text) (sizeBytes : ℕ)
    (sha256Hex : Text) : Except StorageError CatalogStore := do
  refuseIf (catalog.hasOtherCurrentFile remoteId relativePath) .sqlite
  .ok { catalog with
    fileReceipts := catalog.fileReceipts.upsert
      ⟨remoteId, relativePath, sizeBytes, sha256Hex, .current⟩ }

/-- The `INSERT … ON CONFLICT DO UPDATE` of a current directory receipt. -/
def writeDirectoryReceipt (catalog : CatalogStore) (remoteId relativePath : Text) :
    Except StorageError CatalogStore := do
  refuseIf (catalog.hasOtherCurrentDirectory remoteId relativePath) .sqlite
  .ok { catalog with
    directoryReceipts := catalog.directoryReceipts.upsert ⟨remoteId, relativePath, .current⟩ }

/-- The item a file receipt is for: a live file of the size that was materialized. -/
def checkFileItem (catalog : CatalogStore) (remoteId : Text) (sizeBytes : ℕ) :
    Except StorageError Unit := do
  let row ← orRefuse (catalog.items.find? remoteId) .materializationReceiptRemoteItemMissing
  refuseIf (row.itemKind != .file || row.trashed || row.sizeBytes != some sizeBytes)
    .materializationReceiptRemoteItemMismatch

/-- The item a directory receipt is for: a live folder. -/
def checkFolderItem (catalog : CatalogStore) (remoteId : Text) : Except StorageError Unit := do
  let row ← orRefuse (catalog.items.find? remoteId)
    .directoryMaterializationReceiptRemoteItemMissing
  refuseIf (row.itemKind != .folder || row.trashed)
    .directoryMaterializationReceiptRemoteItemMismatch

end CatalogStore

/-! ## Recording -/

/-- A materialized file: remote id, path, size and SHA-256. -/
structure FileMaterialization where
  remoteId : Text
  relativePath : Text
  sizeBytes : ℕ
  sha256Hex : Text
  deriving DecidableEq, Repr

/-- A materialized directory: remote id and path. -/
structure DirectoryMaterialization where
  remoteId : Text
  relativePath : Text
  deriving DecidableEq, Repr

/-- What each round of `record_sync_root_file_materializations` does inside the transaction, and all
    that `record_sync_root_file_materialization` does there. -/
def CatalogStore.recordFile (catalog : CatalogStore) (file : FileMaterialization) :
    Except StorageError CatalogStore := do
  let sizeBytes ← toI64 file.sizeBytes
  catalog.checkFileItem file.remoteId sizeBytes
  catalog.writeFileReceipt file.remoteId file.relativePath sizeBytes file.sha256Hex

/-- One round of `record_sync_root_directory_materializations`. -/
def CatalogStore.recordDirectory (catalog : CatalogStore) (directory : DirectoryMaterialization) :
    Except StorageError CatalogStore := do
  catalog.checkFolderItem directory.remoteId
  catalog.writeDirectoryReceipt directory.remoteId directory.relativePath

/-- `record_sync_root_file_materialization`. -/
def RootStore.recordFileMaterialization (store : RootStore) (file : FileMaterialization) :
    Except StorageError RootStore := do
  validateMaterializationReceiptValues file.remoteId file.relativePath file.sha256Hex
  let catalog ← store.catalog.recordFile file
  .ok { store with catalog := catalog }

/-- `record_sync_root_file_materializations`: the number of recorded files. -/
def RootStore.recordFileMaterializations (store : RootStore) (files : List FileMaterialization) :
    Except StorageError (RootStore × ℕ) := do
  files.forM fun file =>
    validateMaterializationReceiptValues file.remoteId file.relativePath file.sha256Hex
  refuseIf (!decide (files.map FileMaterialization.remoteId).Nodup
    || !decide (files.map FileMaterialization.relativePath).Nodup) .invalidMaterializationReceipt
  let catalog ← files.foldlM CatalogStore.recordFile store.catalog
  .ok ({ store with catalog := catalog }, files.length)

/-- `record_sync_root_directory_materializations`: the number of recorded directories. -/
def RootStore.recordDirectoryMaterializations (store : RootStore)
    (directories : List DirectoryMaterialization) : Except StorageError (RootStore × ℕ) := do
  directories.forM fun directory =>
    validateDirectoryMaterializationReceiptValues directory.remoteId directory.relativePath
  refuseIf (!decide (directories.map DirectoryMaterialization.remoteId).Nodup
    || !decide (directories.map DirectoryMaterialization.relativePath).Nodup)
    .invalidDirectoryMaterializationReceipt
  let catalog ← directories.foldlM CatalogStore.recordDirectory store.catalog
  .ok ({ store with catalog := catalog }, directories.length)

/-! ## Deleting stale receipts -/

/-- The stale file receipt of an item. -/
def FileReceiptRow.isStaleOf (remoteId : Text) (receipt : FileReceiptRow) : Bool :=
  receipt.remoteId == remoteId && receipt.receiptState == .stale

/-- The stale directory receipt of an item. -/
def DirectoryReceiptRow.isStaleOf (remoteId : Text) (receipt : DirectoryReceiptRow) : Bool :=
  receipt.remoteId == remoteId && receipt.receiptState == .stale

/-- `DELETE … AND receipt_state = 'stale'` on one file receipt. -/
def CatalogStore.deleteStaleFile (catalog : CatalogStore) (remoteId : Text) : CatalogStore :=
  { catalog with
    fileReceipts := catalog.fileReceipts.deleteWhere (FileReceiptRow.isStaleOf remoteId) }

/-- `DELETE … AND receipt_state = 'stale'` on one directory receipt. -/
def CatalogStore.deleteStaleDirectory (catalog : CatalogStore) (remoteId : Text) : CatalogStore :=
  { catalog with
    directoryReceipts :=
      catalog.directoryReceipts.deleteWhere (DirectoryReceiptRow.isStaleOf remoteId) }

/-- `delete_sync_root_stale_file_materialization_receipt`: whether there was one. -/
def RootStore.deleteStaleFileReceipt (store : RootStore) (remoteId : Text) : RootStore × Bool :=
  ({ store with catalog := store.catalog.deleteStaleFile remoteId },
    store.catalog.fileReceipts.rows.any (FileReceiptRow.isStaleOf remoteId))

/-- `delete_sync_root_stale_directory_materialization_receipt`: whether there was one. -/
def RootStore.deleteStaleDirectoryReceipt (store : RootStore) (remoteId : Text) :
    RootStore × Bool :=
  ({ store with catalog := store.catalog.deleteStaleDirectory remoteId },
    store.catalog.directoryReceipts.rows.any (DirectoryReceiptRow.isStaleOf remoteId))

/-- `delete_sync_root_stale_file_materialization_receipts`: all of them, or none. -/
def RootStore.deleteStaleFileReceipts (store : RootStore) (remoteIds : List Text) :
    Except StorageError (RootStore × ℕ) := do
  refuseIf (remoteIds.any Text.isBlank || !decide remoteIds.Nodup) .invalidMaterializationReceipt
  let catalog ← remoteIds.foldlM (fun (catalog : CatalogStore) remoteId => do
    refuseIf (!catalog.fileReceipts.rows.any (FileReceiptRow.isStaleOf remoteId))
      .staleMaterializationReceiptBatchMismatch
    .ok (catalog.deleteStaleFile remoteId)) store.catalog
  .ok ({ store with catalog := catalog }, remoteIds.length)

/-- `delete_sync_root_stale_directory_materialization_receipts`: all of them, or none. -/
def RootStore.deleteStaleDirectoryReceipts (store : RootStore) (remoteIds : List Text) :
    Except StorageError (RootStore × ℕ) := do
  refuseIf (remoteIds.any Text.isBlank || !decide remoteIds.Nodup)
    .invalidDirectoryMaterializationReceipt
  let catalog ← remoteIds.foldlM (fun (catalog : CatalogStore) remoteId => do
    refuseIf (!catalog.directoryReceipts.rows.any (DirectoryReceiptRow.isStaleOf remoteId))
      .staleDirectoryMaterializationReceiptBatchMismatch
    .ok (catalog.deleteStaleDirectory remoteId)) store.catalog
  .ok ({ store with catalog := catalog }, remoteIds.length)

end NubiSync
