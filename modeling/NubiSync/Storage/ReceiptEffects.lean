import NubiSync.Storage.CatalogWrites

set_option autoImplicit false

/-! # What recording and deleting receipts does

A batch of receipts is recorded in one transaction: the rows of its items are replaced and everything
else stays. It is recorded when its values are valid, its items are live and of the size that was
materialized, and no other item has a current receipt at one of its paths. The stale receipts of files
are deleted in one transaction as well. -/

namespace NubiSync

open Checks

/-! ## The rows -/

/-- The row that recording a file writes. -/
def FileMaterialization.receipt (file : FileMaterialization) : FileReceiptRow :=
  ⟨file.remoteId, file.relativePath, file.sizeBytes, file.sha256Hex, .current⟩

/-- The row that recording a directory writes. -/
def DirectoryMaterialization.receipt (directory : DirectoryMaterialization) : DirectoryReceiptRow :=
  ⟨directory.remoteId, directory.relativePath, .current⟩

namespace CatalogStore

variable {catalog catalog' : CatalogStore}

/-- The item of a file is live, and of its size. -/
def HasFileItem (catalog : CatalogStore) (file : FileMaterialization) : Prop :=
  ∃ row, catalog.items.find? file.remoteId = some row ∧ row.itemKind = .file ∧ row.trashed = false ∧
    row.sizeBytes = some file.sizeBytes

/-- The item of a directory is live. -/
def HasFolderItem (catalog : CatalogStore) (directory : DirectoryMaterialization) : Prop :=
  ∃ row, catalog.items.find? directory.remoteId = some row ∧ row.itemKind = .folder ∧ row.trashed = false

theorem checkFileItem_eq_ok {file : FileMaterialization} :
    catalog.checkFileItem file.remoteId file.sizeBytes = .ok () ↔ catalog.HasFileItem file := by
  simp [checkFileItem, HasFileItem, and_assoc]

theorem checkFolderItem_eq_ok {directory : DirectoryMaterialization} :
    catalog.checkFolderItem directory.remoteId = .ok () ↔ catalog.HasFolderItem directory := by
  simp [checkFolderItem, HasFolderItem]

theorem recordFile_eq_ok {file : FileMaterialization} :
    catalog.recordFile file = .ok catalog' ↔ file.sizeBytes < 2 ^ 63 ∧ catalog.HasFileItem file ∧
      catalog.hasOtherCurrentFile file.remoteId file.relativePath = false ∧
      catalog' = { catalog with fileReceipts := catalog.fileReceipts.upsert file.receipt } := by
  unfold recordFile writeFileReceipt
  rw [bind_eq_ok]
  constructor
  · rintro ⟨size, hsize, h⟩
    obtain ⟨hword, rfl⟩ := toI64_eq_ok_iff.mp hsize
    obtain ⟨_, hitem, h⟩ := bind_eq_ok.mp h
    rw [refuseIf_bind_eq_ok, Except.ok.injEq] at h
    exact ⟨hword, checkFileItem_eq_ok.mp hitem, h.1, h.2.symm⟩
  · rintro ⟨hword, hitem, hfree, rfl⟩
    refine ⟨file.sizeBytes, toI64_eq_ok_iff.mpr ⟨hword, rfl⟩, bind_eq_ok.mpr ⟨(), ?_, ?_⟩⟩
    · exact checkFileItem_eq_ok.mpr hitem
    · rw [refuseIf_bind_eq_ok]
      exact ⟨hfree, rfl⟩

theorem recordDirectory_eq_ok {directory : DirectoryMaterialization} :
    catalog.recordDirectory directory = .ok catalog' ↔ catalog.HasFolderItem directory ∧
      catalog.hasOtherCurrentDirectory directory.remoteId directory.relativePath = false ∧
      catalog' =
        { catalog with directoryReceipts := catalog.directoryReceipts.upsert directory.receipt } := by
  unfold recordDirectory writeDirectoryReceipt
  rw [bind_eq_ok]
  constructor
  · rintro ⟨_, hitem, h⟩
    rw [refuseIf_bind_eq_ok, Except.ok.injEq] at h
    exact ⟨checkFolderItem_eq_ok.mp hitem, h.1, h.2.symm⟩
  · rintro ⟨hitem, hfree, rfl⟩
    refine ⟨(), checkFolderItem_eq_ok.mpr hitem, ?_⟩
    rw [refuseIf_bind_eq_ok]
    exact ⟨hfree, rfl⟩

/-- A catalog with the receipts of files in place of those of their items. -/
def withFiles (catalog : CatalogStore) (files : List FileMaterialization) : CatalogStore :=
  { catalog with
    fileReceipts := (files.map FileMaterialization.receipt).foldl Table.upsert catalog.fileReceipts }

/-- A catalog with the receipts of directories in place of those of their items. -/
def withDirectories (catalog : CatalogStore) (directories : List DirectoryMaterialization) :
    CatalogStore :=
  { catalog with
    directoryReceipts :=
      (directories.map DirectoryMaterialization.receipt).foldl Table.upsert catalog.directoryReceipts }

theorem foldlM_recordFile_eq_ok {files : List FileMaterialization}
    (h : files.foldlM recordFile catalog = .ok catalog') :
    catalog' = catalog.withFiles files ∧
      ∀ file ∈ files, file.sizeBytes < 2 ^ 63 ∧ catalog.HasFileItem file := by
  induction files generalizing catalog with
  | nil => exact ⟨(Except.ok.inj h).symm, by simp⟩
  | cons file rest ih =>
      rw [List.foldlM_cons, bind_eq_ok] at h
      obtain ⟨middle, hfirst, hrest⟩ := h
      obtain ⟨hword, hitem, -, rfl⟩ := recordFile_eq_ok.mp hfirst
      obtain ⟨hsame, hall⟩ := ih hrest
      refine ⟨hsame, List.forall_mem_cons.mpr ⟨⟨hword, hitem⟩, hall⟩⟩

theorem foldlM_recordDirectory_eq_ok {directories : List DirectoryMaterialization}
    (h : directories.foldlM recordDirectory catalog = .ok catalog') :
    catalog' = catalog.withDirectories directories ∧
      ∀ directory ∈ directories, catalog.HasFolderItem directory := by
  induction directories generalizing catalog with
  | nil => exact ⟨(Except.ok.inj h).symm, by simp⟩
  | cons directory rest ih =>
      rw [List.foldlM_cons, bind_eq_ok] at h
      obtain ⟨middle, hfirst, hrest⟩ := h
      obtain ⟨hitem, -, rfl⟩ := recordDirectory_eq_ok.mp hfirst
      obtain ⟨hsame, hall⟩ := ih hrest
      refine ⟨hsame, List.forall_mem_cons.mpr ⟨hitem, hall⟩⟩

/-! ### Deleting stale receipts -/

/-- A catalog without the stale receipts of some files. -/
def withoutFiles (catalog : CatalogStore) (remoteIds : List Text) : CatalogStore :=
  { catalog with
    fileReceipts := remoteIds.foldl (fun receipts remoteId =>
      receipts.deleteWhere (FileReceiptRow.isStaleOf remoteId)) catalog.fileReceipts }

theorem withoutFiles_cons (remoteId : Text) (remoteIds : List Text) :
    catalog.withoutFiles (remoteId :: remoteIds) =
      (catalog.deleteStaleFile remoteId).withoutFiles remoteIds := rfl

end CatalogStore

/-! ## The transactions -/

/-- Materialized files whose values can be recorded. -/
structure RecordableFiles (files : List FileMaterialization) : Prop where
  valid : ∀ file ∈ files,
    validateMaterializationReceiptValues file.remoteId file.relativePath file.sha256Hex = .ok ()
  ids : (files.map FileMaterialization.remoteId).Nodup
  paths : (files.map FileMaterialization.relativePath).Nodup

/-- Materialized directories whose values can be recorded. -/
structure RecordableDirectories (directories : List DirectoryMaterialization) : Prop where
  valid : ∀ directory ∈ directories,
    validateDirectoryMaterializationReceiptValues directory.remoteId directory.relativePath = .ok ()
  ids : (directories.map DirectoryMaterialization.remoteId).Nodup
  paths : (directories.map DirectoryMaterialization.relativePath).Nodup

variable {store store' : RootStore}

/-- **Recording files** replaces the receipts of their items and leaves everything else. -/
theorem RootStore.recordFileMaterializations_eq_ok {files : List FileMaterialization} {recorded : ℕ}
    (h : store.recordFileMaterializations files = .ok (store', recorded)) :
    recorded = files.length ∧ store' = { store with catalog := store.catalog.withFiles files } ∧
      RecordableFiles files ∧ ∀ file ∈ files, store.catalog.HasFileItem file := by
  obtain ⟨_, hvalid, h⟩ := bind_eq_ok.mp h
  rw [refuseIf_bind_eq_ok] at h
  obtain ⟨hnodup, h⟩ := h
  obtain ⟨catalog, hcatalog, h⟩ := bind_eq_ok.mp h
  obtain ⟨rfl, hall⟩ := CatalogStore.foldlM_recordFile_eq_ok hcatalog
  obtain ⟨rfl, rfl⟩ := Prod.mk.inj (Except.ok.inj h)
  simp only [Bool.or_eq_false_iff, Bool.not_eq_false', decide_eq_true_iff] at hnodup
  exact ⟨rfl, rfl, ⟨forM_eq_ok_iff.mp hvalid, hnodup.1, hnodup.2⟩, fun file hfile => (hall file hfile).2⟩

/-- **Recording directories** replaces the receipts of their items and leaves everything else. -/
theorem RootStore.recordDirectoryMaterializations_eq_ok {directories : List DirectoryMaterialization}
    {recorded : ℕ} (h : store.recordDirectoryMaterializations directories = .ok (store', recorded)) :
    recorded = directories.length ∧
      store' = { store with catalog := store.catalog.withDirectories directories } ∧
      RecordableDirectories directories ∧
      ∀ directory ∈ directories, store.catalog.HasFolderItem directory := by
  obtain ⟨_, hvalid, h⟩ := bind_eq_ok.mp h
  rw [refuseIf_bind_eq_ok] at h
  obtain ⟨hnodup, h⟩ := h
  obtain ⟨catalog, hcatalog, h⟩ := bind_eq_ok.mp h
  obtain ⟨rfl, hall⟩ := CatalogStore.foldlM_recordDirectory_eq_ok hcatalog
  obtain ⟨rfl, rfl⟩ := Prod.mk.inj (Except.ok.inj h)
  simp only [Bool.or_eq_false_iff, Bool.not_eq_false', decide_eq_true_iff] at hnodup
  exact ⟨rfl, rfl, ⟨forM_eq_ok_iff.mp hvalid, hnodup.1, hnodup.2⟩, hall⟩

/-- A round of the deletion. -/
def CatalogStore.dropStaleFile (catalog : CatalogStore) (remoteId : Text) :
    Except StorageError CatalogStore := do
  refuseIf (!catalog.fileReceipts.rows.any (FileReceiptRow.isStaleOf remoteId))
    .staleMaterializationReceiptBatchMismatch
  .ok (catalog.deleteStaleFile remoteId)

theorem CatalogStore.foldlM_dropStaleFile_eq_ok {catalog catalog' : CatalogStore}
    {remoteIds : List Text} (h : remoteIds.foldlM dropStaleFile catalog = .ok catalog') :
    catalog' = catalog.withoutFiles remoteIds := by
  induction remoteIds generalizing catalog with
  | nil => exact (Except.ok.inj h).symm
  | cons remoteId rest ih =>
      rw [List.foldlM_cons] at h
      obtain ⟨next, hnext, hrest⟩ := bind_eq_ok.mp h
      rw [dropStaleFile, refuseIf_bind_eq_ok] at hnext
      rw [withoutFiles_cons, ih hrest, Except.ok.inj hnext.2]

/-- **Deleting stale receipts of files** leaves everything else. -/
theorem RootStore.deleteStaleFileReceipts_eq_ok {remoteIds : List Text} {deleted : ℕ}
    (h : store.deleteStaleFileReceipts remoteIds = .ok (store', deleted)) :
    deleted = remoteIds.length ∧
      store' = { store with catalog := store.catalog.withoutFiles remoteIds } := by
  unfold deleteStaleFileReceipts at h
  rw [refuseIf_bind_eq_ok] at h
  obtain ⟨catalog, hcatalog, h⟩ := bind_eq_ok.mp h.2
  obtain ⟨rfl, rfl⟩ := Prod.mk.inj (Except.ok.inj h)
  exact ⟨rfl, by rw [CatalogStore.foldlM_dropStaleFile_eq_ok hcatalog]⟩

end NubiSync
