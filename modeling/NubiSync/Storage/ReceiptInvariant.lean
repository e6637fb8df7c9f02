import NubiSync.Storage.CatalogWrites

set_option autoImplicit false

/-! # What a current receipt vouches for

A current receipt says that the catalogued item has not changed since it was materialized. Every write
to the catalog keeps that: the mutations stale the receipts of the items they touch in the same
transaction, and a receipt is recorded only for a live row that it agrees with. The snapshot and the
rebaseline commit keep the receipts as they are, so there it is the staged inventory that has to agree
with them. -/

namespace NubiSync

open Checks Relation

/-! ## The invariant -/

/-- The live file of the catalog that a file receipt is about, at the size it was materialized. -/
def VouchedFile (items : Table CatalogRow.remoteId) (receipt : FileReceiptRow) : Prop :=
  ∃ row, items.find? receipt.remoteId = some row ∧ row.itemKind = .file ∧ row.trashed = false ∧
    row.sizeBytes = some receipt.sizeBytes

/-- The live folder of the catalog that a directory receipt is about. -/
def VouchedDirectory (items : Table CatalogRow.remoteId) (receipt : DirectoryReceiptRow) : Prop :=
  ∃ row, items.find? receipt.remoteId = some row ∧ row.itemKind = .folder ∧ row.trashed = false

/-- The current file receipts. -/
def CatalogStore.CurrentFile (catalog : CatalogStore) (receipt : FileReceiptRow) : Prop :=
  receipt ∈ catalog.fileReceipts.rows ∧ receipt.receiptState = .current

/-- The current directory receipts. -/
def CatalogStore.CurrentDirectory (catalog : CatalogStore) (receipt : DirectoryReceiptRow) : Prop :=
  receipt ∈ catalog.directoryReceipts.rows ∧ receipt.receiptState = .current

/-- A set of items that bears out every current receipt of a catalog. -/
structure CatalogStore.VouchedBy (catalog : CatalogStore) (items : Table CatalogRow.remoteId) :
    Prop where
  files : ∀ receipt, catalog.CurrentFile receipt → VouchedFile items receipt
  directories : ∀ receipt, catalog.CurrentDirectory receipt → VouchedDirectory items receipt

/-- **Receipts never vouch for a changed remote item.** -/
def CatalogStore.ReceiptsVouched (catalog : CatalogStore) : Prop := catalog.VouchedBy catalog.items

/-! ## Invalidation -/

section Invalidation

variable {catalog : CatalogStore}

theorem currentFile_invalidateFiles {selected : Text → Bool} {receipt : FileReceiptRow}
    (h : (catalog.invalidateFiles selected).CurrentFile receipt) :
    catalog.CurrentFile receipt ∧ selected receipt.remoteId = false := by
  obtain ⟨hmem, hcurrent⟩ := h
  simp only [CatalogStore.invalidateFiles, Table.mem_update] at hmem
  obtain ⟨old, hold, rfl⟩ := hmem
  unfold FileReceiptRow.invalidate at hcurrent ⊢
  split at hcurrent
  · cases hcurrent
  · next hkeep =>
      rw [if_neg hkeep]
      exact ⟨⟨hold, hcurrent⟩, Bool.eq_false_iff.mpr fun hsel => hkeep ⟨hcurrent, hsel⟩⟩

theorem currentDirectory_invalidateDirectories {selected : Text → Bool}
    {receipt : DirectoryReceiptRow}
    (h : (catalog.invalidateDirectories selected).CurrentDirectory receipt) :
    catalog.CurrentDirectory receipt ∧ selected receipt.remoteId = false := by
  obtain ⟨hmem, hcurrent⟩ := h
  simp only [CatalogStore.invalidateDirectories, Table.mem_update] at hmem
  obtain ⟨old, hold, rfl⟩ := hmem
  unfold DirectoryReceiptRow.invalidate at hcurrent ⊢
  split at hcurrent
  · cases hcurrent
  · next hkeep =>
      rw [if_neg hkeep]
      exact ⟨⟨hold, hcurrent⟩, Bool.eq_false_iff.mpr fun hsel => hkeep ⟨hcurrent, hsel⟩⟩

/-- A subtree invalidation leaves no current file receipt in the subtree. -/
theorem currentFile_invalidateSubtree {remoteId : Text} {receipt : FileReceiptRow}
    (h : (catalog.invalidateMaterializationSubtree remoteId).CurrentFile receipt) :
    catalog.CurrentFile receipt ∧ receipt.remoteId ∉ subtreeIds catalog.items remoteId := by
  have h' := @currentFile_invalidateFiles catalog
    (fun id => (subtreeIds catalog.items remoteId).contains id) receipt h
  exact ⟨h'.1, by simpa using h'.2⟩

/-- A subtree invalidation leaves no current directory receipt in the subtree. -/
theorem currentDirectory_invalidateSubtree {remoteId : Text} {receipt : DirectoryReceiptRow}
    (h : (catalog.invalidateMaterializationSubtree remoteId).CurrentDirectory receipt) :
    catalog.CurrentDirectory receipt ∧ receipt.remoteId ∉ subtreeIds catalog.items remoteId := by
  have h' := @currentDirectory_invalidateDirectories catalog
    (fun id => (subtreeIds catalog.items remoteId).contains id) receipt h
  exact ⟨h'.1, by simpa using h'.2⟩

theorem self_mem_subtreeIds (items : Table CatalogRow.remoteId) (remoteId : Text) :
    remoteId ∈ subtreeIds items remoteId :=
  (mem_subtreeIds items remoteId remoteId).mpr (.of_mem (List.mem_singleton_self _))

/-- Where a row stands, and whether it can have children. -/
def CatalogRow.place (row : CatalogRow) : Option Text × Text × RemoteItemKind :=
  (row.parentRemoteId, row.name, row.itemKind)

/-- Where an upsert puts an item. -/
def RemoteItem.place (item : RemoteItem) : Option Text × Text × RemoteItemKind :=
  (item.parentRemoteId, item.name, item.kind)

/-- What an upsert stales, by the row that it replaces: nothing for a new item or a folder that stays in
    its place, the subtree of any other folder, and the receipt of a file. -/
inductive UpsertStales (catalog : CatalogStore) (item : RemoteItem) : CatalogStore → Prop where
  | absent (hnone : catalog.items.find? item.remoteId = none) : UpsertStales catalog item catalog
  | inPlace (row : CatalogRow) (hrow : catalog.items.find? item.remoteId = some row)
      (hkind : row.itemKind = .folder) (hplace : row.place = item.place) :
      UpsertStales catalog item catalog
  | subtree (row : CatalogRow) (hrow : catalog.items.find? item.remoteId = some row)
      (hkind : row.itemKind = .folder) :
      UpsertStales catalog item (catalog.invalidateMaterializationSubtree item.remoteId)
  | file (row : CatalogRow) (hrow : catalog.items.find? item.remoteId = some row)
      (hkind : row.itemKind = .file) :
      UpsertStales catalog item (catalog.invalidateFileMaterialization item.remoteId)

theorem upsertStales (catalog : CatalogStore) (item : RemoteItem) :
    UpsertStales catalog item (catalog.invalidateForUpsert item) := by
  unfold CatalogStore.invalidateForUpsert
  split
  · next hnone => exact .absent hnone
  next row hrow =>
  split
  · next hfolder =>
      split
      · exact .subtree row hrow hfolder
      · next hsame =>
          simp only [ne_eq, not_or, not_not] at hsame
          refine .inPlace row hrow hfolder ?_
          rw [CatalogRow.place, RemoteItem.place, hfolder, hsame.1, hsame.2.1, hsame.2.2]
  · next hfile => exact .file row hrow hfile

/-- An upsert over a file leaves no current receipt of that file, and one over a folder no current file
    receipt in its subtree, unless the folder stays in its place. -/
theorem currentFile_invalidateForUpsert {item : RemoteItem} {receipt : FileReceiptRow}
    (h : (catalog.invalidateForUpsert item).CurrentFile receipt) :
    catalog.CurrentFile receipt ∧
    ∀ existing, catalog.items.find? item.remoteId = some existing →
      (existing.itemKind = .file → receipt.remoteId ≠ item.remoteId) ∧
      (existing.itemKind = .folder → receipt.remoteId ∈ subtreeIds catalog.items item.remoteId →
        existing.place = item.place) := by
  generalize hafter : catalog.invalidateForUpsert item = after at h
  cases hafter ▸ upsertStales catalog item with
  | absent hnone =>
      refine ⟨h, fun existing hexisting => ?_⟩
      rw [hnone] at hexisting
      cases hexisting
  | inPlace row hrow hkind hplace =>
      refine ⟨h, fun existing hexisting => ?_⟩
      obtain rfl := Option.some.inj (hrow.symm.trans hexisting)
      exact ⟨fun hfile => (nomatch hkind.symm.trans hfile), fun _ _ => hplace⟩
  | subtree row hrow hkind =>
      obtain ⟨hbefore, houtside⟩ := currentFile_invalidateSubtree h
      refine ⟨hbefore, fun existing hexisting => ?_⟩
      obtain rfl := Option.some.inj (hrow.symm.trans hexisting)
      exact ⟨fun hfile => (nomatch hkind.symm.trans hfile), fun _ hin => absurd hin houtside⟩
  | file row hrow hkind =>
      obtain ⟨hbefore, hother⟩ := currentFile_invalidateFiles h
      refine ⟨hbefore, fun existing hexisting => ?_⟩
      obtain rfl := Option.some.inj (hrow.symm.trans hexisting)
      have hother : receipt.remoteId ≠ item.remoteId := by simpa using hother
      exact ⟨fun _ => hother, fun hfolder => (nomatch hkind.symm.trans hfolder)⟩

/-- An upsert over a folder leaves no current directory receipt in its subtree, unless the folder stays
    in its place. -/
theorem currentDirectory_invalidateForUpsert {item : RemoteItem} {receipt : DirectoryReceiptRow}
    (h : (catalog.invalidateForUpsert item).CurrentDirectory receipt) :
    catalog.CurrentDirectory receipt ∧
    ∀ existing, catalog.items.find? item.remoteId = some existing → existing.itemKind = .folder →
      receipt.remoteId ∈ subtreeIds catalog.items item.remoteId → existing.place = item.place := by
  generalize hafter : catalog.invalidateForUpsert item = after at h
  cases hafter ▸ upsertStales catalog item with
  | absent hnone =>
      refine ⟨h, fun existing hexisting => ?_⟩
      rw [hnone] at hexisting
      cases hexisting
  | inPlace row hrow hkind hplace =>
      refine ⟨h, fun existing hexisting _ _ => ?_⟩
      obtain rfl := Option.some.inj (hrow.symm.trans hexisting)
      exact hplace
  | subtree row hrow hkind =>
      obtain ⟨hbefore, houtside⟩ := currentDirectory_invalidateSubtree h
      exact ⟨hbefore, fun existing hexisting _ hin => absurd hin houtside⟩
  | file row hrow hkind =>
      refine ⟨h, fun existing hexisting hfolder => ?_⟩
      obtain rfl := Option.some.inj (hrow.symm.trans hexisting)
      rw [hkind] at hfolder
      cases hfolder

end Invalidation

/-! ## One write -/

section Write

variable {catalog : CatalogStore}

theorem receiptsVouched_upsert (item : RemoteItem) (h : catalog.ReceiptsVouched) :
    ((catalog.invalidateForUpsert item).writeItem item item.sizeBytes).ReceiptsVouched := by
  refine ⟨fun receipt hcurrent => ?_, fun receipt hcurrent => ?_⟩
  · obtain ⟨hcurrent, hstaled⟩ := currentFile_invalidateForUpsert hcurrent
    obtain ⟨row, hrow, hkind, hlive, hsize⟩ := h.files receipt hcurrent
    have hid : item.remoteId ≠ receipt.remoteId := by
      intro hid
      exact (hstaled row (by rw [hid]; exact hrow)).1 hkind hid.symm
    refine ⟨row, ?_, hkind, hlive, hsize⟩
    rw [find?_writeItem, if_neg hid, items_invalidateForUpsert]
    exact hrow
  · obtain ⟨hcurrent, hstaled⟩ := currentDirectory_invalidateForUpsert hcurrent
    obtain ⟨row, hrow, hkind, hlive⟩ := h.directories receipt hcurrent
    unfold VouchedDirectory
    rw [find?_writeItem, items_invalidateForUpsert]
    by_cases hid : item.remoteId = receipt.remoteId
    · -- the folder is written again, and as a folder: else its receipt would be stale
      rw [if_pos hid]
      refine ⟨_, rfl, ?_, rfl⟩
      have hin : receipt.remoteId ∈ subtreeIds catalog.items item.remoteId := by
        rw [hid]
        exact self_mem_subtreeIds _ _
      have hplace := hstaled row (by rw [hid]; exact hrow) hkind hin
      exact (congrArg (fun place => place.2.2) hplace).symm.trans hkind
    · rw [if_neg hid]
      exact ⟨row, hrow, hkind, hlive⟩

theorem receiptsVouched_deleteSubtree (remoteId : Text) (h : catalog.ReceiptsVouched) :
    (catalog.deleteSubtreeInTransaction remoteId).ReceiptsVouched := by
  refine ⟨fun receipt hcurrent => ?_, fun receipt hcurrent => ?_⟩
  · obtain ⟨hcurrent, houtside⟩ := currentFile_invalidateSubtree hcurrent
    obtain ⟨row, hrow, hlive⟩ := h.files receipt hcurrent
    refine ⟨row, ?_, hlive⟩
    rw [find?_deleteSubtreeInTransaction, if_neg houtside]
    exact hrow
  · obtain ⟨hcurrent, houtside⟩ := currentDirectory_invalidateSubtree hcurrent
    obtain ⟨row, hrow, hlive⟩ := h.directories receipt hcurrent
    refine ⟨row, ?_, hlive⟩
    rw [find?_deleteSubtreeInTransaction, if_neg houtside]
    exact hrow

/-- **Every write keeps the invariant.** -/
theorem CatalogWrite.receiptsVouched {upserts : RemoteItem → Prop} {catalog next : CatalogStore}
    (hwrite : CatalogWrite upserts catalog next) (h : catalog.ReceiptsVouched) : next.ReceiptsVouched := by
  cases hwrite with
  | count itemCount => exact ⟨h.files, h.directories⟩
  | upsert item _ _ => exact receiptsVouched_upsert item h
  | deleteSubtree remoteId => exact receiptsVouched_deleteSubtree remoteId h
  | fileReceipt receipt row hrow hkind hlive hsize =>
      refine ⟨fun other hother => ?_, h.directories⟩
      rcases Table.mem_upsert.mp hother.1 with ⟨hold, -⟩ | rfl
      · exact h.files other ⟨hold, hother.2⟩
      · exact ⟨row, hrow, hkind, hlive, hsize⟩
  | directoryReceipt receipt row hrow hkind hlive =>
      refine ⟨h.files, fun other hother => ?_⟩
      rcases Table.mem_upsert.mp hother.1 with ⟨hold, -⟩ | rfl
      · exact h.directories other ⟨hold, hother.2⟩
      · exact ⟨row, hrow, hkind, hlive⟩
  | dropFile remoteId =>
      exact ⟨fun receipt hreceipt =>
        h.files receipt ⟨(Table.mem_deleteWhere.mp hreceipt.1).1, hreceipt.2⟩, h.directories⟩
  | dropDirectory remoteId =>
      exact ⟨h.files, fun receipt hreceipt =>
        h.directories receipt ⟨(Table.mem_deleteWhere.mp hreceipt.1).1, hreceipt.2⟩⟩

theorem CatalogWrites.receiptsVouched {upserts : RemoteItem → Prop} {catalog next : CatalogStore}
    (hwrites : CatalogWrites upserts catalog next) (h : catalog.ReceiptsVouched) :
    next.ReceiptsVouched := by
  induction hwrites with
  | refl => exact h
  | tail _ hwrite ih => exact hwrite.receiptsVouched ih

end Write

/-! ## Runs -/

/-- A snapshot or rebaseline finds staged items that bear out every current receipt. -/
def StagedVouches (store : RootStore) (op : RootOperation) : Prop :=
  op.replacesCatalog = true → store.catalog.VouchedBy store.remoteStaging

/-- One transaction keeps the invariant, and a commit of the staged inventory keeps it just when the
    staged items bear out the receipts. -/
theorem RootStore.Step.receiptsVouched_iff {store next : RootStore} {op : RootOperation}
    (hstep : store.Step op next) (h : store.catalog.ReceiptsVouched) :
    next.catalog.ReceiptsVouched ↔ StagedVouches store op := by
  cases hop : op.replacesCatalog with
  | false =>
      refine iff_of_true ((hstep.writes hop).receiptsVouched h) fun hreplaces => ?_
      rw [hop] at hreplaces
      cases hreplaces
  | true =>
      obtain ⟨itemCount, hreplaced⟩ := hstep.replaced hop
      rw [hreplaced]
      exact ⟨fun hvouched _ => ⟨hvouched.files, hvouched.directories⟩,
        fun hstaged => ⟨(hstaged hop).files, (hstaged hop).directories⟩⟩

/-- **Current receipts over whole runs.** In every run from a new root whose snapshot and rebaseline
    commits find staged items that bear out the current receipts, every current file receipt is about a
    catalogued, untrashed file of its size, and every current directory receipt about a catalogued,
    untrashed folder. -/
theorem receipts_vouched (mode : SyncMode) (store : RootStore)
    (hrun : Machine.Run RootStore.Step StagedVouches (RootStore.new mode) store) :
    (∀ receipt ∈ store.catalog.fileReceipts.rows, receipt.receiptState = .current →
      ∃ row ∈ store.catalog.items.rows, row.remoteId = receipt.remoteId ∧ row.itemKind = .file ∧
        row.trashed = false ∧ row.sizeBytes = some receipt.sizeBytes) ∧
    (∀ receipt ∈ store.catalog.directoryReceipts.rows, receipt.receiptState = .current →
      ∃ row ∈ store.catalog.items.rows, row.remoteId = receipt.remoteId ∧ row.itemKind = .folder ∧
        row.trashed = false) := by
  have hvouched : store.catalog.ReceiptsVouched := by
    refine hrun.invariant (P := fun s => s.catalog.ReceiptsVouched) ⟨nofun, nofun⟩ ?_
    exact fun s op next hs hstaged hstep => (hstep.receiptsVouched_iff hs).mpr hstaged
  refine ⟨fun receipt hmem hcurrent => ?_, fun receipt hmem hcurrent => ?_⟩
  · obtain ⟨row, hrow, h⟩ := hvouched.files receipt ⟨hmem, hcurrent⟩
    obtain ⟨hrow, hid⟩ := Table.find?_eq_some_iff.mp hrow
    exact ⟨row, hrow, hid, h⟩
  · obtain ⟨row, hrow, h⟩ := hvouched.directories receipt ⟨hmem, hcurrent⟩
    obtain ⟨hrow, hid⟩ := Table.find?_eq_some_iff.mp hrow
    exact ⟨row, hrow, hid, h⟩

/-- A file that is staged, recorded, changed by a batch and recorded again. -/
theorem receipts_vouched_changed_file :
    ∃ store receipt, Machine.Run RootStore.Step StagedVouches (RootStore.new .receiveOnly) store ∧
      receipt ∈ store.catalog.fileReceipts.rows ∧ receipt.receiptState = .current ∧
      ∃ row ∈ store.catalog.items.rows, row.remoteId = receipt.remoteId ∧ row.itemKind = .file ∧
        row.trashed = false ∧ row.sizeBytes = some receipt.sizeBytes := by
  let file : ℕ → RemoteItem := fun size => ⟨['2'], some ['0'], ['a'], .file, some size, none, false⟩
  let recorded : ℕ → RootOperation := fun size =>
    .receipts (.recordFile ⟨['2'], ['a'], size, List.replicate 64 '0'⟩)
  have hends : ∃ store ∈ ([.inventory (.stageWindowPage ⟨['0'], nofun⟩ none
        ⟨[.upsert (file 5)], none, some ⟨['1'], nofun⟩⟩), recorded 3,
        .inventory (.commitWindow ⟨['0'], nofun⟩ ⟨['1'], nofun⟩ 1 [.upsert (file 5)]),
        recorded 5].foldlM RootStore.apply
      { RootStore.new .receiveOnly with
        catalog := ⟨.ofRows [⟨['2'], some ['0'], ['a'], .file, some 3, false⟩], ∅, ∅, 1⟩
        remoteState := some ⟨true, false, some ⟨['0'], nofun⟩, none⟩ }).toOption,
      ⟨['2'], ['a'], 5, List.replicate 64 '0', .current⟩ ∈ store.catalog.fileReceipts.rows := by
    decide +kernel
  obtain ⟨store, hstore, hreceipt⟩ := hends
  have hrest := toOption_eq_some_iff.mp hstore
  have hstaged : Machine.Run RootStore.Step StagedVouches (RootStore.new .receiveOnly) _ :=
    (Machine.Run.refl.tail (.inventory (.stageItems [file 3])) (nofun) rfl).tail
      (.inventory (.commitSnapshot ⟨['0'], nofun⟩)) (fun _ => ⟨nofun, nofun⟩) rfl
  have hrun := hstaged.trans (Machine.Run.of_foldlM (fun op hop s hreplaces => by
    simp at hop
    rcases hop with rfl | rfl | rfl | rfl <;> cases hreplaces) hrest)
  exact ⟨store, _, hrun, hreceipt, rfl, (receipts_vouched _ _ hrun).1 _ hreceipt rfl⟩

/-! ## A rebaseline over a changed file -/

/-- The file `a`, at a size. -/
def rebaselineFile (size : ℕ) : RemoteItem :=
  ⟨['2'], some ['0'], ['a'], .file, some size, none, false⟩

/-- The materialization of the file `a` at a size. -/
def rebaselineMaterialization (size : ℕ) : FileMaterialization :=
  ⟨['2'], ['a'], size, List.replicate 64 '0'⟩

/-- The 64 pages of a window that does not end. -/
def rebaselinePages : List RootOperation :=
  (List.range 64).map fun i => .inventory (.stageWindowPage (.ofChar '1')
    (if i = 0 then none else some ⟨[Char.ofNat (0x4E00 + i)], nofun⟩)
    ⟨[], some ⟨[Char.ofNat (0x4E01 + i)], nofun⟩, none⟩)

/-- A root takes its snapshot at three bytes of `a`, materializes it and becomes two-way; the window
    that follows runs to 64 pages, and the rebaseline stages `a` at five bytes. -/
def rebaselineOperations : List RootOperation :=
  [.inventory (.stageItems [rebaselineFile 3]),
    .inventory (.commitSnapshot (.ofChar '0')),
    .inventory (.stageWindowPage (.ofChar '0') none ⟨[], none, some (.ofChar '1')⟩),
    .inventory (.commitWindow (.ofChar '0') (.ofChar '1') 0 []),
    .receipts (.recordFile (rebaselineMaterialization 3)),
    .localItems (.stageItems [⟨['a'], .file, some 3, 1, 1, 1, rfl, rfl⟩]),
    .localItems (.commitSnapshot 1),
    .updateMode .receiveOnly .twoWay]
  ++ rebaselinePages
  ++ [.inventory .clearStaging,
    .inventory (.stageItems [rebaselineFile 5]),
    .inventory (.commitRebaseline (.ofChar '1') 64 0 1 1 (.ofChar '2') 1)]

/-- The rebaseline leaves a current receipt of three bytes on a file of five. -/
theorem rebaseline_keeps_receipt :
    ∃ store, Machine.Run RootStore.Step (fun _ _ => True) (RootStore.new .receiveOnly) store ∧
      ∃ receipt ∈ store.catalog.fileReceipts.rows, receipt.receiptState = .current ∧
        ¬ ∃ row ∈ store.catalog.items.rows, row.remoteId = receipt.remoteId ∧
          row.itemKind = .file ∧ row.trashed = false ∧ row.sizeBytes = some receipt.sizeBytes := by
  have hends : ∃ store ∈ (rebaselineOperations.foldlM RootStore.apply
      (RootStore.new .receiveOnly)).toOption,
      ∃ receipt ∈ store.catalog.fileReceipts.rows, receipt.receiptState = .current ∧
        ¬ ∃ row ∈ store.catalog.items.rows, row.remoteId = receipt.remoteId ∧
          row.itemKind = .file ∧ row.trashed = false ∧ row.sizeBytes = some receipt.sizeBytes := by
    decide +kernel
  obtain ⟨store, hstore, hreceipt⟩ := hends
  have hrun := toOption_eq_some_iff.mp hstore
  exact ⟨store, Machine.Run.of_foldlM (fun _ _ _ => trivial) hrun, hreceipt⟩

end NubiSync
