import NubiSync.Library.PartialIndex
import NubiSync.Storage.ReceiptInvariant
import NubiSync.Storage.SettlementHistory

set_option autoImplicit false

/-! # What the receipts identify

The planners take the receipts of a root together: a remote id has one receipt, and a path one current
owner. The store keeps the receipts of files and of directories in two tables, each with its own primary
key and its own index on the paths of the current rows, and whoever writes into one of the tables looks
at that table only. -/

namespace NubiSync

open Checks

/-- The index `sync_root_file_materialization_current_path_idx`. -/
def fileReceiptIndex : PartialIndex FileReceiptRow Text where
  value := FileReceiptRow.relativePath
  selected receipt := receipt.receiptState = .current

/-- The index `sync_root_directory_materialization_current_path_idx`. -/
def directoryReceiptIndex : PartialIndex DirectoryReceiptRow Text where
  value := DirectoryReceiptRow.relativePath
  selected receipt := receipt.receiptState = .current

/-- Every table obeys its index, and the two tables are apart. -/
structure CatalogStore.ReceiptsIdentify (catalog : CatalogStore) : Prop where
  files : fileReceiptIndex.UniqueIn catalog.fileReceipts
  directories : directoryReceiptIndex.UniqueIn catalog.directoryReceipts
  apart : fileReceiptIndex.Apart directoryReceiptIndex catalog.fileReceipts
    catalog.directoryReceipts

instance : DecidablePred fileReceiptIndex.selected := fun receipt =>
  inferInstanceAs (Decidable (receipt.receiptState = .current))

instance : DecidablePred directoryReceiptIndex.selected := fun receipt =>
  inferInstanceAs (Decidable (receipt.receiptState = .current))

/-- The remote ids of the receipts. -/
def CatalogStore.receiptRemoteIds (catalog : CatalogStore) : List Text :=
  catalog.fileReceipts.rows.map FileReceiptRow.remoteId
    ++ catalog.directoryReceipts.rows.map DirectoryReceiptRow.remoteId

/-- The paths of the current receipts. -/
def CatalogStore.currentReceiptPaths (catalog : CatalogStore) : List Text :=
  (catalog.fileReceipts.rows.filter (·.receiptState = .current)).map FileReceiptRow.relativePath
    ++ (catalog.directoryReceipts.rows.filter (·.receiptState = .current)).map
      DirectoryReceiptRow.relativePath

/-- No remote id has two receipts, and no path two current ones. -/
theorem CatalogStore.receiptsIdentify_iff_nodup {catalog : CatalogStore} :
    catalog.ReceiptsIdentify ↔
      catalog.currentReceiptPaths.Nodup ∧ catalog.receiptRemoteIds.Nodup := by
  have hfiles := fileReceiptIndex.uniqueIn_iff_nodup catalog.fileReceipts
  have hdirectories := directoryReceiptIndex.uniqueIn_iff_nodup catalog.directoryReceipts
  have hapart := fileReceiptIndex.apart_iff_disjoint directoryReceiptIndex catalog.fileReceipts
    catalog.directoryReceipts
  simp only [currentReceiptPaths, receiptRemoteIds, List.nodup_append']
  constructor
  · rintro ⟨hunique, hunique', hdistinct⟩
    obtain ⟨hids, hpaths⟩ := hapart.mp hdistinct
    exact ⟨⟨hfiles.mp hunique, hdirectories.mp hunique', hpaths⟩,
      catalog.fileReceipts.nodup_keys, catalog.directoryReceipts.nodup_keys, hids⟩
  · rintro ⟨⟨hunique, hunique', hpaths⟩, -, -, hids⟩
    exact ⟨hfiles.mpr hunique, hdirectories.mpr hunique', hapart.mpr ⟨hids, hpaths⟩⟩

/-- The remote ids and paths of the file receipts that an operation writes. -/
def RootOperation.fileReceiptClaims : RootOperation → List (Text × Text)
  | .receipts (.recordFile file) => [(file.remoteId, file.relativePath)]
  | .receipts (.recordFiles files) => files.map fun file => (file.remoteId, file.relativePath)
  | .settle (.fileCreate input) => [(input.predeterminedRemoteId, input.promoted.relativePath)]
  | _ => []

/-- The remote ids and paths of the directory receipts that an operation writes. -/
def RootOperation.directoryReceiptClaims : RootOperation → List (Text × Text)
  | .receipts (.recordDirectories directories) =>
      directories.map fun directory => (directory.remoteId, directory.relativePath)
  | .settle (.folderCreate input) => [(input.predeterminedRemoteId, input.promoted.relativePath)]
  | _ => []

/-- The condition on a step: no receipt of the other kind has the remote id of a receipt that is written,
    and no current receipt of the other kind has its path. -/
structure ClaimsUnowned (store : RootStore) (op : RootOperation) : Prop where
  files : ∀ claim ∈ op.fileReceiptClaims, ∀ receipt ∈ store.catalog.directoryReceipts.rows,
    receipt.remoteId ≠ claim.1 ∧ (receipt.receiptState = .current → receipt.relativePath ≠ claim.2)
  directories : ∀ claim ∈ op.directoryReceiptClaims, ∀ receipt ∈ store.catalog.fileReceipts.rows,
    receipt.remoteId ≠ claim.1 ∧ (receipt.receiptState = .current → receipt.relativePath ≠ claim.2)

/-! ## Receipts that go stale or are deleted -/

/-- Receipts are deleted or go stale, and none is written. -/
def CatalogStore.ReceiptsShrink (catalog next : CatalogStore) : Prop :=
  fileReceiptIndex.Shrinks catalog.fileReceipts next.fileReceipts
    ∧ directoryReceiptIndex.Shrinks catalog.directoryReceipts next.directoryReceipts

namespace CatalogStore

variable {catalog next last : CatalogStore}

theorem ReceiptsShrink.refl (catalog : CatalogStore) : catalog.ReceiptsShrink catalog :=
  ⟨.refl _ _, .refl _ _⟩

theorem ReceiptsShrink.trans (h : catalog.ReceiptsShrink next) (h' : next.ReceiptsShrink last) :
    catalog.ReceiptsShrink last :=
  ⟨h.1.trans h'.1, h.2.trans h'.2⟩

theorem receiptsShrink_invalidateFiles (catalog : CatalogStore) (selected : Text → Bool) :
    catalog.ReceiptsShrink (catalog.invalidateFiles selected) := by
  refine ⟨.update _ (FileReceiptRow.remoteId_invalidate selected) (fun receipt => ?_)
    fun receipt hcurrent => ?_, .refl _ _⟩
  · simp only [fileReceiptIndex, FileReceiptRow.invalidate]
    split <;> rfl
  · simp only [fileReceiptIndex, FileReceiptRow.invalidate] at hcurrent ⊢
    split at hcurrent
    · cases hcurrent
    · exact hcurrent

theorem receiptsShrink_invalidateDirectories (catalog : CatalogStore) (selected : Text → Bool) :
    catalog.ReceiptsShrink (catalog.invalidateDirectories selected) := by
  refine ⟨.refl _ _, .update _ (DirectoryReceiptRow.remoteId_invalidate selected) (fun receipt => ?_)
    fun receipt hcurrent => ?_⟩
  · simp only [directoryReceiptIndex, DirectoryReceiptRow.invalidate]
    split <;> rfl
  · simp only [directoryReceiptIndex, DirectoryReceiptRow.invalidate] at hcurrent ⊢
    split at hcurrent
    · cases hcurrent
    · exact hcurrent

theorem receiptsShrink_invalidateSubtree (catalog : CatalogStore) (remoteId : Text) :
    catalog.ReceiptsShrink (catalog.invalidateMaterializationSubtree remoteId) :=
  (catalog.receiptsShrink_invalidateFiles _).trans (receiptsShrink_invalidateDirectories _ _)

theorem receiptsShrink_invalidateForUpsert (catalog : CatalogStore) (item : RemoteItem) :
    catalog.ReceiptsShrink (catalog.invalidateForUpsert item) := by
  generalize hafter : catalog.invalidateForUpsert item = after
  cases hafter ▸ upsertStales catalog item with
  | absent hnone => exact .refl catalog
  | inPlace row hrow hkind hplace => exact .refl catalog
  | subtree row hrow hkind => exact catalog.receiptsShrink_invalidateSubtree item.remoteId
  | file row hrow hkind => exact catalog.receiptsShrink_invalidateFiles _

/-- A mutation only ever stales receipts. -/
theorem ensures_applyMutation_shrinks (catalog : CatalogStore)
    (mutation : SyncRootCatalogMutation) :
    Ensures (catalog.applyMutation mutation) catalog.ReceiptsShrink := by
  cases mutation with
  | upsert item => exact .after fun _ => .ok (catalog.receiptsShrink_invalidateForUpsert item)
  | deleteSubtree remoteId => exact .ok (catalog.receiptsShrink_invalidateSubtree remoteId)

end CatalogStore

/-- So do the mutations of a commit. -/
theorem RootStore.Mutates.shrinks {store : RootStore} {mutations : List SyncRootCatalogMutation}
    {catalog : CatalogStore} (h : store.Mutates mutations catalog) :
    store.catalog.ReceiptsShrink catalog := by
  obtain ⟨applied, happlied, rfl⟩ := h
  have hshrinks := @Ensures.foldlM _ _ _ CatalogStore.applyCheckedMutation
    (fun _ => store.catalog.ReceiptsShrink) ?_ mutations [] store.catalog (.refl _)
  · exact hshrinks applied happlied
  · intro done mutation catalog hdone
    exact .check fun _ => (catalog.ensures_applyMutation_shrinks mutation).mono fun _ => hdone.trans

theorem InventoryOperation.ensures_receiptsShrink (store : RootStore) (op : InventoryOperation) :
    Ensures (op.apply store) fun next => store.catalog.ReceiptsShrink next.catalog := by
  have hsame := CatalogStore.ReceiptsShrink.refl store.catalog
  intro next h
  have heffect : CursorEffect store (.inventory op) next := InventoryOperation.cursorEffect h
  cases op with
  | clearStaging =>
      obtain rfl := Except.ok.inj h
      exact hsame
  | stageItems items =>
      obtain ⟨r, hr, hnext⟩ := bind_eq_ok.mp h
      obtain ⟨staging, -, hr⟩ := bind_eq_ok.mp hr
      cases hr
      cases hnext
      exact hsame
  | upsertItem item =>
      have hshrinks : Ensures (store.catalog.applyRemoteItem item) store.catalog.ReceiptsShrink := by
        unfold CatalogStore.applyRemoteItem
        split
        · exact .ok (store.catalog.receiptsShrink_invalidateSubtree item.remoteId)
        · exact .after fun _ => .ok (store.catalog.receiptsShrink_invalidateForUpsert item)
      obtain ⟨catalog, hcatalog, hnext⟩ := bind_eq_ok.mp h
      obtain rfl := Except.ok.inj hnext
      exact hshrinks catalog hcatalog
  | deleteSubtree remoteId =>
      obtain rfl := Except.ok.inj h
      exact store.catalog.receiptsShrink_invalidateSubtree remoteId
  -- of the operations on the cursors only the commits of mutations touch the receipts
  | commitBatch =>
      cases heffect with
      | kept _ _ hkept => cases hkept
      | batch _ _ _ state hcursor catalog hcatalog => exact hcatalog.shrinks
  | commitWindow =>
      cases heffect with
      | kept _ _ hkept => cases hkept
      | window _ _ _ _ _ _ _ _ _ _ _ state hcursor catalog hcatalog => exact hcatalog.shrinks
  | _ =>
      cases heffect with
      | kept _ _ hkept => cases hkept
      | _ => exact hsame

/-! ## Receipts that are written -/

/-- The remote id and the path of a file receipt. -/
def FileReceiptRow.claim (receipt : FileReceiptRow) : Text × Text :=
  (receipt.remoteId, receipt.relativePath)

/-- The remote id and the path of a directory receipt. -/
def DirectoryReceiptRow.claim (receipt : DirectoryReceiptRow) : Text × Text :=
  (receipt.remoteId, receipt.relativePath)

/-- File receipts with the claims are written, and the directory receipts stay. -/
def CatalogStore.FilesWritten (catalog : CatalogStore) (claims : List (Text × Text))
    (next : CatalogStore) : Prop :=
  ∃ rows, rows.map FileReceiptRow.claim = claims
    ∧ fileReceiptIndex.Written catalog.fileReceipts rows next.fileReceipts
    ∧ next.directoryReceipts = catalog.directoryReceipts

/-- Directory receipts with the claims are written, and the file receipts stay. -/
def CatalogStore.DirectoriesWritten (catalog : CatalogStore) (claims : List (Text × Text))
    (next : CatalogStore) : Prop :=
  ∃ rows, rows.map DirectoryReceiptRow.claim = claims
    ∧ directoryReceiptIndex.Written catalog.directoryReceipts rows next.directoryReceipts
    ∧ next.fileReceipts = catalog.fileReceipts

namespace CatalogStore

variable {catalog next : CatalogStore} {claims : List (Text × Text)}

theorem FilesWritten.refl (catalog : CatalogStore) : catalog.FilesWritten [] catalog :=
  ⟨[], rfl, .nil _ _, rfl⟩

theorem DirectoriesWritten.refl (catalog : CatalogStore) : catalog.DirectoriesWritten [] catalog :=
  ⟨[], rfl, .nil _ _, rfl⟩

/-- One more file receipt, current and at a path that no other current file receipt has. -/
theorem FilesWritten.upsert (h : catalog.FilesWritten claims next) (row : FileReceiptRow)
    (hcurrent : row.receiptState = .current)
    (hfree : ∀ r ∈ next.fileReceipts.rows, r.receiptState = .current →
      r.relativePath = row.relativePath → r.remoteId = row.remoteId) :
    catalog.FilesWritten (claims ++ [row.claim])
      { next with fileReceipts := next.fileReceipts.upsert row } := by
  obtain ⟨rows, rfl, hwritten, hsame⟩ := h
  exact ⟨rows ++ [row], List.map_append, hwritten.snoc hcurrent hfree, hsame⟩

/-- One more directory receipt, current and at a path that no other current directory receipt has. -/
theorem DirectoriesWritten.upsert (h : catalog.DirectoriesWritten claims next)
    (row : DirectoryReceiptRow) (hcurrent : row.receiptState = .current)
    (hfree : ∀ r ∈ next.directoryReceipts.rows, r.receiptState = .current →
      r.relativePath = row.relativePath → r.remoteId = row.remoteId) :
    catalog.DirectoriesWritten (claims ++ [row.claim])
      { next with directoryReceipts := next.directoryReceipts.upsert row } := by
  obtain ⟨rows, rfl, hwritten, hsame⟩ := h
  exact ⟨rows ++ [row], List.map_append, hwritten.snoc hcurrent hfree, hsame⟩

theorem ensures_recordFile_written (h : catalog.FilesWritten claims next)
    (file : FileMaterialization) :
    Ensures (next.recordFile file)
      (catalog.FilesWritten (claims ++ [(file.remoteId, file.relativePath)])) := by
  refine .after fun size => .after fun _ => .check fun hother => .ok ?_
  refine h.upsert ⟨file.remoteId, file.relativePath, size, file.sha256Hex, .current⟩ rfl ?_
  intro r hr hcurrent hpath
  simpa [hcurrent, hpath] using List.any_eq_false.mp hother r hr

theorem ensures_recordDirectory_written (h : catalog.DirectoriesWritten claims next)
    (directory : DirectoryMaterialization) :
    Ensures (next.recordDirectory directory)
      (catalog.DirectoriesWritten (claims ++ [(directory.remoteId, directory.relativePath)])) := by
  refine .after fun _ => .check fun hother => .ok ?_
  refine h.upsert ⟨directory.remoteId, directory.relativePath, .current⟩ rfl ?_
  intro r hr hcurrent hpath
  simpa [hcurrent, hpath] using List.any_eq_false.mp hother r hr

end CatalogStore

/-! ## One operation -/

/-- What an operation does to the receipts: it writes those it claims, of one kind and one for each remote
    id, or it writes none. -/
inductive ReceiptEffect (op : RootOperation) (catalog next : CatalogStore) : Prop where
  | shrinks (hshrinks : catalog.ReceiptsShrink next) (hfiles : op.fileReceiptClaims = [])
      (hdirectories : op.directoryReceiptClaims = [])
  | files (hwritten : catalog.FilesWritten op.fileReceiptClaims next)
      (hnodup : (op.fileReceiptClaims.map Prod.fst).Nodup) (hother : op.directoryReceiptClaims = [])
  | directories (hwritten : catalog.DirectoriesWritten op.directoryReceiptClaims next)
      (hnodup : (op.directoryReceiptClaims.map Prod.fst).Nodup) (hother : op.fileReceiptClaims = [])

theorem ReceiptOperation.ensures_effect (store : RootStore) (op : ReceiptOperation) :
    Ensures (op.apply store) fun next =>
      ReceiptEffect (.receipts op) store.catalog next.catalog := by
  cases op with
  | recordFile file =>
      refine .after fun _ => (CatalogStore.ensures_recordFile_written (.refl _) file).bind ?_
      exact fun catalog hwritten => .ok (.files hwritten (List.nodup_singleton _) rfl)
  | recordFiles files =>
      refine ensures_stateOf (.after fun _ => .check fun hdistinct => ?_)
      refine (@Ensures.foldlM _ _ _ CatalogStore.recordFile (fun done => store.catalog.FilesWritten
        (done.map fun file => (file.remoteId, file.relativePath))) ?_ files [] _ (.refl _)).bind ?_
      · intro done file catalog hdone
        rw [List.map_append]
        exact CatalogStore.ensures_recordFile_written hdone file
      · refine fun catalog hwritten => .ok (.files hwritten ?_ rfl)
        simp only [Bool.or_eq_false_iff, Bool.not_eq_false', decide_eq_true_eq] at hdistinct
        simpa [RootOperation.fileReceiptClaims, Function.comp_def] using hdistinct.1
  | recordDirectories directories =>
      refine ensures_stateOf (.after fun _ => .check fun hdistinct => ?_)
      refine (@Ensures.foldlM _ _ _ CatalogStore.recordDirectory (fun done =>
        store.catalog.DirectoriesWritten (done.map fun directory =>
          (directory.remoteId, directory.relativePath))) ?_ directories [] _ (.refl _)).bind ?_
      · intro done directory catalog hdone
        rw [List.map_append]
        exact CatalogStore.ensures_recordDirectory_written hdone directory
      · refine fun catalog hwritten => .ok (.directories hwritten ?_ rfl)
        simp only [Bool.or_eq_false_iff, Bool.not_eq_false', decide_eq_true_eq] at hdistinct
        simpa [RootOperation.directoryReceiptClaims, Function.comp_def] using hdistinct.1
  | deleteStaleFile remoteId => exact .ok (.shrinks ⟨.deleteWhere _ _ _, .refl _ _⟩ rfl rfl)
  | deleteStaleFiles remoteIds =>
      refine ensures_stateOf (.after fun _ => ?_)
      refine (@Ensures.foldlM _ _ _ _ (fun _ => store.catalog.ReceiptsShrink) ?_ remoteIds [] _
        (.refl _)).bind fun catalog hshrinks => .ok (.shrinks hshrinks rfl rfl)
      intro done remoteId catalog hdone
      exact .after fun _ => .ok (hdone.trans ⟨.deleteWhere _ _ _, .refl _ _⟩)
  | deleteStaleDirectory remoteId => exact .ok (.shrinks ⟨.refl _ _, .deleteWhere _ _ _⟩ rfl rfl)
  | deleteStaleDirectories remoteIds =>
      refine ensures_stateOf (.after fun _ => ?_)
      refine (@Ensures.foldlM _ _ _ _ (fun _ => store.catalog.ReceiptsShrink) ?_ remoteIds [] _
        (.refl _)).bind fun catalog hshrinks => .ok (.shrinks hshrinks rfl rfl)
      intro done remoteId catalog hdone
      exact .after fun _ => .ok (hdone.trans ⟨.refl _ _, .deleteWhere _ _ _⟩)

theorem SettlementOperation.ensures_effect (store : RootStore) (op : SettlementOperation) :
    Ensures (op.apply store) fun next => ReceiptEffect (.settle op) store.catalog next.catalog := by
  intro next h
  have hcreates := op.ensures_createsReceipt store next h
  cases op with
  | fileCreate input =>
      obtain ⟨receipt, hid, hpath, hnext, hcurrent, hfree⟩ := hcreates
      refine .files ?_ (List.nodup_singleton _) rfl
      have hwritten := (CatalogStore.FilesWritten.refl store.catalog).upsert receipt hcurrent
        fun r hr _ hsame => absurd hsame (hfree r hr).2
      rw [hnext]
      simpa [RootOperation.fileReceiptClaims, FileReceiptRow.claim, hid, hpath] using hwritten
  | folderCreate input =>
      obtain ⟨receipt, hid, hpath, hnext, hcurrent, hfree⟩ := hcreates
      refine .directories ?_ (List.nodup_singleton _) rfl
      have hwritten := (CatalogStore.DirectoriesWritten.refl store.catalog).upsert receipt hcurrent
        fun r hr hother hsame => absurd hsame ((hfree r hr).2 hother)
      rw [hnext]
      simpa [RootOperation.directoryReceiptClaims, DirectoryReceiptRow.claim, hid, hpath]
        using hwritten

variable {store next : RootStore} {op : RootOperation}

theorem RootStore.Step.receiptEffect (h : store.Step op next) :
    ReceiptEffect op store.catalog next.catalog := by
  have hsame : ∀ {next : RootStore}, next.catalog = store.catalog →
      store.catalog.ReceiptsShrink next.catalog := by
    intro next hcatalog
    rw [hcatalog]
    exact .refl _
  cases op with
  | updateMode expected mode =>
      refine .shrinks (hsame ?_) rfl rfl
      obtain rfl := Except.ok.inj h
      unfold RootStore.updateMode
      split <;> rfl
  | skipIds events intents =>
      obtain rfl := Except.ok.inj h
      exact .shrinks (.refl _) rfl rfl
  | inventory op => exact .shrinks (op.ensures_receiptsShrink store next h) rfl rfl
  | receipts op => exact op.ensures_effect store next h
  | localItems op => exact .shrinks (hsame (op.ensures_catalog store next h)) rfl rfl
  | authority op => exact .shrinks (hsame (op.ensures_catalog store next h)) rfl rfl
  | intents op => exact .shrinks (hsame (op.ensures_catalog store next h)) rfl rfl
  | settle op => exact op.ensures_effect store next h

/-- Where the receipts identify their items, exactly the steps of the condition keep it so. -/
theorem RootStore.Step.receiptsIdentify_iff (h : store.Step op next)
    (hidentify : store.catalog.ReceiptsIdentify) :
    next.catalog.ReceiptsIdentify ↔ ClaimsUnowned store op := by
  obtain ⟨hfiles, hdirectories, hapart⟩ := hidentify
  cases h.receiptEffect with
  | shrinks hshrinks hnone hnone' =>
      refine iff_of_true ⟨hfiles.shrinks hshrinks.1, hdirectories.shrinks hshrinks.2,
        hapart.shrinks hshrinks.1 hshrinks.2⟩ ⟨?_, ?_⟩
      · simp [hnone]
      · simp [hnone']
  | files hwritten hnodup hother =>
      obtain ⟨rows, hclaims, hrows, hsame⟩ := hwritten
      rw [← hclaims, List.map_map] at hnodup
      have hiff := hrows.apart_iff hnodup hapart
      rw [← hsame] at hiff hdirectories
      constructor
      · rintro ⟨-, -, hafter⟩
        exact ⟨hclaims ▸ hsame ▸ hiff.mp hafter, by simp [hother]⟩
      · intro hunowned
        exact ⟨hrows.unique hfiles, hdirectories, hiff.mpr (hclaims ▸ hsame ▸ hunowned.files)⟩
  | directories hwritten hnodup hother =>
      obtain ⟨rows, hclaims, hrows, hsame⟩ := hwritten
      rw [← hclaims, List.map_map] at hnodup
      have hiff := hrows.apart_iff hnodup hapart.symm
      rw [← hsame] at hiff hfiles
      constructor
      · rintro ⟨-, -, hafter⟩
        exact ⟨by simp [hother], hclaims ▸ hsame ▸ hiff.mp hafter.symm⟩
      · intro hunowned
        exact ⟨hfiles, hrows.unique hdirectories,
          (hiff.mpr (hclaims ▸ hsame ▸ hunowned.directories)).symm⟩

end NubiSync
