import NubiSync.Storage.SettlementWrites

set_option autoImplicit false

/-! # What an operation does to the catalog

One inversion for every operation: the catalog it leaves is reached by a sequence of the few writes of
`CatalogWrite`, each with what the operation had checked before it, or is the staged inventory. An
invariant of the catalog is then a short case analysis on the writes. -/

namespace NubiSync

open Checks Relation

/-! ## The writes -/

/-- One write to the catalog, with what was checked before it; the items it may upsert are given. -/
inductive CatalogWrite (upserts : RemoteItem → Prop) (catalog : CatalogStore) :
    CatalogStore → Prop where
  | count (itemCount : ℕ) : CatalogWrite upserts catalog { catalog with itemCount := itemCount }
  | upsert (item : RemoteItem) (hitem : upserts item) (hlive : item.trashed = false) :
      CatalogWrite upserts catalog
        ((catalog.invalidateForUpsert item).writeItem item item.sizeBytes)
  | deleteSubtree (remoteId : Text) :
      CatalogWrite upserts catalog (catalog.deleteSubtreeInTransaction remoteId)
  | fileReceipt (receipt : FileReceiptRow) (row : CatalogRow)
      (hrow : catalog.items.find? receipt.remoteId = some row) (hkind : row.itemKind = .file)
      (hlive : row.trashed = false) (hsize : row.sizeBytes = some receipt.sizeBytes) :
      CatalogWrite upserts catalog
        { catalog with fileReceipts := catalog.fileReceipts.upsert receipt }
  | directoryReceipt (receipt : DirectoryReceiptRow) (row : CatalogRow)
      (hrow : catalog.items.find? receipt.remoteId = some row) (hkind : row.itemKind = .folder)
      (hlive : row.trashed = false) :
      CatalogWrite upserts catalog
        { catalog with directoryReceipts := catalog.directoryReceipts.upsert receipt }
  | dropFile (remoteId : Text) : CatalogWrite upserts catalog (catalog.deleteStaleFile remoteId)
  | dropDirectory (remoteId : Text) :
      CatalogWrite upserts catalog (catalog.deleteStaleDirectory remoteId)

/-- A sequence of writes. -/
abbrev CatalogWrites (upserts : RemoteItem → Prop) : CatalogStore → CatalogStore → Prop :=
  ReflTransGen (CatalogWrite upserts)

variable {upserts : RemoteItem → Prop}

theorem ensures_foldlM_writes {α : Type} {f : CatalogStore → α → Except StorageError CatalogStore}
    {items : List α}
    (hf : ∀ a ∈ items, ∀ catalog, Ensures (f catalog a) (CatalogWrites upserts catalog))
    (catalog : CatalogStore) :
    Ensures (items.foldlM f catalog) (CatalogWrites upserts catalog) :=
  fun _ h => foldlM_invariant (fun a ha middle next hnext hwrites =>
    hwrites.trans (hf a ha middle next hnext)) h .refl

/-! ## Mutations -/

theorem ensures_upsertCatalogItem (catalog : CatalogStore) (item : RemoteItem)
    (hitem : upserts item) (hlive : item.trashed = false) :
    Ensures (catalog.upsertCatalogItem item) (CatalogWrites upserts catalog) := by
  intro next h
  obtain ⟨-, rfl⟩ := (upsertCatalogItem_eq_ok_iff catalog item next).mp h
  exact .single (.upsert item hitem hlive)

theorem ensures_applyCheckedMutation {mutations : List SyncRootCatalogMutation}
    (mutation : SyncRootCatalogMutation) (hmutation : mutation ∈ mutations)
    (catalog : CatalogStore) :
    Ensures (catalog.applyCheckedMutation mutation)
      (CatalogWrites (fun item => .upsert item ∈ mutations) catalog) := by
  refine .check fun hvalid => ?_
  cases mutation with
  | upsert item =>
      refine ensures_upsertCatalogItem catalog item hmutation ?_
      simp only [SyncRootCatalogMutation.isValid, Bool.not_not, Bool.or_eq_false_iff] at hvalid
      exact hvalid.1
  | deleteSubtree remoteId => exact .ok (.single (.deleteSubtree remoteId))

/-- The catalog a window commit leaves is the mutations applied in order, and counted. -/
theorem ensures_committedCatalog (store : RootStore) (base checkpoint : ChangeCursor) (count : ℕ)
    (mutations : List SyncRootCatalogMutation) :
    Ensures (store.commitCatalogChangeWindow base checkpoint count mutations) fun r =>
      store.Mutates mutations r.1.catalog := by
  refine .after fun changeCount => .after fun _ => ?_
  refine (ensures_commitMutations_cursor store base mutations checkpoint).bind ?_
  intro r ⟨state, catalog, _, hmutates, hr⟩
  exact .ok (by rw [hr]; exact hmutates)

theorem RootStore.Mutates.writes {store : RootStore} {mutations : List SyncRootCatalogMutation}
    {catalog : CatalogStore} (h : store.Mutates mutations catalog) :
    CatalogWrites (fun item => .upsert item ∈ mutations) store.catalog catalog := by
  obtain ⟨applied, happlied, rfl⟩ := h
  exact (ensures_foldlM_writes ensures_applyCheckedMutation store.catalog applied happlied).tail (.count _)

/-! ## Receipts -/

theorem ensures_checkFileItem (catalog : CatalogStore) (remoteId : Text) (sizeBytes : ℕ) :
    Ensures (catalog.checkFileItem remoteId sizeBytes) fun _ =>
      ∃ row, catalog.items.find? remoteId = some row ∧ row.itemKind = .file ∧ row.trashed = false ∧
        row.sizeBytes = some sizeBytes := by
  intro _ h
  obtain ⟨row, hrow, h⟩ := (orRefuse_bind_eq_ok _ _ _ _).mp h
  simp only [refuseIf_eq_ok, Bool.or_eq_false_iff, bne_eq_false_iff_eq] at h
  exact ⟨row, hrow, h.1.1, h.1.2, h.2⟩

theorem ensures_checkFolderItem (catalog : CatalogStore) (remoteId : Text) :
    Ensures (catalog.checkFolderItem remoteId) fun _ =>
      ∃ row, catalog.items.find? remoteId = some row ∧ row.itemKind = .folder ∧
        row.trashed = false := by
  intro _ h
  obtain ⟨row, hrow, h⟩ := (orRefuse_bind_eq_ok _ _ _ _).mp h
  simp only [refuseIf_eq_ok, Bool.or_eq_false_iff, bne_eq_false_iff_eq] at h
  exact ⟨row, hrow, h⟩

theorem ensures_recordFile (catalog : CatalogStore) (file : FileMaterialization) :
    Ensures (catalog.recordFile file) (CatalogWrites upserts catalog) := by
  refine .after fun size => (ensures_checkFileItem catalog file.remoteId size).bind ?_
  rintro - ⟨row, hrow, hkind, hlive, hsize⟩
  exact .after fun _ => .ok (.single (.fileReceipt _ row hrow hkind hlive hsize))

theorem ensures_recordDirectory (catalog : CatalogStore) (directory : DirectoryMaterialization) :
    Ensures (catalog.recordDirectory directory) (CatalogWrites upserts catalog) := by
  refine (ensures_checkFolderItem catalog directory.remoteId).bind ?_
  rintro - ⟨row, hrow, hkind, hlive⟩
  exact .after fun _ => .ok (.single (.directoryReceipt _ row hrow hkind hlive))

theorem ReceiptOperation.ensures_writes (store : RootStore) (op : ReceiptOperation) :
    Ensures (op.apply store) fun next => CatalogWrites upserts store.catalog next.catalog := by
  cases op with
  | recordFile file =>
      exact .after fun _ => (ensures_recordFile store.catalog file).bind fun _ h => .ok h
  | recordFiles files =>
      refine ensures_stateOf (.after fun _valid => .check fun _distinct => ?_)
      exact (ensures_foldlM_writes (fun file _ catalog => ensures_recordFile catalog file)
        store.catalog).bind fun _ h => .ok h
  | recordDirectories directories =>
      refine ensures_stateOf (.after fun _valid => .check fun _distinct => ?_)
      exact (ensures_foldlM_writes (fun directory _ catalog =>
        ensures_recordDirectory catalog directory) store.catalog).bind fun _ h => .ok h
  | deleteStaleFile remoteId => exact .ok (.single (.dropFile remoteId))
  | deleteStaleFiles remoteIds =>
      refine ensures_stateOf (.after fun _ => ?_)
      refine (ensures_foldlM_writes (fun remoteId _ catalog => ?_) store.catalog).bind
        fun _ h => .ok h
      exact .after fun _ => .ok (.single (.dropFile remoteId))
  | deleteStaleDirectory remoteId => exact .ok (.single (.dropDirectory remoteId))
  | deleteStaleDirectories remoteIds =>
      refine ensures_stateOf (.after fun _ => ?_)
      refine (ensures_foldlM_writes (fun remoteId _ catalog => ?_) store.catalog).bind
        fun _ h => .ok h
      exact .after fun _ => .ok (.single (.dropDirectory remoteId))

/-! ## Inventory operations -/

/-- The items an operation may upsert into the catalog. -/
def InventoryOperation.Upserts : InventoryOperation → RemoteItem → Prop
  | .commitBatch _ mutations _, item => .upsert item ∈ mutations
  | .commitWindow _ _ _ mutations, item => .upsert item ∈ mutations
  | .upsertItem reported, item => item = reported
  | _, _ => False

/-- The two commits that put the staged inventory in place of the catalog. -/
def InventoryOperation.replacesCatalog : InventoryOperation → Bool
  | .commitSnapshot _ | .commitRebaseline .. => true
  | _ => false

theorem InventoryOperation.ensures_writes (store : RootStore) (op : InventoryOperation)
    (hop : op.replacesCatalog = false) :
    Ensures (op.apply store) fun next => CatalogWrites op.Upserts store.catalog next.catalog := by
  intro next h
  have heffect : CursorEffect store (.inventory op) next := InventoryOperation.cursorEffect h
  cases op with
  | clearStaging =>
      obtain rfl := Except.ok.inj h
      exact .refl
  | stageItems items =>
      obtain ⟨r, hr, hnext⟩ := bind_eq_ok.mp h
      obtain ⟨staging, -, hr⟩ := bind_eq_ok.mp hr
      cases hr
      cases hnext
      exact .refl
  | commitSnapshot fence => cases hop
  | commitRebaseline => cases hop
  | stageWindowPage base continuation page =>
      cases heffect with
      | kept _ _ hkept => cases hkept
      | staged => exact .refl
  | discardWindow base =>
      cases heffect with
      | kept _ _ hkept => cases hkept
      | nothingToDiscard => exact .refl
      | discarded => exact .refl
  | commitBatch expected mutations cursor =>
      cases heffect with
      | kept _ _ hkept => cases hkept
      | batch _ _ _ state hcursor catalog hcatalog => exact hcatalog.writes
  | commitWindow base checkpoint changes mutations =>
      cases heffect with
      | kept _ _ hkept => cases hkept
      | window _ _ _ _ _ _ _ _ _ _ _ state hcursor catalog hcatalog => exact hcatalog.writes
  | upsertItem item =>
      obtain ⟨catalog, hcatalog, hnext⟩ := bind_eq_ok.mp h
      obtain rfl := Except.ok.inj hnext
      refine ReflTransGen.tail ?_ (.count _)
      unfold CatalogStore.applyRemoteItem at hcatalog
      split at hcatalog
      · obtain rfl := Except.ok.inj hcatalog
        exact .single (.deleteSubtree item.remoteId)
      · next hlive =>
          have hwrites : Ensures (store.catalog.upsertCatalogItem item)
              (CatalogWrites (· = item) store.catalog) :=
            ensures_upsertCatalogItem store.catalog item rfl (by simpa using hlive)
          exact hwrites catalog hcatalog
  | deleteSubtree remoteId =>
      obtain rfl := Except.ok.inj h
      exact (ReflTransGen.single (.deleteSubtree remoteId)).tail (.count _)

theorem InventoryOperation.ensures_replaced (store : RootStore) (op : InventoryOperation)
    (hop : op.replacesCatalog = true) :
    Ensures (op.apply store) fun next => ∃ itemCount, next.catalog = store.replacedCatalog itemCount := by
  intro next h
  have heffect : CursorEffect store (.inventory op) next := InventoryOperation.cursorEffect h
  cases op with
  | commitSnapshot =>
      cases heffect with
      | kept _ _ hkept => cases hkept
      | snapshot fence itemCount => exact ⟨itemCount, rfl⟩
  | commitRebaseline =>
      cases heffect with
      | kept _ _ hkept => cases hkept
      | rebaseline _ _ _ _ _ fence completedAt itemCount => exact ⟨itemCount, rfl⟩
  | _ => cases hop

/-! ## Settlements -/

theorem SettlementOperation.ensures_writes (store : RootStore) (op : SettlementOperation) :
    Ensures (op.apply store) fun next => CatalogWrites upserts store.catalog next.catalog := by
  cases op with
  | fileCreate input =>
      refine ensures_stateOf ((ensures_fileSettled store input).mono ?_)
      rintro r ⟨-, -, size, -, ⟨hcatalog, -⟩, row, hrow, hkind, hlive, hsize⟩
      rw [hcatalog]
      exact .single (.fileReceipt _ row hrow hkind hlive hsize)
  | folderCreate input =>
      refine ensures_stateOf ((ensures_folderSettled store input).mono ?_)
      rintro r ⟨-, -, ⟨hcatalog, -⟩, row, hrow, hkind, hlive⟩
      rw [hcatalog]
      exact .single (.directoryReceipt _ row hrow hkind hlive)

/-! ## Any operation -/

/-- The operations that put the staged inventory in place of the catalog. -/
def RootOperation.replacesCatalog : RootOperation → Bool
  | .inventory op => op.replacesCatalog
  | _ => false

/-- The items an operation may upsert into the catalog. -/
def RootOperation.Upserts : RootOperation → RemoteItem → Prop
  | .inventory op, item => op.Upserts item
  | _, _ => False

/-- Every other operation leaves the catalog to a sequence of writes. -/
theorem RootStore.Step.writes {store next : RootStore} {op : RootOperation}
    (h : store.Step op next) (hop : op.replacesCatalog = false) :
    CatalogWrites op.Upserts store.catalog next.catalog := by
  cases op with
  | updateMode expected mode =>
      obtain rfl := Except.ok.inj h
      unfold RootStore.updateMode
      split <;> exact .refl
  | skipIds events intents =>
      obtain rfl := Except.ok.inj h
      exact .refl
  | inventory op => exact op.ensures_writes store hop next h
  | receipts op => exact op.ensures_writes store next h
  | localItems op => rw [op.ensures_catalog store next h]
  | authority op => rw [op.ensures_catalog store next h]
  | intents op => rw [op.ensures_catalog store next h]
  | settle op => exact op.ensures_writes store next h

/-- A snapshot or a rebaseline leaves the staged rows under the receipts there were. -/
theorem RootStore.Step.replaced {store next : RootStore} {op : RootOperation}
    (h : store.Step op next) (hop : op.replacesCatalog = true) :
    ∃ itemCount, next.catalog = store.replacedCatalog itemCount := by
  cases op with
  | inventory op => exact op.ensures_replaced store hop next h
  | _ => cases hop

end NubiSync
