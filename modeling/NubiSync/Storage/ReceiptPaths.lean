import NubiSync.Storage.ReceiptInvariant

set_option autoImplicit false

/-! # Receipt paths follow the catalog

A receipt keeps the path at which its item was materialized, while the catalog keeps names and parent
links. A window moves items in any order, and what it invalidates is the subtree as it is linked at that
moment. The invariant that survives this is about single receipts: as long as a receipt is current, no
row between its item and the root has been touched, so the path still leads through the same folders
(`FolderPath`). The tree as a whole need not be one in between. -/

namespace NubiSync

open Checks Relation

/-! ## Catalog paths -/

section Paths

/-- The names joined along the parent links from the root down to an item. -/
inductive CatalogPath (items : Table CatalogRow.remoteId) (root : Text) : Text → Text → Prop where
  | top {id : Text} {row : CatalogRow} (hrow : items.find? id = some row)
      (hparent : row.parentRemoteId = some root) : CatalogPath items root id row.name
  | child {id parent path : Text} {row : CatalogRow} (hrow : items.find? id = some row)
      (hparent : row.parentRemoteId = some parent) (hne : parent ≠ root)
      (hpath : CatalogPath items root parent path) :
      CatalogPath items root id (path.child row.name)

/-- A catalog path all of whose inner items are folders. -/
inductive FolderPath (items : Table CatalogRow.remoteId) (root : Text) : Text → Text → Prop where
  | top {id : Text} {row : CatalogRow} (hrow : items.find? id = some row)
      (hparent : row.parentRemoteId = some root) : FolderPath items root id row.name
  | child {id parent path : Text} {row above : CatalogRow} (hrow : items.find? id = some row)
      (hparent : row.parentRemoteId = some parent) (hne : parent ≠ root)
      (habove : items.find? parent = some above) (hfolder : above.itemKind = .folder)
      (hpath : FolderPath items root parent path) : FolderPath items root id (path.child row.name)

/-- The catalog is a tree under the root: every item leads to it along the parent links. -/
structure TreeUnder (items : Table CatalogRow.remoteId) (root : Text) : Prop where
  root_absent : items.find? root = none
  rooted : ∀ row ∈ items.rows, ∃ path, CatalogPath items root row.remoteId path

/-- Only folders have children. -/
def OnlyFoldersHold (items : Table CatalogRow.remoteId) : Prop :=
  ∀ row ∈ items.rows, ∀ parent ∈ items.rows, row.parentRemoteId = some parent.remoteId →
    parent.itemKind = .folder

variable {items : Table CatalogRow.remoteId} {root id path : Text}

theorem CatalogPath.unique {path' : Text} (h : CatalogPath items root id path)
    (h' : CatalogPath items root id path') : path = path' := by
  induction h generalizing path' with
  | top hrow hparent =>
      cases h' with
      | top hrow' _ =>
          obtain rfl := Option.some.inj (hrow.symm.trans hrow')
          rfl
      | child hrow' hparent' hne _ =>
          obtain rfl := Option.some.inj (hrow.symm.trans hrow')
          exact absurd (Option.some.inj (hparent'.symm.trans hparent)) hne
  -- a parent id is either that of the root or not, so both paths took the same rule
  | child hrow hparent hne _ ih =>
      cases h' with
      | top hrow' hparent' =>
          obtain rfl := Option.some.inj (hrow.symm.trans hrow')
          exact absurd (Option.some.inj (hparent.symm.trans hparent')) hne
      | child hrow' hparent' _ hpath' =>
          obtain rfl := Option.some.inj (hrow.symm.trans hrow')
          obtain rfl := Option.some.inj (hparent.symm.trans hparent')
          rw [ih hpath']

theorem CatalogPath.exists_row (h : CatalogPath items root id path) :
    ∃ row, items.find? id = some row := by
  cases h with
  | top hrow _ => exact ⟨_, hrow⟩
  | child hrow _ _ _ => exact ⟨_, hrow⟩

theorem FolderPath.catalogPath (h : FolderPath items root id path) : CatalogPath items root id path := by
  induction h with
  | top hrow hparent => exact .top hrow hparent
  | child hrow hparent hne _ _ _ ih => exact .child hrow hparent hne ih

theorem CatalogPath.folderPath (hfolders : OnlyFoldersHold items) (h : CatalogPath items root id path) :
    FolderPath items root id path := by
  induction h with
  | top hrow hparent => exact .top hrow hparent
  | @child id parent path row hrow hparent hne hpath ih =>
      obtain ⟨above, habove⟩ := hpath.exists_row
      obtain ⟨hmem, -⟩ := Table.find?_eq_some_iff.mp hrow
      obtain ⟨hmemAbove, hid⟩ := Table.find?_eq_some_iff.mp habove
      have hfolder := hfolders row hmem above hmemAbove (by rw [hparent, hid])
      exact .child hrow hparent hne habove hfolder ih

/-! ## What lies on a path -/

/-- One step up from an item, short of the root. -/
def Climbs (items : Table CatalogRow.remoteId) (root child parent : Text) : Prop :=
  items.Link CatalogRow.parentRemoteId child parent ∧ parent ≠ root

/-- The items on the way from an item to the root, itself included. -/
abbrev OnPath (items : Table CatalogRow.remoteId) (root : Text) : Text → Text → Prop :=
  ReflTransGen (Climbs items root)

theorem mem_subtreeIds_iff_links (items : Table CatalogRow.remoteId) (remoteId id : Text) :
    id ∈ subtreeIds items remoteId ↔
      ReflTransGen (items.Link CatalogRow.parentRemoteId) id remoteId :=
  items.mem_subtreeKeys_iff_links CatalogRow.parentRemoteId remoteId id

theorem OnPath.links {above : Text} (h : OnPath items root id above) :
    ReflTransGen (items.Link CatalogRow.parentRemoteId) id above :=
  ReflTransGen.mono (fun _ _ hclimb => hclimb.1) _ _ h

/-- An item lies in the subtree of everything on its path. -/
theorem OnPath.mem_subtree {above : Text} (h : OnPath items root id above) :
    id ∈ subtreeIds items above :=
  (mem_subtreeIds_iff_links items above id).mpr h.links

/-- A subtree that has something on the path of an item has the item too. -/
theorem OnPath.mem_subtree_of {above remoteId : Text} (h : OnPath items root id above)
    (habove : above ∈ subtreeIds items remoteId) : id ∈ subtreeIds items remoteId := by
  rw [mem_subtreeIds_iff_links] at habove ⊢
  exact h.links.trans habove

theorem FolderPath.folder_above (h : FolderPath items root id path) {above : Text}
    (habove : OnPath items root id above) :
    above = id ∨ ∃ row, items.find? above = some row ∧ row.itemKind = .folder := by
  induction h with
  | top hrow hparent =>
      rcases ReflTransGen.cases_head habove with rfl | ⟨next, ⟨hlink, hne⟩, -⟩
      · exact Or.inl rfl
      · rw [Table.Link, hrow, Option.map_some, hparent] at hlink
        exact absurd (Option.some.inj (Option.some.inj hlink)).symm hne
  | child hrow hparent _ hfolderRow hfolder _ ih =>
      rcases ReflTransGen.cases_head habove with rfl | ⟨next, ⟨hlink, -⟩, hrest⟩
      · exact Or.inl rfl
      · right
        rw [Table.Link, hrow, Option.map_some, hparent] at hlink
        obtain rfl := Option.some.inj (Option.some.inj hlink)
        rcases ih hrest with rfl | hrow'
        · exact ⟨_, hfolderRow, hfolder⟩
        · exact hrow'

/-- **The frame rule of paths**: what leaves every row on a path in its place leaves the path. -/
theorem FolderPath.frame {items' : Table CatalogRow.remoteId} (h : FolderPath items root id path)
    (hsame : ∀ above row, OnPath items root id above → items.find? above = some row →
      (items'.find? above).map CatalogRow.place = some row.place) :
    FolderPath items' root id path := by
  induction h with
  | @top id row hrow hparent =>
      obtain ⟨row', hrow', hplace⟩ := Option.map_eq_some_iff.mp (hsame id row .refl hrow)
      obtain ⟨hparent', hname, -⟩ : row'.parentRemoteId = row.parentRemoteId ∧
        row'.name = row.name ∧ row'.itemKind = row.itemKind := by simpa [CatalogRow.place] using hplace
      rw [← hname]
      exact .top hrow' (hparent'.trans hparent)
  | @child id parent path row above hrow hparent hne habove hfolder hpath ih =>
      obtain ⟨row', hrow', hplace⟩ := Option.map_eq_some_iff.mp (hsame id row .refl hrow)
      obtain ⟨hparent', hname, -⟩ : row'.parentRemoteId = row.parentRemoteId ∧
        row'.name = row.name ∧ row'.itemKind = row.itemKind := by simpa [CatalogRow.place] using hplace
      -- what stands above the parent stands above the item as well
      have hclimb : Climbs items root id parent := by
        refine ⟨?_, hne⟩
        rw [Table.Link, hrow, Option.map_some, hparent]
      obtain ⟨above', habove', hplaceAbove⟩ :=
        Option.map_eq_some_iff.mp (hsame parent above (.single hclimb) habove)
      have hkind : above'.itemKind = above.itemKind := by
        simpa [CatalogRow.place] using congrArg (fun place => place.2.2) hplaceAbove
      rw [← hname]
      refine .child hrow' (hparent'.trans hparent) hne habove' (hkind.trans hfolder) (ih ?_)
      intro other otherRow hother
      exact hsame other otherRow (ReflTransGen.head hclimb hother)

end Paths

/-! ## Current receipts -/

section Receipts

variable {catalog : CatalogStore} {root : Text}

/-- A current receipt for an item of a kind, with its path. -/
def CatalogStore.HoldsCurrent (catalog : CatalogStore) : RemoteItemKind → Text → Text → Prop
  | .file, id, path =>
      ∃ receipt, catalog.CurrentFile receipt ∧ receipt.remoteId = id ∧ receipt.relativePath = path
  | .folder, id, path =>
      ∃ receipt, catalog.CurrentDirectory receipt ∧ receipt.remoteId = id ∧
        receipt.relativePath = path

/-- The path of every current receipt leads through folders to an item of the receipt's kind. -/
def CatalogStore.PathsHeld (catalog : CatalogStore) (root : Text) : Prop :=
  ∀ kind id path, catalog.HoldsCurrent kind id path →
    (∃ row, catalog.items.find? id = some row ∧ row.itemKind = kind) ∧
      FolderPath catalog.items root id path

theorem holdsCurrent_invalidateSubtree {remoteId id path : Text} {kind : RemoteItemKind}
    (h : (catalog.invalidateMaterializationSubtree remoteId).HoldsCurrent kind id path) :
    catalog.HoldsCurrent kind id path ∧ id ∉ subtreeIds catalog.items remoteId := by
  cases kind with
  | file =>
      obtain ⟨receipt, hcurrent, rfl, hpath⟩ := h
      obtain ⟨hbefore, houtside⟩ := currentFile_invalidateSubtree hcurrent
      exact ⟨⟨receipt, hbefore, rfl, hpath⟩, houtside⟩
  | folder =>
      obtain ⟨receipt, hcurrent, rfl, hpath⟩ := h
      obtain ⟨hbefore, houtside⟩ := currentDirectory_invalidateSubtree hcurrent
      exact ⟨⟨receipt, hbefore, rfl, hpath⟩, houtside⟩

/-- **What an upsert leaves current**: over a file, no receipt of that file; over a folder that does not
    stay in its place, no receipt in its subtree. -/
theorem holdsCurrent_invalidateForUpsert {item : RemoteItem} {id path : Text} {kind : RemoteItemKind}
    (h : (catalog.invalidateForUpsert item).HoldsCurrent kind id path) :
    catalog.HoldsCurrent kind id path ∧
    ∀ existing, catalog.items.find? item.remoteId = some existing →
      (existing.itemKind = .file → kind = .file → id ≠ item.remoteId) ∧
      (existing.itemKind = .folder → id ∈ subtreeIds catalog.items item.remoteId →
        existing.place = item.place) := by
  cases kind with
  | file =>
      obtain ⟨receipt, hcurrent, rfl, hpath⟩ := h
      obtain ⟨hbefore, hkept⟩ := currentFile_invalidateForUpsert hcurrent
      refine ⟨⟨receipt, hbefore, rfl, hpath⟩, ?_⟩
      intro existing hexisting
      obtain ⟨hfile, hfolder⟩ := hkept existing hexisting
      exact ⟨fun hkind _ => hfile hkind, hfolder⟩
  | folder =>
      obtain ⟨receipt, hcurrent, rfl, hpath⟩ := h
      obtain ⟨hbefore, hkept⟩ := currentDirectory_invalidateForUpsert hcurrent
      refine ⟨⟨receipt, hbefore, rfl, hpath⟩, ?_⟩
      intro existing hexisting
      exact ⟨nofun, hkept existing hexisting⟩

/-! ## One mutation -/

theorem CatalogStore.PathsHeld.upsert (h : catalog.PathsHeld root) (item : RemoteItem)
    (sizeBytes : Option ℕ) {kind : RemoteItemKind} {id path : Text}
    (hcurrent : ((catalog.invalidateForUpsert item).writeItem item sizeBytes).HoldsCurrent kind id path) :
    catalog.HoldsCurrent kind id path ∧ (kind = .file → id ≠ item.remoteId) ∧
      (∃ row, ((catalog.invalidateForUpsert item).writeItem item sizeBytes).items.find? id = some row ∧
        row.itemKind = kind) ∧
      FolderPath ((catalog.invalidateForUpsert item).writeItem item sizeBytes).items root id path := by
  obtain ⟨hbefore, hkept⟩ :
      catalog.HoldsCurrent kind id path ∧ _ := holdsCurrent_invalidateForUpsert hcurrent
  obtain ⟨⟨row, hrow, hkind⟩, hpath⟩ := h kind id path hbefore
  have hsame : ∀ above aboveRow, OnPath catalog.items root id above →
      catalog.items.find? above = some aboveRow →
      (((catalog.invalidateForUpsert item).writeItem item sizeBytes).items.find? above).map
        CatalogRow.place = some aboveRow.place := by
    intro above aboveRow habove haboveRow
    rw [find?_writeItem, items_invalidateForUpsert]
    by_cases hid : item.remoteId = above
    · subst hid
      rw [if_pos rfl, Option.map_some]
      cases haboveKind : aboveRow.itemKind with
      | folder =>
          rw [(hkept aboveRow haboveRow).2 haboveKind habove.mem_subtree]
          rfl
      | file =>
          -- a file on the path is the item itself, and then its receipt is no longer current
          exfalso
          rcases hpath.folder_above habove with hself | ⟨folder, hfolder, hfolderKind⟩
          · rw [hself, hrow] at haboveRow
            obtain rfl := Option.some.inj haboveRow
            exact (hkept row (by rw [hself]; exact hrow)).1 haboveKind
              (hkind.symm.trans haboveKind) hself.symm
          · rw [haboveRow] at hfolder
            obtain rfl := Option.some.inj hfolder
            rw [haboveKind] at hfolderKind
            cases hfolderKind
    · rw [if_neg hid, haboveRow]
      rfl
  refine ⟨hbefore, ?_, ?_, hpath.frame hsame⟩
  · intro hkindFile hid
    exact (hkept row (hid ▸ hrow)).1 (hkind.trans hkindFile) hkindFile hid
  · obtain ⟨row', hrow', hplace⟩ := Option.map_eq_some_iff.mp (hsame id row .refl hrow)
    refine ⟨row', hrow', ?_⟩
    rw [← hkind]
    simpa [CatalogRow.place] using congrArg (fun place => place.2.2) hplace

theorem CatalogStore.PathsHeld.deleteSubtree (h : catalog.PathsHeld root) (remoteId : Text)
    {kind : RemoteItemKind} {id path : Text}
    (hcurrent : (catalog.deleteSubtreeInTransaction remoteId).HoldsCurrent kind id path) :
    catalog.HoldsCurrent kind id path ∧
      (∃ row, (catalog.deleteSubtreeInTransaction remoteId).items.find? id = some row ∧
        row.itemKind = kind) ∧
      FolderPath (catalog.deleteSubtreeInTransaction remoteId).items root id path := by
  obtain ⟨hbefore, houtside⟩ :
      catalog.HoldsCurrent kind id path ∧ id ∉ subtreeIds catalog.items remoteId :=
    holdsCurrent_invalidateSubtree hcurrent
  obtain ⟨⟨row, hrow, hkind⟩, hpath⟩ := h kind id path hbefore
  have hsame : ∀ above aboveRow, OnPath catalog.items root id above →
      catalog.items.find? above = some aboveRow →
      ((catalog.deleteSubtreeInTransaction remoteId).items.find? above) = some aboveRow := by
    intro above aboveRow habove haboveRow
    -- had a row above it been deleted, the item itself would have been, and its receipt staled
    rw [find?_deleteSubtreeInTransaction, if_neg fun hin => houtside (habove.mem_subtree_of hin)]
    exact haboveRow
  refine ⟨hbefore, ⟨row, hsame id row .refl hrow, hkind⟩,
    hpath.frame fun above aboveRow habove hrow' => ?_⟩
  rw [hsame above aboveRow habove hrow']
  rfl

/-- What a mutation that has been applied leaves current, and where. -/
theorem CatalogStore.PathsHeld.mutation (h : catalog.PathsHeld root) {next : CatalogStore}
    {mutation : SyncRootCatalogMutation} (happly : catalog.applyMutation mutation = .ok next)
    {kind : RemoteItemKind} {id path : Text} (hcurrent : next.HoldsCurrent kind id path) :
    catalog.HoldsCurrent kind id path ∧
      (kind = .file → ∀ item, mutation = .upsert item → id ≠ item.remoteId) ∧
      (∃ row, next.items.find? id = some row ∧ row.itemKind = kind) ∧
      FolderPath next.items root id path := by
  cases mutation with
  | upsert item =>
      obtain ⟨-, rfl⟩ := (upsertCatalogItem_eq_ok_iff catalog item next).mp happly
      obtain ⟨hbefore, hother, hrow, hpath⟩ := h.upsert item item.sizeBytes hcurrent
      refine ⟨hbefore, ?_, hrow, hpath⟩
      rintro hkind _ ⟨⟩
      exact hother hkind
  | deleteSubtree remoteId =>
      obtain rfl := Except.ok.inj happly
      obtain ⟨hbefore, hrow, hpath⟩ := h.deleteSubtree remoteId hcurrent
      exact ⟨hbefore, nofun, hrow, hpath⟩

/-- The run lemma, by induction on the mutations. -/
theorem CatalogStore.PathsHeld.mutations {mutations : List SyncRootCatalogMutation}
    (h : catalog.PathsHeld root) {next : CatalogStore}
    (happly : mutations.foldlM CatalogStore.applyCheckedMutation catalog = .ok next) :
    next.PathsHeld root ∧ ∀ id path, next.HoldsCurrent .file id path →
      catalog.HoldsCurrent .file id path ∧
        ∀ item, .upsert item ∈ mutations → id ≠ item.remoteId := by
  induction mutations generalizing catalog with
  | nil =>
      obtain rfl := Except.ok.inj happly
      exact ⟨h, fun id path hcurrent => ⟨hcurrent, by simp⟩⟩
  | cons mutation rest ih =>
      rw [List.foldlM_cons] at happly
      obtain ⟨middle, hfirst, hrest⟩ := bind_eq_ok.mp happly
      obtain ⟨-, hmutation⟩ := (refuseIf_bind_eq_ok _ _ _ _).mp hfirst
      have hmiddle : middle.PathsHeld root := by
        intro kind id path hcurrent
        obtain ⟨-, -, hrow, hpath⟩ := h.mutation hmutation hcurrent
        exact ⟨hrow, hpath⟩
      obtain ⟨hnext, hkept⟩ := ih hmiddle hrest
      refine ⟨hnext, ?_⟩
      intro id path hcurrent
      -- what is current in the end was current all along, so the first mutation spared it too
      obtain ⟨hcurrentMiddle, hothers⟩ := hkept id path hcurrent
      obtain ⟨hbefore, hfirstItem, -, -⟩ := h.mutation hmutation hcurrentMiddle
      refine ⟨hbefore, ?_⟩
      intro item hitem
      rcases List.mem_cons.mp hitem with hitem | hitem
      · exact hfirstItem rfl item hitem.symm
      · exact hothers item hitem

end Receipts

/-! ## The commit of a window -/

/-- Every current receipt has the catalog path of its item. -/
structure CatalogStore.ReceiptsAtPaths (catalog : CatalogStore) (root : Text) : Prop where
  files : ∀ receipt, catalog.CurrentFile receipt →
    CatalogPath catalog.items root receipt.remoteId receipt.relativePath
  directories : ∀ receipt, catalog.CurrentDirectory receipt →
    CatalogPath catalog.items root receipt.remoteId receipt.relativePath

/-- The item of a current receipt is of its kind: recording a receipt asks for it. -/
structure CatalogStore.ReceiptsOfKind (catalog : CatalogStore) : Prop where
  files : ∀ receipt, catalog.CurrentFile receipt →
    ∀ row ∈ catalog.items.rows, row.remoteId = receipt.remoteId → row.itemKind = .file
  directories : ∀ receipt, catalog.CurrentDirectory receipt →
    ∀ row ∈ catalog.items.rows, row.remoteId = receipt.remoteId → row.itemKind = .folder

/-- What is said of the receipts that are current after a window: their items are still catalogued, at
    the paths of the receipts, and a file receipt is about a file that no mutation upserted. -/
structure CatalogStore.ReceiptsFollow (catalog : CatalogStore) (root : Text)
    (mutations : List SyncRootCatalogMutation) : Prop where
  files : ∀ receipt, catalog.CurrentFile receipt →
    (∃ row ∈ catalog.items.rows, row.remoteId = receipt.remoteId ∧ row.itemKind = .file) ∧
    CatalogPath catalog.items root receipt.remoteId receipt.relativePath ∧
    ∀ item, .upsert item ∈ mutations → item.remoteId ≠ receipt.remoteId
  directories : ∀ receipt, catalog.CurrentDirectory receipt →
    (∃ row ∈ catalog.items.rows, row.remoteId = receipt.remoteId) ∧
    CatalogPath catalog.items root receipt.remoteId receipt.relativePath

theorem CatalogStore.pathsHeld {catalog : CatalogStore} {root : Text}
    (hfolders : OnlyFoldersHold catalog.items) (hpaths : catalog.ReceiptsAtPaths root)
    (hkinds : catalog.ReceiptsOfKind) : catalog.PathsHeld root := by
  intro kind id path hcurrent
  cases kind with
  | file =>
      obtain ⟨receipt, hreceipt, rfl, rfl⟩ := hcurrent
      have hpath := hpaths.files receipt hreceipt
      obtain ⟨row, hrow⟩ := hpath.exists_row
      obtain ⟨hmem, hid⟩ := Table.find?_eq_some_iff.mp hrow
      exact ⟨⟨row, hrow, hkinds.files receipt hreceipt row hmem hid⟩, hpath.folderPath hfolders⟩
  | folder =>
      obtain ⟨receipt, hreceipt, rfl, rfl⟩ := hcurrent
      have hpath := hpaths.directories receipt hreceipt
      obtain ⟨row, hrow⟩ := hpath.exists_row
      obtain ⟨hmem, hid⟩ := Table.find?_eq_some_iff.mp hrow
      exact ⟨⟨row, hrow, hkinds.directories receipt hreceipt row hmem hid⟩,
        hpath.folderPath hfolders⟩

/-- **Receipt paths follow the catalog.** Where only folders have children and every current receipt has
    the path of an item of its kind, every receipt still current after a window of any mutations has the
    path of its item again, and a file receipt is about a file that none of them upserted. -/
theorem receipts_follow_catalog (root : Text) (store next : RootStore)
    (base checkpoint : ChangeCursor) (count : ℕ) (mutations : List SyncRootCatalogMutation)
    (commit : SyncRootCatalogBatchCommit) (hfolders : OnlyFoldersHold store.catalog.items)
    (hpaths : store.catalog.ReceiptsAtPaths root) (hkinds : store.catalog.ReceiptsOfKind)
    (h : store.commitCatalogChangeWindow base checkpoint count mutations = .ok (next, commit)) :
    next.catalog.ReceiptsFollow root mutations := by
  obtain ⟨applied, happlied, hcatalog⟩ := ensures_committedCatalog _ _ _ _ _ _ h
  obtain ⟨hheld, hfiles⟩ := (CatalogStore.pathsHeld hfolders hpaths hkinds).mutations happlied
  rw [hcatalog]
  refine ⟨?_, ?_⟩
  · intro receipt hcurrent
    have hholds : applied.HoldsCurrent .file receipt.remoteId receipt.relativePath :=
      ⟨receipt, hcurrent, rfl, rfl⟩
    obtain ⟨⟨row, hrow, hkind⟩, hpath⟩ := hheld _ _ _ hholds
    obtain ⟨hmem, hid⟩ := Table.find?_eq_some_iff.mp hrow
    refine ⟨⟨row, hmem, hid, hkind⟩, hpath.catalogPath, ?_⟩
    intro item hitem hsame
    exact (hfiles _ _ hholds).2 item hitem hsame.symm
  · intro receipt hcurrent
    have hholds : applied.HoldsCurrent .folder receipt.remoteId receipt.relativePath :=
      ⟨receipt, hcurrent, rfl, rfl⟩
    obtain ⟨⟨row, hrow, -⟩, hpath⟩ := hheld _ _ _ hholds
    obtain ⟨hmem, hid⟩ := Table.find?_eq_some_iff.mp hrow
    exact ⟨⟨row, hmem, hid⟩, hpath.catalogPath⟩

/-! A folder `d` with the file `a`, and the file `b` beside it, all materialized; the window brings a
revision of `b`. -/

def revisedItem : RemoteItem := ⟨['4'], some ['0'], ['b'], .file, some 2, none, false⟩

/-- The catalog, with the size of `b` and the state of its receipt. -/
def revisedCatalog (sizeBytes : ℕ) (state : ReceiptState) : CatalogStore :=
  ⟨.ofRows [⟨['2'], some ['0'], ['d'], .folder, none, false⟩,
      ⟨['3'], some ['2'], ['a'], .file, some 1, false⟩,
      ⟨['4'], some ['0'], ['b'], .file, some sizeBytes, false⟩],
    .ofRows [⟨['3'], ['d', '/', 'a'], 1, List.replicate 64 '0', .current⟩,
      ⟨['4'], ['b'], 1, List.replicate 64 '0', state⟩],
    .ofRows [⟨['2'], ['d'], .current⟩], 3⟩

def revisingStore : RootStore :=
  { RootStore.new .receiveOnly with
    catalog := revisedCatalog 1 .current
    remoteState := some ⟨true, true, some (.ofChar '0'), some (.ofChar '1')⟩
    windowState := some ⟨.ofChar '1', none, some (.ofChar '2'), 1, 1⟩
    windowEvents := [.upsert revisedItem] }

theorem receipts_follow_catalog_revision :
    (revisedCatalog 2 .stale).ReceiptsFollow ['0'] [.upsert revisedItem] := by
  let revised : RootStore :=
    { RootStore.new .receiveOnly with
      catalog := revisedCatalog 2 .stale
      remoteState := some ⟨true, true, some ⟨['0'], nofun⟩, some ⟨['2'], nofun⟩⟩ }
  have hrowD : (revisedCatalog 1 .current).items.find? ['2']
    = some ⟨['2'], some ['0'], ['d'], .folder, none, false⟩ := by rfl
  have hrowA : (revisedCatalog 1 .current).items.find? ['3']
    = some ⟨['3'], some ['2'], ['a'], .file, some 1, false⟩ := by rfl
  have hrowB : (revisedCatalog 1 .current).items.find? ['4']
    = some ⟨['4'], some ['0'], ['b'], .file, some 1, false⟩ := by rfl
  have hd : CatalogPath (revisedCatalog 1 .current).items ['0'] ['2'] ['d'] := .top hrowD rfl
  have ha : CatalogPath (revisedCatalog 1 .current).items ['0'] ['3'] (Text.child ['d'] ['a']) :=
    .child hrowA rfl (by decide) hd
  have hb : CatalogPath (revisedCatalog 1 .current).items ['0'] ['4'] ['b'] := .top hrowB rfl
  refine receipts_follow_catalog ['0'] revisingStore revised ⟨['1'], nofun⟩ ⟨['2'], nofun⟩ 1
    [.upsert revisedItem] ⟨1, 3, false⟩ ?_ ⟨?_, ?_⟩ ⟨?_, ?_⟩ (by rfl)
  · unfold OnlyFoldersHold
    decide
  · rintro receipt ⟨hmem, -⟩
    replace hmem : receipt ∈ [_, _] := hmem
    simp only [List.mem_cons, List.not_mem_nil, or_false] at hmem
    rcases hmem with rfl | rfl
    · exact ha
    · exact hb
  · rintro receipt ⟨hmem, -⟩
    obtain rfl := List.mem_singleton.mp hmem
    exact hd
  · rintro receipt ⟨hmem, -⟩
    revert receipt
    show ∀ receipt ∈ (revisedCatalog 1 .current).fileReceipts.rows,
      ∀ row ∈ (revisedCatalog 1 .current).items.rows, row.remoteId = receipt.remoteId →
        row.itemKind = .file
    decide
  · rintro receipt ⟨hmem, -⟩
    revert receipt
    show ∀ receipt ∈ (revisedCatalog 1 .current).directoryReceipts.rows,
      ∀ row ∈ (revisedCatalog 1 .current).items.rows, row.remoteId = receipt.remoteId →
        row.itemKind = .folder
    decide

/-! ## What the two conditions are for -/

/-- Receipts follow the catalog through every window of a root that has come to a tree with every
    receipt at its path, under a further assumption on the catalog. -/
def ReceiptsFollowWhen (assumed : CatalogStore → Prop) : Prop :=
  ∀ (mode : SyncMode) (root : Text) (store next : RootStore) (base checkpoint : ChangeCursor)
    (count : ℕ) (mutations : List SyncRootCatalogMutation) (commit : SyncRootCatalogBatchCommit),
    Machine.Run RootStore.Step (fun _ _ => True) (RootStore.new mode) store →
    TreeUnder store.catalog.items root → store.catalog.ReceiptsAtPaths root →
    assumed store.catalog →
    store.commitCatalogChangeWindow base checkpoint count mutations = .ok (next, commit) →
    next.catalog.ReceiptsFollow root mutations

/-- The item `2` of the root, under a name and of a kind. -/
def retypedItem (name : Text) (kind : RemoteItemKind) : RemoteItem :=
  ⟨['2'], some ['0'], name, kind, none, none, false⟩

/-- The window that renames it to `g`. -/
def renamingPage : RootOperation :=
  .inventory (.stageWindowPage (.ofChar '1') none
    ⟨[.upsert (retypedItem ['g'] .file)], none, some (.ofChar '2')⟩)

/-- The root before the renaming is committed, and after. -/
def renamingStore (catalog : CatalogStore) : RootStore :=
  { RootStore.new .receiveOnly with
    catalog := catalog
    remoteState := some ⟨true, true, some (.ofChar '0'), some (.ofChar '1')⟩
    windowState := some ⟨.ofChar '1', none, some (.ofChar '2'), 1, 1⟩
    windowEvents := [.upsert (retypedItem ['g'] .file)] }

def renamedStore (catalog : CatalogStore) : RootStore :=
  { RootStore.new .receiveOnly with
    catalog := catalog
    remoteState := some ⟨true, true, some (.ofChar '0'), some (.ofChar '2')⟩ }

/-- A folder `f` with a file `c` becomes a file, and `c` is materialized again. -/
def fileInFileOperations : List RootOperation :=
  [.inventory (.stageItems [retypedItem ['f'] .folder,
      ⟨['3'], some ['2'], ['c'], .file, some 1, none, false⟩]),
    .inventory (.commitSnapshot (.ofChar '0')),
    .inventory (.stageWindowPage (.ofChar '0') none
      ⟨[.upsert (retypedItem ['f'] .file)], none, some (.ofChar '1')⟩),
    .inventory (.commitWindow (.ofChar '0') (.ofChar '1') 1 [.upsert (retypedItem ['f'] .file)]),
    .receipts (.recordFile ⟨['3'], ['f', '/', 'c'], 1, List.replicate 64 '0'⟩), renamingPage]

/-- The file `2`, under a name, with the file `c` in it. -/
def fileInFile (name : Text) : CatalogStore :=
  ⟨.ofRows [⟨['3'], some ['2'], ['c'], .file, some 1, false⟩,
      ⟨['2'], some ['0'], name, .file, none, false⟩],
    .ofRows [⟨['3'], ['f', '/', 'c'], 1, List.replicate 64 '0', .current⟩], ∅, 2⟩

/-- A materialized folder `f` that a second snapshot reports as a file. -/
def folderReceiptOperations : List RootOperation :=
  [.inventory (.stageItems [retypedItem ['f'] .folder]),
    .inventory (.commitSnapshot (.ofChar '0')),
    .receipts (.recordDirectories [⟨['2'], ['f']⟩]),
    .inventory .clearStaging,
    .inventory (.stageItems [retypedItem ['f'] .file]),
    .inventory (.commitSnapshot (.ofChar '0')),
    .inventory (.stageWindowPage (.ofChar '0') none ⟨[], none, some (.ofChar '1')⟩),
    .inventory (.commitWindow (.ofChar '0') (.ofChar '1') 0 []), renamingPage]

/-- The file `2`, under a name, with the receipt of the folder it was. -/
def folderReceipt (name : Text) : CatalogStore :=
  ⟨.ofRows [⟨['2'], some ['0'], name, .file, none, false⟩], ∅, .ofRows [⟨['2'], ['f'], .current⟩], 1⟩

theorem fileInFile_parent (name : Text) :
    CatalogPath (fileInFile name).items ['0'] ['2'] name := by
  have hrow : (fileInFile name).items.find? ['2']
    = some ⟨['2'], some ['0'], name, .file, none, false⟩ := by rfl
  exact .top hrow rfl

theorem fileInFile_path (name : Text) :
    CatalogPath (fileInFile name).items ['0'] ['3'] (Text.child name ['c']) := by
  have hrow : (fileInFile name).items.find? ['3']
    = some ⟨['3'], some ['2'], ['c'], .file, some 1, false⟩ := by rfl
  exact .child hrow rfl (by decide) (fileInFile_parent name)

theorem folderReceipt_path (name : Text) :
    CatalogPath (folderReceipt name).items ['0'] ['2'] name := by
  have hrow : (folderReceipt name).items.find? ['2']
    = some ⟨['2'], some ['0'], name, .file, none, false⟩ := by rfl
  exact .top hrow rfl

/-- **A renamed file leaves receipts behind** when it has a child, or when the receipt is that of a
    folder: only the file receipt of the file itself is invalidated. -/
theorem receipts_left_behind :
    ¬ ReceiptsFollowWhen CatalogStore.ReceiptsOfKind ∧
    ¬ ReceiptsFollowWhen fun catalog => OnlyFoldersHold catalog.items := by
  refine ⟨?_, ?_⟩
  · intro hfollow
    have hrun : fileInFileOperations.foldlM RootStore.apply (RootStore.new .receiveOnly)
      = .ok (renamingStore (fileInFile ['f'])) := by rfl
    have hafter := hfollow .receiveOnly ['0'] (renamingStore (fileInFile ['f']))
      (renamedStore (fileInFile ['g'])) ⟨['1'], nofun⟩ ⟨['2'], nofun⟩ 1
      [.upsert (retypedItem ['g'] .file)] ⟨1, 2, false⟩
      (Machine.Run.of_foldlM (fun _ _ _ => trivial) hrun) ⟨by rfl, ?_⟩ ⟨?_, nofun⟩ ⟨?_, nofun⟩ (by rfl)
    · obtain ⟨-, hpath, -⟩ := hafter.files
        ⟨['3'], ['f', '/', 'c'], 1, List.replicate 64 '0', .current⟩ ⟨by decide, rfl⟩
      exact absurd (hpath.unique (fileInFile_path ['g'])) (by decide)
    · intro row hrow
      replace hrow : row ∈ [_, _] := hrow
      simp only [List.mem_cons, List.not_mem_nil, or_false] at hrow
      rcases hrow with rfl | rfl
      · exact ⟨_, fileInFile_path ['f']⟩
      · exact ⟨_, fileInFile_parent ['f']⟩
    · rintro receipt ⟨hmem, -⟩
      obtain rfl := List.mem_singleton.mp hmem
      exact fileInFile_path ['f']
    · rintro receipt ⟨hmem, -⟩
      obtain rfl := List.mem_singleton.mp hmem
      decide
  · intro hfollow
    have hrun : folderReceiptOperations.foldlM RootStore.apply (RootStore.new .receiveOnly)
      = .ok (renamingStore (folderReceipt ['f'])) := by rfl
    have hafter := hfollow .receiveOnly ['0'] (renamingStore (folderReceipt ['f']))
      (renamedStore (folderReceipt ['g'])) ⟨['1'], nofun⟩ ⟨['2'], nofun⟩ 1
      [.upsert (retypedItem ['g'] .file)] ⟨1, 1, false⟩
      (Machine.Run.of_foldlM (fun _ _ _ => trivial) hrun) ⟨by rfl, ?_⟩ ⟨nofun, ?_⟩ ?_ (by rfl)
    · obtain ⟨-, hpath⟩ := hafter.directories ⟨['2'], ['f'], .current⟩ ⟨by decide, rfl⟩
      exact absurd (hpath.unique (folderReceipt_path ['g'])) (by decide)
    · intro row hrow
      obtain rfl := List.mem_singleton.mp hrow
      exact ⟨_, folderReceipt_path ['f']⟩
    · rintro receipt ⟨hmem, -⟩
      obtain rfl := List.mem_singleton.mp hmem
      exact folderReceipt_path ['f']
    · unfold OnlyFoldersHold
      decide

end NubiSync
