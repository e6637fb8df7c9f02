import NubiSync.Daemon.ChangeWindows
import NubiSync.Drive.FolderInventory

set_option autoImplicit false

/-! # The inventory of a root

A root gets its catalog from an inventory of everything below it: the first snapshot and every rebaseline
list the tree folder by folder, stage what they list, and promote the staged rows. The staged rows are
what the listing showed, and the projection of the root accepts them. -/

namespace NubiSync

open Checks Transactions

/-! ## Pages -/

structure SelectedRootInventoryPage where
  items : List RemoteItem
  continuation : Option ContinuationToken
  unsupportedProviderNative : ℕ

/-- `SelectedRootBootstrapProvider`. The answers of a provider may change, so they depend on the number of
    the request. -/
structure SelectedRootBootstrapProvider where
  listChildrenPage : ℕ → Text → Option ContinuationToken →
    Except SelectedRootExecutorError SelectedRootInventoryPage

/-- `validate_bootstrap_item`, with the ids seen after it. -/
def validateBootstrapItem (expectedParentRemoteId : Text) (item : RemoteItem)
    (seenRemoteIds : List Text) : Except SelectedRootExecutorError (List Text) := do
  refuseIf (item.remoteId.isBlank || item.name.isEmpty || item.trashed) .bootstrapInvalidItem
  refuseIf (item.parentRemoteId != some expectedParentRemoteId) .bootstrapParentMismatch
  refuseIf (seenRemoteIds.contains item.remoteId) .bootstrapDuplicateRemoteId
  .ok (item.remoteId :: seenRemoteIds)

/-! ## The traversal -/

/-- What an inventory has listed and staged. -/
structure BootstrapProgress where
  store : RootStore
  seenRemoteIds : List Text
  supportedItems : ℕ
  unsupportedProviderNative : ℕ

/-- One round of the loop over the items of a page. -/
def admitBootstrapItem (parentRemoteId : Text) (progress : BootstrapProgress) (item : RemoteItem) :
    Except SelectedRootExecutorError BootstrapProgress := do
  let seenRemoteIds ← validateBootstrapItem parentRemoteId item progress.seenRemoteIds
  let supportedItems ← orRefuse (checkedAddU64 progress.supportedItems 1)
    .bootstrapSafetyLimitExceeded
  refuseIf (decide (supportedItems > maxListedItems)) .bootstrapSafetyLimitExceeded
  .ok { progress with seenRemoteIds := seenRemoteIds, supportedItems := supportedItems }

/-- What an inventory does with a page. -/
def takeBootstrapPage (progress : BootstrapProgress) (parentRemoteId : Text)
    (page : SelectedRootInventoryPage) : ExecutorTrace BootstrapProgress := do
  let unsupported ← executorRead (orRefuse
    (checkedAddU64 progress.unsupportedProviderNative page.unsupportedProviderNative)
    .bootstrapSafetyLimitExceeded)
  let progress ← executorRead (page.items.foldlM (admitBootstrapItem parentRemoteId)
    { progress with unsupportedProviderNative := unsupported })
  let (store, _) ← executorCommit (progress.store.stageRemoteInventoryItems page.items)
  pure { progress with store := store }

/-- The pages of an inventory. -/
def inventoryListing (provider : SelectedRootBootstrapProvider) :
    FolderListing RootStore (Halt SelectedRootExecutorError) Text ContinuationToken
      SelectedRootInventoryPage BootstrapProgress where
  request number parentRemoteId continuation :=
    (provider.listChildrenPage number parentRemoteId continuation).mapError .failed
  take := takeBootstrapPage
  folders page := folderIds page.items
  continuation := SelectedRootInventoryPage.continuation
  tooManyPages := .failed .bootstrapSafetyLimitExceeded
  repeatedToken := .failed .bootstrapPaginationLoop

structure BootstrapTraversal where
  supportedItems : ℕ
  folderPages : ℕ
  unsupportedProviderNative : ℕ
  deriving DecidableEq, Repr

def stageSelectedRootInventory (provider : SelectedRootBootstrapProvider) (store : RootStore)
    (canonicalRootId : Text) : ExecutorTrace (RootStore × BootstrapTraversal) := do
  let (progress, folderPages) ← (inventoryListing provider).visit maxFolderPages 0 []
    canonicalRootId none [] ⟨store, [canonicalRootId], 0, 0⟩
  pure (progress.store,
    ⟨progress.supportedItems, folderPages, progress.unsupportedProviderNative⟩)

/-! ## What is staged -/

/-- New rows are staged in their order. -/
theorem insertInventoryItem_ensures {staging : Table CatalogRow.remoteId} {before : List RemoteItem}
    (hrows : staging.rows = before.map RemoteItem.storedRow) (items : List RemoteItem) :
    Ensures (items.foldlM insertInventoryItem staging) fun staging' =>
      ((before ++ items).map RemoteItem.remoteId).Nodup →
        staging'.rows = (before ++ items).map RemoteItem.storedRow := by
  refine @Ensures.foldlM _ _ _ insertInventoryItem (fun done staging =>
    (done.map RemoteItem.remoteId).Nodup → staging.rows = done.map RemoteItem.storedRow) ?_ _ _ _
      fun _ => hrows
  intro done item staging hdone staging' hstaged hnodup
  rw [List.map_append, List.nodup_append] at hnodup
  obtain ⟨sizeBytes, hsize, hwritten⟩ := bind_eq_ok.mp hstaged
  obtain ⟨-, rfl⟩ := toI64?_eq_ok_iff.mp hsize
  obtain rfl := Except.ok.inj hwritten
  have habsent : staging.find? item.remoteId = none := by
    rw [Table.find?_eq_none_iff, hdone hnodup.1]
    rintro row hrow hsame
    obtain ⟨other, hother, rfl⟩ := List.mem_map.mp hrow
    exact hnodup.2.2 _ (List.mem_map_of_mem hother) item.remoteId (by simp) hsame
  rw [Table.rows_upsert_of_absent habsent, hdone hnodup.1, List.map_append]
  rfl

theorem stageRemoteInventoryItems_ensures {store : RootStore} {before : List RemoteItem}
    (hrows : store.remoteStaging.rows = before.map RemoteItem.storedRow) {items : List RemoteItem}
    (hnodup : ((before ++ items).map RemoteItem.remoteId).Nodup) :
    Ensures (store.stageRemoteInventoryItems items) fun written =>
      written.1.remoteStaging.rows = (before ++ items).map RemoteItem.storedRow :=
  .bind (insertInventoryItem_ensures hrows items) fun _ hstaging => .ok (hstaging hnodup)

theorem validateBootstrapItem_ensures (expectedParentRemoteId : Text) (item : RemoteItem)
    (seenRemoteIds : List Text) :
    Ensures (validateBootstrapItem expectedParentRemoteId item seenRemoteIds) fun seen =>
      item.Admissible expectedParentRemoteId seenRemoteIds
        ∧ seen = item.remoteId :: seenRemoteIds := by
  unfold validateBootstrapItem
  refine .check fun hitem => .check fun hparent => .check fun hseen => .ok ⟨?_, rfl⟩
  simp only [Bool.or_eq_false_iff] at hitem
  exact ⟨hitem.1.1, by simpa using hitem.1.2, hitem.2, by simpa using hparent, by simpa using hseen⟩

/-! ## The inventory as a traversal -/

variable {provider : SelectedRootBootstrapProvider} {root : Text}

/-- What an inventory has counted before an item: the items of a tree below the root. -/
structure BootstrapProgress.Counts (progress : BootstrapProgress) (root : Text)
    (listed : List RemoteItem) : Prop where
  tree : Listed root progress.seenRemoteIds listed
  supportedItems : progress.supportedItems = listed.length

/-- What an inventory has staged after a page: the items counted. -/
structure BootstrapProgress.Stages (progress : BootstrapProgress) (root : Text)
    (listed : List RemoteItem) : Prop extends progress.Counts root listed where
  rows : progress.store.remoteStaging.rows = listed.map RemoteItem.storedRow

theorem admitBootstrapItem_ensures {progress : BootstrapProgress} {before : List RemoteItem}
    {parentRemoteId : Text} (h : progress.Counts root before)
    (hparent : Known root before parentRemoteId) (item : RemoteItem) :
    Ensures (admitBootstrapItem parentRemoteId progress item) fun progress' =>
      progress'.Counts root (before ++ [item]) ∧ progress'.store = progress.store := by
  unfold admitBootstrapItem
  refine .bind (validateBootstrapItem_ensures _ _ _) ?_
  rintro seen ⟨hadmissible, rfl⟩
  refine .present fun supported hsupported => .check fun _ =>
    .ok ⟨⟨h.tree.admitted hparent hadmissible, ?_⟩, rfl⟩
  rw [eq_add_of_checkedAddU64 hsupported, h.supportedItems, List.length_append]
  rfl

theorem takeBootstrapPage_leaves {progress : BootstrapProgress} {before : List RemoteItem}
    {parentRemoteId : Text} (h : progress.Stages root before)
    (hparent : Known root before parentRemoteId) (page : SelectedRootInventoryPage) :
    (takeBootstrapPage progress parentRemoteId page).Leaves (fun _ => True) fun progress' =>
      progress'.Stages root (before ++ page.items) := by
  unfold takeBootstrapPage executorRead executorCommit
  refine .read_bind fun unsupported _ => .read_bind fun counted hcounted => ?_
  have hitems := @Ensures.foldlM _ _ _ (admitBootstrapItem parentRemoteId)
    (fun done progress' => progress'.Counts root done ∧ Known root done parentRemoteId
      ∧ progress'.store = progress.store) ?_ page.items before
    { progress with unsupportedProviderNative := unsupported }
    ⟨⟨h.tree, h.supportedItems⟩, hparent, rfl⟩
  · obtain ⟨hcounts, -, hstore⟩ := hitems counted (mapError_eq_ok.mp hcounted)
    have hrows : counted.store.remoteStaging.rows = before.map RemoteItem.storedRow := by
      rw [hstore]
      exact h.rows
    refine .commit_bind fun store count hstaged => ⟨trivial, .pure ⟨⟨hcounts.1, hcounts.2⟩, ?_⟩⟩
    exact stageRemoteInventoryItems_ensures hrows hcounts.tree.grown.nodup _
      (mapError_eq_ok.mp (mapError_eq_ok.mp hstaged))
  · rintro done item progress ⟨hcounts, hknown, hstore⟩
    exact (admitBootstrapItem_ensures hcounts hknown item).mono fun progress' h =>
      ⟨h.1, hknown.append [item], h.2.trans hstore⟩

/-- Every page of an inventory is staged, and only folders of the listed tree are listed. -/
theorem inventoryListing_visit (left : ℕ) {progress : BootstrapProgress}
    (h : progress.Stages root []) :
    ((inventoryListing provider).visit left 0 [] root none [] progress).Leaves (fun _ => True)
      fun out => ∃ pages, (inventoryListing provider).Visited 0 [] root none pages
        ∧ out.2 = pages.length
        ∧ out.1.Stages root (pages.flatMap SelectedRootInventoryPage.items) := by
  have hvisit := @FolderListing.visit_leaves _ _ _ _ _ _ (inventoryListing provider) _
    (fun _ => True) (fun frontier progress pages =>
      progress.Stages root (pages.flatMap SelectedRootInventoryPage.items)
        ∧ ∀ id ∈ frontier, Known root (pages.flatMap SelectedRootInventoryPage.items) id)
    (fun parent queue progress pages hall => ⟨hall.1, fun id hid => hall.2 id (.tail _ hid)⟩) ?_
    left 0 [] root none [] progress [] ⟨h, by simp [Known]⟩
  · refine hvisit.mono (fun _ => id) fun out hout => ?_
    obtain ⟨pages, hvisited, hcount, hstages, -⟩ := hout
    exact ⟨pages, hvisited, hcount.trans (Nat.zero_add _), hstages⟩
  · rintro number parent queue continuation progress pages page ⟨hstages, hknown⟩ -
    rw [List.flatMap_append, List.flatMap_singleton]
    refine (takeBootstrapPage_leaves hstages (hknown parent List.mem_cons_self) page).mono
      (fun _ => id) fun progress' hprogress' => ⟨hprogress', ?_⟩
    exact known_folders hknown

/-- An inventory that returns has listed a tree below the root and staged the items of it. -/
theorem stageSelectedRootInventory_ensures (provider : SelectedRootBootstrapProvider)
    (store : RootStore) (root : Text) :
    Ensures (stageSelectedRootInventory provider store.clearRemoteInventoryStaging root).result
      fun out => ∃ pages seenRemoteIds,
        (inventoryListing provider).Visited 0 [] root none pages
          ∧ Listed root seenRemoteIds (pages.flatMap SelectedRootInventoryPage.items)
          ∧ out.1.remoteStaging.rows =
            (pages.flatMap SelectedRootInventoryPage.items).map RemoteItem.storedRow
          ∧ out.2.supportedItems = (pages.flatMap SelectedRootInventoryPage.items).length
          ∧ out.2.folderPages = pages.length := by
  have hstart : (⟨store.clearRemoteInventoryStaging, [root], 0, 0⟩ : BootstrapProgress).Stages
      root [] := ⟨⟨.start root, rfl⟩, rfl⟩
  refine (Trace.Leaves.bind (inventoryListing_visit maxFolderPages hstart) ?_).result
  rintro ⟨progress, folderPages⟩ ⟨pages, hvisited, rfl, hstages⟩
  exact .pure ⟨pages, progress.seenRemoteIds, hvisited, hstages.tree, hstages.rows,
    hstages.supportedItems, rfl⟩

/-- An inventory asks for 100,000 pages at most. -/
theorem stageSelectedRootInventory_congr {provider provider' : SelectedRootBootstrapProvider}
    (h : ∀ n < maxFolderPages, provider.listChildrenPage n = provider'.listChildrenPage n)
    (store : RootStore) (root : Text) :
    stageSelectedRootInventory provider store root =
      stageSelectedRootInventory provider' store root := by
  have hrequest : ∀ n < 0 + maxFolderPages,
      (inventoryListing provider).request n = (inventoryListing provider').request n := by
    intro n hn
    rw [Nat.zero_add] at hn
    simp only [inventoryListing, h n hn]
  have hsame := (inventoryListing provider).visit_congr hrequest [] root none [] ⟨store, [root], 0, 0⟩
  unfold stageSelectedRootInventory
  rw [hsame]
  rfl

/-! ## Both traversals -/

/-- **Traversals list trees.** Whatever a provider puts on its pages, an inventory that returns has staged
    the listed items, each once, and the projection accepts them below the root; a hydration that
    returns is accepted as one of its folder. Neither asks for more than 100,000 pages. -/
theorem traversals_list_trees :
    (∀ (provider : SelectedRootBootstrapProvider) (store staged : RootStore)
      (canonicalRootId : Text) (traversal : BootstrapTraversal), canonicalRootId.isBlank = false →
      (stageSelectedRootInventory provider store.clearRemoteInventoryStaging canonicalRootId).result
        = .ok (staged, traversal) →
      ∃ pages, (inventoryListing provider).Visited 0 [] canonicalRootId none pages ∧
        ∃ listed, listed = pages.flatMap SelectedRootInventoryPage.items
          ∧ staged.remoteStaging.rows = listed.map RemoteItem.storedRow
          ∧ (listed.map RemoteItem.remoteId).Nodup
          ∧ traversal.supportedItems = listed.length
          ∧ ∃ p, RootCatalogProjection.new canonicalRootId listed = .ok p)
      ∧ (∀ (listFolderChildrenPage : FolderChildren) (rootItem : RemoteItem)
        (hydration : DriveSubtreeHydration),
        hydrateFolderSubtree listFolderChildrenPage rootItem = .ok hydration →
        (∃ pages,
          (hydrationListing listFolderChildrenPage).Visited 0 [] rootItem.remoteId none pages
            ∧ hydration.items = rootItem :: pages.flatMap DriveInventoryPage.items)
          ∧ validateHydration rootItem hydration.items = .ok ())
      ∧ (∀ (provider provider' : SelectedRootBootstrapProvider) (store : RootStore)
        (canonicalRootId : Text),
        (∀ n < 100_000, provider.listChildrenPage n = provider'.listChildrenPage n) →
        stageSelectedRootInventory provider store canonicalRootId =
          stageSelectedRootInventory provider' store canonicalRootId)
      ∧ ∀ (listFolderChildrenPage listFolderChildrenPage' : FolderChildren) (rootItem : RemoteItem),
        (∀ n < 100_000, listFolderChildrenPage n = listFolderChildrenPage' n) →
        hydrateFolderSubtree listFolderChildrenPage rootItem =
          hydrateFolderSubtree listFolderChildrenPage' rootItem := by
  refine ⟨?_, ?_, fun _ _ store root h => stageSelectedRootInventory_congr h store root,
    fun _ _ rootItem h => hydrateFolderSubtree_congr h rootItem⟩
  · intro provider store staged root traversal hroot hstaged
    obtain ⟨pages, seen, hvisited, hlisted, hrows, hcount, -⟩ :=
      stageSelectedRootInventory_ensures provider store root _ hstaged
    exact ⟨pages, hvisited, _, rfl, hrows, hlisted.grown.nodup, hcount, hlisted.accepted hroot⟩
  · intro list rootItem hydration hhydration
    obtain ⟨⟨pages, hvisited, -, hitems⟩, htree⟩ :=
      hydrateFolderSubtree_ensures list rootItem _ hhydration
    exact ⟨⟨pages, hvisited, hitems⟩, (validateHydration_iff rootItem _).mpr htree⟩

/-- What a root `0` lists on two pages, a folder `D` and a file `A`, and what the folder lists, a file `F`. -/
def samplePage : Text → Option ContinuationToken → List RemoteItem × Option ContinuationToken
  | ['0'], none => ([⟨['D'], some ['0'], ['d'], .folder, none, none, false⟩], some (.ofChar 't'))
  | ['0'], some _ => ([⟨['A'], some ['0'], ['a'], .file, some 1, none, false⟩], none)
  | ['D'], none => ([⟨['F'], some ['D'], ['f'], .file, some 2, none, false⟩], none)
  | _, _ => ([], none)

/-- The root `0`, as a folder of its own. -/
def sampleRoot : RemoteItem := ⟨['0'], none, ['r'], .folder, none, none, false⟩

/-- The provider that gives these pages to an inventory. -/
def sampleInventory : SelectedRootBootstrapProvider where
  listChildrenPage _ parent continuation :=
    .ok ⟨(samplePage parent continuation).1, (samplePage parent continuation).2, 0⟩

/-- The provider that gives them to a hydration. -/
def sampleChildren : FolderChildren := fun _ parent continuation =>
  .ok ⟨(samplePage parent continuation).1, (samplePage parent continuation).2,
    (samplePage parent continuation).1.length, 0, 0, 0⟩

/-- Three pages are listed, and both lists are accepted. -/
theorem traversals_list_trees_sample :
    ∃ (staged : RootStore) (traversal : BootstrapTraversal) (hydration : DriveSubtreeHydration),
      (stageSelectedRootInventory sampleInventory (RootStore.new .receiveOnly).clearRemoteInventoryStaging
        ['0']).result = .ok (staged, traversal) ∧
      traversal = ⟨3, 3, 0⟩ ∧
      (∃ listed, staged.remoteStaging.rows = listed.map RemoteItem.storedRow ∧
        ∃ p, RootCatalogProjection.new ['0'] listed = .ok p) ∧
      hydrateFolderSubtree sampleChildren sampleRoot = .ok hydration ∧
      hydration.items.map (·.remoteId) = [['0'], ['D'], ['A'], ['F']] ∧
      validateHydration sampleRoot hydration.items = .ok () := by
  have hends : ∃ r ∈ (stageSelectedRootInventory sampleInventory
        (RootStore.new .receiveOnly).clearRemoteInventoryStaging ['0']).result.toOption,
      r.2 = ⟨3, 3, 0⟩ ∧ ∃ hydration ∈ (hydrateFolderSubtree sampleChildren sampleRoot).toOption,
        hydration.items.map (·.remoteId) = [['0'], ['D'], ['A'], ['F']] := by
    decide +kernel
  obtain ⟨⟨staged, traversal⟩, hr, htraversal, hydration, hh, hids⟩ := hends
  have hstaged := toOption_eq_some_iff.mp hr
  have hhydrated := toOption_eq_some_iff.mp hh
  obtain ⟨pages, -, listed, -, hrows, -, -, haccepted⟩ :=
    traversals_list_trees.1 sampleInventory (RootStore.new .receiveOnly) staged ['0'] traversal rfl hstaged
  obtain ⟨-, hvalid⟩ := traversals_list_trees.2.1 sampleChildren sampleRoot hydration hhydrated
  exact ⟨staged, traversal, hydration, hstaged, htraversal, ⟨listed, hrows, haccepted⟩, hhydrated, hids,
    hvalid⟩

end NubiSync
