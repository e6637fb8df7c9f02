import Mathlib.Data.List.TakeWhile
import NubiSync.Daemon.UploadBuffer
import NubiSync.Drive.Ancestry
import NubiSync.Sync.ListedTrees

set_option autoImplicit false

/-! # Folders of the drive

The children of a folder come page by page. A folder that is new to the catalog is hydrated by listing it
and every folder below it; whatever the provider puts on its pages, the hydration is a tree that
`validate_hydration` accepts, or an error. -/

namespace NubiSync

open Checks Transactions

/-! ## Pages -/

structure DriveInventoryPage where
  items : List RemoteItem
  continuation : Option ContinuationToken
  supportedItems : ℕ
  fileCount : ℕ
  folderCount : ℕ
  unsupportedProviderNative : ℕ

/-- `GoogleDriveApi::list_folder_children_page` with the page size of a hydration. The answers of the
    provider may change, so they depend on the number of the request. -/
abbrev FolderChildren : Type :=
  ℕ → Text → Option ContinuationToken → Except DriveTraversalError DriveInventoryPage

/-- The number of pages a traversal asks for at most. -/
def maxFolderPages : ℕ := 100_000

/-- The number of items a traversal lists at most. -/
def maxListedItems : ℕ := 1_000_000

/-! ## Validation -/

def validateHydrationRoot (item : RemoteItem) : Except DriveTraversalError Unit := do
  validateAncestryId item.remoteId
  refuseIf (item.kind != .folder) .hydrationRootNotFolder
  refuseIf item.trashed .hydrationRootTrashed
  refuseIf item.name.isEmpty .hydrationInvalidItem

/-- `validate_hydration_child`, with the ids seen after it. -/
def validateHydrationChild (expectedParentRemoteId : Text) (item : RemoteItem)
    (seenRemoteIds : List Text) : Except DriveTraversalError (List Text) := do
  validateAncestryId expectedParentRemoteId
  validateAncestryId item.remoteId
  refuseIf (item.name.isEmpty || item.trashed) .hydrationInvalidItem
  refuseIf (item.parentRemoteId != some expectedParentRemoteId) .hydrationParentMismatch
  refuseIf (seenRemoteIds.contains item.remoteId) .hydrationDuplicateRemoteId
  .ok (item.remoteId :: seenRemoteIds)

/-! ## Hydration -/

/-- What a hydration has listed. -/
structure HydrationProgress where
  items : List RemoteItem
  seenRemoteIds : List Text
  unsupportedProviderNative : ℕ

/-- One round of the loop over the items of a page. -/
def admitHydrationItem (parentRemoteId : Text) (progress : HydrationProgress) (item : RemoteItem) :
    Except DriveTraversalError HydrationProgress := do
  let seenRemoteIds ← validateHydrationChild parentRemoteId item progress.seenRemoteIds
  let items := progress.items ++ [item]
  refuseIf (decide (items.length > maxListedItems)) .hydrationSafetyLimitExceeded
  .ok { progress with items := items, seenRemoteIds := seenRemoteIds }

/-- What a hydration does with a page. -/
def takeHydrationPage (progress : HydrationProgress) (parentRemoteId : Text)
    (page : DriveInventoryPage) : Except DriveTraversalError HydrationProgress := do
  let unsupported ← orRefuse
    (checkedAddU64 progress.unsupportedProviderNative page.unsupportedProviderNative)
    .hydrationSafetyLimitExceeded
  page.items.foldlM (admitHydrationItem parentRemoteId)
    { progress with unsupportedProviderNative := unsupported }

/-- The pages of a hydration. It mutates no storage. -/
def hydrationListing (listFolderChildrenPage : FolderChildren) :
    FolderListing Empty DriveTraversalError Text ContinuationToken DriveInventoryPage
      HydrationProgress where
  request := listFolderChildrenPage
  take progress parentRemoteId page := Trace.read (takeHydrationPage progress parentRemoteId page)
  folders page := folderIds page.items
  continuation := DriveInventoryPage.continuation
  tooManyPages := .hydrationSafetyLimitExceeded
  repeatedToken := .hydrationPaginationLoop

structure DriveSubtreeHydration where
  items : List RemoteItem
  unsupportedProviderNative : ℕ
  pageCount : ℕ
  deriving DecidableEq

def hydrateFolderSubtree (listFolderChildrenPage : FolderChildren) (rootItem : RemoteItem) :
    Except DriveTraversalError DriveSubtreeHydration := do
  validateHydrationRoot rootItem
  let (progress, pageCount) ← ((hydrationListing listFolderChildrenPage).visit maxFolderPages 0 []
    rootItem.remoteId none [] ⟨[rootItem], [rootItem.remoteId], 0⟩).result
  .ok ⟨progress.items, progress.unsupportedProviderNative, pageCount⟩

/-! ## What is checked -/

theorem isWhitespace_of_isIdentifierChar {c : Char} (h : isIdentifierChar c = true) :
    Text.isWhitespace c = false := by
  have hascii : 45 ≤ c.toNat ∧ c.toNat ≤ 122 := by
    simp only [isIdentifierChar, Bool.or_eq_true, Bool.and_eq_true, decide_eq_true_eq, beq_iff_eq,
      Char.le_def, UInt32.le_iff_toNat_le] at h
    unfold Char.toNat
    rcases h with (((h | h) | h) | rfl) | rfl
    · change 48 ≤ c.val.toNat ∧ c.val.toNat ≤ 57 at h
      omega
    · change 65 ≤ c.val.toNat ∧ c.val.toNat ≤ 90 at h
      omega
    · change 97 ≤ c.val.toNat ∧ c.val.toNat ≤ 122 at h
      omega
    · decide
    · decide
  simp only [Text.isWhitespace, Bool.or_eq_false_iff, Bool.and_eq_false_iff, decide_eq_false_iff_not,
    beq_eq_false_iff_ne]
  omega

theorem isBlank_of_isDriveIdentifier {value : Text} (h : isDriveIdentifier value = true) :
    value.isBlank = false := by
  simp only [isDriveIdentifier, Bool.not_eq_true', Bool.or_eq_false_iff, Bool.not_eq_false',
    List.isEmpty_eq_false_iff, List.all_eq_true] at h
  obtain ⟨⟨hnonempty, -⟩, hchars⟩ := h
  cases value with
  | nil => exact absurd rfl hnonempty
  | cons first rest =>
      have hfirst := isWhitespace_of_isIdentifierChar (hchars first List.mem_cons_self)
      rw [Text.isBlank, Text.trim, List.dropWhile_cons_of_neg (by simp [hfirst])]
      -- the first character stops the second pass at the latest
      simp [List.dropWhile_eq_nil_iff, hfirst]

theorem validateAncestryId_ensures (value : Text) :
    Ensures (validateAncestryId value) fun _ => value.isBlank = false := by
  intro _ h
  exact isBlank_of_isDriveIdentifier (by simpa [validateAncestryId] using h)

theorem validateHydrationRoot_ensures (item : RemoteItem) :
    Ensures (validateHydrationRoot item) fun _ => item.kind = .folder
      ∧ item.remoteId.isBlank = false ∧ item.name ≠ [] ∧ item.trashed = false := by
  unfold validateHydrationRoot
  refine .bind (validateAncestryId_ensures _) fun _ hid => .check fun hkind => .check fun hlive => ?_
  intro _ hname
  exact ⟨by simpa using hkind, hid, by simpa using hname, hlive⟩

theorem validateHydrationChild_ensures (expectedParentRemoteId : Text) (item : RemoteItem)
    (seenRemoteIds : List Text) :
    Ensures (validateHydrationChild expectedParentRemoteId item seenRemoteIds) fun seen =>
      item.Admissible expectedParentRemoteId seenRemoteIds
        ∧ seen = item.remoteId :: seenRemoteIds := by
  unfold validateHydrationChild
  refine .after fun _ => .bind (validateAncestryId_ensures _) fun _ hid => .check fun hitem =>
    .check fun hparent => .check fun hseen => .ok ⟨?_, rfl⟩
  rw [Bool.or_eq_false_iff] at hitem
  exact ⟨hid, by simpa using hitem.1, hitem.2, by simpa using hparent, by simpa using hseen⟩

/-! ## The hydration as a traversal -/

variable {listFolderChildrenPage : FolderChildren} {rootItem : RemoteItem}

/-- What a hydration has listed before an item: the folder and a tree below it. -/
structure HydrationProgress.Lists (progress : HydrationProgress) (rootItem : RemoteItem)
    (listed : List RemoteItem) : Prop where
  items : progress.items = rootItem :: listed
  tree : Listed rootItem.remoteId progress.seenRemoteIds listed

theorem admitHydrationItem_ensures {progress : HydrationProgress} {before : List RemoteItem}
    {parentRemoteId : Text} (h : progress.Lists rootItem before)
    (hparent : Known rootItem.remoteId before parentRemoteId) (item : RemoteItem) :
    Ensures (admitHydrationItem parentRemoteId progress item) fun progress' =>
      progress'.Lists rootItem (before ++ [item]) := by
  unfold admitHydrationItem
  refine .bind (validateHydrationChild_ensures _ _ _) ?_
  rintro seen ⟨hadmissible, rfl⟩
  refine .check fun _ => .ok ⟨?_, h.tree.admitted hparent hadmissible⟩
  simp [h.items]

theorem takeHydrationPage_ensures {progress : HydrationProgress} {before : List RemoteItem}
    {parentRemoteId : Text} (h : progress.Lists rootItem before)
    (hparent : Known rootItem.remoteId before parentRemoteId) (page : DriveInventoryPage) :
    Ensures (takeHydrationPage progress parentRemoteId page) fun progress' =>
      progress'.Lists rootItem (before ++ page.items) := by
  unfold takeHydrationPage
  refine .after fun unsupported => ?_
  have hitems := @Ensures.foldlM _ _ _ (admitHydrationItem parentRemoteId)
    (fun done progress' => progress'.Lists rootItem done
      ∧ Known rootItem.remoteId done parentRemoteId) ?_ page.items before
    { progress with unsupportedProviderNative := unsupported } ⟨⟨h.items, h.tree⟩, hparent⟩
  · exact hitems.mono fun progress' hprogress' => hprogress'.1
  · rintro done item progress ⟨hlists, hknown⟩
    exact (admitHydrationItem_ensures hlists hknown item).mono fun progress' hprogress' =>
      ⟨hprogress', hknown.append [item]⟩

/-- Every page of a hydration leaves a listed tree, and only folders of the tree are listed. -/
theorem hydrationListing_visit (left : ℕ) {progress : HydrationProgress}
    (h : progress.Lists rootItem []) :
    ((hydrationListing listFolderChildrenPage).visit left 0 [] rootItem.remoteId none []
      progress).Leaves (fun _ => True) fun out => ∃ pages,
        (hydrationListing listFolderChildrenPage).Visited 0 [] rootItem.remoteId none pages
          ∧ out.2 = pages.length
          ∧ out.1.Lists rootItem (pages.flatMap DriveInventoryPage.items) := by
  have hvisit := @FolderListing.visit_leaves _ _ _ _ _ _ (hydrationListing listFolderChildrenPage) _
    (fun _ => True) (fun frontier progress pages =>
      progress.Lists rootItem (pages.flatMap DriveInventoryPage.items)
        ∧ ∀ id ∈ frontier,
          Known rootItem.remoteId (pages.flatMap DriveInventoryPage.items) id)
    (fun parent queue progress pages hall => ⟨hall.1, fun id hid => hall.2 id (.tail _ hid)⟩) ?_
    left 0 [] rootItem.remoteId none [] progress [] ⟨h, by simp [Known]⟩
  · refine hvisit.mono (fun _ => id) fun out hout => ?_
    obtain ⟨pages, hvisited, hcount, hlists, -⟩ := hout
    exact ⟨pages, hvisited, hcount.trans (Nat.zero_add _), hlists⟩
  · rintro number parent queue continuation progress pages page ⟨hlists, hknown⟩ -
    rw [List.flatMap_append, List.flatMap_singleton]
    refine .read fun progress' hprogress' => ⟨?_, known_folders hknown⟩
    exact takeHydrationPage_ensures hlists (hknown parent List.mem_cons_self) page _ hprogress'

/-- A hydration lists the folder and, page by page, a tree below it. -/
theorem hydrateFolderSubtree_ensures (listFolderChildrenPage : FolderChildren)
    (rootItem : RemoteItem) :
    Ensures (hydrateFolderSubtree listFolderChildrenPage rootItem) fun hydration =>
      (∃ pages, (hydrationListing listFolderChildrenPage).Visited 0 [] rootItem.remoteId none pages
        ∧ hydration.pageCount = pages.length
        ∧ hydration.items = rootItem :: pages.flatMap DriveInventoryPage.items)
      ∧ HydrationTree rootItem hydration.items := by
  unfold hydrateFolderSubtree
  refine .bind (validateHydrationRoot_ensures rootItem) fun _ hroot => ?_
  have hstart : (⟨[rootItem], [rootItem.remoteId], 0⟩ : HydrationProgress).Lists rootItem [] :=
    ⟨rfl, .start rootItem.remoteId⟩
  refine .bind (hydrationListing_visit maxFolderPages hstart).result ?_
  rintro ⟨progress, pageCount⟩ ⟨pages, hvisited, rfl, hlists⟩
  refine .ok ⟨⟨pages, hvisited, rfl, hlists.items⟩, ?_⟩
  rw [hlists.items]
  exact hlists.tree.hydrationTree hroot.1 hroot.2

/-- A hydration asks for 100,000 pages at most. -/
theorem hydrateFolderSubtree_congr {listFolderChildrenPage listFolderChildrenPage' : FolderChildren}
    (h : ∀ n < maxFolderPages, listFolderChildrenPage n = listFolderChildrenPage' n)
    (rootItem : RemoteItem) :
    hydrateFolderSubtree listFolderChildrenPage rootItem =
      hydrateFolderSubtree listFolderChildrenPage' rootItem := by
  have hsame := (hydrationListing listFolderChildrenPage).visit_congr
    (fun n hn => h n (by rwa [Nat.zero_add] at hn)) [] rootItem.remoteId none []
    ⟨[rootItem], [rootItem.remoteId], 0⟩
  unfold hydrateFolderSubtree
  rw [hsame]
  rfl

end NubiSync
