import NubiSync.Library.Search
import NubiSync.Daemon.ConvergenceProgress

set_option autoImplicit false

/-! # Deleting a whole folder

The provider deletes a folder of a converged root: the catalog loses the subtree and its receipts
become stale. The planner's emptiness test looks at the local entries as they are, leftovers included,
so a leftover directory with leftovers in it is blocked rather than planned after them.
`folder_deletion_converges_iff` says what that leaves: the run converges exactly when the folder had
no catalogued child. -/

namespace NubiSync

/-! ## The deletion and the run after it -/

/-- The ids of the items whose parent is a given id. -/
def childRemoteIds (items : List RemoteItem) (parent : Text) : List Text :=
  (items.filter (·.parentRemoteId = some parent)).map RemoteItem.remoteId

/-- The ids of an item and of everything catalogued below it. -/
def subtreeRemoteIds (items : List RemoteItem) (remoteId : Text) : List Text :=
  Worklist.search (childRemoteIds items) (items.length + 1) [remoteId] [remoteId]

/-- A receipt once its item is gone. -/
def ReceiveOnlyOwnershipReceipt.markStale (gone : List Text) (r : ReceiveOnlyOwnershipReceipt) :
    ReceiveOnlyOwnershipReceipt :=
  if r.remoteId ∈ gone then { r with state := .stale } else r

/-- The inputs after the catalog has lost a subtree. -/
def RootInputs.deleteFolder (inputs : RootInputs) (remoteId : Text) : RootInputs :=
  let gone := subtreeRemoteIds inputs.remoteItems remoteId
  { inputs with
    remoteItems := inputs.remoteItems.filter (·.remoteId ∉ gone)
    receipts := inputs.receipts.map (·.markStale gone) }

/-- The removals of a plan. -/
def ReceiveOnlyConvergencePlan.removals (plan : ReceiveOnlyConvergencePlan) :
    List ReceiveOnlyConvergenceAction :=
  plan.actions.filter fun action =>
    action.kind == .revalidateStaleFileDeletion || action.kind == .deleteOwnedEmptyDirectory

/-- Every plan along the run is unblocked, and the run reaches a plan without actions. -/
inductive DeletionConverges (maxActions : ℕ) : RootInputs → Prop where
  | converged {inputs : RootInputs} {plan : ReceiveOnlyConvergencePlan} :
      inputs.planWithin maxActions = .ok plan → plan.blocked = false → plan.actions = [] →
      DeletionConverges maxActions inputs
  | step {inputs : RootInputs} {plan : ReceiveOnlyConvergencePlan} :
      inputs.planWithin maxActions = .ok plan → plan.blocked = false → plan.actions ≠ [] →
      DeletionConverges maxActions (inputs.remove plan.removals) →
      DeletionConverges maxActions inputs

theorem DeletionConverges.exists_plan {maxActions : ℕ} {inputs : RootInputs}
    (h : DeletionConverges maxActions inputs) :
    ∃ plan, inputs.planWithin maxActions = .ok plan ∧ plan.blocked = false := by
  cases h with
  | converged hplan hblocked _ => exact ⟨_, hplan, hblocked⟩
  | step hplan hblocked _ _ => exact ⟨_, hplan, hblocked⟩

/-! ## The subtree -/

theorem mem_childRemoteIds {items : List RemoteItem} {parent child : Text} :
    child ∈ childRemoteIds items parent ↔
      ∃ item ∈ items, item.parentRemoteId = some parent ∧ item.remoteId = child := by
  simp [childRemoteIds, and_assoc]

theorem mem_subtreeRemoteIds {items : List RemoteItem} {remoteId id : Text} :
    id ∈ subtreeRemoteIds items remoteId ↔ Worklist.Reach (childRemoteIds items) [remoteId] id := by
  have hnodes : ∀ parent, ∀ child ∈ childRemoteIds items parent,
      child ∈ items.map RemoteItem.remoteId := by
    intro parent child hchild
    obtain ⟨item, hitem, -, rfl⟩ := mem_childRemoteIds.mp hchild
    exact List.mem_map_of_mem hitem
  exact Worklist.mem_search_seed_iff hnodes (by rw [List.length_map]) remoteId id

theorem self_mem_subtreeRemoteIds (items : List RemoteItem) (remoteId : Text) :
    remoteId ∈ subtreeRemoteIds items remoteId :=
  mem_subtreeRemoteIds.mpr (Worklist.Reach.of_mem List.mem_cons_self)

/-- A subtree contains the children of what it contains. -/
theorem child_mem_subtreeRemoteIds {items : List RemoteItem} {remoteId parent : Text}
    {item : RemoteItem} (hitem : item ∈ items) (hparent : item.parentRemoteId = some parent)
    (h : parent ∈ subtreeRemoteIds items remoteId) :
    item.remoteId ∈ subtreeRemoteIds items remoteId :=
  mem_subtreeRemoteIds.mpr
    ((mem_subtreeRemoteIds.mp h).step (mem_childRemoteIds.mpr ⟨item, hitem, hparent, rfl⟩))

/-- The subtree of an item without children is the item. -/
theorem mem_subtreeRemoteIds_of_childless {items : List RemoteItem} {remoteId : Text}
    (h : ∀ item ∈ items, item.parentRemoteId ≠ some remoteId) (id : Text) :
    id ∈ subtreeRemoteIds items remoteId ↔ id = remoteId := by
  refine ⟨fun hid => ?_, fun hid => hid ▸ self_mem_subtreeRemoteIds items remoteId⟩
  obtain ⟨seed, hseed, hwalk⟩ := mem_subtreeRemoteIds.mp hid
  obtain rfl := List.mem_singleton.mp hseed
  rcases Relation.ReflTransGen.cases_head hwalk with rfl | ⟨child, hchild, -⟩
  · rfl
  · obtain ⟨item, hitem, hparent, -⟩ := mem_childRemoteIds.mp hchild
    exact absurd hparent (h item hitem)

/-! ## A catalog without a subtree -/

section Pruned

variable {items : List RemoteItem} {root : Text} {gone : List Text}
variable (hclosed : ∀ item ∈ items, ∀ parent ∈ gone, item.parentRemoteId = some parent →
  item.remoteId ∈ gone)

include hclosed in
theorem pathOf_filter_iff {item : RemoteItem} {path : Text} :
    PathOf (items.filter (·.remoteId ∉ gone)) root item path ↔
      PathOf items root item path ∧ item.remoteId ∉ gone := by
  have hmem : ∀ i : RemoteItem, i ∈ items.filter (·.remoteId ∉ gone) ↔
      i ∈ items ∧ i.remoteId ∉ gone := by simp
  constructor
  · intro h
    refine ⟨?_, ((hmem item).mp h.mem).2⟩
    induction h with
    | top hitem hparent => exact .top ((hmem _).mp hitem).1 hparent
    | child _ hkind hitem hparent ih => exact .child ih hkind ((hmem _).mp hitem).1 hparent
  · rintro ⟨h, hkept⟩
    induction h with
    | top hitem hparent => exact .top ((hmem _).mpr ⟨hitem, hkept⟩) hparent
    | child hfolder hkind hitem hparent ih =>
        refine .child (ih fun hgone => hkept ?_) hkind ((hmem _).mpr ⟨hitem, hkept⟩) hparent
        exact hclosed _ hitem _ hgone hparent

include hclosed in
theorem CatalogTree.filter (ht : CatalogTree items root) :
    CatalogTree (items.filter (·.remoteId ∉ gone)) root where
  valid item hitem := ht.valid item (List.mem_of_mem_filter hitem)
  nodup_ids := ht.nodup_ids.sublist (List.filter_sublist.map _)
  nodup_siblings := ht.nodup_siblings.sublist (List.filter_sublist.map _)
  folder_parent item hitem parent hparent :=
    ht.folder_parent item (List.mem_of_mem_filter hitem) parent (List.mem_of_mem_filter hparent)
  root_external item hitem := ht.root_external item (List.mem_of_mem_filter hitem)
  rooted item hitem := by
    obtain ⟨path, hpath⟩ := ht.rooted item (List.mem_of_mem_filter hitem)
    exact ⟨path, (pathOf_filter_iff hclosed).mpr ⟨hpath, by simpa using (List.mem_filter.mp hitem).2⟩⟩

end Pruned

/-! ## Plans without actions -/

section Converged

variable {inputs : RootInputs} {maxActions : ℕ} {expectedPaths : List RemoteExpectedPath}
  {drafts : ActionMap} {plan : ReceiveOnlyConvergencePlan}
variable (h : PlannedFrom inputs.remoteItems inputs.localEntries inputs.receipts maxActions
  expectedPaths drafts plan)
variable (hnone : plan.actions = [])

include h hnone

theorem PlannedFrom.planDrafts_eq_nil :
    planDrafts expectedPaths inputs.localEntries inputs.receipts = [] := by
  refine List.eq_nil_iff_forall_not_mem.mpr fun draft hdraft => ?_
  obtain ⟨action, haction, -⟩ :=
    (h.exists_action_iff draft.relativePath draft.kind).mpr ⟨draft, hdraft, rfl, rfl⟩
  rw [hnone] at haction
  exact absurd haction List.not_mem_nil

theorem PlannedFrom.converged_unblocked :
    UnblockedInputs expectedPaths inputs.localEntries inputs.receipts :=
  h.distinct.unblockedInputs fun draft hdraft => by
    rw [h.planDrafts_eq_nil hnone] at hdraft
    exact absurd hdraft List.not_mem_nil

/-- A converged plan leaves nothing to do for any expected item. -/
theorem PlannedFrom.converged_outcome {e : RemoteExpectedPath} (he : e ∈ expectedPaths)
    (kind : ReceiveOnlyConvergenceActionKind) :
    presenceOutcome e.kind (isPresent inputs.localEntries e) (receiptState inputs.receipts e) ≠
      .act kind := by
  intro houtcome
  rw [← (h.converged_unblocked hnone).classify h.distinct he] at houtcome
  have hdraft := (mem_planDrafts expectedPaths inputs.localEntries inputs.receipts _).mpr
    (Or.inl ⟨e, he, expectedDraft_eq_some.mpr ⟨kind, houtcome, rfl⟩⟩)
  rw [h.planDrafts_eq_nil hnone] at hdraft
  exact absurd hdraft List.not_mem_nil

theorem PlannedFrom.converged_present {e : RemoteExpectedPath} (he : e ∈ expectedPaths) :
    isPresent inputs.localEntries e = true := by
  have hoc := h.converged_outcome hnone he
  cases hpresent : isPresent inputs.localEntries e with
  | true => rfl
  | false =>
      rw [hpresent] at hoc
      cases hkind : e.kind with
      | file => exact absurd (by rw [hkind]; rfl) (hoc .materializeMissingFile)
      | folder => exact absurd (by rw [hkind]; rfl) (hoc .createDirectory)

/-- A converged plan leaves nothing local outside the catalog. -/
theorem PlannedFrom.converged_expected {l : LocalTreeEntry} (hl : l ∈ inputs.localEntries) :
    ∃ e ∈ expectedPaths, e.relativePath = l.relativePath := by
  by_contra hno
  push Not at hno
  obtain ⟨⟨receipt, howned⟩, -⟩ := (h.converged_unblocked hnone).local_only l hl
    ((isLocalOnly_iff expectedPaths l).mpr hno)
  have hdraft := (mem_planDrafts expectedPaths inputs.localEntries inputs.receipts _).mpr
    (Or.inr (Or.inl ⟨l, hl, h.distinct.localDraft_of_staleOwned hno howned⟩))
  rw [h.planDrafts_eq_nil hnone] at hdraft
  exact absurd hdraft List.not_mem_nil

end Converged

/-! ## The inputs after the deletion -/

section Stale

variable (gone : List Text) (r : ReceiveOnlyOwnershipReceipt)

@[simp] theorem ReceiveOnlyOwnershipReceipt.markStale_remoteId :
    (r.markStale gone).remoteId = r.remoteId := by
  unfold markStale
  split <;> rfl

@[simp] theorem ReceiveOnlyOwnershipReceipt.markStale_relativePath :
    (r.markStale gone).relativePath = r.relativePath := by
  unfold markStale
  split <;> rfl

@[simp] theorem ReceiveOnlyOwnershipReceipt.markStale_kind : (r.markStale gone).kind = r.kind := by
  unfold markStale
  split <;> rfl

theorem ReceiveOnlyOwnershipReceipt.markStale_of_mem (h : r.remoteId ∈ gone) :
    (r.markStale gone).state = .stale := by
  rw [markStale, if_pos h]

theorem ReceiveOnlyOwnershipReceipt.markStale_of_not_mem (h : r.remoteId ∉ gone) :
    r.markStale gone = r := if_neg h

end Stale

theorem DistinctInputs.markStale {expectedPaths expectedPaths' : List RemoteExpectedPath}
    {localEntries : List LocalTreeEntry} {receipts : List ReceiveOnlyOwnershipReceipt}
    (hd : DistinctInputs expectedPaths localEntries receipts)
    (hids : (expectedPaths'.map RemoteExpectedPath.remoteId).Nodup)
    (hpaths : (expectedPaths'.map RemoteExpectedPath.relativePath).Nodup) (gone : List Text) :
    DistinctInputs expectedPaths' localEntries (receipts.map (·.markStale gone)) where
  expected_ids := hids
  expected_paths := hpaths
  local_paths := hd.local_paths
  receipt_ids := by simpa [Function.comp_def] using hd.receipt_ids
  receipt_paths := by simpa [Function.comp_def] using hd.receipt_paths

theorem receiptState_markStale {receipts : List ReceiveOnlyOwnershipReceipt}
    (hnodup : (receipts.map ReceiveOnlyOwnershipReceipt.remoteId).Nodup) {gone : List Text}
    {e : RemoteExpectedPath} (hkept : e.remoteId ∉ gone) :
    receiptState (receipts.map (·.markStale gone)) e = receiptState receipts e := by
  refine receiptState_congr (by simpa [Function.comp_def] using hnodup) hnodup fun r hid => ?_
  rw [List.mem_map]
  constructor
  · rintro ⟨r', hr', rfl⟩
    rw [ReceiveOnlyOwnershipReceipt.markStale_remoteId] at hid
    rwa [r'.markStale_of_not_mem gone (hid ▸ hkept)]
  · exact fun hr => ⟨r, hr, r.markStale_of_not_mem gone (hid ▸ hkept)⟩

/-- The catalog without the subtree still has expected paths: those of the items that are left. -/
theorem ExpectedPathsOf.deleteFolder {inputs : RootInputs} {root : Text}
    {expectedPaths : List RemoteExpectedPath}
    (hspec : ExpectedPathsOf inputs.remoteItems root expectedPaths) (remoteId : Text) :
    ∃ expectedPaths', buildRemoteExpectedPaths (inputs.deleteFolder remoteId).remoteItems =
        .ok expectedPaths' ∧
      ExpectedPathsOf (inputs.deleteFolder remoteId).remoteItems root expectedPaths' ∧
      ∀ e, e ∈ expectedPaths' ↔
        e ∈ expectedPaths ∧ e.remoteId ∉ subtreeRemoteIds inputs.remoteItems remoteId := by
  have hclosed : ∀ item ∈ inputs.remoteItems,
      ∀ parent ∈ subtreeRemoteIds inputs.remoteItems remoteId,
        item.parentRemoteId = some parent →
          item.remoteId ∈ subtreeRemoteIds inputs.remoteItems remoteId :=
    fun item hitem parent hgone hparent => child_mem_subtreeRemoteIds hitem hparent hgone
  obtain ⟨expectedPaths', hbuild, hspec'⟩ := (hspec.tree.filter hclosed).buildRemoteExpectedPaths
  refine ⟨expectedPaths', hbuild, hspec', fun e => ?_⟩
  rw [hspec'.mem_iff, hspec.mem_iff]
  constructor
  · rintro ⟨item, path, hpath, rfl⟩
    obtain ⟨hold, hkept⟩ := (pathOf_filter_iff hclosed).mp hpath
    exact ⟨⟨item, path, hold, rfl⟩, hkept⟩
  · rintro ⟨⟨item, path, hpath, rfl⟩, hkept⟩
    exact ⟨item, path, (pathOf_filter_iff hclosed).mpr ⟨hpath, hkept⟩, rfl⟩

section Deleted

variable {inputs : RootInputs} {maxActions : ℕ} {root : Text}
  {expectedPaths expectedPaths' : List RemoteExpectedPath} {drafts : ActionMap}
  {plan : ReceiveOnlyConvergencePlan} {folder : RemoteItem} {path : Text}
variable (h : PlannedFrom inputs.remoteItems inputs.localEntries inputs.receipts maxActions
  expectedPaths drafts plan)
variable (hnone : plan.actions = [])
variable (hspec : ExpectedPathsOf inputs.remoteItems root expectedPaths)
variable (hfolder : PathOf inputs.remoteItems root folder path) (hkind : folder.kind = .folder)
variable (hmem : ∀ e, e ∈ expectedPaths' ↔ e ∈ expectedPaths ∧
  e.remoteId ∉ subtreeRemoteIds inputs.remoteItems folder.remoteId)

include h hnone hspec hfolder

theorem PlannedFrom.exists_local_folder :
    ∃ l ∈ inputs.localEntries, l.relativePath = path ∧
      l.kind = localKindForRemote folder.kind := by
  have he := (hspec.mem_iff _).mpr ⟨folder, path, hfolder, rfl⟩
  obtain ⟨l, hl, hpath⟩ := (isPresent_iff _ _).mp (h.converged_present hnone he)
  exact ⟨l, hl, hpath, (h.converged_unblocked hnone).local_kind _ he l hl hpath⟩

omit hnone in
include hmem in
/-- Nothing is expected at the path of the deleted folder. -/
theorem PlannedFrom.folder_not_expected : ∀ e ∈ expectedPaths', e.relativePath ≠ path := by
  intro e he hpath
  obtain ⟨hold, hkept⟩ := (hmem e).mp he
  have hsame := h.distinct.eq_of_path hold ((hspec.mem_iff _).mpr ⟨folder, path, hfolder, rfl⟩) hpath
  exact hkept (hsame ▸ self_mem_subtreeRemoteIds inputs.remoteItems folder.remoteId)

include hmem hkind in
/-- A child of the deleted folder blocks the plan. -/
theorem PlannedFrom.childless_of_unblocked
    (hu' : UnblockedInputs expectedPaths' (inputs.deleteFolder folder.remoteId).localEntries
      (inputs.deleteFolder folder.remoteId).receipts) :
    ∀ item ∈ inputs.remoteItems, item.parentRemoteId ≠ some folder.remoteId := by
  intro item hitem hparent
  have hchild : PathOf inputs.remoteItems root item (path.child item.name) :=
    .child hfolder hkind hitem hparent
  obtain ⟨l, hl, hpath, hlk⟩ := h.exists_local_folder hnone hspec hfolder
  obtain ⟨l', hl', hpath', -⟩ := h.exists_local_folder hnone hspec hchild
  have hlocal : isLocalOnly expectedPaths' l = true :=
    (isLocalOnly_iff _ _).mpr fun e he => hpath ▸ h.folder_not_expected hspec hfolder hmem e he
  have hempty := (hu'.local_only l hl hlocal).2 (by rw [hlk, hkind]; rfl)
  refine (localDirectoryIsEmpty_iff _ _).mp hempty l' hl' ?_
  rw [hpath, hpath']
  exact (Text.isBelow_child (hspec.tree.slash_free hitem)).mpr (Or.inl rfl)

variable (hchildless : ∀ item ∈ inputs.remoteItems, item.parentRemoteId ≠ some folder.remoteId)

include hmem hchildless

/-- The only leftover of an empty folder is the folder itself. -/
theorem PlannedFrom.leftover_path {l : LocalTreeEntry} (hl : l ∈ inputs.localEntries)
    (hlocal : isLocalOnly expectedPaths' l = true) : l.relativePath = path := by
  obtain ⟨e, he, hpath⟩ := h.converged_expected hnone hl
  by_cases hid : e.remoteId = folder.remoteId
  · have hsame := h.distinct.eq_of_id he ((hspec.mem_iff _).mpr ⟨folder, path, hfolder, rfl⟩) hid
    rw [← hpath, hsame]
    rfl
  · refine absurd hpath ((isLocalOnly_iff _ _).mp hlocal e ((hmem e).mpr ⟨he, ?_⟩))
    rwa [mem_subtreeRemoteIds_of_childless hchildless]

omit hmem in
theorem PlannedFrom.folder_locally_empty :
    localDirectoryIsEmpty path inputs.localEntries = true := by
  rw [localDirectoryIsEmpty_iff]
  intro l hl hbelow
  obtain ⟨e, he, hpath⟩ := h.converged_expected hnone hl
  obtain ⟨item, itemPath, hitem, rfl⟩ := (hspec.mem_iff e).mp he
  obtain ⟨above, habove, child, hchild, hparent⟩ := hitem.exists_above hspec.tree (hpath ▸ hbelow)
  rw [habove.item_unique hspec.tree hfolder rfl] at hparent
  exact hchildless child hchild hparent

variable (howned : ∃ r ∈ inputs.receipts, r.remoteId = folder.remoteId)

include howned in
/-- Deleting an empty folder leaves unblocked inputs. -/
theorem PlannedFrom.deleteFolder_unblocked :
    UnblockedInputs expectedPaths' (inputs.deleteFolder folder.remoteId).localEntries
      (inputs.deleteFolder folder.remoteId).receipts := by
  have hu := h.converged_unblocked hnone
  have hold : ∀ e ∈ expectedPaths', e ∈ expectedPaths := fun e he => ((hmem e).mp he).1
  refine ⟨?_, fun e he => hu.local_kind e (hold e he), ?_, ?_, ?_⟩
  · rintro e he (⟨r', hr', hid, hdiff⟩ | ⟨r', hr', hpath, hdiff⟩) <;>
      obtain ⟨r, hr, rfl⟩ := List.mem_map.mp hr'
    · exact hu.no_conflict e (hold e he) (Or.inl ⟨r, hr, by simpa using hid, by simpa using hdiff⟩)
    · exact hu.no_conflict e (hold e he) (Or.inr ⟨r, hr, by simpa using hpath, by simpa using hdiff⟩)
  · intro e he hfolderKind hpresent
    rw [RootInputs.deleteFolder,
      receiptState_markStale h.distinct.receipt_ids ((hmem e).mp he).2]
    exact hu.current_directory e (hold e he) hfolderKind hpresent
  · -- the one leftover is the folder itself, and the deletion has staled its receipt
    intro l hl hlocal
    have hpath := h.leftover_path hnone hspec hfolder hmem hchildless hl hlocal
    have hentry := (hspec.mem_iff _).mpr ⟨folder, path, hfolder, rfl⟩
    obtain ⟨r, hr, hid⟩ := howned
    obtain ⟨hrpath, hrkind⟩ := hu.own_receipt hentry hr hid
    have hgone : r.remoteId ∈ subtreeRemoteIds inputs.remoteItems folder.remoteId :=
      hid ▸ self_mem_subtreeRemoteIds _ _
    refine ⟨⟨_, List.mem_map_of_mem hr, ?_, r.markStale_of_mem _ hgone, ?_, ?_⟩, fun _ => ?_⟩
    · rw [r.markStale_relativePath, hrpath, hpath]
      rfl
    · rw [r.markStale_kind, hrkind]
      exact (hu.local_kind _ hentry l hl hpath).symm
    · intro e he heid
      rw [r.markStale_remoteId] at heid
      exact ((hmem e).mp he).2 (heid ▸ hgone)
    · rw [hpath]
      exact h.folder_locally_empty hnone hspec hfolder hchildless
  · intro r' hr'
    obtain ⟨r, hr, rfl⟩ := List.mem_map.mp hr'
    simp only [ReceiveOnlyOwnershipReceipt.markStale_relativePath,
      ReceiveOnlyOwnershipReceipt.markStale_remoteId, ReceiveOnlyOwnershipReceipt.markStale_kind]
    rcases hu.receipt_target r hr with hlocal | ⟨e, he, hid, hpath, hrk⟩
    · exact Or.inl hlocal
    · exact Or.inl ((isPresent_iff _ _).mp (h.converged_present hnone he) |>.imp
        fun l hl => ⟨hl.1, hl.2.trans hpath⟩)

include hkind howned in
/-- The next plan removes the directory and does nothing else. -/
theorem PlannedFrom.deleteFolder_draft
    (hd : DistinctInputs expectedPaths' (inputs.deleteFolder folder.remoteId).localEntries
      (inputs.deleteFolder folder.remoteId).receipts) {draft : ActionDraft}
    (hdraft : draft ∈ planDrafts expectedPaths' (inputs.deleteFolder folder.remoteId).localEntries
      (inputs.deleteFolder folder.remoteId).receipts) :
    draft.relativePath = path ∧ draft.kind = .deleteOwnedEmptyDirectory := by
  have hu' := h.deleteFolder_unblocked hnone hspec hfolder hmem hchildless howned
  rcases (mem_planDrafts _ _ _ draft).mp hdraft with ⟨e, he, hea⟩ | ⟨l, hl, hla⟩ | ⟨r, hr, hra⟩
  · -- what is still expected was converged before, and its receipt is as it was
    obtain ⟨kind, hclass, rfl⟩ := expectedDraft_eq_some.mp hea
    obtain ⟨hold, hkept⟩ := (hmem e).mp he
    rw [hu'.classify hd he, RootInputs.deleteFolder,
      receiptState_markStale h.distinct.receipt_ids hkept] at hclass
    exact absurd hclass (h.converged_outcome hnone hold kind)
  · obtain ⟨hpath, houtside⟩ := localDraft_path hla
    have hlocal : ∀ e ∈ expectedPaths', e.relativePath ≠ l.relativePath := by
      simpa [convergenceIndex] using houtside
    have hlocalOnly := (isLocalOnly_iff expectedPaths' l).mpr hlocal
    obtain ⟨⟨receipt, hstale⟩, hempty⟩ := hu'.local_only l hl hlocalOnly
    have hat := h.leftover_path hnone hspec hfolder hmem hchildless hl hlocalOnly
    have hlk := (h.converged_unblocked hnone).local_kind _
      ((hspec.mem_iff _).mpr ⟨folder, path, hfolder, rfl⟩) l hl hat
    rw [hd.localDraft_of_staleOwned hlocal hstale] at hla
    obtain rfl := Option.some.inj hla
    refine ⟨hat, (staleRemovalKind_eq_iff hempty .directory).mpr ?_⟩
    rw [hlk]
    exact congrArg localKindForRemote hkind
  · exact absurd (receiptDraft_eq_some hra).1 fun hblocked =>
      hu'.no_blocked_draft hd hdraft (by rw [hblocked])

end Deleted

/-! ## The run -/

/-- Drafts at one path count as one. -/
theorem pathCount_le_one {candidates : List ActionDraft} {path : Text}
    (h : ∀ draft ∈ candidates, draft.relativePath = path) : pathCount candidates ≤ 1 := by
  have hsub : (candidates.map ActionDraft.relativePath).dedup ⊆ [path] := by
    intro p hp
    obtain ⟨draft, hdraft, rfl⟩ := List.mem_map.mp (List.mem_dedup.mp hp)
    exact List.mem_singleton.mpr (h draft hdraft)
  exact (List.subperm_of_subset (List.nodup_dedup _) hsub).length_le

/-- A plan whose actions all belong to one phase has none once that phase is done. -/
theorem NextPlan.actions_eq_nil {maxActions : ℕ} {inputs' : RootInputs}
    {plan next : ReceiveOnlyConvergencePlan} {phase : SelectedRootUnifiedConvergencePhase}
    (h : NextPlan maxActions inputs' plan phase next)
    (hothers : ∀ other, other ≠ phase → plan.phaseCount other = 0) : next.actions = [] := by
  obtain ⟨expectedPaths, drafts, hnext⟩ := planReceiveOnlyConvergence_ok h.planned
  have hzero : ∀ other, next.phaseCount other = 0 := fun other => by
    by_cases hother : other = phase
    · exact hother ▸ h.phaseCount_eq_zero
    · rw [h.others other hother, hothers other hother]
  refine List.eq_nil_iff_forall_not_mem.mpr fun action haction => ?_
  have hphase : ∀ other : SelectedRootUnifiedConvergencePhase, action.kind ≠ other.actionKind :=
      fun other => by
    have hcount := hzero other
    rw [hnext.phaseCount_eq_countP, List.countP_eq_zero] at hcount
    simpa using hcount action haction
  cases hkind : action.kind with
  | createDirectory => exact hphase .createDirectories hkind
  | materializeMissingFile => exact hphase .materializeMissingFiles hkind
  | verifyExistingFile => exact hphase .verifyExistingFiles hkind
  | revalidateStaleFileReplacement => exact hphase .replaceStaleFiles hkind
  | revalidateStaleFileDeletion => exact hphase .deleteStaleFiles hkind
  | deleteOwnedEmptyDirectory => exact hphase .deleteStaleDirectories hkind
  | blocked =>
      obtain ⟨draft, hdraft, -, hblocked⟩ :=
        (hnext.exists_action_iff action.relativePath .blocked).mp ⟨action, haction, rfl, hkind⟩
      exact (hnext.unblocked_iff.mp h.not_blocked).no_blocked_draft hnext.distinct hdraft hblocked

/-- An empty folder is removed in one step. -/
theorem deletionConverges_of_directories {maxActions : ℕ} {inputs : RootInputs}
    {plan : ReceiveOnlyConvergencePlan} (hplan : inputs.planWithin maxActions = .ok plan)
    (hblocked : plan.blocked = false)
    (hkinds : ∀ action ∈ plan.actions, action.kind = .deleteOwnedEmptyDirectory) :
    DeletionConverges maxActions inputs := by
  by_cases hnone : plan.actions = []
  · exact .converged hplan hblocked hnone
  obtain ⟨expectedPaths, drafts, h⟩ := planReceiveOnlyConvergence_ok hplan
  obtain ⟨next, hnext⟩ := exists_nextPlan hplan hblocked .deleteStaleDirectories
  have hothers : ∀ other, other ≠ .deleteStaleDirectories → plan.phaseCount other = 0 := by
    intro other hother
    rw [h.phaseCount_eq_countP, List.countP_eq_zero]
    intro action haction hkind
    rw [hkinds action haction, beq_iff_eq] at hkind
    exact hother (actionKind_injective hkind.symm)
  have hremovals : plan.removals = plan.phaseActions .deleteStaleDirectories := by
    refine List.filter_congr fun action haction => ?_
    rw [hkinds action haction]
    rfl
  refine .step hplan hblocked hnone ?_
  rw [hremovals]
  exact .converged hnext.planned hnext.not_blocked (hnext.actions_eq_nil hothers)

/-- **A deleted folder converges exactly when it was empty.** For a converged root and a catalogued
    folder whose subtree is owned by current receipts: after the folder is gone from the catalog and
    its receipts are stale, every plan along the run is unblocked and the run reaches a plan without
    actions if and only if the folder had no catalogued child. -/
theorem folder_deletion_converges_iff (inputs : RootInputs) (maxActions : ℕ)
    (plan : ReceiveOnlyConvergencePlan) (folder : RemoteItem)
    (hplan : inputs.planWithin maxActions = .ok plan) (hconverged : plan.actions = [])
    (hfolder : folder ∈ inputs.remoteItems) (hkind : folder.kind = .folder)
    (howned : ∀ item ∈ inputs.remoteItems,
      item.remoteId ∈ subtreeRemoteIds inputs.remoteItems folder.remoteId →
        ∃ r ∈ inputs.receipts, r.remoteId = item.remoteId ∧ r.state = .current) :
    DeletionConverges maxActions (inputs.deleteFolder folder.remoteId) ↔
      ∀ item ∈ inputs.remoteItems, item.parentRemoteId ≠ some folder.remoteId := by
  obtain ⟨expectedPaths, drafts, h⟩ := planReceiveOnlyConvergence_ok hplan
  obtain ⟨root, hspec⟩ := buildRemoteExpectedPaths_sound h.build
  obtain ⟨path, hpath⟩ := hspec.tree.rooted folder hfolder
  obtain ⟨expectedPaths', hbuild, hspec', hmem⟩ := hspec.deleteFolder folder.remoteId
  constructor
  · -- a child keeps its local entry, and a folder that is not empty blocks the plan
    intro hrun
    obtain ⟨plan', hplan', hblocked⟩ := hrun.exists_plan
    obtain ⟨expected, drafts', h'⟩ := planReceiveOnlyConvergence_ok hplan'
    obtain rfl : expectedPaths' = expected := Except.ok.inj (hbuild.symm.trans h'.build)
    exact h.childless_of_unblocked hconverged hspec hpath hkind hmem
      (h'.unblocked_iff.mp hblocked)
  · -- without children the only draft is the removal of the folder, so one dispatch ends it
    intro hchildless
    obtain ⟨r, hr, hid, -⟩ := howned folder hfolder (self_mem_subtreeRemoteIds _ _)
    have hd : DistinctInputs expectedPaths' (inputs.deleteFolder folder.remoteId).localEntries
        (inputs.deleteFolder folder.remoteId).receipts :=
      h.distinct.markStale hspec'.nodup_ids hspec'.nodup_paths _
    have hdrafts : ∀ draft ∈ planDrafts expectedPaths'
        (inputs.deleteFolder folder.remoteId).localEntries
        (inputs.deleteFolder folder.remoteId).receipts,
        draft.relativePath = path ∧ draft.kind = .deleteOwnedEmptyDirectory :=
      fun _ hdraft => h.deleteFolder_draft hconverged hspec hpath hkind hmem hchildless
        ⟨r, hr, hid⟩ hd hdraft
    obtain ⟨drafts', plan', hplan', h'⟩ := planReceiveOnlyConvergence_isOk h.max_pos hbuild hd
      ((pathCount_le_one fun draft hdraft => (hdrafts draft hdraft).1).trans
        (Nat.one_le_iff_ne_zero.mpr h.max_pos))
    refine deletionConverges_of_directories hplan'
      (h'.unblocked_iff.mpr
        (h.deleteFolder_unblocked hconverged hspec hpath hmem hchildless ⟨r, hr, hid⟩))
      fun action haction => ?_
    obtain ⟨draft, hdraft, -, hdraftKind⟩ :=
      (h'.exists_action_iff action.relativePath action.kind).mp ⟨action, haction, rfl, rfl⟩
    rw [← hdraftKind]
    exact (hdrafts draft hdraft).2

/-- A converged root with the folder `d`; with `full`, the file `d/f` as well. -/
def ownedFolderInputs (full : Bool) : RootInputs where
  remoteItems := ⟨['1'], some ['r'], ['d'], .folder, none, none, false⟩ ::
    if full then [⟨['2'], some ['1'], ['f'], .file, some 3, none, false⟩] else []
  localEntries := ⟨['d'], .directory, by decide⟩ ::
    if full then [⟨['d', '/', 'f'], .file, by decide⟩] else []
  receipts := ⟨['1'], ['d'], .directory, .current, by decide, by decide⟩ ::
    if full then [⟨['2'], ['d', '/', 'f'], .file, .current, by decide, by decide⟩] else []

/-- The plan of a converged root. -/
def convergedPlan (directories files : ℕ) : ReceiveOnlyConvergencePlan where
  actions := []
  remoteItems := directories + files
  localEntries := directories + files
  receiptCount := directories + files
  createDirectories := 0
  materializeMissingFiles := 0
  verifyExistingFiles := 0
  revalidateStaleFileReplacements := 0
  revalidateStaleFileDeletions := 0
  deleteOwnedEmptyDirectories := 0
  blockedActions := 0
  currentOwnedFiles := files
  currentOwnedDirectories := directories
  unownedMatchingDirectories := 0

theorem folder_deletion_converges_iff_empty :
    DeletionConverges 10 ((ownedFolderInputs false).deleteFolder ['1']) ↔
      ∀ item ∈ (ownedFolderInputs false).remoteItems, item.parentRemoteId ≠ some ['1'] :=
  folder_deletion_converges_iff (ownedFolderInputs false) 10 (convergedPlan 1 0)
    ⟨['1'], some ['r'], ['d'], .folder, none, none, false⟩ (by rfl) rfl List.mem_cons_self rfl
    (by decide)

/-- Deleting the folder `d` with its file `d/f` blocks the next plan. -/
theorem folder_deletion_blocks_on_file :
    ¬ ∀ (inputs : RootInputs) (maxActions : ℕ) (plan : ReceiveOnlyConvergencePlan)
      (folder : RemoteItem), inputs.planWithin maxActions = .ok plan → plan.actions = [] →
        folder ∈ inputs.remoteItems → folder.kind = .folder →
        (∀ item ∈ inputs.remoteItems,
          item.remoteId ∈ subtreeRemoteIds inputs.remoteItems folder.remoteId →
            ∃ r ∈ inputs.receipts, r.remoteId = item.remoteId ∧ r.state = .current) →
        DeletionConverges maxActions (inputs.deleteFolder folder.remoteId) := by
  intro h
  have hrun := h (ownedFolderInputs true) 10 (convergedPlan 1 1)
    ⟨['1'], some ['r'], ['d'], .folder, none, none, false⟩ (by rfl) rfl List.mem_cons_self rfl
    (by decide)
  obtain ⟨plan, hplan, hblocked⟩ := hrun.exists_plan
  have hactual : ((ownedFolderInputs true).deleteFolder ['1']).planWithin 10 =
      .ok { convergedPlan 1 1 with
        actions := [⟨.revalidateStaleFileDeletion, some ['2'], ['d', '/', 'f'], 2⟩,
          ⟨.blocked, some ['1'], ['d'], 1⟩]
        remoteItems := 0
        revalidateStaleFileDeletions := 1
        blockedActions := 1
        currentOwnedFiles := 0
        currentOwnedDirectories := 0 } := by rfl
  obtain rfl := Except.ok.inj (hactual.symm.trans hplan)
  exact absurd hblocked (by decide)

end NubiSync
