import NubiSync.Sync.ConvergenceSpec

set_option autoImplicit false

/-! # Destructive actions are safe

The convergence plan may delete or overwrite what a user has on disk. `SafePlan` lists what every such
action must rest on, in terms of the catalog tree, the local scan and the receipts alone, and
`planReceiveOnlyConvergence_safe` proves it of every plan. The argument goes kind by kind: the
spec lemmas below say which candidate a kind can come from, and `kindsAgree` carries candidates to the
plan and back. -/

namespace NubiSync

/-! ## Where each kind comes from -/

section Kinds

variable {expectedPaths : List RemoteExpectedPath} {localEntries : List LocalTreeEntry}
  {receipts : List ReceiveOnlyOwnershipReceipt}
variable (hd : DistinctInputs expectedPaths localEntries receipts)

/-- The kinds only the second pass emits. -/
def IsRemoval (kind : ReceiveOnlyConvergenceActionKind) : Prop :=
  kind = .revalidateStaleFileDeletion ∨ kind = .deleteOwnedEmptyDirectory

theorem matchLocalEntry_not_removal {remoteKind : RemoteItemKind}
    {localEntry : Option LocalTreeEntryKind} {receiptState : Option ReceiveOnlyReceiptState}
    {kind : ReceiveOnlyConvergenceActionKind}
    (h : matchLocalEntry remoteKind localEntry receiptState = .act kind) : ¬ IsRemoval kind := by
  rintro (rfl | rfl) <;> revert h <;>
    rcases localEntry with _ | _ | _ <;> rcases receiptState with _ | _ | _ <;>
    cases remoteKind <;> decide

include hd in
theorem DistinctInputs.classify_not_removal {e : RemoteExpectedPath}
    {kind : ReceiveOnlyConvergenceActionKind}
    (h : classifyExpected (convergenceIndex expectedPaths localEntries receipts) e = .act kind) :
    ¬ IsRemoval kind := by
  by_cases hconflict : ReceiptConflict receipts e
  · rw [hd.classify_of_conflict hconflict] at h
    obtain rfl := ExpectedOutcome.act.inj h
    simp [IsRemoval]
  · rw [hd.classify_of_no_conflict hconflict] at h
    exact matchLocalEntry_not_removal h

/-- The kinds only the first pass emits. -/
def IsExpectedWork (kind : ReceiveOnlyConvergenceActionKind) : Prop :=
  kind ≠ .blocked ∧ ¬ IsRemoval kind

theorem staleRemovalKind_not_expectedWork (localEntries : List LocalTreeEntry)
    (entry : LocalTreeEntry) : ¬ IsExpectedWork (staleRemovalKind localEntries entry) := by
  unfold staleRemovalKind IsExpectedWork IsRemoval
  cases entry.kind with
  | file => simp
  | directory => by_cases h : localDirectoryIsEmpty entry.relativePath localEntries <;> simp [h]

include hd in
theorem DistinctInputs.localDraft_not_expectedWork {entry : LocalTreeEntry} {draft : ActionDraft}
    (h : localDraft (convergenceIndex expectedPaths localEntries receipts) localEntries entry =
      some draft) : ¬ IsExpectedWork draft.kind := by
  have houtside := (localDraft_path h).2
  have hlocal : ∀ e ∈ expectedPaths, e.relativePath ≠ entry.relativePath := by
    simpa [convergenceIndex] using houtside
  by_cases howned : ∃ receipt, StaleOwned expectedPaths receipts entry receipt
  · obtain ⟨receipt, hreceipt⟩ := howned
    rw [hd.localDraft_of_staleOwned hlocal hreceipt] at h
    obtain rfl := Option.some.inj h
    exact staleRemovalKind_not_expectedWork localEntries entry
  · obtain ⟨remoteId, hblocked⟩ := hd.localDraft_of_not_staleOwned hlocal howned
    rw [hblocked] at h
    obtain rfl := Option.some.inj h
    simp [IsExpectedWork]

include hd in
/-- A candidate of an expected-work kind is the first pass's at that path. -/
theorem DistinctInputs.exists_expectedWork_iff {kind : ReceiveOnlyConvergenceActionKind}
    (hkind : IsExpectedWork kind) (path : Text) :
    (∃ draft ∈ planDrafts expectedPaths localEntries receipts,
      draft.relativePath = path ∧ draft.kind = kind) ↔
      ∃ e ∈ expectedPaths, e.relativePath = path ∧
        classifyExpected (convergenceIndex expectedPaths localEntries receipts) e = .act kind := by
  constructor
  · rintro ⟨draft, hdraft, rfl, rfl⟩
    rcases (mem_planDrafts _ _ _ draft).mp hdraft with ⟨e, he, hea⟩ | ⟨l, hl, hla⟩ | ⟨r, hr, hra⟩
    · obtain ⟨kind, hclass, rfl⟩ := expectedDraft_eq_some.mp hea
      exact ⟨e, he, rfl, hclass⟩
    · exact absurd hkind (hd.localDraft_not_expectedWork hla)
    · rw [(receiptDraft_eq_some hra).1] at hkind
      exact absurd rfl hkind.1
  · rintro ⟨e, he, rfl, hclass⟩
    exact ⟨_, (mem_planDrafts _ _ _ _).mpr
      (Or.inl ⟨e, he, expectedDraft_eq_some.mpr ⟨kind, hclass, rfl⟩⟩), rfl, rfl⟩

include hd in
/-- A candidate of a removal kind is the second pass's at that path: a local-only entry whose stale
    receipt belongs to a vanished item. -/
theorem DistinctInputs.exists_removal_iff {kind : ReceiveOnlyConvergenceActionKind}
    (hkind : IsRemoval kind) (path : Text) :
    (∃ draft ∈ planDrafts expectedPaths localEntries receipts,
      draft.relativePath = path ∧ draft.kind = kind) ↔
      ∃ entry ∈ localEntries, entry.relativePath = path ∧
        (∀ e ∈ expectedPaths, e.relativePath ≠ path) ∧
        (∃ receipt, StaleOwned expectedPaths receipts entry receipt) ∧
        staleRemovalKind localEntries entry = kind := by
  constructor
  · rintro ⟨draft, hdraft, rfl, rfl⟩
    rcases (mem_planDrafts _ _ _ draft).mp hdraft with ⟨e, he, hea⟩ | ⟨l, hl, hla⟩ | ⟨r, hr, hra⟩
    · obtain ⟨kind, hclass, rfl⟩ := expectedDraft_eq_some.mp hea
      exact absurd hkind (hd.classify_not_removal hclass)
    · obtain ⟨hpath, houtside⟩ := localDraft_path hla
      have hlocal : ∀ e ∈ expectedPaths, e.relativePath ≠ l.relativePath := by
        simpa [convergenceIndex] using houtside
      by_cases howned : ∃ receipt, StaleOwned expectedPaths receipts l receipt
      · obtain ⟨receipt, hreceipt⟩ := howned
        rw [hd.localDraft_of_staleOwned hlocal hreceipt] at hla
        obtain rfl := Option.some.inj hla
        exact ⟨l, hl, rfl, hlocal, ⟨receipt, hreceipt⟩, rfl⟩
      · obtain ⟨remoteId, hblocked⟩ := hd.localDraft_of_not_staleOwned hlocal howned
        rw [hblocked] at hla
        obtain rfl := Option.some.inj hla
        simp [IsRemoval] at hkind
    · rw [(receiptDraft_eq_some hra).1] at hkind
      simp [IsRemoval] at hkind
  · rintro ⟨entry, hentry, rfl, hlocal, ⟨receipt, hreceipt⟩, rfl⟩
    exact ⟨_, (mem_planDrafts _ _ _ _).mpr (Or.inr (Or.inl ⟨entry, hentry,
      hd.localDraft_of_staleOwned hlocal hreceipt⟩)), rfl, rfl⟩

end Kinds

/-! ## Reading the plan -/

section Plan

variable {remoteItems : List RemoteItem} {localEntries : List LocalTreeEntry}
  {receipts : List ReceiveOnlyOwnershipReceipt} {maxActions : ℕ}
  {expectedPaths : List RemoteExpectedPath} {drafts : ActionMap} {plan : ReceiveOnlyConvergencePlan}

theorem PlannedFrom.actions_eq
    (h : PlannedFrom remoteItems localEntries receipts maxActions expectedPaths drafts plan) :
    plan.actions = actionsOf drafts := by
  rw [h.plan_eq]
  rfl

/-- The kinds of a plan's actions are the kinds of its candidates, path by path. -/
theorem PlannedFrom.exists_action_iff
    (h : PlannedFrom remoteItems localEntries receipts maxActions expectedPaths drafts plan)
    (path : Text) (kind : ReceiveOnlyConvergenceActionKind) :
    (∃ action ∈ plan.actions, action.relativePath = path ∧ action.kind = kind) ↔
      ∃ draft ∈ planDrafts expectedPaths localEntries receipts,
        draft.relativePath = path ∧ draft.kind = kind := by
  rw [h.actions_eq]
  exact h.holds.exists_action_iff h.distinct.kindsAgree path kind

/-- A plan is blocked exactly when a candidate is. -/
theorem PlannedFrom.blocked_iff
    (h : PlannedFrom remoteItems localEntries receipts maxActions expectedPaths drafts plan) :
    plan.blocked = true ↔ ∃ draft ∈ planDrafts expectedPaths localEntries receipts,
      draft.kind = .blocked := by
  have hcount : plan.blockedActions = plan.actions.countP (·.kind == .blocked) := by
    rw [h.actions_eq, h.plan_eq]
    rfl
  rw [ReceiveOnlyConvergencePlan.blocked, bne_iff_ne, hcount, ne_eq, List.countP_eq_zero]
  constructor
  · intro hsome
    push Not at hsome
    obtain ⟨action, haction, hkind⟩ := hsome
    obtain ⟨draft, hdraft, -, hdraftKind⟩ :=
      (h.exists_action_iff action.relativePath .blocked).mp
        ⟨action, haction, rfl, by simpa using hkind⟩
    exact ⟨draft, hdraft, hdraftKind⟩
  · rintro ⟨draft, hdraft, hkind⟩ hnone
    obtain ⟨action, haction, -, hactionKind⟩ :=
      (h.exists_action_iff draft.relativePath .blocked).mpr ⟨draft, hdraft, rfl, hkind⟩
    exact hnone action haction (by simpa using hactionKind)

end Plan

/-! ## The safety contract -/

/-- The expected paths of a catalog name exactly its items. -/
theorem ExpectedPathsOf.exists_id_iff {items : List RemoteItem} {root : Text}
    {expected : List RemoteExpectedPath} (h : ExpectedPathsOf items root expected) (id : Text) :
    (∃ e ∈ expected, e.remoteId = id) ↔ ∃ item ∈ items, item.remoteId = id := by
  constructor
  · rintro ⟨e, he, rfl⟩
    obtain ⟨item, path, hpath, rfl⟩ := (h.mem_iff e).mp he
    exact ⟨item, hpath.mem, rfl⟩
  · rintro ⟨item, hitem, rfl⟩
    obtain ⟨path, hpath⟩ := h.tree.rooted item hitem
    exact ⟨item.expectedAt path, (h.mem_iff _).mpr ⟨item, path, hpath, rfl⟩, rfl⟩

/-- What the actions of a plan must rest on. -/
structure SafePlan (items : List RemoteItem) (root : Text) (localEntries : List LocalTreeEntry)
    (receipts : List ReceiveOnlyOwnershipReceipt) (plan : ReceiveOnlyConvergencePlan) : Prop where
  /-- A removal needs a local entry of the removed kind, a stale receipt of exactly that path and
      kind whose item has left the catalog, no item expected at the path, and an empty directory. -/
  removal : ∀ action ∈ plan.actions, IsRemoval action.kind →
    ∃ entry ∈ localEntries, entry.relativePath = action.relativePath ∧
      (entry.kind = .file ↔ action.kind = .revalidateStaleFileDeletion) ∧
      (∃ receipt ∈ receipts, receipt.relativePath = action.relativePath ∧ receipt.state = .stale ∧
        receipt.kind = entry.kind ∧ ∀ item ∈ items, item.remoteId ≠ receipt.remoteId) ∧
      (∀ item, ¬ PathOf items root item action.relativePath) ∧
      (entry.kind = .directory →
        ∀ other ∈ localEntries, ¬ Text.IsBelow action.relativePath other.relativePath)
  /-- A replacement needs a catalogued file expected at the path, a local file there, and the stale
      receipt of that very file for that path. -/
  replacement : ∀ action ∈ plan.actions, action.kind = .revalidateStaleFileReplacement →
    ∃ item, PathOf items root item action.relativePath ∧ item.kind = .file ∧
      (∃ entry ∈ localEntries, entry.relativePath = action.relativePath ∧ entry.kind = .file) ∧
      ∃ receipt ∈ receipts, receipt.remoteId = item.remoteId ∧
        receipt.relativePath = action.relativePath ∧ receipt.kind = .file ∧ receipt.state = .stale
  /-- A local entry that is neither expected nor removed is blocked. -/
  local_only : ∀ entry ∈ localEntries, (∀ item, ¬ PathOf items root item entry.relativePath) →
    (∀ action ∈ plan.actions, action.relativePath = entry.relativePath → ¬ IsRemoval action.kind) →
    ∃ action ∈ plan.actions, action.relativePath = entry.relativePath ∧ action.kind = .blocked
  /-- A receipt that disagrees with its item on the path or the kind blocks the plan. -/
  moved_receipt : ∀ receipt ∈ receipts, ∀ item path, PathOf items root item path →
    item.remoteId = receipt.remoteId →
    receipt.relativePath ≠ path ∨ receipt.kind ≠ localKindForRemote item.kind →
    plan.blocked = true
  /-- No path carries two actions. -/
  one_action : (plan.actions.map ReceiveOnlyConvergenceAction.relativePath).Nodup

section Safety

variable {remoteItems : List RemoteItem} {localEntries : List LocalTreeEntry}
  {receipts : List ReceiveOnlyOwnershipReceipt} {maxActions : ℕ}
  {expectedPaths : List RemoteExpectedPath} {drafts : ActionMap} {plan : ReceiveOnlyConvergencePlan}
variable (h : PlannedFrom remoteItems localEntries receipts maxActions expectedPaths drafts plan)
variable {root : Text} (hspec : ExpectedPathsOf remoteItems root expectedPaths)

include h hspec

theorem PlannedFrom.removal_safe {action : ReceiveOnlyConvergenceAction}
    (haction : action ∈ plan.actions) (hkind : IsRemoval action.kind) :
    ∃ entry ∈ localEntries, entry.relativePath = action.relativePath ∧
      (entry.kind = .file ↔ action.kind = .revalidateStaleFileDeletion) ∧
      (∃ receipt ∈ receipts, receipt.relativePath = action.relativePath ∧ receipt.state = .stale ∧
        receipt.kind = entry.kind ∧ ∀ item ∈ remoteItems, item.remoteId ≠ receipt.remoteId) ∧
      (∀ item, ¬ PathOf remoteItems root item action.relativePath) ∧
      (entry.kind = .directory →
        ∀ other ∈ localEntries, ¬ Text.IsBelow action.relativePath other.relativePath) := by
  obtain ⟨entry, hentry, hpath, houtside, ⟨receipt, howned⟩, hremoval⟩ :=
    (h.distinct.exists_removal_iff hkind action.relativePath).mp
      ((h.exists_action_iff _ _).mp ⟨action, haction, rfl, rfl⟩)
  refine ⟨entry, hentry, hpath, ?_, ⟨receipt, howned.mem, howned.path.trans hpath, howned.stale,
    howned.kind, fun item hitem hid => ?_⟩, fun item hitem => ?_, fun hdirectory => ?_⟩
  · rw [← hremoval, staleRemovalKind]
    cases entry.kind with
    | file => simp
    | directory => by_cases hempty : localDirectoryIsEmpty entry.relativePath localEntries <;>
        simp [hempty]
  · obtain ⟨e, he, heid⟩ := (hspec.exists_id_iff receipt.remoteId).mpr ⟨item, hitem, hid⟩
    exact howned.absent e he heid
  · exact houtside _ ((hspec.mem_iff _).mpr ⟨item, _, hitem, rfl⟩) rfl
  · -- a directory that is not empty is classified as blocked, not removed
    rw [← hpath, ← localDirectoryIsEmpty_iff]
    by_contra hfull
    simp only [staleRemovalKind, hdirectory, if_neg hfull] at hremoval
    rw [← hremoval] at hkind
    simp [IsRemoval] at hkind

theorem PlannedFrom.replacement_safe {action : ReceiveOnlyConvergenceAction}
    (haction : action ∈ plan.actions) (hkind : action.kind = .revalidateStaleFileReplacement) :
    ∃ item, PathOf remoteItems root item action.relativePath ∧ item.kind = .file ∧
      (∃ entry ∈ localEntries, entry.relativePath = action.relativePath ∧ entry.kind = .file) ∧
      ∃ receipt ∈ receipts, receipt.remoteId = item.remoteId ∧
        receipt.relativePath = action.relativePath ∧ receipt.kind = .file ∧
        receipt.state = .stale := by
  have hwork : IsExpectedWork .revalidateStaleFileReplacement := by simp [IsExpectedWork, IsRemoval]
  obtain ⟨e, he, hpath, hclass⟩ := (h.distinct.exists_expectedWork_iff hwork _).mp
    ((h.exists_action_iff _ _).mp ⟨action, haction, rfl, hkind⟩)
  have hconflict : ¬ ReceiptConflict receipts e := fun hconflict => by
    rw [h.distinct.classify_of_conflict hconflict] at hclass
    simp at hclass
  rw [h.distinct.classify_of_no_conflict hconflict] at hclass
  -- the only arm with this outcome: a local file, expected as a file, with a stale receipt
  obtain ⟨hfile, hlocal, hstale⟩ : e.kind = .file ∧
      (convergenceIndex expectedPaths localEntries receipts).localByPath.lookup e.relativePath =
        some .file ∧
      ((convergenceIndex expectedPaths localEntries receipts).receiptByRemoteId.lookup
        e.remoteId).map ReceiveOnlyOwnershipReceipt.state = some .stale := by
    revert hclass
    generalize (convergenceIndex expectedPaths localEntries receipts).localByPath.lookup
      e.relativePath = localEntry
    generalize ((convergenceIndex expectedPaths localEntries receipts).receiptByRemoteId.lookup
      e.remoteId).map ReceiveOnlyOwnershipReceipt.state = state
    rcases localEntry with _ | _ | _ <;> rcases state with _ | _ | _ <;> cases e.kind <;> decide
  obtain ⟨item, path, hitem, rfl⟩ := (hspec.mem_iff e).mp he
  obtain rfl : path = action.relativePath := hpath
  obtain ⟨receipt, hreceipt, hstate⟩ := Option.map_eq_some_iff.mp hstale
  obtain ⟨hmem, hid⟩ := (h.distinct.lookup_id _ _).mp hreceipt
  obtain ⟨hrpath, hrkind⟩ : receipt.relativePath = action.relativePath ∧
      receipt.kind = localKindForRemote item.kind := by
    by_contra hdiff
    exact hconflict (Or.inl ⟨receipt, hmem, hid, not_and_or.mp hdiff⟩)
  refine ⟨item, hitem, hfile, (h.distinct.lookup_local _ _).mp hlocal, receipt, hmem, hid, hrpath,
    ?_, hstate⟩
  rw [hrkind, show item.kind = .file from hfile]
  rfl

theorem PlannedFrom.local_only_blocked {entry : LocalTreeEntry} (hentry : entry ∈ localEntries)
    (houtside : ∀ item, ¬ PathOf remoteItems root item entry.relativePath)
    (hkept : ∀ action ∈ plan.actions, action.relativePath = entry.relativePath →
      ¬ IsRemoval action.kind) :
    ∃ action ∈ plan.actions, action.relativePath = entry.relativePath ∧ action.kind = .blocked := by
  have hlocal : ∀ e ∈ expectedPaths, e.relativePath ≠ entry.relativePath := by
    intro e he hpath
    obtain ⟨item, path, hitem, rfl⟩ := (hspec.mem_iff e).mp he
    exact houtside item (hpath ▸ hitem)
  rw [h.exists_action_iff]
  by_cases howned : ∃ receipt, StaleOwned expectedPaths receipts entry receipt
  · obtain ⟨receipt, hreceipt⟩ := howned
    have hdraft := h.distinct.localDraft_of_staleOwned hlocal hreceipt
    have hmem := (mem_planDrafts expectedPaths localEntries receipts _).mpr
      (Or.inr (Or.inl ⟨entry, hentry, hdraft⟩))
    refine ⟨_, hmem, rfl, ?_⟩
    -- the entry's own candidate is a removal or blocked; no action at its path is a removal
    by_contra hnot
    have hremoval : IsRemoval (staleRemovalKind localEntries entry) := by
      by_contra hno
      exact staleRemovalKind_not_expectedWork localEntries entry ⟨hnot, hno⟩
    obtain ⟨action, haction, hpath, hkind⟩ := (h.exists_action_iff entry.relativePath _).mpr
      ⟨_, hmem, rfl, rfl⟩
    exact hkept action haction hpath (hkind ▸ hremoval)
  · obtain ⟨remoteId, hdraft⟩ := h.distinct.localDraft_of_not_staleOwned hlocal howned
    exact ⟨_, (mem_planDrafts _ _ _ _).mpr (Or.inr (Or.inl ⟨entry, hentry, hdraft⟩)), rfl, rfl⟩

theorem PlannedFrom.moved_receipt_blocks {receipt : ReceiveOnlyOwnershipReceipt}
    (hreceipt : receipt ∈ receipts) {item : RemoteItem} {path : Text}
    (hitem : PathOf remoteItems root item path) (hid : item.remoteId = receipt.remoteId)
    (hdiff : receipt.relativePath ≠ path ∨ receipt.kind ≠ localKindForRemote item.kind) :
    plan.blocked = true := by
  have he := (hspec.mem_iff (item.expectedAt path)).mpr ⟨item, path, hitem, rfl⟩
  have hclass := h.distinct.classify_of_conflict (e := item.expectedAt path)
    (Or.inl ⟨receipt, hreceipt, hid.symm, hdiff⟩)
  exact h.blocked_iff.mpr ⟨_, (mem_planDrafts _ _ _ _).mpr
    (Or.inl ⟨_, he, expectedDraft_eq_some.mpr ⟨_, hclass, rfl⟩⟩), rfl⟩

end Safety

/-- **Destructive-action safety.** Every plan is safe, for every catalog, local tree, receipt list and
    action limit. -/
theorem planReceiveOnlyConvergence_safe (remoteItems : List RemoteItem)
    (localEntries : List LocalTreeEntry) (receipts : List ReceiveOnlyOwnershipReceipt)
    (maxActions : ℕ) (plan : ReceiveOnlyConvergencePlan)
    (h : planReceiveOnlyConvergence remoteItems localEntries receipts maxActions = .ok plan) :
    ∃ root, CatalogTree remoteItems root ∧
      SafePlan remoteItems root localEntries receipts plan := by
  obtain ⟨expectedPaths, drafts, hplan⟩ := planReceiveOnlyConvergence_ok h
  obtain ⟨root, hspec⟩ := buildRemoteExpectedPaths_sound hplan.build
  exact ⟨root, hspec.tree,
    { removal := fun _ haction hkind => hplan.removal_safe hspec haction hkind
      replacement := fun _ haction hkind => hplan.replacement_safe hspec haction hkind
      local_only := fun _ hentry houtside hkept => hplan.local_only_blocked hspec hentry houtside hkept
      moved_receipt := fun _ hreceipt _ _ hitem hid hdiff =>
        hplan.moved_receipt_blocks hspec hreceipt hitem hid hdiff
      one_action := by
        rw [hplan.actions_eq]
        exact hplan.holds.nodup_paths }⟩

/-! The remote edited the file `a` and dropped the file `o`: one replacement and one deletion. -/

def editAndDropItems : List RemoteItem := [⟨['f'], some ['r'], ['a'], .file, some 5, none, false⟩]

def editAndDropLocal : List LocalTreeEntry :=
  [⟨['a'], .file, by decide⟩, ⟨['o'], .file, by decide⟩]

def editAndDropReceipts : List ReceiveOnlyOwnershipReceipt :=
  [⟨['f'], ['a'], .file, .stale, by decide, by decide⟩,
    ⟨['x'], ['o'], .file, .stale, by decide, by decide⟩]

def editAndDropPlan : ReceiveOnlyConvergencePlan where
  actions := [⟨.revalidateStaleFileReplacement, some ['f'], ['a'], 1⟩,
    ⟨.revalidateStaleFileDeletion, some ['x'], ['o'], 1⟩]
  remoteItems := 1
  localEntries := 2
  receiptCount := 2
  createDirectories := 0
  materializeMissingFiles := 0
  verifyExistingFiles := 0
  revalidateStaleFileReplacements := 1
  revalidateStaleFileDeletions := 1
  deleteOwnedEmptyDirectories := 0
  blockedActions := 0
  currentOwnedFiles := 0
  currentOwnedDirectories := 0
  unownedMatchingDirectories := 0

theorem planReceiveOnlyConvergence_safe_edit_and_drop :
    ∃ root, CatalogTree editAndDropItems root ∧
      SafePlan editAndDropItems root editAndDropLocal editAndDropReceipts editAndDropPlan :=
  planReceiveOnlyConvergence_safe editAndDropItems editAndDropLocal editAndDropReceipts 10
    editAndDropPlan (by rfl)

end NubiSync
