import Mathlib.Data.Prod.Lex
import NubiSync.Sync.ConvergenceSpec
import NubiSync.Sync.TreeOrder

set_option autoImplicit false

/-! # A plan does not depend on the order of its inputs

The planner reads its three lists through maps, so a permutation of them changes no lookup; it writes
its candidates through a map, so a permutation within a pass changes no entry; and it sorts what the map
holds by an order that is total on actions with distinct paths. `planReceiveOnlyConvergence_perm` puts
the three together: a plan is a function of the sets it was made from. -/

namespace NubiSync

open Indexing

/-! ## The same lookups, the same candidates -/

/-- Two indexes every pass reads alike. -/
structure SameLookups (index index' : ConvergenceIndex) : Prop where
  localByPath : ∀ path, index.localByPath.lookup path = index'.localByPath.lookup path
  receiptByRemoteId : ∀ id, index.receiptByRemoteId.lookup id = index'.receiptByRemoteId.lookup id
  receiptByPath : ∀ path, index.receiptByPath.lookup path = index'.receiptByPath.lookup path
  expectedByRemoteId : ∀ id, index.expectedByRemoteId.lookup id = index'.expectedByRemoteId.lookup id
  expectedPathNames : index.expectedPathNames = index'.expectedPathNames

theorem SameLookups.classifyExpected {index index' : ConvergenceIndex}
    (h : SameLookups index index') : classifyExpected index = classifyExpected index' := by
  funext expected
  simp only [NubiSync.classifyExpected, h.receiptByRemoteId, h.receiptByPath, h.localByPath]

theorem SameLookups.expectedDraft {index index' : ConvergenceIndex}
    (h : SameLookups index index') : expectedDraft index = expectedDraft index' := by
  funext expected
  simp only [NubiSync.expectedDraft, h.classifyExpected]

theorem SameLookups.receiptDraft {index index' : ConvergenceIndex}
    (h : SameLookups index index') : receiptDraft index = receiptDraft index' := by
  funext receipt
  simp only [NubiSync.receiptDraft, h.localByPath, h.expectedByRemoteId]

theorem localDirectoryIsEmpty_perm {localEntries localEntries' : List LocalTreeEntry}
    (hperm : localEntries.Perm localEntries') (path : Text) :
    localDirectoryIsEmpty path localEntries = localDirectoryIsEmpty path localEntries' := by
  rw [Bool.eq_iff_iff]
  simp only [localDirectoryIsEmpty, Bool.not_eq_true', List.any_eq_false]
  exact ⟨fun h l hl => h l (hperm.mem_iff.mpr hl), fun h l hl => h l (hperm.mem_iff.mp hl)⟩

theorem SameLookups.localDraft {index index' : ConvergenceIndex} (h : SameLookups index index')
    {localEntries localEntries' : List LocalTreeEntry} (hperm : localEntries.Perm localEntries') :
    localDraft index localEntries = localDraft index' localEntries' := by
  funext entry
  have hkind : staleRemovalKind localEntries entry = staleRemovalKind localEntries' entry := by
    unfold staleRemovalKind
    rw [localDirectoryIsEmpty_perm hperm]
  simp only [NubiSync.localDraft, h.expectedPathNames, h.receiptByPath, h.expectedByRemoteId, hkind]

/-! ## The same candidates, the same draft at every path -/

/-- A pass over entries with distinct paths drafts every path at most once. -/
theorem nodup_paths_filterMap {α : Type} {key : α → Text} {draft : α → Option ActionDraft}
    {xs : List α} (hpath : ∀ x d, draft x = some d → d.relativePath = key x)
    (hnodup : (xs.map key).Nodup) : ((xs.filterMap draft).map ActionDraft.relativePath).Nodup := by
  rw [List.Nodup, List.pairwise_map, List.pairwise_filterMap]
  refine (List.pairwise_map.mp hnodup).imp fun {a b} hne d hd d' hd' hsame => hne ?_
  rw [← hpath a d hd, ← hpath b d' hd', hsame]

theorem receiptDraft_path {index : ConvergenceIndex} {receipt : ReceiveOnlyOwnershipReceipt}
    {draft : ActionDraft} (h : receiptDraft index receipt = some draft) :
    draft.relativePath = receipt.relativePath := by
  rw [(receiptDraft_eq_some h).1]

section Drafts

variable {expectedPaths : List RemoteExpectedPath} {localEntries localEntries' : List LocalTreeEntry}
  {receipts receipts' : List ReceiveOnlyOwnershipReceipt}

theorem DistinctInputs.of_perm (hd : DistinctInputs expectedPaths localEntries receipts)
    (hlocal : localEntries.Perm localEntries') (hreceipts : receipts.Perm receipts') :
    DistinctInputs expectedPaths localEntries' receipts' where
  expected_ids := hd.expected_ids
  expected_paths := hd.expected_paths
  local_paths := (hlocal.map _).nodup_iff.mp hd.local_paths
  receipt_ids := (hreceipts.map _).nodup_iff.mp hd.receipt_ids
  receipt_paths := (hreceipts.map _).nodup_iff.mp hd.receipt_paths

theorem DistinctInputs.sameLookups (hd : DistinctInputs expectedPaths localEntries receipts)
    (hlocal : localEntries.Perm localEntries') (hreceipts : receipts.Perm receipts') :
    SameLookups (convergenceIndex expectedPaths localEntries receipts)
      (convergenceIndex expectedPaths localEntries' receipts') where
  localByPath := lookup_indexBy_perm hlocal hd.local_paths
  receiptByRemoteId := lookup_indexBy_perm hreceipts hd.receipt_ids
  receiptByPath := lookup_indexBy_perm hreceipts hd.receipt_paths
  expectedByRemoteId _ := rfl
  expectedPathNames := rfl

theorem DistinctInputs.planDrafts_perm (hd : DistinctInputs expectedPaths localEntries receipts)
    (hlocal : localEntries.Perm localEntries') (hreceipts : receipts.Perm receipts') :
    (planDrafts expectedPaths localEntries receipts).Perm
      (planDrafts expectedPaths localEntries' receipts') := by
  have hsame := hd.sameLookups hlocal hreceipts
  simp only [planDrafts, candidateDrafts, hsame.expectedDraft, hsame.localDraft hlocal,
    hsame.receiptDraft]
  exact ((List.Perm.refl _).append (hlocal.filterMap _)).append (hreceipts.filterMap _)

/-- **The first candidate at a path** is the same: the passes keep their order, and within a pass a path
    is drafted once. -/
theorem DistinctInputs.find?_planDrafts_perm
    (hd : DistinctInputs expectedPaths localEntries receipts)
    (hlocal : localEntries.Perm localEntries') (hreceipts : receipts.Perm receipts') (path : Text) :
    (planDrafts expectedPaths localEntries receipts).find? (·.relativePath = path) =
      (planDrafts expectedPaths localEntries' receipts').find? (·.relativePath = path) := by
  have hsame := hd.sameLookups hlocal hreceipts
  simp only [planDrafts, candidateDrafts, hsame.expectedDraft, hsame.localDraft hlocal,
    hsame.receiptDraft, List.find?_append]
  rw [find?_key_perm (hlocal.filterMap _)
      (nodup_paths_filterMap (fun _ _ h => (localDraft_path h).1) hd.local_paths),
    find?_key_perm (hreceipts.filterMap _)
      (nodup_paths_filterMap (fun _ _ h => receiptDraft_path h) hd.receipt_paths)]

end Drafts

/-! ## The order of the actions is total on distinct paths -/

/-- The depth as the action order counts it: directory removals run deepest first. -/
def depthRank (action : ReceiveOnlyConvergenceAction) : ℤ :=
  if action.kind = .deleteOwnedEmptyDirectory then -action.depth else action.depth

/-- What the action order compares, one component after the other. -/
def actionKey (action : ReceiveOnlyConvergenceAction) : ℕ ×ₗ ℤ ×ₗ Text :=
  toLex (actionPriority action.kind, toLex (depthRank action, action.relativePath))

/-- Directory removals are alone in their priority, so the depth comparison never mixes its two
    directions. -/
theorem delete_iff_of_priority {a b : ReceiveOnlyConvergenceAction}
    (h : actionPriority a.kind = actionPriority b.kind) :
    a.kind = .deleteOwnedEmptyDirectory ↔ b.kind = .deleteOwnedEmptyDirectory := by
  revert h
  cases a.kind <;> cases b.kind <;> simp [actionPriority]

theorem depthBefore_iff {a b : ReceiveOnlyConvergenceAction}
    (h : actionPriority a.kind = actionPriority b.kind) :
    depthBefore a b ↔ depthRank a < depthRank b := by
  have hdelete := delete_iff_of_priority h
  unfold depthBefore depthRank
  by_cases ha : a.kind = .deleteOwnedEmptyDirectory
  · rw [if_pos ⟨ha, hdelete.mp ha⟩, if_pos ha, if_pos (hdelete.mp ha)]
    omega
  · rw [if_neg fun hboth => ha hboth.1, if_neg ha, if_neg (mt hdelete.mpr ha)]
    omega

theorem depth_eq_iff {a b : ReceiveOnlyConvergenceAction}
    (h : actionPriority a.kind = actionPriority b.kind) :
    a.depth = b.depth ↔ depthRank a = depthRank b := by
  have hdelete := delete_iff_of_priority h
  unfold depthRank
  by_cases ha : a.kind = .deleteOwnedEmptyDirectory
  · rw [if_pos ha, if_pos (hdelete.mp ha)]
    omega
  · rw [if_neg ha, if_neg (mt hdelete.mpr ha)]
    omega

/-- **The action order is a lexicographic order**, so it is total and transitive. -/
theorem actionLe_iff (a b : ReceiveOnlyConvergenceAction) :
    actionLe a b ↔ actionKey a ≤ actionKey b := by
  rw [actionKey, actionKey, Prod.Lex.toLex_le_toLex, Prod.Lex.toLex_le_toLex, actionLe]
  refine or_congr_right (and_congr_right fun h => ?_)
  rw [depthBefore_iff h, depth_eq_iff h]

instance : Std.Total actionLe where
  total a b := by
    simp only [actionLe_iff]
    exact le_total _ _

instance : IsTrans ReceiveOnlyConvergenceAction actionLe where
  trans a b c hab hbc := by
    rw [actionLe_iff] at hab hbc ⊢
    exact hab.trans hbc

theorem actionLe_antisymm {a b : ReceiveOnlyConvergenceAction} (hab : actionLe a b)
    (hba : actionLe b a) : a.relativePath = b.relativePath := by
  rw [actionLe_iff] at hab hba
  exact congrArg (fun key => (ofLex (ofLex key).2).2) (le_antisymm hab hba)

/-! ## The same plan -/

/-- Draft maps that hold the same draft at every path are listed alike. -/
theorem actionsOf_eq {drafts drafts' : ActionMap} {candidates candidates' : List ActionDraft}
    (h : HoldsFirst drafts candidates) (h' : HoldsFirst drafts' candidates')
    (hfind : ∀ path, candidates.find? (·.relativePath = path) =
      candidates'.find? (·.relativePath = path)) : actionsOf drafts = actionsOf drafts' := by
  have hmem : ∀ action, action ∈ actionsOf drafts ↔ action ∈ actionsOf drafts' := fun action => by
    rw [h.mem_actionsOf, h'.mem_actionsOf, hfind]
  refine List.Perm.eq_of_pairwise (fun a b ha hb hab hba => ?_)
    (List.pairwise_insertionSort _ _) (List.pairwise_insertionSort _ _)
    ((List.perm_ext_iff_of_nodup h.nodup_paths.of_map h'.nodup_paths.of_map).mpr hmem)
  exact List.inj_on_of_nodup_map h'.nodup_paths ((hmem a).mp ha) hb (actionLe_antisymm hab hba)

/-- **Order independence.** A plan depends on the remote items, the local entries and the receipts, not
    on the order in which they are listed. -/
theorem planReceiveOnlyConvergence_perm
    {remoteItems remoteItems' : List RemoteItem} {localEntries localEntries' : List LocalTreeEntry}
    {receipts receipts' : List ReceiveOnlyOwnershipReceipt} {maxActions : ℕ}
    {plan : ReceiveOnlyConvergencePlan} (hremote : remoteItems.Perm remoteItems')
    (hlocal : localEntries.Perm localEntries') (hreceipts : receipts.Perm receipts')
    (h : planReceiveOnlyConvergence remoteItems localEntries receipts maxActions = .ok plan) :
    planReceiveOnlyConvergence remoteItems' localEntries' receipts' maxActions = .ok plan := by
  obtain ⟨expectedPaths, drafts, hplan⟩ := planReceiveOnlyConvergence_ok h
  have hd := hplan.distinct
  have hcount : pathCount (planDrafts expectedPaths localEntries' receipts') ≤ maxActions := by
    refine le_of_eq_of_le (List.Perm.length_eq ?_) hplan.limit
    exact ((hd.planDrafts_perm hlocal hreceipts).symm.map _).dedup
  obtain ⟨drafts', plan', hok, hplan'⟩ := planReceiveOnlyConvergence_isOk hplan.max_pos
    (buildRemoteExpectedPaths_perm hremote hplan.build) (hd.of_perm hlocal hreceipts) hcount
  have hactions := actionsOf_eq hplan.holds hplan'.holds
    (hd.find?_planDrafts_perm hlocal hreceipts)
  have hclassify := (hd.sameLookups hlocal hreceipts).classifyExpected
  rw [hok, hplan.plan_eq, hplan'.plan_eq]
  -- the counters are computed from the actions, the outcomes and the lengths, and all agree
  unfold actionsOf at hactions
  simp only [assemblePlan, hactions, hclassify, hremote.length_eq, hlocal.length_eq,
    hreceipts.length_eq]

/-- A file to fetch into an owned folder, and a file the remote has dropped. -/
def fetchAndDropLocal : List LocalTreeEntry :=
  [⟨"o".toList, .file, .refl true⟩, ⟨"docs".toList, .directory, .refl true⟩]

def fetchAndDropReceipts : List ReceiveOnlyOwnershipReceipt :=
  [⟨"gone".toList, "o".toList, .file, .stale, .refl false, .refl true⟩,
    ⟨"folder".toList, "docs".toList, .directory, .current, .refl false, .refl true⟩]

theorem planReceiveOnlyConvergence_perm_reverse :
    ∃ plan, planReceiveOnlyConvergence folderAndFileItems.reverse fetchAndDropLocal.reverse
      fetchAndDropReceipts.reverse 2 = .ok plan ∧ plan.actions =
        [⟨.materializeMissingFile, some "file".toList, "docs/a.txt".toList, 2⟩,
          ⟨.revalidateStaleFileDeletion, some "gone".toList, "o".toList, 1⟩] :=
  ⟨_, planReceiveOnlyConvergence_perm (List.reverse_perm _).symm (List.reverse_perm _).symm
    (List.reverse_perm _).symm rfl, rfl⟩

end NubiSync
