import NubiSync.Sync.PlanOrder
import NubiSync.Sync.Unblocked

set_option autoImplicit false

/-! # The order of the actions can be executed

The actions of a plan are sorted by class, depth and path, without a look at the tree. An executor that
takes them one by one still never works below a directory that is missing or gone: what an unblocked plan
creates hangs on folders of the catalog, which are there or are created earlier, and what it removes has
nothing below it that another action touches. -/

namespace NubiSync

/-- A scan lists the directory an entry lies in. -/
def ClosedUnderParents (localEntries : List LocalTreeEntry) : Prop :=
  ∀ entry ∈ localEntries, ∀ parent name, entry.relativePath = Text.child parent name → '/' ∉ name →
    ∃ directory ∈ localEntries, directory.relativePath = parent ∧ directory.kind = .directory

/-- The parent of a path is the root, a directory of the scan, or created by one of the actions. -/
def ParentAvailable (localEntries : List LocalTreeEntry)
    (earlier : List ReceiveOnlyConvergenceAction) (path : Text) : Prop :=
  '/' ∉ path ∨ ∃ parent name, path = Text.child parent name ∧ '/' ∉ name ∧
    ((∃ entry ∈ localEntries, entry.relativePath = parent ∧ entry.kind = .directory) ∨
      ∃ action ∈ earlier, action.relativePath = parent ∧ action.kind = .createDirectory)

/-- An order of actions that can be executed one by one. -/
structure ExecutableOrder (localEntries : List LocalTreeEntry)
    (actions : List ReceiveOnlyConvergenceAction) : Prop where
  parent_available : ∀ before action after, actions = before ++ action :: after →
    action.kind = .createDirectory ∨ action.kind = .materializeMissingFile →
    ParentAvailable localEntries before action.relativePath
  files_first : ∀ before action after, actions = before ++ action :: after →
    action.kind = .deleteOwnedEmptyDirectory →
    ∀ later ∈ after, later.kind ≠ .revalidateStaleFileDeletion
  removes_leaves : ∀ action ∈ actions, IsRemoval action.kind →
    ∀ other ∈ actions, ¬ Text.IsBelow action.relativePath other.relativePath

/-! ## Reading the sort -/

theorem pathDepth_child (parent name : Text) (hname : '/' ∉ name) :
    pathDepth (Text.child parent name) = pathDepth parent + 1 := by
  simp [pathDepth, Text.components_child parent name hname]

theorem pairwise_actionsOf (drafts : ActionMap) : (actionsOf drafts).Pairwise actionLe :=
  List.pairwise_insertionSort _ _

/-- What is not sorted behind an action stands before it. -/
theorem mem_before_of_not_actionLe {actions before after : List ReceiveOnlyConvergenceAction}
    (hsorted : actions.Pairwise actionLe) {action other : ReceiveOnlyConvergenceAction}
    (hsplit : actions = before ++ action :: after) (hother : other ∈ actions)
    (hnot : ¬ actionLe action other) : other ∈ before := by
  subst hsplit
  obtain ⟨-, hrest, -⟩ := List.pairwise_append.mp hsorted
  rcases List.mem_append.mp hother with hbefore | hother
  · exact hbefore
  rcases List.mem_cons.mp hother with rfl | hafter
  · exact absurd ((total_of actionLe other other).elim id id) hnot
  · exact absurd ((List.pairwise_cons.mp hrest).1 other hafter) hnot

/-- Directories are created before anything below them is created or fetched. -/
theorem not_actionLe_create {action create : ReceiveOnlyConvergenceAction}
    (hcreate : create.kind = .createDirectory) (hdepth : create.depth < action.depth)
    (hkind : action.kind = .createDirectory ∨ action.kind = .materializeMissingFile) :
    ¬ actionLe action create := by
  rw [actionLe, hcreate]
  rcases hkind with hkind | hkind
  · simp [hkind, actionPriority, depthBefore]
    omega
  · simp [hkind, actionPriority]

theorem not_actionLe_fileDeletion {action later : ReceiveOnlyConvergenceAction}
    (hdirectory : action.kind = .deleteOwnedEmptyDirectory)
    (hfile : later.kind = .revalidateStaleFileDeletion) : ¬ actionLe action later := by
  rw [actionLe, hdirectory, hfile]
  simp [actionPriority]

/-! ## Unblocked plans -/

section Executable

variable {remoteItems : List RemoteItem} {localEntries : List LocalTreeEntry}
  {receipts : List ReceiveOnlyOwnershipReceipt} {maxActions : ℕ}
  {expectedPaths : List RemoteExpectedPath} {drafts : ActionMap} {plan : ReceiveOnlyConvergencePlan}
  {root : Text}
variable (h : PlannedFrom remoteItems localEntries receipts maxActions expectedPaths drafts plan)
variable (hspec : ExpectedPathsOf remoteItems root expectedPaths)
variable (hu : UnblockedInputs expectedPaths localEntries receipts)

/-- An expected folder is on disk, or the plan creates it. -/
theorem PlannedFrom.folder_available
    (h : PlannedFrom remoteItems localEntries receipts maxActions expectedPaths drafts plan)
    (hu : UnblockedInputs expectedPaths localEntries receipts) {e : RemoteExpectedPath}
    (he : e ∈ expectedPaths) (hfolder : e.kind = .folder) :
    (∃ entry ∈ localEntries, entry.relativePath = e.relativePath ∧ entry.kind = .directory) ∨
      ⟨.createDirectory, some e.remoteId, e.relativePath, pathDepth e.relativePath⟩ ∈ plan.actions := by
  cases hpresent : isPresent localEntries e with
  | true =>
      obtain ⟨entry, hentry, hpath⟩ := (isPresent_iff localEntries e).mp hpresent
      refine Or.inl ⟨entry, hentry, hpath, ?_⟩
      rw [hu.local_kind e he entry hentry hpath, hfolder]
      rfl
  | false =>
      have hwork : IsExpectedWork .createDirectory := by simp [IsExpectedWork, IsRemoval]
      refine Or.inr (List.mem_of_mem_filter ((h.mem_work_iff hu hwork _).mpr ⟨e, he, ?_, rfl⟩))
      rw [isPlanned, hfolder, hpresent]
      rfl

include h hspec hu in
theorem PlannedFrom.parent_available {before after : List ReceiveOnlyConvergenceAction}
    {action : ReceiveOnlyConvergenceAction} (hsplit : plan.actions = before ++ action :: after)
    (hkind : action.kind = .createDirectory ∨ action.kind = .materializeMissingFile) :
    ParentAvailable localEntries before action.relativePath := by
  have hmem : action ∈ plan.actions.filter (·.kind == action.kind) :=
    List.mem_filter.mpr ⟨by simp [hsplit], by simp⟩
  have hwork : IsExpectedWork action.kind := by
    rcases hkind with hkind | hkind <;> simp [hkind, IsExpectedWork, IsRemoval]
  obtain ⟨e, he, -, haction⟩ := (h.mem_work_iff hu hwork action).mp hmem
  have hpath : action.relativePath = e.relativePath := by rw [haction]
  have hdepth : action.depth = pathDepth e.relativePath := by rw [haction]
  obtain ⟨item, path, hitem, rfl⟩ := (hspec.mem_iff e).mp he
  rw [hpath]
  cases hitem with
  | top hmem _ => exact Or.inl (hspec.tree.slash_free hmem)
  | @child folder _ parent hfolder hfolderKind hmem _ =>
      have hslash := hspec.tree.slash_free hmem
      refine Or.inr ⟨parent, item.name, rfl, hslash, ?_⟩
      rcases h.folder_available hu ((hspec.mem_iff _).mpr ⟨folder, parent, hfolder, rfl⟩)
        hfolderKind with hlocal | hcreate
      · exact Or.inl hlocal
      · refine Or.inr ⟨_, mem_before_of_not_actionLe (h.actions_eq ▸ pairwise_actionsOf drafts) hsplit
          hcreate (not_actionLe_create rfl ?_ hkind), rfl, rfl⟩
        rw [hdepth]
        exact (Nat.lt_succ_self _).trans_eq (pathDepth_child parent item.name hslash).symm

/-- A path below a local entry of a closed scan is below a directory. -/
theorem ClosedUnderParents.directory_above (hclosed : ClosedUnderParents localEntries)
    {entry : LocalTreeEntry} (hentry : entry ∈ localEntries) {above : Text}
    (hbelow : Text.IsBelow above entry.relativePath) :
    ∃ directory ∈ localEntries, directory.relativePath = above ∧ directory.kind = .directory := by
  induction hpath : entry.relativePath using Text.path_induction generalizing entry with
  | top name hname => exact absurd (hpath ▸ hbelow) (Text.not_isBelow_of_slash_free hname)
  | below parent name hname ih =>
      obtain ⟨directory, hdirectory, hparent, hkind⟩ := hclosed entry hentry parent name hpath hname
      rcases (Text.isBelow_child hname).mp (hpath ▸ hbelow) with rfl | hup
      · exact ⟨directory, hdirectory, hparent, hkind⟩
      · exact ih hdirectory (hparent ▸ hup) hparent

include h hspec hu in
theorem PlannedFrom.removes_leaves (hclosed : ClosedUnderParents localEntries)
    {action other : ReceiveOnlyConvergenceAction} (haction : action ∈ plan.actions)
    (hremoval : IsRemoval action.kind) (hother : other ∈ plan.actions) :
    ¬ Text.IsBelow action.relativePath other.relativePath := by
  intro hbelow
  obtain ⟨entry, hentry, hpath, -, -, houtside, hleaf⟩ := h.removal_safe hspec haction hremoval
  -- what lies below the removed path is expected work or another leftover
  by_cases hotherRemoval : IsRemoval other.kind
  · obtain ⟨otherEntry, hotherEntry, hotherPath, -⟩ := h.removal_safe hspec hother hotherRemoval
    rw [← hotherPath] at hbelow
    obtain ⟨directory, hdirectory, hsame, hkind⟩ := hclosed.directory_above hotherEntry hbelow
    obtain rfl := List.inj_on_of_nodup_map h.distinct.local_paths hdirectory hentry
      (hsame.trans hpath.symm)
    exact hleaf hkind otherEntry hotherEntry hbelow
  · have hwork : IsExpectedWork other.kind := by
      refine ⟨fun hblocked => ?_, hotherRemoval⟩
      obtain ⟨draft, hdraft, -, hkind⟩ := (h.exists_action_iff _ _).mp ⟨other, hother, rfl, hblocked⟩
      exact hu.no_blocked_draft h.distinct hdraft hkind
    obtain ⟨e, he, -, heq⟩ := (h.mem_work_iff hu hwork other).mp
      (List.mem_filter.mpr ⟨hother, by simp⟩)
    obtain ⟨item, path, hitem, rfl⟩ := (hspec.mem_iff e).mp he
    rw [heq] at hbelow
    obtain ⟨folder, hfolder, -⟩ := hitem.exists_above hspec.tree hbelow
    exact houtside folder hfolder

end Executable

/-- **The action order is executable**, over a scan that lists the directories its entries lie in. -/
theorem planReceiveOnlyConvergence_executable (remoteItems : List RemoteItem)
    (localEntries : List LocalTreeEntry) (receipts : List ReceiveOnlyOwnershipReceipt)
    (maxActions : ℕ) (plan : ReceiveOnlyConvergencePlan) (hclosed : ClosedUnderParents localEntries)
    (h : planReceiveOnlyConvergence remoteItems localEntries receipts maxActions = .ok plan)
    (hunblocked : plan.blocked = false) : ExecutableOrder localEntries plan.actions := by
  obtain ⟨expectedPaths, drafts, hplan⟩ := planReceiveOnlyConvergence_ok h
  obtain ⟨root, hspec⟩ := buildRemoteExpectedPaths_sound hplan.build
  have hu := hplan.unblocked_iff.mp hunblocked
  refine ⟨fun before action after hsplit hkind => hplan.parent_available hspec hu hsplit hkind,
    fun before action after hsplit hdirectory later hlater hfile => ?_,
    fun action haction hremoval other hother => hplan.removes_leaves hspec hu hclosed haction hremoval
      hother⟩
  have hsorted := pairwise_actionsOf drafts
  rw [← hplan.actions_eq, hsplit] at hsorted
  obtain ⟨-, hrest, -⟩ := List.pairwise_append.mp hsorted
  exact not_actionLe_fileDeletion hdirectory hfile ((List.pairwise_cons.mp hrest).1 later hlater)

/-! A folder to create, a file to fetch into it and a file the remote has dropped. -/

def createAndDropLocal : List LocalTreeEntry := [⟨"o".toList, .file, .refl true⟩]

def createAndDropReceipts : List ReceiveOnlyOwnershipReceipt :=
  [⟨"gone".toList, "o".toList, .file, .stale, .refl false, .refl true⟩]

theorem closedUnderParents_createAndDrop : ClosedUnderParents createAndDropLocal := by
  intro entry hentry parent name hpath _
  obtain rfl := List.mem_singleton.mp hentry
  have hname : "o".toList = parent ++ '/' :: name := hpath
  have hslash : '/' ∈ "o".toList := by simp [hname]
  exact absurd hslash (by decide)

theorem planReceiveOnlyConvergence_executable_create_and_drop :
    ExecutableOrder createAndDropLocal
      [⟨.createDirectory, some "folder".toList, "docs".toList, 1⟩,
        ⟨.materializeMissingFile, some "file".toList, "docs/a.txt".toList, 2⟩,
        ⟨.revalidateStaleFileDeletion, some "gone".toList, "o".toList, 1⟩] :=
  planReceiveOnlyConvergence_executable folderAndFileItems createAndDropLocal createAndDropReceipts 3
    _ closedUnderParents_createAndDrop rfl rfl

end NubiSync
