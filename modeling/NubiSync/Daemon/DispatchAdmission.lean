import NubiSync.Daemon.UnifiedConvergence
import NubiSync.Sync.UnblockedCounts

set_option autoImplicit false

/-! # Which dispatches are admitted

A dispatched phase runs only if its executor's own checks pass on the same inputs. The two deletion
phases always pass them. `CreateDirectories` is dispatched as soon as a directory is missing, while its
executor also refuses any tree with local-only entries; and the three phases that download are dispatched
whatever the sizes of the files, while their executors refuse an unknown size and one above the limit.
`dispatch_admitted_iff` says exactly which dispatches are admitted. -/

namespace NubiSync

open Checks

/-! ## What a dispatch says about the plan -/

/-- The counter of a phase. -/
def ReceiveOnlyConvergencePlan.phaseCount (plan : ReceiveOnlyConvergencePlan) :
    SelectedRootUnifiedConvergencePhase → ℕ
  | .createDirectories => plan.createDirectories
  | .materializeMissingFiles => plan.materializeMissingFiles
  | .verifyExistingFiles => plan.verifyExistingFiles
  | .replaceStaleFiles => plan.revalidateStaleFileReplacements
  | .deleteStaleFiles => plan.revalidateStaleFileDeletions
  | .deleteStaleDirectories => plan.deleteOwnedEmptyDirectories

theorem ite_ne_zero_eq_min (n : ℕ) : (if (n != 0) = true then 1 else 0) = min 1 n := by
  cases n with
  | zero => rfl
  | succ n => simp

theorem activeClasses_eq (plan : ReceiveOnlyConvergencePlan) :
    activeClasses plan = min 1 plan.materializeMissingFiles + min 1 plan.verifyExistingFiles
      + min 1 plan.revalidateStaleFileReplacements + min 1 plan.revalidateStaleFileDeletions
      + min 1 plan.deleteOwnedEmptyDirectories := by
  simp only [activeClasses, List.countP_cons, List.countP_nil, ite_ne_zero_eq_min]
  omega

/-- When one class besides the creation of directories is active, the others are not. -/
theorem phaseCount_other {plan : ReceiveOnlyConvergencePlan} (hcreate : plan.createDirectories = 0)
    (hone : activeClasses plan = 1) {phase other : SelectedRootUnifiedConvergencePhase}
    (hphase : plan.phaseCount phase ≠ 0) (hother : other ≠ phase) : plan.phaseCount other = 0 := by
  rw [activeClasses_eq] at hone
  cases phase <;> cases other <;> simp only [ReceiveOnlyConvergencePlan.phaseCount] at hphase ⊢ <;>
    first
    | exact absurd rfl hother
    | omega

/-- When one class is active, the chain of tests picks it. -/
theorem soleActivePhase_spec {plan : ReceiveOnlyConvergencePlan} (hcreate : plan.createDirectories = 0)
    (hone : activeClasses plan = 1) :
    (soleActivePhase plan).2.1 = plan.phaseCount (soleActivePhase plan).1 ∧
      plan.phaseCount (soleActivePhase plan).1 ≠ 0 ∧ (soleActivePhase plan).2.2 = 64 ∧
      ∀ other, other ≠ (soleActivePhase plan).1 → plan.phaseCount other = 0 := by
  have hactive : plan.phaseCount (soleActivePhase plan).1 ≠ 0 := by
    rw [activeClasses_eq] at hone
    unfold soleActivePhase
    split_ifs with hmissing hverify hreplace hdelete
    · exact hmissing
    · exact hverify
    · exact hreplace
    · exact hdelete
    · -- the last class of the chain is the active one for want of another
      show plan.deleteOwnedEmptyDirectories ≠ 0
      omega
  refine ⟨?_, hactive, ?_, fun other hother => phaseCount_other hcreate hone hactive hother⟩
  · unfold soleActivePhase
    split_ifs <;> rfl
  · unfold soleActivePhase
    split_ifs <;> rfl

/-- A dispatch names an unblocked plan and an active phase; a phase other than the creation of
    directories is alone and within its batch limit. -/
theorem decide_dispatch {plan : ReceiveOnlyConvergencePlan}
    {phase : SelectedRootUnifiedConvergencePhase} {plannedActions : ℕ}
    (h : decideSelectedRootUnifiedConvergenceStep plan = .ok (.dispatch phase plannedActions)) :
    plan.blocked = false ∧ plannedActions = plan.phaseCount phase ∧ plan.phaseCount phase ≠ 0 ∧
      (phase ≠ .createDirectories → plan.phaseCount phase ≤ 64 ∧
        ∀ other, other ≠ phase → plan.phaseCount other = 0) := by
  unfold decideSelectedRootUnifiedConvergenceStep at h
  split at h
  · simp at h
  next hblocked =>
  refine ⟨by simpa using hblocked, ?_⟩
  split at h
  · simp at h
  split at h
  · next hcreate =>
      obtain ⟨rfl, rfl⟩ : phase = .createDirectories ∧ plannedActions = plan.createDirectories := by
        simpa [eq_comm] using h
      exact ⟨rfl, hcreate, fun hne => absurd rfl hne⟩
  next hcreate =>
  split at h
  · simp at h
  next hone =>
  obtain ⟨hcount, hne, hmax, hothers⟩ :=
    soleActivePhase_spec (not_not.mp hcreate) (not_not.mp hone)
  simp only at h
  split at h
  · simp at h
  next hlimit =>
  obtain ⟨rfl, rfl⟩ : phase = (soleActivePhase plan).1 ∧
      plannedActions = (soleActivePhase plan).2.1 := by simpa [eq_comm] using h
  refine ⟨hcount, hne, fun _ => ⟨?_, hothers⟩⟩
  rw [← hcount, ← hmax]
  exact Nat.not_lt.mp hlimit

/-! ## Peeling the checks -/

@[simp] theorem fromMaterializationPlan_ok {α : Type} (a : α) :
    fromMaterializationPlan (.ok a) = .ok a := rfl

/-! ## The plan of the inputs -/

/-- The inputs of an unblocked plan within the daemon's action limit. -/
structure UnblockedRoot (inputs : RootInputs) (expectedPaths : List RemoteExpectedPath)
    (plan : ReceiveOnlyConvergencePlan) : Prop where
  planned : ∃ drafts, PlannedFrom inputs.remoteItems inputs.localEntries inputs.receipts
    selectedRootConvergenceMaxActions expectedPaths drafts plan
  plan_eq : planRootConvergence inputs = .ok plan
  not_blocked : plan.blocked = false

/-- The action kind of a phase. -/
def SelectedRootUnifiedConvergencePhase.actionKind :
    SelectedRootUnifiedConvergencePhase → ReceiveOnlyConvergenceActionKind
  | .createDirectories => .createDirectory
  | .materializeMissingFiles => .materializeMissingFile
  | .verifyExistingFiles => .verifyExistingFile
  | .replaceStaleFiles => .revalidateStaleFileReplacement
  | .deleteStaleFiles => .revalidateStaleFileDeletion
  | .deleteStaleDirectories => .deleteOwnedEmptyDirectory

theorem UnblockedRoot.of_plan {inputs : RootInputs} {plan : ReceiveOnlyConvergencePlan}
    (h : planRootConvergence inputs = .ok plan) (hblocked : plan.blocked = false) :
    ∃ expectedPaths, UnblockedRoot inputs expectedPaths plan := by
  unfold planRootConvergence at h
  split at h
  · next plan' hplan =>
      obtain rfl : plan' = plan := by simpa using h
      obtain ⟨expectedPaths, drafts, hplanned⟩ := planReceiveOnlyConvergence_ok hplan
      exact ⟨expectedPaths, ⟨drafts, hplanned⟩, by rw [planRootConvergence, hplan], hblocked⟩
  · simp at h

section Root

variable {inputs : RootInputs} {expectedPaths : List RemoteExpectedPath}
  {plan : ReceiveOnlyConvergencePlan}

theorem UnblockedRoot.unblocked (h : UnblockedRoot inputs expectedPaths plan) :
    UnblockedInputs expectedPaths inputs.localEntries inputs.receipts := by
  obtain ⟨drafts, hplanned⟩ := h.planned
  exact hplanned.unblocked_iff.mp h.not_blocked

theorem UnblockedRoot.distinct (h : UnblockedRoot inputs expectedPaths plan) :
    DistinctInputs expectedPaths inputs.localEntries inputs.receipts := by
  obtain ⟨drafts, hplanned⟩ := h.planned
  exact hplanned.distinct

theorem UnblockedRoot.build (h : UnblockedRoot inputs expectedPaths plan) :
    buildRemoteExpectedPaths inputs.remoteItems = .ok expectedPaths := by
  obtain ⟨drafts, hplanned⟩ := h.planned
  exact hplanned.build

theorem UnblockedRoot.phaseCount_eq (h : UnblockedRoot inputs expectedPaths plan)
    (phase : SelectedRootUnifiedConvergencePhase) :
    plan.phaseCount phase =
      classCount phase.actionKind expectedPaths inputs.localEntries inputs.receipts := by
  obtain ⟨drafts, hplanned⟩ := h.planned
  rw [← h.unblocked.countP_class hplanned.distinct hplanned.holds, ← hplanned.actions_eq]
  rw [hplanned.plan_eq]
  cases phase <;> rfl

/-- The counters of the plan, all at once. -/
structure RootCounts (inputs : RootInputs) (expectedPaths : List RemoteExpectedPath)
    (plan : ReceiveOnlyConvergencePlan) : Prop where
  remoteItems_eq : plan.remoteItems = inputs.remoteItems.length
  localEntries_eq : plan.localEntries = inputs.localEntries.length
  create : plan.createDirectories =
    outcomeCount (.act .createDirectory) expectedPaths inputs.localEntries inputs.receipts
  materialize : plan.materializeMissingFiles =
    outcomeCount (.act .materializeMissingFile) expectedPaths inputs.localEntries inputs.receipts
  verify : plan.verifyExistingFiles =
    outcomeCount (.act .verifyExistingFile) expectedPaths inputs.localEntries inputs.receipts
  replace : plan.revalidateStaleFileReplacements =
    outcomeCount (.act .revalidateStaleFileReplacement) expectedPaths inputs.localEntries
      inputs.receipts
  deleteFiles : plan.revalidateStaleFileDeletions =
    localOnlyCount .file expectedPaths inputs.localEntries
  deleteDirectories : plan.deleteOwnedEmptyDirectories =
    localOnlyCount .directory expectedPaths inputs.localEntries
  ownedFiles : plan.currentOwnedFiles =
    outcomeCount .currentOwnedFile expectedPaths inputs.localEntries inputs.receipts

theorem UnblockedRoot.counts (h : UnblockedRoot inputs expectedPaths plan) :
    RootCounts inputs expectedPaths plan := by
  obtain ⟨drafts, hplanned⟩ := h.planned
  exact
    { remoteItems_eq := by rw [hplanned.plan_eq]; rfl
      localEntries_eq := by rw [hplanned.plan_eq]; rfl
      create := h.phaseCount_eq .createDirectories
      materialize := h.phaseCount_eq .materializeMissingFiles
      verify := h.phaseCount_eq .verifyExistingFiles
      replace := h.phaseCount_eq .replaceStaleFiles
      deleteFiles := h.phaseCount_eq .deleteStaleFiles
      deleteDirectories := h.phaseCount_eq .deleteStaleDirectories
      ownedFiles := by
        rw [← h.unblocked.count_outcomes hplanned.distinct, hplanned.plan_eq]
        rfl }

/-- **The two planners agree**: every materialization counter is a sum of convergence counters. -/
structure PreflightAgrees (plan : ReceiveOnlyConvergencePlan)
    (preflight : ReceiveOnlyMaterializationPlan) : Prop where
  remoteItems : preflight.remoteItems = plan.remoteItems
  localEntries : preflight.localEntries = plan.localEntries
  missingDirectories : preflight.missingDirectories = plan.createDirectories
  missingFiles : preflight.missingFiles = plan.materializeMissingFiles
  remoteDirectories :
    preflight.remoteDirectories = plan.createDirectories + preflight.matchingDirectories
  existingFiles : preflight.existingFilesUnverified =
    plan.currentOwnedFiles + (plan.verifyExistingFiles + plan.revalidateStaleFileReplacements)
  remoteFiles : preflight.remoteFiles = plan.materializeMissingFiles +
    (plan.currentOwnedFiles + (plan.verifyExistingFiles + plan.revalidateStaleFileReplacements))
  localOnly : preflight.localOnlyEntries =
    plan.revalidateStaleFileDeletions + plan.deleteOwnedEmptyDirectories
  typeConflicts : preflight.typeConflicts = 0

theorem UnblockedRoot.preflight (h : UnblockedRoot inputs expectedPaths plan) :
    ∃ preflight, planReceiveOnlyMaterialization inputs.remoteItems inputs.localEntries =
      .ok preflight ∧ PreflightAgrees plan preflight := by
  obtain ⟨preflight, hpreflight, hm⟩ := h.unblocked.materialization h.distinct h.build
  have hc := h.counts
  have hexisting := hm.existingFiles
  rw [← hc.ownedFiles, ← hc.verify, ← hc.replace] at hexisting
  exact ⟨preflight, hpreflight,
    { remoteItems := hm.remoteItems_eq.trans hc.remoteItems_eq.symm
      localEntries := hm.localEntries_eq.trans hc.localEntries_eq.symm
      missingDirectories := hm.missingDirectories.trans hc.create.symm
      missingFiles := hm.missingFiles.trans hc.materialize.symm
      remoteDirectories := by rw [hm.remoteDirectories, hm.missingDirectories, ← hc.create]
      existingFiles := hexisting
      remoteFiles := by rw [hm.remoteFiles, hm.missingFiles, ← hc.materialize, hexisting]
      localOnly := by rw [hm.localOnly, ← hc.deleteFiles, ← hc.deleteDirectories]
      typeConflicts := hm.no_conflicts }⟩

theorem UnblockedRoot.missingDirectoryTargets (h : UnblockedRoot inputs expectedPaths plan) :
    ∃ targets, planReceiveOnlyMissingDirectoryTargets inputs.remoteItems inputs.localEntries =
      .ok targets ∧ targets.length = plan.createDirectories := by
  rw [h.counts.create]
  exact h.unblocked.missingDirectoryTargets h.distinct h.build

/-- The targets of the missing files are as many as the plan counts. -/
theorem UnblockedRoot.missingFiles_length (h : UnblockedRoot inputs expectedPaths plan) :
    ((expectedPaths.filter fun e => e.kind == .file && !isPresent inputs.localEntries e).map fun e =>
        (⟨e.remoteId, e.relativePath, e.sizeBytes⟩ : ReceiveOnlyFileTarget)).length =
      plan.materializeMissingFiles := by
  rw [List.length_map, ← List.countP_eq_length_filter, h.counts.materialize]
  refine List.countP_congr fun e _ => ?_
  rw [presenceOutcome_materialize]

/-! ## The receipt tables of an active phase -/

theorem UnblockedRoot.present_of_no_missing (h : UnblockedRoot inputs expectedPaths plan)
    (hmissing : plan.materializeMissingFiles = 0) {e : RemoteExpectedPath} (he : e ∈ expectedPaths)
    (hfile : e.kind = .file) : isPresent inputs.localEntries e = true := by
  rw [h.counts.materialize] at hmissing
  have := Counting.eq_false_of_countP_eq_zero hmissing he
  rw [presenceOutcome_materialize, hfile] at this
  simpa using this

/-- The current file receipts are the owned files, when no file is missing. -/
theorem UnblockedRoot.currentFiles_length (h : UnblockedRoot inputs expectedPaths plan)
    (hmissing : plan.materializeMissingFiles = 0) :
    (inputs.receiptTable .file .current).length = plan.currentOwnedFiles := by
  rw [RootInputs.receiptTable, h.unblocked.receiptTable_length h.distinct, h.counts.ownedFiles,
    Nat.add_zero, outcomeCount]
  refine List.countP_congr fun e he => ?_
  rw [presenceOutcome_ownedFile]
  cases hkind : e.kind with
  | file => simp [h.present_of_no_missing hmissing he hkind, localKindForRemote]
  | folder => simp [localKindForRemote]

/-- The stale file receipts are the files to replace and the files to delete, when no file is
    missing. -/
theorem UnblockedRoot.staleFiles_length (h : UnblockedRoot inputs expectedPaths plan)
    (hmissing : plan.materializeMissingFiles = 0) :
    (inputs.receiptTable .file .stale).length =
      plan.revalidateStaleFileReplacements + plan.revalidateStaleFileDeletions := by
  rw [RootInputs.receiptTable, h.unblocked.receiptTable_length h.distinct, h.counts.replace,
    h.counts.deleteFiles, outcomeCount]
  congr 1
  refine List.countP_congr fun e he => ?_
  rw [presenceOutcome_replace]
  cases hkind : e.kind with
  | file => simp [h.present_of_no_missing hmissing he hkind, localKindForRemote]
  | folder => simp [localKindForRemote]

/-- A stale directory receipt of a catalogued folder would stand for a missing directory. -/
theorem UnblockedRoot.not_staleDirectory (h : UnblockedRoot inputs expectedPaths plan)
    (hmissing : plan.createDirectories = 0) {e : RemoteExpectedPath} (he : e ∈ expectedPaths)
    (hfolder : e.kind = .folder) : receiptState inputs.receipts e ≠ some .stale := by
  rw [h.counts.create] at hmissing
  have hpresent := Counting.eq_false_of_countP_eq_zero hmissing he
  rw [presenceOutcome_create, hfolder] at hpresent
  exact h.unblocked.current_directory e he hfolder (by simpa using hpresent)

/-- The stale directory receipts are the directories to delete, when no directory is missing. -/
theorem UnblockedRoot.staleDirectories_length (h : UnblockedRoot inputs expectedPaths plan)
    (hmissing : plan.createDirectories = 0) :
    (inputs.receiptTable .directory .stale).length = plan.deleteOwnedEmptyDirectories := by
  rw [RootInputs.receiptTable, h.unblocked.receiptTable_length h.distinct,
    h.counts.deleteDirectories]
  have hnone : expectedPaths.countP (fun e => localKindForRemote e.kind == .directory &&
      receiptState inputs.receipts e == some .stale) = 0 := by
    rw [List.countP_eq_zero]
    intro e he
    cases hkind : e.kind with
    | file => simp [localKindForRemote]
    | folder => simp [h.not_staleDirectory hmissing he hkind]
  simp [hnone]

/-- Whether the item of a receipt is catalogued. -/
theorem UnblockedRoot.remotePresent_iff (h : UnblockedRoot inputs expectedPaths plan)
    (receipt : ReceiveOnlyOwnershipReceipt) :
    inputs.remoteItems.any (·.remoteId == receipt.remoteId) = true ↔
      ∃ e ∈ expectedPaths, e.remoteId = receipt.remoteId := by
  obtain ⟨root, hspec⟩ := buildRemoteExpectedPaths_sound h.build
  rw [hspec.exists_id_iff]
  simp

/-- Of the stale receipts of a kind, as many belong to vanished items as there are leftovers. -/
theorem UnblockedRoot.staleReceipts_absent (h : UnblockedRoot inputs expectedPaths plan)
    (kind : LocalTreeEntryKind) :
    (inputs.receiptTable kind .stale).countP
        (fun receipt => !inputs.remoteItems.any (·.remoteId == receipt.remoteId)) =
      localOnlyCount kind expectedPaths inputs.localEntries := by
  have hperm : (((inputs.receiptTable kind .stale).filter
      (fun receipt => !inputs.remoteItems.any (·.remoteId == receipt.remoteId))).map
        ReceiveOnlyOwnershipReceipt.relativePath).Perm
      ((inputs.localEntries.filter fun l => isLocalOnly expectedPaths l && l.kind == kind).map
        LocalTreeEntry.relativePath) := by
    refine (List.perm_ext_iff_of_nodup ?_ ?_).mpr fun path => ?_
    · exact h.distinct.receipt_paths.sublist
        ((List.filter_sublist.trans List.filter_sublist).map _)
    · exact h.distinct.local_paths.sublist (List.filter_sublist.map _)
    · simp only [List.mem_map, List.mem_filter, RootInputs.receiptTable, Bool.and_eq_true,
        beq_iff_eq, Bool.not_eq_true', ← Bool.not_eq_true, h.remotePresent_iff]
      constructor
      · rintro ⟨r, ⟨⟨hr, hkind, hstale⟩, habsent⟩, rfl⟩
        rcases h.unblocked.receipt_cases h.distinct hr with ⟨e, he, hid, -, -⟩ | ⟨l, hl, hlocal, ho⟩
        · exact absurd ⟨e, he, hid⟩ habsent
        · exact ⟨l, ⟨hl, hlocal, ho.kind.symm.trans hkind⟩, ho.path.symm⟩
      · rintro ⟨l, ⟨hl, hlocal, hkind⟩, rfl⟩
        obtain ⟨⟨r, ho⟩, -⟩ := h.unblocked.local_only l hl hlocal
        refine ⟨r, ⟨⟨ho.mem, ho.kind.trans hkind, ho.stale⟩, ?_⟩, ho.path⟩
        rintro ⟨e, he, hid⟩
        exact ho.absent e he hid
  have hlength := hperm.length_eq
  rw [List.length_map, List.length_map] at hlength
  rw [List.countP_eq_length_filter, hlength, localOnlyCount, List.countP_eq_length_filter]

/-- When all stale receipts of a kind are those of leftovers, none belongs to a catalogued item. -/
theorem UnblockedRoot.no_present_stale (h : UnblockedRoot inputs expectedPaths plan)
    (kind : LocalTreeEntryKind) (hlength : (inputs.receiptTable kind .stale).length =
      localOnlyCount kind expectedPaths inputs.localEntries) :
    ((inputs.receiptTable kind .stale).any fun receipt =>
      inputs.remoteItems.any (·.remoteId == receipt.remoteId)) = false := by
  rw [← h.staleReceipts_absent kind, eq_comm, List.countP_eq_length] at hlength
  rw [List.any_eq_false]
  intro receipt hreceipt
  simpa using hlength receipt hreceipt

/-! ## The sizes of downloads -/

/-- A size that the executors download. -/
def IsDownloadable (sizeBytes : Option ℕ) : Prop :=
  ∃ size, sizeBytes = some size ∧ size ≤ supervisedFileDownloadMaxBytes

theorem checkDownloadSize_eq_ok {target : ReceiveOnlyFileTarget} :
    checkDownloadSize target = .ok () ↔ IsDownloadable target.sizeBytes := by
  simp [checkDownloadSize, IsDownloadable]

/-- The files that a phase works on have sizes that can be downloaded. -/
def DownloadsFit (inputs : RootInputs) (expectedPaths : List RemoteExpectedPath)
    (phase : SelectedRootUnifiedConvergencePhase) : Prop :=
  ∀ e ∈ expectedPaths, isPlanned phase.actionKind inputs.localEntries inputs.receipts e = true →
    IsDownloadable e.sizeBytes

/-! ## The executors, one by one -/

/-- The creation of directories is admitted exactly on a tree without local-only entries. -/
theorem UnblockedRoot.admitDirectories_iff (h : UnblockedRoot inputs expectedPaths plan)
    (hlimit : plan.createDirectories ≤ selectedRootConvergenceMaxActions) :
    admitDirectories inputs = .ok () ↔
      plan.revalidateStaleFileDeletions + plan.deleteOwnedEmptyDirectories = 0 := by
  obtain ⟨preflight, hpreflight, hagree⟩ := h.preflight
  obtain ⟨targets, htargets, hlength⟩ := h.missingDirectoryTargets
  unfold admitDirectories
  rw [h.plan_eq, hpreflight, htargets]
  simp only [ok_bind, fromMaterializationPlan_ok, refuseIf_bind_eq_ok, refuseIf_eq_ok,
    ReceiveOnlyMaterializationPlan.readyForDirectoryPhase, h.not_blocked, hagree.typeConflicts,
    hagree.remoteItems, hagree.localEntries, hagree.missingDirectories, hagree.missingFiles,
    hagree.localOnly, hlength]
  simp [Nat.not_lt.mpr hlimit]

theorem UnblockedRoot.admitMissingFiles_ok (h : UnblockedRoot inputs expectedPaths plan)
    (hlimit : plan.materializeMissingFiles ≤ 64)
    (hothers : ∀ other, other ≠ .materializeMissingFiles → plan.phaseCount other = 0) :
    admitMissingFiles inputs = .ok () := by
  obtain ⟨preflight, hpreflight, hagree⟩ := h.preflight
  have htargets := h.unblocked.missingFileTargets h.distinct h.build
  have hlength := h.missingFiles_length
  have hcreate : plan.createDirectories = 0 := hothers .createDirectories (by decide)
  have hverify : plan.verifyExistingFiles = 0 := hothers .verifyExistingFiles (by decide)
  have hreplace : plan.revalidateStaleFileReplacements = 0 := hothers .replaceStaleFiles (by decide)
  have hfiles : plan.revalidateStaleFileDeletions = 0 := hothers .deleteStaleFiles (by decide)
  have hdirectories : plan.deleteOwnedEmptyDirectories = 0 :=
    hothers .deleteStaleDirectories (by decide)
  unfold admitMissingFiles
  rw [h.plan_eq, hpreflight, htargets]
  simp only [ok_bind, fromMaterializationPlan_ok, refuseIf_bind_eq_ok, refuseIf_eq_ok,
    ReceiveOnlyMaterializationPlan.readyForDirectoryPhase, h.not_blocked, hagree.typeConflicts,
    hagree.remoteItems, hagree.localEntries, hagree.missingDirectories, hagree.missingFiles,
    hagree.remoteDirectories, hagree.existingFiles, hagree.localOnly, hlength, hcreate, hverify,
    hreplace, hfiles, hdirectories, supervisedFileBatchMaxActions]
  simp [Nat.not_lt.mpr hlimit]

theorem UnblockedRoot.admitMissingFileDownloads_iff (h : UnblockedRoot inputs expectedPaths plan)
    (hlimit : plan.materializeMissingFiles ≤ 64)
    (hothers : ∀ other, other ≠ .materializeMissingFiles → plan.phaseCount other = 0) :
    admitMissingFileDownloads inputs = .ok () ↔
      DownloadsFit inputs expectedPaths .materializeMissingFiles := by
  unfold admitMissingFileDownloads
  rw [h.admitMissingFiles_ok hlimit hothers, h.unblocked.missingFileTargets h.distinct h.build]
  simp only [ok_bind, fromMaterializationPlan_ok, forM_eq_ok_iff, checkDownloadSize_eq_ok,
    List.forall_mem_map, List.mem_filter, and_imp]
  refine forall₂_congr fun e _ => ?_
  rw [isPlanned, SelectedRootUnifiedConvergencePhase.actionKind, presenceOutcome_materialize]

/-- A target that was collected for an action is one of the existing files. -/
def IsTargetOf (allTargets : List ReceiveOnlyFileTarget) (target : ReceiveOnlyFileTarget)
    (action : ReceiveOnlyConvergenceAction) : Prop :=
  target ∈ allTargets ∧ action.remoteId = some target.remoteId ∧
    action.relativePath = target.relativePath

/-- The verification loop finds a target for every planned action. -/
theorem collectVerificationTargets_ok (allTargets : List ReceiveOnlyFileTarget)
    (actions : List ReceiveOnlyConvergenceAction) (seen : List Text)
    (htargets : ∀ action ∈ actions, ∃ target ∈ allTargets,
      action.remoteId = some target.remoteId ∧ action.relativePath = target.relativePath)
    (hfresh : ∀ action ∈ actions, ∀ id ∈ seen, action.remoteId ≠ some id)
    (hnodup : (actions.map ReceiveOnlyConvergenceAction.remoteId).Nodup) :
    ∃ targets, collectVerificationTargets allTargets actions seen = .ok targets ∧
      targets.length = actions.length ∧
      (∀ target ∈ targets, ∃ action ∈ actions, IsTargetOf allTargets target action) ∧
      ∀ action ∈ actions, ∃ target ∈ targets, IsTargetOf allTargets target action := by
  induction actions generalizing seen with
  | nil => exact ⟨[], rfl, rfl, by simp, by simp⟩
  | cons action rest ih =>
      obtain ⟨target, htarget, hid, hpath⟩ := htargets action List.mem_cons_self
      obtain ⟨hhead, hnodup⟩ := List.nodup_cons.mp hnodup
      have hunseen : seen.contains target.remoteId = false := by
        rw [← Bool.not_eq_true, List.contains_iff_mem]
        exact fun hmem => hfresh action List.mem_cons_self _ hmem hid
      have hfound : (allTargets.find? fun t =>
          t.remoteId == target.remoteId && t.relativePath == action.relativePath).isSome := by
        rw [List.find?_isSome]
        exact ⟨target, htarget, by simp [hpath]⟩
      obtain ⟨found, hfound⟩ := Option.isSome_iff_exists.mp hfound
      obtain ⟨hfoundId, hfoundPath⟩ : found.remoteId = target.remoteId ∧
          found.relativePath = action.relativePath := by
        simpa using List.find?_some hfound
      obtain ⟨targets, hok, hlength, hactions, htargets⟩ := ih (target.remoteId :: seen)
        (fun a ha => htargets a (List.mem_cons_of_mem _ ha))
        (fun a ha id hid' => by
          rcases List.mem_cons.mp hid' with rfl | hid'
          · exact fun heq => hhead (List.mem_map.mpr ⟨a, ha, heq.trans hid.symm⟩)
          · exact hfresh a (List.mem_cons_of_mem _ ha) id hid')
        hnodup
      have hfirst : IsTargetOf allTargets found action :=
        ⟨List.mem_of_find?_eq_some hfound, by rw [hid, hfoundId], hfoundPath.symm⟩
      refine ⟨found :: targets, ?_, by simp [hlength], ?_, ?_⟩
      rotate_left
      · intro other hother
        rcases List.mem_cons.mp hother with rfl | hother
        · exact ⟨action, List.mem_cons_self, hfirst⟩
        · obtain ⟨a, ha, htargetOf⟩ := hactions other hother
          exact ⟨a, List.mem_cons_of_mem _ ha, htargetOf⟩
      · intro other hother
        rcases List.mem_cons.mp hother with rfl | hother
        · exact ⟨found, List.mem_cons_self, hfirst⟩
        · obtain ⟨t, ht, htargetOf⟩ := htargets other hother
          exact ⟨t, List.mem_cons_of_mem _ ht, htargetOf⟩
      simp only [collectVerificationTargets, hid, hunseen, hfound, hok, Bool.false_eq_true, if_false]
      rfl

/-- The verify actions of the plan are the present unreceipted files, each with its id. -/
theorem UnblockedRoot.mem_verify_actions (h : UnblockedRoot inputs expectedPaths plan)
    {action : ReceiveOnlyConvergenceAction}
    (haction : action ∈ plan.actions.filter (·.kind == .verifyExistingFile)) :
    ∃ e ∈ expectedPaths, isPlanned .verifyExistingFile inputs.localEntries inputs.receipts e = true ∧
      action.remoteId = some e.remoteId ∧ action.relativePath = e.relativePath := by
  obtain ⟨drafts, hplanned⟩ := h.planned
  obtain ⟨e, he, hverify, rfl⟩ := (hplanned.mem_work_iff h.unblocked
    (by simp [IsExpectedWork, IsRemoval]) action).mp haction
  exact ⟨e, he, hverify, rfl, rfl⟩

theorem UnblockedRoot.exists_verify_action (h : UnblockedRoot inputs expectedPaths plan)
    {e : RemoteExpectedPath} (he : e ∈ expectedPaths)
    (hverify : isPlanned .verifyExistingFile inputs.localEntries inputs.receipts e = true) :
    ∃ action ∈ plan.actions.filter (·.kind == .verifyExistingFile), action.remoteId = some e.remoteId := by
  obtain ⟨drafts, hplanned⟩ := h.planned
  exact ⟨_, (hplanned.mem_work_iff h.unblocked (by simp [IsExpectedWork, IsRemoval]) _).mpr
    ⟨e, he, hverify, rfl⟩, rfl⟩

theorem UnblockedRoot.verified_file {e : RemoteExpectedPath}
    (hverify : isPlanned .verifyExistingFile inputs.localEntries inputs.receipts e = true) :
    e.kind = .file ∧ isPresent inputs.localEntries e = true := by
  rw [isPlanned, presenceOutcome_verify, Bool.and_eq_true, Bool.and_eq_true, beq_iff_eq] at hverify
  exact hverify.1

theorem UnblockedRoot.actions_nodup (h : UnblockedRoot inputs expectedPaths plan) :
    (plan.actions.map ReceiveOnlyConvergenceAction.relativePath).Nodup := by
  obtain ⟨drafts, hplanned⟩ := h.planned
  rw [hplanned.actions_eq]
  exact hplanned.holds.nodup_paths

theorem UnblockedRoot.verify_actions_nodup (h : UnblockedRoot inputs expectedPaths plan) :
    ((plan.actions.filter (·.kind == .verifyExistingFile)).map
      ReceiveOnlyConvergenceAction.remoteId).Nodup := by
  refine List.Nodup.map_on (fun a ha b hb hid => ?_)
    ((List.Nodup.of_map _ h.actions_nodup).filter _)
  obtain ⟨e, he, -, hea, hpa⟩ := h.mem_verify_actions ha
  obtain ⟨e', he', -, heb, hpb⟩ := h.mem_verify_actions hb
  have hsame : e = e' := List.inj_on_of_nodup_map h.distinct.expected_ids he he'
    (Option.some.inj (hea.symm.trans (hid.trans heb)))
  exact List.inj_on_of_nodup_map h.actions_nodup (List.mem_filter.mp ha).1
    (List.mem_filter.mp hb).1 (by rw [hpa, hpb, hsame])

theorem UnblockedRoot.verify_actions_length (h : UnblockedRoot inputs expectedPaths plan) :
    (plan.actions.filter (·.kind == .verifyExistingFile)).length = plan.verifyExistingFiles := by
  obtain ⟨drafts, hplanned⟩ := h.planned
  rw [← List.countP_eq_length_filter, hplanned.plan_eq]
  rfl

/-- The verification is admitted exactly if every file that it has to verify has a size that can be
    downloaded. -/
theorem UnblockedRoot.admitVerification_iff (h : UnblockedRoot inputs expectedPaths plan)
    (hactive : plan.verifyExistingFiles ≠ 0) (hlimit : plan.verifyExistingFiles ≤ 64)
    (hothers : ∀ other, other ≠ .verifyExistingFiles → plan.phaseCount other = 0) :
    admitVerification inputs = .ok () ↔ DownloadsFit inputs expectedPaths .verifyExistingFiles := by
  obtain ⟨preflight, hpreflight, hagree⟩ := h.preflight
  have hcreate : plan.createDirectories = 0 := hothers .createDirectories (by decide)
  have hmissing : plan.materializeMissingFiles = 0 := hothers .materializeMissingFiles (by decide)
  have hreplace : plan.revalidateStaleFileReplacements = 0 := hothers .replaceStaleFiles (by decide)
  have hfiles : plan.revalidateStaleFileDeletions = 0 := hothers .deleteStaleFiles (by decide)
  have hdirectories : plan.deleteOwnedEmptyDirectories = 0 :=
    hothers .deleteStaleDirectories (by decide)
  have hcurrent := h.currentFiles_length hmissing
  have hstale := h.staleFiles_length hmissing
  have htargets := h.unblocked.existingFileTargets h.distinct h.build
  have htargets_length : ((expectedPaths.filter fun e => e.kind == .file &&
      isPresent inputs.localEntries e).map fun e =>
        (⟨e.remoteId, e.relativePath, e.sizeBytes⟩ : ReceiveOnlyFileTarget)).length =
      plan.currentOwnedFiles + plan.verifyExistingFiles := by
    rw [List.length_map, ← List.countP_eq_length_filter, h.counts.ownedFiles, h.counts.verify]
    refine Counting.countP_eq_add expectedPaths fun e he => ?_
    have hnot := Counting.eq_false_of_countP_eq_zero (h.counts.replace.symm.trans hreplace) he
    rw [presenceOutcome_replace] at hnot
    rw [presenceOutcome_ownedFile, presenceOutcome_verify]
    revert hnot
    rcases receiptState inputs.receipts e with _ | _ | _ <;> cases e.kind <;>
      cases isPresent inputs.localEntries e <;> decide
  obtain ⟨collected, hcollected, hcollected_length, hactions, hcollectedAll⟩ := collectVerificationTargets_ok
    ((expectedPaths.filter fun e => e.kind == .file &&
      isPresent inputs.localEntries e).map fun e => ⟨e.remoteId, e.relativePath, e.sizeBytes⟩)
    (plan.actions.filter (·.kind == .verifyExistingFile)) []
    (fun action haction => by
      obtain ⟨e, he, hverify, hid, hpath⟩ := h.mem_verify_actions haction
      obtain ⟨hfile, hpresent⟩ := verified_file hverify
      exact ⟨_, List.mem_map.mpr ⟨e, List.mem_filter.mpr ⟨he, by simp [hfile, hpresent]⟩, rfl⟩,
        hid, hpath⟩)
    (by simp) h.verify_actions_nodup
  rw [h.verify_actions_length] at hcollected_length
  -- a collected target and its action are about one expected file
  have hsame : ∀ {target action e}, IsTargetOf ((expectedPaths.filter fun e => e.kind == .file &&
      isPresent inputs.localEntries e).map fun e => ⟨e.remoteId, e.relativePath, e.sizeBytes⟩) target action →
      e ∈ expectedPaths → action.remoteId = some e.remoteId → target.sizeBytes = e.sizeBytes := by
    rintro target action e ⟨hmem, hid, -⟩ he haction
    obtain ⟨e', he', rfl⟩ := List.mem_map.mp hmem
    rw [List.inj_on_of_nodup_map h.distinct.expected_ids he (List.mem_filter.mp he').1
      (Option.some.inj (haction.symm.trans hid))]
  have hsizes : (∀ target ∈ collected, IsDownloadable target.sizeBytes) ↔
      DownloadsFit inputs expectedPaths .verifyExistingFiles := by
    constructor
    · intro hfit e he hverify
      obtain ⟨action, haction, hid⟩ := h.exists_verify_action he hverify
      obtain ⟨target, htarget, htargetOf⟩ := hcollectedAll action haction
      rw [← hsame htargetOf he hid]
      exact hfit target htarget
    · intro hfit target htarget
      obtain ⟨action, haction, htargetOf⟩ := hactions target htarget
      obtain ⟨e, he, hverify, hid, -⟩ := h.mem_verify_actions haction
      rw [hsame htargetOf he hid]
      exact hfit e he hverify
  rw [← hsizes]
  unfold admitVerification
  rw [h.plan_eq, hpreflight, htargets]
  simp only [ok_bind, fromMaterializationPlan_ok, refuseIf_bind_eq_ok, hcollected,
    ReceiveOnlyMaterializationPlan.readyForDirectoryPhase, h.not_blocked, hagree.typeConflicts,
    hagree.missingDirectories, hagree.missingFiles, hagree.remoteDirectories, hagree.existingFiles,
    hagree.remoteFiles, hagree.localOnly, hcurrent, hstale, htargets_length, hcollected_length,
    hcreate, hmissing, hreplace, hfiles, hdirectories, supervisedFileBatchMaxActions, forM_eq_ok_iff,
    checkDownloadSize_eq_ok]
  simp [hactive, Nat.not_lt.mpr hlimit]

/-- The stale receipts pass their checks exactly if every file that is to be replaced has a size that can
    be downloaded. -/
theorem UnblockedRoot.checkStaleReceipts_iff (h : UnblockedRoot inputs expectedPaths plan)
    (hmissing : plan.materializeMissingFiles = 0) :
    (inputs.receiptTable .file .stale).forM (checkStaleReceipt inputs.remoteItems
        ((expectedPaths.filter fun e => e.kind == .file && isPresent inputs.localEntries e).map fun e =>
          ⟨e.remoteId, e.relativePath, e.sizeBytes⟩)) = .ok () ↔
      DownloadsFit inputs expectedPaths .replaceStaleFiles := by
  set targets := (expectedPaths.filter fun e =>
    e.kind == .file && isPresent inputs.localEntries e).map fun e =>
    (⟨e.remoteId, e.relativePath, e.sizeBytes⟩ : ReceiveOnlyFileTarget) with htargets
  -- a stale receipt of a catalogued item finds the target of that item
  have hfinds : ∀ e ∈ expectedPaths, ∀ receipt ∈ inputs.receiptTable .file .stale,
      receipt.remoteId = e.remoteId → (checkStaleReceipt inputs.remoteItems targets receipt = .ok () ↔
        IsDownloadable e.sizeBytes) := by
    intro e he receipt hreceipt hid
    obtain ⟨hmem, hkind⟩ := List.mem_filter.mp hreceipt
    simp only [Bool.and_eq_true, beq_iff_eq] at hkind
    obtain ⟨hpath, hek⟩ := h.unblocked.own_receipt he hmem hid
    have hfile : e.kind = .file := by
      cases hke : e.kind with
      | file => rfl
      | folder => rw [hkind.1, hke] at hek; exact absurd hek (by simp [localKindForRemote])
    have htarget : (⟨e.remoteId, e.relativePath, e.sizeBytes⟩ : ReceiveOnlyFileTarget) ∈ targets :=
      List.mem_map.mpr ⟨e, List.mem_filter.mpr ⟨he, by
        simp [hfile, h.present_of_no_missing hmissing he hfile]⟩, rfl⟩
    have hfound : (targets.find? fun target => target.remoteId == receipt.remoteId &&
        target.relativePath == receipt.relativePath) = some ⟨e.remoteId, e.relativePath, e.sizeBytes⟩ := by
      have hsome : (targets.find? fun target => target.remoteId == receipt.remoteId &&
          target.relativePath == receipt.relativePath).isSome := by
        rw [List.find?_isSome]
        exact ⟨_, htarget, by simp [hid, hpath]⟩
      obtain ⟨found, hfound⟩ := Option.isSome_iff_exists.mp hsome
      obtain ⟨e', he', rfl⟩ := List.mem_map.mp (List.mem_of_find?_eq_some hfound)
      have hfoundId := List.find?_some hfound
      rw [Bool.and_eq_true, beq_iff_eq, hid] at hfoundId
      rw [hfound, List.inj_on_of_nodup_map h.distinct.expected_ids (List.mem_filter.mp he').1 he hfoundId.1]
    rw [checkStaleReceipt, if_pos ((h.remotePresent_iff receipt).mpr ⟨e, he, hid.symm⟩), hfound]
    simp [orRefuse, checkDownloadSize_eq_ok]
  rw [forM_eq_ok_iff]
  constructor
  · intro hall e he hreplace
    rw [isPlanned, SelectedRootUnifiedConvergencePhase.actionKind, presenceOutcome_replace, Bool.and_eq_true,
      Bool.and_eq_true, beq_iff_eq, beq_iff_eq,
      receiptState_eq_some_iff h.distinct.receipt_ids] at hreplace
    obtain ⟨⟨hfile, -⟩, receipt, hreceipt, hid, hstate⟩ := hreplace
    have hmem : receipt ∈ inputs.receiptTable .file .stale := by
      refine List.mem_filter.mpr ⟨hreceipt, ?_⟩
      simp [(h.unblocked.own_receipt he hreceipt hid).2, hfile, hstate, localKindForRemote]
    exact (hfinds e he receipt hmem hid).mp (hall receipt hmem)
  · intro hfit receipt hreceipt
    by_cases hpresent : ∃ e ∈ expectedPaths, e.remoteId = receipt.remoteId
    · obtain ⟨e, he, hid⟩ := hpresent
      refine (hfinds e he receipt hreceipt hid.symm).mpr (hfit e he ?_)
      obtain ⟨hmem, hkind⟩ := List.mem_filter.mp hreceipt
      simp only [Bool.and_eq_true, beq_iff_eq] at hkind
      have hfile : e.kind = .file := by
        cases hke : e.kind with
        | file => rfl
        | folder =>
            have hek := (h.unblocked.own_receipt he hmem hid.symm).2
            rw [hkind.1, hke] at hek
            exact absurd hek (by simp [localKindForRemote])
      have hstate : receiptState inputs.receipts e = some .stale :=
        (receiptState_eq_some_iff h.distinct.receipt_ids e .stale).mpr ⟨receipt, hmem, hid.symm, hkind.2⟩
      rw [isPlanned, SelectedRootUnifiedConvergencePhase.actionKind, presenceOutcome_replace, hfile, hstate,
        h.present_of_no_missing hmissing he hfile]
      rfl
    · rw [checkStaleReceipt, if_neg]
      rwa [h.remotePresent_iff]

/-- The stale-file planner passes when only stale files are left to handle. -/
theorem UnblockedRoot.planStaleFileCandidates_ok (h : UnblockedRoot inputs expectedPaths plan)
    (hfit : DownloadsFit inputs expectedPaths .replaceStaleFiles) (hcreate : plan.createDirectories = 0)
    (hmissing : plan.materializeMissingFiles = 0)
    (hverify : plan.verifyExistingFiles = 0) (hdirectories : plan.deleteOwnedEmptyDirectories = 0)
    (hlimit : plan.revalidateStaleFileReplacements + plan.revalidateStaleFileDeletions ≤ 64) :
    planStaleFileCandidates inputs = .ok
      { staleReceiptsTotal :=
          plan.revalidateStaleFileReplacements + plan.revalidateStaleFileDeletions
        replacementCandidates := plan.revalidateStaleFileReplacements
        deletionCandidates := plan.revalidateStaleFileDeletions
        convergenceReplacementActions := plan.revalidateStaleFileReplacements
        convergenceDeletionActions := plan.revalidateStaleFileDeletions } := by
  obtain ⟨preflight, hpreflight, hagree⟩ := h.preflight
  have hstale := h.staleFiles_length hmissing
  have habsent : (inputs.receiptTable .file .stale).countP
      (fun receipt => !inputs.remoteItems.any (·.remoteId == receipt.remoteId)) =
      plan.revalidateStaleFileDeletions := by
    rw [h.staleReceipts_absent, h.counts.deleteFiles]
  have hpresent : (inputs.receiptTable .file .stale).countP
      (fun receipt => inputs.remoteItems.any (·.remoteId == receipt.remoteId)) =
      plan.revalidateStaleFileReplacements := by
    have hsplit := List.length_eq_countP_add_countP
      (fun receipt : ReceiveOnlyOwnershipReceipt =>
        inputs.remoteItems.any (·.remoteId == receipt.remoteId))
      (l := inputs.receiptTable .file .stale)
    simp only [Bool.not_eq_true, Bool.decide_eq_false] at hsplit
    omega
  have htargets := h.unblocked.existingFileTargets h.distinct h.build
  have hmatching := (h.checkStaleReceipts_iff hmissing).mpr hfit
  unfold planStaleFileCandidates
  rw [h.plan_eq, hpreflight, htargets]
  simp only [ok_bind, fromMaterializationPlan_ok, refuseIf_bind_eq_ok, h.not_blocked,
    hagree.typeConflicts, hagree.missingDirectories, hagree.missingFiles, hagree.remoteDirectories,
    hagree.localOnly, hstale, habsent, hpresent, hmatching, hcreate, hmissing, hverify,
    hdirectories, supervisedStaleFilePlanMaxActions]
  simp [Nat.not_lt.mpr hlimit]

theorem UnblockedRoot.downloadsFit_of_candidates (h : UnblockedRoot inputs expectedPaths plan)
    (hmissing : plan.materializeMissingFiles = 0) {candidates : StaleFileCandidates}
    (hcandidates : planStaleFileCandidates inputs = .ok candidates) :
    DownloadsFit inputs expectedPaths .replaceStaleFiles := by
  obtain ⟨preflight, hpreflight, -⟩ := h.preflight
  unfold planStaleFileCandidates at hcandidates
  rw [h.plan_eq, hpreflight, h.unblocked.existingFileTargets h.distinct h.build] at hcandidates
  simp only [ok_bind, fromMaterializationPlan_ok, refuseIf_bind_eq_ok] at hcandidates
  obtain ⟨-, -, -, -, hcandidates⟩ := hcandidates
  obtain ⟨_, hchecked, -⟩ := bind_eq_ok.mp hcandidates
  exact (h.checkStaleReceipts_iff hmissing).mp hchecked

/-- The replacement is admitted exactly if every file that it has to replace has a size that can be
    downloaded. -/
theorem UnblockedRoot.admitReplacement_iff (h : UnblockedRoot inputs expectedPaths plan)
    (hactive : plan.revalidateStaleFileReplacements ≠ 0)
    (hlimit : plan.revalidateStaleFileReplacements ≤ 64)
    (hothers : ∀ other, other ≠ .replaceStaleFiles → plan.phaseCount other = 0) :
    admitReplacement inputs = .ok () ↔ DownloadsFit inputs expectedPaths .replaceStaleFiles := by
  constructor
  · intro hadmitted
    obtain ⟨candidates, hcandidates, -⟩ := bind_eq_ok.mp hadmitted
    exact h.downloadsFit_of_candidates (hothers .materializeMissingFiles (by decide)) hcandidates
  intro hfit
  have hfiles : plan.revalidateStaleFileDeletions = 0 := hothers .deleteStaleFiles (by decide)
  have hdirectories : plan.deleteOwnedEmptyDirectories = 0 := hothers .deleteStaleDirectories (by decide)
  have hcandidates := h.planStaleFileCandidates_ok hfit (hothers .createDirectories (by decide))
    (hothers .materializeMissingFiles (by decide)) (hothers .verifyExistingFiles (by decide))
    (hothers .deleteStaleDirectories (by decide)) (by omega)
  unfold admitReplacement
  rw [hcandidates]
  simp only [ok_bind, refuseIf_eq_ok, hfiles, supervisedStaleFilePlanMaxActions]
  simp [hactive, Nat.not_lt.mpr hlimit]

theorem UnblockedRoot.admitStaleFileDeletion_ok (h : UnblockedRoot inputs expectedPaths plan)
    (hactive : plan.revalidateStaleFileDeletions ≠ 0)
    (hlimit : plan.revalidateStaleFileDeletions ≤ 64)
    (hothers : ∀ other, other ≠ .deleteStaleFiles → plan.phaseCount other = 0) :
    admitStaleFileDeletion inputs = .ok () := by
  have hmissing := hothers .materializeMissingFiles (by decide)
  have hreplace : plan.revalidateStaleFileReplacements = 0 := hothers .replaceStaleFiles (by decide)
  have hfit : DownloadsFit inputs expectedPaths .replaceStaleFiles := by
    intro e he hplanned
    rw [h.counts.replace] at hreplace
    rw [isPlanned, SelectedRootUnifiedConvergencePhase.actionKind,
      Counting.eq_false_of_countP_eq_zero hreplace he] at hplanned
    cases hplanned
  have hcandidates := h.planStaleFileCandidates_ok hfit (hothers .createDirectories (by decide)) hmissing
    (hothers .verifyExistingFiles (by decide)) (hothers .deleteStaleDirectories (by decide))
    (by omega)
  have hnone := h.no_present_stale .file (by
    rw [h.staleFiles_length hmissing, hreplace, Nat.zero_add, h.counts.deleteFiles])
  unfold admitStaleFileDeletion
  rw [hcandidates]
  simp only [ok_bind, refuseIf_bind_eq_ok, refuseIf_eq_ok, hreplace, hnone,
    supervisedStaleFilePlanMaxActions]
  simp [hactive, Nat.not_lt.mpr hlimit]

theorem UnblockedRoot.admitStaleDirectoryDeletion_ok (h : UnblockedRoot inputs expectedPaths plan)
    (hactive : plan.deleteOwnedEmptyDirectories ≠ 0)
    (hlimit : plan.deleteOwnedEmptyDirectories ≤ 64)
    (hothers : ∀ other, other ≠ .deleteStaleDirectories → plan.phaseCount other = 0) :
    admitStaleDirectoryDeletion inputs = .ok () := by
  have hcreate : plan.createDirectories = 0 := hothers .createDirectories (by decide)
  have hmissing : plan.materializeMissingFiles = 0 := hothers .materializeMissingFiles (by decide)
  have hverify : plan.verifyExistingFiles = 0 := hothers .verifyExistingFiles (by decide)
  have hreplace : plan.revalidateStaleFileReplacements = 0 := hothers .replaceStaleFiles (by decide)
  have hfiles : plan.revalidateStaleFileDeletions = 0 := hothers .deleteStaleFiles (by decide)
  have hlength := h.staleDirectories_length hcreate
  have hnone := h.no_present_stale .directory (by rw [hlength, h.counts.deleteDirectories])
  unfold admitStaleDirectoryDeletion
  rw [h.plan_eq]
  simp only [ok_bind, refuseIf_bind_eq_ok, refuseIf_eq_ok, h.not_blocked, hcreate, hmissing,
    hverify, hreplace, hfiles, hlength, hnone, supervisedStaleDirectoryDeletionMaxActions]
  simp [hactive, Nat.not_lt.mpr hlimit]

theorem UnblockedRoot.create_le_max (h : UnblockedRoot inputs expectedPaths plan) :
    plan.createDirectories ≤ selectedRootConvergenceMaxActions := by
  obtain ⟨drafts, hplanned⟩ := h.planned
  refine le_trans ?_ hplanned.limit
  rw [← hplanned.holds.length_actionsOf, hplanned.plan_eq]
  exact List.countP_le_length

end Root

/-! ## Admission of a dispatch -/

/-- A catalogued folder is missing locally. -/
def MissesFolder (inputs : RootInputs) (root : Text) : Prop :=
  ∃ item path, PathOf inputs.remoteItems root item path ∧ item.kind = .folder ∧
    ∀ l ∈ inputs.localEntries, l.relativePath ≠ path

/-- An item is in place, with a current receipt. -/
def InPlace (inputs : RootInputs) (item : RemoteItem) (path : Text) : Prop :=
  (∃ l ∈ inputs.localEntries, l.relativePath = path) ∧
    ∃ r ∈ inputs.receipts, r.remoteId = item.remoteId ∧ r.state = .current

/-- While a catalogued folder is missing locally, nothing local lies outside the catalog; once none is,
    every catalogued file that is not in place has a size that can be downloaded. -/
structure AdmissibleBelow (inputs : RootInputs) (root : Text) : Prop where
  tree : CatalogTree inputs.remoteItems root
  leftovers : MissesFolder inputs root →
    ∀ l ∈ inputs.localEntries, ∃ item, PathOf inputs.remoteItems root item l.relativePath
  sizes : ¬ MissesFolder inputs root → ∀ item path, PathOf inputs.remoteItems root item path →
    item.kind = .file → InPlace inputs item path ∨ IsDownloadable item.sizeBytes

/-- The inputs on which a dispatch is admitted. -/
def AdmissibleInputs (inputs : RootInputs) : Prop := ∃ root, AdmissibleBelow inputs root

section Admissible

variable {inputs : RootInputs} {expectedPaths : List RemoteExpectedPath}
  {plan : ReceiveOnlyConvergencePlan}

/-- Roots that make a non-empty catalog a tree agree on its paths. -/
theorem PathOf.root_unique {items : List RemoteItem} {root root' : Text}
    (ht : CatalogTree items root) (ht' : CatalogTree items root') {item : RemoteItem} {path : Text}
    (h : PathOf items root item path) : PathOf items root' item path := by
  induction h with
  | @top item hmem hparent =>
      obtain ⟨path', hpath'⟩ := ht'.rooted item hmem
      cases hpath' with
      | top _ hparent' => exact .top hmem hparent'
      | child hfolder _ _ hparent' =>
          exact absurd (Option.some.inj (hparent'.symm.trans hparent))
            (ht.root_external _ hfolder.mem)
  | child _ hkind hmem hparent ih => exact .child ih hkind hmem hparent

/-- Everything that is asked of inputs is asked along the paths of the catalog. -/
theorem AdmissibleBelow.root_unique {root root' : Text} (h : AdmissibleBelow inputs root)
    (ht' : CatalogTree inputs.remoteItems root') : AdmissibleBelow inputs root' where
  tree := ht'
  leftovers := by
    rintro ⟨item, path, hpath, hfolder, hmissing⟩ l hl
    obtain ⟨other, hother⟩ := h.leftovers ⟨item, path, hpath.root_unique ht' h.tree, hfolder, hmissing⟩ l hl
    exact ⟨other, hother.root_unique h.tree ht'⟩
  sizes := by
    intro hnone item path hpath
    apply h.sizes _ item path (hpath.root_unique ht' h.tree)
    rintro ⟨other, otherPath, hother, hfolder, hmissing⟩
    exact hnone ⟨other, otherPath, hother.root_unique h.tree ht', hfolder, hmissing⟩

theorem UnblockedRoot.missesFolder_iff (h : UnblockedRoot inputs expectedPaths plan) {root : Text}
    (hspec : ExpectedPathsOf inputs.remoteItems root expectedPaths) :
    MissesFolder inputs root ↔ plan.createDirectories ≠ 0 := by
  rw [h.counts.create, outcomeCount, Ne, List.countP_eq_zero, not_forall₂]
  constructor
  · rintro ⟨item, path, hpath, hfolder, hmissing⟩
    refine ⟨_, (hspec.mem_iff _).mpr ⟨item, path, hpath, rfl⟩, ?_⟩
    rw [presenceOutcome_create, show (item.expectedAt path).kind = .folder from hfolder, not_not]
    have habsent : isPresent inputs.localEntries (item.expectedAt path) = false := by
      rw [← Bool.not_eq_true, isPresent_iff]
      rintro ⟨l, hl, hlpath⟩
      exact hmissing l hl hlpath
    simp [habsent]
  · rintro ⟨e, he, hcreate⟩
    obtain ⟨item, path, hpath, rfl⟩ := (hspec.mem_iff e).mp he
    rw [presenceOutcome_create, not_not, Bool.and_eq_true, beq_iff_eq, Bool.not_eq_true',
      ← Bool.not_eq_true, isPresent_iff] at hcreate
    exact ⟨item, path, hpath, hcreate.1, fun l hl hlpath => hcreate.2 ⟨l, hl, hlpath⟩⟩

theorem UnblockedRoot.no_leftovers_iff (h : UnblockedRoot inputs expectedPaths plan) {root : Text}
    (hspec : ExpectedPathsOf inputs.remoteItems root expectedPaths) :
    plan.revalidateStaleFileDeletions + plan.deleteOwnedEmptyDirectories = 0 ↔
      ∀ l ∈ inputs.localEntries, ∃ item, PathOf inputs.remoteItems root item l.relativePath := by
  rw [h.counts.deleteFiles, h.counts.deleteDirectories, ← countP_localOnly, List.countP_eq_zero]
  refine forall₂_congr fun l _ => ?_
  rw [isLocalOnly_iff]
  push Not
  constructor
  · rintro ⟨e, he, hpath⟩
    obtain ⟨item, path, hitem, rfl⟩ := (hspec.mem_iff e).mp he
    exact ⟨item, hpath ▸ hitem⟩
  · rintro ⟨item, hitem⟩
    exact ⟨_, (hspec.mem_iff _).mpr ⟨item, _, hitem, rfl⟩, rfl⟩

/-- A catalogued file is in place, or one of the downloading phases works on it. -/
theorem inPlace_or_planned (inputs : RootInputs) {e : RemoteExpectedPath} (hfile : e.kind = .file) :
    isPresent inputs.localEntries e = true ∧ receiptState inputs.receipts e = some .current ∨
      ∃ phase ∈ [.materializeMissingFiles, .verifyExistingFiles, .replaceStaleFiles],
        isPlanned (SelectedRootUnifiedConvergencePhase.actionKind phase) inputs.localEntries inputs.receipts e
          = true := by
  simp only [List.mem_cons, List.not_mem_nil, or_false, exists_eq_or_imp, exists_eq_left, isPlanned,
    SelectedRootUnifiedConvergencePhase.actionKind, presenceOutcome_materialize, presenceOutcome_verify,
    presenceOutcome_replace, hfile]
  rcases receiptState inputs.receipts e with _ | _ | _ <;> cases isPresent inputs.localEntries e <;> simp

/-- **Where no folder is missing, inputs are admissible exactly if the downloads of all phases fit.** -/
theorem UnblockedRoot.admissible_iff_fit (h : UnblockedRoot inputs expectedPaths plan)
    (hcreate : plan.createDirectories = 0) :
    AdmissibleInputs inputs ↔ ∀ phase ∈ [.materializeMissingFiles, .verifyExistingFiles, .replaceStaleFiles],
      DownloadsFit inputs expectedPaths phase := by
  obtain ⟨root, hspec⟩ := buildRemoteExpectedPaths_sound h.build
  have hnone : ¬ MissesFolder inputs root := by
    rw [h.missesFolder_iff hspec]
    exact not_not.mpr hcreate
  constructor
  · rintro ⟨root', hbelow⟩ phase hphase e he hplanned
    obtain ⟨item, path, hpath, rfl⟩ := (hspec.mem_iff e).mp he
    have hwork : item.kind = .file ∧ ¬ (isPresent inputs.localEntries (item.expectedAt path) = true ∧
        receiptState inputs.receipts (item.expectedAt path) = some .current) := by
      revert hplanned
      simp only [List.mem_cons, List.not_mem_nil, or_false] at hphase
      rcases hphase with rfl | rfl | rfl <;>
        simp only [isPlanned, SelectedRootUnifiedConvergencePhase.actionKind, presenceOutcome_materialize,
          presenceOutcome_verify, presenceOutcome_replace, Bool.and_eq_true, beq_iff_eq] <;>
        rintro hplanned
      · exact ⟨hplanned.1, by simp_all⟩
      · exact ⟨hplanned.1.1, by simp_all⟩
      · exact ⟨hplanned.1.1, by simp_all⟩
    rcases (hbelow.root_unique hspec.tree).sizes hnone item path hpath hwork.1 with
      ⟨hpresent, hreceipt⟩ | hfits
    · refine absurd ⟨(isPresent_iff _ _).mpr hpresent, ?_⟩ hwork.2
      exact (receiptState_eq_some_iff h.distinct.receipt_ids _ _).mpr hreceipt
    · exact hfits
  · intro hfit
    refine ⟨root, hspec.tree, fun hmisses => absurd hmisses hnone, fun _ item path hpath hfile => ?_⟩
    have he := (hspec.mem_iff _).mpr ⟨item, path, hpath, rfl⟩
    rcases inPlace_or_planned inputs (e := item.expectedAt path) hfile with ⟨hpresent, hcurrent⟩ |
      ⟨phase, hphase, hplanned⟩
    · exact .inl ⟨(isPresent_iff _ _).mp hpresent,
        (receiptState_eq_some_iff h.distinct.receipt_ids _ _).mp hcurrent⟩
    · exact .inr (hfit phase hphase _ he hplanned)

/-- Where a folder is missing, they are exactly if nothing local lies outside the catalog. -/
theorem UnblockedRoot.admissible_iff_no_leftovers (h : UnblockedRoot inputs expectedPaths plan)
    (hcreate : plan.createDirectories ≠ 0) :
    AdmissibleInputs inputs ↔
      plan.revalidateStaleFileDeletions + plan.deleteOwnedEmptyDirectories = 0 := by
  obtain ⟨root, hspec⟩ := buildRemoteExpectedPaths_sound h.build
  have hmisses : MissesFolder inputs root := (h.missesFolder_iff hspec).mpr hcreate
  rw [h.no_leftovers_iff hspec]
  constructor
  · rintro ⟨root', hbelow⟩
    exact (hbelow.root_unique hspec.tree).leftovers hmisses
  · exact fun hleftovers => ⟨root, hspec.tree, fun _ => hleftovers, fun hnone => absurd hmisses hnone⟩

/-- Where one phase besides the creation of directories is active, only its downloads have to fit. -/
theorem UnblockedRoot.admissible_iff_phase (h : UnblockedRoot inputs expectedPaths plan)
    {phase : SelectedRootUnifiedConvergencePhase} (hphase : phase ≠ .createDirectories)
    (hothers : ∀ other, other ≠ phase → plan.phaseCount other = 0) :
    AdmissibleInputs inputs ↔
      (phase ∈ [.materializeMissingFiles, .verifyExistingFiles, .replaceStaleFiles] →
        DownloadsFit inputs expectedPaths phase) := by
  rw [h.admissible_iff_fit (hothers .createDirectories hphase.symm)]
  constructor
  · exact fun hfit hmem => hfit phase hmem
  · intro hfit other hother
    by_cases hsame : other = phase
    · subst hsame
      exact hfit hother
    · -- the other phases have nothing to do
      have hzero := hothers other hsame
      rw [h.phaseCount_eq] at hzero
      intro e he hplanned
      have hnot : isPlanned other.actionKind inputs.localEntries inputs.receipts e = false := by
        simp only [List.mem_cons, List.not_mem_nil, or_false] at hother
        rcases hother with rfl | rfl | rfl <;> exact Counting.eq_false_of_countP_eq_zero hzero he
      rw [hnot] at hplanned
      cases hplanned

end Admissible

/-- **A dispatched phase is admitted exactly on admissible inputs.** The creation of directories is refused
    while anything local lies outside the catalog, a phase that downloads is refused while one of its files
    has no size that can be downloaded, and the deletions are always admitted. -/
theorem dispatch_admitted_iff (inputs : RootInputs) (phase : SelectedRootUnifiedConvergencePhase)
    (plannedActions : ℕ) (h : planSelectedRootUnifiedConvergenceStep inputs =
      .ok (.dispatch phase plannedActions)) :
    admitPhase inputs phase = .ok () ↔ AdmissibleInputs inputs := by
  unfold planSelectedRootUnifiedConvergenceStep at h
  cases hplan : planRootConvergence inputs with
  | error e => rw [hplan] at h; exact absurd h (by simp [bind, Except.bind])
  | ok plan =>
  rw [hplan] at h
  obtain ⟨hblocked, -, hactive, hsole⟩ := decide_dispatch h
  obtain ⟨expectedPaths, hroot⟩ := UnblockedRoot.of_plan hplan hblocked
  by_cases hphase : phase = .createDirectories
  · subst hphase
    rw [hroot.admissible_iff_no_leftovers hactive]
    exact hroot.admitDirectories_iff hroot.create_le_max
  · obtain ⟨hlimit, hothers⟩ := hsole hphase
    rw [hroot.admissible_iff_phase hphase hothers]
    cases phase with
    | createDirectories => exact absurd rfl hphase
    | materializeMissingFiles => simpa [admitPhase] using hroot.admitMissingFileDownloads_iff hlimit hothers
    | verifyExistingFiles => simpa [admitPhase] using hroot.admitVerification_iff hactive hlimit hothers
    | replaceStaleFiles => simpa [admitPhase] using hroot.admitReplacement_iff hactive hlimit hothers
    | deleteStaleFiles =>
        exact iff_of_true (hroot.admitStaleFileDeletion_ok hactive hlimit hothers) (by simp)
    | deleteStaleDirectories =>
        exact iff_of_true (hroot.admitStaleDirectoryDeletion_ok hactive hlimit hothers) (by simp)

/-- A catalogued folder `d` that is missing locally; with `leftover`, the stale file `o` of a
    vanished item as well. -/
def missingFolderInputs (leftover : Bool) : RootInputs where
  remoteItems := [⟨['d'], some ['r'], ['d'], .folder, none, none, false⟩]
  localEntries := if leftover then [⟨['o'], .file, .refl true⟩] else []
  receipts := if leftover then [⟨['x'], ['o'], .file, .stale, .refl false, .refl true⟩] else []

theorem dispatch_admitted_iff_missing_folder :
    admitPhase (missingFolderInputs false) .createDirectories = .ok () ↔
      AdmissibleInputs (missingFolderInputs false) :=
  dispatch_admitted_iff (missingFolderInputs false) .createDirectories 1 (by rfl)

/-- A catalogued file `f` that is missing locally, of a size. -/
def missingFileInputs (sizeBytes : Option ℕ) : RootInputs where
  remoteItems := [⟨['f'], some ['r'], ['f'], .file, sizeBytes, none, false⟩]
  localEntries := []
  receipts := []

example : planSelectedRootUnifiedConvergenceStep (missingFileInputs none) =
      .ok (.dispatch .materializeMissingFiles 1) ∧
    admitPhase (missingFileInputs none) .materializeMissingFiles = .error .localFileSizeUnknown ∧
    admitPhase (missingFileInputs (some 3)) .materializeMissingFiles = .ok () :=
  ⟨by rfl, by rfl, by rfl⟩

/-- With a leftover next to a missing folder the creation of directories is dispatched and refused. -/
theorem dispatch_refused_with_leftover :
    ¬ ∀ (inputs : RootInputs) (phase : SelectedRootUnifiedConvergencePhase) (plannedActions : ℕ),
      planSelectedRootUnifiedConvergenceStep inputs = .ok (.dispatch phase plannedActions) →
        admitPhase inputs phase = .ok () := by
  intro h
  have hadmitted := h (missingFolderInputs true) .createDirectories 1 (by rfl)
  have hrefused : admitPhase (missingFolderInputs true) .createDirectories =
      .error .localDirectoryPhaseBlocked := by rfl
  rw [hrefused] at hadmitted
  exact absurd hadmitted (by simp)

end NubiSync
