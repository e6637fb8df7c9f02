import NubiSync.Library.Counting
import NubiSync.Sync.Unblocked

set_option autoImplicit false

/-! # Two planners on the same unblocked inputs

The convergence planner and the materialization planner count the same tree by different notions:
owned, stale and verified files here, present and missing ones there. On unblocked inputs the two sets
of counters determine each other, and so do the receipt tables. These equations are what the
executors' admission checks compare. -/

namespace NubiSync

open Indexing Counting

/-! ## Outcomes as tests on kind, presence and receipt state -/

theorem presenceOutcome_create (kind : RemoteItemKind) (present : Bool)
    (state : Option ReceiveOnlyReceiptState) :
    (presenceOutcome kind present state == .act .createDirectory) = (kind == .folder && !present) := by
  rcases state with _ | _ | _ <;> cases kind <;> cases present <;> rfl

theorem presenceOutcome_materialize (kind : RemoteItemKind) (present : Bool)
    (state : Option ReceiveOnlyReceiptState) :
    (presenceOutcome kind present state == .act .materializeMissingFile) =
      (kind == .file && !present) := by
  rcases state with _ | _ | _ <;> cases kind <;> cases present <;> rfl

theorem presenceOutcome_verify (kind : RemoteItemKind) (present : Bool)
    (state : Option ReceiveOnlyReceiptState) :
    (presenceOutcome kind present state == .act .verifyExistingFile) =
      (kind == .file && present && state == none) := by
  rcases state with _ | _ | _ <;> cases kind <;> cases present <;> rfl

theorem presenceOutcome_replace (kind : RemoteItemKind) (present : Bool)
    (state : Option ReceiveOnlyReceiptState) :
    (presenceOutcome kind present state == .act .revalidateStaleFileReplacement) =
      (kind == .file && present && state == some .stale) := by
  rcases state with _ | _ | _ <;> cases kind <;> cases present <;> rfl

theorem presenceOutcome_ownedFile (kind : RemoteItemKind) (present : Bool)
    (state : Option ReceiveOnlyReceiptState) :
    (presenceOutcome kind present state == .currentOwnedFile) =
      (kind == .file && present && state == some .current) := by
  rcases state with _ | _ | _ <;> cases kind <;> cases present <;> rfl

section

variable {remoteItems : List RemoteItem} {localEntries : List LocalTreeEntry}
  {receipts : List ReceiveOnlyOwnershipReceipt} {expectedPaths : List RemoteExpectedPath}

/-! ## The materialization counters -/

/-- The counters of the materialization planner on unblocked inputs. -/
structure MaterializationCounts (remoteItems : List RemoteItem)
    (expectedPaths : List RemoteExpectedPath) (localEntries : List LocalTreeEntry)
    (receipts : List ReceiveOnlyOwnershipReceipt) (plan : ReceiveOnlyMaterializationPlan) :
    Prop where
  remoteItems_eq : plan.remoteItems = remoteItems.length
  localEntries_eq : plan.localEntries = localEntries.length
  missingDirectories : plan.missingDirectories =
    outcomeCount (.act .createDirectory) expectedPaths localEntries receipts
  missingFiles : plan.missingFiles =
    outcomeCount (.act .materializeMissingFile) expectedPaths localEntries receipts
  remoteDirectories : plan.remoteDirectories = plan.missingDirectories + plan.matchingDirectories
  remoteFiles : plan.remoteFiles = plan.missingFiles + plan.existingFilesUnverified
  existingFiles : plan.existingFilesUnverified =
    outcomeCount .currentOwnedFile expectedPaths localEntries receipts +
      (outcomeCount (.act .verifyExistingFile) expectedPaths localEntries receipts +
        outcomeCount (.act .revalidateStaleFileReplacement) expectedPaths localEntries receipts)
  localOnly : plan.localOnlyEntries =
    localOnlyCount .file expectedPaths localEntries +
      localOnlyCount .directory expectedPaths localEntries
  no_conflicts : plan.typeConflicts = 0

theorem keys_localMap_perm (hnodup : (localEntries.map LocalTreeEntry.relativePath).Nodup) :
    (localMap ∅ localEntries).keys.Perm (localEntries.map LocalTreeEntry.relativePath) := by
  refine (List.perm_ext_iff_of_nodup (AList.keys_nodup _) hnodup).mpr fun path => ?_
  rw [← AList.mem_keys, ← not_iff_not, ← AList.lookup_eq_none, lookup_indexBy_eq_none hnodup]
  simp

theorem countP_localOnly (expectedPaths : List RemoteExpectedPath)
    (localEntries : List LocalTreeEntry) :
    localEntries.countP (isLocalOnly expectedPaths) =
      localOnlyCount .file expectedPaths localEntries +
        localOnlyCount .directory expectedPaths localEntries := by
  refine countP_eq_add localEntries fun l _ => ?_
  cases isLocalOnly expectedPaths l <;> cases l.kind <;> rfl

theorem UnblockedInputs.materialization
    (hu : UnblockedInputs expectedPaths localEntries receipts)
    (hd : DistinctInputs expectedPaths localEntries receipts)
    (hbuild : buildRemoteExpectedPaths remoteItems = .ok expectedPaths) :
    ∃ plan, planReceiveOnlyMaterialization remoteItems localEntries = .ok plan ∧
      MaterializationCounts remoteItems expectedPaths localEntries receipts plan := by
  have hindex := (indexLocalEntries_ok_iff localEntries ∅ _).mpr
    ⟨hd.local_paths, fun _ _ => AList.notMem_empty _, rfl⟩
  -- the plan looks entries up by path, the counts ask whether the path is present
  have hlookup : ∀ e ∈ expectedPaths, (localMap ∅ localEntries).lookup e.relativePath =
      if isPresent localEntries e then some (localKindForRemote e.kind) else none :=
    fun e he => hd.lookup_presence (hu.local_kind e he)
  refine ⟨?plan, ?ok, ?counts⟩
  case ok =>
    unfold planReceiveOnlyMaterialization
    rw [hbuild]
    simp only [bind, Except.bind, hindex]
    rfl
  constructor
  · rfl
  · rfl
  · refine List.countP_congr fun e he => ?_
    rw [hlookup e he, presenceOutcome_create]
    cases e.kind <;> cases isPresent localEntries e <;> simp
  · refine List.countP_congr fun e he => ?_
    rw [hlookup e he, presenceOutcome_materialize]
    cases e.kind <;> cases isPresent localEntries e <;> simp
  · refine countP_eq_add expectedPaths fun e he => ?_
    rw [hlookup e he]
    cases e.kind <;> cases isPresent localEntries e <;> rfl
  · refine countP_eq_add expectedPaths fun e he => ?_
    rw [hlookup e he]
    cases e.kind <;> cases isPresent localEntries e <;> rfl
  · -- a present file is owned, or unreceipted, or stale
    have hinner : expectedPaths.countP (fun e => e.kind == .file && isPresent localEntries e &&
        receiptState receipts e != some .current) =
        outcomeCount (.act .verifyExistingFile) expectedPaths localEntries receipts +
          outcomeCount (.act .revalidateStaleFileReplacement) expectedPaths localEntries
            receipts := by
      refine countP_eq_add expectedPaths fun e _ => ?_
      rw [presenceOutcome_verify, presenceOutcome_replace]
      rcases receiptState receipts e with _ | _ | _ <;> cases e.kind <;>
        cases isPresent localEntries e <;> rfl
    rw [← hinner]
    refine countP_eq_add expectedPaths fun e he => ?_
    rw [hlookup e he, presenceOutcome_ownedFile]
    rcases receiptState receipts e with _ | _ | _ <;> cases e.kind <;>
      cases isPresent localEntries e <;> rfl
  · have hkeys : (localMap ∅ localEntries).keys.countP
        (fun path => !(expectedPaths.map RemoteExpectedPath.relativePath).contains path) =
        localEntries.countP (isLocalOnly expectedPaths) := by
      rw [(keys_localMap_perm hd.local_paths).countP_eq, List.countP_map]
      refine List.countP_congr fun l _ => ?_
      rw [isLocalOnly_iff]
      simp
    exact hkeys.trans (countP_localOnly expectedPaths localEntries)
  · refine Nat.add_eq_zero_iff.mpr ⟨?_, ?_⟩ <;>
      refine List.countP_eq_zero.mpr fun e he => ?_ <;>
      rw [hlookup e he] <;>
      cases e.kind <;> cases isPresent localEntries e <;> simp [localKindForRemote]

/-! ## The targets -/

theorem UnblockedInputs.missingDirectoryTargets
    (hu : UnblockedInputs expectedPaths localEntries receipts)
    (hd : DistinctInputs expectedPaths localEntries receipts)
    (hbuild : buildRemoteExpectedPaths remoteItems = .ok expectedPaths) :
    ∃ targets, planReceiveOnlyMissingDirectoryTargets remoteItems localEntries = .ok targets ∧
      targets.length = outcomeCount (.act .createDirectory) expectedPaths localEntries receipts := by
  obtain ⟨plan, hplan, hcounts⟩ := hu.materialization hd hbuild
  obtain ⟨_, hfrom⟩ := planReceiveOnlyMaterialization_ok hplan
  obtain ⟨targets, htargets, hlength⟩ := hfrom.missingDirectoryTargets
  exact ⟨targets, htargets, hlength.trans hcounts.missingDirectories⟩

/-- The missing file targets are the expected files that are not present. -/
theorem UnblockedInputs.missingFileTargets
    (hu : UnblockedInputs expectedPaths localEntries receipts)
    (hd : DistinctInputs expectedPaths localEntries receipts)
    (hbuild : buildRemoteExpectedPaths remoteItems = .ok expectedPaths) :
    planReceiveOnlyMissingFileTargets remoteItems localEntries =
      .ok ((expectedPaths.filter fun e => e.kind == .file && !isPresent localEntries e).map
        fun e => ⟨e.remoteId, e.relativePath, e.sizeBytes⟩) := by
  obtain ⟨plan, hplan, -⟩ := hu.materialization hd hbuild
  unfold planReceiveOnlyMissingFileTargets
  simp only [bind, Except.bind, hplan, hbuild, fileTargets]
  congr 2
  refine List.filter_congr fun e he => ?_
  have hpresent : (localEntries.map LocalTreeEntry.relativePath).contains e.relativePath =
      isPresent localEntries e := by
    rw [Bool.eq_iff_iff, isPresent_iff]
    simp
  rw [hpresent]

theorem UnblockedInputs.containsLocalFile_eq
    (hu : UnblockedInputs expectedPaths localEntries receipts) {e : RemoteExpectedPath}
    (he : e ∈ expectedPaths) (hfile : e.kind = .file) :
    ((localEntries.filter (·.kind == .file)).map LocalTreeEntry.relativePath).contains
      e.relativePath = isPresent localEntries e := by
  rw [Bool.eq_iff_iff, isPresent_iff]
  simp only [List.contains_iff_mem, List.mem_map, List.mem_filter, beq_iff_eq]
  constructor
  · rintro ⟨l, ⟨hl, -⟩, hpath⟩
    exact ⟨l, hl, hpath⟩
  · rintro ⟨l, hl, hpath⟩
    refine ⟨l, ⟨hl, ?_⟩, hpath⟩
    rw [hu.local_kind e he l hl hpath, hfile]
    rfl

/-- The existing file targets are the present expected files. -/
theorem UnblockedInputs.existingFileTargets
    (hu : UnblockedInputs expectedPaths localEntries receipts)
    (hd : DistinctInputs expectedPaths localEntries receipts)
    (hbuild : buildRemoteExpectedPaths remoteItems = .ok expectedPaths) :
    planReceiveOnlyExistingFileTargets remoteItems localEntries =
      .ok ((expectedPaths.filter fun e => e.kind == .file && isPresent localEntries e).map
        fun e => ⟨e.remoteId, e.relativePath, e.sizeBytes⟩) := by
  obtain ⟨plan, hplan, -⟩ := hu.materialization hd hbuild
  unfold planReceiveOnlyExistingFileTargets
  simp only [bind, Except.bind, hplan, hbuild, fileTargets]
  congr 2
  refine List.filter_congr fun e he => ?_
  cases hkind : e.kind with
  | file => rw [hu.containsLocalFile_eq he hkind]
  | folder => rfl

/-! ## The receipt tables -/

theorem receiptState_eq_some_iff
    (hnodup : (receipts.map ReceiveOnlyOwnershipReceipt.remoteId).Nodup) (e : RemoteExpectedPath)
    (state : ReceiveOnlyReceiptState) :
    receiptState receipts e = some state ↔
      ∃ r ∈ receipts, r.remoteId = e.remoteId ∧ r.state = state :=
  find?_key_map_eq_some hnodup e.remoteId state

/-- Every receipt sits at the expected path of its item, or at a removable leftover. -/
theorem UnblockedInputs.receipt_cases
    (hu : UnblockedInputs expectedPaths localEntries receipts)
    (hd : DistinctInputs expectedPaths localEntries receipts) {r : ReceiveOnlyOwnershipReceipt}
    (hr : r ∈ receipts) :
    (∃ e ∈ expectedPaths, e.remoteId = r.remoteId ∧ e.relativePath = r.relativePath ∧
      localKindForRemote e.kind = r.kind) ∨
    ∃ l ∈ localEntries, isLocalOnly expectedPaths l = true ∧
      StaleOwned expectedPaths receipts l r := by
  rcases hu.receipt_target r hr with ⟨l, hl, hpath⟩ | htarget
  · by_cases hlocal : isLocalOnly expectedPaths l = true
    · obtain ⟨⟨r', howned⟩, -⟩ := hu.local_only l hl hlocal
      have hsame : r' = r :=
        List.inj_on_of_nodup_map hd.receipt_paths howned.mem hr (howned.path.trans hpath)
      exact Or.inr ⟨l, hl, hlocal, hsame ▸ howned⟩
    · rw [isLocalOnly_iff] at hlocal
      push Not at hlocal
      obtain ⟨e, he, hepath⟩ := hlocal
      have hno := hu.no_conflict e he
      have hid : r.remoteId = e.remoteId := by
        by_contra hne
        exact hno (Or.inr ⟨r, hr, (hepath.trans hpath).symm, hne⟩)
      refine Or.inl ⟨e, he, hid.symm, hepath.trans hpath, ?_⟩
      by_contra hne
      exact hno (Or.inl ⟨r, hr, hid, Or.inr (Ne.symm hne)⟩)
  · exact Or.inl htarget

/-- The receipt of an expected item sits at its path with its kind. -/
theorem UnblockedInputs.own_receipt
    (hu : UnblockedInputs expectedPaths localEntries receipts) {e : RemoteExpectedPath}
    (he : e ∈ expectedPaths) {r : ReceiveOnlyOwnershipReceipt} (hr : r ∈ receipts)
    (hid : r.remoteId = e.remoteId) :
    r.relativePath = e.relativePath ∧ r.kind = localKindForRemote e.kind := by
  by_contra hdiff
  exact hu.no_conflict e he (Or.inl ⟨r, hr, hid, not_and_or.mp hdiff⟩)

/-- **A receipt table** holds the receipts of the expected items in its state and, when it is a stale
    table, those of the leftovers of its kind. -/
theorem UnblockedInputs.receiptTable_length
    (hu : UnblockedInputs expectedPaths localEntries receipts)
    (hd : DistinctInputs expectedPaths localEntries receipts) (kind : LocalTreeEntryKind)
    (state : ReceiveOnlyReceiptState) :
    (receipts.filter fun r => r.kind == kind && r.state == state).length =
      expectedPaths.countP (fun e =>
        localKindForRemote e.kind == kind && receiptState receipts e == some state) +
      match state with
      | .current => 0
      | .stale => localOnlyCount kind expectedPaths localEntries := by
  set owned : RemoteExpectedPath → Bool := fun e =>
    localKindForRemote e.kind == kind && receiptState receipts e == some state with howned
  set leftover : LocalTreeEntry → Bool := fun l =>
    isLocalOnly expectedPaths l && l.kind == kind && state == .stale with hleftover
  have hperm : ((receipts.filter fun r => r.kind == kind && r.state == state).map
      ReceiveOnlyOwnershipReceipt.relativePath).Perm
      ((expectedPaths.filter owned).map RemoteExpectedPath.relativePath ++
        (localEntries.filter leftover).map LocalTreeEntry.relativePath) := by
    refine (List.perm_ext_iff_of_nodup (hd.receipt_paths.sublist (List.filter_sublist.map _)) ?_).mpr
      fun path => ?_
    · refine List.nodup_append.mpr ⟨hd.expected_paths.sublist (List.filter_sublist.map _),
        hd.local_paths.sublist (List.filter_sublist.map _), ?_⟩
      rintro p hp q hq rfl
      obtain ⟨e, he, rfl⟩ := List.mem_map.mp hp
      obtain ⟨l, hl, hpath⟩ := List.mem_map.mp hq
      have hlocal : isLocalOnly expectedPaths l = true := by
        have := (List.mem_filter.mp hl).2
        simp only [hleftover, Bool.and_eq_true] at this
        exact this.1.1
      exact (isLocalOnly_iff _ _).mp hlocal e (List.mem_filter.mp he).1 hpath.symm
    · simp only [List.mem_append, List.mem_map, List.mem_filter, howned, hleftover,
        Bool.and_eq_true, beq_iff_eq, receiptState_eq_some_iff hd.receipt_ids]
      constructor
      · rintro ⟨r, ⟨hr, hkind, hstate⟩, rfl⟩
        rcases hu.receipt_cases hd hr with ⟨e, he, hid, hpath, hek⟩ | ⟨l, hl, hlocal, hstale⟩
        · exact Or.inl ⟨e, ⟨he, hek.trans hkind, r, hr, hid.symm, hstate⟩, hpath⟩
        · exact Or.inr ⟨l, ⟨hl, ⟨hlocal, hstale.kind.symm.trans hkind⟩, hstate.symm.trans
            hstale.stale⟩, hstale.path.symm⟩
      · rintro (⟨e, ⟨he, hek, r, hr, hid, hstate⟩, rfl⟩ | ⟨l, ⟨hl, ⟨hlocal, hlk⟩, hstate⟩, rfl⟩)
        · obtain ⟨hpath, hrk⟩ := hu.own_receipt he hr hid
          exact ⟨r, ⟨hr, hrk.trans hek, hstate⟩, hpath⟩
        · obtain ⟨⟨r, hstale⟩, -⟩ := hu.local_only l hl hlocal
          exact ⟨r, ⟨hstale.mem, hstale.kind.trans hlk, hstale.stale.trans hstate.symm⟩, hstale.path⟩
  have hlength := hperm.length_eq
  simp only [List.length_map, List.length_append] at hlength
  rw [hlength, List.countP_eq_length_filter]
  congr 1
  cases state with
  | current => simp [hleftover]
  | stale => simp [hleftover, localOnlyCount, List.countP_eq_length_filter]

end

/-! ## The two planners and the target lists -/

/-- The counters the two planners share, on a convergence plan that is not blocked. -/
structure PlannersAgree (plan : ReceiveOnlyMaterializationPlan)
    (convergence : ReceiveOnlyConvergencePlan) : Prop where
  createDirectories : convergence.createDirectories = plan.missingDirectories
  materializeMissingFiles : convergence.materializeMissingFiles = plan.missingFiles
  existingFiles : plan.existingFilesUnverified = convergence.currentOwnedFiles +
    convergence.verifyExistingFiles + convergence.revalidateStaleFileReplacements
  localOnlyEntries : plan.localOnlyEntries =
    convergence.revalidateStaleFileDeletions + convergence.deleteOwnedEmptyDirectories
  typeConflicts : plan.typeConflicts = 0

theorem PlannedFrom.plannersAgree {remoteItems : List RemoteItem} {localEntries : List LocalTreeEntry}
    {receipts : List ReceiveOnlyOwnershipReceipt} {maxActions : ℕ}
    {expectedPaths : List RemoteExpectedPath} {drafts : ActionMap}
    {convergence : ReceiveOnlyConvergencePlan} {plan : ReceiveOnlyMaterializationPlan}
    (h : PlannedFrom remoteItems localEntries receipts maxActions expectedPaths drafts convergence)
    (hunblocked : convergence.blocked = false)
    (hplan : planReceiveOnlyMaterialization remoteItems localEntries = .ok plan) :
    PlannersAgree plan convergence := by
  have hu := h.unblocked_iff.mp hunblocked
  obtain ⟨plan', hplan', hcounts⟩ := hu.materialization h.distinct h.build
  obtain rfl : plan' = plan := Except.ok.inj (hplan'.symm.trans hplan)
  have hclass := hu.countP_class h.distinct h.holds
  have howned := hu.count_outcomes h.distinct .currentOwnedFile
  -- every counter of the convergence plan is the count of its class
  rw [h.plan_eq]
  constructor
  · exact (hclass .createDirectory).trans hcounts.missingDirectories.symm
  · exact (hclass .materializeMissingFile).trans hcounts.missingFiles.symm
  · calc plan'.existingFilesUnverified
        = outcomeCount .currentOwnedFile expectedPaths localEntries receipts +
            (classCount .verifyExistingFile expectedPaths localEntries receipts +
              classCount .revalidateStaleFileReplacement expectedPaths localEntries receipts) :=
          hcounts.existingFiles
      _ = _ := by rw [← howned, ← hclass, ← hclass, ← Nat.add_assoc]; rfl
  · calc plan'.localOnlyEntries
        = classCount .revalidateStaleFileDeletion expectedPaths localEntries receipts +
            classCount .deleteOwnedEmptyDirectory expectedPaths localEntries receipts :=
          hcounts.localOnly
      _ = _ := by rw [← hclass, ← hclass]; rfl
  · exact hcounts.no_conflicts

/-- **The two planners and the target lists agree.** -/
theorem plannersAndTargets_agree (remoteItems : List RemoteItem) (localEntries : List LocalTreeEntry)
    (plan : ReceiveOnlyMaterializationPlan)
    (h : planReceiveOnlyMaterialization remoteItems localEntries = .ok plan) :
    (∃ directories files existing,
      planReceiveOnlyMissingDirectoryTargets remoteItems localEntries = .ok directories ∧
      planReceiveOnlyMissingFileTargets remoteItems localEntries = .ok files ∧
      planReceiveOnlyExistingFileTargets remoteItems localEntries = .ok existing ∧
      plan.missingDirectories = directories.length ∧ plan.missingFiles = files.length ∧
      plan.existingFilesUnverified = existing.length) ∧
    (∃ expectedPaths, buildRemoteExpectedPaths remoteItems = .ok expectedPaths ∧
      plan.remoteDirectories = plan.missingDirectories + plan.matchingDirectories +
        localKindCount expectedPaths localEntries .folder (some .file)) ∧
    ∀ receipts maxActions convergence,
      planReceiveOnlyConvergence remoteItems localEntries receipts maxActions = .ok convergence →
      convergence.blocked = false → PlannersAgree plan convergence := by
  obtain ⟨expectedPaths, hfrom⟩ := planReceiveOnlyMaterialization_ok h
  refine ⟨?_, ⟨expectedPaths, hfrom.build, hfrom.remoteDirectories_eq⟩, ?_⟩
  · obtain ⟨directories, hdirectories, hmissing⟩ := hfrom.missingDirectoryTargets
    obtain ⟨files, hfiles, hmissingFiles⟩ := hfrom.missingFileTargets
    obtain ⟨existing, hexisting, hpresent⟩ := hfrom.existingFileTargets
    exact ⟨directories, files, existing, hdirectories, hfiles, hexisting, hmissing.symm,
      hmissingFiles.symm, hpresent.symm⟩
  · intro receipts maxActions convergence hconvergence hunblocked
    obtain ⟨expected, drafts, hplanned⟩ := planReceiveOnlyConvergence_ok hconvergence
    exact hplanned.plannersAgree hunblocked h

theorem plannersAndTargets_agree_edit_and_drop : ∃ plan,
    planReceiveOnlyMaterialization editAndDropItems editAndDropLocal = .ok plan ∧
      PlannersAgree plan editAndDropPlan :=
  ⟨_, rfl, (plannersAndTargets_agree editAndDropItems editAndDropLocal _ rfl).2.2
    editAndDropReceipts 10 editAndDropPlan (by rfl) (by rfl)⟩

end NubiSync
