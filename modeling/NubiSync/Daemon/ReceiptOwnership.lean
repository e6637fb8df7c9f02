import NubiSync.Daemon.DiffJournal
import NubiSync.Daemon.ReceiveOnlyRun
import NubiSync.Storage.ReceiptIdentity

set_option autoImplicit false

/-! # Planning on receipts that identify

Both planners put the receipts of the two tables into one map: the convergence planner by remote id, the
remote write planner by the path of the current ones. Each refuses to go on when something is there
twice, and that is the only way to these two errors, so a store whose receipts identify their items never
gets to see them. -/

namespace NubiSync

open Checks

/-! ## The convergence planner -/

theorem refuses_indexReceipts {receipts : List ReceiveOnlyOwnershipReceipt}
    (h : (receipts.map ReceiveOnlyOwnershipReceipt.remoteId).Nodup)
    {byRemoteId byPath : AList fun _ : Text => ReceiveOnlyOwnershipReceipt}
    (hfresh : ∀ receipt ∈ receipts, receipt.remoteId ∉ byRemoteId) :
    Refuses (indexReceipts byRemoteId byPath receipts) (· ≠ .duplicateReceiptRemoteId) := by
  induction receipts generalizing byRemoteId byPath with
  | nil => exact .ok
  | cons receipt rest ih =>
      obtain ⟨hid, hrest⟩ := List.nodup_cons.mp h
      obtain ⟨hfirst, hothers⟩ := List.forall_mem_cons.mp hfresh
      rw [indexReceipts, if_neg hfirst]
      split
      · exact .error (by simp)
      · refine ih hrest fun other hother hmem => ?_
        rcases (AList.mem_insert _).mp hmem with hsame | hold
        · exact hid (hsame ▸ List.mem_map_of_mem hother)
        · exact hothers other hother hold

theorem refuses_fromMaterialization {α : Type} {P : ReceiveOnlyConvergencePlanError → Prop}
    (h : ∀ e, P (.materialization e)) (x : Except ReceiveOnlyMaterializationPlanError α) :
    Refuses (fromMaterialization x) P := by
  cases x with
  | error e => exact .error (h e)
  | ok a => exact .ok

theorem refuses_setActions (maxActions : ℕ) (actions : ActionMap) (candidates : List ActionDraft) :
    Refuses (setActions maxActions actions candidates) (· ≠ .duplicateReceiptRemoteId) := by
  refine .foldlM (fun actions candidate => ?_) actions candidates
  unfold setAction
  split
  · split
    · exact .ok
    · exact .ok
  · dsimp only
    split
    · exact .error (by simp)
    · exact .ok

/-- Receipts with remote ids of their own are not taken for duplicates. -/
theorem refuses_planRootConvergence {inputs : RootInputs}
    (h : (inputs.receipts.map ReceiveOnlyOwnershipReceipt.remoteId).Nodup) :
    Refuses (planRootConvergence inputs) (· ≠ .convergencePlan .duplicateReceiptRemoteId) := by
  have hplan : Refuses (planReceiveOnlyConvergence inputs.remoteItems inputs.localEntries
      inputs.receipts selectedRootConvergenceMaxActions) (· ≠ .duplicateReceiptRemoteId) := by
    unfold planReceiveOnlyConvergence
    split
    · exact .error (by simp)
    refine .bind (refuses_fromMaterialization (by simp) _) fun _ _ => ?_
    refine .bind (refuses_fromMaterialization (by simp) _) fun expectedPaths _ => ?_
    refine .bind (refuses_fromMaterialization (by simp) _) fun localByPath _ => ?_
    refine .bind (refuses_indexReceipts h fun _ _ => AList.notMem_empty _) fun _ _ => ?_
    exact .bind (refuses_setActions _ _ _) fun _ _ => .ok
  intro e he
  unfold planRootConvergence at he
  split at he
  · cases he
  · next e' he' =>
      cases he
      exact fun hsame => hplan e' he' (SelectedRootExecutorError.convergencePlan.inj hsame)

/-! ## What the planners read -/

theorem RootStore.ensures_listFileReceipts (store : RootStore) :
    Ensures store.listFileReceipts
      (·.Perm (store.catalog.fileReceipts.rows.filter (·.receiptState = .current))) :=
  .after fun _ => .ok (List.perm_insertionSort _ _)

theorem RootStore.ensures_listStaleFileReceipts (store : RootStore) :
    Ensures store.listStaleFileReceipts
      (·.Perm (store.catalog.fileReceipts.rows.filter (·.receiptState = .stale))) :=
  .after fun _ => .ok (List.perm_insertionSort _ _)

theorem RootStore.ensures_listDirectoryReceipts (store : RootStore) :
    Ensures store.listDirectoryReceipts
      (·.Perm (store.catalog.directoryReceipts.rows.filter (·.receiptState = .current))) :=
  .after fun _ => .ok (List.perm_insertionSort _ _)

theorem RootStore.ensures_listStaleDirectoryReceipts (store : RootStore) :
    Ensures store.listStaleDirectoryReceipts
      (·.Perm (store.catalog.directoryReceipts.rows.filter (·.receiptState = .stale))) :=
  .after fun _ => .ok (List.perm_insertionSort _ _)

theorem perm_currentStale {ρ : Type} (state : ρ → ReceiptState) (rows : List ρ) :
    (rows.filter (state · = .current) ++ rows.filter (state · = .stale)).Perm rows := by
  have hstale : rows.filter (state · = .stale)
      = rows.filter fun row => !decide (state row = .current) := by
    refine List.filter_congr fun row _ => ?_
    cases state row <;> rfl
  rw [hstale]
  exact List.filter_append_perm _ _

theorem ensures_ownershipReceipt (remoteId relativePath : Text) (kind : LocalTreeEntryKind)
    (state : ReceiveOnlyReceiptState) :
    Ensures (ownershipReceipt remoteId relativePath kind state) (·.remoteId = remoteId) := by
  intro receipt h
  obtain ⟨hid, -⟩ := ReceiveOnlyOwnershipReceipt.new_eq_ok_iff.mp (mapError_eq_ok.mp h)
  exact hid

theorem refuses_ownershipReceipt (remoteId relativePath : Text) (kind : LocalTreeEntryKind)
    (state : ReceiveOnlyReceiptState) :
    Refuses (ownershipReceipt remoteId relativePath kind state)
      (· ≠ .convergencePlan .duplicateReceiptRemoteId) := by
  unfold ownershipReceipt ReceiveOnlyOwnershipReceipt.new
  split
  · split
    · exact .ok
    · exact .error (by simp)
  · exact .error (by simp)

theorem ensures_fileOwnership (state : ReceiveOnlyReceiptState) (receipts : List FileReceiptRow) :
    Ensures (fileOwnership state receipts)
      (List.map ReceiveOnlyOwnershipReceipt.remoteId · = receipts.map FileReceiptRow.remoteId) :=
  .mapM (fun _ => ensures_ownershipReceipt _ _ _ _) receipts

theorem ensures_directoryOwnership (state : ReceiveOnlyReceiptState)
    (receipts : List DirectoryReceiptRow) :
    Ensures (directoryOwnership state receipts)
      (List.map ReceiveOnlyOwnershipReceipt.remoteId · =
        receipts.map DirectoryReceiptRow.remoteId) :=
  .mapM (fun _ => ensures_ownershipReceipt _ _ _ _) receipts

theorem RootStore.refuses_materializationInputs (store : RootStore) (mode : SyncMode)
    (scan : Except SelectedRootExecutorError (List LocalTreeEntry)) :
    Refuses (store.materializationInputs mode scan) fun e =>
      e = .convergencePlan .duplicateReceiptRemoteId → scan = .error e := by
  refine .check (by simp) fun _ => .check (by simp) fun _ => .check (by simp) fun _ => ?_
  refine .check (by simp) fun _ => .check (by simp) fun _ => .check (by simp) fun _ => ?_
  exact .bind (fun e he _ => he) fun _ _ => .ok

/-- **Receipts that identify plan convergence**, up to what the scan of the tree has to say. -/
theorem CatalogStore.ReceiptsIdentify.plans_convergence {store : RootStore}
    (h : store.catalog.ReceiptsIdentify) (mode : SyncMode)
    (scan : Except SelectedRootExecutorError (List LocalTreeEntry)) :
    Refuses (planSelectedRootReceiveOnlyConvergence store mode scan) fun e =>
      e = .convergencePlan .duplicateReceiptRemoteId → scan = .error e := by
  obtain ⟨-, hids⟩ := CatalogStore.receiptsIdentify_iff_nodup.mp h
  have hmono : ∀ {α : Type} {x : Except SelectedRootExecutorError α},
      Refuses x (· ≠ .convergencePlan .duplicateReceiptRemoteId) → Refuses x fun e =>
        e = .convergencePlan .duplicateReceiptRemoteId → scan = .error e :=
    fun hx e he hsame => absurd hsame (hx e he)
  have hstorage : ∀ {α : Type} (x : Except StorageError α), Refuses (fromStorage x) fun e =>
      e = .convergencePlan .duplicateReceiptRemoteId → scan = .error e :=
    fun x => refuses_fromStorage (by simp) x
  refine .bind (store.refuses_materializationInputs mode scan) fun inputs _ => ?_
  refine .bind (hstorage _) fun files hfiles => ?_
  refine .bind (hmono (.mapM (fun _ => refuses_ownershipReceipt _ _ _ _) _)) fun owned howned => ?_
  refine .bind (hstorage _) fun files' hfiles' => ?_
  refine .bind (hmono (.mapM (fun _ => refuses_ownershipReceipt _ _ _ _) _)) fun owned' howned' => ?_
  refine .bind (hstorage _) fun directories hdirectories => ?_
  refine .bind (hmono (.mapM (fun _ => refuses_ownershipReceipt _ _ _ _) _)) fun held hheld => ?_
  refine .bind (hstorage _) fun directories' hdirectories' => ?_
  refine .bind (hmono (.mapM (fun _ => refuses_ownershipReceipt _ _ _ _) _)) fun held' hheld' => ?_
  refine hmono (refuses_planRootConvergence ?_)
  have hcurrent := ensures_fromStorage store.ensures_listFileReceipts files hfiles
  have hstale := ensures_fromStorage store.ensures_listStaleFileReceipts files' hfiles'
  have hcurrent' := ensures_fromStorage store.ensures_listDirectoryReceipts directories hdirectories
  have hstale' :=
    ensures_fromStorage store.ensures_listStaleDirectoryReceipts directories' hdirectories'
  have hfileIds := ((hcurrent.append hstale).trans
    (perm_currentStale FileReceiptRow.receiptState _)).map FileReceiptRow.remoteId
  have hdirectoryIds := ((hcurrent'.append hstale').trans
    (perm_currentStale DirectoryReceiptRow.receiptState _)).map DirectoryReceiptRow.remoteId
  simp only [List.map_append, ensures_fileOwnership _ _ _ howned,
    ensures_fileOwnership _ _ _ howned', ensures_directoryOwnership _ _ _ hheld,
    ensures_directoryOwnership _ _ _ hheld']
  rw [List.append_assoc]
  rw [List.map_append] at hfileIds hdirectoryIds
  exact (hfileIds.append hdirectoryIds).nodup_iff.mpr hids

/-! ## The remote write planner -/

theorem RemoteWritePlanInputs.refuses_ambiguous {inputs : RemoteWritePlanInputs}
    (h : (inputs.ownership.map Prod.fst).Nodup) :
    Refuses inputs.deriveEntries (· ≠ .remoteWritePlanOwnershipAmbiguous) :=
  .check (by simp) fun _ => .check (by simp) fun _ => .check (by simp) fun _ =>
    .check (by simp [h]) fun _ => .ok

/-- **Receipts that identify plan remote writes.** -/
theorem CatalogStore.ReceiptsIdentify.plans_writes {store : RootStore}
    (h : store.catalog.ReceiptsIdentify) (remoteRootId : Option Text)
    (first second : List LocalItemSnapshot) (credential : Bool) :
    Refuses (planSelectedRootRemoteWriteIntents store remoteRootId first second credential)
      (· ≠ .remoteWritePlanOwnershipAmbiguous) := by
  obtain ⟨hpaths, -⟩ := CatalogStore.receiptsIdentify_iff_nodup.mp h
  refine .present (by simp) fun state _ => .check (by simp) fun _ => ?_
  refine .check (by simp) fun _ => .check (by simp) fun _ => .bind ?_ fun diff _ => ?_
  · exact .check (by simp) fun _ => .ok
  refine .check (by simp) fun _ => .present (by simp) fun root _ => .bind ?_ fun _ _ => ?_
  · exact fun e he => (store.refuses_checkRemoteWritePlan root e he).2
  refine .bind (refuses_fromStorage (by simp) _) fun files hfiles => ?_
  refine .bind (refuses_fromStorage (by simp) _) fun directories hdirectories => ?_
  refine .bind (RemoteWritePlanInputs.refuses_ambiguous ?_) fun _ _ => .ok
  have hcurrent := ensures_fromStorage store.ensures_listFileReceipts files hfiles
  have hcurrent' := ensures_fromStorage store.ensures_listDirectoryReceipts directories hdirectories
  simp only [RemoteWritePlanInputs.ownership, List.map_append, List.map_map, Function.comp_def]
  exact ((hcurrent.map FileReceiptRow.relativePath).append
    (hcurrent'.map DirectoryReceiptRow.relativePath)).nodup_iff.mpr hpaths

/-! ## Runs -/

/-- **Receipts identify in every run that leaves the receipts of the other kind alone**: a remote id has
    one receipt, a path one current owner, and neither planner finds a duplicate. One more step keeps it
    so exactly when it meets the condition, too. -/
theorem receipts_identify (mode : SyncMode) (store : RootStore)
    (hrun : Machine.Run RootStore.Step ClaimsUnowned (RootStore.new mode) store) :
    store.catalog.currentReceiptPaths.Nodup ∧ store.catalog.receiptRemoteIds.Nodup
      ∧ (∀ remoteRootId first second credential,
          planSelectedRootRemoteWriteIntents store remoteRootId first second credential ≠
            .error .remoteWritePlanOwnershipAmbiguous)
      ∧ (∀ mode scan, planSelectedRootReceiveOnlyConvergence store mode scan =
            .error (.convergencePlan .duplicateReceiptRemoteId) →
          scan = .error (.convergencePlan .duplicateReceiptRemoteId))
      ∧ ∀ op next, store.Step op next →
          (next.catalog.currentReceiptPaths.Nodup ∧ next.catalog.receiptRemoteIds.Nodup ↔
            ClaimsUnowned store op) := by
  have hidentify : store.catalog.ReceiptsIdentify := by
    refine hrun.invariant (P := fun store => store.catalog.ReceiptsIdentify) ?_ ?_
    · exact CatalogStore.receiptsIdentify_iff_nodup.mpr ⟨List.nodup_nil, List.nodup_nil⟩
    · exact fun _ _ _ hsame hunowned hstep => (hstep.receiptsIdentify_iff hsame).mpr hunowned
  obtain ⟨hpaths, hids⟩ := CatalogStore.receiptsIdentify_iff_nodup.mp hidentify
  refine ⟨hpaths, hids, ?_, ?_, ?_⟩
  · intro remoteRootId first second credential herror
    exact hidentify.plans_writes remoteRootId first second credential _ herror rfl
  · intro mode scan herror
    exact hidentify.plans_convergence mode scan _ herror rfl
  · intro op next hstep
    rw [← CatalogStore.receiptsIdentify_iff_nodup]
    exact hstep.receiptsIdentify_iff hidentify

instance (store : RootStore) (op : RootOperation) : Decidable (ClaimsUnowned store op) :=
  decidable_of_iff (_ ∧ _) ⟨fun ⟨hfiles, hdirectories⟩ => ⟨hfiles, hdirectories⟩,
    fun h => ⟨h.files, h.directories⟩⟩

/-- The folder `a` and a file in it are materialized. -/
def materializedOperations : List RootOperation :=
  [.inventory (.stageItems [⟨['2'], some ['0'], ['a'], .folder, none, none, false⟩,
      ⟨['3'], some ['2'], ['b'], .file, some 1, none, false⟩]),
    .inventory (.commitSnapshot (.ofChar '0')),
    .receipts (.recordDirectories [⟨['2'], ['a']⟩]),
    .receipts (.recordFile ⟨['3'], ['a', '/', 'b'], 1, List.replicate 64 '0'⟩)]

/-- What is then stored. -/
def materializedStore : RootStore :=
  { RootStore.new .receiveOnly with
    catalog := ⟨.ofRows [⟨['2'], some ['0'], ['a'], .folder, none, false⟩,
        ⟨['3'], some ['2'], ['b'], .file, some 1, false⟩],
      .ofRows [⟨['3'], ['a', '/', 'b'], 1, List.replicate 64 '0', .current⟩],
      .ofRows [⟨['2'], ['a'], .current⟩], 2⟩
    remoteState := some ⟨true, false, some (.ofChar '0'), none⟩ }

theorem receipts_identify_materialized :
    materializedStore.catalog.currentReceiptPaths.Nodup
      ∧ materializedStore.catalog.receiptRemoteIds.Nodup := by
  have hrun : materializedOperations.foldlM (fun store op => do
      refuseIf (!decide (ClaimsUnowned store op)) StorageError.invalidMaterializationReceipt
      store.apply op) (RootStore.new .receiveOnly) = .ok materializedStore := by rfl
  obtain ⟨hpaths, hids, -⟩ := receipts_identify .receiveOnly materializedStore
    (Machine.Run.of_guarded hrun)
  exact ⟨hpaths, hids⟩

/-- The item `2`, the file `a` of the root. -/
def retypedFile : RemoteItem := ⟨['2'], some ['0'], ['a'], .file, some 1, none, false⟩

/-- The folder `a` is materialized, becomes a file, and is materialized again. -/
def retypedFolderOperations : List RootOperation :=
  [.inventory (.stageItems [⟨['2'], some ['0'], ['a'], .folder, none, none, false⟩]),
    .inventory (.commitSnapshot (.ofChar '0')),
    .receipts (.recordDirectories [⟨['2'], ['a']⟩]),
    .inventory (.stageWindowPage (.ofChar '0') none
      ⟨[.upsert retypedFile], none, some (.ofChar '1')⟩),
    .inventory (.commitWindow (.ofChar '0') (.ofChar '1') 1 [.upsert retypedFile]),
    .receipts (.recordFile ⟨['2'], ['a'], 1, List.replicate 64 '0'⟩)]

/-- What is then stored. -/
def retypedFolderStore : RootStore :=
  { RootStore.new .receiveOnly with
    catalog := ⟨.ofRows [⟨['2'], some ['0'], ['a'], .file, some 1, false⟩],
      .ofRows [⟨['2'], ['a'], 1, List.replicate 64 '0', .current⟩],
      .ofRows [⟨['2'], ['a'], .stale⟩], 1⟩
    remoteState := some ⟨true, true, some (.ofChar '0'), some (.ofChar '1')⟩ }

/-- A file and a folder of the root, both of the name `a`, are materialized. -/
def siblingOperations : List RootOperation :=
  [.inventory (.stageItems [retypedFile, ⟨['3'], some ['0'], ['a'], .folder, none, none, false⟩]),
    .inventory (.commitSnapshot (.ofChar '0')),
    .receipts (.recordFile ⟨['2'], ['a'], 1, List.replicate 64 '0'⟩),
    .receipts (.recordDirectories [⟨['3'], ['a']⟩])]

/-- What is then stored. -/
def siblingStore : RootStore :=
  { RootStore.new .receiveOnly with
    catalog := ⟨.ofRows [⟨['2'], some ['0'], ['a'], .file, some 1, false⟩,
        ⟨['3'], some ['0'], ['a'], .folder, none, false⟩],
      .ofRows [⟨['2'], ['a'], 1, List.replicate 64 '0', .current⟩],
      .ofRows [⟨['3'], ['a'], .current⟩], 2⟩
    remoteState := some ⟨true, false, some (.ofChar '0'), none⟩ }

/-- **The receipts of files and of directories overlap**: an item that changes its kind has one of each,
    which the convergence planner takes for a duplicate, and two items of one name own one path. -/
theorem receipts_overlap :
    Machine.Run RootStore.Step (fun _ _ => True) (RootStore.new .receiveOnly) retypedFolderStore
      ∧ ¬ retypedFolderStore.catalog.receiptRemoteIds.Nodup
      ∧ planSelectedRootReceiveOnlyConvergence retypedFolderStore .receiveOnly (.ok [])
          = .error (.convergencePlan .duplicateReceiptRemoteId)
      ∧ Machine.Run RootStore.Step (fun _ _ => True) (RootStore.new .receiveOnly) siblingStore
      ∧ ¬ siblingStore.catalog.currentReceiptPaths.Nodup := by
  have hretyped : retypedFolderOperations.foldlM RootStore.apply (RootStore.new .receiveOnly)
    = .ok retypedFolderStore := by rfl
  have hsiblings : siblingOperations.foldlM RootStore.apply (RootStore.new .receiveOnly)
    = .ok siblingStore := by rfl
  refine ⟨.of_foldlM (fun _ _ _ => trivial) hretyped, by decide, by rfl,
    .of_foldlM (fun _ _ _ => trivial) hsiblings, by decide⟩

end NubiSync
