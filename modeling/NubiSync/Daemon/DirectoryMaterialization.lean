import NubiSync.Daemon.ExecutorInputs
import NubiSync.Storage.ReceiptEffects

set_option autoImplicit false

/-! # Creating missing directories

The missing directories are created one after the other, parents first. When one fails, when the tree
does not look as planned afterwards, or when the receipts cannot be recorded, those that were created are
removed again, the last first. -/

namespace NubiSync

open Checks Methods FileTrees

/-- `DirectoryApplyOutcome`; the path of a created target is that of its relative path. -/
structure DirectoryApplyOutcome where
  createdTargets : List ReceiveOnlyDirectoryTarget
  existingDirectories : ℕ

/-- The path of a target. -/
def ReceiveOnlyDirectoryTarget.path (target : ReceiveOnlyDirectoryTarget) : LocalPath :=
  localPath target.relativePath

/-- The receipt of a created directory. -/
def ReceiveOnlyDirectoryTarget.row (target : ReceiveOnlyDirectoryTarget) : DirectoryMaterialization :=
  ⟨target.remoteId, target.relativePath⟩

structure SelectedRootDirectoryMaterialization where
  remoteDirectories : ℕ
  plannedDirectoryActions : ℕ
  batchActionLimit : ℕ
  createdDirectories : ℕ
  existingDirectories : ℕ
  pendingFiles : ℕ
  deriving DecidableEq, Repr

namespace ExecutorWorld

variable (world : ExecutorWorld)

/-- `fs::remove_dir`, of what may be gone. -/
def removeDirectoryIfPresent (path : LocalPath) : LocalMethod Unit := do
  match ← world.call (fun _ files => files.removeDirectory path) with
  | .ok () => pure ()
  | .error .notFound => pure ()
  | .error _ => throw .localDirectoryRollbackFailed

def rollbackCreatedDirectories (created : List ReceiveOnlyDirectoryTarget) : LocalMethod Unit :=
  undoAll (fun target => world.removeDirectoryIfPresent target.path) created

/-- A round of `apply_selected_root_directory_targets`, up to the creation: whether the directory is
    there already. -/
def inspectDirectoryTarget (target : ReceiveOnlyDirectoryTarget) : LocalMethod Bool := do
  match ← world.look (·.metadata target.path) with
  | .ok node => do
      ofExcept (refuseIf (!isDir node) .localDirectoryTargetConflict)
      let _ ← orThrow (world.look (·.canonicalize target.path)) .localFilesystemInspectionFailed
      pure true
  | .error .notFound => do
      world.requireParentDirectory target.path.dropLast .localDirectoryParentInvalid
      pure false
  | .error _ => throw .localFilesystemInspectionFailed

/-- The checks of a round after the creation. -/
def inspectCreatedDirectory (target : ReceiveOnlyDirectoryTarget) : LocalMethod Unit := do
  let node ← orThrow (world.look (·.metadata target.path)) .localDirectoryPostconditionFailed
  ofExcept (refuseIf (!isDir node) .localDirectoryPostconditionFailed)
  let _ ← orThrow (world.look (·.canonicalize target.path)) .localDirectoryPostconditionFailed
  pure ()

/-- `apply_selected_root_directory_targets`, with the targets that are left. -/
def applyDirectoryTargets :
    List ReceiveOnlyDirectoryTarget → DirectoryApplyOutcome → LocalMethod DirectoryApplyOutcome
  | [], outcome => pure outcome
  | target :: rest, ⟨created, existing⟩ => do
      if ← orCleanUp (world.inspectDirectoryTarget target) (world.rollbackCreatedDirectories created) then
        applyDirectoryTargets rest ⟨created, existing + 1⟩
      else do
        orCleanUp (orThrow (world.call fun _ files => files.createDirectory target.path)
          .localDirectoryCreateFailed) (world.rollbackCreatedDirectories created)
        orCleanUp (world.inspectCreatedDirectory target)
          (world.rollbackCreatedDirectories (created ++ [target]))
        applyDirectoryTargets rest ⟨created ++ [target], existing⟩

/-- The closure `post_result` of `materialize_selected_root_directories`. -/
def recordCreatedDirectories (remoteItems : List RemoteItem) (preflight : ReceiveOnlyMaterializationPlan)
    (targets : List ReceiveOnlyDirectoryTarget) (outcome : DirectoryApplyOutcome) :
    LocalMethod SelectedRootDirectoryMaterialization := do
  ofExcept (refuseIf (outcome.existingDirectories != 0 || outcome.createdTargets.length != targets.length)
    .localDirectoryPostconditionFailed)
  let postEntries ← world.scanSelectedRootLocalTree
  let postPlan ← ofSelectedRoot (fromMaterializationPlan
    (planReceiveOnlyMaterialization remoteItems postEntries))
  ofExcept (refuseIf (!postPlan.readyForDirectoryPhase || postPlan.missingDirectories != 0
    || postPlan.matchingDirectories != postPlan.remoteDirectories
    || preflight.matchingDirectories + outcome.createdTargets.length != postPlan.remoteDirectories)
    .localDirectoryPostconditionFailed)
  world.currentUnixTimeMs
  let rows := outcome.createdTargets.map ReceiveOnlyDirectoryTarget.row
  let recorded ← world.transact (·.recordDirectoryMaterializations rows)
  ofExcept (refuseIf (recorded != rows.length) .directoryReceiptPostconditionFailed)
  pure ⟨postPlan.remoteDirectories, targets.length, selectedRootConvergenceMaxActions,
    outcome.createdTargets.length, preflight.matchingDirectories, postPlan.remoteFiles⟩

/-- `materialize_selected_root_directories`. -/
def materializeDirectories : LocalMethod SelectedRootDirectoryMaterialization := do
  let inputs ← world.admittedInputs admitDirectories
  let preflight ← ofSelectedRoot (fromMaterializationPlan
    (planReceiveOnlyMaterialization inputs.remoteItems inputs.localEntries))
  let targets ← ofSelectedRoot (fromMaterializationPlan
    (planReceiveOnlyMissingDirectoryTargets inputs.remoteItems inputs.localEntries))
  world.validatedSelectedRootPath
  world.invalidateBaseline
  let outcome ← world.applyDirectoryTargets targets ⟨[], 0⟩
  orCleanUp (world.recordCreatedDirectories inputs.remoteItems preflight targets outcome)
    (world.rollbackCreatedDirectories outcome.createdTargets)

end ExecutorWorld

/-! ## The batch -/

/-- A directory comes to stand where nothing was, and nothing below. -/
def Creates (target : ReceiveOnlyDirectoryTarget) (m m' : LocalNodes) : Prop :=
  m target.path = none ∧ (∀ name, m (target.path ++ [name]) = none) ∧
    IsDirectoryIn m target.path.dropLast ∧
    ∃ id, m' = Function.update m target.path (some (.directory id))

/-- A failed batch of directories left everything as it was, or the roll-back has failed. -/
abbrev DirectoryBatchFails (fresh : LocalPath → Prop) (m : LocalNodes) (store : RootStore) :
    LocalExecutorError → LocalRoot → Prop :=
  Fails (Looks m store) (· = .localDirectoryRollbackFailed) (LeftBehind fresh m store)

section Batch

variable {world : ExecutorWorld} {m : LocalNodes} {store : RootStore}
  {created : List ReceiveOnlyDirectoryTarget} {fresh : LocalPath → Prop}

theorem Creates.grown {target : ReceiveOnlyDirectoryTarget} {m m' : LocalNodes} (h : Creates target m m')
    (hfresh : fresh target.path) : GrownAt fresh m m' := by
  obtain ⟨hfree, -, -, id, rfl⟩ := h
  exact (GrownAt.refl fresh m).update hfree hfresh _

theorem created_grown {m' : LocalNodes} (h : Changes Creates m created m')
    (hfresh : ∀ target ∈ created, fresh target.path) : GrownAt fresh m m' :=
  h.keeps (.refl fresh m) fun target htarget _ _ hgrown hchange =>
    hgrown.trans (hchange.grown (hfresh target htarget))

/-- The parent of what is created is another path. -/
theorem Creates.proper {target : ReceiveOnlyDirectoryTarget} {m m' : LocalNodes} (h : Creates target m m') :
    target.path ≠ [] := by
  intro hroot
  obtain ⟨hfree, -, ⟨id, hparent⟩, -⟩ := h
  rw [hroot] at hfree hparent
  rw [List.dropLast_nil, hfree] at hparent
  cases hparent

namespace ExecutorWorld

theorem removeDirectoryIfPresent_rule {target : ReceiveOnlyDirectoryTarget} {m m' : LocalNodes}
    {E : LocalExecutorError → LocalRoot → Prop} (h : Creates target m m')
    (hE : ∀ d, Looks m' store d → E .localDirectoryRollbackFailed d) :
    LocalTriple (Looks m' store) (world.removeDirectoryIfPresent target.path) (fun _ => Looks m store) E := by
  have hproper := h.proper
  obtain ⟨hfree, hbare, -, id, rfl⟩ := h
  refine call_bind (S := fun _ => Looks m store) (fun d now hd => ?_) (.throw hE) fun _ =>
    .pure fun _ h => h
  have hdirectory : d.files.IsDirectory target.path := ⟨id, by rw [hd.nodes, Function.update_self]⟩
  obtain ⟨after, hremove, hafter⟩ := FileTree.removeDirectory_of_empty hproper hdirectory fun name => by
    rw [hd.nodes, Function.update_of_ne (by simp), hbare]
  refine ⟨after, (), hremove, ?_, hd.store⟩
  rw [hafter, hd.nodes, update_undone hfree]

theorem rollbackCreatedDirectories_rule (store : RootStore) (hfresh : ∀ target ∈ created, fresh target.path) :
    LocalTriple (fun d => ∃ m', Changes Creates m created m' ∧ Looks m' store d)
      (world.rollbackCreatedDirectories created) (fun _ => Looks m store)
      (fun error d => error = .localDirectoryRollbackFailed ∧ LeftBehind fresh m store d) := by
  refine Triple.undoChanges fun before target s t hcreated hbefore hchange => ?_
  obtain ⟨after, rfl⟩ := hcreated
  refine removeDirectoryIfPresent_rule hchange fun d hd => ⟨rfl, t, ?_, hd⟩
  exact (created_grown hbefore fun other hother => hfresh other (List.mem_append_left _ hother)).trans
    (hchange.grown (hfresh target (by simp)))

theorem rollbackCreatedDirectories_fails {m' : LocalNodes} (hchanges : Changes Creates m created m')
    (hfresh : ∀ target ∈ created, fresh target.path) (error : LocalExecutorError) :
    LocalTriple (Looks m' store) (world.rollbackCreatedDirectories created)
      (fun _ => DirectoryBatchFails fresh m store error) (DirectoryBatchFails fresh m store) := by
  refine (rollbackCreatedDirectories_rule store hfresh).mono (fun d hd => ⟨m', hchanges, hd⟩)
    (fun _ d hd => .of_clean hd) fun failed d hd => ?_
  obtain ⟨rfl, hd⟩ := hd
  exact .of_dirty rfl hd

theorem inspectDirectoryTarget_rule {target : ReceiveOnlyDirectoryTarget}
    {E : LocalExecutorError → LocalRoot → Prop} (hE : ∀ error d, Looks m store d → E error d) :
    LocalTriple (Looks m store) (world.inspectDirectoryTarget target)
      (fun existing d => (existing = false →
        m target.path = none ∧ IsDirectoryIn m target.path.dropLast) ∧ Looks m store d) E := by
  refine metadata_bind (fun node hnode => ?_) (fun hnone => ?_) fun error hne => ?_
  · refine .check_bind (fun _ => ?_) fun _ => hE _
    exact lookOrThrow_bind (A := fun _ => True) (fun _ _ _ _ => trivial) (hE _) fun _ _ =>
      .pure fun d hd => ⟨nofun, hd⟩
  · exact Triple.bind (requireParentDirectory_rule (hE _)) fun _ => .fact fun hparent =>
      .pure fun d hd => ⟨fun _ => ⟨hnone, hparent⟩, hd⟩
  · cases error with
    | notFound => exact absurd rfl hne
    | alreadyExists => exact .throw (hE _)
    | other => exact .throw (hE _)

theorem inspectCreatedDirectory_rule {target : ReceiveOnlyDirectoryTarget}
    {E : LocalExecutorError → LocalRoot → Prop} (hdirectory : IsDirectoryIn m target.path)
    (hE : ∀ d, Looks m store d → E .localDirectoryPostconditionFailed d) :
    LocalTriple (Looks m store) (world.inspectCreatedDirectory target) (fun _ => Looks m store) E := by
  obtain ⟨id, hid⟩ := hdirectory
  refine lookOrThrow_bind_of (A := fun node => node = .directory id)
    (fun d hd => ⟨_, hd.metadata.mpr hid, rfl⟩) hE ?_
  rintro _ rfl
  refine .check_bind (fun _ => ?_) fun hrefused => by cases hrefused
  exact lookOrThrow_bind (A := fun _ => True) (fun _ _ _ _ => trivial) hE fun _ _ =>
    .pure fun _ hd => hd

theorem createDirectory_rule {target : ReceiveOnlyDirectoryTarget}
    {E : LocalExecutorError → LocalRoot → Prop} (hroot : IsDirectoryIn m [])
    (hfree : m target.path = none) (hparent : IsDirectoryIn m target.path.dropLast)
    (hE : ∀ d, Looks m store d → E .localDirectoryCreateFailed d) :
    LocalTriple (Looks m store) (orThrow (world.call fun _ files => files.createDirectory target.path)
      .localDirectoryCreateFailed) (fun _ d => ∃ m', Creates target m m' ∧ Looks m' store d) E := by
  have hproper : target.path ≠ [] := by
    intro hnil
    obtain ⟨id, hid⟩ := hroot
    rw [hnil, hid] at hfree
    cases hfree
  refine .of_bind_pure (callOrThrow_bind (S := fun _ d => ∃ m', Creates target m m' ∧ Looks m' store d)
    (fun d now hd => ?_) hE fun _ => .pure fun _ h => h)
  obtain ⟨after, hcreate, hafter⟩ := FileTree.createDirectory_of_free (t := d.files) hproper
    (hd.isDirectory hparent) (by rw [hd.nodes, hfree])
  refine ⟨after, (), hcreate, _, ⟨hfree, fun name => ?_, hparent, d.files.fresh, rfl⟩, ?_, hd.store⟩
  · -- nothing stands below a path without a directory
    rw [← hd.nodes]
    refine FileTree.childless_of_not_directory ?_ name
    rintro ⟨id, hid⟩
    rw [hd.nodes, hfree] at hid
    cases hid
  · rw [hafter, hd.nodes]

/-- **The loop**, by recursion on the targets that are left: those that were missing are created. -/
theorem applyDirectoryTargets_rule (hroot : IsDirectoryIn m [])
    (targets created : List ReceiveOnlyDirectoryTarget) (existing : ℕ) {m' : LocalNodes}
    (hchanges : Changes Creates m created m') (hfresh : ∀ target ∈ created, fresh target.path)
    (htargets : ∀ target ∈ targets, fresh target.path) :
    LocalTriple (Looks m' store) (world.applyDirectoryTargets targets ⟨created, existing⟩)
      (fun outcome d => ∃ new, outcome.createdTargets = created ++ new ∧ new.Sublist targets ∧
        ∃ m'', Changes Creates m (created ++ new) m'' ∧ Looks m'' store d)
      (DirectoryBatchFails fresh m store) := by
  induction targets generalizing created existing m' with
  | nil => exact .pure fun d hd => ⟨[], by simp, .slnil, m', by simpa using hchanges, hd⟩
  | cons target rest ih =>
      have hgrown := created_grown hchanges hfresh
      obtain ⟨rootId, hrootId⟩ := hroot
      have hroot' : IsDirectoryIn m' [] := ⟨rootId, hgrown.kept hrootId⟩
      have hrest : ∀ other ∈ rest, fresh other.path := fun other hother =>
        htargets other (List.mem_cons_of_mem _ hother)
      refine Triple.bind (Triple.orCleanUp (inspectDirectoryTarget_rule fun _ _ hd => hd) fun error =>
        rollbackCreatedDirectories_fails hchanges hfresh error) ?_
      rintro (_ | _)
      · refine .fact fun habsent => ?_
        obtain ⟨hfree, hparent⟩ := habsent rfl
        rw [if_neg Bool.false_ne_true]
        refine Triple.bind (Triple.orCleanUp (createDirectory_rule (E := fun _ => Looks m' store) hroot'
          hfree hparent fun _ hd => hd) fun error =>
          rollbackCreatedDirectories_fails hchanges hfresh error) fun _ => .exists fun m'' =>
          .fact fun hcreates => ?_
        have hfresh' : ∀ other ∈ created ++ [target], fresh other.path := by
          intro other hother
          rcases List.mem_append.mp hother with hother | hother
          · exact hfresh other hother
          · exact List.mem_singleton.mp hother ▸ htargets target List.mem_cons_self
        have hdirectory : IsDirectoryIn m'' target.path := by
          obtain ⟨-, -, -, id, rfl⟩ := hcreates
          exact ⟨id, Function.update_self _ _ _⟩
        refine Triple.bind (Triple.orCleanUp (inspectCreatedDirectory_rule (E := fun _ => Looks m'' store)
          hdirectory fun _ hd => hd) fun error =>
            rollbackCreatedDirectories_fails (hchanges.concat hcreates) hfresh' error) fun _ => ?_
        refine (ih (created ++ [target]) existing (hchanges.concat hcreates) hfresh' hrest).mono
          (fun _ h => h) (fun outcome d hd => ?_) fun _ _ h => h
        obtain ⟨new, hcreated, hsub, m₂, hchanges₂, hd⟩ := hd
        refine ⟨target :: new, by rw [hcreated, List.append_assoc, List.singleton_append],
          hsub.cons_cons target, m₂, ?_, hd⟩
        rwa [List.append_assoc, List.singleton_append] at hchanges₂
      · refine .fact fun _ => ?_
        rw [if_pos rfl]
        refine (ih created (existing + 1) hchanges hfresh hrest).mono (fun _ h => h)
          (fun outcome d hd => ?_) fun _ _ h => h
        obtain ⟨new, hcreated, hsub, hleft⟩ := hd
        exact ⟨new, hcreated, hsub.cons target, hleft⟩

end ExecutorWorld

end Batch

/-! ## The executor -/

/-- The check of the plan after the creation of directories. -/
def DirectoriesStand (remoteItems : List RemoteItem) (entries : List LocalTreeEntry)
    (expected : ℕ) : Prop :=
  ∃ plan, planReceiveOnlyMaterialization remoteItems entries = .ok plan ∧
    plan.readyForDirectoryPhase = true ∧ plan.missingDirectories = 0 ∧
    plan.matchingDirectories = plan.remoteDirectories ∧ expected = plan.remoteDirectories

/-- Where a batch of missing directories puts something. -/
def MissingDirectoryPlaces (mode : SyncMode) (m : LocalNodes) (store : RootStore) (path : LocalPath) :
    Prop :=
  ∃ read targets, ReadsAs mode m store read ∧
    planReceiveOnlyMissingDirectoryTargets read.remoteItems read.localEntries = .ok targets ∧
    ∃ target ∈ targets, path = target.path

/-- A failed executor of missing directories left tree and receipts as they were, or directories at some
    of its places. -/
abbrev MissingDirectoriesFail (world : ExecutorWorld) (m : LocalNodes) (store : RootStore) :
    LocalExecutorError → LocalRoot → Prop :=
  Fails (fun d => Looks m store d ∨ Looks m store.invalidateLocalObservationBaseline.1 d)
    (· = .localDirectoryRollbackFailed)
    (LeftBehind (MissingDirectoryPlaces world.mode m store) m store.invalidateLocalObservationBaseline.1)

/-- What the executor of missing directories has done: the targets stand and have their receipts. -/
structure MissingDirectoriesDone (m : LocalNodes) (store : RootStore) (read : RootInputs)
    (targets : List ReceiveOnlyDirectoryTarget) (m' : LocalNodes) (store' : RootStore) : Prop where
  changes : Changes Creates m targets m'
  stands : ∃ entries expected, Scanned m' entries ∧ DirectoriesStand read.remoteItems entries expected
  recordable : RecordableDirectories (targets.map ReceiveOnlyDirectoryTarget.row)
  items : ∀ target ∈ targets, store.catalog.HasFolderItem target.row
  recorded : store' = { store.invalidateLocalObservationBaseline.1 with
    catalog := store.catalog.withDirectories (targets.map ReceiveOnlyDirectoryTarget.row) }

namespace ExecutorWorld

variable {world : ExecutorWorld} {m : LocalNodes} {store : RootStore}

theorem recordCreatedDirectories_rule {remoteItems : List RemoteItem}
    {preflight : ReceiveOnlyMaterializationPlan} {targets : List ReceiveOnlyDirectoryTarget}
    {outcome : DirectoryApplyOutcome} {m' : LocalNodes} {E : LocalExecutorError → LocalRoot → Prop}
    (hE : ∀ error d, Looks m' store d → E error d) :
    LocalTriple (Looks m' store) (world.recordCreatedDirectories remoteItems preflight targets outcome)
      (fun result d => outcome.createdTargets.length = targets.length ∧
        (∃ entries, Scanned m' entries ∧ DirectoriesStand remoteItems entries
          (preflight.matchingDirectories + outcome.createdTargets.length)) ∧
        result.createdDirectories = outcome.createdTargets.length ∧
        ∃ store' recorded, store.recordDirectoryMaterializations
          (outcome.createdTargets.map ReceiveOnlyDirectoryTarget.row) = .ok (store', recorded) ∧
          Looks m' store' d) E := by
  refine .check_bind (fun hcounts => ?_) fun _ => hE _
  simp only [Bool.or_eq_false_iff, bne_eq_false_iff_eq] at hcounts
  refine Triple.bind (scanSelectedRootLocalTree_rule hE) fun entries => .fact fun hscanned => ?_
  refine ofSelectedRoot_bind (fun plan hplan => ?_) fun _ _ => hE _
  rw [fromMaterializationPlan_eq_ok] at hplan
  refine .check_bind (fun hpassed => ?_) fun _ => hE _
  have hstands : DirectoriesStand remoteItems entries
      (preflight.matchingDirectories + outcome.createdTargets.length) := by
    refine ⟨plan, hplan, ?_⟩
    simpa [and_assoc] using hpassed
  refine currentUnixTimeMs_bind (hE _) ?_
  refine transact_bind (S := fun recorded d => ∃ store', store.recordDirectoryMaterializations
      (outcome.createdTargets.map ReceiveOnlyDirectoryTarget.row) = .ok (store', recorded) ∧
        Looks m' store' d)
    (fun d store' recorded hd hrecord => ⟨store', by rw [← hd.store, hrecord], hd.nodes, rfl⟩)
    (hE _) (fun d error hd _ => hE _ d hd) fun recorded => .exists fun store' => .fact fun hrecord => ?_
  refine .check_bind (fun _ => .pure fun d hd => ?_) fun hrefused => ?_
  · exact ⟨hcounts.2, ⟨entries, hscanned, hstands⟩, rfl, store', recorded, hrecord, hd⟩
  · rw [(RootStore.recordDirectoryMaterializations_eq_ok hrecord).1] at hrefused
    simp at hrefused

/-- **The executor of missing directories**: it does what was planned, or leaves everything as it was, or,
    when the roll-back fails, directories where nothing was. -/
theorem materializeDirectories_rule :
    LocalTriple (Looks m store) world.materializeDirectories
      (fun result d => ∃ read targets m' store', ReadsAs world.mode m store read ∧
        planReceiveOnlyMissingDirectoryTargets read.remoteItems read.localEntries = .ok targets ∧
        MissingDirectoriesDone m store read targets m' store' ∧
        result.createdDirectories = targets.length ∧ Looks m' store' d)
      (MissingDirectoriesFail world m store) := by
  refine of_files fun files hfiles => ?_
  have hbefore : ∀ error d, Looks m store d → MissingDirectoriesFail world m store error d :=
    fun _ _ hd => .of_clean (.inl hd)
  refine Triple.bind (admittedInputs_rule hbefore) fun read => .fact fun hread => .fact fun _ => ?_
  refine ofSelectedRoot_bind (fun preflight hpreflight => ?_) fun _ _ => hbefore _
  refine ofSelectedRoot_bind (fun targets htargets => ?_) fun _ _ => hbefore _
  rw [fromMaterializationPlan_eq_ok] at hpreflight htargets
  refine Triple.bind (validatedSelectedRootPath_rule (hbefore _)) fun _ => ?_
  refine Triple.bind (invalidateBaseline_rule (hbefore _)) fun _ => ?_
  set store₁ := store.invalidateLocalObservationBaseline.1 with hstore₁
  have hplaces : ∀ target ∈ targets, MissingDirectoryPlaces world.mode m store target.path :=
    fun target htarget => ⟨read, targets, hread, htargets, target, htarget, rfl⟩
  have hfails : ∀ error d,
      DirectoryBatchFails (MissingDirectoryPlaces world.mode m store) m store₁ error d →
        MissingDirectoriesFail world m store error d := fun error d hd =>
    hd.mono .inr (fun h => h) fun h => h
  refine Triple.bind ((applyDirectoryTargets_rule (isDirectoryIn_root hfiles) targets [] 0 .nil (by simp)
    hplaces).mono (fun _ h => h) (fun _ _ h => h) hfails) ?_
  rintro ⟨created, existing⟩
  refine .exists fun new => .fact fun hcreated => .fact fun hsub => .exists fun m' =>
    .fact fun hchanges => ?_
  rw [List.nil_append] at hcreated hchanges
  obtain rfl : created = new := hcreated
  have hfresh : ∀ target ∈ created, MissingDirectoryPlaces world.mode m store target.path :=
    fun target htarget => hplaces target (hsub.subset htarget)
  refine .of_bind_pure (Triple.bind ((Triple.orCleanUp (recordCreatedDirectories_rule fun _ _ hd => hd)
    fun error => rollbackCreatedDirectories_fails hchanges hfresh error).mono (fun _ h => h)
      (fun _ _ h => h) hfails) fun result => ?_)
  refine .fact fun hlength => .fact fun hstands => .fact fun hresult => .exists fun store' =>
    .exists fun recorded => .fact fun hrecord => .pure fun d hd => ?_
  obtain rfl : created = targets := hsub.eq_of_length hlength
  obtain ⟨rfl, rfl, hrecordable, hitems⟩ := RootStore.recordDirectoryMaterializations_eq_ok hrecord
  rw [hstore₁, RootStore.catalog_invalidateBaseline] at hitems hd
  obtain ⟨entries, hscanned, hstands⟩ := hstands
  refine ⟨read, created, m', _, hread, htargets, ⟨hchanges, ⟨entries, _, hscanned, hstands⟩,
    hrecordable, fun target htarget => hitems _ (List.mem_map_of_mem htarget), rfl⟩, hresult, hd⟩

/-- **A batch of missing directories is all or nothing**, whichever calls fail: every planned directory is
    created and recorded, or no receipt has changed and nothing is lost; only when the roll-back fails may
    some of the planned directories stay. -/
theorem materializeDirectories_atomic (world : ExecutorWorld) (m : LocalNodes) (store : RootStore) :
    LocalTriple (Looks m store) world.materializeDirectories
      (fun result d => ∃ read targets m' store', ReadsAs world.mode m store read ∧
        planReceiveOnlyMissingDirectoryTargets read.remoteItems read.localEntries = .ok targets ∧
        MissingDirectoriesDone m store read targets m' store' ∧
        result.createdDirectories = targets.length ∧ Looks m' store' d)
      (GivesUp (· = .localDirectoryRollbackFailed) (MissingDirectoryPlaces world.mode m store) m store) := by
  exact materializeDirectories_rule.mono (fun _ h => h) (fun _ _ h => h) fun _ _ h => givesUp_of_fails h

/-! The catalog has a folder in a folder, and below the local root there is nothing. -/

def twoFoldersStore : RootStore :=
  { RootStore.new .receiveOnly with
    catalog := ⟨.ofRows [⟨['3'], some ['0'], ['a'], .folder, none, false⟩,
      ⟨['4'], some ['3'], ['b'], .folder, none, false⟩], ∅, ∅, 2⟩
    remoteState := some ⟨true, true, some (.ofChar '0'), some (.ofChar '1')⟩ }

/-- Without a failure both directories come to stand and are recorded; when the creation of the second
    fails, the first is gone again. -/
theorem materializeDirectories_atomic_two_folders :
    (∃ result after, emptyFileWorld.materializeDirectories (startOn .bare twoFoldersStore) =
        .ok result after ∧ result.createdDirectories = 2 ∧
        ∃ read targets m', MissingDirectoriesDone FileTree.bare.node? twoFoldersStore read targets m'
          after.disk.store ∧ targets.length = 2)
      ∧ ∃ after, (failingWorld (· == 17)).materializeDirectories (startOn .bare twoFoldersStore) =
        .error .localDirectoryCreateFailed after ∧
        after.disk.store.catalog = twoFoldersStore.catalog ∧
        after.disk.files.node? = FileTree.bare.node? := by
  have hlooks : Looks FileTree.bare.node? twoFoldersStore (startOn .bare twoFoldersStore).disk :=
    ⟨rfl, rfl⟩
  constructor
  · have hrun : ∃ result after, emptyFileWorld.materializeDirectories (startOn .bare twoFoldersStore) =
        .ok result after ∧ result.createdDirectories = 2 := by decide +kernel
    obtain ⟨result, after, hresult, hcreated⟩ := hrun
    obtain ⟨read, targets, m', store', -, -, hdone, hlength, hleft⟩ :=
      (materializeDirectories_atomic _ _ _).of_ok hlooks hresult
    rw [← hleft.store] at hdone
    exact ⟨result, after, hresult, hcreated, read, targets, m', hdone, hlength.symm.trans hcreated⟩
  · have hrun : ∃ error after, (failingWorld (· == 17)).materializeDirectories
        (startOn .bare twoFoldersStore) = .error error after ∧
          error = .localDirectoryCreateFailed := by decide +kernel
    obtain ⟨_, after, hresult, rfl⟩ := hrun
    obtain ⟨hcatalog, -, hleak | hnodes⟩ :=
      (materializeDirectories_atomic _ _ _).of_error hlooks hresult
    · cases hleak
    · exact ⟨after, hresult, hcatalog, hnodes⟩

end ExecutorWorld

end NubiSync
