import NubiSync.Daemon.ExecutorInputs
import NubiSync.Storage.ReceiptEffects

set_option autoImplicit false

/-! # Materializing missing files

A missing file is downloaded to a scratch file beside its place, synced, and linked to its name, which
fails if the name is taken; then the scratch name goes. A batch checks each file against the fingerprints
that the provider gives before and after its download, and undoes the whole batch when one fails. Only
when all of them stand are their receipts recorded, in one transaction. -/

namespace NubiSync

open Checks Methods FileTrees

structure FileApplyOutcome where
  targetPath : LocalPath
  bytesDownloaded : ℕ
  sha256Hex : Text

namespace ExecutorWorld

variable (world : ExecutorWorld)

/-- `apply_selected_root_file_target`, from the downloaded scratch file on. -/
def promoteTempFile (tempPath targetPath : LocalPath) (bytes : ℕ) : LocalMethod Unit := do
  onError (world.call fun _ files => files.link tempPath targetPath) fun error => do
    world.cleanupTempFile tempPath
    throw (if error = .alreadyExists then .localFileTargetConflict else .localFilePromoteFailed)
  onError (world.call fun _ files => files.removeFile tempPath) fun _ => do
    world.rollbackCreatedFile targetPath
    world.cleanupTempFile tempPath
    throw .localFileTempCleanupFailed
  -- when the directory cannot be opened, or the file not be looked at, the file stays
  let _ ← orThrow (world.look (·.openPath targetPath.dropLast)) .localFileSyncFailed
  onError (world.look fun _ => .ok ()) fun _ => do
    world.rollbackCreatedFile targetPath
    throw .localFileSyncFailed
  let node ← orThrow (world.look (·.metadata targetPath)) .localFilePostconditionFailed
  refuseAfter (!isFileOfLength bytes node) (world.rollbackCreatedFile targetPath)
    .localFilePostconditionFailed

def applySelectedRootFileTarget (target : ReceiveOnlyFileTarget) (maxBytes : ℕ) :
    LocalMethod FileApplyOutcome := do
  let expectedSize ← ofExcept (orRefuse target.sizeBytes (.selectedRoot .localFileSizeUnknown))
  ofExcept (refuseIf (decide (expectedSize > maxBytes)) (.selectedRoot .localFileTooLarge))
  let targetPath := localPath target.relativePath
  world.requireAbsent targetPath .localFileTargetConflict
  let parent := targetPath.dropLast
  world.requireParentDirectory parent .localFileParentInvalid
  let (tempPath, tempFile) ← world.createDownloadTemp parent
  let (bytes, sha256Hex) ←
    orCleanUp (world.downloadToTemp tempFile target.remoteId maxBytes expectedSize)
      (world.cleanupTempFile tempPath)
  world.promoteTempFile tempPath targetPath bytes
  pure ⟨targetPath, bytes, sha256Hex⟩

end ExecutorWorld

/-! ## The batch -/

/-- A file of the batch that stands at its place. -/
structure MaterializedFile where
  target : ReceiveOnlyFileTarget
  targetPath : LocalPath
  bytes : ℕ
  sha256Hex : Text

/-- The receipt of a file of the batch. -/
def MaterializedFile.row (file : MaterializedFile) : FileMaterialization :=
  ⟨file.target.remoteId, file.target.relativePath, file.bytes, file.sha256Hex⟩

structure SelectedRootFileBatchMaterialization where
  plannedFileActions : ℕ
  batchActionLimit : ℕ
  filesDownloaded : ℕ
  bytesDownloaded : ℕ
  maxFileBytes : ℕ
  providerFingerprintsVerified : ℕ
  receiptsRecorded : ℕ
  deriving DecidableEq, Repr

namespace ExecutorWorld

variable (world : ExecutorWorld)

def rollbackFileBatch (completed : List MaterializedFile) : LocalMethod Unit :=
  undoAll (fun file => world.rollbackCreatedFile file.targetPath) completed

/-- One round of the loop of `materialize_selected_root_missing_files`, after the files that are
    completed. -/
def materializeTarget (completed : List MaterializedFile) (totalBytes : ℕ)
    (target : ReceiveOnlyFileTarget) : LocalMethod (MaterializedFile × ℕ) := do
  -- without a size the batch stays as it is
  let expectedSize ← ofExcept (orRefuse target.sizeBytes (.selectedRoot .localFileSizeUnknown))
  refuseAfter (decide (expectedSize > supervisedFileDownloadMaxBytes))
    (world.rollbackFileBatch completed) (.selectedRoot .localFileTooLarge)
  let fingerprintBefore ← orCleanUp (world.fingerprint target.remoteId)
    (world.rollbackFileBatch completed)
  refuseAfter (fingerprintBefore.sizeBytes != expectedSize) (world.rollbackFileBatch completed)
    .remoteReplacementProviderFingerprintMismatch
  let outcome ← orCleanUp (world.applySelectedRootFileTarget target supervisedFileDownloadMaxBytes)
    (world.rollbackFileBatch completed)
  let rollback : LocalMethod Unit := do
    world.rollbackCreatedFile outcome.targetPath
    world.rollbackFileBatch completed
  let fingerprintAfter ← orCleanUp (world.fingerprint target.remoteId) rollback
  refuseAfter (fingerprintBefore != fingerprintAfter
    || outcome.bytesDownloaded != fingerprintAfter.sizeBytes
    || outcome.sha256Hex != fingerprintAfter.sha256Hex) rollback
    .remoteReplacementProviderFingerprintMismatch
  let (promotedBytes, promotedSha256) ←
    orCleanUp (world.hashLocalFile outcome.targetPath supervisedFileDownloadMaxBytes) rollback
  refuseAfter (promotedBytes != outcome.bytesDownloaded || promotedSha256 != outcome.sha256Hex
    || promotedSha256 != fingerprintAfter.sha256Hex) rollback .localFilePostconditionFailed
  let totalBytes ← orCleanUp (ofExcept (orRefuse (checkedAddU64 totalBytes outcome.bytesDownloaded)
    (.selectedRoot .countOverflow))) rollback
  pure (⟨target, outcome.targetPath, outcome.bytesDownloaded, outcome.sha256Hex⟩, totalBytes)

/-- The loop of `materialize_selected_root_missing_files`. -/
def materializeTargets : List ReceiveOnlyFileTarget → List MaterializedFile → ℕ →
    LocalMethod (List MaterializedFile × ℕ)
  | [], completed, totalBytes => pure (completed, totalBytes)
  | target :: rest, completed, totalBytes => do
      let (file, totalBytes) ← world.materializeTarget completed totalBytes target
      materializeTargets rest (completed ++ [file]) totalBytes

/-- The scan after the loop, and the plan on it. -/
def checkMaterializedFiles (remoteItems : List RemoteItem) (completed : List MaterializedFile) :
    LocalMethod Unit := do
  let postEntries ← orCleanUp world.scanSelectedRootLocalTree (world.rollbackFileBatch completed)
  let postPlan ← orCleanUp (ofSelectedRoot (fromMaterializationPlan
    (planReceiveOnlyMaterialization remoteItems postEntries))) (world.rollbackFileBatch completed)
  refuseAfter (!postPlan.readyForDirectoryPhase || postPlan.missingDirectories != 0
    || postPlan.missingFiles != 0 || postPlan.matchingDirectories != postPlan.remoteDirectories
    || postPlan.existingFilesUnverified != postPlan.remoteFiles) (world.rollbackFileBatch completed)
    .localFilePostconditionFailed

/-- The end of `materialize_selected_root_missing_files`: the number of recorded receipts. -/
def recordMaterializedFiles (completed : List MaterializedFile) : LocalMethod ℕ := do
  -- when the clock is behind the epoch, the files stay
  world.currentUnixTimeMs
  let rows := completed.map MaterializedFile.row
  let recorded ← orCleanUp (world.transact (·.recordFileMaterializations rows))
    (world.rollbackFileBatch completed)
  refuseAfter (recorded != rows.length) (world.rollbackFileBatch completed)
    .localFileReceiptPostconditionFailed
  pure recorded

/-- `materialize_selected_root_missing_files`. -/
def materializeMissingFiles : LocalMethod SelectedRootFileBatchMaterialization := do
  let inputs ← world.admittedInputs admitMissingFiles
  let targets ← ofSelectedRoot (fromMaterializationPlan
    (planReceiveOnlyMissingFileTargets inputs.remoteItems inputs.localEntries))
  if targets.isEmpty then
    pure ⟨0, supervisedFileBatchMaxActions, 0, 0, supervisedFileDownloadMaxBytes, 0, 0⟩
  else do
    world.validatedSelectedRootPath
    world.invalidateBaseline
    let (completed, totalBytes) ← world.materializeTargets targets [] 0
    world.checkMaterializedFiles inputs.remoteItems completed
    let recorded ← world.recordMaterializedFiles completed
    pure ⟨targets.length, supervisedFileBatchMaxActions, completed.length, totalBytes,
      supervisedFileDownloadMaxBytes, completed.length, recorded⟩

end ExecutorWorld

/-! ## What a failure may leave -/

/-- The errors after which the download of a file may leave something behind. -/
def leaksFile : LocalExecutorError → Bool
  | .localFileSyncFailed | .localFilePostconditionFailed | .localFileRollbackFailed
  | .localFileTempCleanupFailed => true
  | _ => false

/-- A failed download left everything as it was, or something at the target or a scratch name. -/
abbrev FileFails (m : LocalNodes) (store : RootStore) (targetPath : LocalPath) :
    LocalExecutorError → LocalRoot → Prop :=
  Fails (Looks m store) (leaksFile · = true)
    (LeftBehind (fun path => path = targetPath ∨ IsScratch path) m store)

/-! ## Promoting -/

namespace ExecutorWorld

section Promote

variable {world : ExecutorWorld} {m : LocalNodes} {store : RootStore}
  {tempPath targetPath : LocalPath} {id : FileId} {data : FileData}

theorem cleanupTempFile_throws {error : LocalExecutorError} {Q : Unit → LocalRoot → Prop}
    (hfree : m tempPath = none) (hscratch : IsScratch tempPath) :
    LocalTriple (fun d => ∃ content, Holds m tempPath id content store d)
      (do world.cleanupTempFile tempPath; throw error) Q (FileFails m store targetPath) := by
  refine Triple.bind (cleanupTempFile_rule hfree fun d content hd => ?_) fun _ =>
    .throw fun d hd => .of_clean hd
  obtain ⟨modified, hd⟩ := hd
  exact .of_dirty rfl ⟨_, (GrownAt.refl _ m).update hfree (.inr hscratch) _, hd⟩

theorem rollbackCreatedFile_throws {error : LocalExecutorError} {Q : Unit → LocalRoot → Prop}
    (habsent : m targetPath = none) :
    LocalTriple (Looks (Function.update m targetPath (some (.file id data))) store)
      (do world.rollbackCreatedFile targetPath; throw error) Q (FileFails m store targetPath) := by
  have hundone := update_undone habsent (some (.file id data))
  refine Triple.bind (rollbackCreatedFile_rule (Function.update_self _ _ _) fun d hd => ?_) fun _ =>
    .throw fun d hd => .of_clean ?_
  · rw [hundone] at hd
    rcases hd with hd | hd
    · exact .of_dirty rfl ⟨_, (GrownAt.refl _ m).update habsent (.inl rfl) _, hd⟩
    · exact .of_clean hd
  · rwa [hundone] at hd

/-- **Promoting a download**: it is at its name alone, or at none, or something is left behind. -/
theorem promoteTempFile_rule (data : FileData) (hfree : m tempPath = none)
    (hscratch : IsScratch tempPath) (hproper : targetPath ≠ []) (habsent : m targetPath = none)
    (hparent : IsDirectoryIn m targetPath.dropLast) :
    LocalTriple (Looks (Function.update m tempPath (some (.file id data))) store)
      (world.promoteTempFile tempPath targetPath data.content.length)
      (fun _ => Looks (Function.update m targetPath (some (.file id data))) store)
      (FileFails m store targetPath) := by
  have hholds : ∀ d, Looks (Function.update m tempPath (some (.file id data))) store d →
      ∃ content, Holds m tempPath id content store d := fun d hd => ⟨data.content, data.modified, hd⟩
  have hcleanup : ∀ {error : LocalExecutorError} {Q : Unit → LocalRoot → Prop},
      LocalTriple (Looks (Function.update m tempPath (some (.file id data))) store)
        (do world.cleanupTempFile tempPath; throw error) Q (FileFails m store targetPath) :=
    (cleanupTempFile_throws hfree hscratch).mono hholds (fun _ _ h => h) fun _ _ h => h
  by_cases hne : tempPath = targetPath
  · -- the target has the scratch name, so the link finds it taken
    refine callOnError_refused (fun d now hd => ?_) fun error => hcleanup
    have htaken : d.files.node? targetPath = some (.file id data) := by
      rw [hd.nodes, ← hne, Function.update_self]
    refine ⟨.alreadyExists, ?_⟩
    rw [FileTree.link, FileTree.metadata_of_some (by rw [hne]; exact htaken)]
    simp only [FileTree.place_of_taken _ (htaken ▸ Option.some_ne_none _)]
    rfl
  have htemp : Function.update m tempPath (some (.file id data)) targetPath = none := by
    rw [Function.update_of_ne (Ne.symm hne), habsent]
  refine callOnError_bind (S := fun _ => Looks (Function.update (Function.update m tempPath
      (some (.file id data))) targetPath (some (.file id data))) store)
    (fun d now hd => ?_) hcleanup fun _ => ?_
  · have hsource : d.files.node? tempPath = some (.file id data) :=
      (hd.node? _).trans (Function.update_self _ _ _)
    obtain ⟨after, hlink, hafter⟩ := FileTree.link_of_free hsource hproper
      (hd.isDirectory (hparent.update hfree _)) ((hd.node? _).trans htemp)
    exact ⟨after, (), hlink, by rw [hafter, hd.nodes], hd.store⟩
  refine callOnError_bind (S := fun _ => Looks (Function.update m targetPath (some (.file id data))) store)
    (fun d now hd => ?_) ?_ fun _ => ?_
  · have hsource : d.files.node? tempPath = some (.file id data) := by
      rw [hd.nodes, Function.update_of_ne hne, Function.update_self]
    obtain ⟨after, hremove, hafter⟩ := FileTree.removeFile_of_file hsource
    refine ⟨after, (), hremove, ?_, hd.store⟩
    rw [hafter, hd.nodes]
    exact update_undone_first hfree hne _ _
  · -- both names are there: the target goes first, then the scratch name
    have hundone := update_undone htemp (some (.file id data))
    have hgrown := (GrownAt.refl (fun path => path = targetPath ∨ IsScratch path) m).update hfree
      (.inr hscratch) (some (.file id data))
    refine Triple.bind (rollbackCreatedFile_rule (Function.update_self _ _ _) fun d hd =>
      .of_dirty rfl ?_) fun _ => ?_
    · rcases hd with hd | hd
      · exact ⟨_, hgrown.update habsent (.inl rfl) _, hd⟩
      · rw [hundone] at hd
        exact ⟨_, hgrown, hd⟩
    · rw [hundone]
      exact hcleanup
  have hleft : ∀ error, leaksFile error = true → ∀ d,
      Looks (Function.update m targetPath (some (.file id data))) store d →
        FileFails m store targetPath error d := fun error hleaks d hd =>
    .of_dirty hleaks ⟨_, (GrownAt.refl _ m).update habsent (.inl rfl) _, hd⟩
  refine lookOrThrow_bind (A := fun _ => True) (fun _ _ _ _ => trivial) (hleft _ rfl) fun _ _ => ?_
  refine lookOnError_bind (fun d hd => rfl) (rollbackCreatedFile_throws habsent) ?_
  refine lookOrThrow_bind_of (A := fun node => node = .file id data) (fun d hd => ?_) (hleft _ rfl) ?_
  · exact ⟨_, hd.metadata.mpr (Function.update_self _ _ _), rfl⟩
  rintro _ rfl
  refine .of_bind_pure (.refuseAfter_bind (fun _ => .pure fun d hd => hd) fun hrefused => ?_)
  simp [isFileOfLength] at hrefused

end Promote

end ExecutorWorld

/-! ## One file -/

namespace ExecutorWorld

variable {world : ExecutorWorld} {m : LocalNodes} {store : RootStore}

/-- **One file**: it stands where nothing was, with bytes of the size that was asked for, or everything is
    as before, or something is left at the target or a scratch name. -/
theorem applySelectedRootFileTarget_rule {target : ReceiveOnlyFileTarget} {maxBytes : ℕ}
    (hroot : IsDirectoryIn m []) :
    LocalTriple (Looks m store) (world.applySelectedRootFileTarget target maxBytes)
      (fun outcome d => m (localPath target.relativePath) = none ∧
        IsDirectoryIn m (localPath target.relativePath).dropLast ∧
        ∃ bytes id, outcome = ⟨localPath target.relativePath, bytes.length, world.sha256.sha256Hex bytes⟩ ∧
          target.sizeBytes = some bytes.length ∧ bytes.length ≤ maxBytes ∧
          world.Gives maxBytes target.remoteId bytes ∧
          Holds m (localPath target.relativePath) id bytes store d)
      (FileFails m store (localPath target.relativePath)) := by
  refine .present_bind (fun expectedSize hsize => ?_) fun _ d hd => .of_clean hd
  refine .check_bind (fun hsmall => ?_) fun _ d hd => .of_clean hd
  have hsmall : expectedSize ≤ maxBytes := by simpa using hsmall
  refine Triple.bind (requireAbsent_rule (fun _ d hd => .of_clean hd) fun d hd => .of_clean hd)
    fun _ => .fact fun habsent => ?_
  have hproper : localPath target.relativePath ≠ [] := by
    intro hnil
    obtain ⟨id, hid⟩ := hroot
    rw [hnil, hid] at habsent
    cases habsent
  refine Triple.bind (requireParentDirectory_rule fun d hd => .of_clean hd) fun _ =>
    .fact fun hparent => ?_
  refine Triple.bind (createDownloadTemp_rule hparent fun d hd => .of_clean hd) ?_
  rintro ⟨tempPath, tempFile⟩
  refine .fact ?_
  rintro ⟨n, rfl⟩
  refine .fact fun hfree => .fact fun hfresh => ?_
  have hscratch := isScratch_concat (localPath target.relativePath).dropLast .download world.processId n
  refine Triple.bind (Triple.orCleanUp (F := fun _ d => ∃ written, Holds m _ tempFile written store d)
    (downloadToTemp_rule hfresh fun _ d written hd => ⟨written, hd⟩) fun error => ?_) ?_
  · refine (cleanupTempFile_rule hfree fun d written hd => ?_).mono (fun _ h => h)
      (fun _ d hd => .of_clean hd) fun _ _ h => h
    obtain ⟨modified, hd⟩ := hd
    exact .of_dirty rfl ⟨_, (GrownAt.refl _ m).update hfree (.inr hscratch) _, hd⟩
  rintro ⟨size, sha256Hex⟩
  refine .exists fun bytes => .fact fun hwritten => .fact fun hlength => .fact fun hgives => ?_
  obtain ⟨rfl, rfl⟩ := Prod.mk.inj hwritten
  refine .exists fun modified => ?_
  refine Triple.bind (promoteTempFile_rule ⟨bytes, modified⟩ hfree hscratch hproper habsent hparent)
    fun _ => .pure fun d hd => ⟨habsent, hparent, bytes, tempFile, rfl, ?_, ?_, hgives, modified, hd⟩
  · rw [hsize, hlength]
  · rwa [hlength]

end ExecutorWorld

/-! ## The batch -/

/-- The bytes of a file of the batch. -/
structure MaterializedFile.Is (world : ExecutorWorld) (file : MaterializedFile) (bytes : List UInt8) :
    Prop where
  targetPath : file.targetPath = localPath file.target.relativePath
  size : file.bytes = bytes.length
  sha256Hex : file.sha256Hex = world.sha256.sha256Hex bytes
  expected : file.target.sizeBytes = some bytes.length
  small : bytes.length ≤ supervisedFileDownloadMaxBytes
  given : world.Gives supervisedFileDownloadMaxBytes file.target.remoteId bytes

/-- A file of the batch comes to stand where nothing was. -/
def Materializes (world : ExecutorWorld) (file : MaterializedFile) (m m' : LocalNodes) : Prop :=
  m file.targetPath = none ∧ IsDirectoryIn m file.targetPath.dropLast ∧
    ∃ bytes id modified, file.Is world bytes ∧
      m' = Function.update m file.targetPath (some (.file id ⟨bytes, modified⟩))

/-- The provider has given the fingerprint of a file of the batch. -/
def MaterializedFile.Vouched (world : ExecutorWorld) (file : MaterializedFile) : Prop :=
  ∃ call, world.contentFingerprint call file.target.remoteId = .ok ⟨file.bytes, file.sha256Hex⟩

/-- The errors after which a batch may leave something behind. -/
def leaksFileBatch (error : LocalExecutorError) : Bool :=
  leaksFile error || error == (.selectedRoot .localFileSizeUnknown) || error == .clockBeforeUnixEpoch

/-- A failed batch left everything as it was, or something at fresh paths. -/
abbrev FileBatchFails (fresh : LocalPath → Prop) (m : LocalNodes) (store : RootStore) :
    LocalExecutorError → LocalRoot → Prop :=
  Fails (Looks m store) (leaksFileBatch · = true) (LeftBehind fresh m store)

section Batch

variable {world : ExecutorWorld} {m : LocalNodes} {store : RootStore}
  {completed : List MaterializedFile} {fresh : LocalPath → Prop}

theorem Materializes.grown {file : MaterializedFile} {m m' : LocalNodes}
    (h : Materializes world file m m') (hfresh : fresh file.targetPath) : GrownAt fresh m m' := by
  obtain ⟨hfree, -, bytes, id, modified, -, rfl⟩ := h
  exact (GrownAt.refl fresh m).update hfree hfresh _

theorem materialized_grown {m' : LocalNodes} (h : Changes (Materializes world) m completed m')
    (hfresh : ∀ file ∈ completed, fresh file.targetPath) : GrownAt fresh m m' :=
  h.keeps (.refl fresh m) fun file hfile _ _ hgrown hchange =>
    hgrown.trans (hchange.grown (hfresh file hfile))

theorem targetPath_of_changes {m' : LocalNodes} (h : Changes (Materializes world) m completed m') :
    ∀ file ∈ completed, file.targetPath = localPath file.target.relativePath := by
  induction h with
  | nil => simp
  | concat _ hchange ih =>
      intro file hfile
      rcases List.mem_append.mp hfile with hfile | hfile
      · exact ih file hfile
      · obtain ⟨-, -, bytes, id, modified, his, -⟩ := hchange
        rw [List.mem_singleton.mp hfile, his.targetPath]

/-- The check of the plan after the loop. -/
def FilesStand (remoteItems : List RemoteItem) (entries : List LocalTreeEntry) : Prop :=
  ∃ plan, planReceiveOnlyMaterialization remoteItems entries = .ok plan ∧
    plan.readyForDirectoryPhase = true ∧ plan.missingDirectories = 0 ∧ plan.missingFiles = 0 ∧
    plan.matchingDirectories = plan.remoteDirectories ∧ plan.existingFilesUnverified = plan.remoteFiles

namespace ExecutorWorld

/-- **Rolling a batch back** takes away all of it, and leaves what else has come to stand. -/
theorem rollbackFileBatch_rule (store : RootStore) {dirt : LocalPath → Prop}
    (hdirt : ∀ path, dirt path → fresh path)
    (hfresh : ∀ file ∈ completed, fresh file.targetPath) :
    LocalTriple (fun d => ∃ m', Changes (Materializes world) m completed m' ∧ LeftBehind dirt m' store d)
      (world.rollbackFileBatch completed) (fun _ => LeftBehind dirt m store)
      (fun error d => error = .localFileRollbackFailed ∧ LeftBehind fresh m store d) := by
  refine Triple.undoChanges fun before file s t hcompleted hbefore hchange => ?_
  obtain ⟨after, rfl⟩ := hcompleted
  have hgrown := materialized_grown hbefore fun other hother => hfresh other (List.mem_append_left _ hother)
  have hgrown' := hgrown.trans (hchange.grown (hfresh file (by simp)))
  obtain ⟨hfree, -, bytes, id, modified, -, rfl⟩ := hchange
  refine .exists fun m' => .fact fun hleft => ?_
  have hundone := hleft.undone hfree
  refine (rollbackCreatedFile_rule (hleft.kept (Function.update_self _ _ _)) (E := fun error d =>
    error = .localFileRollbackFailed ∧ LeftBehind fresh m store d) fun d hd => ⟨rfl, ?_⟩).mono
    (fun _ h => h) (fun _ d hd => ⟨_, hundone, hd⟩) fun _ _ h => h
  rcases hd with hd | hd
  · exact ⟨_, hgrown'.trans (hleft.mono hdirt), hd⟩
  · exact ⟨_, hgrown.trans (hundone.mono hdirt), hd⟩

theorem rollbackFileBatch_fails {m' : LocalNodes} (hchanges : Changes (Materializes world) m completed m')
    (hfresh : ∀ file ∈ completed, fresh file.targetPath) (error : LocalExecutorError) :
    LocalTriple (Looks m' store) (world.rollbackFileBatch completed)
      (fun _ => FileBatchFails fresh m store error) (FileBatchFails fresh m store) := by
  refine (rollbackFileBatch_rule store (fun _ (h : False) => h.elim) hfresh).mono
    (fun d hd => ⟨m', hchanges, leftBehind_nowhere.mpr hd⟩)
    (fun _ d hd => .of_clean (leftBehind_nowhere.mp hd)) fun failed d hd => ?_
  obtain ⟨rfl, hd⟩ := hd
  exact .of_dirty rfl hd

/-- The same after a file that has failed itself, and may have left something. -/
theorem rollbackFileBatch_after_file {m' : LocalNodes} {targetPath : LocalPath}
    (hchanges : Changes (Materializes world) m completed m')
    (hfresh : ∀ file ∈ completed, fresh file.targetPath) (htarget : fresh targetPath)
    (hscratch : ∀ path, IsScratch path → fresh path) (error : LocalExecutorError) :
    LocalTriple (FileFails m' store targetPath error) (world.rollbackFileBatch completed)
      (fun _ => FileBatchFails fresh m store error) (FileBatchFails fresh m store) := by
  have hdirt : ∀ path, (path = targetPath ∨ IsScratch path) → fresh path := by
    rintro path (rfl | hpath)
    · exact htarget
    · exact hscratch path hpath
  cases hleaks : leaksFile error with
  | false =>
      refine (rollbackFileBatch_fails hchanges hfresh error).mono (fun d hd => ?_)
        (fun _ _ h => h) fun _ _ h => h
      exact hd.resolve_right fun hleaked => Bool.false_ne_true (hleaks.symm.trans hleaked.1)
  | true =>
      refine (rollbackFileBatch_rule store hdirt hfresh).mono (fun d hd => ⟨m', hchanges, ?_⟩)
        (fun _ d hd => .of_dirty (by simp [leaksFileBatch, hleaks]) ?_) fun failed d hd => ?_
      · rcases hd with hd | hd
        · exact ⟨m', .refl _ _, hd⟩
        · exact hd.2
      · obtain ⟨m'', hgrown, hd⟩ := hd
        exact ⟨m'', hgrown.mono hdirt, hd⟩
      · obtain ⟨rfl, hd⟩ := hd
        exact .of_dirty rfl hd

/-- The batch with the file that was materialized last. -/
theorem rollbackFileBatch_concat (file : MaterializedFile) :
    world.rollbackFileBatch (completed ++ [file]) = (do
      world.rollbackCreatedFile file.targetPath
      world.rollbackFileBatch completed) := by
  simp [rollbackFileBatch, undoAll]

/-- **One round**: the file stands with the bytes that the provider vouches for before and after, or the
    batch is rolled back. -/
theorem materializeTarget_rule {m' : LocalNodes} {totalBytes : ℕ} {target : ReceiveOnlyFileTarget}
    (hroot : IsDirectoryIn m []) (hchanges : Changes (Materializes world) m completed m')
    (hfresh : ∀ file ∈ completed, fresh file.targetPath)
    (htarget : fresh (localPath target.relativePath)) (hscratch : ∀ path, IsScratch path → fresh path) :
    LocalTriple (Looks m' store) (world.materializeTarget completed totalBytes target)
      (fun result d => result.1.target = target ∧ result.1.Vouched world ∧
        ∃ m'', Materializes world result.1 m' m'' ∧ Looks m'' store d)
      (FileBatchFails fresh m store) := by
  have hgrown := materialized_grown hchanges hfresh
  have hroot' : IsDirectoryIn m' [] := by
    obtain ⟨id, hid⟩ := hroot
    exact ⟨id, hgrown.kept hid⟩
  have hfails : ∀ error, LocalTriple (Looks m' store) (world.rollbackFileBatch completed)
      (fun _ => FileBatchFails fresh m store error) (FileBatchFails fresh m store) :=
    rollbackFileBatch_fails hchanges hfresh
  refine .present_bind (fun expectedSize hsize => ?_) fun _ d hd => .of_dirty rfl ⟨m', hgrown, hd⟩
  refine .refuseAfter_bind (fun _ => ?_) fun _ => hfails _
  -- before the download
  refine Triple.bind (Triple.orCleanUp fingerprint_rule fun error => .fact fun _ => hfails error)
    fun fingerprintBefore => .fact fun _ => ?_
  refine .refuseAfter_bind (fun _ => ?_) fun _ => hfails _
  refine Triple.bind (Triple.orCleanUp (applySelectedRootFileTarget_rule hroot') fun error =>
    rollbackFileBatch_after_file hchanges hfresh htarget hscratch error) fun outcome => ?_
  refine .fact fun habsent => .fact fun hparent => .exists fun bytes => .exists fun id => .fact ?_
  rintro rfl
  refine .fact fun hexpected => .fact fun hbytes => .fact fun hgives => .exists fun modified => ?_
  -- from here on the file belongs to the batch
  set file : MaterializedFile :=
    ⟨target, localPath target.relativePath, bytes.length, world.sha256.sha256Hex bytes⟩ with hfile
  have hmaterializes : Materializes world file m' (Function.update m' (localPath target.relativePath)
      (some (.file id ⟨bytes, modified⟩))) :=
    ⟨habsent, hparent, bytes, id, modified, ⟨rfl, rfl, rfl, hexpected, hbytes, hgives⟩, rfl⟩
  have hrollback : ∀ error, LocalTriple
      (Looks (Function.update m' (localPath target.relativePath) (some (.file id ⟨bytes, modified⟩))) store)
      (do world.rollbackCreatedFile file.targetPath; world.rollbackFileBatch completed)
      (fun _ => FileBatchFails fresh m store error) (FileBatchFails fresh m store) := by
    intro error
    rw [← rollbackFileBatch_concat]
    refine rollbackFileBatch_fails (hchanges.concat hmaterializes) (fun other hother => ?_) error
    rcases List.mem_append.mp hother with hother | hother
    · exact hfresh other hother
    · rw [List.mem_singleton.mp hother]
      exact htarget
  refine Triple.bind (Triple.orCleanUp fingerprint_rule fun error => .fact fun _ => hrollback error)
    fun fingerprintAfter => .fact fun hafter => ?_
  refine .refuseAfter_bind (fun hmatches => ?_) fun _ => hrollback _
  simp only [Bool.or_eq_false_iff, bne_eq_false_iff_eq] at hmatches
  obtain ⟨⟨-, hlength⟩, hdigest⟩ := hmatches
  refine Triple.bind (Triple.orCleanUp (hashLocalFile_rule (E := fun _ => Looks _ store)
    (fun d hd => ⟨id, modified, (hd.node? _).trans (Function.update_self _ _ _)⟩) (by decide)
    fun _ hd => hd) hrollback) fun hashed => .fact fun _ => .fact fun _ => ?_
  refine .refuseAfter_bind (fun _ => ?_) fun _ => hrollback _
  refine Triple.bind (Triple.orCleanUp (F := fun _ => Looks _ store) (Q := fun _ => Looks _ store)
    (.of_bind_pure (.present_bind (fun _ _ => .pure fun _ hd => hd) fun _ _ hd => hd)) hrollback)
      fun total => .pure fun d hd => ⟨rfl, ?_, _, hmaterializes, hd⟩
  obtain ⟨call, hanswer⟩ := hafter
  refine ⟨call, hanswer.trans ?_⟩
  rw [hfile, hlength, hdigest]

/-- **The loop**, by recursion on the targets that are left: all of them stand, or the batch is rolled
    back. -/
theorem materializeTargets_rule (hroot : IsDirectoryIn m [])
    (hscratch : ∀ path, IsScratch path → fresh path) (targets : List ReceiveOnlyFileTarget)
    (completed : List MaterializedFile) (totalBytes : ℕ) {m' : LocalNodes}
    (hchanges : Changes (Materializes world) m completed m')
    (hfresh : ∀ file ∈ completed, fresh file.targetPath)
    (htargets : ∀ target ∈ targets, fresh (localPath target.relativePath)) :
    LocalTriple (Looks m' store) (world.materializeTargets targets completed totalBytes)
      (fun result d => ∃ files, result.1 = completed ++ files ∧ files.map (·.target) = targets ∧
        (∀ file ∈ files, file.Vouched world) ∧
        ∃ m'', Changes (Materializes world) m (completed ++ files) m'' ∧ Looks m'' store d)
      (FileBatchFails fresh m store) := by
  induction targets generalizing completed totalBytes m' with
  | nil => exact .pure fun d hd => ⟨[], by simp, rfl, by simp, m', by simpa using hchanges, hd⟩
  | cons target rest ih =>
      refine Triple.bind (materializeTarget_rule hroot hchanges hfresh
        (htargets target List.mem_cons_self) hscratch) ?_
      rintro ⟨file, total⟩
      refine .fact fun htarget => .fact fun hvouched => .exists fun m'' => .fact fun hmaterializes => ?_
      refine (ih (completed ++ [file]) total (hchanges.concat hmaterializes) (fun other hother => ?_)
        fun other hother => htargets other (List.mem_cons_of_mem _ hother)).mono (fun _ h => h)
          (fun result d hd => ?_) fun _ _ h => h
      · rcases List.mem_append.mp hother with hother | hother
        · exact hfresh other hother
        · obtain ⟨-, -, bytes, id, modified, his, -⟩ := hmaterializes
          rw [List.mem_singleton.mp hother, his.targetPath, htarget]
          exact htargets target List.mem_cons_self
      · obtain ⟨files, hresult, hmap, hall, m₂, hchanges₂, hd⟩ := hd
        refine ⟨file :: files, ?_, by rw [List.map_cons, hmap]; exact congrArg (· :: rest) htarget, ?_, m₂,
          by simpa using hchanges₂, hd⟩
        · rw [hresult, List.append_assoc, List.singleton_append]
        · intro other hother
          rcases List.mem_cons.mp hother with rfl | hother
          · exact hvouched
          · exact hall other hother

theorem checkMaterializedFiles_rule {remoteItems : List RemoteItem} {m' : LocalNodes}
    (hchanges : Changes (Materializes world) m completed m')
    (hfresh : ∀ file ∈ completed, fresh file.targetPath) :
    LocalTriple (Looks m' store) (world.checkMaterializedFiles remoteItems completed)
      (fun _ d => (∃ entries, Scanned m' entries ∧ FilesStand remoteItems entries) ∧ Looks m' store d)
      (FileBatchFails fresh m store) := by
  have hfails : ∀ error, LocalTriple (Looks m' store) (world.rollbackFileBatch completed)
      (fun _ => FileBatchFails fresh m store error) (FileBatchFails fresh m store) :=
    rollbackFileBatch_fails hchanges hfresh
  refine Triple.bind (Triple.orCleanUp (scanSelectedRootLocalTree_rule fun _ _ hd => hd) hfails)
    fun entries => .fact fun hscanned => ?_
  refine Triple.bind (Triple.orCleanUp
    (Q := fun plan d => planReceiveOnlyMaterialization remoteItems entries = .ok plan ∧ Looks m' store d)
    (F := fun _ => Looks m' store) (.of_bind_pure (ofSelectedRoot_bind
      (fun plan hplan => .pure fun d hd => ⟨fromMaterializationPlan_eq_ok.mp hplan, hd⟩) fun _ _ _ hd => hd))
      hfails) fun plan => .fact fun hplan => ?_
  refine .of_bind_pure (.refuseAfter_bind (fun hpassed => .pure fun d hd => ⟨⟨entries, hscanned, plan, hplan,
    ?_⟩, hd⟩) fun _ => hfails _)
  simpa [and_assoc] using hpassed

theorem recordMaterializedFiles_rule {m' : LocalNodes}
    (hchanges : Changes (Materializes world) m completed m')
    (hfresh : ∀ file ∈ completed, fresh file.targetPath) :
    LocalTriple (Looks m' store) (world.recordMaterializedFiles completed)
      (fun recorded d => ∃ store', store.recordFileMaterializations (completed.map MaterializedFile.row) =
        .ok (store', recorded) ∧ Looks m' store' d)
      (FileBatchFails fresh m store) := by
  refine currentUnixTimeMs_bind (fun d hd => .of_dirty rfl
    ⟨m', materialized_grown hchanges hfresh, hd⟩) ?_
  refine Triple.bind (Triple.orCleanUp (F := fun _ => Looks m' store)
    (.of_bind_pure (transact_bind (S := fun recorded d => ∃ store', store.recordFileMaterializations
      (completed.map MaterializedFile.row) = .ok (store', recorded) ∧ Looks m' store' d)
      (fun d store' recorded hd hrecord => ⟨store', by rw [← hd.store, hrecord], hd.nodes, rfl⟩)
      (fun _ hd => hd) (fun _ _ hd _ => hd) fun _ => .pure fun _ h => h))
      (rollbackFileBatch_fails hchanges hfresh)) fun recorded =>
        .exists fun store' => .fact fun hrecord => ?_
  -- the number of recorded files is that of the rows
  refine .refuseAfter_bind (fun _ => .pure fun d hd => ⟨store', hrecord, hd⟩) fun hrefused => ?_
  rw [(RootStore.recordFileMaterializations_eq_ok hrecord).1] at hrefused
  simp at hrefused

end ExecutorWorld

end Batch

/-! ## The executor -/

/-- Where a batch of missing files puts something. -/
def MissingFilePlaces (mode : SyncMode) (m : LocalNodes) (store : RootStore) (path : LocalPath) : Prop :=
  IsScratch path ∨ ∃ read targets, ReadsAs mode m store read ∧
    planReceiveOnlyMissingFileTargets read.remoteItems read.localEntries = .ok targets ∧
    ∃ target ∈ targets, path = localPath target.relativePath

/-- A failed executor of missing files left tree and receipts as they were, or something at one of its
    places. -/
abbrev MissingFilesFail (world : ExecutorWorld) (m : LocalNodes) (store : RootStore) :
    LocalExecutorError → LocalRoot → Prop :=
  Fails (fun d => Looks m store d ∨ Looks m store.invalidateLocalObservationBaseline.1 d)
    (leaksFileBatch · = true)
    (LeftBehind (MissingFilePlaces world.mode m store) m store.invalidateLocalObservationBaseline.1)

/-- What the executor of missing files has done: the targets stand, the provider vouches for them, and
    they have their receipts. -/
structure MissingFilesDone (world : ExecutorWorld) (m : LocalNodes) (store : RootStore) (read : RootInputs)
    (targets : List ReceiveOnlyFileTarget) (completed : List MaterializedFile) (m' : LocalNodes)
    (store' : RootStore) : Prop where
  targets : completed.map (·.target) = targets
  vouched : ∀ file ∈ completed, file.Vouched world
  changes : Changes (Materializes world) m completed m'
  stands : ∃ entries, Scanned m' entries ∧ FilesStand read.remoteItems entries
  recordable : RecordableFiles (completed.map MaterializedFile.row)
  items : ∀ file ∈ completed, store.catalog.HasFileItem file.row
  recorded : store' = { store.invalidateLocalObservationBaseline.1 with
    catalog := store.catalog.withFiles (completed.map MaterializedFile.row) }

namespace ExecutorWorld

variable {world : ExecutorWorld} {m : LocalNodes} {store : RootStore}

/-- **The executor of missing files**: it does what was planned, or leaves everything as it was, or what it
    leaves behind stands where nothing was. -/
theorem materializeMissingFiles_rule :
    LocalTriple (Looks m store) world.materializeMissingFiles
      (fun result d => ∃ read targets, ReadsAs world.mode m store read ∧
        planReceiveOnlyMissingFileTargets read.remoteItems read.localEntries = .ok targets ∧
        result.receiptsRecorded = targets.length ∧
        (targets = [] ∧ Looks m store d ∨ ∃ completed m' store',
          MissingFilesDone world m store read targets completed m' store' ∧ Looks m' store' d))
      (MissingFilesFail world m store) := by
  refine of_files fun files hfiles => ?_
  have hbefore : ∀ error d, Looks m store d → MissingFilesFail world m store error d :=
    fun _ _ hd => .of_clean (.inl hd)
  refine Triple.bind (admittedInputs_rule hbefore) fun read => .fact fun hread => .fact fun _ => ?_
  refine ofSelectedRoot_bind (fun targets htargets => ?_) fun _ _ => hbefore _
  rw [fromMaterializationPlan_eq_ok] at htargets
  by_cases hempty : targets.isEmpty = true
  · rw [if_pos hempty]
    obtain rfl := List.isEmpty_iff.mp hempty
    exact .pure fun d hd => ⟨read, [], hread, htargets, rfl, .inl ⟨rfl, hd⟩⟩
  rw [if_neg hempty]
  refine Triple.bind (validatedSelectedRootPath_rule (hbefore _)) fun _ => ?_
  refine Triple.bind (invalidateBaseline_rule (hbefore _)) fun _ => ?_
  -- from here on the baseline is invalid
  set store₁ := store.invalidateLocalObservationBaseline.1 with hstore₁
  have hplaces : ∀ target ∈ targets, MissingFilePlaces world.mode m store (localPath target.relativePath) :=
    fun target htarget => .inr ⟨read, targets, hread, htargets, target, htarget, rfl⟩
  have hfails : ∀ error d, FileBatchFails (MissingFilePlaces world.mode m store) m store₁ error d →
      MissingFilesFail world m store error d := fun error d hd => hd.mono .inr (fun h => h) fun h => h
  refine Triple.bind ((materializeTargets_rule (isDirectoryIn_root hfiles) (fun _ h => .inl h) targets [] 0
    .nil (by simp) hplaces).mono (fun _ h => h) (fun _ _ h => h) hfails) ?_
  rintro ⟨completed, totalBytes⟩
  refine .exists fun files => .fact fun hresult => .fact fun hmap => .fact fun hvouched =>
    .exists fun m' => .fact fun hchanges => ?_
  rw [List.nil_append] at hresult hchanges
  obtain rfl : completed = files := hresult
  have hfresh : ∀ file ∈ completed, MissingFilePlaces world.mode m store file.targetPath := by
    intro file hfile
    have hpath := targetPath_of_changes hchanges file hfile
    rw [hpath]
    exact hplaces _ (hmap ▸ List.mem_map_of_mem hfile)
  refine Triple.bind ((checkMaterializedFiles_rule hchanges hfresh).mono (fun _ h => h) (fun _ _ h => h)
    hfails) fun _ => .fact fun hstands => ?_
  refine Triple.bind ((recordMaterializedFiles_rule hchanges hfresh).mono (fun _ h => h)
    (fun _ _ h => h) hfails) fun recorded => .exists fun store' => .fact fun hrecord =>
      .pure fun d hd => ?_
  obtain ⟨rfl, rfl, hrecordable, hitems⟩ := RootStore.recordFileMaterializations_eq_ok hrecord
  rw [hstore₁, RootStore.catalog_invalidateBaseline] at hitems hd
  have hdone : MissingFilesDone world m store read targets completed m' _ := ⟨hmap, hvouched, hchanges,
    hstands, hrecordable, fun file hfile => hitems _ (List.mem_map_of_mem hfile), rfl⟩
  refine ⟨read, targets, hread, htargets, ?_, .inr ⟨completed, m', _, hdone, hd⟩⟩
  rw [← hmap, List.length_map, List.length_map]

/-- **A batch of missing files is all or nothing**, whichever calls fail and whatever the provider sends:
    every planned file stands where nothing was, vouched for and recorded, or no receipt has changed and
    nothing is lost; what it may have left is at places where nothing was, and only after the errors of
    `leaksFileBatch`. -/
theorem materializeMissingFiles_atomic (world : ExecutorWorld) (m : LocalNodes) (store : RootStore) :
    LocalTriple (Looks m store) world.materializeMissingFiles
      (fun result d => ∃ read targets, ReadsAs world.mode m store read ∧
        planReceiveOnlyMissingFileTargets read.remoteItems read.localEntries = .ok targets ∧
        result.receiptsRecorded = targets.length ∧
        (targets = [] ∧ Looks m store d ∨ ∃ completed m' store',
          MissingFilesDone world m store read targets completed m' store' ∧ Looks m' store' d))
      (GivesUp (leaksFileBatch · = true) (MissingFilePlaces world.mode m store) m store) := by
  exact materializeMissingFiles_rule.mono (fun _ h => h) (fun _ _ h => h) fun _ _ h => givesUp_of_fails h

/-! The catalog has an empty file, and below the local root there is nothing. -/

def missingFileStore : RootStore :=
  { RootStore.new .receiveOnly with
    catalog := ⟨.ofRows [⟨['3'], some ['0'], ['a'], .file, some 0, false⟩], ∅, ∅, 1⟩
    remoteState := some ⟨true, true, some (.ofChar '0'), some (.ofChar '1')⟩ }

/-- Without a failure the file comes to stand with its receipt; when the receipt cannot be recorded, the
    file is gone again. -/
theorem materializeMissingFiles_atomic_empty_file :
    (∃ result after, emptyFileWorld.materializeMissingFiles (startOn .bare missingFileStore) =
        .ok result after ∧ result.receiptsRecorded = 1 ∧
        ∃ read targets completed m', targets.length = 1 ∧ MissingFilesDone emptyFileWorld
          FileTree.bare.node? missingFileStore read targets completed m' after.disk.store)
      ∧ ∃ after, (failingWorld (· == 28)).materializeMissingFiles (startOn .bare missingFileStore) =
        .error (.selectedRoot (.storage .sqlite)) after ∧
        after.disk.store.catalog = missingFileStore.catalog ∧
        after.disk.files.node? = FileTree.bare.node? := by
  have hlooks : Looks FileTree.bare.node? missingFileStore (startOn .bare missingFileStore).disk :=
    ⟨rfl, rfl⟩
  constructor
  · have hrun : ∃ result after, emptyFileWorld.materializeMissingFiles (startOn .bare missingFileStore) =
        .ok result after ∧ result.receiptsRecorded = 1 := by decide +kernel
    obtain ⟨result, after, hresult, hrecorded⟩ := hrun
    obtain ⟨read, targets, -, -, hlength, ⟨rfl, -⟩ | ⟨completed, m', store', hdone, hleft⟩⟩ :=
      (materializeMissingFiles_atomic _ _ _).of_ok hlooks hresult
    · rw [hlength] at hrecorded
      cases hrecorded
    · rw [← hleft.store] at hdone
      exact ⟨result, after, hresult, hrecorded, read, targets, completed, m',
        hlength.symm.trans hrecorded, hdone⟩
  · have hrun : ∃ error after, (failingWorld (· == 28)).materializeMissingFiles
        (startOn .bare missingFileStore) = .error error after ∧
          error = .selectedRoot (.storage .sqlite) := by decide +kernel
    obtain ⟨_, after, hresult, rfl⟩ := hrun
    obtain ⟨hcatalog, -, hleak | hnodes⟩ :=
      (materializeMissingFiles_atomic _ _ _).of_error hlooks hresult
    · cases hleak
    · exact ⟨after, hresult, hcatalog, hnodes⟩

end ExecutorWorld

end NubiSync
