import NubiSync.Daemon.SetAside
import NubiSync.Daemon.StaleFiles
import NubiSync.Storage.ReceiptEffects

set_option autoImplicit false

/-! # Replacing stale files

A stale file whose item has changed is downloaded anew to a scratch file. The old file gets a second name
beside it before the new one is renamed over it, so that the old one can be renamed back until the new
receipts are recorded; only then the second names go. -/

namespace NubiSync

open Checks Methods FileTrees

structure CompletedStaleFileReplacement where
  remoteId : Text
  relativePath : Text
  targetPath : LocalPath
  backupPath : LocalPath
  originalMetadata : Node
  promotedMetadata : Node
  bytesDownloaded : ℕ
  sha256Hex : Text

/-- The receipt of a replaced file. -/
def CompletedStaleFileReplacement.row (replacement : CompletedStaleFileReplacement) : FileMaterialization :=
  ⟨replacement.remoteId, replacement.relativePath, replacement.bytesDownloaded, replacement.sha256Hex⟩

structure SelectedRootStaleFileBatchReplacement where
  plannedReplacementActions : ℕ
  batchActionLimit : ℕ
  filesReplaced : ℕ
  bytesDownloaded : ℕ
  maxFileBytes : ℕ
  providerFingerprintsVerified : ℕ
  staleBaselinesVerified : ℕ
  receiptsRecorded : ℕ
  atomicReplacements : ℕ
  replacementBackupsCleaned : ℕ
  deriving DecidableEq, Repr

/-- The readiness checks of `replace_selected_root_stale_files`. -/
def admitReplacementReadiness (readiness : SelectedRootStaleFileBatchPlan) :
    Except SelectedRootExecutorError Unit :=
  refuseIf (readiness.staleReceiptsTotal == 0
    || decide (readiness.staleReceiptsTotal > supervisedStaleFilePlanMaxActions)
    || readiness.deletionCandidates != 0
    || readiness.safeToDelete != 0
    || readiness.replacementCandidates != readiness.staleReceiptsTotal
    || readiness.safeToReplace != readiness.replacementCandidates
    || readiness.localConflicts != 0
    || readiness.filesMissing != 0
    || readiness.typeConflicts != 0
    || readiness.convergenceDeletionActions != 0
    || readiness.convergenceReplacementActions != readiness.replacementCandidates)
    .remoteReplacementBatchNotReady

namespace ExecutorWorld

variable (world : ExecutorWorld)

def cleanupReplacementBackupPath (backupPath : LocalPath) : LocalMethod Unit :=
  world.removeAndSync backupPath .localFileReplacementBackupCleanupFailed

def rollbackCompletedStaleFileReplacement (replacement : CompletedStaleFileReplacement) :
    LocalMethod Unit := do
  world.requireUnchangedFile replacement.targetPath replacement.promotedMetadata
    replacement.bytesDownloaded replacement.sha256Hex .localFileReplacementRollbackFailed
  let backupMeta ← orThrow (world.look (·.metadata replacement.backupPath))
    .localFileReplacementRollbackFailed
  ofExcept (refuseIf (!sameLocalFileIdentity replacement.originalMetadata backupMeta)
    .localFileReplacementRollbackFailed)
  orThrow (world.call fun _ files => files.rename replacement.backupPath replacement.targetPath)
    .localFileReplacementRollbackFailed
  world.syncDirectory replacement.targetPath.dropLast .localFileReplacementRollbackFailed
  let restored ← orThrow (world.look (·.metadata replacement.targetPath))
    .localFileReplacementRollbackFailed
  ofExcept (refuseIf (!sameLocalFileIdentity replacement.originalMetadata restored)
    .localFileReplacementRollbackFailed)

def rollbackStaleFileReplacementBatch (completed : List CompletedStaleFileReplacement) :
    LocalMethod Unit :=
  undoAll world.rollbackCompletedStaleFileReplacement completed

/-- `cleanup_stale_file_replacement_backups`, with the number of names that are removed already. -/
def cleanupStaleFileReplacementBackups :
    List CompletedStaleFileReplacement → ℕ → LocalMethod ℕ
  | [], cleaned => pure cleaned
  | replacement :: rest, cleaned => do
      let backupMeta ← orThrow (world.look (·.metadata replacement.backupPath))
        .localFileReplacementBackupCleanupFailed
      ofExcept (refuseIf (!sameLocalFileIdentity replacement.originalMetadata backupMeta)
        .localFileReplacementBackupCleanupFailed)
      world.cleanupReplacementBackupPath replacement.backupPath
      cleanupStaleFileReplacementBackups rest (cleaned + 1)

/-- The part of `apply_selected_root_stale_file_replacement` from the download to the backup: the
    fingerprint after the download, and the old file. -/
def verifyReplacement (target : ReceiveOnlyFileTarget) (stale : FileReceiptRow) (targetPath : LocalPath)
    (fingerprintBefore : SelectedRootContentFingerprint) (bytes : ℕ) (sha256Hex : Text) :
    LocalMethod Node := do
  let fingerprintAfter ← world.fingerprint target.remoteId
  ofExcept (refuseIf (fingerprintBefore != fingerprintAfter || bytes != fingerprintAfter.sizeBytes
    || sha256Hex != fingerprintAfter.sha256Hex) .remoteReplacementProviderFingerprintMismatch)
  match ← world.inspectReceiptTarget stale with
  | .missing | .conflict => throw .remoteReplacementNotReady
  | .file verifiedTargetPath observedSize => do
      ofExcept (refuseIf (verifiedTargetPath != targetPath || observedSize != stale.sizeBytes)
        .remoteReplacementLocalConflict)
      let (_, metadataAfter, _, _) ← world.verifyStaleFile targetPath stale
        .remoteReplacementLocalConflict .remoteReplacementTargetRace
      pure metadataAfter

/-- The checks of `apply_selected_root_stale_file_replacement` on a file that was renamed to its place. -/
def requireReplaced (completed : CompletedStaleFileReplacement) : LocalMethod Unit := do
  world.syncDirectory completed.targetPath.dropLast .localFileSyncFailed
  ofExcept (refuseIf (!isFileOfLength completed.bytesDownloaded completed.promotedMetadata)
    .localFileReplacementPostconditionFailed)
  let (promotedBytes, promotedSha256) ←
    world.hashLocalFile completed.targetPath supervisedFileDownloadMaxBytes
  ofExcept (refuseIf (promotedBytes != completed.bytesDownloaded
    || promotedSha256 != completed.sha256Hex) .localFileReplacementPostconditionFailed)

/-- The part of `apply_selected_root_stale_file_replacement` from the backup on. -/
def promoteReplacement (target : ReceiveOnlyFileTarget) (tempPath targetPath backupPath : LocalPath)
    (metadataAfter : Node) (bytes : ℕ) (sha256Hex : Text) :
    LocalMethod CompletedStaleFileReplacement := do
  let parent := targetPath.dropLast
  let cleanup : LocalMethod Unit := do
    world.cleanupReplacementBackupPath backupPath
    world.cleanupTempFile tempPath
  onError (world.call fun _ files => files.link targetPath backupPath) fun _ => do
    world.cleanupTempFile tempPath
    throw .localFileReplacementBackupCreateFailed
  let backupMeta ← onError (world.look (·.metadata backupPath)) fun _ => do
    ignoreError (world.cleanupReplacementBackupPath backupPath)
    world.cleanupTempFile tempPath
    throw .localFileReplacementBackupCreateFailed
  refuseAfter (!sameLocalFileIdentity metadataAfter backupMeta) cleanup .remoteReplacementTargetRace
  orCleanUp (world.syncDirectory parent .localFileSyncFailed) cleanup
  onError (world.call fun _ files => files.rename tempPath targetPath) fun _ => do
    cleanup
    throw .localFileReplaceFailed
  let promotedMetadata ← onError (world.look (·.metadata targetPath)) fun _ => do
    orThrow (world.call fun _ files => files.rename backupPath targetPath)
      .localFileReplacementRollbackFailed
    world.syncDirectory parent .localFileReplacementRollbackFailed
    throw .localFileReplacementPostconditionFailed
  let completed : CompletedStaleFileReplacement := ⟨target.remoteId, target.relativePath, targetPath,
    backupPath, metadataAfter, promotedMetadata, bytes, sha256Hex⟩
  orCleanUp (world.requireReplaced completed) (world.rollbackCompletedStaleFileReplacement completed)
  pure completed

def applySelectedRootStaleFileReplacement (target : ReceiveOnlyFileTarget) (stale : FileReceiptRow) :
    LocalMethod CompletedStaleFileReplacement := do
  ofExcept (refuseIf (target.remoteId != stale.remoteId || target.relativePath != stale.relativePath)
    (.selectedRoot .remoteReplacementPlanTargetMismatch))
  let expectedRemoteSize ← ofExcept (orRefuse target.sizeBytes (.selectedRoot .localFileSizeUnknown))
  ofExcept (refuseIf (decide (expectedRemoteSize > supervisedFileDownloadMaxBytes))
    (.selectedRoot .localFileTooLarge))
  let targetPath := localPath target.relativePath
  let parent := targetPath.dropLast
  world.requireParentDirectory parent .localFileParentInvalid
  let fingerprintBefore ← world.fingerprint target.remoteId
  ofExcept (refuseIf (fingerprintBefore.sizeBytes != expectedRemoteSize
    || decide (fingerprintBefore.sizeBytes > supervisedFileDownloadMaxBytes))
    .remoteReplacementProviderFingerprintMismatch)
  let (tempPath, tempFile) ← world.createDownloadTemp parent
  let (bytes, sha256Hex) ← orCleanUp (world.downloadToTemp tempFile target.remoteId
    supervisedFileDownloadMaxBytes expectedRemoteSize) (world.cleanupTempFile tempPath)
  let metadataAfter ← orCleanUp
    (world.verifyReplacement target stale targetPath fingerprintBefore bytes sha256Hex)
    (world.cleanupTempFile tempPath)
  -- without a name for the backup, the scratch file stays
  let backupPath ← world.uniqueScratchPath .replaceBackup .localFileReplacementBackupUnavailable parent
  world.promoteReplacement target tempPath targetPath backupPath metadataAfter bytes sha256Hex

/-- The loop of `replace_selected_root_stale_files`. -/
def replaceStaleFileTargets (targets : List ReceiveOnlyFileTarget) :
    List FileReceiptRow → List CompletedStaleFileReplacement → ℕ →
      LocalMethod (List CompletedStaleFileReplacement × ℕ)
  | [], completed, totalBytes => pure (completed, totalBytes)
  | stale :: rest, completed, totalBytes => do
      let rollback := world.rollbackStaleFileReplacementBatch completed
      let target ← orCleanUp (ofExcept (orRefuse (staleTarget? targets stale)
        (.selectedRoot .remoteReplacementPlanTargetMismatch))) rollback
      let replacement ← orCleanUp (world.applySelectedRootStaleFileReplacement target stale) rollback
      let totalBytes ← orCleanUp (ofExcept (orRefuse
        (checkedAddU64 totalBytes replacement.bytesDownloaded) (.selectedRoot .countOverflow))) do
          world.rollbackCompletedStaleFileReplacement replacement
          rollback
      replaceStaleFileTargets targets rest (completed ++ [replacement]) totalBytes

/-- The part of `replace_selected_root_stale_files` after the recording: the number of backups that are
    removed. -/
def finishReplacement (completed : List CompletedStaleFileReplacement) (recorded currentReceiptsBefore : ℕ) :
    LocalMethod ℕ := do
  ofExcept (refuseIf (recorded != completed.length) .localFileReplacementBatchPostconditionFailed)
  let expectedCurrent ← ofExcept (orRefuse (checkedAddU64 currentReceiptsBefore completed.length)
    (.selectedRoot .countOverflow))
  let currentReceiptsAfter ← world.query fun store => .ok store.materializationReceiptCount
  let staleReceiptsAfter ← world.query fun store => .ok store.staleMaterializationReceiptCount
  ofExcept (refuseIf (currentReceiptsAfter != expectedCurrent || staleReceiptsAfter != 0)
    .localFileReplacementBatchPostconditionFailed)
  let backupsCleaned ← world.cleanupStaleFileReplacementBackups completed 0
  let inputs ← world.readInputs
  let convergence ← ofSelectedRoot (planRootConvergence inputs)
  ofExcept (refuseIf (!nothingLeftToDo convergence) .localFileReplacementBatchPostconditionFailed)
  pure backupsCleaned

/-- `replace_selected_root_stale_files`. -/
def replaceStaleFiles : LocalMethod SelectedRootStaleFileBatchReplacement := do
  let (_, _, readiness) ← world.planStaleFiles
  ofSelectedRoot (admitReplacementReadiness readiness)
  let currentReceiptsBefore ← world.query fun store => .ok store.materializationReceiptCount
  let staleReceipts ← world.query fun store => fromStorage store.listStaleFileReceipts
  ofExcept (refuseIf (staleReceipts.length != readiness.staleReceiptsTotal)
    (.selectedRoot .remoteReplacementPlanTargetMismatch))
  let (remoteItems, localEntries) ← world.selectedRootMaterializationInputs
  let targets ← ofSelectedRoot (fromMaterializationPlan
    (planReceiveOnlyExistingFileTargets remoteItems localEntries))
  world.validatedSelectedRootPath
  world.invalidateBaseline
  let (completed, totalBytes) ← world.replaceStaleFileTargets targets staleReceipts [] 0
  -- when the clock is behind the epoch, the new files stay
  world.currentUnixTimeMs
  let recorded ← orCleanUp
    (world.transact (·.recordFileMaterializations (completed.map CompletedStaleFileReplacement.row)))
    (world.rollbackStaleFileReplacementBatch completed)
  let backupsCleaned ← world.finishReplacement completed recorded currentReceiptsBefore
  pure ⟨readiness.replacementCandidates, supervisedStaleFilePlanMaxActions, completed.length, totalBytes,
    supervisedFileDownloadMaxBytes, completed.length, completed.length, recorded, completed.length,
    backupsCleaned⟩

end ExecutorWorld

/-! ## Exchanging a file -/

/-- A file has taken the place of another, which stands at a scratch name beside it. -/
structure Exchanged (target backup : LocalPath) (old new : Node) (m m' : LocalNodes) : Prop where
  stood : m target = some old
  free : m backup = none
  beside : Beside backup target
  exchanged : m' = Function.update (Function.update m backup (some old)) target (some new)

namespace Exchanged

variable {target backup target₂ backup₂ path : LocalPath} {old new old₂ new₂ : Node}
  {m m' m'' : LocalNodes}

theorem target_ne (h : Exchanged target backup old new m m') : target ≠ backup := by
  rintro rfl
  have hstood := h.stood
  rw [h.free] at hstood
  cases hstood

theorem at_target (h : Exchanged target backup old new m m') : m' target = some new := by
  rw [h.exchanged, Function.update_self]

theorem at_backup (h : Exchanged target backup old new m m') : m' backup = some old := by
  rw [h.exchanged, Function.update_of_ne h.target_ne.symm, Function.update_self]

theorem elsewhere (h : Exchanged target backup old new m m') (htarget : path ≠ target)
    (hbackup : path ≠ backup) : m' path = m path := by
  rw [h.exchanged, Function.update_of_ne htarget, Function.update_of_ne hbackup]

theorem undone (h : Exchanged target backup old new m m') :
    Function.update (Function.update m' backup none) target (some old) = m := by
  funext path
  by_cases htarget : path = target
  · rw [htarget, Function.update_self, h.stood]
  · rw [Function.update_of_ne htarget]
    by_cases hbackup : path = backup
    · rw [hbackup, Function.update_self, h.free]
    · rw [Function.update_of_ne hbackup, h.elsewhere htarget hbackup]

/-- Once the scratch name goes, the target alone is another. -/
theorem cleaned (h : Exchanged target backup old new m m') :
    Function.update m' backup none = Function.update m target (some new) := by
  rw [h.exchanged, Function.update_comm h.target_ne, Function.update_idem,
    Function.update_comm h.target_ne.symm,
    Function.update_eq_self_iff, Function.update_of_ne h.target_ne.symm, h.free]

/-- What has come to stand at scratch names may as well have come before. -/
theorem swap_grown (h : Exchanged target backup old new m m') (hgrown : GrownAt IsScratch m' m'') :
    ∃ t, GrownAt IsScratch m t ∧ Exchanged target backup old new t m'' := by
  refine ⟨Function.update (Function.update m'' backup none) target (some old), fun path => ?_, ?_⟩
  · by_cases htarget : path = target
    · rw [htarget, Function.update_self, h.stood]
      exact .inl rfl
    · rw [Function.update_of_ne htarget]
      by_cases hbackup : path = backup
      · rw [hbackup, Function.update_self, h.free]
        exact .inl rfl
      · rw [Function.update_of_ne hbackup]
        have hpath := hgrown path
        rwa [h.elsewhere htarget hbackup] at hpath
  · constructor
    · rw [Function.update_self]
    · rw [Function.update_of_ne h.target_ne.symm, Function.update_self]
    · exact h.beside
    · funext path
      by_cases htarget : path = target
      · rw [htarget, Function.update_self, hgrown.kept h.at_target]
      · by_cases hbackup : path = backup
        · rw [hbackup, Function.update_of_ne h.target_ne.symm, Function.update_self, hgrown.kept h.at_backup]
        · simp [htarget, hbackup]

/-- **Two exchanges do not touch one another**, unless they are about one target or the second target is a
    scratch name. -/
theorem swap (h : Exchanged target backup old new m m') (h₂ : Exchanged target₂ backup₂ old₂ new₂ m' m'')
    (htargets : target₂ ≠ target) (hplain₂ : ¬ IsScratch target₂) :
    ∃ t, Exchanged target₂ backup₂ old₂ new₂ m t ∧ Exchanged target backup old new t m'' := by
  have hcross : target₂ ≠ backup := fun hsame => hplain₂ (hsame ▸ h.beside.isScratch)
  have hcross₂ : backup₂ ≠ target := by
    rintro rfl
    have hfree := h₂.free
    rw [h.at_target] at hfree
    cases hfree
  have hbackups : backup₂ ≠ backup := by
    rintro rfl
    have hfree := h₂.free
    rw [h.at_backup] at hfree
    cases hfree
  have hsecond : Exchanged target₂ backup₂ old₂ new₂ m
      (Function.update (Function.update m backup₂ (some old₂)) target₂ (some new₂)) := by
    constructor
    · rw [← h.elsewhere htargets hcross, h₂.stood]
    · rw [← h.elsewhere hcross₂ hbackups, h₂.free]
    · exact h₂.beside
    · rfl
  refine ⟨_, hsecond, ?_⟩
  constructor
  · rw [hsecond.elsewhere htargets.symm hcross₂.symm, h.stood]
  · rw [hsecond.elsewhere hcross.symm hbackups.symm, h.free]
  · exact h.beside
  · rw [h₂.exchanged, h.exchanged]
    funext path
    simp only [Function.update_apply]
    split_ifs <;> simp_all

/-- A scratch name that is taken goes before the exchange as after it. -/
theorem erase (h : Exchanged target backup old new m m') (hplain : ¬ IsScratch target)
    (hscratch : IsScratch path) (htaken : m path ≠ none) :
    m' path = m path ∧
      Exchanged target backup old new (Function.update m path none) (Function.update m' path none) := by
  have htarget : path ≠ target := by
    rintro rfl
    exact hplain hscratch
  have hbackup : path ≠ backup := by
    rintro rfl
    exact htaken h.free
  refine ⟨h.elsewhere htarget hbackup, ?_⟩
  constructor
  · rw [Function.update_of_ne htarget.symm, h.stood]
  · rw [Function.update_of_ne hbackup.symm, h.free]
  · exact h.beside
  · rw [h.exchanged, Function.update_comm htarget.symm, Function.update_comm hbackup.symm]

end Exchanged

/-- A file beside which two names are free: for what comes in its place, and for its backup. -/
structure Exchangeable (target temp backup : LocalPath) (old : Node) (m : LocalNodes) : Prop where
  stood : m target = some old
  tempFree : m temp = none
  tempBeside : Beside temp target
  backupFree : m backup = none
  backupBeside : Beside backup target
  backup_ne : backup ≠ temp

namespace Exchangeable

variable {target temp backup : LocalPath} {old : Node} {m : LocalNodes}

theorem temp_ne (h : Exchangeable target temp backup old m) : temp ≠ target := by
  rintro rfl
  have hstood := h.stood
  rw [h.tempFree] at hstood
  cases hstood

theorem exchanged (h : Exchangeable target temp backup old m) (new : Node) :
    Exchanged target backup old new m
      (Function.update (Function.update m backup (some old)) target (some new)) :=
  ⟨h.stood, h.backupFree, h.backupBeside, rfl⟩

/-- It does not matter which of the names is taken first. -/
theorem taken_comm (h : Exchangeable target temp backup old m) (new : Node) :
    Function.update (Function.update m backup (some old)) temp (some new) =
      Function.update (Function.update m temp (some new)) backup (some old) :=
  Function.update_comm h.backup_ne _ _ _

theorem temp_free (h : Exchangeable target temp backup old m) :
    Function.update m backup (some old) temp = none := by
  rw [Function.update_of_ne h.backup_ne.symm, h.tempFree]

theorem backup_free (h : Exchangeable target temp backup old m) (new : Node) :
    Function.update m temp (some new) backup = none := by
  rw [Function.update_of_ne h.backup_ne, h.backupFree]

theorem grownTemp (h : Exchangeable target temp backup old m) (new : Node) :
    GrownAt IsScratch m (Function.update m temp (some new)) :=
  (GrownAt.refl _ m).update h.tempFree h.tempBeside.isScratch _

theorem grownBackup (h : Exchangeable target temp backup old m) :
    GrownAt IsScratch m (Function.update m backup (some old)) :=
  (GrownAt.refl _ m).update h.backupFree h.backupBeside.isScratch _

theorem grownBoth (h : Exchangeable target temp backup old m) (new : Node) :
    GrownAt IsScratch m (Function.update (Function.update m temp (some new)) backup (some old)) :=
  (h.grownTemp new).update h.backupFree h.backupBeside.isScratch _

end Exchangeable

/-! ## Replacing one file -/

/-- The bytes of a file are those that the provider vouches for and gives. -/
structure FromProvider (world : ExecutorWorld) (remoteId : Text) (data : FileData) : Prop where
  small : data.content.length ≤ supervisedFileDownloadMaxBytes
  vouched : ∃ call, world.contentFingerprint call remoteId =
    .ok ⟨data.content.length, world.sha256.sha256Hex data.content⟩
  given : world.Gives supervisedFileDownloadMaxBytes remoteId data.content

/-- A file that a stale receipt describes is replaced by a new one. -/
def Replaces (world : ExecutorWorld) (receipts : List FileReceiptRow)
    (item : CompletedStaleFileReplacement) (m m' : LocalNodes) : Prop :=
  ∃ receipt ∈ receipts, ∃ id data backup newId newData, receipt.Describes world data ∧ id ≠ newId ∧
    FromProvider world receipt.remoteId newData ∧
    item = ⟨receipt.remoteId, receipt.relativePath, receipt.path, backup, .file id data,
      .file newId newData, newData.content.length, world.sha256.sha256Hex newData.content⟩ ∧
    Exchanged receipt.path backup (.file id data) (.file newId newData) m m'

theorem Replaces.mono {world : ExecutorWorld} {receipts receipts' : List FileReceiptRow}
    {item : CompletedStaleFileReplacement} {m m' : LocalNodes} (h : Replaces world receipts item m m')
    (hsub : ∀ receipt ∈ receipts, receipt ∈ receipts') : Replaces world receipts' item m m' := by
  obtain ⟨receipt, hreceipt, hitem⟩ := h
  exact ⟨receipt, hsub receipt hreceipt, hitem⟩

/-- The errors after which a replacement may leave something behind. -/
def leaksReplacement (error : LocalExecutorError) : Bool :=
  [.localFileTempCleanupFailed, .localFileReplacementBackupUnavailable, .localFilesystemInspectionFailed,
    .localFileReplacementBackupCreateFailed, .localFileReplacementBackupCleanupFailed,
    .localFileReplacementRollbackFailed, .clockBeforeUnixEpoch].contains error

/-- What a failed replacement may have left: something at scratch names, or its own exchange. -/
def LeavesReplacement (world : ExecutorWorld) (receipts : List FileReceiptRow) (m m' : LocalNodes) : Prop :=
  GrownAt IsScratch m m' ∨ ∃ item, Replaces world receipts item m m'

/-- A failed replacement left everything as it was, or what it may leave. -/
abbrev ReplacementFails (world : ExecutorWorld) (receipts : List FileReceiptRow) (m : LocalNodes)
    (store : RootStore) : LocalExecutorError → LocalRoot → Prop :=
  Fails (Looks m store) (leaksReplacement · = true) fun d =>
    ∃ m', LeavesReplacement world receipts m m' ∧ Looks m' store d

namespace ExecutorWorld

section Rules

variable {world : ExecutorWorld} {m m' : LocalNodes} {store : RootStore}
  {E : LocalExecutorError → LocalRoot → Prop} {target backup temp : LocalPath} {id newId : FileId}
  {data newData : FileData} {remoteId relativePath : Text}

theorem rename_backup (h : Exchanged target backup (.file id data) (.file newId newData) m m')
    (hid : id ≠ newId) {d : LocalRoot} (hd : Looks m' store d) :
    ∃ files, d.files.rename backup target = .ok (files, ()) ∧ Looks m store { d with files := files } := by
  obtain ⟨files, hrename, hfiles⟩ := FileTree.rename_of_file ((hd.node? backup).trans h.at_backup)
    ((hd.node? target).trans h.at_target) hid h.beside.dropLast_eq
  refine ⟨files, hrename, ?_, hd.store⟩
  rw [hfiles, hd.nodes, h.undone]

/-- **Taking a replacement back**: the old file is at its place again. -/
theorem rollbackCompletedStaleFileReplacement_rule
    (h : Exchanged target backup (.file id data) (.file newId newData) m m') (hid : id ≠ newId)
    (hE : ∀ d, Looks m store d ∨ Looks m' store d → E .localFileReplacementRollbackFailed d) :
    LocalTriple (Looks m' store) (world.rollbackCompletedStaleFileReplacement ⟨remoteId, relativePath,
        target, backup, .file id data, .file newId newData, newData.content.length,
        world.sha256.sha256Hex newData.content⟩)
      (fun _ => Looks m store) E := by
  apply Triple.bind (requireUnchangedFile_rule h.at_target fun d hd => hE d (.inr hd))
  intro _
  apply lookOrThrow_bind_of (A := fun node => node = .file id data)
  · exact fun d hd => ⟨_, hd.metadata.mpr h.at_backup, rfl⟩
  · exact fun d hd => hE d (.inr hd)
  rintro _ rfl
  apply Triple.check_bind
  swap
  · intro hrefused
    simp at hrefused
  intro _
  apply callOrThrow_bind (S := fun _ => Looks m store)
  · intro d now hd
    obtain ⟨files, hrename, hafter⟩ := rename_backup h hid hd
    exact ⟨files, (), hrename, hafter⟩
  · exact fun d hd => hE d (.inr hd)
  intro _
  have hfails : ∀ d, Looks m store d → E .localFileReplacementRollbackFailed d := fun d hd => hE d (.inl hd)
  apply Triple.bind (syncDirectory_rule hfails)
  intro _
  apply lookOrThrow_bind_of (A := fun node => node = .file id data)
    (fun d hd => ⟨_, hd.metadata.mpr h.stood, rfl⟩) hfails
  rintro _ rfl
  apply Triple.of_bind_pure
  apply Triple.check_bind
  · exact fun _ => .pure fun _ hd => hd
  · intro hrefused
    simp at hrefused

theorem rollbackReplacement_undoes {receipts : List FileReceiptRow} :
    Undoes (Replaces world receipts) world.rollbackCompletedStaleFileReplacement
      (leaksReplacement · = true) := by
  rintro _ m m' store ⟨receipt, -, id, data, backup, newId, newData, -, hid, -, rfl, hexchanged⟩
  exact rollbackCompletedStaleFileReplacement_rule hexchanged hid fun d hd => ⟨by decide, hd⟩

/-- A replacement that is taken back at the end of a method. -/
theorem rollbackReplacement_fails {receipts : List FileReceiptRow} {item : CompletedStaleFileReplacement}
    (hitem : Replaces world receipts item m m') (error : LocalExecutorError) :
    LocalTriple (Looks m' store) (world.rollbackCompletedStaleFileReplacement item)
      (fun _ => ReplacementFails world receipts m store error) (ReplacementFails world receipts m store) := by
  apply (rollbackReplacement_undoes item m m' store hitem).mono
  · exact fun _ h => h
  · exact fun _ d hd => .of_clean hd
  · rintro error d ⟨hleak, hd | hd⟩
    · exact .of_clean hd
    · exact .of_dirty hleak ⟨m', .inr ⟨item, hitem⟩, hd⟩

theorem requireReplaced_rule {original : Node} (htarget : m target = some (.file newId newData))
    (hE : ∀ error d, Looks m store d → E error d) :
    LocalTriple (Looks m store) (world.requireReplaced ⟨remoteId, relativePath, target, backup, original,
        .file newId newData, newData.content.length, world.sha256.sha256Hex newData.content⟩)
      (fun _ => Looks m store) E := by
  apply Triple.bind (syncDirectory_rule (hE _))
  intro _
  apply Triple.check_bind
  swap
  · intro hrefused
    simp [isFileOfLength] at hrefused
  intro _
  apply Triple.bind (hashLocalFile_rule
    (fun d hd => ⟨newId, newData.modified, (hd.node? target).trans htarget⟩)
    (by decide) (hE _))
  rintro ⟨bytes, sha256Hex⟩
  apply Triple.fact
  intro hhashed
  obtain ⟨rfl, rfl⟩ := Prod.mk.inj hhashed
  apply Triple.fact
  intro _
  apply Triple.of_bind_pure
  apply Triple.check_bind
  · exact fun _ => .pure fun _ hd => hd
  · intro hrefused
    simp at hrefused

/-- The scratch file of a replacement that fails: it goes, or is left. -/
theorem cleanupTempFile_fails {receipts : List FileReceiptRow} {n : LocalNodes} {temp : LocalPath}
    (hgrown : GrownAt IsScratch m n) (hfree : n temp = none) (hscratch : IsScratch temp) :
    LocalTriple (fun d => ∃ written, Holds n temp newId written store d) (world.cleanupTempFile temp)
      (fun _ => Looks n store) (ReplacementFails world receipts m store) := by
  apply cleanupTempFile_rule hfree
  rintro d written ⟨modified, hd⟩
  have hdropped : GrownAt IsScratch n (Function.update n temp (some (.file newId ⟨written, modified⟩))) :=
    (GrownAt.refl _ n).update hfree hscratch _
  exact .of_dirty rfl ⟨_, .inl (hgrown.trans hdropped), hd⟩

section Exchange

variable {receipts : List FileReceiptRow} {temp : LocalPath}

/-- A backup that cannot be removed stands, or is gone. -/
theorem cleanupReplacementBackupPath_rule (hfree : m backup = none) :
    LocalTriple (Looks (Function.update m backup (some (.file id data))) store)
      (world.cleanupReplacementBackupPath backup) (fun _ => Looks m store) fun error d =>
        error = .localFileReplacementBackupCleanupFailed ∧
          (Looks (Function.update m backup (some (.file id data))) store d ∨ Looks m store d) := by
  have hundone := update_undone hfree (some (.file id data))
  apply (removeAndSync_rule (E := fun error d => error = .localFileReplacementBackupCleanupFailed ∧
    (Looks (Function.update m backup (some (.file id data))) store d ∨ Looks m store d))
    (Function.update_self _ _ _) fun d hd => ⟨rfl, ?_⟩).mono
  · exact fun _ h => h
  · intro _ d hd
    rwa [hundone] at hd
  · exact fun _ _ h => h
  · rwa [hundone] at hd

theorem cleanupTemp_rule (h : Exchangeable target temp backup (.file id data) m) :
    LocalTriple (Looks (Function.update m temp (some (.file newId newData))) store)
      (world.cleanupTempFile temp) (fun _ => Looks m store) (ReplacementFails world receipts m store) :=
  (cleanupTempFile_fails (GrownAt.refl _ m) h.tempFree h.tempBeside.isScratch).mono
    (fun _ hd => ⟨newData.content, newData.modified, hd⟩) (fun _ _ h => h) fun _ _ h => h

/-- The cleanup of a replacement of which both scratch names stand. -/
theorem cleanupBoth_rule (h : Exchangeable target temp backup (.file id data) m) :
    LocalTriple
      (Looks (Function.update (Function.update m temp (some (.file newId newData))) backup
        (some (.file id data))) store)
      (do
        world.cleanupReplacementBackupPath backup
        world.cleanupTempFile temp)
      (fun _ => Looks m store) (ReplacementFails world receipts m store) := by
  apply Triple.bind (Q := fun _ => Looks (Function.update m temp (some (.file newId newData))) store)
  · apply (cleanupReplacementBackupPath_rule (h.backup_free _)).mono (fun _ h => h) (fun _ _ h => h)
    rintro error d ⟨rfl, hd | hd⟩
    · exact .of_dirty (by decide) ⟨_, .inl (h.grownBoth _), hd⟩
    · exact .of_dirty (by decide) ⟨_, .inl (h.grownTemp _), hd⟩
  · exact fun _ => cleanupTemp_rule h

/-- When the backup cannot be looked at it is removed with the scratch file, and may stay. -/
theorem abandonBackup_rule {R : Node → LocalRoot → Prop}
    (h : Exchangeable target temp backup (.file id data) m) :
    LocalTriple
      (Looks (Function.update (Function.update m temp (some (.file newId newData))) backup
        (some (.file id data))) store)
      (do
        ignoreError (world.cleanupReplacementBackupPath backup)
        world.cleanupTempFile temp
        throw .localFileReplacementBackupCreateFailed)
      R (ReplacementFails world receipts m store) := by
  set s := Function.update m temp (some (.file newId newData)) with hs
  apply Triple.bind (Triple.ignoreError
    (S := fun d => Looks (Function.update s backup (some (.file id data))) store d ∨ Looks s store d)
    ((cleanupReplacementBackupPath_rule (h.backup_free _)).mono (fun _ h => h) (fun _ _ h => .inr h)
      fun _ _ h => h.2))
  intro _
  apply Triple.bind
    (Q := fun _ d => Looks (Function.update m backup (some (.file id data))) store d ∨ Looks m store d)
  · apply Triple.or
    · rw [hs, ← h.taken_comm]
      apply (cleanupTempFile_fails h.grownBackup h.temp_free h.tempBeside.isScratch).mono
      · exact fun _ hd => ⟨newData.content, newData.modified, hd⟩
      · exact fun _ _ hd => .inl hd
      · exact fun _ _ h => h
    · exact (cleanupTemp_rule h).mono (fun _ h => h) (fun _ _ hd => .inr hd) fun _ _ h => h
  · intro _
    apply Triple.throw
    rintro d (hd | hd)
    · exact .of_dirty (by decide) ⟨_, .inl h.grownBackup, hd⟩
    · exact .of_clean hd

/-- A new file that cannot be looked at gives way to the old one. -/
theorem abandonExchange_rule {R : Node → LocalRoot → Prop} {item : CompletedStaleFileReplacement}
    (h : Exchanged target backup (.file id data) (.file newId newData) m m') (hid : id ≠ newId)
    (hitem : Replaces world receipts item m m') :
    LocalTriple (Looks m' store)
      (do
        orThrow (world.call fun _ files => files.rename backup target)
          .localFileReplacementRollbackFailed
        world.syncDirectory target.dropLast .localFileReplacementRollbackFailed
        throw .localFileReplacementPostconditionFailed)
      R (ReplacementFails world receipts m store) := by
  apply callOrThrow_bind (S := fun _ => Looks m store)
  · intro d now hd
    obtain ⟨files, hrename, hafter⟩ := rename_backup h hid hd
    exact ⟨files, (), hrename, hafter⟩
  · exact fun d hd => .of_dirty (by decide) ⟨m', .inr ⟨item, hitem⟩, hd⟩
  intro _
  apply Triple.bind (syncDirectory_rule fun d hd => .of_clean hd)
  exact fun _ => .throw fun _ hd => .of_clean hd

end Exchange

/-- **From the backup on**: the new file is in the place of the old one, or everything is as before the
    download, or something is left. -/
theorem promoteReplacement_rule {receipt : FileReceiptRow} {target : ReceiveOnlyFileTarget}
    {temp : LocalPath}
    (hremoteId : target.remoteId = receipt.remoteId) (hpath : target.relativePath = receipt.relativePath)
    (hdescribes : receipt.Describes world data) (hgiven : FromProvider world receipt.remoteId newData)
    (hid : newId ≠ id) (hready : Exchangeable receipt.path temp backup (.file id data) m) :
    LocalTriple (Looks (Function.update m temp (some (.file newId newData))) store)
      (world.promoteReplacement target temp receipt.path backup (.file id data) newData.content.length
        (world.sha256.sha256Hex newData.content))
      (fun item d => ∃ m', Replaces world [receipt] item m m' ∧ Looks m' store d)
      (ReplacementFails world [receipt] m store) := by
  apply of_files
  intro files hfiles
  have hexchanged := hready.exchanged (.file newId newData)
  -- the trees on the way: with the new file, with both files beside one another, and exchanged
  set s := Function.update m temp (some (.file newId newData)) with hs
  set s₁ := Function.update s backup (some (.file id data)) with hs₁
  set m' := Function.update (Function.update m backup (some (.file id data))) receipt.path
    (some (.file newId newData))
  have hsOld : s receipt.path = some (.file id data) := by
    rw [hs, Function.update_of_ne hready.temp_ne.symm, hready.stood]
  have hparent : IsDirectoryIn s receipt.path.dropLast := parent_of_file hfiles hsOld
  have hs₁Old : s₁ receipt.path = some (.file id data) := by
    rw [hs₁, Function.update_of_ne hexchanged.target_ne, hsOld]
  have hs₁Temp : s₁ temp = some (.file newId newData) := by
    rw [hs₁, Function.update_of_ne hready.backup_ne.symm, hs, Function.update_self]
  have hmoved : Function.update s₁ temp none = Function.update m backup (some (.file id data)) :=
    update_undone_first hready.tempFree hready.backup_ne.symm _ _
  have hclean : ∀ {error d}, Looks m store d → ReplacementFails world [receipt] m store error d :=
    fun hd => .of_clean hd
  -- the old file gets its second name
  apply callOnError_bind (S := fun _ => Looks s₁ store)
  · intro d now hd
    obtain ⟨after, hlink, hafter⟩ := FileTree.link_of_free ((hd.node? receipt.path).trans hsOld)
      (by obtain ⟨kind, processId, n, hname⟩ := hready.backupBeside; simp [hname])
      (hd.isDirectory (hready.backupBeside.dropLast_eq ▸ hparent))
      ((hd.node? backup).trans (hready.backup_free _))
    exact ⟨after, (), hlink, by rw [hafter, hd.nodes], hd.store⟩
  · exact Triple.bind (cleanupTemp_rule hready) fun _ => .throw fun _ hd => hclean hd
  intro _
  apply lookOnError_bind fun d hd => hd.metadata.mpr (Function.update_self _ _ _)
  · exact abandonBackup_rule hready
  apply Triple.refuseAfter_bind
  swap
  · intro hrefused
    simp at hrefused
  intro _
  apply Triple.bind (Triple.orCleanUp (syncDirectory_rule (E := fun _ => Looks s₁ store) fun _ hd => hd)
    fun error => (cleanupBoth_rule hready).mono (fun _ h => h) (fun _ _ hd => hclean hd) fun _ _ h => h)
  intro _
  -- and the new file its place
  apply callOnError_bind (S := fun _ => Looks m' store)
  · intro d now hd
    obtain ⟨after, hrename, hafter⟩ := FileTree.rename_of_file ((hd.node? temp).trans hs₁Temp)
      ((hd.node? receipt.path).trans hs₁Old) hid hready.tempBeside.dropLast_eq
    refine ⟨after, (), hrename, ?_, hd.store⟩
    rw [hafter, hd.nodes, hmoved]
  · exact Triple.bind (cleanupBoth_rule hready) fun _ => .throw fun _ hd => hclean hd
  intro _
  have hitem : Replaces world [receipt] ⟨target.remoteId, target.relativePath, receipt.path, backup,
      .file id data, .file newId newData, newData.content.length,
      world.sha256.sha256Hex newData.content⟩ m m' :=
    ⟨receipt, List.mem_singleton_self _, id, data, backup, newId, newData, hdescribes, hid.symm, hgiven,
      by rw [hremoteId, hpath], hexchanged⟩
  apply lookOnError_bind fun d hd => hd.metadata.mpr hexchanged.at_target
  · exact abandonExchange_rule hexchanged hid.symm hitem
  apply Triple.bind (Triple.orCleanUp (requireReplaced_rule hexchanged.at_target
    (E := fun _ => Looks m' store) fun _ _ hd => hd) fun error => rollbackReplacement_fails hitem error)
  intro _
  exact .pure fun d hd => ⟨m', hitem, hd⟩

/-- A replacement that passes: the provider vouches for what was downloaded, and the old file is what its
    receipt says. -/
theorem verifyReplacement_rule {target : ReceiveOnlyFileTarget} {receipt : FileReceiptRow}
    {fingerprintBefore : SelectedRootContentFingerprint} {bytes : ℕ} {sha256Hex : Text}
    (hE : ∀ error d, Looks m store d → E error d) :
    LocalTriple (Looks m store)
      (world.verifyReplacement target receipt receipt.path fingerprintBefore bytes sha256Hex)
      (fun metadataAfter d => ∃ id data, m receipt.path = some (.file id data) ∧
        receipt.Describes world data ∧
        (∃ call, world.contentFingerprint call target.remoteId = .ok ⟨bytes, sha256Hex⟩) ∧
        metadataAfter = .file id data ∧ Looks m store d) E := by
  apply fingerprint_bind
  · exact fun _ error _ => hE error
  intro call fingerprintAfter hanswer
  apply Triple.check_bind
  swap
  · exact fun _ => hE _
  intro hmatches
  simp only [Bool.or_eq_false_iff, bne_eq_false_iff_eq] at hmatches
  obtain ⟨⟨-, rfl⟩, rfl⟩ := hmatches
  apply Triple.bind (inspectReceiptTarget_rule hE)
  rintro (_ | _ | ⟨verifiedTargetPath, observedSize⟩)
  · exact .fact fun _ => .throw (hE _)
  · exact .fact fun _ => .throw (hE _)
  apply Triple.fact
  rintro ⟨rfl, id, data, hnode, rfl⟩
  apply Triple.check_bind
  swap
  · exact fun _ => hE _
  intro _
  apply Triple.bind (verifyStaleFile_rule hnode hE)
  intro verified
  apply Triple.fact
  rintro rfl
  apply Triple.fact
  intro hdescribes
  exact .pure fun d hd => ⟨id, data, hnode, hdescribes, ⟨call, hanswer⟩, rfl, hd⟩

/-- **Replacing one file**: the old file was what its receipt says and the new one is what the provider
    vouches for, or everything is as before, or something is left. -/
theorem applySelectedRootStaleFileReplacement_rule {target : ReceiveOnlyFileTarget}
    {receipt : FileReceiptRow} (hplain : ¬ IsScratch receipt.path) :
    LocalTriple (Looks m store) (world.applySelectedRootStaleFileReplacement target receipt)
      (fun item d => ∃ m', Replaces world [receipt] item m m' ∧ Looks m' store d)
      (ReplacementFails world [receipt] m store) := by
  have hclean : ∀ error d, Looks m store d → ReplacementFails world [receipt] m store error d :=
    fun _ _ hd => .of_clean hd
  apply Triple.check_bind
  swap
  · exact fun _ => hclean _
  intro hidentity
  simp only [Bool.or_eq_false_iff, bne_eq_false_iff_eq] at hidentity
  obtain ⟨hremoteId, hpath⟩ := hidentity
  have htargetPath : localPath target.relativePath = receipt.path := congrArg localPath hpath
  apply Triple.present_bind
  swap
  · exact fun _ => hclean _
  intro expectedRemoteSize _
  apply Triple.check_bind
  swap
  · exact fun _ => hclean _
  intro hsmall
  have hsmall : expectedRemoteSize ≤ supervisedFileDownloadMaxBytes := by simpa using hsmall
  simp only [htargetPath]
  apply Triple.bind (requireParentDirectory_rule (hclean _))
  intro _
  apply Triple.fact
  intro hparent
  apply fingerprint_bind
  · exact fun _ error _ => hclean error
  intro _ fingerprintBefore _
  apply Triple.check_bind
  swap
  · exact fun _ => hclean _
  intro _
  apply Triple.bind (createDownloadTemp_rule hparent (hclean _))
  rintro ⟨temp, tempFile⟩
  apply Triple.fact
  rintro ⟨n, htemp⟩
  have hbeside : Beside temp receipt.path := ⟨_, _, n, htemp⟩
  apply Triple.fact
  intro hfree
  apply Triple.fact
  intro hfresh
  -- what fails before the backup leaves at most the scratch file
  have hcleanup : ∀ error, LocalTriple (fun d => ∃ written, Holds m temp tempFile written store d)
      (world.cleanupTempFile temp) (fun _ => ReplacementFails world [receipt] m store error)
      (ReplacementFails world [receipt] m store) := by
    intro error
    exact (cleanupTempFile_fails (GrownAt.refl _ m) hfree hbeside.isScratch).mono (fun _ h => h)
      (fun _ => hclean error) fun _ _ h => h
  apply Triple.bind (Triple.orCleanUp (downloadToTemp_rule hfresh (E := fun _ d => ∃ written,
    Holds m temp tempFile written store d) fun _ d written hd => ⟨written, hd⟩) hcleanup)
  rintro ⟨size, sha256Hex⟩
  apply Triple.exists
  intro bytes
  apply Triple.fact
  intro hwritten
  obtain ⟨rfl, rfl⟩ := Prod.mk.inj hwritten
  apply Triple.fact
  intro hlength
  apply Triple.fact
  intro hgives
  apply Triple.exists
  intro modified
  set s := Function.update m temp (some (.file tempFile ⟨bytes, modified⟩)) with hs
  apply Triple.bind (Triple.orCleanUp (verifyReplacement_rule (E := fun _ => Looks s store)
    fun _ _ hd => hd) fun error => (hcleanup error).mono (fun d hd => ⟨bytes, modified, hd⟩)
      (fun _ _ h => h) fun _ _ h => h)
  intro metadataAfter
  apply Triple.exists
  intro id
  apply Triple.exists
  intro data
  apply Triple.fact
  intro hold
  have htempPath : receipt.path ≠ temp := fun hsame => hplain (hsame ▸ hbeside.isScratch)
  rw [hs, Function.update_of_ne htempPath] at hold
  apply Triple.fact
  intro hdescribes
  apply Triple.fact
  intro hvouched
  apply Triple.fact
  rintro rfl
  have hgiven : FromProvider world receipt.remoteId ⟨bytes, modified⟩ := by
    rw [hremoteId] at hvouched hgives
    exact ⟨hlength.trans_le hsmall, hvouched, hgives⟩
  have hleft : ∀ error d, leaksReplacement error = true → Looks s store d →
      ReplacementFails world [receipt] m store error d := fun _ _ hleak hd =>
    .of_dirty hleak ⟨s, .inl ((GrownAt.refl _ m).update hfree hbeside.isScratch _), hd⟩
  apply Triple.bind (uniqueScratchPath_rule (fun d hd => hleft _ d (by decide) hd)
    fun d hd => hleft _ d (by decide) hd)
  intro backup
  apply Triple.fact
  rintro ⟨k, hbackup⟩
  apply Triple.fact
  intro hbackupFree
  have hbackupTemp : backup ≠ temp := by
    rintro rfl
    rw [hs, Function.update_self] at hbackupFree
    cases hbackupFree
  rw [hs, Function.update_of_ne hbackupTemp] at hbackupFree
  have hid : tempFile ≠ id := by
    rintro rfl
    exact hfresh _ _ hold rfl
  exact promoteReplacement_rule hremoteId hpath hdescribes hgiven hid
    ⟨hold, hfree, hbeside, hbackupFree, ⟨_, _, k, hbackup⟩, hbackupTemp⟩

end Rules

end ExecutorWorld

/-! ## The batch -/

/-- What a failed batch of replacements may have left: something at scratch names, and then exchanges of
    different files. -/
def ReplacementsLeft (world : ExecutorWorld) (receipts : List FileReceiptRow) (m m' : LocalNodes) : Prop :=
  ∃ first items, GrownAt IsScratch m first ∧ (items.map (·.targetPath)).Nodup ∧
    Changes (Replaces world receipts) first items m'

/-- A failed batch left everything as it was, or what it may leave. -/
abbrev ReplacementsFail (world : ExecutorWorld) (receipts : List FileReceiptRow) (m : LocalNodes)
    (store : RootStore) : LocalExecutorError → LocalRoot → Prop :=
  Fails (Looks m store) (leaksReplacement · = true) fun d =>
    ∃ m', ReplacementsLeft world receipts m m' ∧ Looks m' store d

/-- The nodes with files at their targets. -/
def replaced (m : LocalNodes) (items : List CompletedStaleFileReplacement) : LocalNodes :=
  items.foldl (fun m item => Function.update m item.targetPath (some item.promotedMetadata)) m

@[simp] theorem replaced_nil (m : LocalNodes) : replaced m [] = m := rfl

@[simp] theorem replaced_cons (m : LocalNodes) (item : CompletedStaleFileReplacement)
    (items : List CompletedStaleFileReplacement) :
    replaced m (item :: items) =
      replaced (Function.update m item.targetPath (some item.promotedMetadata)) items := rfl

theorem replaced_elsewhere {m : LocalNodes} {items : List CompletedStaleFileReplacement} {path : LocalPath}
    (h : path ∉ items.map (·.targetPath)) : replaced m items path = m path := by
  induction items generalizing m with
  | nil => rfl
  | cons item rest ih =>
      rw [List.map_cons, List.mem_cons, not_or] at h
      rw [replaced_cons, ih h.2, Function.update_of_ne h.1]

theorem replaced_target {m : LocalNodes} {items : List CompletedStaleFileReplacement}
    {item : CompletedStaleFileReplacement} (hnodup : (items.map (·.targetPath)).Nodup)
    (hitem : item ∈ items) :
    replaced m items item.targetPath = some item.promotedMetadata := by
  induction items generalizing m with
  | nil => cases hitem
  | cons first rest ih =>
      rw [List.map_cons, List.nodup_cons] at hnodup
      rw [replaced_cons]
      rcases List.mem_cons.mp hitem with rfl | hrest
      · rw [replaced_elsewhere hnodup.1, Function.update_self]
      · exact ih hnodup.2 hrest

/-- The removal of the backups was cut short: the first are gone. -/
def ReplacedInPart (world : ExecutorWorld) (receipts : List FileReceiptRow)
    (items : List CompletedStaleFileReplacement) (m : LocalNodes) (store : RootStore) (d : LocalRoot) :
    Prop :=
  ∃ done left m', items = done ++ left ∧
    Changes (Replaces world receipts) (replaced m done) left m' ∧ Looks m' store d

section Batch

variable {world : ExecutorWorld} {receipts : List FileReceiptRow} {receipt : FileReceiptRow}
  {m m' : LocalNodes} {store : RootStore} {items completed : List CompletedStaleFileReplacement}

theorem ReplacedInPart.of_changes {d : LocalRoot} (hchanges : Changes (Replaces world receipts) m items m')
    (hd : Looks m' store d) : ReplacedInPart world receipts items m store d :=
  ⟨[], items, m', rfl, hchanges, hd⟩

theorem ReplacedInPart.cons {item : CompletedStaleFileReplacement} {d : LocalRoot}
    (h : ReplacedInPart world receipts items
      (Function.update m item.targetPath (some item.promotedMetadata)) store d) :
    ReplacedInPart world receipts (item :: items) m store d := by
  obtain ⟨done, left, m', rfl, hchanges, hd⟩ := h
  exact ⟨item :: done, left, m', rfl, hchanges, hd⟩

/-- What a failed replacement has left may as well have come before the others, unless it is about the
    target of one of them. -/
theorem leavesReplacement_swap (hplain : ¬ IsScratch receipt.path)
    (hapart : ∀ item ∈ completed, item.targetPath ≠ receipt.path) :
    ∀ item ∈ completed, ∀ s t u, Replaces world receipts item s t → LeavesReplacement world [receipt] t u →
      ∃ t', LeavesReplacement world [receipt] s t' ∧ Replaces world receipts item t' u := by
  rintro _ hitem s t u
    ⟨other, hother, id, data, backup, newId, newData, hdescribes, hid, hgiven, rfl, hexchanged⟩ hleaves
  rcases hleaves with hgrown |
    ⟨_, _, hsame, id₂, data₂, backup₂, newId₂, newData₂, hdescribes₂, hid₂, hgiven₂, rfl, hexchanged₂⟩
  · obtain ⟨t', hgrown, hexchanged⟩ := hexchanged.swap_grown hgrown
    exact ⟨t', .inl hgrown, other, hother, id, data, backup, newId, newData, hdescribes, hid, hgiven, rfl,
      hexchanged⟩
  · obtain rfl := (List.mem_singleton.mp hsame).symm
    obtain ⟨t', hexchanged₂, hexchanged⟩ := hexchanged.swap hexchanged₂ (hapart _ hitem).symm hplain
    exact ⟨t', .inr ⟨_, receipt, hsame, id₂, data₂, backup₂, newId₂, newData₂, hdescribes₂, hid₂, hgiven₂,
      rfl, hexchanged₂⟩, other, hother, id, data, backup, newId, newData, hdescribes, hid, hgiven, rfl,
        hexchanged⟩

/-- A backup stays while other files are replaced, and goes before them as after them. -/
theorem replaces_erase (hplain : Unscratched receipts) {backup : LocalPath} {node : Node}
    (hchanges : Changes (Replaces world receipts) m items m') (hscratch : IsScratch backup)
    (hnode : m backup = some node) :
    m' backup = some node ∧ Changes (Replaces world receipts)
      (Function.update m backup none) items (Function.update m' backup none) := by
  apply hchanges.frame (f := fun s => Function.update s backup none)
    (I := fun s => s backup = some node) hnode
  rintro _ - s t hs ⟨receipt, hreceipt, id, data, other, newId, newData, hdescribes, hid, hgiven, rfl,
    hexchanged⟩
  obtain ⟨hkept, herased⟩ := hexchanged.erase (hplain receipt hreceipt) hscratch (by rw [hs]; simp)
  exact ⟨hkept.trans hs, receipt, hreceipt, id, data, other, newId, newData, hdescribes, hid, hgiven, rfl,
    herased⟩

end Batch

namespace ExecutorWorld

variable {world : ExecutorWorld} {receipts : List FileReceiptRow} {m m' : LocalNodes} {store : RootStore}
  {completed : List CompletedStaleFileReplacement}

/-- A batch of replacements that is taken back after a failure. -/
theorem rollbackReplacements_fails (hdistinct : (completed.map (·.targetPath)).Nodup)
    (hchanges : Changes (Replaces world receipts) m completed m') (error : LocalExecutorError) :
    LocalTriple (Looks m' store) (world.rollbackStaleFileReplacementBatch completed)
      (fun _ => ReplacementsFail world receipts m store error) (ReplacementsFail world receipts m store) := by
  apply (undoAll_rule rollbackReplacement_undoes).mono
  · exact fun d hd => ⟨m', hchanges, hd⟩
  · exact fun _ d hd => .of_clean hd
  · rintro error d ⟨hleak, items, m'', hbegins, hitems, hd⟩
    have hnodup := hdistinct.sublist (hbegins.sublist.map _)
    exact .of_dirty hleak ⟨m'', ⟨m, items, .refl _ m, hnodup, hitems⟩, hd⟩

/-- **The loop**, by recursion on the receipts that are left: all of the files are replaced, or the batch is
    taken back. -/
theorem replaceStaleFileTargets_rule (hplain : Unscratched receipts) (targets : List ReceiveOnlyFileTarget)
    (rest : List FileReceiptRow) (completed : List CompletedStaleFileReplacement) (totalBytes : ℕ)
    (hrest : ∀ receipt ∈ rest, receipt ∈ receipts)
    (hdistinct : (completed.map (·.targetPath) ++ rest.map (·.path)).Nodup)
    (hchanges : Changes (Replaces world receipts) m completed m') :
    LocalTriple (Looks m' store) (world.replaceStaleFileTargets targets rest completed totalBytes)
      (fun result d => ∃ items, result.1 = completed ++ items ∧
        items.map (·.targetPath) = rest.map (·.path) ∧
        ∃ m'', Changes (Replaces world receipts) m (completed ++ items) m'' ∧ Looks m'' store d)
      (ReplacementsFail world receipts m store) := by
  induction rest generalizing completed totalBytes m' with
  | nil =>
      apply Triple.pure
      intro d hd
      exact ⟨[], by simp, rfl, m', by simpa using hchanges, hd⟩
  | cons receipt rest ih =>
      rw [List.map_cons, List.append_cons] at hdistinct
      have hcurrent := hdistinct.of_append_left
      obtain ⟨hcompleted, -, happart⟩ := List.nodup_append.mp hcurrent
      have hmember : ∀ other ∈ [receipt], other ∈ receipts := by
        simpa using hrest receipt List.mem_cons_self
      have hplainReceipt := hplain receipt (hrest receipt List.mem_cons_self)
      have hapart : ∀ item ∈ completed, item.targetPath ≠ receipt.path := fun item hitem =>
        happart _ (List.mem_map_of_mem hitem) _ (List.mem_singleton_self _)
      apply Triple.bind (Triple.orCleanUp (F := fun _ => Looks m' store) (Q := fun _ => Looks m' store) ?_
        fun error => rollbackReplacements_fails hcompleted hchanges error)
      swap
      · apply Triple.of_bind_pure
        apply Triple.present_bind
        · exact fun _ _ => .pure fun _ hd => hd
        · exact fun _ _ hd => hd
      intro target
      apply Triple.bind (Triple.orCleanUp (applySelectedRootStaleFileReplacement_rule hplainReceipt)
        fun error => undoAll_after rollbackReplacement_undoes
          (leavesReplacement_swap hplainReceipt hapart) hchanges ?_ error)
      swap
      · intro first items m'' d hfirst hbegins hitems hd
        have hnodup := hcompleted.sublist (hbegins.sublist.map _)
        rcases hfirst with rfl | hgrown | ⟨item, hitem⟩
        · exact ⟨m'', ⟨first, items, .refl _ _, hnodup, hitems⟩, hd⟩
        · exact ⟨m'', ⟨first, items, hgrown, hnodup, hitems⟩, hd⟩
        · refine ⟨m'', ⟨m, item :: items, .refl _ _, ?_, .cons (hitem.mono hmember) hitems⟩, hd⟩
          obtain ⟨_, hsame, id, data, backup, newId, newData, -, -, -, rfl, -⟩ := hitem
          obtain rfl := List.mem_singleton.mp hsame
          rw [List.map_cons, List.nodup_cons]
          refine ⟨fun hmem => ?_, hnodup⟩
          obtain ⟨other, hother, hpath⟩ := List.mem_map.mp hmem
          exact hapart other (hbegins.subset hother) hpath
      intro item
      apply Triple.exists
      intro m''
      apply Triple.fact
      intro hown
      have hitem := hown.mono hmember
      have htarget : item.targetPath = receipt.path := by
        obtain ⟨_, hsame, id, data, backup, newId, newData, -, -, -, rfl, -⟩ := hown
        rw [List.mem_singleton.mp hsame]
      have hnext : (completed ++ [item]).map (·.targetPath) =
          completed.map (·.targetPath) ++ [receipt.path] := by
        rw [List.map_append, List.map_singleton, htarget]
      rw [← hnext] at hdistinct hcurrent
      apply Triple.bind (Triple.orCleanUp (F := fun _ => Looks m'' store) (Q := fun _ => Looks m'' store) ?_
        fun error => ?_)
      · intro total
        apply (ih _ total (fun other hother => hrest other (List.mem_cons_of_mem _ hother)) hdistinct
          (hchanges.concat hitem)).mono (fun _ h => h)
        · rintro result d ⟨items, hresult, hpaths, m₂, hchanges₂, hd⟩
          refine ⟨item :: items, by rw [hresult, List.append_assoc, List.singleton_append], ?_, m₂, ?_, hd⟩
          · rw [List.map_cons, List.map_cons, hpaths, htarget]
          · rwa [List.append_assoc, List.singleton_append] at hchanges₂
        · exact fun _ _ h => h
      · apply Triple.of_bind_pure
        apply Triple.present_bind
        · exact fun _ _ => .pure fun _ hd => hd
        · exact fun _ _ hd => hd
      · have hundo := @rollbackReplacements_fails _ _ _ _ store _ hcurrent (hchanges.concat hitem) error
        simpa [undoAll, rollbackStaleFileReplacementBatch] using hundo

/-- **Removing the backups**, by recursion on the files: in the end the targets alone are others. -/
theorem cleanupStaleFileReplacementBackups_rule (hplain : Unscratched receipts)
    (items : List CompletedStaleFileReplacement) (cleaned : ℕ)
    (hchanges : Changes (Replaces world receipts) m items m') :
    LocalTriple (Looks m' store) (world.cleanupStaleFileReplacementBackups items cleaned)
      (fun count d => count = cleaned + items.length ∧ Looks (replaced m items) store d)
      (fun _ => ReplacedInPart world receipts items m store) := by
  induction items generalizing m m' cleaned with
  | nil =>
      rw [Changes.nil_iff] at hchanges
      subst hchanges
      exact .pure fun d hd => ⟨rfl, hd⟩
  | cons item rest ih =>
      obtain ⟨first,
        ⟨receipt, hreceipt, id, data, backup, newId, newData, -, -, -, rfl, hexchanged⟩, hrest⟩ :=
        Changes.cons_iff.mp hchanges
      obtain ⟨hstands, hafter⟩ := replaces_erase hplain hrest hexchanged.beside.isScratch
        hexchanged.at_backup
      rw [hexchanged.cleaned] at hafter
      have hpart : ∀ d, Looks m' store d → ReplacedInPart world receipts (_ :: rest) m store d :=
        fun d hd => .of_changes hchanges hd
      apply lookOrThrow_bind_of (A := fun node => node = .file id data)
      · exact fun d hd => ⟨_, hd.metadata.mpr hstands, rfl⟩
      · exact hpart
      rintro _ rfl
      apply Triple.check_bind
      swap
      · intro hrefused
        simp at hrefused
      intro _
      apply Triple.bind (removeAndSync_rule hstands fun d hd => ?_)
      · intro _
        apply (ih (cleaned + 1) hafter).mono (fun _ h => h)
        · rintro count d ⟨rfl, hd⟩
          refine ⟨?_, hd⟩
          rw [List.length_cons]
          omega
        · exact fun error d hd => hd.cons
      · rcases hd with hd | hd
        · exact hpart d hd
        · exact .cons (.of_changes hafter hd)

/-- **After the receipts are recorded** the backups go; whatever fails then, the new files stand. -/
theorem finishReplacement_rule (hplain : Unscratched receipts) {items : List CompletedStaleFileReplacement}
    (recorded currentReceiptsBefore : ℕ) (hchanges : Changes (Replaces world receipts) m items m') :
    LocalTriple (Looks m' store) (world.finishReplacement items recorded currentReceiptsBefore)
      (fun cleaned d => cleaned = items.length ∧ recorded = items.length ∧
        Looks (replaced m items) store d)
      (fun _ => ReplacedInPart world receipts items m store) := by
  have hpart : ∀ d, Looks m' store d → ReplacedInPart world receipts items m store d :=
    fun d hd => .of_changes hchanges hd
  have hdone : ∀ d, Looks (replaced m items) store d → ReplacedInPart world receipts items m store d :=
    fun d hd => ⟨items, [], _, by simp, .nil, hd⟩
  apply Triple.check_bind
  swap
  · exact fun _ => hpart
  intro hrecorded
  have hrecorded : recorded = items.length := by simpa using hrecorded
  apply Triple.present_bind
  swap
  · exact fun _ => hpart
  intro expectedCurrent _
  apply queryLooks_bind hpart (fun _ _ => hpart)
  intro currentReceiptsAfter _
  apply queryLooks_bind hpart (fun _ _ => hpart)
  intro staleReceiptsAfter _
  apply Triple.check_bind
  swap
  · exact fun _ => hpart
  intro _
  apply Triple.bind (cleanupStaleFileReplacementBackups_rule hplain items 0 hchanges)
  intro cleaned
  apply Triple.fact
  rintro rfl
  apply Triple.bind (readInputs_rule fun _ => hdone)
  intro read
  apply Triple.fact
  intro _
  apply ofSelectedRoot_bind
  swap
  · exact fun _ _ => hdone
  intro convergence _
  apply Triple.check_bind
  swap
  · exact fun _ => hdone
  intro _
  exact .pure fun d hd => ⟨Nat.zero_add _, hrecorded, hd⟩

end ExecutorWorld

/-! ## The executor -/

/-- A file that a stale receipt describes, of an item that is still there. -/
def IsReplaceable (world : ExecutorWorld) (store : RootStore) (path : LocalPath) (node : Node) : Prop :=
  ∃ receipts, store.listStaleFileReceipts = .ok receipts ∧ ∃ receipt ∈ receipts,
    remoteIdentityPresent store.listRemoteItems receipt = true ∧ path = receipt.path ∧
    ∃ id data, node = .file id data ∧ receipt.Describes world data

/-- What the provider vouches for, in the place of a stale file. -/
def IsReplacedBy (world : ExecutorWorld) (store : RootStore) (path : LocalPath) (node : Node) : Prop :=
  ∃ receipts, store.listStaleFileReceipts = .ok receipts ∧ ∃ receipt ∈ receipts,
    path = receipt.path ∧ ∃ id data, node = .file id data ∧ FromProvider world receipt.remoteId data

/-- The stale files that a replacement is about: all of them stand, and their items are there. -/
structure StaleFilesToReplace (world : ExecutorWorld) (m : LocalNodes) (store : RootStore)
    (read : RootInputs) (receipts : List FileReceiptRow) (plan : SelectedRootStaleFileBatchPlan) :
    Prop where
  planned : StaleFilesPlanned world m store read receipts plan
  admitted : admitReplacementReadiness plan = .ok ()

/-- A replacement has put what the provider vouches for in the place of a stale file. -/
def IsReplacement (world : ExecutorWorld) (receipts : List FileReceiptRow)
    (item : CompletedStaleFileReplacement) : Prop :=
  ∃ receipt ∈ receipts, ∃ newId newData, FromProvider world receipt.remoteId newData ∧
    item.targetPath = receipt.path ∧ item.promotedMetadata = .file newId newData ∧
    item.row = ⟨receipt.remoteId, receipt.relativePath, newData.content.length,
      world.sha256.sha256Hex newData.content⟩

/-- The stale files of a batch are replaced. -/
structure StaleFilesReplaced (world : ExecutorWorld) (m : LocalNodes) (store : RootStore)
    (receipts : List FileReceiptRow) (items : List CompletedStaleFileReplacement) : Prop where
  listed : store.listStaleFileReceipts = .ok receipts
  stood : ∀ receipt ∈ receipts, remoteIdentityPresent store.listRemoteItems receipt = true ∧
    receipt.StandsIn world m
  paths : items.map (·.targetPath) = receipts.map (·.path)
  distinct : (receipts.map (·.path)).Nodup
  items : ∀ item ∈ items, IsReplacement world receipts item

/-- A store after the replacement of stale files. -/
def RootStore.staleFilesReplaced (store : RootStore) (items : List CompletedStaleFileReplacement) :
    RootStore :=
  { store.invalidateLocalObservationBaseline.1 with
    catalog := store.catalog.withFiles (items.map CompletedStaleFileReplacement.row) }

section Replaced

variable {world : ExecutorWorld} {m m' : LocalNodes} {store : RootStore} {read : RootInputs}
  {receipts : List FileReceiptRow} {plan : SelectedRootStaleFileBatchPlan}
  {items : List CompletedStaleFileReplacement}

/-- **Every file of an admitted replacement stands as its receipt says, and its item is there.** -/
theorem StaleFilesToReplace.stood (h : StaleFilesToReplace world m store read receipts plan) :
    ∀ receipt ∈ receipts, remoteIdentityPresent store.listRemoteItems receipt = true ∧
      receipt.StandsIn world m := by
  have hadmitted := h.admitted
  simp only [admitReplacementReadiness, refuseIf_eq_ok, Bool.or_eq_false_iff,
    bne_eq_false_iff_eq] at hadmitted
  obtain ⟨⟨⟨⟨⟨⟨⟨⟨⟨⟨-, -⟩, -⟩, -⟩, hall⟩, hsafe⟩, -⟩, -⟩, -⟩, -⟩, -⟩ := hadmitted
  rw [hall, h.planned.safeToReplace, h.planned.total, List.countP_eq_length] at hsafe
  intro receipt hreceipt
  have hboth := hsafe receipt hreceipt
  rw [Bool.and_eq_true, h.planned.reads.remoteItems] at hboth
  exact ⟨hboth.1, isSafe_iff.mp hboth.2⟩

theorem isReplacement_of_changes (h : Changes (Replaces world receipts) m items m') :
    ∀ item ∈ items, IsReplacement world receipts item := by
  induction h with
  | nil => simp
  | concat _ hchange ih =>
      intro item hitem
      rcases List.mem_append.mp hitem with hitem | hitem
      · exact ih item hitem
      · obtain ⟨receipt, hreceipt, id, data, backup, newId, newData, -, -, hgiven, hitem', -⟩ := hchange
        rw [List.mem_singleton.mp hitem, hitem']
        exact ⟨receipt, hreceipt, newId, newData, hgiven, rfl, rfl, rfl⟩

theorem kept_of_replaces (h : Changes (Replaces world receipts) m items m') {path : LocalPath} {node : Node}
    (hpath : path ∉ items.map (·.targetPath)) (hnode : m path = some node) : m' path = some node := by
  apply h.keeps (I := fun s => s path = some node) hnode
  rintro _ hitem s t hs ⟨receipt, -, id, data, backup, newId, newData, -, -, -, rfl, hexchanged⟩
  rw [hexchanged.elsewhere, hs]
  · rintro rfl
    exact hpath (List.mem_map_of_mem hitem)
  · rintro rfl
    rw [hexchanged.free] at hs
    cases hs

/-- What stands elsewhere has stood there before files were replaced. -/
theorem before_of_replaces (h : Changes (Replaces world receipts) m items m') {path : LocalPath} {node : Node}
    (hnode : m' path = some node) (hpath : path ∉ items.map (·.targetPath)) (hplain : ¬ IsScratch path) :
    m path = some node := by
  rw [← hnode]
  symm
  apply h.keeps (I := fun s => s path = m path) rfl
  rintro _ hitem s t hs ⟨receipt, -, id, data, backup, newId, newData, -, -, -, rfl, hexchanged⟩
  rw [hexchanged.elsewhere, hs]
  · rintro rfl
    exact hpath (List.mem_map_of_mem hitem)
  · rintro rfl
    exact hplain hexchanged.beside.isScratch

theorem stands_of_replaces (h : Changes (Replaces world receipts) m items m')
    (hnodup : (items.map (·.targetPath)).Nodup) :
    ∀ item ∈ items, m' item.targetPath = some item.promotedMetadata := by
  induction items generalizing m with
  | nil => simp
  | cons first rest ih =>
      rw [List.map_cons, List.nodup_cons] at hnodup
      obtain ⟨s, hfirst, hrest⟩ := Changes.cons_iff.mp h
      intro item hitem
      rcases List.mem_cons.mp hitem with rfl | hitem
      · apply kept_of_replaces hrest hnodup.1
        obtain ⟨receipt, -, id, data, backup, newId, newData, -, -, -, rfl, hexchanged⟩ := hfirst
        exact hexchanged.at_target
      · exact ih hrest hnodup.2 item hitem

end Replaced

section Failing

variable (world : ExecutorWorld) (m : LocalNodes) (store : RootStore)

/-- What a failed replacement has left before its receipts were recorded. -/
abbrev ReplacementAborted : LocalExecutorError → LocalRoot → Prop := fun error d =>
  Looks m store d ∨ Looks m store.invalidateLocalObservationBaseline.1 d ∨
    leaksReplacement error = true ∧ ∃ read receipts plan m',
      StaleFilesToReplace world m store read receipts plan ∧ ReplacementsLeft world receipts m m' ∧
      Looks m' store.invalidateLocalObservationBaseline.1 d

/-- What a failed replacement has left after that. -/
abbrev ReplacementCutShort : LocalRoot → Prop := fun d => ∃ receipts items,
  StaleFilesReplaced world m store receipts items ∧
    ReplacedInPart world receipts items m (store.staleFilesReplaced items) d

end Failing

namespace ExecutorWorld

variable {world : ExecutorWorld} {m : LocalNodes} {store : RootStore}

/-- **The executor of stale files whose items have changed**: all of them are replaced and recorded, or
    none; only after the recording may backups be left. -/
theorem replaceStaleFiles_rule
    (hplain : ∀ receipts, store.listStaleFileReceipts = .ok receipts → Unscratched receipts) :
    LocalTriple (Looks m store) world.replaceStaleFiles
      (fun result d => ∃ receipts items, StaleFilesReplaced world m store receipts items ∧
        result.filesReplaced = receipts.length ∧ result.receiptsRecorded = receipts.length ∧
        result.replacementBackupsCleaned = receipts.length ∧
        Looks (replaced m items) (store.staleFilesReplaced items) d)
      (fun error d => ReplacementAborted world m store error d ∨ ReplacementCutShort world m store d) := by
  have hbefore : ∀ error d, Looks m store d →
      ReplacementAborted world m store error d ∨ ReplacementCutShort world m store d :=
    fun _ _ hd => .inl (.inl hd)
  apply Triple.bind (planStaleFiles_rule hbefore)
  rintro ⟨read, receipts, plan⟩
  apply Triple.fact
  intro (hplanned : StaleFilesPlanned world m store read receipts plan)
  apply ofSelectedRoot_bind
  swap
  · exact fun _ _ => hbefore _
  intro _ hadmitted
  have hreplace : StaleFilesToReplace world m store read receipts plan := ⟨hplanned, hadmitted⟩
  apply queryLooks_bind (hbefore _) (fun _ _ => hbefore _)
  intro currentReceiptsBefore _
  apply queryLooks_bind (hbefore _) (fun _ _ => hbefore _)
  intro listed hlisted
  rw [fromStorage_eq_ok] at hlisted
  obtain rfl := Except.ok.inj (hplanned.listed.symm.trans hlisted)
  apply Triple.check_bind
  swap
  · exact fun _ => hbefore _
  intro _
  apply Triple.bind (selectedRootMaterializationInputs_rule hbefore)
  rintro ⟨remoteItems, localEntries⟩
  apply Triple.fact
  intro _
  apply Triple.fact
  intro _
  apply ofSelectedRoot_bind
  swap
  · exact fun _ _ => hbefore _
  intro targets _
  apply Triple.bind (validatedSelectedRootPath_rule (hbefore _))
  intro _
  apply Triple.bind (invalidateBaseline_rule (hbefore _))
  intro _
  -- from here on the baseline is invalid
  have hplain := hplain receipts hlisted
  have hfails : ∀ error d,
      ReplacementsFail world receipts m store.invalidateLocalObservationBaseline.1 error d →
      ReplacementAborted world m store error d ∨ ReplacementCutShort world m store d := by
    rintro error d (hclean | ⟨hleak, m', hleft, hd⟩)
    · exact .inl (.inr (.inl hclean))
    · exact .inl (.inr (.inr ⟨hleak, read, receipts, plan, m', hreplace, hleft, hd⟩))
  apply Triple.bind ((replaceStaleFileTargets_rule hplain targets receipts [] 0 (fun _ h => h)
    hplanned.distinct .nil).mono (fun _ h => h) (fun _ _ h => h) hfails)
  rintro ⟨completed, totalBytes⟩
  apply Triple.exists
  intro items
  apply Triple.fact
  intro hitems
  obtain rfl : completed = items := hitems
  apply Triple.fact
  intro hpaths
  apply Triple.exists
  intro m'
  apply Triple.fact
  intro hchanges
  rw [List.nil_append] at hchanges
  have hdistinct : (completed.map (·.targetPath)).Nodup := by
    rw [hpaths]
    exact hplanned.distinct
  have hreplaced : StaleFilesReplaced world m store receipts completed :=
    ⟨hlisted, hreplace.stood, hpaths, hplanned.distinct, isReplacement_of_changes hchanges⟩
  have hlength : completed.length = receipts.length := by
    have := congrArg List.length hpaths
    rwa [List.length_map, List.length_map] at this
  apply currentUnixTimeMs_bind
  · exact fun d hd => hfails _ d (.of_dirty rfl ⟨m', ⟨m, completed, .refl _ m, hdistinct, hchanges⟩, hd⟩)
  apply Triple.bind (Triple.orCleanUp (F := fun _ => Looks m' store.invalidateLocalObservationBaseline.1)
    (Q := fun _ => Looks m' (store.staleFilesReplaced completed)) ?_ fun error =>
      (rollbackReplacements_fails hdistinct hchanges error).mono (fun _ h => h)
        (fun _ => hfails error) hfails)
  swap
  · apply Triple.of_bind_pure
    apply transact_bind (S := fun _ => Looks m' (store.staleFilesReplaced completed))
    · intro d store' recorded hd hrecorded
      rw [hd.store] at hrecorded
      obtain ⟨-, rfl, -⟩ := RootStore.recordFileMaterializations_eq_ok hrecorded
      refine ⟨hd.nodes, ?_⟩
      rw [RootStore.catalog_invalidateBaseline, RootStore.staleFilesReplaced]
    · exact fun _ hd => hd
    · exact fun _ _ hd _ => hd
    · exact fun _ => .pure fun _ h => h
  intro recorded
  -- and from here on the receipts are recorded
  apply Triple.bind ((finishReplacement_rule hplain recorded currentReceiptsBefore hchanges).mono
    (fun _ h => h) (fun _ _ h => h) fun error d hd => .inr ⟨receipts, completed, hreplaced, hd⟩)
  intro cleaned
  apply Triple.fact
  rintro rfl
  apply Triple.fact
  rintro rfl
  exact .pure fun d hd => ⟨receipts, completed, hreplaced, hlength, hlength, hlength, hd⟩

end ExecutorWorld

/-! ## What is lost -/

/-- A replacement that has failed before its receipts were recorded: the receipts are as they were, nothing
    is lost, and only after some errors something else may stand at a scratch name or in the place of a
    stale file. -/
def ReplacementUndone (world : ExecutorWorld) (m : LocalNodes) (store : RootStore)
    (error : LocalExecutorError) (d : LocalRoot) : Prop :=
  d.store.catalog = store.catalog ∧
    Aside (IsReplaceable world store) (fun path node => IsScratch path ∨ IsReplacedBy world store path node) m
      d.files.node? ∧
    (leaksReplacement error = true ∨ d.files.node? = m)

/-- A replacement that has failed after that: the new receipts are recorded and the new files stand, some of
    the old ones may still stand beside them, and no other file is touched. -/
def ReplacementHalted (world : ExecutorWorld) (m : LocalNodes) (store : RootStore) (d : LocalRoot) :
    Prop :=
  ∃ receipts items, StaleFilesReplaced world m store receipts items ∧
    d.store.catalog = store.catalog.withFiles (items.map CompletedStaleFileReplacement.row) ∧
    (∀ item ∈ items, d.files.node? item.targetPath = some item.promotedMetadata) ∧
    Withdrawn (IsReplaceable world store) (fun path node => MovedBeside (IsReplaceable world store) m path node ∨
      IsReplacedBy world store path node) m d.files.node?

section Lost

variable {world : ExecutorWorld} {m m' first : LocalNodes} {store : RootStore} {read : RootInputs}
  {receipts : List FileReceiptRow} {items : List CompletedStaleFileReplacement}

/-- While files are replaced nothing is lost, by recursion on the changes. -/
theorem aside_of_replaces {fresh : LocalPath → Node → Prop} (hplain : Unscratched receipts)
    (hlisted : store.listStaleFileReceipts = .ok receipts)
    (hpresent : ∀ receipt ∈ receipts, remoteIdentityPresent store.listRemoteItems receipt = true)
    (hnew : ∀ path node, IsReplacedBy world store path node → fresh path node)
    (hold : ∀ path ∈ items.map (·.targetPath), ∀ scratch node, Beside scratch path →
      IsReplaceable world store path node → m path = some node → fresh scratch node)
    (hdistinct : (items.map (·.targetPath)).Nodup) (hgrown : GrownAt IsScratch m first)
    (hfirst : Aside (IsReplaceable world store) fresh m first)
    (hchanges : Changes (Replaces world receipts) first items m') :
    Aside (IsReplaceable world store) fresh m m' := by
  have hplain' : ∀ path node, IsReplaceable world store path node → ¬ IsScratch path := by
    rintro _ _ ⟨listed, hlisted', receipt, hreceipt, -, rfl, -⟩
    obtain rfl := Except.ok.inj (hlisted.symm.trans hlisted')
    exact hplain receipt hreceipt
  induction items using List.reverseRecOn generalizing m' with
  | nil => rwa [Changes.nil_iff.mp hchanges]
  | append_singleton before item ih =>
      obtain ⟨s, hbefore, hitem⟩ := Changes.concat_iff.mp hchanges
      obtain ⟨receipt, hreceipt, id, data, backup, newId, newData, hdescribes, -, hgiven, rfl,
        hexchanged⟩ := hitem
      rw [List.map_append, List.nodup_append] at hdistinct
      obtain ⟨hnodup, -, happart⟩ := hdistinct
      have hs := ih (fun path hpath => hold path (by simp [hpath])) hnodup hbefore
      have hreplaceable : IsReplaceable world store receipt.path (.file id data) :=
        ⟨receipts, hlisted, receipt, hreceipt, hpresent receipt hreceipt, rfl, id, data, rfl, hdescribes⟩
      -- no other item is about this target, so what stands there has always stood there
      have hstood : m receipt.path = some (.file id data) := by
        have hnode : first receipt.path = some (.file id data) := by
          apply before_of_replaces hbefore hexchanged.stood
          · intro hmem
            exact happart _ hmem _ (List.mem_singleton_self _) rfl
          · exact hplain receipt hreceipt
        rcases hgrown receipt.path with hsame | ⟨-, hscratch⟩
        · rw [← hsame, hnode]
        · exact absurd hscratch (hplain receipt hreceipt)
      apply hs.step hplain' hreplaceable hstood hexchanged.free hexchanged.beside hexchanged.at_backup
      · exact fun path hpath hbackup => hexchanged.elsewhere hpath hbackup
      · intro found hfound
        obtain rfl := Option.some.inj (hexchanged.at_target.symm.trans hfound)
        exact hnew _ _ ⟨receipts, hlisted, receipt, hreceipt, rfl, newId, newData, rfl, hgiven⟩
      · exact hold _ (by simp) _ _ hexchanged.beside hreplaceable hstood

/-- **After the receipts are recorded nothing else is lost**: the new files stand, whether the old ones are
    gone or still beside them. -/
theorem halted_of_replacedInPart {d : LocalRoot} (hreplaced : StaleFilesReplaced world m store receipts items)
    (hplain : Unscratched receipts)
    (hpart : ReplacedInPart world receipts items m (store.staleFilesReplaced items) d) :
    d.store.catalog = store.catalog.withFiles (items.map CompletedStaleFileReplacement.row) ∧
      (∀ item ∈ items, d.files.node? item.targetPath = some item.promotedMetadata) ∧
      Withdrawn (IsReplaceable world store) (fun path node =>
        MovedBeside (IsReplaceable world store) m path node ∨ IsReplacedBy world store path node) m
        d.files.node? := by
  obtain ⟨done, left, m', rfl, hchanges, hd⟩ := hpart
  have hdistinct : ((done ++ left).map (·.targetPath)).Nodup := by
    rw [hreplaced.paths]
    exact hreplaced.distinct
  rw [List.map_append, List.nodup_append] at hdistinct
  obtain ⟨hdone, hleft, happart⟩ := hdistinct
  have hitems := hreplaced.items
  rw [hd.nodes]
  refine ⟨by rw [hd.store]; rfl, ?_, ?_⟩
  · intro item hitem
    rcases List.mem_append.mp hitem with hitem | hitem
    · apply kept_of_replaces hchanges
      · intro hmem
        exact happart _ (List.mem_map_of_mem hitem) _ hmem rfl
      · exact replaced_target hdone hitem
    · exact stands_of_replaces hchanges hleft item hitem
  · have hafter : Aside (IsReplaceable world store) (fun path node =>
        MovedBeside (IsReplaceable world store) m path node ∨ IsReplacedBy world store path node)
        (replaced m done) m' := by
      apply aside_of_replaces hplain hreplaced.listed (fun receipt hreceipt =>
        (hreplaced.stood receipt hreceipt).1) (fun _ _ => .inr) _ hleft (.refl _ _) (.refl _ _ _) hchanges
      -- what is replaced later stood before the first of the replacements
      intro path hpath scratch node hbeside hreplaceable hstood
      refine .inl ⟨path, hbeside, hreplaceable, ?_⟩
      rwa [replaced_elsewhere fun hmem => happart _ hmem _ hpath rfl] at hstood
    apply hafter.withdrawn.after
    · intro path node hnode
      by_cases hpath : path ∈ done.map (·.targetPath)
      · obtain ⟨item, hitem, rfl⟩ := List.mem_map.mp hpath
        obtain ⟨receipt, hreceipt, -, -, -, htarget, -⟩ := hitems item (List.mem_append_left _ hitem)
        obtain ⟨hpresent, id, data, hstands, hdescribes⟩ := hreplaced.stood receipt hreceipt
        rw [htarget, hstands] at hnode
        obtain rfl := Option.some.inj hnode
        exact .inr ⟨receipts, hreplaced.listed, receipt, hreceipt, hpresent, htarget, id, data, rfl,
          hdescribes⟩
      · exact .inl ((replaced_elsewhere hpath).trans hnode)
    · intro path node hnode
      by_cases hpath : path ∈ done.map (·.targetPath)
      · obtain ⟨item, hitem, rfl⟩ := List.mem_map.mp hpath
        obtain ⟨receipt, hreceipt, newId, newData, hgiven, htarget, hpromoted, -⟩ :=
          hitems item (List.mem_append_left _ hitem)
        rw [replaced_target hdone hitem, hpromoted] at hnode
        obtain rfl := Option.some.inj hnode
        exact .inr (.inr ⟨receipts, hreplaced.listed, receipt, hreceipt, htarget, newId, newData, rfl,
          hgiven⟩)
      · exact .inl ((replaced_elsewhere hpath).symm.trans hnode)

end Lost

/-- A replacement that is done: in the place of every file that a stale receipt describes stands what the
    provider vouches for, with its receipt. -/
def ReplacementDone (world : ExecutorWorld) (m : LocalNodes) (store : RootStore)
    (result : SelectedRootStaleFileBatchReplacement) (d : LocalRoot) : Prop :=
  ∃ receipts items, StaleFilesReplaced world m store receipts items ∧
    result.filesReplaced = receipts.length ∧ result.receiptsRecorded = receipts.length ∧
    (∀ path, path ∉ receipts.map (·.path) → d.files.node? path = m path) ∧
    (∀ item ∈ items, d.files.node? item.targetPath = some item.promotedMetadata) ∧
    d.store = store.staleFilesReplaced items

namespace ExecutorWorld

/-- **A replacement of stale files is all or nothing, and loses nothing else**, whichever calls fail and
    whatever the provider sends: in the place of every stale file stands what the provider vouches for, with
    its receipt, or no receipt has changed and every file is where it was or beside it, or all receipts are
    recorded and some of the old files are still beside the new ones. A file that no stale receipt describes
    is never touched. -/
theorem replaceStaleFiles_atomic (world : ExecutorWorld) (m : LocalNodes) (store : RootStore)
    (hplain : ∀ receipts, store.listStaleFileReceipts = .ok receipts → Unscratched receipts) :
    LocalTriple (Looks m store) world.replaceStaleFiles (ReplacementDone world m store)
      (fun error d => ReplacementUndone world m store error d ∨ ReplacementHalted world m store d) := by
  have hcatalog := store.catalog_invalidateBaseline
  apply (replaceStaleFiles_rule hplain).mono
  · exact fun _ h => h
  · rintro result d ⟨receipts, items, hreplaced, hfiles, hrecorded, -, hd⟩
    refine ⟨receipts, items, hreplaced, hfiles, hrecorded, fun path hpath => ?_,
      fun item hitem => ?_, hd.store⟩
    · rw [hd.nodes, replaced_elsewhere (hreplaced.paths ▸ hpath)]
    · rw [hd.nodes, replaced_target (hreplaced.paths ▸ hreplaced.distinct) hitem]
  · rintro error d ((hd | hd | ⟨hleak, read, receipts, plan, m', hreplace, ⟨first, items, hfirst, hdistinct,
      hchanges⟩, hd⟩) | ⟨receipts, items, hreplaced, hpart⟩)
    · exact .inl ⟨by rw [hd.store], hd.nodes ▸ .refl _ _ _, .inr hd.nodes⟩
    · exact .inl ⟨by rw [hd.store, hcatalog], hd.nodes ▸ .refl _ _ _, .inr hd.nodes⟩
    · refine .inl ⟨by rw [hd.store, hcatalog], ?_, .inl hleak⟩
      rw [hd.nodes]
      have hlisted := hreplace.planned.listed
      exact aside_of_replaces (hplain receipts hlisted) hlisted (fun receipt hreceipt =>
        (hreplace.stood receipt hreceipt).1) (fun _ _ => .inr)
        (fun _ _ _ _ hbeside _ _ => .inl hbeside.isScratch) hdistinct hfirst
        (.of_grown hfirst fun _ _ => .inl) hchanges
    · exact .inr ⟨receipts, items, hreplaced,
        halted_of_replacedInPart hreplaced (hplain receipts hreplaced.listed) hpart⟩

/-- An empty file whose item has changed is replaced, with a new receipt. -/
theorem replaceStaleFiles_atomic_empty_file :
    ∃ result after, emptyFileWorld.replaceStaleFiles
        (startOn emptyFileTree (emptyFileStore changedFileItems)) = .ok result after ∧
      result.filesReplaced = 1 ∧
      ReplacementDone emptyFileWorld emptyFileTree.node? (emptyFileStore changedFileItems) result
        after.disk := by
  have hrun : ∃ result after, emptyFileWorld.replaceStaleFiles
      (startOn emptyFileTree (emptyFileStore changedFileItems)) = .ok result after ∧
        result.filesReplaced = 1 := by decide +kernel
  obtain ⟨result, after, hresult, hreplaced⟩ := hrun
  have hdone := (replaceStaleFiles_atomic _ emptyFileTree.node? _ fun _ hlisted =>
    unscratched_emptyFileStore changedFileItems hlisted).of_ok ⟨rfl, rfl⟩ hresult
  exact ⟨result, after, hresult, hreplaced, hdone⟩

end ExecutorWorld

end NubiSync
