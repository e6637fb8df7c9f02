import NubiSync.Daemon.SetAside
import NubiSync.Daemon.StaleFiles
import NubiSync.Storage.ReceiptEffects

set_option autoImplicit false

/-! # Deleting stale files

A stale file whose item is gone is hashed, renamed to a scratch name beside it, and hashed again there.
When all of them are set aside their receipts are deleted in one transaction, and only then the files; a
failure before that takes all of them back. -/

namespace NubiSync

open Checks Methods FileTrees

structure QuarantinedStaleFileDeletion where
  remoteId : Text
  targetPath : LocalPath
  quarantinePath : LocalPath
  metadataBefore : Node
  bytesVerified : ℕ
  sha256Hex : Text

structure SelectedRootStaleFileBatchDeletion where
  plannedDeletionActions : ℕ
  batchActionLimit : ℕ
  filesDeleted : ℕ
  bytesVerified : ℕ
  staleBaselinesVerified : ℕ
  receiptsDeleted : ℕ
  quarantineRenames : ℕ
  quarantineFilesRemoved : ℕ
  deriving DecidableEq, Repr

/-- The readiness checks of `delete_selected_root_stale_files`. -/
def admitDeletionReadiness (readiness : SelectedRootStaleFileBatchPlan) :
    Except SelectedRootExecutorError Unit :=
  refuseIf (readiness.staleReceiptsTotal == 0
    || decide (readiness.staleReceiptsTotal > supervisedStaleFilePlanMaxActions)
    || readiness.replacementCandidates != 0
    || readiness.safeToReplace != 0
    || readiness.deletionCandidates != readiness.staleReceiptsTotal
    || readiness.safeToDelete != readiness.deletionCandidates
    || readiness.localConflicts != 0
    || readiness.filesMissing != 0
    || readiness.typeConflicts != 0
    || readiness.convergenceReplacementActions != 0
    || readiness.convergenceDeletionActions != readiness.deletionCandidates)
    .remoteDeletionBatchNotReady

namespace ExecutorWorld

variable (world : ExecutorWorld)

def rollbackDeletionQuarantine (quarantinePath targetPath : LocalPath) : LocalMethod Unit :=
  world.moveBack .localFileDeletionRollbackFailed quarantinePath targetPath

/-- `quarantine_verified_stale_local_file`, from the rename on. -/
def quarantineStaleFile (receipt : FileReceiptRow) (targetPath quarantinePath : LocalPath)
    (metadataAfter : Node) : LocalMethod Unit := do
  let rollback := world.rollbackDeletionQuarantine quarantinePath targetPath
  orThrow (world.call fun _ files => files.rename targetPath quarantinePath)
    .localFileDeletionRenameFailed
  let quarantineMeta ← onError (world.look (·.metadata quarantinePath)) fun _ => do
    rollback
    throw .remoteDeletionTargetRace
  refuseAfter (!sameLocalFileIdentity metadataAfter quarantineMeta) rollback .remoteDeletionTargetRace
  let (quarantineBytes, quarantineSha256) ←
    orCleanUp (world.hashLocalFile quarantinePath supervisedFileDownloadMaxBytes) rollback
  let quarantineAfterHash ← onError (world.look (·.metadata quarantinePath)) fun _ => do
    rollback
    throw .remoteDeletionTargetRace
  refuseAfter (!sameLocalFileState quarantineMeta quarantineAfterHash
    || quarantineBytes != receipt.sizeBytes
    || quarantineSha256 != receipt.sha256Hex) rollback .remoteDeletionLocalConflict
  -- when the directory cannot be synced, the file stays where it is
  world.syncDirectory targetPath.dropLast .localFileSyncFailed
  match ← world.look (·.metadata targetPath) with
  | .error .notFound => pure ()
  | _ => do
      rollback
      throw .localFileDeletionPostconditionFailed

def quarantineVerifiedStaleLocalFile (receipt : FileReceiptRow) :
    LocalMethod QuarantinedStaleFileDeletion := do
  match ← world.inspectReceiptTarget receipt with
  | .missing | .conflict => throw .remoteDeletionNotReady
  | .file targetPath observedSize => do
      ofExcept (refuseIf (observedSize != receipt.sizeBytes) .remoteDeletionLocalConflict)
      ofExcept (refuseIf (decide (receipt.sizeBytes > supervisedFileDownloadMaxBytes))
        (.selectedRoot .localFileTooLarge))
      let (metadataBefore, metadataAfter, bytes, sha256Hex) ←
        world.verifyStaleFile targetPath receipt .remoteDeletionLocalConflict .remoteDeletionTargetRace
      let quarantinePath ← world.uniqueScratchPath .delete .localFileDeletionQuarantineUnavailable
        targetPath.dropLast
      world.quarantineStaleFile receipt targetPath quarantinePath metadataAfter
      pure ⟨receipt.remoteId, targetPath, quarantinePath, metadataBefore, bytes, sha256Hex⟩

/-- The check of a quarantined file before it is taken back or deleted. -/
def verifyQuarantinedFile (item : QuarantinedStaleFileDeletion) (error : LocalExecutorError) :
    LocalMethod Unit :=
  world.requireUnchangedFile item.quarantinePath item.metadataBefore item.bytesVerified item.sha256Hex error

def rollbackQuarantinedStaleFile (item : QuarantinedStaleFileDeletion) : LocalMethod Unit := do
  world.verifyQuarantinedFile item .localFileDeletionRollbackFailed
  world.rollbackDeletionQuarantine item.quarantinePath item.targetPath

def rollbackStaleFileDeletionBatch (quarantined : List QuarantinedStaleFileDeletion) :
    LocalMethod Unit :=
  undoAll world.rollbackQuarantinedStaleFile quarantined

/-- `cleanup_stale_file_deletion_quarantines`, with the number of files that are removed already. -/
def cleanupStaleFileDeletionQuarantines :
    List QuarantinedStaleFileDeletion → ℕ → LocalMethod ℕ
  | [], removed => pure removed
  | item :: rest, removed => do
      world.verifyQuarantinedFile item .localFileDeletionBatchCleanupFailed
      orThrow (world.call fun _ files => files.removeFile item.quarantinePath)
        .localFileDeletionBatchCleanupFailed
      world.syncDirectory item.quarantinePath.dropLast .localFileDeletionBatchCleanupFailed
      cleanupStaleFileDeletionQuarantines rest (removed + 1)

/-- The loop of `delete_selected_root_stale_files`. -/
def quarantineStaleFiles : List FileReceiptRow → List QuarantinedStaleFileDeletion → ℕ →
    LocalMethod (List QuarantinedStaleFileDeletion × ℕ)
  | [], quarantined, totalBytes => pure (quarantined, totalBytes)
  | receipt :: rest, quarantined, totalBytes => do
      let outcome ← orCleanUp (world.quarantineVerifiedStaleLocalFile receipt)
        (world.rollbackStaleFileDeletionBatch quarantined)
      let totalBytes ← orCleanUp (ofExcept (orRefuse (checkedAddU64 totalBytes outcome.bytesVerified)
        (.selectedRoot .countOverflow))) do
          world.rollbackQuarantinedStaleFile outcome
          world.rollbackStaleFileDeletionBatch quarantined
      quarantineStaleFiles rest (quarantined ++ [outcome]) totalBytes

/-- The end of `delete_selected_root_stale_files`, once the receipts are deleted: the number of files that
    are removed. -/
def removeQuarantinedFiles (quarantined : List QuarantinedStaleFileDeletion) (deletedReceipts : ℕ) :
    LocalMethod ℕ := do
  ofExcept (refuseIf (deletedReceipts != quarantined.length) .localFileDeletionBatchPostconditionFailed)
  let left ← world.query fun store => .ok store.staleMaterializationReceiptCount
  ofExcept (refuseIf (left != 0) .localFileDeletionBatchPostconditionFailed)
  let removed ← world.cleanupStaleFileDeletionQuarantines quarantined 0
  let inputs ← world.readInputs
  let convergence ← ofSelectedRoot (planRootConvergence inputs)
  ofExcept (refuseIf (!nothingLeftToDo convergence) .localFileDeletionBatchPostconditionFailed)
  pure removed

/-- `delete_selected_root_stale_files`. -/
def deleteStaleFiles : LocalMethod SelectedRootStaleFileBatchDeletion := do
  let (_, _, readiness) ← world.planStaleFiles
  ofSelectedRoot (admitDeletionReadiness readiness)
  let staleReceipts ← world.query fun store => fromStorage store.listStaleFileReceipts
  ofExcept (refuseIf (staleReceipts.length != readiness.staleReceiptsTotal)
    .remoteDeletionPlanStaleReceiptCountMismatch)
  let remoteItems ← world.query fun store => .ok store.listRemoteItems
  ofExcept (refuseIf (staleReceipts.any (remoteIdentityPresent remoteItems))
    (.selectedRoot .remoteDeletionBatchNotReady))
  world.validatedSelectedRootPath
  world.invalidateBaseline
  let (quarantined, totalBytes) ← world.quarantineStaleFiles staleReceipts [] 0
  let deletedReceipts ← orCleanUp
    (world.transact (·.deleteStaleFileReceipts (quarantined.map (·.remoteId))))
    (world.rollbackStaleFileDeletionBatch quarantined)
  let removed ← world.removeQuarantinedFiles quarantined deletedReceipts
  pure ⟨readiness.deletionCandidates, supervisedStaleFilePlanMaxActions, quarantined.length, totalBytes,
    quarantined.length, deletedReceipts, quarantined.length, removed⟩

end ExecutorWorld

/-! ## One file -/

/-- The errors after which a file that was set aside may stay there. -/
def leaksQuarantine (error : LocalExecutorError) : Bool :=
  error == .localFileSyncFailed || error == .localFileDeletionRollbackFailed

/-- A file that a stale receipt describes is set aside. -/
def Quarantines (world : ExecutorWorld) (receipts : List FileReceiptRow)
    (item : QuarantinedStaleFileDeletion) (m m' : LocalNodes) : Prop :=
  ∃ receipt ∈ receipts, ∃ id data quarantine, receipt.Describes world data ∧
    item = ⟨receipt.remoteId, receipt.path, quarantine, .file id data, receipt.sizeBytes,
      receipt.sha256Hex⟩ ∧ MovedAside receipt.path quarantine (.file id data) m m'

theorem Quarantines.mono {world : ExecutorWorld} {receipts receipts' : List FileReceiptRow}
    {item : QuarantinedStaleFileDeletion} {m m' : LocalNodes} (h : Quarantines world receipts item m m')
    (hsub : ∀ receipt ∈ receipts, receipt ∈ receipts') : Quarantines world receipts' item m m' := by
  obtain ⟨receipt, hreceipt, hitem⟩ := h
  exact ⟨receipt, hsub receipt hreceipt, hitem⟩

theorem quarantines_commute {world : ExecutorWorld} {receipts : List FileReceiptRow}
    (hplain : Unscratched receipts) : Commute (Quarantines world receipts) := by
  rintro _ _ m m' m'' ⟨receipt, hreceipt, id, data, quarantine, hdescribes, rfl, hmoved⟩
    ⟨receipt₂, hreceipt₂, id₂, data₂, quarantine₂, hdescribes₂, rfl, hmoved₂⟩
  obtain ⟨t, ht₂, ht⟩ := hmoved.swap hmoved₂ (hplain receipt hreceipt) (hplain receipt₂ hreceipt₂)
  exact ⟨t, ⟨receipt₂, hreceipt₂, id₂, data₂, quarantine₂, hdescribes₂, rfl, ht₂⟩,
    receipt, hreceipt, id, data, quarantine, hdescribes, rfl, ht⟩

section Batch

variable {world : ExecutorWorld} {m m' : LocalNodes} {store : RootStore} {receipt : FileReceiptRow}
  {receipts : List FileReceiptRow} {quarantine : LocalPath} {id : FileId} {data : FileData}

/-- A failed batch left everything as it was, or some of its files aside. -/
abbrev QuarantinesFail (world : ExecutorWorld) (receipts : List FileReceiptRow)
    (m : LocalNodes) (store : RootStore) : LocalExecutorError → LocalRoot → Prop :=
  ChangesFail (Quarantines world receipts) (leaksQuarantine · = true) m store

/-- The removal was cut short: of the files that were aside, the first are gone. -/
def RemovedInPart (world : ExecutorWorld) (receipts : List FileReceiptRow)
    (items : List QuarantinedStaleFileDeletion) (m : LocalNodes) (store : RootStore) (d : LocalRoot) :
    Prop :=
  ∃ gone left m', items = gone ++ left ∧
    Changes (Quarantines world receipts) (without m (gone.map (·.targetPath))) left m' ∧ Looks m' store d

theorem RemovedInPart.of_changes {items : List QuarantinedStaleFileDeletion} {d : LocalRoot}
    (hchanges : Changes (Quarantines world receipts) m items m') (hd : Looks m' store d) :
    RemovedInPart world receipts items m store d :=
  ⟨[], items, m', rfl, hchanges, hd⟩

theorem RemovedInPart.cons {item : QuarantinedStaleFileDeletion}
    {items : List QuarantinedStaleFileDeletion} {d : LocalRoot}
    (h : RemovedInPart world receipts items (Function.update m item.targetPath none) store d) :
    RemovedInPart world receipts (item :: items) m store d := by
  obtain ⟨gone, left, m', rfl, hchanges, hd⟩ := h
  exact ⟨item :: gone, left, m', rfl, hchanges, hd⟩

end Batch

namespace ExecutorWorld

variable {world : ExecutorWorld} {m m' : LocalNodes} {store : RootStore}
  {receipt : FileReceiptRow} {receipts : List FileReceiptRow} {target quarantine : LocalPath}
  {id : FileId} {data : FileData}

/-- A file that was set aside is taken back at the end of a method. -/
theorem rollbackDeletionQuarantine_fails (hmoved : MovedAside target quarantine (.file id data) m m')
    (error : LocalExecutorError) :
    LocalTriple (Looks m' store) (world.rollbackDeletionQuarantine quarantine target)
      (fun _ => Fails (Looks m store) (leaksQuarantine · = true) (Looks m' store) error)
      (Fails (Looks m store) (leaksQuarantine · = true) (Looks m' store)) := by
  apply Triple.mono (moveBack_rule hmoved (E := Fails (Looks m store) (leaksQuarantine · = true)
    (Looks m' store)) fun d hd => ?_) (fun _ h => h) (fun _ d hd => .of_clean hd) fun _ _ h => h
  rcases hd with hd | hd
  · exact .of_clean hd
  · exact .of_dirty rfl hd

theorem rollbackDeletionQuarantine_throws (hmoved : MovedAside target quarantine (.file id data) m m')
    {α : Type} (error : LocalExecutorError) {Q : α → LocalRoot → Prop} :
    LocalTriple (Looks m' store)
      (do world.rollbackDeletionQuarantine quarantine target; throw error) Q
      (Fails (Looks m store) (leaksQuarantine · = true) (Looks m' store)) :=
  Triple.bind (rollbackDeletionQuarantine_fails hmoved error) fun _ => .throw fun _ h => h

/-- **Setting a stale file aside**: it is aside, or where it was, or the error says that it may be aside. -/
theorem quarantineStaleFile_rule (hmoved : MovedAside target quarantine (.file id data) m m')
    (hdescribes : receipt.Describes world data) :
    LocalTriple (Looks m store) (world.quarantineStaleFile receipt target quarantine (.file id data))
      (fun _ => Looks m' store) (Fails (Looks m store) (leaksQuarantine · = true) (Looks m' store)) := by
  obtain ⟨hsize, hdigest, -⟩ := hdescribes
  apply callOrThrow_bind (S := fun _ => Looks m' store)
  · intro d now hd
    obtain ⟨files, hrename, hafter⟩ := hmoved.rename hd
    exact ⟨files, (), hrename, hafter⟩
  · exact fun d hd => .of_clean hd
  intro _
  apply lookOnError_bind
  · exact fun d hd => hd.metadata.mpr hmoved.at_quarantine
  · exact rollbackDeletionQuarantine_throws hmoved _
  apply Triple.refuseAfter_bind
  swap
  · intro hrefused
    simp at hrefused
  intro _
  apply Triple.bind (Triple.orCleanUp (hashLocalFile_rule (E := fun _ => Looks m' store)
    (fun d hd => ⟨id, data.modified, (hd.node? quarantine).trans hmoved.at_quarantine⟩)
    (by decide) fun _ hd => hd) fun error => rollbackDeletionQuarantine_fails hmoved error)
  rintro ⟨quarantineBytes, quarantineSha256⟩
  apply Triple.fact
  intro hhashed
  obtain ⟨rfl, rfl⟩ := Prod.mk.inj hhashed
  apply Triple.fact
  intro _
  apply lookOnError_bind
  · exact fun d hd => hd.metadata.mpr hmoved.at_quarantine
  · exact rollbackDeletionQuarantine_throws hmoved _
  apply Triple.refuseAfter_bind
  swap
  · intro hrefused
    simp [hsize, hdigest] at hrefused
  intro _
  apply Triple.bind (syncDirectory_rule fun d hd => .of_dirty rfl hd)
  intro _
  apply metadata_bind
  · intro node hnode
    rw [hmoved.at_target] at hnode
    cases hnode
  · exact fun _ => .pure fun _ hd => hd
  · intro error hne
    cases error with
    | notFound => exact absurd rfl hne
    | alreadyExists => exact rollbackDeletionQuarantine_throws hmoved _
    | other => exact rollbackDeletionQuarantine_throws hmoved _

/-- **One stale file**: it is verified and set aside, or left where it is, or the error says that it may
    be aside. -/
theorem quarantineVerifiedStaleLocalFile_rule :
    LocalTriple (Looks m store) (world.quarantineVerifiedStaleLocalFile receipt)
      (fun item d => ∃ m', Quarantines world [receipt] item m m' ∧ Looks m' store d)
      (ChangeFails (Quarantines world [receipt]) (leaksQuarantine · = true) m store) := by
  apply of_files
  intro files hfiles
  have hE : ∀ error d, Looks m store d →
      ChangeFails (Quarantines world [receipt]) (leaksQuarantine · = true) m store error d :=
    fun _ _ hd => .of_clean hd
  apply Triple.bind (inspectReceiptTarget_rule hE)
  rintro (_ | _ | ⟨targetPath, observedSize⟩)
  · exact .fact fun _ => .throw (hE _)
  · exact .fact fun _ => .throw (hE _)
  apply Triple.fact
  rintro ⟨rfl, id, data, hnode, rfl⟩
  apply Triple.check_bind
  swap
  · exact fun _ => hE _
  intro _
  apply Triple.check_bind
  swap
  · exact fun _ => hE _
  intro _
  apply Triple.bind (verifyStaleFile_rule hnode hE)
  intro verified
  apply Triple.fact
  rintro rfl
  apply Triple.fact
  intro hdescribes
  apply Triple.bind (uniqueScratchPath_rule (hE _) (hE _))
  intro quarantine
  apply Triple.fact
  rintro ⟨n, hname⟩
  apply Triple.fact
  intro hfree
  have hmoved := MovedAside.of_free hfiles (ne_nil_of_file hfiles hnode) hnode
    (childless_of_file hfiles hnode) hfree ⟨_, _, _, hname⟩
  have hitem : Quarantines world [receipt] ⟨receipt.remoteId, receipt.path, quarantine, .file id data,
      receipt.sizeBytes, receipt.sha256Hex⟩ m _ :=
    ⟨receipt, List.mem_singleton_self _, id, data, quarantine, hdescribes, rfl, hmoved⟩
  apply Triple.bind ((quarantineStaleFile_rule hmoved hdescribes).mono
    (fun _ h => h) (fun _ _ h => h) fun error d hd => ?_)
  · intro _
    exact .pure fun d hd => ⟨_, hitem, hd⟩
  · exact hd.mono (fun h => h) (fun h => h) fun h => ⟨_, _, hitem, h⟩

/-! ## The batch -/

theorem verifyQuarantinedFile_rule {remoteId : Text} {error : LocalExecutorError}
    {E : LocalExecutorError → LocalRoot → Prop} (hfile : m quarantine = some (.file id data))
    (hdescribes : receipt.Describes world data) (hE : ∀ d, Looks m store d → E error d) :
    LocalTriple (Looks m store) (world.verifyQuarantinedFile ⟨remoteId, target, quarantine, .file id data,
      receipt.sizeBytes, receipt.sha256Hex⟩ error) (fun _ => Looks m store) E := by
  obtain ⟨hsize, hdigest, -⟩ := hdescribes
  unfold verifyQuarantinedFile
  rw [← hsize, ← hdigest]
  exact requireUnchangedFile_rule hfile hE

theorem rollbackQuarantinedStaleFile_undoes :
    Undoes (Quarantines world receipts) world.rollbackQuarantinedStaleFile (leaksQuarantine · = true) := by
  rintro _ m m' store ⟨receipt, -, id, data, quarantine, hdescribes, rfl, hmoved⟩
  apply Triple.bind (verifyQuarantinedFile_rule hmoved.at_quarantine hdescribes fun d hd => ⟨rfl, .inr hd⟩)
  intro _
  exact moveBack_rule hmoved fun d hd => ⟨rfl, hd⟩

/-- **The loop**, by recursion on the receipts that are left: all of the files are aside, or the batch is
    taken back. -/
theorem quarantineStaleFiles_rule (hplain : Unscratched receipts) (rest : List FileReceiptRow)
    (completed : List QuarantinedStaleFileDeletion) (totalBytes : ℕ)
    (hrest : ∀ receipt ∈ rest, receipt ∈ receipts)
    (hchanges : Changes (Quarantines world receipts) m completed m') :
    LocalTriple (Looks m' store) (world.quarantineStaleFiles rest completed totalBytes)
      (fun result d => ∃ items, result.1 = completed ++ items ∧
        items.map (·.remoteId) = rest.map (·.remoteId) ∧ items.map (·.targetPath) = rest.map (·.path) ∧
        ∃ m'', Changes (Quarantines world receipts) m (completed ++ items) m'' ∧ Looks m'' store d)
      (QuarantinesFail world receipts m store) := by
  induction rest generalizing completed totalBytes m' with
  | nil =>
      apply Triple.pure
      intro d hd
      exact ⟨[], by simp, rfl, rfl, m', by simpa using hchanges, hd⟩
  | cons receipt rest ih =>
      have hmember : ∀ other ∈ [receipt], other ∈ receipts := by
        simpa using hrest receipt List.mem_cons_self
      apply Triple.bind (Triple.orCleanUp (quarantineVerifiedStaleLocalFile_rule.mono
        (fun _ h => h) (fun _ _ h => h) fun error d hd => hd.mono (fun h => h) (fun h => h)
          fun ⟨item, m'', hitem, hd⟩ => ⟨item, m'', hitem.mono hmember, hd⟩) fun error =>
        undoAll_after_item rollbackQuarantinedStaleFile_undoes (quarantines_commute hplain) hchanges error)
      intro item
      apply Triple.exists
      intro m''
      apply Triple.fact
      intro hown
      have hitem := hown.mono hmember
      obtain ⟨_, hsame, id, data, quarantine, -, rfl, -⟩ := hown
      obtain rfl := (List.mem_singleton.mp hsame).symm
      have hundo : ∀ error, LocalTriple (Looks m'' store)
          (undoAll world.rollbackQuarantinedStaleFile (completed ++ [_]))
          (fun _ => QuarantinesFail world receipts m store error) (QuarantinesFail world receipts m store) :=
        undoAll_fails rollbackQuarantinedStaleFile_undoes (hchanges.concat hitem)
      apply Triple.bind (Triple.orCleanUp (F := fun _ => Looks m'' store) (Q := fun _ => Looks m'' store) ?_
        fun error => by simpa [undoAll, rollbackStaleFileDeletionBatch] using hundo error)
      · intro total
        apply (ih _ _ (fun other hother => hrest other (List.mem_cons_of_mem _ hother))
          (hchanges.concat hitem)).mono
        · exact fun _ h => h
        · rintro result d ⟨items, hresult, hids, hpaths, m₂, hchanges₂, hd⟩
          refine ⟨_ :: items, by rw [hresult, List.append_assoc, List.singleton_append], ?_, ?_, m₂, ?_, hd⟩
          · rw [List.map_cons, List.map_cons, hids]
          · rw [List.map_cons, List.map_cons, hpaths]
          · rwa [List.append_assoc, List.singleton_append] at hchanges₂
        · exact fun _ _ h => h
      · apply Triple.of_bind_pure
        exact .present_bind (fun _ _ => .pure fun _ hd => hd) fun _ _ hd => hd

/-! ## Removing what is aside -/

/-- A file that is aside stays there while others are set aside, and its scratch name goes before them as
    after them. -/
theorem quarantines_erase (hplain : Unscratched receipts) {items : List QuarantinedStaleFileDeletion}
    (hchanges : Changes (Quarantines world receipts) m items m') (hscratch : IsScratch quarantine)
    {node : Node} (hnode : m quarantine = some node) :
    m' quarantine = some node ∧ Changes (Quarantines world receipts)
      (Function.update m quarantine none) items (Function.update m' quarantine none) := by
  apply hchanges.frame (f := fun s => Function.update s quarantine none)
    (I := fun s => s quarantine = some node) hnode
  rintro _ - s t hs ⟨receipt, hreceipt, id, data, other, hdescribes, rfl, hmoved⟩
  obtain ⟨hkept, herased⟩ := hmoved.erase (hplain receipt hreceipt) hscratch (by rw [hs]; simp)
  exact ⟨hkept.trans hs, receipt, hreceipt, id, data, other, hdescribes, rfl, herased⟩

/-- **Removing what is aside**, by recursion on the files: in the end the targets are missing, and nothing
    else. -/
theorem cleanupStaleFileDeletionQuarantines_rule (hplain : Unscratched receipts)
    (items : List QuarantinedStaleFileDeletion) (removed : ℕ)
    (hchanges : Changes (Quarantines world receipts) m items m') :
    LocalTriple (Looks m' store) (world.cleanupStaleFileDeletionQuarantines items removed)
      (fun count d => count = removed + items.length ∧
        Looks (without m (items.map (·.targetPath))) store d)
      (fun _ => RemovedInPart world receipts items m store) := by
  induction items generalizing m m' removed with
  | nil =>
      rw [Changes.nil_iff] at hchanges
      subst hchanges
      exact .pure fun d hd => ⟨rfl, hd⟩
  | cons item rest ih =>
      obtain ⟨first, ⟨receipt, hreceipt, id, data, quarantine, hdescribes, rfl, hmoved⟩, hrest⟩ :=
        Changes.cons_iff.mp hchanges
      obtain ⟨hstands, hafter⟩ := quarantines_erase hplain hrest hmoved.beside.isScratch
        hmoved.at_quarantine
      rw [hmoved.erased] at hafter
      have hpart : ∀ d, Looks m' store d → RemovedInPart world receipts (_ :: rest) m store d :=
        fun d hd => .of_changes hchanges hd
      apply Triple.bind (verifyQuarantinedFile_rule hstands hdescribes hpart)
      intro _
      apply callOrThrow_bind (S := fun _ => Looks (Function.update m' quarantine none) store)
      · intro d now hd
        obtain ⟨after, hremove, hremoved⟩ := FileTree.removeFile_of_file ((hd.node? quarantine).trans hstands)
        exact ⟨after, (), hremove, by rw [hremoved, hd.nodes], hd.store⟩
      · exact hpart
      intro _
      apply Triple.bind (syncDirectory_rule fun d hd => .cons (.of_changes hafter hd))
      intro _
      apply (ih (removed + 1) hafter).mono (fun _ h => h)
      · rintro count d ⟨rfl, hd⟩
        refine ⟨?_, hd⟩
        rw [List.length_cons]
        omega
      · exact fun error d hd => .cons hd

/-- **After the receipts are deleted** the files go; whatever fails then, the files that are left are
    aside. -/
theorem removeQuarantinedFiles_rule (hplain : Unscratched receipts)
    {items : List QuarantinedStaleFileDeletion}
    (hchanges : Changes (Quarantines world receipts) m items m') :
    LocalTriple (Looks m' store) (world.removeQuarantinedFiles items items.length)
      (fun removed d => removed = items.length ∧ (∃ read convergence,
        ReadsAs world.mode (without m (items.map (·.targetPath))) store read ∧
        planRootConvergence read = .ok convergence ∧ nothingLeftToDo convergence = true) ∧
        Looks (without m (items.map (·.targetPath))) store d)
      (fun _ => RemovedInPart world receipts items m store) := by
  have hpart : ∀ d, Looks m' store d → RemovedInPart world receipts items m store d :=
    fun d hd => .of_changes hchanges hd
  have hgone : ∀ d, Looks (without m (items.map (·.targetPath))) store d →
      RemovedInPart world receipts items m store d :=
    fun d hd => ⟨items, [], _, by simp, .nil, hd⟩
  apply Triple.check_bind
  swap
  · exact fun _ => hpart
  intro _
  apply queryLooks_bind hpart (fun _ _ => hpart)
  intro left _
  apply Triple.check_bind
  swap
  · exact fun _ => hpart
  intro _
  apply Triple.bind (cleanupStaleFileDeletionQuarantines_rule hplain items 0 hchanges)
  intro removed
  apply Triple.fact
  rintro rfl
  apply Triple.bind (readInputs_rule fun _ => hgone)
  intro read
  apply Triple.fact
  intro hread
  apply ofSelectedRoot_bind
  swap
  · exact fun _ _ => hgone
  intro convergence hconvergence
  apply Triple.check_bind
  swap
  · exact fun _ => hgone
  intro hnothing
  apply Triple.pure
  intro d hd
  exact ⟨Nat.zero_add _, ⟨read, convergence, hread, hconvergence, by simpa using hnothing⟩, hd⟩

end ExecutorWorld

/-! ## The executor -/

/-- A file that a stale receipt describes, of an item that is gone. -/
def IsDeletable (world : ExecutorWorld) (store : RootStore) (path : LocalPath) (node : Node) : Prop :=
  ∃ receipts, store.listStaleFileReceipts = .ok receipts ∧ ∃ receipt ∈ receipts,
    remoteIdentityPresent store.listRemoteItems receipt = false ∧ path = receipt.path ∧
    ∃ id data, node = .file id data ∧ receipt.Describes world data

/-- The stale files that a deletion is about: all of them stand, and their items are gone. -/
structure StaleFilesToDelete (world : ExecutorWorld) (m : LocalNodes) (store : RootStore)
    (read : RootInputs) (receipts : List FileReceiptRow) (plan : SelectedRootStaleFileBatchPlan) :
    Prop where
  planned : StaleFilesPlanned world m store read receipts plan
  admitted : admitDeletionReadiness plan = .ok ()
  gone : ∀ receipt ∈ receipts, remoteIdentityPresent store.listRemoteItems receipt = false

/-- A store after the deletion of stale files. -/
def RootStore.staleFilesDeleted (store : RootStore) (receipts : List FileReceiptRow) : RootStore :=
  { store.invalidateLocalObservationBaseline.1 with
    catalog := store.catalog.withoutFiles (receipts.map (·.remoteId)) }

/-- **Every file of an admitted deletion stands as its receipt says.** -/
theorem StaleFilesToDelete.stands {world : ExecutorWorld} {m : LocalNodes} {store : RootStore}
    {read : RootInputs} {receipts : List FileReceiptRow} {plan : SelectedRootStaleFileBatchPlan}
    (h : StaleFilesToDelete world m store read receipts plan) :
    ∀ receipt ∈ receipts, receipt.StandsIn world m := by
  have hadmitted := h.admitted
  simp only [admitDeletionReadiness, refuseIf_eq_ok, Bool.or_eq_false_iff, bne_eq_false_iff_eq] at hadmitted
  obtain ⟨⟨⟨⟨⟨⟨⟨⟨⟨⟨-, -⟩, -⟩, -⟩, hall⟩, hsafe⟩, -⟩, -⟩, -⟩, -⟩, -⟩ := hadmitted
  rw [hall, h.planned.safeToDelete, h.planned.total, List.countP_eq_length] at hsafe
  intro receipt hreceipt
  have := hsafe receipt hreceipt
  rw [Bool.and_eq_true] at this
  exact isSafe_iff.mp this.2

section Failing

variable (world : ExecutorWorld) (m : LocalNodes) (store : RootStore)

/-- What a failed deletion has left before its receipts were deleted: everything as it was, or some of the
    files aside. -/
abbrev DeletionAborted : LocalExecutorError → LocalRoot → Prop := fun error d =>
  Looks m store d ∨ Looks m store.invalidateLocalObservationBaseline.1 d ∨
    leaksQuarantine error = true ∧ ∃ read receipts plan items m',
      StaleFilesToDelete world m store read receipts plan ∧
      Changes (Quarantines world receipts) m items m' ∧
      Looks m' store.invalidateLocalObservationBaseline.1 d

/-- What a failed deletion has left after that. -/
abbrev DeletionCutShort : LocalRoot → Prop := fun d => ∃ read receipts plan items,
  StaleFilesToDelete world m store read receipts plan ∧ items.map (·.targetPath) = receipts.map (·.path) ∧
    RemovedInPart world receipts items m (store.staleFilesDeleted receipts) d

/-- A deletion fails before its receipts are deleted, or after. -/
abbrev DeletionFails : LocalExecutorError → LocalRoot → Prop := fun error d =>
  DeletionAborted world m store error d ∨ DeletionCutShort world m store d

end Failing

namespace ExecutorWorld

variable {world : ExecutorWorld} {m : LocalNodes} {store : RootStore}

/-- **The executor of stale files whose items are gone**: all of them are deleted with their receipts, or
    none; only after the deletion of the receipts may files be left aside. -/
theorem deleteStaleFiles_rule
    (hplain : ∀ receipts, store.listStaleFileReceipts = .ok receipts → Unscratched receipts) :
    LocalTriple (Looks m store) world.deleteStaleFiles
      (fun result d => ∃ read receipts plan, StaleFilesToDelete world m store read receipts plan ∧
        result.filesDeleted = receipts.length ∧ result.receiptsDeleted = receipts.length ∧
        result.quarantineFilesRemoved = receipts.length ∧
        Looks (without m (receipts.map (·.path))) (store.staleFilesDeleted receipts) d)
      (DeletionFails world m store) := by
  have hbefore : ∀ error d, Looks m store d → DeletionFails world m store error d :=
    fun _ _ hd => .inl (.inl hd)
  apply Triple.bind (planStaleFiles_rule hbefore)
  rintro ⟨read, receipts, plan⟩
  apply Triple.fact
  intro (hplanned : StaleFilesPlanned world m store read receipts plan)
  apply ofSelectedRoot_bind
  swap
  · exact fun _ _ => hbefore _
  intro _ hadmitted
  apply queryLooks_bind (hbefore _) (fun _ _ => hbefore _)
  intro listed hlisted
  rw [fromStorage_eq_ok] at hlisted
  obtain rfl := Except.ok.inj (hplanned.listed.symm.trans hlisted)
  apply Triple.check_bind
  swap
  · exact fun _ => hbefore _
  intro _
  apply queryLooks_bind (hbefore _) (fun _ _ => hbefore _)
  intro remoteItems hremote
  obtain rfl : store.listRemoteItems = remoteItems := Except.ok.inj hremote
  apply Triple.check_bind
  swap
  · exact fun _ => hbefore _
  intro habsent
  have hdelete : StaleFilesToDelete world m store read receipts plan :=
    ⟨hplanned, hadmitted, fun receipt hreceipt => by
      simpa using List.any_eq_false.mp habsent receipt hreceipt⟩
  apply Triple.bind (validatedSelectedRootPath_rule (hbefore _))
  intro _
  apply Triple.bind (invalidateBaseline_rule (hbefore _))
  intro _
  -- from here on the baseline is invalid
  have hplain := hplain receipts hlisted
  have hfails : ∀ error d, QuarantinesFail world receipts m
      store.invalidateLocalObservationBaseline.1 error d → DeletionFails world m store error d := by
    rintro error d (hclean | ⟨hleak, items, m', hchanges, hd⟩)
    · exact .inl (.inr (.inl hclean))
    · exact .inl (.inr (.inr ⟨hleak, read, receipts, plan, items, m', hdelete, hchanges, hd⟩))
  apply Triple.bind ((quarantineStaleFiles_rule hplain receipts [] 0 (fun _ h => h) .nil).mono
    (fun _ h => h) (fun _ _ h => h) hfails)
  rintro ⟨quarantined, totalBytes⟩
  apply Triple.exists
  intro items
  apply Triple.fact
  intro hitems
  obtain rfl : quarantined = items := hitems
  apply Triple.fact
  intro hids
  apply Triple.fact
  intro hpaths
  apply Triple.exists
  intro m'
  apply Triple.fact
  intro hchanges
  rw [List.nil_append] at hchanges
  have hlength : quarantined.length = receipts.length := by
    have := congrArg List.length hpaths
    rwa [List.length_map, List.length_map] at this
  apply Triple.bind (Triple.orCleanUp (F := fun _ => Looks m' store.invalidateLocalObservationBaseline.1)
    (Q := fun deleted d => deleted = quarantined.length ∧ Looks m' (store.staleFilesDeleted receipts) d) ?_
      fun error => (undoAll_fails rollbackQuarantinedStaleFile_undoes hchanges error).mono
        (fun _ h => h) (fun _ => hfails error) hfails)
  swap
  · apply Triple.of_bind_pure
    apply transact_bind (S := fun deleted d =>
      deleted = quarantined.length ∧ Looks m' (store.staleFilesDeleted receipts) d)
    · intro d store' deleted hd hdeleted
      rw [hd.store] at hdeleted
      obtain ⟨rfl, rfl⟩ := RootStore.deleteStaleFileReceipts_eq_ok hdeleted
      refine ⟨List.length_map _, hd.nodes, ?_⟩
      rw [hids, RootStore.catalog_invalidateBaseline, RootStore.staleFilesDeleted]
    · exact fun _ hd => hd
    · exact fun _ _ hd _ => hd
    · exact fun _ => .pure fun _ h => h
  intro deleted
  apply Triple.fact
  rintro rfl
  -- and from here on the receipts are gone
  apply Triple.bind ((removeQuarantinedFiles_rule hplain hchanges).mono (fun _ h => h) (fun _ _ h => h)
    fun error d hd => .inr ⟨read, receipts, plan, quarantined, hdelete, hpaths, hd⟩)
  intro removed
  apply Triple.fact
  rintro rfl
  apply Triple.pure
  rintro d ⟨-, hd⟩
  rw [hpaths] at hd
  exact ⟨read, receipts, plan, hdelete, hlength, hlength, hlength, hd⟩

end ExecutorWorld

/-! ## What is lost -/

section Lost

variable {world : ExecutorWorld} {m m' : LocalNodes} {store : RootStore} {read : RootInputs}
  {receipts : List FileReceiptRow} {plan : SelectedRootStaleFileBatchPlan}
  {items : List QuarantinedStaleFileDeletion}

/-- A deletion is about what may be deleted. -/
theorem StaleFilesToDelete.isDeletable (h : StaleFilesToDelete world m store read receipts plan)
    {receipt : FileReceiptRow} (hreceipt : receipt ∈ receipts) {node : Node}
    (hnode : m receipt.path = some node) : IsDeletable world store receipt.path node := by
  obtain ⟨id, data, hstood, hdescribes⟩ := h.stands receipt hreceipt
  obtain rfl := Option.some.inj (hstood.symm.trans hnode)
  exact ⟨receipts, h.planned.listed, receipt, hreceipt, h.gone receipt hreceipt, rfl, id, data, rfl,
    hdescribes⟩

/-- While files are set aside nothing is lost, by recursion on the changes. -/
theorem aside_of_quarantines (hplain : ∀ path node, IsDeletable world store path node → ¬ IsScratch path)
    (hlisted : store.listStaleFileReceipts = .ok receipts)
    (hgone : ∀ receipt ∈ receipts, remoteIdentityPresent store.listRemoteItems receipt = false)
    (hchanges : Changes (Quarantines world receipts) m items m') :
    Aside (IsDeletable world store) (MovedBeside (IsDeletable world store) m) m m' := by
  apply hchanges.keeps (.refl _ _ m)
  rintro item - s t hs ⟨receipt, hreceipt, id, data, quarantine, hdescribes, -, hmoved⟩
  exact hs.move hplain hmoved
    ⟨receipts, hlisted, receipt, hreceipt, hgone receipt hreceipt, rfl, id, data, rfl, hdescribes⟩

/-- A place that is free, or from which a file was set aside, is free in the end, by recursion on the
    changes: nothing comes to stand but at scratch names. -/
theorem vacant_of_quarantines (hchanges : Changes (Quarantines world receipts) m items m') {path : LocalPath}
    (hplain : ¬ IsScratch path) (hpath : m path = none ∨ path ∈ items.map (·.targetPath)) :
    m' path = none := by
  induction items using List.reverseRecOn generalizing m' with
  | nil =>
      rw [Changes.nil_iff.mp hchanges]
      simpa using hpath
  | append_singleton before item ih =>
      obtain ⟨s, hbefore, hitem⟩ := Changes.concat_iff.mp hchanges
      obtain ⟨receipt, -, id, data, quarantine, -, rfl, hmoved⟩ := hitem
      by_cases htarget : path = receipt.path
      · rw [htarget, hmoved.at_target]
      · have hquarantine : path ≠ quarantine := by
          rintro rfl
          exact hplain hmoved.beside.isScratch
        rw [hmoved.elsewhere htarget hquarantine]
        apply ih hbefore
        simpa [htarget] using hpath

end Lost

/-- A deletion that has failed before its receipts were deleted: the receipts are as they were, nothing is
    lost, and only after some errors a file may stand beside its place. -/
def DeletionUndone (world : ExecutorWorld) (m : LocalNodes) (store : RootStore) (error : LocalExecutorError)
    (d : LocalRoot) : Prop :=
  d.store.catalog = store.catalog ∧
    Aside (IsDeletable world store) (MovedBeside (IsDeletable world store) m) m d.files.node? ∧
    (leaksQuarantine error = true ∨ d.files.node? = m)

/-- A deletion that has failed after that: the receipts of the stale files are gone and their files are not in
    their places any more; some of them may still stand beside, and no other file is touched. -/
def DeletionHalted (world : ExecutorWorld) (m : LocalNodes) (store : RootStore) (d : LocalRoot) : Prop :=
  ∃ receipts, store.listStaleFileReceipts = .ok receipts ∧
    d.store.catalog = store.catalog.withoutFiles (receipts.map (·.remoteId)) ∧
    (∀ receipt ∈ receipts, d.files.node? receipt.path = none) ∧
    Withdrawn (IsDeletable world store) (MovedBeside (IsDeletable world store) m) m d.files.node?

/-- A deletion that is done: the files that the stale receipts describe are gone, and the receipts. -/
def DeletionDone (world : ExecutorWorld) (m : LocalNodes) (store : RootStore)
    (result : SelectedRootStaleFileBatchDeletion) (d : LocalRoot) : Prop :=
  ∃ receipts, store.listStaleFileReceipts = .ok receipts ∧
    result.filesDeleted = receipts.length ∧ result.receiptsDeleted = receipts.length ∧
    (∀ receipt ∈ receipts, remoteIdentityPresent store.listRemoteItems receipt = false ∧
      receipt.StandsIn world m) ∧
    Looks (without m (receipts.map (·.path))) (store.staleFilesDeleted receipts) d

namespace ExecutorWorld

/-- **A deletion of stale files is all or nothing, and loses nothing else**, whichever calls fail: the files
    of all stale receipts are gone with their receipts, or no receipt has changed and every file is where it
    was or beside it, or the receipts are deleted and these files have left their places, some of them to
    stand beside. A file that no stale receipt describes is never touched. -/
theorem deleteStaleFiles_atomic (world : ExecutorWorld) (m : LocalNodes) (store : RootStore)
    (hplain : ∀ receipts, store.listStaleFileReceipts = .ok receipts → Unscratched receipts) :
    LocalTriple (Looks m store) world.deleteStaleFiles (DeletionDone world m store)
      (fun error d => DeletionUndone world m store error d ∨ DeletionHalted world m store d) := by
  have hcatalog := store.catalog_invalidateBaseline
  have hplain' : ∀ path node, IsDeletable world store path node → ¬ IsScratch path := by
    rintro _ _ ⟨receipts, hlisted, receipt, hreceipt, -, rfl, -⟩
    exact hplain receipts hlisted receipt hreceipt
  apply (deleteStaleFiles_rule hplain).mono
  · exact fun _ h => h
  · rintro result d ⟨read, receipts, plan, hdelete, hfiles, hreceipts, -, hd⟩
    exact ⟨receipts, hdelete.planned.listed, hfiles, hreceipts, fun receipt hreceipt =>
      ⟨hdelete.gone receipt hreceipt, hdelete.stands receipt hreceipt⟩, hd⟩
  · rintro error d ((hd | hd | ⟨hleak, read, receipts, plan, items, m', hdelete, hchanges, hd⟩) |
      ⟨read, receipts, plan, items, hdelete, hpaths, gone, left, m', rfl, hchanges, hd⟩)
    · exact .inl ⟨by rw [hd.store], hd.nodes ▸ .refl _ _ _, .inr hd.nodes⟩
    · exact .inl ⟨by rw [hd.store, hcatalog], hd.nodes ▸ .refl _ _ _, .inr hd.nodes⟩
    · refine .inl ⟨by rw [hd.store, hcatalog], ?_, .inl hleak⟩
      rw [hd.nodes]
      exact aside_of_quarantines hplain' hdelete.planned.listed hdelete.gone hchanges
    · refine .inr ⟨receipts, hdelete.planned.listed, by rw [hd.store, RootStore.staleFilesDeleted], ?_, ?_⟩
      · intro receipt hreceipt
        rw [hd.nodes]
        apply vacant_of_quarantines hchanges (hplain receipts hdelete.planned.listed receipt hreceipt)
        have hitem : receipt.path ∈ (gone ++ left).map (·.targetPath) := by
          rw [hpaths]
          exact List.mem_map_of_mem hreceipt
        rw [List.map_append, List.mem_append] at hitem
        rcases hitem with hgone | hleft
        · exact .inl (by rw [without_apply, if_pos hgone])
        · exact .inr hleft
      rw [hd.nodes]
      have haside := (aside_of_quarantines hplain' hdelete.planned.listed hdelete.gone hchanges).withdrawn
      have hbefore : ∀ path node,
          without m (gone.map (·.targetPath)) path = some node → m path = some node := by
        intro path node hnode
        rw [without_apply] at hnode
        split_ifs at hnode
        exact hnode
      apply (haside.mono (fun _ _ h => h) ?_).after
      · intro path node hnode
        by_cases hpath : path ∈ gone.map (·.targetPath)
        · have hmember : path ∈ receipts.map (·.path) := by
            rw [← hpaths, List.map_append]
            exact List.mem_append_left _ hpath
          obtain ⟨receipt, hreceipt, rfl⟩ := List.mem_map.mp hmember
          exact .inr (hdelete.isDeletable hreceipt hnode)
        · rw [without_apply, if_neg hpath]
          exact .inl hnode
      · exact fun path node hnode => .inl (hbefore path node hnode)
      · rintro path node ⟨target, hbeside, hmoved, hstood⟩
        exact ⟨target, hbeside, hmoved, hbefore target node hstood⟩

/-- An empty file whose item is gone is deleted with its receipt. -/
theorem deleteStaleFiles_atomic_empty_file :
    ∃ result after, emptyFileWorld.deleteStaleFiles (startOn emptyFileTree (emptyFileStore ∅)) =
      .ok result after ∧ result.filesDeleted = 1 ∧
      DeletionDone emptyFileWorld emptyFileTree.node? (emptyFileStore ∅) result after.disk := by
  have hrun : ∃ result after, emptyFileWorld.deleteStaleFiles
      (startOn emptyFileTree (emptyFileStore ∅)) = .ok result after ∧ result.filesDeleted = 1 := by
    decide +kernel
  obtain ⟨result, after, hresult, hdeleted⟩ := hrun
  have hdone := (deleteStaleFiles_atomic _ emptyFileTree.node? _ fun _ hlisted =>
    unscratched_emptyFileStore ∅ hlisted).of_ok ⟨rfl, rfl⟩ hresult
  exact ⟨result, after, hresult, hdeleted, hdone⟩

end ExecutorWorld

end NubiSync
