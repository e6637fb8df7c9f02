import NubiSync.Daemon.ExecutorInputs

set_option autoImplicit false

/-! # Stale files

A stale receipt says what the executor once wrote to a file whose item has changed or is gone. Before such
a file is deleted or replaced, `plan_selected_root_stale_files` looks at what stands at the receipt's path
and hashes it: only a file with the size and the SHA-256 of the receipt is safe to take away. -/

namespace NubiSync

open Checks Methods FileTrees

/-! ## Counting receipts -/

/-- `sync_root_materialization_receipt_count`. -/
def RootStore.materializationReceiptCount (store : RootStore) : ℕ :=
  store.catalog.fileReceipts.rows.countP (·.receiptState == .current)

/-- `sync_root_stale_materialization_receipt_count`. -/
def RootStore.staleMaterializationReceiptCount (store : RootStore) : ℕ :=
  store.catalog.fileReceipts.rows.countP (·.receiptState == .stale)

/-! ## The target of a receipt -/

inductive ReceiptTargetInspection where
  | missing
  | conflict
  | file (path : LocalPath) (sizeBytes : ℕ)
  deriving DecidableEq

/-- `metadata.is_file()`. -/
def isFile : Node → Bool
  | .file _ _ => true
  | _ => false

structure SelectedRootStaleFileBatchPlan where
  maxActions : ℕ
  currentReceipts : ℕ
  staleReceiptsTotal : ℕ
  replacementCandidates : ℕ
  deletionCandidates : ℕ
  safeToReplace : ℕ
  safeToDelete : ℕ
  localConflicts : ℕ
  filesMissing : ℕ
  typeConflicts : ℕ
  bytesHashed : ℕ
  convergenceReplacementActions : ℕ
  convergenceDeletionActions : ℕ
  deriving DecidableEq, Repr

/-- The checks of `plan_selected_root_stale_files` on the plans, with the convergence plan. -/
def admitStaleFilePlan (inputs : RootInputs) :
    Except SelectedRootExecutorError ReceiveOnlyConvergencePlan := do
  let convergence ← planRootConvergence inputs
  refuseIf (convergence.blocked
    || convergence.createDirectories != 0
    || convergence.materializeMissingFiles != 0
    || convergence.verifyExistingFiles != 0
    || convergence.deleteOwnedEmptyDirectories != 0) .remoteReplacementPlanPhaseBlocked
  let materialization ← fromMaterializationPlan
    (planReceiveOnlyMaterialization inputs.remoteItems inputs.localEntries)
  refuseIf (materialization.missingDirectories != 0
    || materialization.missingFiles != 0
    || materialization.matchingDirectories != materialization.remoteDirectories
    || materialization.typeConflicts != 0
    || materialization.localOnlyEntries != convergence.revalidateStaleFileDeletions)
    .remoteReplacementPlanPhaseBlocked
  .ok convergence

/-- The plan that the executors of stale receipts have to leave. -/
def nothingLeftToDo (convergence : ReceiveOnlyConvergencePlan) : Bool :=
  !(convergence.blocked
    || convergence.createDirectories != 0
    || convergence.materializeMissingFiles != 0
    || convergence.verifyExistingFiles != 0
    || convergence.revalidateStaleFileReplacements != 0
    || convergence.revalidateStaleFileDeletions != 0
    || convergence.deleteOwnedEmptyDirectories != 0)

/-- The target of a receipt whose item is still there. -/
def staleTarget? (targets : List ReceiveOnlyFileTarget) (receipt : FileReceiptRow) :
    Option ReceiveOnlyFileTarget :=
  targets.find? fun target =>
    target.remoteId == receipt.remoteId && target.relativePath == receipt.relativePath

/-- Whether the item of a receipt is still there. -/
def remoteIdentityPresent (remoteItems : List RemoteItem) (receipt : FileReceiptRow) : Bool :=
  remoteItems.any (·.remoteId == receipt.remoteId)

namespace ExecutorWorld

variable (world : ExecutorWorld)

/-- The loop of `inspect_receipt_target` over the names that are left. -/
def inspectReceiptNames : LocalPath → List FileName → LocalMethod ReceiptTargetInspection
  | _, [] => throw .localReceiptPathInvalid
  | above, name :: rest => do
      match ← world.look (·.metadata (above ++ [name])) with
      | .error .notFound => pure .missing
      | .error _ => throw .localFilesystemInspectionFailed
      | .ok .symlink => pure .conflict
      | .ok node =>
          if rest.isEmpty then
            match node with
            | .file _ data => pure (.file (above ++ [name]) data.content.length)
            | _ => pure .conflict
          else if isDir node then do
            let _ ← orThrow (world.look (·.canonicalize (above ++ [name])))
              .localFilesystemInspectionFailed
            inspectReceiptNames (above ++ [name]) rest
          else pure .conflict

/-- `inspect_receipt_target`. The path of a receipt that was listed is safe, so its components are
    names. -/
def inspectReceiptTarget (receipt : FileReceiptRow) : LocalMethod ReceiptTargetInspection :=
  world.inspectReceiptNames [] receipt.path

/-- The check that a file is what its receipt says, as the executors of stale files make it before they
    move one: the file that was looked at before and after, and its bytes. -/
def verifyStaleFile (path : LocalPath) (receipt : FileReceiptRow) (conflict race : LocalExecutorError) :
    LocalMethod (Node × Node × ℕ × Text) := do
  let metadataBefore ← orThrow (world.look (·.metadata path)) race
  ofExcept (refuseIf (!isFile metadataBefore) race)
  let (bytes, sha256Hex) ← world.hashLocalFile path supervisedFileDownloadMaxBytes
  ofExcept (refuseIf (bytes != receipt.sizeBytes || sha256Hex != receipt.sha256Hex) conflict)
  let metadataAfter ← orThrow (world.look (·.metadata path)) race
  ofExcept (refuseIf (!sameLocalFileState metadataBefore metadataAfter) race)
  pure (metadataBefore, metadataAfter, bytes, sha256Hex)

/-- The first part of a round of `plan_selected_root_stale_files`: the class of the receipt. -/
def classifyStaleReceipt (remoteItems : List RemoteItem) (currentTargets : List ReceiveOnlyFileTarget)
    (result : SelectedRootStaleFileBatchPlan) (receipt : FileReceiptRow) :
    LocalMethod SelectedRootStaleFileBatchPlan :=
  if remoteIdentityPresent remoteItems receipt then do
    let target ← ofExcept (orRefuse (staleTarget? currentTargets receipt)
      (.selectedRoot .remoteReplacementPlanTargetMismatch))
    let currentRemoteSize ← ofExcept (orRefuse target.sizeBytes (.selectedRoot .localFileSizeUnknown))
    ofExcept (refuseIf (decide (currentRemoteSize > supervisedFileDownloadMaxBytes))
      (.selectedRoot .localFileTooLarge))
    pure { result with replacementCandidates := result.replacementCandidates + 1 }
  else pure { result with deletionCandidates := result.deletionCandidates + 1 }

/-- The second part: what stands at the path of the receipt. -/
def judgeStaleReceipt (remoteItems : List RemoteItem) (result : SelectedRootStaleFileBatchPlan)
    (receipt : FileReceiptRow) : LocalMethod SelectedRootStaleFileBatchPlan := do
  match ← world.inspectReceiptTarget receipt with
  | .missing => pure { result with filesMissing := result.filesMissing + 1 }
  | .conflict => pure { result with typeConflicts := result.typeConflicts + 1 }
  | .file targetPath observedSize =>
      if observedSize != receipt.sizeBytes then
        pure { result with localConflicts := result.localConflicts + 1 }
      else do
        ofExcept (refuseIf (decide (receipt.sizeBytes > supervisedFileDownloadMaxBytes))
          (.selectedRoot .localFileTooLarge))
        let (bytes, sha256Hex) ← world.hashLocalFile targetPath supervisedFileDownloadMaxBytes
        let bytesHashed ← ofExcept (orRefuse (checkedAddU64 result.bytesHashed bytes)
          (.selectedRoot .countOverflow))
        let result := { result with bytesHashed := bytesHashed }
        if bytes == receipt.sizeBytes && sha256Hex == receipt.sha256Hex then
          if remoteIdentityPresent remoteItems receipt then
            pure { result with safeToReplace := result.safeToReplace + 1 }
          else pure { result with safeToDelete := result.safeToDelete + 1 }
        else pure { result with localConflicts := result.localConflicts + 1 }

/-- The loop of `plan_selected_root_stale_files`. -/
def inspectStaleReceipts (remoteItems : List RemoteItem) (currentTargets : List ReceiveOnlyFileTarget) :
    List FileReceiptRow → SelectedRootStaleFileBatchPlan → LocalMethod SelectedRootStaleFileBatchPlan
  | [], result => pure result
  | receipt :: rest, result => do
      let result ← classifyStaleReceipt remoteItems currentTargets result receipt
      let result ← world.judgeStaleReceipt remoteItems result receipt
      inspectStaleReceipts remoteItems currentTargets rest result

/-- `plan_selected_root_stale_files`, with the inputs and the receipts it is about. -/
def planStaleFiles :
    LocalMethod (RootInputs × List FileReceiptRow × SelectedRootStaleFileBatchPlan) := do
  let inputs ← world.readInputs
  let convergence ← ofSelectedRoot (admitStaleFilePlan inputs)
  let currentReceipts ← world.query fun store => .ok store.materializationReceiptCount
  let staleReceiptsTotal ← world.query fun store => .ok store.staleMaterializationReceiptCount
  let staleReceipts ← world.query fun store => fromStorage store.listStaleFileReceipts
  ofExcept (refuseIf (staleReceipts.length != staleReceiptsTotal) .localReceiptVerificationCountMismatch)
  ofExcept (refuseIf (decide (staleReceiptsTotal > supervisedStaleFilePlanMaxActions))
    (.selectedRoot .localReceiptVerificationSafetyLimitExceeded))
  ofExcept (refuseIf (convergence.revalidateStaleFileReplacements
    + convergence.revalidateStaleFileDeletions != staleReceiptsTotal)
    (.selectedRoot .remoteReplacementPlanPhaseBlocked))
  let currentTargets ← ofSelectedRoot (fromMaterializationPlan
    (planReceiveOnlyExistingFileTargets inputs.remoteItems inputs.localEntries))
  world.validatedSelectedRootPath
  let result ← world.inspectStaleReceipts inputs.remoteItems currentTargets staleReceipts
    { maxActions := supervisedStaleFilePlanMaxActions
      currentReceipts := currentReceipts
      staleReceiptsTotal := staleReceiptsTotal
      replacementCandidates := 0
      deletionCandidates := 0
      safeToReplace := 0
      safeToDelete := 0
      localConflicts := 0
      filesMissing := 0
      typeConflicts := 0
      bytesHashed := 0
      convergenceReplacementActions := convergence.revalidateStaleFileReplacements
      convergenceDeletionActions := convergence.revalidateStaleFileDeletions }
  ofExcept (refuseIf (result.replacementCandidates != result.convergenceReplacementActions
    || result.deletionCandidates != result.convergenceDeletionActions)
    (.selectedRoot .remoteReplacementPlanTargetMismatch))
  pure (inputs, staleReceipts, result)

end ExecutorWorld

/-! ## What was inspected -/

/-- A file is what the receipt says. -/
def FileReceiptRow.Describes (receipt : FileReceiptRow) (world : ExecutorWorld) (data : FileData) :
    Prop :=
  data.content.length = receipt.sizeBytes ∧ world.sha256.sha256Hex data.content = receipt.sha256Hex ∧
    receipt.sizeBytes ≤ supervisedFileDownloadMaxBytes

/-- The file that a receipt is about stands at its path. -/
def FileReceiptRow.StandsIn (receipt : FileReceiptRow) (world : ExecutorWorld) (m : LocalNodes) : Prop :=
  ∃ id data, m receipt.path = some (.file id data) ∧ receipt.Describes world data

/-- No stale file has a scratch name. -/
def Unscratched (receipts : List FileReceiptRow) : Prop :=
  ∀ receipt ∈ receipts, ¬ IsScratch receipt.path

/-- A receipt that was judged safe. -/
def isSafe (world : ExecutorWorld) (m : LocalNodes) (receipt : FileReceiptRow) : Bool :=
  match m receipt.path with
  | some (.file _ data) => data.content.length == receipt.sizeBytes
      && world.sha256.sha256Hex data.content == receipt.sha256Hex
      && decide (receipt.sizeBytes ≤ supervisedFileDownloadMaxBytes)
  | _ => false

theorem isSafe_iff {world : ExecutorWorld} {m : LocalNodes} {receipt : FileReceiptRow} :
    isSafe world m receipt = true ↔ receipt.StandsIn world m := by
  unfold isSafe FileReceiptRow.StandsIn FileReceiptRow.Describes
  split
  · next id data hnode => simp [hnode, and_assoc]
  · next hno =>
      simp only [Bool.false_eq_true, false_iff]
      rintro ⟨id, data, hnode, -⟩
      exact hno id data hnode

/-- The receipts a plan counts in addition to another. -/
structure CountsStale (world : ExecutorWorld) (m : LocalNodes) (remoteItems : List RemoteItem)
    (receipts : List FileReceiptRow) (result result' : SelectedRootStaleFileBatchPlan) : Prop where
  staleReceiptsTotal : result'.staleReceiptsTotal = result.staleReceiptsTotal
  convergenceReplacements :
    result'.convergenceReplacementActions = result.convergenceReplacementActions
  convergenceDeletions : result'.convergenceDeletionActions = result.convergenceDeletionActions
  replacementCandidates : result'.replacementCandidates =
    result.replacementCandidates + receipts.countP (remoteIdentityPresent remoteItems)
  deletionCandidates : result'.deletionCandidates =
    result.deletionCandidates + receipts.countP fun receipt => !remoteIdentityPresent remoteItems receipt
  safeToReplace : result'.safeToReplace = result.safeToReplace +
    receipts.countP fun receipt => remoteIdentityPresent remoteItems receipt && isSafe world m receipt
  safeToDelete : result'.safeToDelete = result.safeToDelete +
    receipts.countP fun receipt => !remoteIdentityPresent remoteItems receipt && isSafe world m receipt
  conflicts : result'.localConflicts + result'.filesMissing + result'.typeConflicts =
    result.localConflicts + result.filesMissing + result.typeConflicts +
      receipts.countP fun receipt => !isSafe world m receipt

/-- What an inspection says of a path. -/
def ReceiptTargetInspection.Says (m : LocalNodes) (path : LocalPath) : ReceiptTargetInspection → Prop
  | .file target size => target = path ∧ ∃ id data, m path = some (.file id data) ∧ data.content.length = size
  | .missing | .conflict => ∀ id data, m path ≠ some (.file id data)

theorem no_file_below {files : FileTree FileName} {m : LocalNodes} (hfiles : files.node? = m)
    {path rest : LocalPath} (hnot : ¬ IsDirectoryIn m path)
    (hlast : rest = [] → ∀ id data, m path ≠ some (.file id data)) (id : FileId) (data : FileData) :
    m (path ++ rest) ≠ some (.file id data) := by
  subst hfiles
  by_cases hrest : rest = []
  · rw [hrest, List.append_nil]
    exact hlast hrest id data
  · rw [FileTree.node?_below hnot hrest]
    simp

namespace ExecutorWorld

variable {world : ExecutorWorld} {m : LocalNodes} {store : RootStore}
  {E : LocalExecutorError → LocalRoot → Prop}

/-- **Following the path of a receipt**, by recursion on the names that are left: a file is found only at
    its end. -/
theorem inspectReceiptNames_rule {files : FileTree FileName} (hfiles : files.node? = m)
    (names above : LocalPath) (habove : IsDirectoryIn m above)
    (hE : ∀ error d, Looks m store d → E error d) :
    LocalTriple (Looks m store) (world.inspectReceiptNames above names)
      (fun inspection d => inspection.Says m (above ++ names) ∧ Looks m store d) E := by
  induction names generalizing above with
  | nil => exact .throw (hE _)
  | cons name rest ih =>
      rw [List.append_cons]
      apply metadata_bind
      · intro node hnode
        cases node with
        | directory id =>
            cases rest with
            | nil =>
                apply Triple.pure
                intro d hd
                refine ⟨fun id data => ?_, hd⟩
                rw [List.append_nil, hnode]
                simp
            | cons next rest =>
                apply lookOrThrow_bind (A := fun _ => True) (fun _ _ _ _ => trivial) (hE _)
                intro _ _
                exact ih _ ⟨id, hnode⟩
        | file id data =>
            cases rest with
            | nil =>
                apply Triple.pure
                intro d hd
                refine ⟨⟨(List.append_nil _).symm, id, data, ?_, rfl⟩, hd⟩
                rw [List.append_nil, hnode]
            | cons next rest =>
                apply Triple.pure
                intro d hd
                refine ⟨no_file_below hfiles ?_ (fun hnil => absurd hnil (List.cons_ne_nil _ _)), hd⟩
                simp [IsDirectoryIn, hnode]
        | symlink =>
            apply Triple.pure
            intro d hd
            exact ⟨no_file_below hfiles (by simp [IsDirectoryIn, hnode]) (by simp [hnode]), hd⟩
        | special =>
            have hconflict : ∀ d, Looks m store d →
                ReceiptTargetInspection.conflict.Says m (above ++ [name] ++ rest) ∧ Looks m store d :=
              fun d hd =>
                ⟨no_file_below hfiles (by simp [IsDirectoryIn, hnode]) (by simp [hnode]), hd⟩
            cases rest with
            | nil => exact .pure hconflict
            | cons next rest => exact .pure hconflict
      · intro hnone
        apply Triple.pure
        intro d hd
        exact ⟨no_file_below hfiles (by simp [IsDirectoryIn, hnone]) (by simp [hnone]), hd⟩
      · intro error hne
        cases error with
        | notFound => exact absurd rfl hne
        | alreadyExists => exact .throw (hE _)
        | other => exact .throw (hE _)

theorem inspectReceiptTarget_rule {receipt : FileReceiptRow}
    (hE : ∀ error d, Looks m store d → E error d) :
    LocalTriple (Looks m store) (world.inspectReceiptTarget receipt)
      (fun inspection d => inspection.Says m receipt.path ∧ Looks m store d) E := by
  apply of_files
  intro files hfiles
  exact inspectReceiptNames_rule hfiles receipt.path [] (isDirectoryIn_root hfiles) hE

theorem verifyStaleFile_rule {receipt : FileReceiptRow} {path : LocalPath} {id : FileId} {data : FileData}
    {conflict race : LocalExecutorError} (hnode : m path = some (.file id data))
    (hE : ∀ error d, Looks m store d → E error d) :
    LocalTriple (Looks m store) (world.verifyStaleFile path receipt conflict race)
      (fun verified d => verified = (.file id data, .file id data, receipt.sizeBytes, receipt.sha256Hex) ∧
        receipt.Describes world data ∧ Looks m store d) E := by
  have hfile : ∀ d, Looks m store d → ∃ node, d.files.metadata path = .ok node ∧ node = .file id data :=
    fun d hd => ⟨_, hd.metadata.mpr hnode, rfl⟩
  apply lookOrThrow_bind_of hfile (hE _)
  rintro _ rfl
  apply Triple.check_bind
  swap
  · exact fun _ => hE _
  intro _
  apply Triple.bind (hashLocalFile_rule (fun d hd => ⟨id, data.modified, (hd.node? path).trans hnode⟩)
    (by decide) (hE _))
  rintro ⟨bytes, sha256Hex⟩
  apply Triple.fact
  intro hhashed
  obtain ⟨rfl, rfl⟩ := Prod.mk.inj hhashed
  apply Triple.fact
  intro hsmall
  apply Triple.check_bind
  swap
  · exact fun _ => hE _
  intro hhash
  simp only [Bool.or_eq_false_iff, bne_eq_false_iff_eq] at hhash
  obtain ⟨hsize, hdigest⟩ := hhash
  apply lookOrThrow_bind_of hfile (hE _)
  rintro _ rfl
  apply Triple.check_bind
  swap
  · exact fun _ => hE _
  intro _
  apply Triple.pure
  intro d hd
  exact ⟨by rw [hsize, hdigest], ⟨hsize, hdigest, hsize ▸ hsmall⟩, hd⟩

end ExecutorWorld

/-! ## Counting -/

section Counting

variable {world : ExecutorWorld} {m : LocalNodes} {remoteItems : List RemoteItem}
  {receipt : FileReceiptRow} {receipts : List FileReceiptRow}
  {result result' result'' : SelectedRootStaleFileBatchPlan}

theorem CountsStale.nil : CountsStale world m remoteItems [] result result := by
  constructor <;> simp

theorem CountsStale.cons (h : CountsStale world m remoteItems [receipt] result result')
    (h' : CountsStale world m remoteItems receipts result' result'') :
    CountsStale world m remoteItems (receipt :: receipts) result result'' where
  staleReceiptsTotal := h'.staleReceiptsTotal.trans h.staleReceiptsTotal
  convergenceReplacements := h'.convergenceReplacements.trans h.convergenceReplacements
  convergenceDeletions := h'.convergenceDeletions.trans h.convergenceDeletions
  replacementCandidates := by
    rw [h'.replacementCandidates, h.replacementCandidates, Nat.add_assoc, ← List.countP_append]
    rfl
  deletionCandidates := by
    rw [h'.deletionCandidates, h.deletionCandidates, Nat.add_assoc, ← List.countP_append]
    rfl
  safeToReplace := by
    rw [h'.safeToReplace, h.safeToReplace, Nat.add_assoc, ← List.countP_append]
    rfl
  safeToDelete := by
    rw [h'.safeToDelete, h.safeToDelete, Nat.add_assoc, ← List.countP_append]
    rfl
  conflicts := by
    rw [h'.conflicts, h.conflicts, Nat.add_assoc, ← List.countP_append]
    rfl

/-- The receipt is present and safe, or absent and safe, or a conflict of some kind. -/
structure JudgesStale (world : ExecutorWorld) (m : LocalNodes) (remoteItems : List RemoteItem)
    (receipt : FileReceiptRow) (result result' : SelectedRootStaleFileBatchPlan) : Prop where
  staleReceiptsTotal : result'.staleReceiptsTotal = result.staleReceiptsTotal
  convergenceReplacements :
    result'.convergenceReplacementActions = result.convergenceReplacementActions
  convergenceDeletions : result'.convergenceDeletionActions = result.convergenceDeletionActions
  replacementCandidates : result'.replacementCandidates = result.replacementCandidates
  deletionCandidates : result'.deletionCandidates = result.deletionCandidates
  safeToReplace : result'.safeToReplace = result.safeToReplace +
    (remoteIdentityPresent remoteItems receipt && isSafe world m receipt).toNat
  safeToDelete : result'.safeToDelete = result.safeToDelete +
    (!remoteIdentityPresent remoteItems receipt && isSafe world m receipt).toNat
  conflicts : result'.localConflicts + result'.filesMissing + result'.typeConflicts =
    result.localConflicts + result.filesMissing + result.typeConflicts +
      (!isSafe world m receipt).toNat

/-- A receipt that was classified and judged is counted. -/
theorem JudgesStale.counts_present (h : JudgesStale world m remoteItems receipt
      { result with replacementCandidates := result.replacementCandidates + 1 } result')
    (hpresent : remoteIdentityPresent remoteItems receipt = true) :
    CountsStale world m remoteItems [receipt] result result' := by
  obtain ⟨htotal, hreplacements, hdeletions, hreplace, hdelete, hsafe, hsafe', hconflicts⟩ := h
  cases hjudged : isSafe world m receipt <;> constructor <;> simp_all

theorem JudgesStale.counts_absent (h : JudgesStale world m remoteItems receipt
      { result with deletionCandidates := result.deletionCandidates + 1 } result')
    (habsent : remoteIdentityPresent remoteItems receipt = false) :
    CountsStale world m remoteItems [receipt] result result' := by
  obtain ⟨htotal, hreplacements, hdeletions, hreplace, hdelete, hsafe, hsafe', hconflicts⟩ := h
  cases hjudged : isSafe world m receipt <;> constructor <;> simp_all

end Counting

namespace ExecutorWorld

variable {world : ExecutorWorld} {m : LocalNodes} {store : RootStore}
  {E : LocalExecutorError → LocalRoot → Prop} {remoteItems : List RemoteItem}
  {currentTargets : List ReceiveOnlyFileTarget}

theorem judgeStaleReceipt_rule {receipt : FileReceiptRow} {result : SelectedRootStaleFileBatchPlan}
    (hE : ∀ error d, Looks m store d → E error d) :
    LocalTriple (Looks m store) (world.judgeStaleReceipt remoteItems result receipt)
      (fun result' d => JudgesStale world m remoteItems receipt result result' ∧ Looks m store d) E := by
  -- what is no file is no safe file
  have hnoFile : (∀ id data, m receipt.path ≠ some (.file id data)) → isSafe world m receipt = false := by
    intro hnot
    rw [← Bool.not_eq_true, isSafe_iff]
    rintro ⟨id, data, hnode, -⟩
    exact hnot id data hnode
  apply Triple.bind (inspectReceiptTarget_rule hE)
  rintro (_ | _ | ⟨targetPath, observedSize⟩)
  · refine .fact fun hnot => .pure fun d hd => ⟨?_, hd⟩
    constructor <;> simp [hnoFile hnot]
    omega
  · refine .fact fun hnot => .pure fun d hd => ⟨?_, hd⟩
    constructor <;> simp [hnoFile hnot]
    omega
  apply Triple.fact
  rintro ⟨rfl, id, data, hnode, rfl⟩
  dsimp only
  by_cases hsize : data.content.length = receipt.sizeBytes
  · rw [if_neg (by simpa using hsize)]
    apply Triple.check_bind
    · intro hsmall
      have hsmall : receipt.sizeBytes ≤ supervisedFileDownloadMaxBytes := by simpa using hsmall
      have hfile : ∀ d, Looks m store d →
          ∃ id modified, d.files.node? receipt.path = some (.file id ⟨data.content, modified⟩) :=
        fun d hd => ⟨id, data.modified, (hd.node? _).trans hnode⟩
      apply Triple.bind (hashLocalFile_rule hfile (by decide) (hE _))
      · rintro ⟨bytes, sha256Hex⟩
        apply Triple.fact
        intro hhashed
        obtain ⟨rfl, rfl⟩ := Prod.mk.inj hhashed
        apply Triple.fact
        intro _
        apply Triple.present_bind
        · intro bytesHashed _
          have hsafe : isSafe world m receipt = true ↔
              world.sha256.sha256Hex data.content = receipt.sha256Hex := by
            rw [isSafe_iff, FileReceiptRow.StandsIn]
            simp [hnode, FileReceiptRow.Describes, hsize, hsmall]
          by_cases hdigest : world.sha256.sha256Hex data.content = receipt.sha256Hex
          · rw [if_pos (by simp [hsize, hdigest])]
            have hsafe := hsafe.mpr hdigest
            cases hpresent : remoteIdentityPresent remoteItems receipt with
            | true =>
                refine .pure fun d hd => ⟨?_, hd⟩
                constructor <;> simp [hsafe, hpresent]
            | false =>
                refine .pure fun d hd => ⟨?_, hd⟩
                constructor <;> simp [hsafe, hpresent]
          · rw [if_neg (by simp [hdigest])]
            have hsafe : isSafe world m receipt = false := by
              rw [← Bool.not_eq_true, hsafe]
              exact hdigest
            refine .pure fun d hd => ⟨?_, hd⟩
            constructor <;> simp [hsafe]
            omega
        · exact fun _ => hE _
    · exact fun _ => hE _
  · rw [if_pos (by simpa using hsize)]
    have hsafe : isSafe world m receipt = false := by
      rw [← Bool.not_eq_true, isSafe_iff]
      rintro ⟨id', data', hnode', hdescribes, -⟩
      rw [hnode, Option.some.injEq] at hnode'
      obtain ⟨-, rfl⟩ := Node.file.inj hnode'
      exact hsize hdescribes
    refine .pure fun d hd => ⟨?_, hd⟩
    constructor <;> simp [hsafe]
    omega

theorem classifyStaleReceipt_rule {receipt : FileReceiptRow} {result : SelectedRootStaleFileBatchPlan}
    (hE : ∀ error d, Looks m store d → E error d) :
    LocalTriple (Looks m store) (classifyStaleReceipt remoteItems currentTargets result receipt)
      (fun classified d => classified = (if remoteIdentityPresent remoteItems receipt then
          { result with replacementCandidates := result.replacementCandidates + 1 }
        else { result with deletionCandidates := result.deletionCandidates + 1 }) ∧ Looks m store d) E := by
  unfold classifyStaleReceipt
  cases remoteIdentityPresent remoteItems receipt with
  | false => exact .pure fun d hd => ⟨rfl, hd⟩
  | true =>
      refine .present_bind (fun target _ => ?_) fun _ => hE _
      refine .present_bind (fun size _ => ?_) fun _ => hE _
      exact .check_bind (fun _ => .pure fun d hd => ⟨rfl, hd⟩) fun _ => hE _

/-- **Inspecting the stale receipts** counts each of them in its class. -/
theorem inspectStaleReceipts_rule (receipts : List FileReceiptRow) (result : SelectedRootStaleFileBatchPlan)
    (hE : ∀ error d, Looks m store d → E error d) :
    LocalTriple (Looks m store) (world.inspectStaleReceipts remoteItems currentTargets receipts result)
      (fun result' d => CountsStale world m remoteItems receipts result result' ∧ Looks m store d) E := by
  induction receipts generalizing result with
  | nil => exact .pure fun d hd => ⟨.nil, hd⟩
  | cons receipt rest ih =>
      apply Triple.bind (classifyStaleReceipt_rule hE)
      intro classified
      apply Triple.fact
      intro hclassified
      apply Triple.bind (judgeStaleReceipt_rule hE)
      intro judged
      apply Triple.fact
      intro hjudged
      have hcounts : CountsStale world m remoteItems [receipt] result judged := by
        rw [hclassified] at hjudged
        cases hpresent : remoteIdentityPresent remoteItems receipt with
        | true =>
            rw [hpresent, if_pos rfl] at hjudged
            exact hjudged.counts_present hpresent
        | false =>
            rw [hpresent, if_neg Bool.false_ne_true] at hjudged
            exact hjudged.counts_absent hpresent
      exact (ih judged).mono (fun _ h => h) (fun result' d hd => ⟨hcounts.cons hd.1, hd.2⟩)
        fun _ _ h => h

end ExecutorWorld

/-! ## The plan -/

/-- What the planning of the stale files has read and found. -/
structure StaleFilesPlanned (world : ExecutorWorld) (m : LocalNodes) (store : RootStore) (read : RootInputs)
    (receipts : List FileReceiptRow) (plan : SelectedRootStaleFileBatchPlan) : Prop where
  reads : ReadsAs world.mode m store read
  admitted : ∃ convergence, admitStaleFilePlan read = .ok convergence ∧
    plan.convergenceReplacementActions = convergence.revalidateStaleFileReplacements ∧
    plan.convergenceDeletionActions = convergence.revalidateStaleFileDeletions
  listed : store.listStaleFileReceipts = .ok receipts
  total : plan.staleReceiptsTotal = receipts.length
  replacementCandidates :
    plan.replacementCandidates = receipts.countP (remoteIdentityPresent read.remoteItems)
  deletionCandidates :
    plan.deletionCandidates = receipts.countP fun receipt => !remoteIdentityPresent read.remoteItems receipt
  safeToReplace : plan.safeToReplace = receipts.countP fun receipt =>
    remoteIdentityPresent read.remoteItems receipt && isSafe world m receipt
  safeToDelete : plan.safeToDelete = receipts.countP fun receipt =>
    !remoteIdentityPresent read.remoteItems receipt && isSafe world m receipt
  conflicts : plan.localConflicts + plan.filesMissing + plan.typeConflicts =
    receipts.countP fun receipt => !isSafe world m receipt

theorem StaleFilesPlanned.distinct {world : ExecutorWorld} {m : LocalNodes} {store : RootStore}
    {read : RootInputs} {receipts : List FileReceiptRow} {plan : SelectedRootStaleFileBatchPlan}
    (h : StaleFilesPlanned world m store read receipts plan) : (receipts.map FileReceiptRow.path).Nodup := by
  obtain ⟨convergence, hadmitted, -⟩ := h.admitted
  obtain ⟨planned, hplanned, -⟩ := bind_eq_ok.mp hadmitted
  exact h.reads.distinct_staleFiles hplanned h.listed

namespace ExecutorWorld

variable {world : ExecutorWorld} {m : LocalNodes} {store : RootStore}
  {E : LocalExecutorError → LocalRoot → Prop}

/-- **Planning the stale files** changes nothing, and counts the receipts whose files are what they say. -/
theorem planStaleFiles_rule (hE : ∀ error d, Looks m store d → E error d) :
    LocalTriple (Looks m store) world.planStaleFiles
      (fun result d => StaleFilesPlanned world m store result.1 result.2.1 result.2.2 ∧
        Looks m store d) E := by
  apply Triple.bind (readInputs_rule hE)
  intro read
  apply Triple.fact
  intro hread
  apply ofSelectedRoot_bind
  swap
  · exact fun _ _ => hE _
  intro convergence hadmitted
  apply queryLooks_bind (hE _) (fun _ _ => hE _)
  intro currentReceipts _
  apply queryLooks_bind (hE _) (fun _ _ => hE _)
  intro staleReceiptsTotal htotal
  obtain rfl : store.staleMaterializationReceiptCount = staleReceiptsTotal := Except.ok.inj htotal
  apply queryLooks_bind (hE _) (fun _ _ => hE _)
  intro receipts hlisted
  rw [fromStorage_eq_ok] at hlisted
  apply Triple.check_bind
  swap
  · exact fun _ => hE _
  intro hlength
  have hlength : receipts.length = store.staleMaterializationReceiptCount := by simpa using hlength
  refine .check_bind (fun _ => ?_) fun _ => hE _
  refine .check_bind (fun _ => ?_) fun _ => hE _
  refine ofSelectedRoot_bind (fun currentTargets _ => ?_) fun _ _ => hE _
  apply Triple.bind (validatedSelectedRootPath_rule (hE _))
  intro _
  apply Triple.bind (inspectStaleReceipts_rule receipts _ hE)
  intro plan
  apply Triple.fact
  intro hcounts
  refine .check_bind (fun _ => .pure fun d hd => ?_) fun _ => hE _
  refine ⟨⟨hread, ⟨convergence, hadmitted, hcounts.convergenceReplacements, hcounts.convergenceDeletions⟩,
    hlisted, ?_, ?_, ?_, ?_, ?_, ?_⟩, hd⟩
  · rw [hcounts.staleReceiptsTotal, hlength]
  · simpa using hcounts.replacementCandidates
  · simpa using hcounts.deletionCandidates
  · simpa using hcounts.safeToReplace
  · simpa using hcounts.safeToDelete
  · simpa using hcounts.conflicts

end ExecutorWorld

/-! ## A stale file -/

/-- The receipt of an empty file whose item has changed or is gone. -/
def emptyFileReceipt : FileReceiptRow := ⟨['3'], ['a'], 0, emptyFileHash.sha256Hex [], .stale⟩

/-- A root with this receipt. -/
def emptyFileStore (items : Table CatalogRow.remoteId) : RootStore :=
  { RootStore.new .receiveOnly with
    catalog := ⟨items, .ofRows [emptyFileReceipt], ∅, items.rows.length⟩
    remoteState := some ⟨true, true, some (.ofChar '0'), some (.ofChar '1')⟩ }

/-- The item of the stale file, after it has changed. -/
def changedFileItems : Table CatalogRow.remoteId := .ofRows [⟨['3'], some ['0'], ['a'], .file, some 0, false⟩]

/-- The file is in the root. -/
def emptyFileTree : FileTree FileName where
  node? path := if path = [] then some (.directory ⟨0, 0⟩)
    else if path = emptyFileReceipt.path then some (.file ⟨0, 1⟩ ⟨[], 0⟩) else none
  listed := [[], emptyFileReceipt.path]
  mem_listed := by
    intro path hpath
    split_ifs at hpath with hroot hfile
    · simp [hroot]
    · simp [hfile]
    · exact absurd rfl hpath
  root := ⟨⟨0, 0⟩, rfl⟩
  rooted := by
    intro path name hpath
    have hproper : path ++ [name] ≠ [] := by simp
    rw [if_neg hproper] at hpath
    split_ifs at hpath with hfile
    · have hname : path ++ [name] = [] ++ [.utf8 ['a'] (by decide)] := hfile
      obtain ⟨rfl, -⟩ := List.append_inj' hname rfl
      exact ⟨⟨0, 0⟩, rfl⟩
    · exact absurd rfl hpath

theorem validate_emptyFileReceipt :
    validateMaterializationReceiptValues ['3'] ['a'] emptySha256Hex = .ok () := by
  decide

theorem listStaleFileReceipts_emptyFileStore (items : Table CatalogRow.remoteId) :
    (emptyFileStore items).listStaleFileReceipts = .ok [emptyFileReceipt] := by
  change (do
    [emptyFileReceipt].forM fun receipt =>
      validateMaterializationReceiptValues receipt.remoteId receipt.relativePath receipt.sha256Hex
    Except.ok [emptyFileReceipt]) = _
  change (do
    (do
      validateMaterializationReceiptValues ['3'] ['a'] emptySha256Hex
      Except.ok ())
    Except.ok [emptyFileReceipt]) = _
  rw [validate_emptyFileReceipt]
  rfl

theorem not_isScratch_emptyFileReceipt : ¬ IsScratch emptyFileReceipt.path := by
  rintro ⟨parent, kind, processId, n, hpath⟩
  have hname : [] ++ [.utf8 ['a'] (by decide)] = parent ++ [scratchName kind processId n] := hpath
  obtain ⟨-, hlast⟩ := List.append_inj' hname rfl
  have htext : ['a'] = scratchText kind processId n :=
    (FileName.utf8.injEq _ _ _ _).mp (List.singleton_inj.mp hlast)
  have hlength := congrArg List.length htext
  have hstem : 2 < kind.stem.length := by cases kind <;> decide
  simp only [scratchText, List.length_append, List.length_singleton] at hlength
  omega

theorem unscratched_emptyFileStore (items : Table CatalogRow.remoteId) {receipts : List FileReceiptRow}
    (h : (emptyFileStore items).listStaleFileReceipts = .ok receipts) : Unscratched receipts := by
  rw [listStaleFileReceipts_emptyFileStore] at h
  obtain rfl := Except.ok.inj h
  intro receipt hreceipt
  rw [List.mem_singleton] at hreceipt
  rw [hreceipt]
  exact not_isScratch_emptyFileReceipt

end NubiSync
