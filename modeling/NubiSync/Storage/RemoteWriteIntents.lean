import Mathlib.Data.List.Sort
import NubiSync.Storage.LocalInventory

set_option autoImplicit false

/-! # Remote-write authority and intents

The authority a root has observed on its remote items, and the durable life of an intent: its insert
against the pending local event it answers, and the compare-and-set transitions of the two creates up
to a confirmation. -/

namespace NubiSync

open Checks

/-! ## Authority -/

/-- `upsert_sync_root_remote_write_authority`. -/
def RootStore.upsertRemoteWriteAuthority (store : RootStore)
    (authority : RemoteWriteAuthoritySnapshot) : RootStore :=
  { store with authority := store.authority.upsert authority }

/-- The `DELETE` and the plain `INSERT`s that replace the observed authority. -/
def replacedAuthority (authorities : List RemoteWriteAuthoritySnapshot) :
    Except StorageError (Table RemoteWriteAuthoritySnapshot.remoteId) :=
  authorities.foldlM insertNew ∅

/-- `replace_sync_root_remote_write_authority_snapshot`. -/
def RootStore.replaceRemoteWriteAuthority (store : RootStore)
    (authorities : List RemoteWriteAuthoritySnapshot) : Except StorageError (RootStore × ℕ) := do
  let authority ← replacedAuthority authorities
  .ok ({ store with authority := authority }, authorities.length)

/-- `commit_sync_root_remote_write_authority_snapshot`. -/
def RootStore.commitRemoteWriteAuthoritySnapshot (store : RootStore)
    (expectedChangeCursor : ChangeCursor) (authorities : List RemoteWriteAuthoritySnapshot)
    (observedAtUnixMs : Int) : Except StorageError (RootStore × ℕ) := do
  let state ← orRefuse store.remoteState .remoteWriteAuthorityCatalogNotReady
  refuseIf (!state.snapshotComplete || !state.catchupComplete) .remoteWriteAuthorityCatalogNotReady
  refuseIf (state.changeCursor != some expectedChangeCursor) .remoteWriteAuthorityCursorMismatch
  refuseIf store.windowState.isSome .remoteWriteAuthorityCatalogNotReady
  let expectedAuthorities ← checkedAdd store.catalog.itemCount 1
  let authorityCount ← toI64 authorities.length
  refuseIf (authorityCount != expectedAuthorities) .remoteWriteAuthorityCountMismatch
  refuseIf (authorities.any (·.observedAtUnixMs != observedAtUnixMs)) .invalidRemoteWriteAuthority
  let authority ← replacedAuthority authorities
  .ok ({ store with
    authority := authority
    authorityState := some ⟨expectedChangeCursor, authorityCount⟩ }, authorityCount)

/-! ## Planning an intent -/

/-- The local evidence of a file: size, modification time, device and inode. -/
def RemoteWriteIntentFields.hasFileIdentity (input : RemoteWriteIntentFields) : Bool :=
  input.localSizeBytes.isSome && input.localModifiedUnixNs.isSome && input.localDeviceId.isSome
    && input.localInode.isSome

/-- The local evidence of a directory, which has no size. -/
def RemoteWriteIntentFields.hasDirectoryIdentity (input : RemoteWriteIntentFields) : Bool :=
  input.localSizeBytes.isNone && input.localModifiedUnixNs.isSome && input.localDeviceId.isSome
    && input.localInode.isSome

/-- What `RemoteWriteIntentInput::new` asks of both creates, but for the local evidence. -/
def RemoteWriteIntentFields.isCreateShape (input : RemoteWriteIntentFields) : Bool :=
  input.targetRemoteId.isNone && input.predeterminedRemoteId.isSome
    && input.expectedParentRemoteId.isSome && input.expectedRemoteKind.isNone
    && input.expectedRemoteVersion.isNone

/-- The shape of an input, by operation. -/
def RemoteWriteIntentFields.isShape (input : RemoteWriteIntentFields) : Bool :=
  match input.operation with
  | .createFile =>
      input.localKind == .file && input.hasFileIdentity && input.isCreateShape
  | .createFolder =>
      input.localKind == .directory && input.hasDirectoryIdentity && input.isCreateShape
  | .updateFile =>
      input.localKind == .file && input.hasFileIdentity && input.targetRemoteId.isSome
        && input.predeterminedRemoteId.isNone && input.expectedParentRemoteId.isSome
        && input.expectedRemoteKind == some .file && input.expectedRemoteVersion.isSome
  | .trashItem =>
      input.targetRemoteId.isSome && input.predeterminedRemoteId.isNone
        && input.expectedParentRemoteId.isSome && input.expectedRemoteKind.isSome
        && input.expectedRemoteVersion.isSome && input.localModifiedUnixNs.isSome
        && input.localDeviceId.isSome && input.localInode.isSome

/-- The checks of `RemoteWriteIntentInput::new`. -/
def RemoteWriteIntentFields.check (input : RemoteWriteIntentFields) : Except StorageError Unit := do
  refuseIf (input.sourceLocalEventId == 0 || input.baselineGeneration == 0
    || !isSafeRelativePath input.relativePath) .invalidRemoteWriteIntent
  ([input.targetRemoteId, input.predeterminedRemoteId,
    input.expectedParentRemoteId].filterMap id).forM validateRemoteWriteIdentifier
  validateOptionalChecksum input.expectedChecksumAlgorithm input.expectedContentChecksum
  refuseIf (!input.isShape) .invalidRemoteWriteIntent
  refuseIf (input.expectedRemoteVersion == some 0) .invalidRemoteWriteIntent

/-- `RemoteWriteIntentInput`, which only its constructor can build. -/
structure RemoteWriteIntentInput extends RemoteWriteIntentFields where
  checked : toRemoteWriteIntentFields.check = .ok ()

theorem RemoteWriteIntentInput.identifiers_valid (input : RemoteWriteIntentInput) {remoteId : Text}
    (h : input.predeterminedRemoteId = some remoteId
      ∨ input.expectedParentRemoteId = some remoteId) :
    validateRemoteWriteIdentifier remoteId = .ok () := by
  have hchecked := input.checked
  simp only [RemoteWriteIntentFields.check, bind_eq_ok] at hchecked
  obtain ⟨_, _, _, hvalid, -⟩ := hchecked
  refine of_forM_eq_ok hvalid (List.mem_filterMap.mpr ⟨some remoteId, ?_, rfl⟩)
  simpa [eq_comm] using Or.inr h

/-- `validate_intent_against_local_event`. -/
def RemoteWriteIntentInput.matchesEvent (input : RemoteWriteIntentInput)
    (event : LocalChangeEventRow) : Bool :=
  match input.operation with
  | .createFile =>
      event.eventKind == .created && event.baselineKind.isNone && event.currentKind == some .file
  | .createFolder =>
      event.eventKind == .created && event.baselineKind.isNone
        && event.currentKind == some .directory
  | .updateFile =>
      event.eventKind == .modified && event.baselineKind == some .file
        && event.currentKind == some .file
  | .trashItem =>
      event.eventKind == .deleted && event.baselineKind == some input.localKind
        && event.currentKind.isNone

/-- The event of an id. -/
def RootStore.localEvent? (store : RootStore) (id : ℕ) : Option LocalChangeEventRow :=
  store.localEvents.rows.find? (·.id == id)

/-- The authority an operation needs on its parent or its target. -/
def RootStore.checkIntentAuthority (store : RootStore) (input : RemoteWriteIntentInput) :
    Except StorageError Unit :=
  match input.operation with
  | .createFile | .createFolder => do
      let parent ← orRefuse input.expectedParentRemoteId .invalidRemoteWriteIntent
      let authority ← orRefuse (store.authority.find? parent) .remoteWriteIntentAuthorityMismatch
      refuseIf (!authority.canAddChildren) .remoteWriteIntentAuthorityMismatch
  | .updateFile => do
      let target ← orRefuse input.targetRemoteId .invalidRemoteWriteIntent
      let authority ← orRefuse (store.authority.find? target) .remoteWriteIntentAuthorityMismatch
      refuseIf (!authority.canEdit || some authority.remoteVersion != input.expectedRemoteVersion)
        .remoteWriteIntentAuthorityMismatch
  | .trashItem => do
      let target ← orRefuse input.targetRemoteId .invalidRemoteWriteIntent
      let authority ← orRefuse (store.authority.find? target) .remoteWriteIntentAuthorityMismatch
      refuseIf (!authority.canTrash || some authority.remoteVersion != input.expectedRemoteVersion)
        .remoteWriteIntentAuthorityMismatch

/-- The unique indexes of the intent table: one intent for each event, and one for each
    predetermined id. -/
def RootStore.hasIntentLike (store : RootStore) (input : RemoteWriteIntentInput) : Bool :=
  store.intents.rows.any fun intent => intent.sourceLocalEventId == input.sourceLocalEventId
    || input.predeterminedRemoteId.isSome
      && intent.predeterminedRemoteId == input.predeterminedRemoteId

/-- `insert_sync_root_remote_write_intent_in_transaction`: the id of the intent. -/
def RootStore.insertRemoteWriteIntent (store : RootStore) (input : RemoteWriteIntentInput) :
    Except StorageError (RootStore × ℕ) := do
  refuseIf (store.mode == .receiveOnly) .remoteWriteIntentRootNotWriteCapable
  let state ← orRefuse store.completeBaseline? .remoteWriteIntentSourceMismatch
  refuseIf (state.generation != input.baselineGeneration || !state.observationValid)
    .remoteWriteIntentSourceMismatch
  let event ← orRefuse (store.localEvent? input.sourceLocalEventId) .remoteWriteIntentSourceMismatch
  refuseIf (event.baselineGeneration != input.baselineGeneration
    || event.relativePath != input.relativePath || event.status != .pending)
    .remoteWriteIntentSourceMismatch
  refuseIf (!input.matchesEvent event) .remoteWriteIntentSourceMismatch
  store.checkIntentAuthority input
  let _ ← toI64 input.baselineGeneration
  let _ ← toI64? input.localSizeBytes
  let _ ← toI64? input.expectedRemoteSizeBytes
  refuseIf (store.hasIntentLike input) .sqlite
  .ok ({ store with
    intents := store.intents.upsert
      { toRemoteWriteIntentFields := input.toRemoteWriteIntentFields
        id := store.nextIntentId
        attemptCount := 0
        executionGeneration := 0
        lastAttemptAtUnixMs := none
        submittedAtUnixMs := none
        preSubmitChangeCursor := none
        awaitingConfirmationAtUnixMs := none
        confirmedAtUnixMs := none
        terminalAtUnixMs := none
        status := .planned }
    nextIntentId := store.nextIntentId + 1 }, store.nextIntentId)

/-- The row of a new intent. -/
def RemoteWriteIntentInput.plannedRow (input : RemoteWriteIntentInput) (id : ℕ) :
    RemoteWriteIntentRow where
  toRemoteWriteIntentFields := input.toRemoteWriteIntentFields
  id := id
  attemptCount := 0
  executionGeneration := 0
  lastAttemptAtUnixMs := none
  submittedAtUnixMs := none
  preSubmitChangeCursor := none
  awaitingConfirmationAtUnixMs := none
  confirmedAtUnixMs := none
  terminalAtUnixMs := none
  status := .planned

/-- The state with a new intent. -/
def RootStore.withPlanned (store : RootStore) (input : RemoteWriteIntentInput) : RootStore :=
  { store with
    intents := store.intents.upsert (input.plannedRow store.nextIntentId)
    nextIntentId := store.nextIntentId + 1 }

/-- What a root must be like for an intent to be inserted: it takes writes, the intent is of its valid
    baseline and answers a pending event there, the authority allows it, its numbers fit the columns, and
    no intent has its event or its predetermined id. -/
structure RootStore.AcceptsIntent (store : RootStore) (input : RemoteWriteIntentInput) : Prop where
  writable : store.mode ≠ .receiveOnly
  baseline : ∃ state, store.completeBaseline? = some state ∧
    state.generation = input.baselineGeneration ∧ state.observationValid = true
  event : ∃ event, store.localEvent? input.sourceLocalEventId = some event ∧
    event.isPending input.baselineGeneration = true ∧ event.relativePath = input.relativePath ∧
    input.matchesEvent event = true
  authority : store.checkIntentAuthority input = .ok ()
  generation : input.baselineGeneration < 2 ^ 63
  localSize : ∀ size ∈ input.localSizeBytes, size < 2 ^ 63
  remoteSize : ∀ size ∈ input.expectedRemoteSizeBytes, size < 2 ^ 63
  unused : store.hasIntentLike input = false

/-- **An intent is inserted exactly when the root accepts it.** -/
theorem insertRemoteWriteIntent_eq_ok_iff {store : RootStore} {input : RemoteWriteIntentInput}
    {r : RootStore × ℕ} :
    store.insertRemoteWriteIntent input = .ok r ↔
      store.AcceptsIntent input ∧ r = (store.withPlanned input, store.nextIntentId) := by
  unfold RootStore.insertRemoteWriteIntent
  simp only [bind_eq_ok, refuseIf_eq_ok, orRefuse_eq_ok, toI64_eq_ok_iff, toI64?_eq_ok_iff,
    beq_eq_false_iff_ne, bne_eq_false_iff_eq, Bool.or_eq_false_iff, Bool.not_eq_false',
    Except.ok.injEq]
  constructor
  · rintro ⟨_, hmode, state, hstate, _, ⟨hgeneration, hvalid⟩, event, hevent, _,
      ⟨⟨hat, hpath⟩, hpending⟩, _, hmatches, _, hauthority, _, ⟨hfits, -⟩, _, ⟨hlocal, -⟩, _,
      ⟨hremote, -⟩, _, hunused, rfl⟩
    refine ⟨⟨hmode, ⟨state, hstate, hgeneration, hvalid⟩, ⟨event, hevent, ?_, hpath, hmatches⟩,
      hauthority, hfits, hlocal, hremote, hunused⟩, rfl⟩
    simp [LocalChangeEventRow.isPending, hat, hpending]
  · rintro ⟨h, rfl⟩
    obtain ⟨state, hstate, hgeneration, hvalid⟩ := h.baseline
    obtain ⟨event, hevent, hpending, hpath, hmatches⟩ := h.event
    simp only [LocalChangeEventRow.isPending, Bool.and_eq_true, beq_iff_eq] at hpending
    exact ⟨(), h.writable, state, hstate, (), ⟨hgeneration, hvalid⟩, event, hevent, (),
      ⟨⟨hpending.1, hpath⟩, hpending.2⟩, (), hmatches, (), h.authority, _, ⟨h.generation, rfl⟩, _,
      ⟨h.localSize, rfl⟩, _, ⟨h.remoteSize, rfl⟩, (), h.unused, rfl⟩

/-- `create_sync_root_remote_write_intent`. -/
def RootStore.createRemoteWriteIntent (store : RootStore) (input : RemoteWriteIntentInput) :
    Except StorageError (RootStore × ℕ) :=
  store.insertRemoteWriteIntent input

/-- `create_sync_root_remote_write_intents_batch`, of at most 64 intents. -/
def RootStore.createRemoteWriteIntentsBatch (store : RootStore)
    (inputs : List RemoteWriteIntentInput) : Except StorageError (RootStore × List ℕ) := do
  refuseIf (inputs.isEmpty || decide (inputs.length > 64)) .invalidRemoteWriteIntentBatch
  inputs.foldlM (fun (acc : RootStore × List ℕ) input => do
    let (next, id) ← acc.1.insertRemoteWriteIntent input
    .ok (next, acc.2 ++ [id])) (store, [])

/-! ## Execution states -/

structure RemoteWriteIntentExecutionState where
  intentId : ℕ
  operation : RemoteWriteIntentOperation
  status : RemoteWriteIntentStatus
  attemptCount : ℕ
  executionGeneration : ℕ
  lastAttemptAtUnixMs : Option Int
  submittedAtUnixMs : Option Int
  preSubmitChangeCursor : Option ChangeCursor
  awaitingConfirmationAtUnixMs : Option Int
  confirmedAtUnixMs : Option Int
  terminalAtUnixMs : Option Int
  deriving DecidableEq

/-- `query_remote_write_intent_execution_state`. -/
def RemoteWriteIntentRow.executionState (intent : RemoteWriteIntentRow) :
    RemoteWriteIntentExecutionState :=
  ⟨intent.id, intent.operation, intent.status, intent.attemptCount, intent.executionGeneration,
    intent.lastAttemptAtUnixMs, intent.submittedAtUnixMs, intent.preSubmitChangeCursor,
    intent.awaitingConfirmationAtUnixMs, intent.confirmedAtUnixMs, intent.terminalAtUnixMs⟩

/-- An `UPDATE` of one intent by id. -/
def RootStore.writeIntent (store : RootStore) (intent : RemoteWriteIntentRow) :
    RootStore × RemoteWriteIntentExecutionState :=
  ({ store with intents := store.intents.upsert intent }, intent.executionState)

/-- The intent a compare-and-set `UPDATE` finds. -/
def RootStore.intentWhere (store : RootStore) (intentId : ℕ) (admits : RemoteWriteIntentRow → Bool) :
    Except StorageError RemoteWriteIntentRow :=
  orRefuse ((store.intents.find? intentId).filter admits)
    .remoteWriteIntentExecutionCompareAndSetFailed

/-! ## Submitting a create -/

/-- The catalog a submission starts from: caught up, at the expected cursor, with no open window. -/
def RootStore.checkSubmissionCatalog (store : RootStore) (preSubmitChangeCursor : ChangeCursor) :
    Except StorageError Unit := do
  let state ← orRefuse store.remoteState .remoteWriteIntentExecutionPreconditionFailed
  refuseIf (!state.snapshotComplete || !state.catchupComplete
    || state.changeCursor != some preSubmitChangeCursor)
    .remoteWriteIntentExecutionPreconditionFailed
  refuseIf store.windowState.isSome .remoteWriteIntentExecutionPreconditionFailed

/-- The local baseline an intent was planned on still stands. -/
def RootStore.checkSubmissionBaseline (store : RootStore) (intent : RemoteWriteIntentRow) :
    Except StorageError Unit := do
  let state ← orRefuse store.completeBaseline? .remoteWriteIntentExecutionPreconditionFailed
  refuseIf (state.generation != intent.baselineGeneration || !state.observationValid)
    .remoteWriteIntentExecutionPreconditionFailed

/-- A parent that accepts children, as far as the observed authority says. -/
def RootStore.checkSubmissionParent (store : RootStore) (parent : Text) :
    Except StorageError Unit :=
  refuseIf (!(store.authority.find? parent).any (·.canAddChildren))
    .remoteWriteIntentExecutionPreconditionFailed

/-- The two begin operations, which differ in the operation of the intent, in the kind of the created
    local item and in that only a file needs a size. -/
def RootStore.beginCreateSubmission (store : RootStore) (operation : RemoteWriteIntentOperation)
    (createdKind : LocalItemKind) (intentId expectedExecutionGeneration : ℕ)
    (preSubmitChangeCursor : ChangeCursor) (attemptAtUnixMs : Int) :
    Except StorageError (RootStore × RemoteWriteIntentExecutionState) := do
  refuseIf (intentId == 0 || decide (attemptAtUnixMs ≤ 0))
    .invalidRemoteWriteIntentExecutionTransition
  let executionGeneration ← toI64 expectedExecutionGeneration
  refuseIf (store.mode != .twoWay) .remoteWriteIntentExecutionPreconditionFailed
  let intent ← orRefuse (store.intents.find? intentId) .remoteWriteIntentExecutionPreconditionFailed
  refuseIf (intent.operation != operation || intent.status != .planned
    || intent.executionGeneration != executionGeneration
    || (createdKind == .file && intent.localSizeBytes.isNone)
    || intent.predeterminedRemoteId.isNone || intent.expectedParentRemoteId.isNone)
    .remoteWriteIntentExecutionPreconditionFailed
  store.checkSubmissionBaseline intent
  refuseIf (!store.localEvents.rows.any fun event => event.id == intent.sourceLocalEventId
    && event.isPending intent.baselineGeneration && event.eventKind == .created
    && event.currentKind == some createdKind) .remoteWriteIntentExecutionPreconditionFailed
  store.checkSubmissionCatalog preSubmitChangeCursor
  refuseIf (!store.authorityState.any (·.changeCursor == preSubmitChangeCursor))
    .remoteWriteIntentExecutionPreconditionFailed
  let parent ← orRefuse intent.expectedParentRemoteId
    .remoteWriteIntentExecutionPreconditionFailed
  store.checkSubmissionParent parent
  .ok (store.writeIntent { intent with
    status := .submitted
    attemptCount := intent.attemptCount + 1
    executionGeneration := intent.executionGeneration + 1
    lastAttemptAtUnixMs := some attemptAtUnixMs
    submittedAtUnixMs := some attemptAtUnixMs
    preSubmitChangeCursor := some preSubmitChangeCursor })

/-- `begin_sync_root_file_create_submission`. -/
def RootStore.beginFileCreateSubmission (store : RootStore) :=
  store.beginCreateSubmission .createFile .file

/-- `begin_sync_root_folder_create_submission`. -/
def RootStore.beginFolderCreateSubmission (store : RootStore) :=
  store.beginCreateSubmission .createFolder .directory

/-- The authority a restart needs, of every item of the catalog and of the root. -/
def RootStore.checkRestartAuthority (store : RootStore) (preSubmitChangeCursor : ChangeCursor) :
    Except StorageError Unit := do
  let authorityState ← orRefuse store.authorityState .remoteWriteIntentExecutionPreconditionFailed
  let expectedItems ← checkedAdd store.catalog.itemCount 1
  refuseIf (authorityState.changeCursor != preSubmitChangeCursor
    || authorityState.itemCount != expectedItems
    || store.authority.rows.length != expectedItems) .remoteWriteIntentExecutionPreconditionFailed

/-- The content evidence of a submission that is restarted: none yet, or that of the local file. -/
def RemoteWriteIntentRow.checkRestartEvidence (intent : RemoteWriteIntentRow) :
    Except StorageError Unit :=
  match intent.expectedRemoteSizeBytes, intent.expectedChecksumAlgorithm,
    intent.expectedContentChecksum with
  | none, none, none => .ok ()
  | some size, some algorithm, some checksum => do
      refuseIf (algorithm != "sha256".toList || some size != intent.localSizeBytes || size == 0)
        .remoteWriteIntentExecutionPreconditionFailed
      validateOptionalChecksum (some algorithm) (some checksum)
  | _, _, _ => .error .remoteWriteIntentExecutionPreconditionFailed

/-- `restart_sync_root_file_create_submission`. -/
def RootStore.restartFileCreateSubmission (store : RootStore)
    (intentId expectedExecutionGeneration expectedAttemptCount : ℕ)
    (preSubmitChangeCursor : ChangeCursor) (attemptAtUnixMs : Int) :
    Except StorageError (RootStore × RemoteWriteIntentExecutionState) := do
  refuseIf (intentId == 0 || expectedAttemptCount == 0 || decide (attemptAtUnixMs ≤ 0))
    .invalidRemoteWriteIntentExecutionTransition
  let executionGeneration ← toI64 expectedExecutionGeneration
  let attemptCount ← toI64 expectedAttemptCount
  let nextGeneration ← checkedAdd executionGeneration 1
  let nextAttempt ← checkedAdd attemptCount 1
  refuseIf (store.mode != .twoWay) .remoteWriteIntentExecutionPreconditionFailed
  let intent ← orRefuse (store.intents.find? intentId) .remoteWriteIntentExecutionPreconditionFailed
  refuseIf (intent.operation != .createFile || intent.status != .submitted
    || intent.executionGeneration != executionGeneration || intent.attemptCount != attemptCount
    || !intent.localSizeBytes.any (· != 0) || intent.expectedRemoteVersion.isSome
    || intent.awaitingConfirmationAtUnixMs.isSome || intent.confirmedAtUnixMs.isSome
    || intent.terminalAtUnixMs.isSome) .remoteWriteIntentExecutionPreconditionFailed
  let predetermined ← orRefuse intent.predeterminedRemoteId
    .remoteWriteIntentExecutionPreconditionFailed
  let parent ← orRefuse intent.expectedParentRemoteId .remoteWriteIntentExecutionPreconditionFailed
  intent.checkRestartEvidence
  validateRemoteWriteIdentifier predetermined
  validateRemoteWriteIdentifier parent
  store.checkSubmissionBaseline intent
  let source := store.localEvents.rows.find? fun event => event.id == intent.sourceLocalEventId
    && event.isPending intent.baselineGeneration
  -- the kind is read into a `String`, which a `NULL` does not convert to
  refuseIf (source.any (·.currentKind.isNone)) .sqlite
  refuseIf (!source.any fun event => event.eventKind == .created
    && event.currentKind == some .file && event.relativePath == intent.relativePath)
    .remoteWriteIntentExecutionPreconditionFailed
  store.checkSubmissionCatalog preSubmitChangeCursor
  store.checkRestartAuthority preSubmitChangeCursor
  store.checkSubmissionParent parent
  refuseIf (store.settlements.find? intentId).isSome .remoteWriteIntentExecutionPreconditionFailed
  .ok (store.writeIntent { intent with
    attemptCount := nextAttempt
    executionGeneration := nextGeneration
    lastAttemptAtUnixMs := some attemptAtUnixMs
    submittedAtUnixMs := some attemptAtUnixMs
    preSubmitChangeCursor := some preSubmitChangeCursor })

/-! ## Content evidence and completion of a file create -/

/-- A column that is unset or already holds the value. -/
def unsetOr {α : Type} [DecidableEq α] (column : Option α) (value : α) : Bool :=
  column.isNone || column == some value

/-- `record_sync_root_file_create_stream_fingerprint`. -/
def RootStore.recordFileCreateStreamFingerprint (store : RootStore)
    (intentId expectedExecutionGeneration sizeBytes : ℕ) (sha256Hex : Text) :
    Except StorageError (RootStore × RemoteWriteIntentExecutionState) := do
  refuseIf (intentId == 0 || sizeBytes == 0) .invalidRemoteWriteIntentExecutionTransition
  validateOptionalChecksum (some "sha256".toList) (some sha256Hex)
  let executionGeneration ← toI64 expectedExecutionGeneration
  let size ← toI64 sizeBytes
  let intent ← store.intentWhere intentId fun intent => intent.operation == .createFile
    && intent.status == .submitted && intent.executionGeneration == executionGeneration
    && unsetOr intent.expectedRemoteSizeBytes size
    && unsetOr intent.expectedChecksumAlgorithm "sha256".toList
    && unsetOr intent.expectedContentChecksum sha256Hex
  .ok (store.writeIntent { intent with
    expectedRemoteSizeBytes := some size
    expectedChecksumAlgorithm := some "sha256".toList
    expectedContentChecksum := some sha256Hex })

structure RemoteWriteFileCreateContentEvidence where
  sizeBytes : ℕ
  sha256Hex : Text
  remoteVersion : Option ℕ
  deriving DecidableEq

/-- `sync_root_file_create_content_evidence`. -/
def RootStore.fileCreateContentEvidence (store : RootStore) (intentId : ℕ) :
    Except StorageError (Option RemoteWriteFileCreateContentEvidence) := do
  refuseIf (intentId == 0) .invalidRemoteWriteIntentExecutionTransition
  match store.intents.find? intentId with
  | none => .ok none
  | some intent =>
      refuseIf (intent.operation != .createFile) .invalidStoredRemoteWriteIntentExecutionState
      match intent.expectedRemoteSizeBytes, intent.expectedChecksumAlgorithm,
        intent.expectedContentChecksum with
      | none, none, none => .ok none
      | some size, some algorithm, some checksum =>
          refuseIf (size == 0 || algorithm != "sha256".toList)
            .invalidStoredRemoteWriteIntentExecutionState
          validateOptionalChecksum (some algorithm) (some checksum)
          refuseIf (intent.expectedRemoteVersion == some 0)
            .invalidStoredRemoteWriteIntentExecutionState
          .ok (some ⟨size, checksum, intent.expectedRemoteVersion⟩)
      | _, _, _ => .error .invalidStoredRemoteWriteIntentExecutionState

/-- `complete_sync_root_file_create_upload`. -/
def RootStore.completeFileCreateUpload (store : RootStore)
    (intentId expectedExecutionGeneration remoteVersion : ℕ) (completedAtUnixMs : Int) :
    Except StorageError (RootStore × RemoteWriteIntentExecutionState) := do
  refuseIf (intentId == 0 || remoteVersion == 0 || decide (completedAtUnixMs ≤ 0))
    .invalidRemoteWriteIntentExecutionTransition
  let executionGeneration ← toI64 expectedExecutionGeneration
  let found ← store.fileCreateContentEvidence intentId
  let evidence ← orRefuse found .remoteWriteIntentExecutionPreconditionFailed
  refuseIf (evidence.sizeBytes == 0) .remoteWriteIntentExecutionPreconditionFailed
  let intent ← store.intentWhere intentId fun intent => intent.operation == .createFile
    && intent.status == .submitted && intent.executionGeneration == executionGeneration
    && intent.expectedRemoteSizeBytes.isSome
    && intent.expectedChecksumAlgorithm == some "sha256".toList
    && intent.expectedContentChecksum.isSome
  .ok (store.writeIntent { intent with
    status := .awaitingConfirmation
    executionGeneration := intent.executionGeneration + 1
    expectedRemoteKind := some .file
    expectedRemoteVersion := some remoteVersion
    awaitingConfirmationAtUnixMs := some completedAtUnixMs })

/-! ## Transitions -/

/-- `recover_sync_root_file_create_confirmation_conflict`. -/
def RootStore.recoverFileCreateConfirmationConflict (store : RootStore)
    (intentId expectedExecutionGeneration expectedAttemptCount : ℕ) (confirmedAtUnixMs : Int) :
    Except StorageError (RootStore × RemoteWriteIntentExecutionState) := do
  refuseIf (intentId == 0 || expectedExecutionGeneration == 0 || expectedAttemptCount == 0
    || decide (confirmedAtUnixMs ≤ 0)) .invalidRemoteWriteIntentExecutionTransition
  let executionGeneration ← toI64 expectedExecutionGeneration
  let attemptCount ← toI64 expectedAttemptCount
  let intent ← store.intentWhere intentId fun intent => intent.operation == .createFile
    && intent.status == .conflict && intent.executionGeneration == executionGeneration
    && intent.attemptCount == attemptCount && intent.preSubmitChangeCursor.isSome
    && intent.expectedRemoteKind == some .file && intent.expectedRemoteVersion.isSome
    && intent.expectedRemoteSizeBytes.isSome
    && intent.expectedChecksumAlgorithm == some "sha256".toList
    && intent.expectedContentChecksum.isSome && (store.settlements.find? intentId).isNone
  .ok (store.writeIntent { intent with
    status := .confirmed
    executionGeneration := intent.executionGeneration + 1
    confirmedAtUnixMs := some confirmedAtUnixMs
    terminalAtUnixMs := none })

/-- The transitions of a file create; only `complete_sync_root_file_create_upload` moves one on to
    `awaiting_confirmation`. -/
def isFileCreateTransition : RemoteWriteIntentStatus → RemoteWriteIntentStatus → Bool
  | .submitted, .conflict | .submitted, .failed => true
  | .awaitingConfirmation, .confirmed | .awaitingConfirmation, .conflict => true
  | _, _ => false

/-- The transitions of a folder create. -/
def isFolderCreateTransition : RemoteWriteIntentStatus → RemoteWriteIntentStatus → Bool
  | .submitted, .awaitingConfirmation => true
  | expected, new => isFileCreateTransition expected new

/-- The columns a transition writes, its time in the one that belongs to the new status. -/
def RemoteWriteIntentRow.transitioned (intent : RemoteWriteIntentRow)
    (newStatus : RemoteWriteIntentStatus) (transitionedAtUnixMs : Int) : RemoteWriteIntentRow :=
  { intent with
    status := newStatus
    executionGeneration := intent.executionGeneration + 1
    awaitingConfirmationAtUnixMs :=
      if newStatus = .awaitingConfirmation then some transitionedAtUnixMs
      else intent.awaitingConfirmationAtUnixMs
    confirmedAtUnixMs :=
      if newStatus = .confirmed then some transitionedAtUnixMs else intent.confirmedAtUnixMs
    terminalAtUnixMs :=
      if newStatus = .conflict ∨ newStatus = .failed then some transitionedAtUnixMs
      else intent.terminalAtUnixMs }

/-- A transition of a create, by its operation and the pairs of statuses it admits. -/
def RootStore.transitionCreateIntent (store : RootStore) (operation : RemoteWriteIntentOperation)
    (isTransition : RemoteWriteIntentStatus → RemoteWriteIntentStatus → Bool) (intentId : ℕ)
    (expectedStatus : RemoteWriteIntentStatus) (expectedExecutionGeneration : ℕ)
    (newStatus : RemoteWriteIntentStatus) (transitionedAtUnixMs : Int) :
    Except StorageError (RootStore × RemoteWriteIntentExecutionState) := do
  refuseIf (intentId == 0 || decide (transitionedAtUnixMs ≤ 0))
    .invalidRemoteWriteIntentExecutionTransition
  refuseIf (!isTransition expectedStatus newStatus) .invalidRemoteWriteIntentExecutionTransition
  let executionGeneration ← toI64 expectedExecutionGeneration
  let intent ← store.intentWhere intentId fun intent => intent.operation == operation
    && intent.status == expectedStatus && intent.executionGeneration == executionGeneration
  .ok (store.writeIntent (intent.transitioned newStatus transitionedAtUnixMs))

/-- `transition_sync_root_file_create_intent`. -/
def RootStore.transitionFileCreateIntent (store : RootStore) :=
  store.transitionCreateIntent .createFile isFileCreateTransition

/-- `transition_sync_root_folder_create_intent`. -/
def RootStore.transitionFolderCreateIntent (store : RootStore) :=
  store.transitionCreateIntent .createFolder isFolderCreateTransition

/-! ## Candidates -/

structure RemoteWriteFileCreateCandidate where
  intentId : ℕ
  sourceLocalEventId : ℕ
  baselineGeneration : ℕ
  relativePath : Text
  localSizeBytes : ℕ
  localModifiedUnixNs : Int
  localDeviceId : ℕ
  localInode : ℕ
  predeterminedRemoteId : Text
  expectedParentRemoteId : Text
  status : RemoteWriteIntentStatus
  executionGeneration : ℕ
  deriving DecidableEq

structure RemoteWriteFolderCreateCandidate where
  intentId : ℕ
  sourceLocalEventId : ℕ
  baselineGeneration : ℕ
  relativePath : Text
  localModifiedUnixNs : Int
  localDeviceId : ℕ
  localInode : ℕ
  predeterminedRemoteId : Text
  expectedParentRemoteId : Text
  status : RemoteWriteIntentStatus
  executionGeneration : ℕ
  deriving DecidableEq

/-- The checks both listings make of a row first. -/
def RemoteWriteIntentRow.checkCandidate (intent : RemoteWriteIntentRow) : Except StorageError Unit :=
  refuseIf (intent.id == 0 || intent.sourceLocalEventId == 0
    || !isSafeRelativePath intent.relativePath) .invalidStoredRemoteWriteIntentExecutionState

/-- A row of `list_sync_root_file_create_candidates`. -/
def RemoteWriteIntentRow.fileCreateCandidate (intent : RemoteWriteIntentRow) :
    Except StorageError RemoteWriteFileCreateCandidate := do
  intent.checkCandidate
  let size ← orRefuse intent.localSizeBytes .invalidStoredRemoteWriteIntentExecutionState
  let modified ← orRefuse intent.localModifiedUnixNs .invalidStoredRemoteWriteIntentExecutionState
  let device ← orRefuse intent.localDeviceId .invalidStoredRemoteWriteIntentExecutionState
  let inode ← orRefuse intent.localInode .invalidStoredRemoteWriteIntentExecutionState
  let remoteId ← orRefuse intent.predeterminedRemoteId .invalidStoredRemoteWriteIntentExecutionState
  let parent ← orRefuse intent.expectedParentRemoteId .invalidStoredRemoteWriteIntentExecutionState
  validateRemoteWriteIdentifier remoteId
  validateRemoteWriteIdentifier parent
  .ok ⟨intent.id, intent.sourceLocalEventId, intent.baselineGeneration, intent.relativePath, size,
    modified, device, inode, remoteId, parent, intent.status, intent.executionGeneration⟩

/-- A row of `list_sync_root_folder_create_candidates`. -/
def RemoteWriteIntentRow.folderCreateCandidate (intent : RemoteWriteIntentRow) :
    Except StorageError RemoteWriteFolderCreateCandidate := do
  intent.checkCandidate
  let modified ← orRefuse intent.localModifiedUnixNs .invalidStoredRemoteWriteIntentExecutionState
  let device ← orRefuse intent.localDeviceId .invalidStoredRemoteWriteIntentExecutionState
  let inode ← orRefuse intent.localInode .invalidStoredRemoteWriteIntentExecutionState
  let remoteId ← orRefuse intent.predeterminedRemoteId .invalidStoredRemoteWriteIntentExecutionState
  let parent ← orRefuse intent.expectedParentRemoteId .invalidStoredRemoteWriteIntentExecutionState
  validateRemoteWriteIdentifier remoteId
  validateRemoteWriteIdentifier parent
  .ok ⟨intent.id, intent.sourceLocalEventId, intent.baselineGeneration, intent.relativePath,
    modified, device, inode, remoteId, parent, intent.status, intent.executionGeneration⟩

/-- The intents of an operation and a status, `ORDER BY id`. -/
def RootStore.intentsOf (store : RootStore) (operation : RemoteWriteIntentOperation)
    (status : RemoteWriteIntentStatus) : List RemoteWriteIntentRow :=
  (store.intents.rows.filter fun intent => intent.operation == operation
    && intent.status == status).insertionSort fun left right => left.id ≤ right.id

/-- `list_sync_root_file_create_candidates`. -/
def RootStore.listFileCreateCandidates (store : RootStore) (status : RemoteWriteIntentStatus) :
    Except StorageError (List RemoteWriteFileCreateCandidate) :=
  (store.intentsOf .createFile status).mapM RemoteWriteIntentRow.fileCreateCandidate

/-- `list_sync_root_folder_create_candidates`. -/
def RootStore.listFolderCreateCandidates (store : RootStore) (status : RemoteWriteIntentStatus) :
    Except StorageError (List RemoteWriteFolderCreateCandidate) :=
  (store.intentsOf .createFolder status).mapM RemoteWriteIntentRow.folderCreateCandidate

end NubiSync
