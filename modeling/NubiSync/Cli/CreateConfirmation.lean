import NubiSync.Daemon.ChangeWindows
import NubiSync.Daemon.SettlementPlans

set_option autoImplicit false

/-! # Confirming a create

`confirm-file-create` and `confirm-folder-create` take a create from `awaiting_confirmation` to
`confirmed` or to `conflict`. Each is one program of several transactions: the pages of the feed since
the submission are staged, the window is committed or discarded, and the intent is moved on. They
differ in how they choose the create and in the evidence a file has beside its name and its parent. -/

namespace NubiSync

open Checks Transactions

/-! ## Commands -/

/-- The two creates that are submitted. -/
inductive CreateKind where
  | file
  | folder
  deriving DecidableEq, Repr

/-- Why a confirmation stops: the errors `SyncRoot…CreateConfirmation…` of either kind. -/
inductive ConfirmationRefusal where
  | modeUnsupported
  | selectionFailed
  | stateMismatch
  | fenceMissing
  | fenceMismatch
  | evidenceMissing
  | evidenceMismatch
  | localStateChanged
  | pageLimitExceeded
  | windowMismatch
  deriving DecidableEq, Repr

/-- Why a metadata refresh stops: the errors `SyncRootTwoWayMetadataRefresh…`. -/
inductive MetadataRefreshRefusal where
  | modeUnsupported
  | confirmationFenceActive
  | localStateNotReady
  | remoteStateNotReady
  | pageLimitExceeded
  | localStateChanged
  | windowNotCleared
  | intentStateChanged
  deriving DecidableEq, Repr

/-- Why the upload of a file create stops: the errors `SyncRootFileCreate…` of its chunk loop. -/
inductive FileCreateUploadRefusal where
  | resumeOffsetMismatch
  | noProgressLimitExceeded
  | sessionExpired
  | streamIncomplete
  | completionMissing
  | providerHashMismatch
  | streamFingerprintMismatch
  deriving DecidableEq, Repr

/-- `CliError`, the errors of the modelled commands. -/
inductive CliError where
  | storage (error : StorageError)
  | executor (error : SelectedRootExecutorError)
  | driveApi
  | fileCreateLocalIdentityMismatch
  | createConfirmation (kind : CreateKind) (refusal : ConfirmationRefusal)
  | metadataRefresh (refusal : MetadataRefreshRefusal)
  | fileCreateUpload (refusal : FileCreateUploadRefusal)
  | numericOverflow
  | noLocalGoogleAccount
  | missingStoredDriveCursor
  | missingCatalogCatchupCursor
  | driveChangePageLimitExceeded
  | driveChangePaginationLoop
  | driveChangeStreamMissingCheckpoint
  | driveInventoryPageLimitExceeded
  | driveInventoryPaginationLoop
  | missingInventoryBootstrapFence
  deriving DecidableEq, Repr

/-- What a command does to a store, and how it ends. -/
abbrev CliTrace (α : Type) := Trace RootStore (Halt CliError) α

/-- A check or a call of a command. -/
def cliRead {α : Type} (result : Except CliError α) : CliTrace α :=
  Trace.read (result.mapError .failed)

/-- A transaction of a command. -/
def cliCommit {α : Type} (result : Except StorageError (RootStore × α)) :
    CliTrace (RootStore × α) :=
  Trace.commit (result.mapError fun error => .failed (.storage error))

/-- A call of the daemon. -/
def cliExecutor {α : Type} (trace : ExecutorTrace α) : CliTrace α :=
  trace.mapError (Halt.map .executor)

/-- `unix_time_ms`, of a clock that is past the epoch. -/
structure UnixTimeMs where
  value : Int
  positive : 0 < value

/-- The number of pages one approval collects. -/
def maxPagesPerApproval : ℕ := 64

/-- The loop that collects a change window, of at most a number of pages. -/
def collectChangeWindow (provider : SelectedRootChangeProvider) (pageLimitExceeded : CliError) :
    ℕ → RootStore → CliTrace RootStore
  | 0, _ => cliRead (.error pageLimitExceeded)
  | pages + 1, store => do
      let (staged, collection) ← cliExecutor (collectSelectedRootChangeWindowPage provider store)
      if collection.complete then pure staged
      else collectChangeWindow provider pageLimitExceeded pages staged

/-! ## The provider -/

inductive DriveExpectedFileLookup where
  | exact (remoteVersion : ℕ)
  | missing
  | mismatch
  deriving DecidableEq, Repr

/-- `GoogleDriveApi`, the calls of a confirmation. -/
structure GoogleDriveApi (RootIdentity : Type) extends SelectedRootProvider RootIdentity,
    SelectedRootChangeProvider where
  inspectExpectedFile (remoteId expectedName expectedParentRemoteId expectedMimeType : Text)
    (expectedSizeBytes : ℕ) (expectedSha256Hex : Text) : Except CliError DriveExpectedFileLookup

def supervisedFileCreateMimeType : Text := "application/octet-stream".toList

def fileCreateProviderVersionFloorMet (uploadCompletionVersion currentRemoteVersion : ℕ) : Bool :=
  decide (0 < uploadCompletionVersion) && decide (0 < currentRemoteVersion)
    && decide (uploadCompletionVersion ≤ currentRemoteVersion)

/-! ## The create that is confirmed -/

/-- The evidence a file create has of its upload. -/
structure UploadedContent where
  sizeBytes : ℕ
  sha256Hex : Text
  remoteVersion : ℕ
  deriving DecidableEq

/-- What both commands read of the create they confirm. -/
structure AwaitedCreate where
  intentId : ℕ
  sourceLocalEventId : ℕ
  baselineGeneration : ℕ
  relativePath : Text
  targetId : Text
  expectedParent : Text
  executionGeneration : ℕ
  preSubmitCursor : ChangeCursor
  content : Option UploadedContent
  deriving DecidableEq

/-- Only a file has content. -/
def AwaitedCreate.kind (create : AwaitedCreate) : CreateKind :=
  if create.content.isSome then .file else .folder

/-- `sync_root_remote_write_intent_execution_state`. -/
def RootStore.intentExecutionState (store : RootStore) (intentId : ℕ) :
    Option RemoteWriteIntentExecutionState :=
  (store.intents.find? intentId).map RemoteWriteIntentRow.executionState

/-- The execution state of the candidate, which is the listed one, with its cursor fence. -/
def RootStore.awaitedFence (store : RootStore) (kind : CreateKind)
    (intentId executionGeneration : ℕ) : Except CliError ChangeCursor := do
  let execution ← orRefuse (store.intentExecutionState intentId)
    (.createConfirmation kind .stateMismatch)
  refuseIf (execution.status != .awaitingConfirmation
    || execution.executionGeneration != executionGeneration)
    (.createConfirmation kind .stateMismatch)
  orRefuse execution.preSubmitChangeCursor (.createConfirmation kind .fenceMissing)

/-- The local side of the candidate: the baseline of its generation, and its source event pending. -/
def RootStore.checkAwaitedLocal (store : RootStore) (kind : CreateKind)
    (baselineGeneration sourceLocalEventId : ℕ) : Except CliError Unit := do
  let state := store.localInventoryState
  refuseIf (!state.snapshotComplete || !state.observationValid
    || state.generation != baselineGeneration) (.createConfirmation kind .localStateChanged)
  refuseIf (!(store.listPendingLocalChangeEvents baselineGeneration).any (·.id == sourceLocalEventId))
    (.createConfirmation kind .localStateChanged)

/-- The evidence of the candidate's upload. -/
def RootStore.awaitedContent (store : RootStore) (candidate : RemoteWriteFileCreateCandidate) :
    Except CliError UploadedContent := do
  let found ← (store.fileCreateContentEvidence candidate.intentId).mapError .storage
  let evidence ← orRefuse found (.createConfirmation .file .evidenceMissing)
  let remoteVersion ← orRefuse evidence.remoteVersion (.createConfirmation .file .evidenceMissing)
  refuseIf (evidence.sizeBytes != candidate.localSizeBytes)
    (.createConfirmation .file .evidenceMismatch)
  .ok ⟨evidence.sizeBytes, evidence.sha256Hex, remoteVersion⟩

/-- The file create `confirm-file-create` works on: the only one that awaits its confirmation. -/
def RootStore.awaitedFileCreate (store : RootStore) : Except CliError (Option AwaitedCreate) := do
  refuseIf (store.mode != .twoWay) (.createConfirmation .file .modeUnsupported)
  let candidates ← (store.listFileCreateCandidates .awaitingConfirmation).mapError .storage
  match candidates with
  | [] => .ok none
  -- a file is confirmed only when it is the only one; of folders the first is taken
  | [candidate] => do
      let cursor ← store.awaitedFence .file candidate.intentId candidate.executionGeneration
      let content ← store.awaitedContent candidate
      store.checkAwaitedLocal .file candidate.baselineGeneration candidate.sourceLocalEventId
      .ok (some ⟨candidate.intentId, candidate.sourceLocalEventId, candidate.baselineGeneration,
        candidate.relativePath, candidate.predeterminedRemoteId, candidate.expectedParentRemoteId,
        candidate.executionGeneration, cursor, some content⟩)
  | _ => .error (.createConfirmation .file .selectionFailed)

/-- The folder create `confirm-folder-create` works on: the first one that awaits its confirmation. -/
def RootStore.awaitedFolderCreate (store : RootStore) : Except CliError (Option AwaitedCreate) := do
  refuseIf (store.mode != .twoWay) (.createConfirmation .folder .modeUnsupported)
  let candidates ← (store.listFolderCreateCandidates .awaitingConfirmation).mapError .storage
  match candidates with
  | [] => .ok none
  | candidate :: _ => do
      let cursor ← store.awaitedFence .folder candidate.intentId candidate.executionGeneration
      store.checkAwaitedLocal .folder candidate.baselineGeneration candidate.sourceLocalEventId
      .ok (some ⟨candidate.intentId, candidate.sourceLocalEventId, candidate.baselineGeneration,
        candidate.relativePath, candidate.predeterminedRemoteId, candidate.expectedParentRemoteId,
        candidate.executionGeneration, cursor, none⟩)

/-- The create a command works on. -/
def RootStore.awaitedCreate (store : RootStore) : CreateKind →
    Except CliError (Option AwaitedCreate)
  | .file => store.awaitedFileCreate
  | .folder => store.awaitedFolderCreate

/-! ## What is compared -/

/-- The cursor fence: an open window starts at the cursor of the submission, and with no window that
    is the durable cursor. -/
def RootStore.checkConfirmationFence (store : RootStore) (create : AwaitedCreate) :
    Except CliError Unit :=
  match store.windowState with
  | some window =>
      refuseIf (window.baseCursor != create.preSubmitCursor)
        (.createConfirmation create.kind .fenceMismatch)
  | none => do
      let durableCursor ← orRefuse store.changeCursor (.createConfirmation create.kind .fenceMissing)
      refuseIf (durableCursor != create.preSubmitCursor)
        (.createConfirmation create.kind .fenceMismatch)

/-- The kind of the created item. -/
def CreateKind.remoteKind : CreateKind → RemoteItemKind
  | .file => .file
  | .folder => .folder

/-- The item is the created one, as far as its catalog metadata says. -/
def AwaitedCreate.isExact (create : AwaitedCreate) (item : RemoteItem) : Bool :=
  item.name == create.relativePath.basename && item.kind == create.kind.remoteKind
    && item.parentRemoteId == some create.expectedParent
    && create.content.all (fun content => item.sizeBytes == some content.sizeBytes)
    && !item.trashed

/-- `file_create_target_change_exact`, and the same match in the folder command. -/
def AwaitedCreate.targetChangeExact (create : AwaitedCreate) : RemoteChange → Option Bool
  | .upsert item => if item.remoteId = create.targetId then some (create.isExact item) else none
  | .delete remoteId => if remoteId = create.targetId then some false else none

/-- `last_target_exact` after the loop over the changes of the window. -/
def AwaitedCreate.lastTargetExact (create : AwaitedCreate) (changes : List RemoteChange) :
    Option Bool :=
  (changes.filterMap create.targetChangeExact).getLast?

/-- The catalog has the created item where the create put it. -/
def AwaitedCreate.isCatalogued (create : AwaitedCreate) (store : RootStore) : Bool :=
  (store.catalog.items.find? create.targetId).any fun row => create.isExact row.remoteItem

/-- What the provider says of the uploaded content; a folder has none. -/
def AwaitedCreate.providerExact {RootIdentity : Type} (create : AwaitedCreate)
    (api : GoogleDriveApi RootIdentity) : Except CliError Bool :=
  match create.content with
  | none => .ok true
  | some content => do
      let lookup ← api.inspectExpectedFile create.targetId create.relativePath.basename
        create.expectedParent supervisedFileCreateMimeType content.sizeBytes content.sha256Hex
      match lookup with
      | .exact remoteVersion =>
          .ok (fileCreateProviderVersionFloorMet content.remoteVersion remoteVersion)
      | .missing | .mismatch => .ok false

/-- The local side is as it was when the command began. -/
def AwaitedCreate.checkLocalUnchanged (create : AwaitedCreate) (before after : RootStore) :
    Except CliError Unit := do
  let stateBefore := before.localInventoryState
  let stateAfter := after.localInventoryState
  refuseIf (stateAfter.generation != stateBefore.generation
    || stateAfter.itemCount != stateBefore.itemCount
    || stateAfter.snapshotCompletedAtUnixMs != stateBefore.snapshotCompletedAtUnixMs
    || stateAfter.observationValid != stateBefore.observationValid
    || !(after.listPendingLocalChangeEvents create.baselineGeneration).any
      (·.id == create.sourceLocalEventId)) (.createConfirmation create.kind .localStateChanged)

/-- The window of a confirmation, once it is collected. -/
def AwaitedCreate.checkWindow (create : AwaitedCreate) (collected : RootStore) :
    Except CliError Unit := do
  let window ← orRefuse collected.windowState (.createConfirmation create.kind .windowMismatch)
  refuseIf (!window.isComplete || window.baseCursor != create.preSubmitCursor)
    (.createConfirmation create.kind .windowMismatch)
  refuseIf create.relativePath.basename.isEmpty
    (match create.kind with
      | .file => .fileCreateLocalIdentityMismatch
      | .folder => .createConfirmation .folder .stateMismatch)

/-- The transition of either kind. -/
def RootStore.transitionAwaited (store : RootStore) (create : AwaitedCreate)
    (newStatus : RemoteWriteIntentStatus) (now : UnixTimeMs) :
    Except StorageError (RootStore × RemoteWriteIntentExecutionState) :=
  match create.kind with
  | .file => store.transitionFileCreateIntent create.intentId .awaitingConfirmation
      create.executionGeneration newStatus now.value
  | .folder => store.transitionFolderCreateIntent create.intentId .awaitingConfirmation
      create.executionGeneration newStatus now.value

/-! ## The commands -/

/-- What a confirmation ends with: its `INTENT_STATUS_AFTER`. -/
inductive ConfirmationReport where
  | nothingAwaiting
  | targetUnobserved
  | transitioned (status : RemoteWriteIntentStatus)
  deriving DecidableEq, Repr

/-- The status the evidence of a confirmation gives the intent. -/
def confirmationStatus (changeExact catalogued providerExact : Bool) : RemoteWriteIntentStatus :=
  if changeExact && catalogued && providerExact then .confirmed else .conflict

/-- The window does not name the created item: it is discarded, to be collected again later. -/
def AwaitedCreate.discardUnobserved (create : AwaitedCreate) (before collected : RootStore) :
    CliTrace ConfirmationReport := do
  let (discarded, existed) ← cliCommit (collected.discardChangeWindow create.preSubmitCursor)
  cliRead (refuseIf (!existed) (.createConfirmation create.kind .windowMismatch))
  cliRead (create.checkLocalUnchanged before discarded)
  pure .targetUnobserved

/-- The window names the created item: it is committed, and the intent is moved on. -/
def AwaitedCreate.commitObserved {RootIdentity : Type} (create : AwaitedCreate)
    (api : GoogleDriveApi RootIdentity) (fuel : RootCatalogProjection → ℕ)
    (remoteRootId : Option Text) (now : UnixTimeMs) (before collected : RootStore)
    (changeExact : Bool) : CliTrace ConfirmationReport := do
  let providerExact ← cliRead (create.providerExact api)
  let (committed, _) ← cliExecutor (executeCompletedSelectedRootChangeWindow
    api.toSelectedRootProvider fuel remoteRootId collected)
  let newStatus := confirmationStatus changeExact (create.isCatalogued committed) providerExact
  let (transitioned, execution) ← cliCommit (committed.transitionAwaited create newStatus now)
  cliRead (create.checkLocalUnchanged before transitioned)
  pure (.transitioned execution.status)

/-- What a confirmation does with the window it has collected. -/
def AwaitedCreate.conclude {RootIdentity : Type} (create : AwaitedCreate)
    (api : GoogleDriveApi RootIdentity) (fuel : RootCatalogProjection → ℕ)
    (remoteRootId : Option Text) (now : UnixTimeMs) (before collected : RootStore) :
    CliTrace ConfirmationReport := do
  cliRead (create.checkWindow collected)
  match create.lastTargetExact collected.windowEvents with
  | none => create.discardUnobserved before collected
  | some changeExact => create.commitObserved api fuel remoteRootId now before collected changeExact

/-- The part the two commands share. -/
def confirmCreate {RootIdentity : Type} (kind : CreateKind) (api : GoogleDriveApi RootIdentity)
    (fuel : RootCatalogProjection → ℕ) (remoteRootId : Option Text) (now : UnixTimeMs)
    (store : RootStore) : CliTrace ConfirmationReport := do
  let awaited ← cliRead (store.awaitedCreate kind)
  match awaited with
  | none => pure .nothingAwaiting
  | some create => do
      cliRead (store.checkConfirmationFence create)
      let collected ← collectChangeWindow api.toSelectedRootChangeProvider
        (.createConfirmation create.kind .pageLimitExceeded) maxPagesPerApproval store
      create.conclude api fuel remoteRootId now store collected

def syncRootsConfirmFileCreate {RootIdentity : Type} :
    GoogleDriveApi RootIdentity → (RootCatalogProjection → ℕ) → Option Text → UnixTimeMs →
      RootStore → CliTrace ConfirmationReport :=
  confirmCreate .file

def syncRootsConfirmFolderCreate {RootIdentity : Type} :
    GoogleDriveApi RootIdentity → (RootCatalogProjection → ℕ) → Option Text → UnixTimeMs →
      RootStore → CliTrace ConfirmationReport :=
  confirmCreate .folder

end NubiSync
