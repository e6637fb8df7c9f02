import NubiSync.Cli.CreateConfirmation
import NubiSync.Daemon.UploadProtocol

set_option autoImplicit false

/-! # Uploading a file create

`submit-file-create` and `recover-file-create-submission` send the content of a new file over a
resumable session, chunk by chunk. What the provider makes of a chunk is up to the provider, so the loop
follows its answers; before a chunk that reaches the end of the content, the loop has the fingerprint of
the content recorded in the intent. The two commands share the loop and the conclusion, and differ in
where the expected hash comes from: a submission hashes the stream, a recovery has the hash recorded
beforehand and compares. -/

namespace NubiSync

open Checks Methods Transactions

/-! ## The provider -/

/-- `DriveOrdinaryFileUploadCompletion`, what an upload reads of it. -/
structure DriveOrdinaryFileUploadCompletion where
  remoteVersion : ℕ
  sha256Checksum : Option Text
  deriving DecidableEq, Repr

inductive DriveResumableUploadProgress where
  | incomplete (nextOffset : ℕ)
  | complete (completion : DriveOrdinaryFileUploadCompletion)
  | expired
  deriving DecidableEq, Repr

/-- What comes back for a chunk: the progress, or an error, after which the status of the session is
    queried, again with an answer or an error. -/
inductive ChunkAnswer where
  | progress (progress : DriveResumableUploadProgress)
  | failed (status : Option DriveResumableUploadProgress)
  deriving DecidableEq, Repr

/-- `GoogleDriveApi`, the calls of an upload: the answer to the `n`-th chunk request of the session, and
    the lookup of an expected file. -/
structure UploadApi where
  answer : ℕ → ChunkAnswer
  inspectExpectedFile (remoteId expectedName expectedParentRemoteId expectedMimeType : Text)
    (expectedSizeBytes : ℕ) (expectedSha256Hex : Text) : Except CliError DriveExpectedFileLookup

/-! ## An upload in progress -/

def supervisedFileCreateMaxNoProgressResponses : ℕ := 3

def driveDefaultResumableChunkBytes : ℕ := 8 * 1024 * 1024

/-- The create that is uploaded: its intent at the generation of the submission, and its place. -/
structure FileCreateSubmission where
  intentId : ℕ
  executionGeneration : ℕ
  predeterminedRemoteId : Text
  leafName : Text
  parentRemoteId : Text

/-- What an upload exchanges with the provider, and that it calls
    `complete_sync_root_file_create_upload`. A chunk request comes with the store it is sent over. -/
inductive UploadEvent where
  | chunkRequest (startOffset : ℕ) (bytes : List UInt8) (store : RootStore)
  | providerProgress (progress : DriveResumableUploadProgress)
  | expectedFileLookup (remoteId : Text) (sizeBytes : ℕ) (sha256Hex : Text)
      (lookup : DriveExpectedFileLookup)
  | completeUpload (remoteVersion : ℕ)

/-- The variables of both commands, with the store and with what has happened so far. Only a submission
    uses `finalSha256`. -/
structure FileCreateUpload (sha256 : Sha256) where
  store : RootStore
  upload : SelectedRootFileCreateUploadBuffer sha256
  finalSha256 : Option Text
  completion : Option DriveOrdinaryFileUploadCompletion
  statusProbes : ℕ
  partialPrefixRecoveries : ℕ
  noProgressResponses : ℕ
  events : List UploadEvent

/-- A chunk request. -/
def UploadEvent.isChunkRequest : UploadEvent → Bool
  | .chunkRequest .. => true
  | _ => false

/-- The number of chunk requests among some events. -/
def chunkRequests (events : List UploadEvent) : ℕ := events.countP UploadEvent.isChunkRequest

/-- The variables before the loop. -/
def FileCreateUpload.start {sha256 : Sha256} (store : RootStore)
    (upload : SelectedRootFileCreateUploadBuffer sha256) : FileCreateUpload sha256 :=
  ⟨store, upload, none, none, 0, 0, 0, []⟩

/-- A part of a command that uploads. -/
abbrev UploadMethod (sha256 : Sha256) (α : Type) :=
  EStateM (Halt CliError) (FileCreateUpload sha256) α

namespace FileCreateUpload

variable {sha256 : Sha256}

/-- A computation beside the variables. -/
def attempt {α : Type} (result : Except CliError α) : UploadMethod sha256 α :=
  ofExcept (result.mapError .failed)

/-- A method of the upload buffer. -/
def onUpload {α : Type} (method : SelectedRootFileCreateUploadBuffer.Method sha256 α) :
    UploadMethod sha256 α := fun state =>
  match method state.upload with
  | .ok value upload => .ok value { state with upload := upload }
  | .error error upload => .error (.failed (.executor error)) { state with upload := upload }

/-- A write to the store. -/
def onStore {α : Type} (write : RootStore → Except StorageError (RootStore × α)) :
    UploadMethod sha256 α := do
  let state ← get
  let (store, value) ← attempt ((write state.store).mapError .storage)
  modify ({ · with store := store })
  return value

/-- Something happens. -/
def note (event : UploadEvent) : UploadMethod sha256 Unit :=
  modify fun state => { state with events := state.events ++ [event] }

/-! ## The chunk loop -/

/-- `upload_resumable_file_chunk`, and `query_resumable_file_upload_status` after an error. -/
def uploadChunk (api : UploadApi) (request : SelectedRootFileCreateUploadRequest) :
    UploadMethod sha256 DriveResumableUploadProgress := do
  let state ← get
  note (.chunkRequest request.startOffset request.bytes state.store)
  let progress ← match api.answer (chunkRequests state.events) with
    | .progress progress => pure progress
    | .failed status => do
        let statusProbes ← attempt (orRefuse (checkedAddU64 state.statusProbes 1) .numericOverflow)
        modify ({ · with statusProbes := statusProbes })
        attempt (orRefuse status .driveApi)
  note (.providerProgress progress)
  return progress

/-- An incomplete answer moves the buffer on, or uses up patience. -/
def acceptOffset (nextOffset requestEnd : ℕ) : UploadMethod sha256 Unit := do
  let state ← get
  match SelectedRootFileCreateUploadBuffer.acknowledgeProviderOffset nextOffset state.upload with
  | .error _ upload => do
      modify ({ · with upload := upload })
      throw (.failed (.fileCreateUpload .resumeOffsetMismatch))
  | .ok accepted upload => do
      modify ({ · with upload := upload })
      if accepted = 0 then
        let noProgress ← attempt
          (orRefuse (checkedAddU64 state.noProgressResponses 1) .numericOverflow)
        modify ({ · with noProgressResponses := noProgress })
        attempt (refuseIf (noProgress > supervisedFileCreateMaxNoProgressResponses)
          (.fileCreateUpload .noProgressLimitExceeded))
      else
        modify ({ · with noProgressResponses := 0 })
        if nextOffset < requestEnd then
          let recoveries ← attempt
            (orRefuse (checkedAddU64 state.partialPrefixRecoveries 1) .numericOverflow)
          modify ({ · with partialPrefixRecoveries := recoveries })

/-- A request is sent, and its answer taken in. No proof fault is injected, so the whole request is
    transmitted. -/
def transmit (api : UploadApi) (request : SelectedRootFileCreateUploadRequest) (requestEnd : ℕ) :
    UploadMethod sha256 Unit := do
  onUpload (SelectedRootFileCreateUploadBuffer.recordTransmissionBytes request request.bytes.length)
  let progress ← uploadChunk api request
  match progress with
  | .incomplete nextOffset => acceptOffset nextOffset requestEnd
  | .complete completion =>
      if request.finalRequest then modify ({ · with completion := some completion })
      else throw (.failed (.fileCreateUpload .resumeOffsetMismatch))
  | .expired => throw (.failed (.fileCreateUpload .sessionExpired))

/-- One round of the loop; what precedes a request that reaches the end is up to the command. -/
def chunkRound (api : UploadApi) (beforeFinal : UploadMethod sha256 Unit) :
    UploadMethod sha256 Unit := do
  let request ← onUpload SelectedRootFileCreateUploadBuffer.prepareRequest
  let requestEnd ← attempt
    (orRefuse (checkedAddU64 request.startOffset request.bytes.length) .numericOverflow)
  if request.finalRequest then beforeFinal
  transmit api request requestEnd

/-- `while completion.is_none()`, of at most so many rounds. -/
def chunkLoop (api : UploadApi) (beforeFinal : UploadMethod sha256 Unit) (fuel : ℕ) :
    UploadMethod sha256 Unit :=
  untilDone (·.completion.isSome) (chunkRound api beforeFinal) fuel

/-! ## The conclusion -/

/-- The provider has something else than was sent: the intent ends in conflict. -/
def conflict (submission : FileCreateSubmission) (now : UnixTimeMs) : UploadMethod sha256 ℕ := do
  let _ ← onStore fun store => store.transitionFileCreateIntent submission.intentId .submitted
    submission.executionGeneration .conflict now.value
  throw (.failed (.fileCreateUpload .providerHashMismatch))

/-- The version of the completed file, if the provider vouches for the hash. -/
def completedVersion (api : UploadApi) (submission : FileCreateSubmission) (now : UnixTimeMs)
    (completion : DriveOrdinaryFileUploadCompletion) (sizeBytes : ℕ) (sha256Hex : Text) :
    UploadMethod sha256 ℕ := do
  match completion.sha256Checksum with
  | some remoteSha256 =>
      if remoteSha256 = sha256Hex then pure completion.remoteVersion else conflict submission now
  | none => do
      let lookup ← attempt (api.inspectExpectedFile submission.predeterminedRemoteId
        submission.leafName submission.parentRemoteId supervisedFileCreateMimeType sizeBytes sha256Hex)
      note (.expectedFileLookup submission.predeterminedRemoteId sizeBytes sha256Hex lookup)
      match lookup with
      | .exact remoteVersion => pure remoteVersion
      | .mismatch => conflict submission now
      | .missing => throw (.failed (.fileCreateUpload .completionMissing))

/-- `complete_sync_root_file_create_upload`. -/
def completeUpload (submission : FileCreateSubmission) (now : UnixTimeMs) (remoteVersion : ℕ) :
    UploadMethod sha256 RemoteWriteIntentExecutionState := do
  note (.completeUpload remoteVersion)
  onStore fun store => store.completeFileCreateUpload submission.intentId
    submission.executionGeneration remoteVersion now.value

/-! ## The commands -/

/-- What a submission does before a request that reaches the end: the first time, it has the hash of the
    stream recorded. -/
def recordFinalSha256 (submission : FileCreateSubmission) : UploadMethod sha256 Unit := do
  let state ← get
  if state.finalSha256.isNone then
    let hex ← attempt (state.upload.completedSha256Hex.mapError .executor)
    let _ ← onStore fun store => store.recordFileCreateStreamFingerprint submission.intentId
      submission.executionGeneration state.upload.source.totalBytes hex
    modify ({ · with finalSha256 := some hex })

/-- What a recovery does before every such request: the stream has to have the hash there is evidence
    of, which is recorded again. -/
def revalidateFingerprint (submission : FileCreateSubmission)
    (evidence : RemoteWriteFileCreateContentEvidence) : UploadMethod sha256 Unit := do
  let state ← get
  let hex ← attempt (state.upload.completedSha256Hex.mapError .executor)
  attempt (refuseIf (hex != evidence.sha256Hex) (.fileCreateUpload .streamFingerprintMismatch))
  let _ ← onStore fun store => store.recordFileCreateStreamFingerprint submission.intentId
    submission.executionGeneration state.upload.source.totalBytes hex

/-- `sync_roots_submit_file_create`, from the chunk loop on. -/
def submit (api : UploadApi) (submission : FileCreateSubmission) (now : UnixTimeMs)
    (stable : Except SelectedRootExecutorError Bool) (fuel : ℕ) :
    UploadMethod sha256 RemoteWriteIntentExecutionState := do
  chunkLoop api (recordFinalSha256 submission) fuel
  let state ← get
  let hex ← attempt (orRefuse state.finalSha256 (.fileCreateUpload .streamIncomplete))
  let completion ← attempt (orRefuse state.completion (.fileCreateUpload .completionMissing))
  let remoteVersion ← completedVersion api submission now completion
    state.upload.source.totalBytes hex
  let streamed ← attempt ((state.upload.finishCompleted stable).mapError .executor)
  attempt (refuseIf (streamed.sha256Hex != hex) (.fileCreateUpload .streamFingerprintMismatch))
  completeUpload submission now remoteVersion

/-- `sync_roots_recover_file_create_submission`, from the chunk loop of the replacement session on. -/
def recover (api : UploadApi) (submission : FileCreateSubmission)
    (evidence : RemoteWriteFileCreateContentEvidence) (now : UnixTimeMs)
    (stable : Except SelectedRootExecutorError Bool) (fuel : ℕ) :
    UploadMethod sha256 RemoteWriteIntentExecutionState := do
  chunkLoop api (revalidateFingerprint submission evidence) fuel
  let state ← get
  let completion ← attempt (orRefuse state.completion (.fileCreateUpload .completionMissing))
  let remoteVersion ← completedVersion api submission now completion evidence.sizeBytes
    evidence.sha256Hex
  let streamed ← attempt ((state.upload.finishCompleted stable).mapError .executor)
  attempt (refuseIf (streamed.sha256Hex != evidence.sha256Hex)
    (.fileCreateUpload .streamFingerprintMismatch))
  attempt (refuseIf (!streamed.sourceStable) .fileCreateLocalIdentityMismatch)
  completeUpload submission now remoteVersion

end FileCreateUpload

/-- How a command ends: with a value or an error, and with the variables it ends with. -/
abbrev UploadEnd (sha256 : Sha256) :=
  EStateM.Result (Halt CliError) (FileCreateUpload sha256) RemoteWriteIntentExecutionState

/-- `sync_roots_submit_file_create`, once the session is initiated, on a content. -/
def submitFileCreate (sha256 : Sha256) (content : List UInt8) (api : UploadApi)
    (submission : FileCreateSubmission) (now : UnixTimeMs)
    (stable : Except SelectedRootExecutorError Bool) (fuel : ℕ) (store : RootStore) :
    Except CliError (UploadEnd sha256) := do
  let upload ← (SelectedRootFileCreateUploadBuffer.new (.opened content)
    driveDefaultResumableChunkBytes driveResumableChunkAlignmentBytes).mapError .executor
  .ok (FileCreateUpload.submit api submission now stable fuel (.start store upload))

/-- `sync_roots_recover_file_create_submission`, on a content that has the size there is evidence of,
    once the replacement session is initiated. -/
def recoverFileCreateSubmission (sha256 : Sha256) (content : List UInt8) (api : UploadApi)
    (submission : FileCreateSubmission) (evidence : RemoteWriteFileCreateContentEvidence)
    (now : UnixTimeMs) (stable : Except SelectedRootExecutorError Bool) (fuel : ℕ)
    (store : RootStore) : Except CliError (UploadEnd sha256) := do
  refuseIf (content.length != evidence.sizeBytes) .fileCreateLocalIdentityMismatch
  let upload ← (SelectedRootFileCreateUploadBuffer.new (.opened content)
    driveDefaultResumableChunkBytes driveResumableChunkAlignmentBytes).mapError .executor
  .ok (FileCreateUpload.recover api submission evidence now stable fuel (.start store upload))

end NubiSync
