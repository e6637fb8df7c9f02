import NubiSync.Daemon.LocalPaths
import NubiSync.Daemon.ReceiveOnlyRun
import NubiSync.Daemon.UploadBuffer
import NubiSync.Library.Cleanups
import NubiSync.Library.FileCalls

set_option autoImplicit false

/-! # Calls of the local executors

What the executors of the phases call while they work on the local tree: the filesystem below the root,
the store, the provider, the clock. Any call may fail, and then it has done nothing. An executor that is
cut off leaves what it would leave if every call from there on failed, so what holds whichever calls fail
holds of every cut as well. During an invocation nobody else changes the tree. -/

namespace NubiSync

open Checks Methods FileTrees

/-! ## Errors -/

/-- `SelectedRootExecutorError`, with the errors of the local executors beside the others. -/
inductive LocalExecutorError where
  | selectedRoot (error : SelectedRootExecutorError)
  | localRootUnavailable
  | localFilesystemInspectionFailed
  | localEntryNonUtf8
  | localEntrySymlinkUnsupported
  | localEntryTypeUnsupported
  | localScanSafetyLimitExceeded
  | localReceiptPathInvalid
  | localReceiptVerificationCountMismatch
  | clockBeforeUnixEpoch
  | localDirectoryTargetConflict
  | localDirectoryParentInvalid
  | localDirectoryCreateFailed
  | localDirectoryPostconditionFailed
  | localDirectoryRollbackFailed
  | directoryReceiptPostconditionFailed
  | localFileTargetConflict
  | localFileParentInvalid
  | localFileTempCreateFailed
  | localFileProviderByteCountMismatch
  | localFileDownloadSizeMismatch
  | localFileSyncFailed
  | localFilePromoteFailed
  | localFileTempCleanupFailed
  | localFilePostconditionFailed
  | localFileRollbackFailed
  | localFileReceiptPostconditionFailed
  | localFileVerifyFailed
  | localFileHashMismatch
  | localFileVerificationTargetRace
  | localFileVerificationBatchPostconditionFailed
  | remoteReplacementProviderFingerprintMismatch
  | remoteReplacementNotReady
  | remoteReplacementLocalConflict
  | remoteReplacementTargetRace
  | localFileReplacementBackupUnavailable
  | localFileReplacementBackupCreateFailed
  | localFileReplacementBackupCleanupFailed
  | localFileReplaceFailed
  | localFileReplacementRollbackFailed
  | localFileReplacementPostconditionFailed
  | localFileReplacementBatchPostconditionFailed
  | remoteDeletionNotReady
  | remoteDeletionPlanStaleReceiptCountMismatch
  | remoteDeletionLocalConflict
  | remoteDeletionTargetRace
  | localFileDeletionQuarantineUnavailable
  | localFileDeletionRenameFailed
  | localFileDeletionRollbackFailed
  | localFileDeletionPostconditionFailed
  | localFileDeletionBatchCleanupFailed
  | localFileDeletionBatchPostconditionFailed
  | remoteDirectoryDeletionNotReady
  | remoteDirectoryDeletionTargetRace
  | localDirectoryDeletionQuarantineUnavailable
  | localDirectoryDeletionRenameFailed
  | localDirectoryDeletionRollbackFailed
  | localDirectoryDeletionPostconditionFailed
  | localDirectoryDeletionBatchCleanupFailed
  | localDirectoryDeletionBatchPostconditionFailed
  deriving DecidableEq, Repr

/-! ## The state -/

/-- What outlives an invocation: the tree below the local root, and the store. -/
structure LocalRoot where
  files : FileTree FileName
  store : RootStore

/-- The state of the process: what it works on, the number of calls it has made, and
    `DOWNLOAD_TEMP_COUNTER`. -/
structure ExecutorState where
  disk : LocalRoot
  calls : ℕ
  tempCounter : UInt64

/-- A function that returns `Result<α, SelectedRootExecutorError>`. -/
abbrev LocalMethod (α : Type) := EStateM LocalExecutorError ExecutorState α

structure SelectedRootContentFingerprint where
  sizeBytes : ℕ
  sha256Hex : Text
  deriving DecidableEq

/-- A call of `download_file_content`: what it writes, one chunk after the other, and what it returns
    when no write has failed. -/
structure ContentDownload where
  chunks : List (List UInt8)
  result : Except LocalExecutorError ℕ

/-- What an invocation meets. A call has a number; by it, a call fails or does not, and the provider
    answers. -/
structure ExecutorWorld where
  sha256 : Sha256
  mode : SyncMode
  processId : ℕ
  fails : ℕ → Bool
  now : ℕ → Int
  contentFingerprint : ℕ → Text → Except LocalExecutorError SelectedRootContentFingerprint
  downloadFileContent : ℕ → Text → ℕ → ContentDownload

namespace ExecutorWorld

variable (world : ExecutorWorld)

variable {α β : Type}

/-- A call that may change the tree. -/
def call (op : Int → FileTree FileName → Except IoError (FileTree FileName × α)) :
    LocalMethod (Except IoError α) := fun state =>
  let after := { state with calls := state.calls + 1 }
  if world.fails state.calls then .ok (.error .other) after
  else
    match op (world.now state.calls) state.disk.files with
    | .ok (files, value) => .ok (.ok value) { after with disk := { state.disk with files := files } }
    | .error error => .ok (.error error) after

/-- A call that reads the tree. -/
def look (op : FileTree FileName → Except IoError α) : LocalMethod (Except IoError α) := fun state =>
  let after := { state with calls := state.calls + 1 }
  if world.fails state.calls then .ok (.error .other) after
  else .ok (op state.disk.files) after

/-- A transaction of the store. -/
def transact (op : RootStore → Except StorageError (RootStore × α)) : LocalMethod α := fun state =>
  let after := { state with calls := state.calls + 1 }
  if world.fails state.calls then .error (.selectedRoot (.storage .sqlite)) after
  else
    match op state.disk.store with
    | .ok (store, value) => .ok value { after with disk := { state.disk with store := store } }
    | .error error => .error (.selectedRoot (.storage error)) after

/-- A query of the store, and what is computed from its answer. -/
def query (op : RootStore → Except SelectedRootExecutorError α) : LocalMethod α := fun state =>
  let after := { state with calls := state.calls + 1 }
  if world.fails state.calls then .error (.selectedRoot (.storage .sqlite)) after
  else
    match op state.disk.store with
    | .ok value => .ok value after
    | .error error => .error (.selectedRoot error) after

/-- `provider.content_fingerprint`. -/
def fingerprint (remoteId : Text) : LocalMethod SelectedRootContentFingerprint := fun state =>
  let after := { state with calls := state.calls + 1 }
  match world.contentFingerprint state.calls remoteId with
  | .ok fingerprint => .ok fingerprint after
  | .error error => .error error after

/-- What `provider.download_file_content` is going to write. -/
def download (remoteId : Text) (maxBytes : ℕ) : LocalMethod ContentDownload := fun state =>
  .ok (world.downloadFileContent state.calls remoteId maxBytes)
    { state with calls := state.calls + 1 }

/-- `current_unix_time_ms`; the columns it is written to are left out. -/
def currentUnixTimeMs : LocalMethod Unit := fun state =>
  let after := { state with calls := state.calls + 1 }
  if world.fails state.calls then .error .clockBeforeUnixEpoch after else .ok () after

/-- `DOWNLOAD_TEMP_COUNTER.fetch_add(1)`. -/
def nextTempNumber : LocalMethod ℕ := fun state =>
  .ok state.tempCounter.toNat { state with tempCounter := state.tempCounter + 1 }

end ExecutorWorld

/-- `answer.map_err(|_| error)?`. -/
def orThrow {α : Type} (answer : LocalMethod (Except IoError α)) (error : LocalExecutorError) :
    LocalMethod α := do
  match ← answer with
  | .ok value => pure value
  | .error _ => throw error

/-- `match answer { Ok(value) => value, Err(error) => { … } }`. -/
def onError {α : Type} (answer : LocalMethod (Except IoError α))
    (handler : IoError → LocalMethod α) : LocalMethod α := do
  match ← answer with
  | .ok value => pure value
  | .error error => handler error

/-- What the executors refuse with, of another module's error. -/
def ofSelectedRoot {α : Type} (result : Except SelectedRootExecutorError α) : LocalMethod α :=
  ofExcept (result.mapError LocalExecutorError.selectedRoot)

/-! ## What the calls do -/

/-- A triple about the tree and the store. -/
abbrev LocalTriple {α : Type} (P : LocalRoot → Prop) (method : LocalMethod α)
    (Q : α → LocalRoot → Prop) (E : LocalExecutorError → LocalRoot → Prop) : Prop :=
  Triple ExecutorState.disk P method Q E

namespace ExecutorWorld

variable {world : ExecutorWorld} {α β : Type} {P : LocalRoot → Prop} {R : β → LocalRoot → Prop}
  {E : LocalExecutorError → LocalRoot → Prop}

theorem call_bind {op : Int → FileTree FileName → Except IoError (FileTree FileName × α)}
    {next : Except IoError α → LocalMethod β} {S : α → LocalRoot → Prop}
    (hdone : ∀ d now, P d → ∃ files value, op now d.files = .ok (files, value) ∧
      S value { d with files := files })
    (hfault : LocalTriple P (next (.error .other)) R E)
    (hnext : ∀ value, LocalTriple (S value) (next (.ok value)) R E) :
    LocalTriple P (world.call op >>= next) R E := by
  intro state hstate
  refine .bind ?_
  simp only [Meets, call]
  cases hfails : world.fails state.calls with
  | true =>
      rw [if_pos rfl]
      exact hfault _ hstate
  | false =>
      obtain ⟨files, value, hop, hafter⟩ := hdone state.disk (world.now state.calls) hstate
      rw [if_neg Bool.false_ne_true, hop]
      exact hnext value _ hafter

theorem look_bind {op : FileTree FileName → Except IoError α} {A : Except IoError α → Prop}
    {next : Except IoError α → LocalMethod β} (hop : ∀ d, P d → A (op d.files))
    (hfault : LocalTriple P (next (.error .other)) R E)
    (hnext : ∀ answer, A answer → LocalTriple P (next answer) R E) :
    LocalTriple P (world.look op >>= next) R E := by
  intro state hstate
  refine .bind ?_
  simp only [Meets, look]
  cases hfails : world.fails state.calls with
  | true =>
      rw [if_pos rfl]
      exact hfault _ hstate
  | false =>
      rw [if_neg Bool.false_ne_true]
      exact hnext _ (hop _ hstate) _ hstate

theorem callOrThrow_bind {op : Int → FileTree FileName → Except IoError (FileTree FileName × α)}
    {error : LocalExecutorError} {next : α → LocalMethod β} {S : α → LocalRoot → Prop}
    (hdone : ∀ d now, P d → ∃ files value, op now d.files = .ok (files, value) ∧
      S value { d with files := files })
    (hfault : ∀ d, P d → E error d)
    (hnext : ∀ value, LocalTriple (S value) (next value) R E) :
    LocalTriple P (orThrow (world.call op) error >>= next) R E := by
  refine Triple.bind (Q := S) ?_ hnext
  exact call_bind hdone (.throw hfault) fun value => .pure fun _ h => h

theorem lookOrThrow_bind {op : FileTree FileName → Except IoError α} {A : α → Prop}
    {error : LocalExecutorError} {next : α → LocalMethod β}
    (hop : ∀ d value, P d → op d.files = .ok value → A value)
    (hfault : ∀ d, P d → E error d)
    (hnext : ∀ value, A value → LocalTriple P (next value) R E) :
    LocalTriple P (orThrow (world.look op) error >>= next) R E := by
  intro state hstate
  refine .bind (.bind ?_)
  simp only [Meets, look]
  cases hfails : world.fails state.calls with
  | true =>
      rw [if_pos rfl]
      exact hfault _ hstate
  | false =>
      rw [if_neg Bool.false_ne_true]
      cases hanswer : op state.disk.files with
      | ok value => exact hnext value (hop _ _ hstate hanswer) _ hstate
      | error refusal => exact hfault _ hstate

/-- The same, of a call that has a known answer when it does not fail. -/
theorem lookOrThrow_bind_of {op : FileTree FileName → Except IoError α} {A : α → Prop}
    {error : LocalExecutorError} {next : α → LocalMethod β}
    (hop : ∀ d, P d → ∃ value, op d.files = .ok value ∧ A value)
    (hfault : ∀ d, P d → E error d)
    (hnext : ∀ value, A value → LocalTriple P (next value) R E) :
    LocalTriple P (orThrow (world.look op) error >>= next) R E := by
  refine lookOrThrow_bind (A := A) (fun d value hd hvalue => ?_) hfault hnext
  obtain ⟨known, hknown, hA⟩ := hop d hd
  obtain rfl := Except.ok.inj (hknown.symm.trans hvalue)
  exact hA

/-- A call whose failure is handled, that changes the tree. -/
theorem callOnError_bind {op : Int → FileTree FileName → Except IoError (FileTree FileName × α)}
    {handler : IoError → LocalMethod α} {next : α → LocalMethod β} {S : α → LocalRoot → Prop}
    (hdone : ∀ d now, P d → ∃ files value, op now d.files = .ok (files, value) ∧
      S value { d with files := files })
    (hfault : LocalTriple P (handler .other) S E)
    (hnext : ∀ value, LocalTriple (S value) (next value) R E) :
    LocalTriple P (onError (world.call op) handler >>= next) R E := by
  refine Triple.bind (Q := S) ?_ hnext
  exact call_bind hdone hfault fun value => .pure fun _ h => h

/-- A call that is refused, and whose failure ends the method. -/
theorem callOnError_refused {op : Int → FileTree FileName → Except IoError (FileTree FileName × α)}
    {handler : IoError → LocalMethod α} {next : α → LocalMethod β}
    (hop : ∀ d now, P d → ∃ error, op now d.files = .error error)
    (hhandler : ∀ error, LocalTriple P (handler error) (fun _ _ => False) E) :
    LocalTriple P (onError (world.call op) handler >>= next) R E := by
  intro state hstate
  refine .bind (.bind ?_)
  have hend : ∀ error after, P after.disk →
      Meets (handler error) after (fun value after => Meets (next value) after
        (fun b final => R b final.disk) fun error final => E error final.disk)
        fun error final => E error final.disk := fun error after hafter =>
    (hhandler error after hafter).mono (fun _ _ h => h.elim) fun _ _ h => h
  simp only [Meets, call]
  cases hfails : world.fails state.calls with
  | true =>
      rw [if_pos rfl]
      exact hend .other _ hstate
  | false =>
      obtain ⟨error, herror⟩ := hop state.disk (world.now state.calls) hstate
      rw [if_neg Bool.false_ne_true, herror]
      exact hend error _ hstate

theorem lookOnError_bind {op : FileTree FileName → Except IoError α} {value : α}
    {handler : IoError → LocalMethod α} {next : α → LocalMethod β}
    (hop : ∀ d, P d → op d.files = .ok value)
    (hfault : LocalTriple P (handler .other) (fun found d => found = value ∧ P d) E)
    (hnext : LocalTriple P (next value) R E) :
    LocalTriple P (onError (world.look op) handler >>= next) R E := by
  refine Triple.bind (Q := fun found d => found = value ∧ P d) ?_ fun found => .fact ?_
  · refine look_bind (A := fun answer => answer = .ok value) hop hfault ?_
    rintro answer rfl
    exact .pure fun _ h => ⟨rfl, h⟩
  · rintro rfl
    exact hnext

/-- A transaction: it is committed, or the store stays as it was. -/
theorem transact_bind {op : RootStore → Except StorageError (RootStore × α)}
    {next : α → LocalMethod β} {S : α → LocalRoot → Prop}
    (hdone : ∀ d store value, P d → op d.store = .ok (store, value) → S value { d with store := store })
    (hfault : ∀ d, P d → E (.selectedRoot (.storage .sqlite)) d)
    (hrefused : ∀ d error, P d → op d.store = .error error → E (.selectedRoot (.storage error)) d)
    (hnext : ∀ value, LocalTriple (S value) (next value) R E) :
    LocalTriple P (world.transact op >>= next) R E := by
  refine Triple.bind (Q := S) ?_ hnext
  intro state hstate
  simp only [Meets, transact]
  cases hfails : world.fails state.calls with
  | true =>
      rw [if_pos rfl]
      exact hfault _ hstate
  | false =>
      rw [if_neg Bool.false_ne_true]
      cases hop : op state.disk.store with
      | ok both =>
          obtain ⟨store, value⟩ := both
          exact hdone _ _ _ hstate hop
      | error error => exact hrefused _ _ hstate hop

theorem query_bind {op : RootStore → Except SelectedRootExecutorError α} {next : α → LocalMethod β}
    (hfault : ∀ d, P d → E (.selectedRoot (.storage .sqlite)) d)
    (hrefused : ∀ d error, P d → op d.store = .error error → E (.selectedRoot error) d)
    (hnext : ∀ value, LocalTriple (fun d => P d ∧ op d.store = .ok value) (next value) R E) :
    LocalTriple P (world.query op >>= next) R E := by
  refine Triple.bind (Q := fun value d => P d ∧ op d.store = .ok value) ?_ hnext
  intro state hstate
  simp only [Meets, query]
  cases hfails : world.fails state.calls with
  | true =>
      rw [if_pos rfl]
      exact hfault _ hstate
  | false =>
      rw [if_neg Bool.false_ne_true]
      cases hop : op state.disk.store with
      | ok value => exact ⟨hstate, hop⟩
      | error error => exact hrefused _ _ hstate hop

/-- The provider answers with a fingerprint or an error of its own. -/
theorem fingerprint_bind {remoteId : Text} {next : SelectedRootContentFingerprint → LocalMethod β}
    (herror : ∀ call error, world.contentFingerprint call remoteId = .error error → ∀ d, P d → E error d)
    (hnext : ∀ call fingerprint, world.contentFingerprint call remoteId = .ok fingerprint →
      LocalTriple P (next fingerprint) R E) :
    LocalTriple P (world.fingerprint remoteId >>= next) R E := by
  intro state hstate
  refine .bind ?_
  simp only [Meets, fingerprint]
  cases hanswer : world.contentFingerprint state.calls remoteId with
  | ok fingerprint => exact hnext _ fingerprint hanswer _ hstate
  | error error => exact herror _ error hanswer _ hstate

theorem fingerprint_rule {remoteId : Text} :
    LocalTriple P (world.fingerprint remoteId)
      (fun fingerprint d => (∃ call, world.contentFingerprint call remoteId = .ok fingerprint) ∧ P d)
      fun error d => (∃ call, world.contentFingerprint call remoteId = .error error) ∧ P d :=
  .of_bind_pure (fingerprint_bind (fun call _ herror _ hd => ⟨⟨call, herror⟩, hd⟩)
    fun call _ hanswer => .pure fun _ hd => ⟨⟨call, hanswer⟩, hd⟩)

theorem download_bind {remoteId : Text} {maxBytes : ℕ} {next : ContentDownload → LocalMethod β}
    (hnext : ∀ call, LocalTriple P (next (world.downloadFileContent call remoteId maxBytes)) R E) :
    LocalTriple P (world.download remoteId maxBytes >>= next) R E :=
  fun state hstate => .bind (hnext state.calls _ hstate)

theorem currentUnixTimeMs_bind {next : Unit → LocalMethod β}
    (hfault : ∀ d, P d → E .clockBeforeUnixEpoch d)
    (hnext : LocalTriple P (next ()) R E) :
    LocalTriple P (world.currentUnixTimeMs >>= next) R E := by
  intro state hstate
  refine .bind ?_
  simp only [Meets, currentUnixTimeMs]
  cases hfails : world.fails state.calls with
  | true =>
      rw [if_pos rfl]
      exact hfault _ hstate
  | false =>
      rw [if_neg Bool.false_ne_true]
      exact hnext _ hstate

theorem ofSelectedRoot_bind {result : Except SelectedRootExecutorError α} {next : α → LocalMethod β}
    (hnext : ∀ a, result = .ok a → LocalTriple P (next a) R E)
    (hrefused : ∀ error, result = .error error → ∀ d, P d → E (.selectedRoot error) d) :
    LocalTriple P (ofSelectedRoot result >>= next) R E := by
  intro state hstate
  cases result with
  | ok a => exact hnext a rfl state hstate
  | error error => exact hrefused error rfl _ hstate

end ExecutorWorld

end NubiSync
