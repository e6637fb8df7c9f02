import NubiSync.Library.Checks
import NubiSync.Daemon.ExecutorErrors

set_option autoImplicit false

/-! # The retained upload buffer

A file create is uploaded from a forward-only local source. The bytes that the provider has not
acknowledged stay in memory, so that a request can be sent again without reading or hashing them twice.
The methods of the source and of the buffer change their state before they can fail, so each is a
computation that keeps the state when it throws. -/

namespace NubiSync

open Checks

/-! ## Machine words -/

/-- `u64::checked_add`. -/
def checkedAddU64 (left right : ℕ) : Option ℕ :=
  if left + right < 2 ^ 64 then some (left + right) else none

/-- `u64::checked_sub`. -/
def checkedSubU64 (left right : ℕ) : Option ℕ :=
  if right ≤ left then some (left - right) else none

theorem checkedAddU64_of_lt {left right : ℕ} (h : left + right < 2 ^ 64) :
    checkedAddU64 left right = some (left + right) := if_pos h

theorem eq_add_of_checkedAddU64 {left right sum : ℕ} (h : checkedAddU64 left right = some sum) :
    sum = left + right := by
  simp only [checkedAddU64, Option.ite_none_right_eq_some, Option.some.injEq] at h
  exact h.2.symm

theorem le_add_of_checkedAddU64 {left right : ℕ} (h : checkedAddU64 left right = none) :
    2 ^ 64 ≤ left + right := by
  simp only [checkedAddU64, ite_eq_right_iff, reduceCtorEq, imp_false] at h
  omega

theorem checkedSubU64_of_le {left right : ℕ} (h : right ≤ left) :
    checkedSubU64 left right = some (left - right) := if_pos h

/-! ## The hash -/

/-- `Sha256`, the incremental hash of the `sha2` crate, with `digest_to_hex` after `finalize`: feeding
    chunks one after the other is hashing their concatenation. -/
structure Sha256 where
  Hasher : Type
  new : Hasher
  update : Hasher → List UInt8 → Hasher
  finalizeHex : Hasher → Text
  sha256Hex : List UInt8 → Text
  streams : ∀ chunks : List (List UInt8),
    finalizeHex (chunks.foldl update new) = sha256Hex chunks.flatten

variable (sha256 : Sha256)

/-! ## The local source -/

/-- `SelectedRootFileCreateLocalSource`; `unread` is what the open file holds from its position on. -/
structure SelectedRootFileCreateLocalSource where
  unread : List UInt8
  totalBytes : ℕ
  bytesRead : ℕ
  hasher : sha256.Hasher

/-- `SelectedRootFileCreateStreamResult`: what reading the local source of a file create to its end
    gives. -/
structure SelectedRootFileCreateStreamResult where
  sha256Hex : Text
  sourceStable : Bool
  deriving DecidableEq, Repr

namespace SelectedRootFileCreateLocalSource

variable {sha256}

/-- The source of a file that was just opened. -/
def opened (content : List UInt8) : SelectedRootFileCreateLocalSource sha256 :=
  ⟨content, content.length, 0, sha256.new⟩

def readNextChunk (maxBytes : ℕ) : EStateM SelectedRootExecutorError
    (SelectedRootFileCreateLocalSource sha256) (Option (List UInt8)) := do
  let source ← get
  ofExcept (refuseIf (maxBytes == 0) .remoteWriteFileCreateChunkSizeInvalid)
  let remaining ← ofExcept (orRefuse (checkedSubU64 source.totalBytes source.bytesRead)
    .remoteWriteFileCreateStreamIncomplete)
  if remaining = 0 then
    return none
  let requested := min remaining maxBytes
  -- `read_exact` fails on a file that ends too early
  ofExcept (refuseIf (source.unread.length < requested) .remoteWriteFileCreateReadFailed)
  let chunk := source.unread.take requested
  set { source with
    unread := source.unread.drop requested
    hasher := sha256.update source.hasher chunk }
  let bytesRead ← ofExcept (orRefuse (checkedAddU64 source.bytesRead requested) .countOverflow)
  modify ({ · with bytesRead := bytesRead })
  return some chunk

def completedSha256Hex (source : SelectedRootFileCreateLocalSource sha256) :
    Except SelectedRootExecutorError Text := do
  refuseIf (source.bytesRead != source.totalBytes) .remoteWriteFileCreateStreamIncomplete
  .ok (sha256.finalizeHex source.hasher)

/-- `finish`. Whether the file is as it was when it was opened, or why that cannot be told, is up to the
    file system. -/
def finish (source : SelectedRootFileCreateLocalSource sha256)
    (stable : Except SelectedRootExecutorError Bool) :
    Except SelectedRootExecutorError SelectedRootFileCreateStreamResult := do
  refuseIf (source.bytesRead != source.totalBytes) .remoteWriteFileCreateStreamIncomplete
  let sourceStable ← stable
  .ok ⟨sha256.finalizeHex source.hasher, sourceStable⟩

end SelectedRootFileCreateLocalSource

/-! ## The buffer -/

structure SelectedRootFileCreateUploadRequest where
  startOffset : ℕ
  bytes : List UInt8
  finalRequest : Bool
  deriving DecidableEq

structure SelectedRootFileCreateUploadBuffer where
  source : SelectedRootFileCreateLocalSource sha256
  pendingStartOffset : ℕ
  pending : List UInt8
  targetRequestBytes : ℕ
  alignmentBytes : ℕ
  networkBytesAttempted : ℕ
  transmissions : ℕ

/-- `SelectedRootFileCreateUploadResult`, less its counters. -/
structure SelectedRootFileCreateUploadResult where
  sha256Hex : Text
  sourceStable : Bool
  deriving DecidableEq, Repr

namespace SelectedRootFileCreateUploadBuffer

variable {sha256}

def new (source : SelectedRootFileCreateLocalSource sha256)
    (targetRequestBytes alignmentBytes : ℕ) :
    Except SelectedRootExecutorError (SelectedRootFileCreateUploadBuffer sha256) := do
  refuseIf (targetRequestBytes == 0 || alignmentBytes == 0) .remoteWriteFileCreateChunkSizeInvalid
  refuseIf (targetRequestBytes % alignmentBytes != 0) .remoteWriteFileCreateChunkSizeInvalid
  .ok ⟨source, 0, [], targetRequestBytes, alignmentBytes, 0, 0⟩

def completedSha256Hex (buffer : SelectedRootFileCreateUploadBuffer sha256) :
    Except SelectedRootExecutorError Text :=
  buffer.source.completedSha256Hex

def pendingEndOffset (buffer : SelectedRootFileCreateUploadBuffer sha256) :
    Except SelectedRootExecutorError ℕ :=
  orRefuse (checkedAddU64 buffer.pendingStartOffset buffer.pending.length) .countOverflow

def validateBufferInvariant (buffer : SelectedRootFileCreateUploadBuffer sha256) :
    Except SelectedRootExecutorError Unit := do
  let pendingEnd ← buffer.pendingEndOffset
  refuseIf (pendingEnd != buffer.source.bytesRead || pendingEnd > buffer.source.totalBytes
    || buffer.pendingStartOffset > pendingEnd) .remoteWriteFileCreateResumeOffsetMismatch

/-- A method of the buffer. -/
abbrev Method (sha256 : Sha256) (α : Type) :=
  EStateM SelectedRootExecutorError (SelectedRootFileCreateUploadBuffer sha256) α

/-- A method of the source the buffer owns. -/
def onSource {α : Type}
    (method : EStateM SelectedRootExecutorError (SelectedRootFileCreateLocalSource sha256) α) :
    Method sha256 α := fun buffer =>
  match method buffer.source with
  | .ok value source => .ok value { buffer with source := source }
  | .error error source => .error error { buffer with source := source }

/-- The refill of `prepare_request`: read what is missing of the target. -/
def refill (missing : ℕ) : Method sha256 Unit := do
  if missing > 0 then
    let chunk ← onSource (SelectedRootFileCreateLocalSource.readNextChunk missing)
    let newlyRead ← ofExcept (orRefuse chunk .remoteWriteFileCreateStreamIncomplete)
    ofExcept (refuseIf (newlyRead.length != missing) .remoteWriteFileCreateStreamIncomplete)
    modify fun buffer => { buffer with pending := buffer.pending ++ newlyRead }

def prepareRequest : Method sha256 SelectedRootFileCreateUploadRequest := do
  let buffer ← get
  ofExcept buffer.validateBufferInvariant
  ofExcept (refuseIf (buffer.pendingStartOffset ≥ buffer.source.totalBytes)
    .remoteWriteFileCreateStreamIncomplete)
  let remaining ← ofExcept (orRefuse
    (checkedSubU64 buffer.source.totalBytes buffer.pendingStartOffset)
    .remoteWriteFileCreateResumeOffsetMismatch)
  let target := min remaining buffer.targetRequestBytes
  ofExcept (refuseIf (buffer.pending.length > target) .remoteWriteFileCreateResumeOffsetMismatch)
  refill (target - buffer.pending.length)
  let buffer ← get
  ofExcept buffer.validateBufferInvariant
  let pendingEnd ← ofExcept buffer.pendingEndOffset
  let finalRequest := pendingEnd == buffer.source.totalBytes
  ofExcept (refuseIf (!finalRequest && buffer.pending.length % buffer.alignmentBytes != 0)
    .remoteWriteFileCreateChunkSizeInvalid)
  return ⟨buffer.pendingStartOffset, buffer.pending, finalRequest⟩

def recordTransmissionBytes (request : SelectedRootFileCreateUploadRequest)
    (transmittedBytes : ℕ) : Method sha256 Unit := do
  let buffer ← get
  ofExcept buffer.validateBufferInvariant
  ofExcept (refuseIf (request.startOffset != buffer.pendingStartOffset
    || request.bytes != buffer.pending || request.bytes.isEmpty || transmittedBytes == 0
    || transmittedBytes > request.bytes.length) .remoteWriteFileCreateResumeOffsetMismatch)
  let attempted ← ofExcept (orRefuse
    (checkedAddU64 buffer.networkBytesAttempted transmittedBytes) .countOverflow)
  modify ({ · with networkBytesAttempted := attempted })
  let transmissions ← ofExcept (orRefuse (checkedAddU64 buffer.transmissions 1) .countOverflow)
  modify ({ · with transmissions := transmissions })

def recordTransmission (request : SelectedRootFileCreateUploadRequest) : Method sha256 Unit :=
  recordTransmissionBytes request request.bytes.length

def acknowledgeProviderOffset (nextOffset : ℕ) : Method sha256 ℕ := do
  let buffer ← get
  ofExcept buffer.validateBufferInvariant
  let pendingEnd ← ofExcept buffer.pendingEndOffset
  ofExcept (refuseIf (nextOffset < buffer.pendingStartOffset || nextOffset > pendingEnd)
    .remoteWriteFileCreateResumeOffsetMismatch)
  let accepted ← ofExcept (orRefuse (checkedSubU64 nextOffset buffer.pendingStartOffset)
    .remoteWriteFileCreateResumeOffsetMismatch)
  modify fun buffer =>
    { buffer with pending := buffer.pending.drop accepted, pendingStartOffset := nextOffset }
  let buffer ← get
  ofExcept buffer.validateBufferInvariant
  return accepted

def finishCompleted (buffer : SelectedRootFileCreateUploadBuffer sha256)
    (stable : Except SelectedRootExecutorError Bool) :
    Except SelectedRootExecutorError SelectedRootFileCreateUploadResult := do
  buffer.validateBufferInvariant
  let pendingEnd ← buffer.pendingEndOffset
  refuseIf (buffer.source.bytesRead != buffer.source.totalBytes
    || pendingEnd != buffer.source.totalBytes) .remoteWriteFileCreateStreamIncomplete
  let stream ← buffer.source.finish stable
  .ok ⟨stream.sha256Hex, stream.sourceStable⟩

end SelectedRootFileCreateUploadBuffer

/-! ## The range of a request -/

def driveResumableChunkAlignmentBytes : ℕ := 256 * 1024

/-- `DriveApiError`, the errors of the range of a chunk. -/
inductive DriveApiError where
  | invalidResumableUploadChunk
  | invalidResumableUploadChunkAlignment
  deriving DecidableEq, Repr

def buildResumableChunkContentRange (totalBytes startOffset chunkLen : ℕ) :
    Except DriveApiError Text := do
  refuseIf (totalBytes == 0 || chunkLen == 0) .invalidResumableUploadChunk
  let endExclusive ← orRefuse (checkedAddU64 startOffset chunkLen) .invalidResumableUploadChunk
  refuseIf (startOffset ≥ totalBytes || endExclusive > totalBytes) .invalidResumableUploadChunk
  let finalChunk := endExclusive == totalBytes
  refuseIf (!finalChunk && chunkLen % driveResumableChunkAlignmentBytes != 0)
    .invalidResumableUploadChunkAlignment
  .ok ("bytes ".toList ++ Nat.toDigits 10 startOffset ++ '-' :: Nat.toDigits 10 (endExclusive - 1)
    ++ '/' :: Nat.toDigits 10 totalBytes)

end NubiSync
