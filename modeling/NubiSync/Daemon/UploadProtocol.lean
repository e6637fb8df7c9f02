import NubiSync.Daemon.UploadBuffer
import NubiSync.Library.Methods

set_option autoImplicit false

/-! # Uploads through the retained buffer

Whatever a client prepares, records and acknowledges, in any order and at any offsets, the buffer
retains exactly the window of the content between the last acknowledged offset and what was read, and
the hash has been fed the content up to there (`Retains`). `upload_guarantees` says what follows for
every request, every acknowledgement and the final hash. -/

namespace NubiSync

open Checks Methods

/-! ## The window of the content -/

/-- `content[start..stop]`. -/
def window (content : List UInt8) (start stop : ℕ) : List UInt8 := (content.take stop).drop start

section Window

variable {content : List UInt8} {start middle stop : ℕ}

theorem length_window (hstop : stop ≤ content.length) :
    (window content start stop).length = stop - start := by
  simp [window, Nat.min_eq_left hstop]

theorem window_append (hstart : start ≤ middle) (hmiddle : middle ≤ stop)
    (hstop : stop ≤ content.length) :
    window content start middle ++ window content middle stop = window content start stop := by
  have hread : content.take stop = content.take middle ++ window content middle stop := by
    calc
      content.take stop = (content.take stop).take middle ++ (content.take stop).drop middle :=
        (List.take_append_drop middle _).symm
      _ = content.take middle ++ window content middle stop := by
        rw [List.take_take, Nat.min_eq_left hmiddle, window]
  have hlength : start ≤ (content.take middle).length := by
    rw [List.length_take]
    omega
  rw [window.eq_def content start stop, hread, List.drop_append_of_le_length hlength, window]

/-- Dropping an accepted prefix moves the start of the window. -/
theorem drop_window (count : ℕ) :
    (window content start stop).drop count = window content (start + count) stop := by
  simp [window, List.drop_drop]

theorem take_drop_eq_window (count : ℕ) :
    (content.drop start).take count = window content start (start + count) := by
  rw [window, List.drop_take, Nat.add_sub_cancel_left]

end Window

/-! ## What the buffer retains -/

section Buffer

variable {sha256 : Sha256} {content : List UInt8} {acknowledged : ℕ}
  {buffer : SelectedRootFileCreateUploadBuffer sha256}

open SelectedRootFileCreateUploadBuffer

/-- The buffer of an upload of a content whose provider has acknowledged so many bytes: what follows
    them up to what was read is retained, the hash was fed what was read, and the rest is unread. -/
structure Retains (content : List UInt8) (acknowledged : ℕ)
    (buffer : SelectedRootFileCreateUploadBuffer sha256) : Prop where
  fits : content.length < 2 ^ 64
  total : buffer.source.totalBytes = content.length
  unread : buffer.source.unread = content.drop buffer.source.bytesRead
  read_le : buffer.source.bytesRead ≤ content.length
  hashed : ∃ chunks : List (List UInt8), buffer.source.hasher = chunks.foldl sha256.update sha256.new ∧
    chunks.flatten = content.take buffer.source.bytesRead
  start_eq : buffer.pendingStartOffset = acknowledged
  start_le : acknowledged ≤ buffer.source.bytesRead
  retained : buffer.pending = window content acknowledged buffer.source.bytesRead

theorem Retains.length_pending (h : Retains content acknowledged buffer) :
    buffer.pending.length = buffer.source.bytesRead - acknowledged := by
  rw [h.retained, length_window h.read_le]

/-- The buffer passes its own check. -/
theorem Retains.pendingEndOffset_eq (h : Retains content acknowledged buffer) :
    buffer.pendingEndOffset = .ok buffer.source.bytesRead := by
  have hlength := h.length_pending
  have hstart := h.start_le
  have hread := h.read_le
  have hfits := h.fits
  have hend : buffer.pendingStartOffset + buffer.pending.length = buffer.source.bytesRead := by
    rw [h.start_eq]
    omega
  rw [pendingEndOffset, checkedAddU64_of_lt (by omega), hend]
  rfl

theorem Retains.validate (h : Retains content acknowledged buffer) :
    buffer.validateBufferInvariant = .ok () := by
  have hread := h.read_le
  have hstart := h.start_le
  rw [validateBufferInvariant, h.pendingEndOffset_eq, ok_bind, refuseIf_eq_ok, h.total, h.start_eq]
  simp
  omega

/-- Reading a chunk that is still there. -/
theorem Retains.readNextChunk (h : Retains content acknowledged buffer) {missing : ℕ}
    (hpos : 0 < missing) (hmissing : buffer.source.bytesRead + missing ≤ content.length) :
    SelectedRootFileCreateLocalSource.readNextChunk missing buffer.source
      = .ok (some (window content buffer.source.bytesRead (buffer.source.bytesRead + missing)))
        { buffer.source with
          unread := buffer.source.unread.drop missing
          hasher := sha256.update buffer.source.hasher
            (window content buffer.source.bytesRead (buffer.source.bytesRead + missing))
          bytesRead := buffer.source.bytesRead + missing } := by
  have hfits := h.fits
  have hremaining : checkedSubU64 buffer.source.totalBytes buffer.source.bytesRead
      = some (content.length - buffer.source.bytesRead) := by
    rw [h.total, checkedSubU64_of_le h.read_le]
  have hrequested : min (content.length - buffer.source.bytesRead) missing = missing := by omega
  have hlength : ¬ buffer.source.unread.length < missing := by
    rw [h.unread, List.length_drop]
    omega
  have hadd := checkedAddU64_of_lt (show buffer.source.bytesRead + missing < 2 ^ 64 by omega)
  have hchunk : buffer.source.unread.take missing
      = window content buffer.source.bytesRead (buffer.source.bytesRead + missing) := by
    rw [h.unread, take_drop_eq_window]
  unfold SelectedRootFileCreateLocalSource.readNextChunk
  rw [get_bind_apply, check_bind_apply (by simp; omega), present_bind_apply hremaining,
    if_neg (by omega)]
  dsimp only
  rw [hrequested, hchunk, check_bind_apply (by simpa using hlength), set_bind_apply,
    present_bind_apply hadd, modify_bind_apply, pure_apply]

/-- The sizes of the requests, which no method changes. -/
structure Sized (target alignment : ℕ) (buffer : SelectedRootFileCreateUploadBuffer sha256) : Prop where
  target_eq : buffer.targetRequestBytes = target
  alignment_eq : buffer.alignmentBytes = alignment
  pending_le : buffer.pending.length ≤ target

/-- A refill of what is still there extends the window. -/
theorem Retains.refill (h : Retains content acknowledged buffer) (missing : ℕ)
    (hmissing : buffer.source.bytesRead + missing ≤ content.length) :
    ∃ after : SelectedRootFileCreateUploadBuffer sha256,
      SelectedRootFileCreateUploadBuffer.refill missing buffer = .ok () after ∧
      Retains content acknowledged after ∧
      after.source.bytesRead = buffer.source.bytesRead + missing ∧
      after.targetRequestBytes = buffer.targetRequestBytes ∧
      after.alignmentBytes = buffer.alignmentBytes := by
  by_cases hpos : missing > 0
  · -- one chunk is read, hashed once, and appended to what is retained
    let chunk := window content buffer.source.bytesRead (buffer.source.bytesRead + missing)
    have hlength : chunk.length = missing := by
      rw [length_window hmissing]
      omega
    have hread := h.readNextChunk hpos hmissing
    refine ⟨{ buffer with
      source := { buffer.source with
        unread := buffer.source.unread.drop missing
        hasher := sha256.update buffer.source.hasher chunk
        bytesRead := buffer.source.bytesRead + missing }
      pending := buffer.pending ++ chunk }, ?_, ?_, rfl, rfl, rfl⟩
    · rw [SelectedRootFileCreateUploadBuffer.refill, if_pos hpos,
        bind_of_ok (show onSource (SelectedRootFileCreateLocalSource.readNextChunk missing) buffer
          = .ok (some chunk) _ by rw [onSource, hread]),
        present_bind_apply rfl, check_bind_apply (by simpa using hlength)]
      rfl
    · obtain ⟨chunks, hhasher, hflatten⟩ := h.hashed
      refine ⟨h.fits, h.total, ?_, hmissing, ⟨chunks ++ [chunk], ?_, ?_⟩, h.start_eq, ?_, ?_⟩
      · show buffer.source.unread.drop missing = _
        rw [h.unread, List.drop_drop]
      · rw [List.foldl_concat, hhasher]
      · show (chunks ++ [chunk]).flatten = content.take (buffer.source.bytesRead + missing)
        rw [List.flatten_append, hflatten, List.flatten_singleton]
        exact window_append (Nat.zero_le _) (Nat.le_add_right _ _) hmissing
      · exact h.start_le.trans (Nat.le_add_right _ _)
      · show buffer.pending ++ chunk = _
        rw [h.retained, window_append h.start_le (Nat.le_add_right _ _) hmissing]
  · obtain rfl : missing = 0 := by omega
    exact ⟨buffer, rfl, h, rfl, rfl, rfl⟩

/-- What a prepared request is: the content from the acknowledged offset on, up to the target size or to
    the end. -/
structure RequestOf (content : List UInt8) (acknowledged target : ℕ)
    (request : SelectedRootFileCreateUploadRequest) : Prop where
  start_eq : request.startOffset = acknowledged
  bytes_eq : request.bytes = (content.drop acknowledged).take request.bytes.length
  length_eq : request.bytes.length = min target (content.length - acknowledged)
  final_iff : request.finalRequest = true ↔ acknowledged + request.bytes.length = content.length

/-- **A request is prepared as long as something is unacknowledged.** -/
theorem Retains.prepareRequest (h : Retains content acknowledged buffer) {target alignment : ℕ}
    (hsized : Sized target alignment buffer) (haligned : alignment ∣ target)
    (hlt : acknowledged < content.length) :
    ∃ request after, SelectedRootFileCreateUploadBuffer.prepareRequest buffer = .ok request after ∧
      RequestOf content acknowledged target request ∧ Retains content acknowledged after ∧
      Sized target alignment after := by
  have hlength := h.length_pending
  have hstart := h.start_le
  have hread := h.read_le
  have hpending := hsized.pending_le
  let stop := acknowledged + min target (content.length - acknowledged)
  have hstop : stop ≤ content.length := by
    show acknowledged + min target (content.length - acknowledged) ≤ content.length
    omega
  have hmissing : min (content.length - acknowledged) target - buffer.pending.length
      = stop - buffer.source.bytesRead := by
    show _ = acknowledged + min target (content.length - acknowledged) - buffer.source.bytesRead
    omega
  have hreach : buffer.source.bytesRead ≤ stop := by
    show _ ≤ acknowledged + min target (content.length - acknowledged)
    omega
  obtain ⟨after, hrefill, hretains, hafter, htarget, halignment⟩ :=
    h.refill (stop - buffer.source.bytesRead) (by omega)
  have hstopped : after.source.bytesRead = stop := by omega
  have hlength' : after.pending.length = min target (content.length - acknowledged) := by
    rw [hretains.length_pending, hstopped, Nat.add_sub_cancel_left]
  have hremaining : checkedSubU64 buffer.source.totalBytes buffer.pendingStartOffset
      = some (content.length - acknowledged) := by
    rw [h.total, h.start_eq, checkedSubU64_of_le hlt.le]
  have hsizes : Sized target alignment after :=
    ⟨htarget.trans hsized.target_eq, halignment.trans hsized.alignment_eq, by omega⟩
  -- a request that does not end the content has the target size, which is aligned
  have hwhole : stop ≠ content.length → after.pending.length % after.alignmentBytes = 0 := by
    intro hne
    have hfull : min target (content.length - acknowledged) = target := by
      by_contra hshort
      exact hne (show acknowledged + min target (content.length - acknowledged) = _ by omega)
    rw [hlength', hfull, hsizes.alignment_eq]
    exact Nat.mod_eq_zero_of_dvd haligned
  refine ⟨⟨acknowledged, after.pending, stop == content.length⟩, after, ?_, ?_, hretains, hsizes⟩
  · rw [SelectedRootFileCreateUploadBuffer.prepareRequest, get_bind_apply,
      ofExcept_bind_of_ok h.validate, check_bind_apply (by simp [h.total, h.start_eq, hlt]),
      present_bind_apply hremaining]
    dsimp only
    rw [hsized.target_eq, check_bind_apply (by simp; omega), hmissing, bind_of_ok hrefill,
      get_bind_apply, ofExcept_bind_of_ok hretains.validate,
      ofExcept_bind_of_ok hretains.pendingEndOffset_eq, hstopped, hretains.total,
      check_bind_apply ?_, pure_apply, hretains.start_eq]
    by_cases hend : stop = content.length
    · simp [hend]
    · simp [hwhole hend]
  · refine ⟨rfl, ?_, hlength', ?_⟩
    · show after.pending = (content.drop acknowledged).take after.pending.length
      rw [take_drop_eq_window, hlength', hretains.retained, hstopped]
    · show (stop == content.length) = true ↔ acknowledged + after.pending.length = content.length
      rw [beq_iff_eq, hlength']

/-- Once everything is acknowledged there is no request to prepare. -/
theorem Retains.prepareRequest_done (h : Retains content acknowledged buffer)
    (hdone : content.length ≤ acknowledged) :
    SelectedRootFileCreateUploadBuffer.prepareRequest buffer
      = .error .remoteWriteFileCreateStreamIncomplete buffer := by
  have hrefused : refuseIf (buffer.pendingStartOffset ≥ buffer.source.totalBytes)
      SelectedRootExecutorError.remoteWriteFileCreateStreamIncomplete
      = .error .remoteWriteFileCreateStreamIncomplete := by
    simp [refuseIf, h.total, h.start_eq, hdone]
  rw [SelectedRootFileCreateUploadBuffer.prepareRequest, get_bind_apply,
    ofExcept_bind_of_ok h.validate, ofExcept_bind_of_error hrefused]

/-- An acknowledgement within the window moves its start. -/
theorem Retains.acknowledge (h : Retains content acknowledged buffer) {nextOffset : ℕ}
    (hlower : acknowledged ≤ nextOffset) (hupper : nextOffset ≤ buffer.source.bytesRead) :
    ∃ after, acknowledgeProviderOffset nextOffset buffer = .ok (nextOffset - acknowledged) after ∧
      Retains content nextOffset after ∧ after.source = buffer.source ∧
      ∀ {target alignment}, Sized target alignment buffer → Sized target alignment after := by
  let after : SelectedRootFileCreateUploadBuffer sha256 :=
    { buffer with
      pending := buffer.pending.drop (nextOffset - acknowledged)
      pendingStartOffset := nextOffset }
  have hretains : Retains content nextOffset after := by
    refine ⟨h.fits, h.total, h.unread, h.read_le, h.hashed, rfl, hupper, ?_⟩
    show buffer.pending.drop (nextOffset - acknowledged) = _
    rw [h.retained, drop_window, Nat.add_sub_cancel' hlower]
  have haccepted : checkedSubU64 nextOffset buffer.pendingStartOffset
      = some (nextOffset - acknowledged) := by
    rw [h.start_eq, checkedSubU64_of_le hlower]
  refine ⟨after, ?_, hretains, rfl, fun hsized => ⟨hsized.target_eq, hsized.alignment_eq, ?_⟩⟩
  · rw [acknowledgeProviderOffset, get_bind_apply, ofExcept_bind_of_ok h.validate,
      ofExcept_bind_of_ok h.pendingEndOffset_eq,
      check_bind_apply (by simp [h.start_eq, hlower, hupper]), present_bind_apply haccepted,
      modify_bind_apply, get_bind_apply]
    exact ofExcept_bind_of_ok hretains.validate _ _
  · show (buffer.pending.drop (nextOffset - acknowledged)).length ≤ _
    have hpending := hsized.pending_le
    rw [List.length_drop]
    omega

/-- An acknowledgement outside the window is refused, and changes nothing. -/
theorem Retains.acknowledge_refused (h : Retains content acknowledged buffer) (nextOffset : ℕ)
    (houtside : nextOffset < acknowledged ∨ buffer.source.bytesRead < nextOffset) :
    acknowledgeProviderOffset nextOffset buffer
      = .error .remoteWriteFileCreateResumeOffsetMismatch buffer := by
  have hrefused : refuseIf (nextOffset < buffer.pendingStartOffset
      || nextOffset > buffer.source.bytesRead)
      SelectedRootExecutorError.remoteWriteFileCreateResumeOffsetMismatch
      = .error .remoteWriteFileCreateResumeOffsetMismatch := by
    simp [refuseIf, h.start_eq, houtside]
  rw [acknowledgeProviderOffset, get_bind_apply, ofExcept_bind_of_ok h.validate,
    ofExcept_bind_of_ok h.pendingEndOffset_eq, ofExcept_bind_of_error hrefused]

/-- The part of a buffer that the transmission counters are not in. -/
def withoutCounters (buffer : SelectedRootFileCreateUploadBuffer sha256) :
    SelectedRootFileCreateUploadBuffer sha256 :=
  { buffer with networkBytesAttempted := 0, transmissions := 0 }

/-- Recording a transmission changes only the counters. -/
theorem leaves_recordTransmissionBytes (request : SelectedRootFileCreateUploadRequest)
    (transmittedBytes : ℕ) :
    Leaves (withoutCounters : SelectedRootFileCreateUploadBuffer sha256 → _)
      (recordTransmissionBytes request transmittedBytes) :=
  .bind .get fun _ => .bind (.ofExcept _) fun _ => .bind (.ofExcept _) fun _ =>
    .bind (.ofExcept _) fun _ => .bind (.modify fun _ => rfl) fun _ =>
      .bind (.ofExcept _) fun _ => .modify fun _ => rfl

theorem Retains.recordTransmissionBytes (h : Retains content acknowledged buffer)
    {target alignment : ℕ} (hsized : Sized target alignment buffer)
    (request : SelectedRootFileCreateUploadRequest) (transmittedBytes : ℕ) :
    Retains content acknowledged
        (stateAfter (recordTransmissionBytes request transmittedBytes) buffer) ∧
      Sized target alignment
        (stateAfter (recordTransmissionBytes request transmittedBytes) buffer) := by
  have hframe := leaves_recordTransmissionBytes request transmittedBytes buffer
  generalize stateAfter (SelectedRootFileCreateUploadBuffer.recordTransmissionBytes request
    transmittedBytes) buffer = after at hframe ⊢
  obtain ⟨source, start, pending, target', alignment', _, _⟩ := after
  simp only [withoutCounters, SelectedRootFileCreateUploadBuffer.mk.injEq, and_true] at hframe
  obtain ⟨rfl, rfl, rfl, rfl, rfl⟩ := hframe
  exact ⟨⟨h.fits, h.total, h.unread, h.read_le, h.hashed, h.start_eq, h.start_le, h.retained⟩,
    ⟨hsized.target_eq, hsized.alignment_eq, hsized.pending_le⟩⟩

/-! ## The hash -/

theorem Retains.completedSha256Hex_iff (h : Retains content acknowledged buffer) (hex : Text) :
    buffer.completedSha256Hex = .ok hex ↔
      buffer.source.bytesRead = content.length ∧ hex = sha256.sha256Hex content := by
  rw [completedSha256Hex, SelectedRootFileCreateLocalSource.completedSha256Hex, refuseIf_bind_eq_ok,
    h.total, bne_eq_false_iff_eq]
  refine and_congr_right fun hread => ?_
  obtain ⟨chunks, hhasher, hflatten⟩ := h.hashed
  rw [hhasher, sha256.streams, hflatten, hread, List.take_length]
  exact ⟨fun hok => (Except.ok.inj hok).symm, fun heq => congrArg _ heq.symm⟩

end Buffer

/-! ## The range of a prepared request -/

/-- The provider takes a prepared request when the target is a multiple of its alignment. -/
theorem RequestOf.range_accepted {content : List UInt8} {acknowledged target : ℕ}
    {request : SelectedRootFileCreateUploadRequest} (h : RequestOf content acknowledged target request)
    (hfits : content.length < 2 ^ 64) (hlt : acknowledged < content.length) (htarget : 0 < target)
    (haligned : driveResumableChunkAlignmentBytes ∣ target) :
    Succeeds (buildResumableChunkContentRange content.length request.startOffset
      request.bytes.length) := by
  have hlength := h.length_eq
  have hsizes : (content.length == 0 || request.bytes.length == 0) = false := by
    rw [Bool.or_eq_false_iff]
    exact ⟨beq_false_of_ne (by omega), beq_false_of_ne (by omega)⟩
  rw [h.start_eq]
  refine .check hsizes (.present (checkedAddU64_of_lt (by omega))
    (.check (by simp; omega) (.check ?_ (.ok _))))
  by_cases hend : acknowledged + request.bytes.length = content.length
  · simp [hend]
  · have hfull : request.bytes.length = target := by omega
    simp [hfull, Nat.mod_eq_zero_of_dvd haligned]

/-! ## Runs -/

/-- A call of a client on the buffer, with whatever arguments. -/
inductive UploadCall where
  | prepareRequest
  | recordTransmission (request : SelectedRootFileCreateUploadRequest)
  | recordTransmissionBytes (request : SelectedRootFileCreateUploadRequest) (transmittedBytes : ℕ)
  | acknowledgeProviderOffset (nextOffset : ℕ)

/-- An upload in progress: the buffer, and the last offset an acknowledgement was accepted at. -/
structure Upload (sha256 : Sha256) where
  buffer : SelectedRootFileCreateUploadBuffer sha256
  acknowledged : ℕ

open SelectedRootFileCreateUploadBuffer in
/-- The upload after a call, whether it returned or threw. -/
def Upload.after {sha256 : Sha256} (upload : Upload sha256) : UploadCall → Upload sha256
  | .prepareRequest => { upload with buffer := stateAfter prepareRequest upload.buffer }
  | .recordTransmission request =>
      { upload with buffer := stateAfter (recordTransmission request) upload.buffer }
  | .recordTransmissionBytes request transmittedBytes =>
      { upload with
        buffer := stateAfter (recordTransmissionBytes request transmittedBytes) upload.buffer }
  | .acknowledgeProviderOffset nextOffset =>
      match acknowledgeProviderOffset nextOffset upload.buffer with
      | .ok _ after => ⟨after, nextOffset⟩
      | .error _ after => { upload with buffer := after }

section Runs

variable {sha256 : Sha256} {content : List UInt8} {target alignment : ℕ}

/-- The invariant of an upload. -/
structure Upload.Sound (content : List UInt8) (target alignment : ℕ) (upload : Upload sha256) :
    Prop where
  retains : Retains content upload.acknowledged upload.buffer
  sized : Sized target alignment upload.buffer

theorem Upload.Sound.after {upload : Upload sha256} (h : upload.Sound content target alignment)
    (haligned : alignment ∣ target) (call : UploadCall) :
    (upload.after call).Sound content target alignment := by
  cases call with
  | prepareRequest =>
      by_cases hlt : upload.acknowledged < content.length
      · obtain ⟨request, after, hprepare, -, hretains, hsized⟩ :=
          h.retains.prepareRequest h.sized haligned hlt
        simp only [Upload.after, stateAfter, hprepare]
        exact ⟨hretains, hsized⟩
      · simp only [Upload.after, stateAfter, h.retains.prepareRequest_done (by omega)]
        exact h
  | recordTransmission request =>
      obtain ⟨hretains, hsized⟩ :=
        h.retains.recordTransmissionBytes h.sized request request.bytes.length
      exact ⟨hretains, hsized⟩
  | recordTransmissionBytes request transmittedBytes =>
      obtain ⟨hretains, hsized⟩ :=
        h.retains.recordTransmissionBytes h.sized request transmittedBytes
      exact ⟨hretains, hsized⟩
  | acknowledgeProviderOffset nextOffset =>
      by_cases hwithin : upload.acknowledged ≤ nextOffset ∧
          nextOffset ≤ upload.buffer.source.bytesRead
      · obtain ⟨after, hacknowledge, hretains, -, hsized⟩ :=
          h.retains.acknowledge hwithin.1 hwithin.2
        simp only [Upload.after, hacknowledge]
        exact ⟨hretains, hsized h.sized⟩
      · have hrefused := h.retains.acknowledge_refused nextOffset (by omega)
        simp only [Upload.after, hrefused]
        exact h

theorem Upload.Sound.run {upload : Upload sha256} (h : upload.Sound content target alignment)
    (haligned : alignment ∣ target) (calls : List UploadCall) :
    (calls.foldl Upload.after upload).Sound content target alignment := by
  induction calls generalizing upload with
  | nil => exact h
  | cons call rest ih => exact ih (h.after haligned call)

theorem new_eq_ok (htarget : 0 < target) (haligned : alignment ∣ target) :
    SelectedRootFileCreateUploadBuffer.new
        (.opened content : SelectedRootFileCreateLocalSource sha256) target alignment
      = .ok ⟨.opened content, 0, [], target, alignment, 0, 0⟩ := by
  have halignment : alignment ≠ 0 := by
    rintro rfl
    rw [Nat.zero_dvd] at haligned
    omega
  rw [SelectedRootFileCreateUploadBuffer.new, refuseIf_bind_eq_ok, refuseIf_bind_eq_ok]
  exact ⟨by simp; omega, by simp [Nat.mod_eq_zero_of_dvd haligned], rfl⟩

theorem Upload.Sound.opened (hfits : content.length < 2 ^ 64) :
    (⟨⟨.opened content, 0, [], target, alignment, 0, 0⟩, 0⟩ : Upload sha256).Sound content target
      alignment where
  retains := ⟨hfits, rfl, rfl, Nat.zero_le _, ⟨[], rfl, rfl⟩, rfl, le_rfl, rfl⟩
  sized := ⟨rfl, rfl, Nat.zero_le _⟩

/-! ## The guarantees -/

/-- What an upload in progress guarantees. -/
structure UploadGuarantees (content : List UInt8) (target alignment : ℕ) (upload : Upload sha256) :
    Prop where
  /-- The retained bytes are the window of the content from the acknowledged offset to what was
      read. -/
  window : upload.buffer.pendingStartOffset = upload.acknowledged ∧
    upload.acknowledged ≤ upload.buffer.source.bytesRead ∧
    upload.buffer.source.bytesRead ≤ content.length ∧
    upload.buffer.pending =
      (content.take upload.buffer.source.bytesRead).drop upload.buffer.pendingStartOffset
  /-- Every byte read was hashed once, in order. -/
  hashed : ∃ chunks : List (List UInt8),
    upload.buffer.source.hasher = chunks.foldl sha256.update sha256.new ∧
    chunks.flatten = content.take upload.buffer.source.bytesRead
  /-- Preparing a request succeeds as long as something is unacknowledged. -/
  prepares : upload.acknowledged < content.length →
    ∃ request after, upload.buffer.prepareRequest = .ok request after
  /-- A prepared request carries the content from the acknowledged offset on; it ends the content or
      has the target size, and the provider takes it. -/
  requests : ∀ request after, upload.buffer.prepareRequest = .ok request after →
    request.startOffset = upload.acknowledged ∧
    request.bytes = (content.drop upload.acknowledged).take request.bytes.length ∧
    (request.finalRequest = true → upload.acknowledged + request.bytes.length = content.length) ∧
    (request.finalRequest = false → request.bytes.length = target) ∧
    (alignment = driveResumableChunkAlignmentBytes →
      Succeeds (buildResumableChunkContentRange content.length request.startOffset
        request.bytes.length))
  /-- An acknowledgement inside the window is accepted: the window starts there, and nothing is read. -/
  accepts : ∀ nextOffset, upload.buffer.pendingStartOffset ≤ nextOffset →
    nextOffset ≤ upload.buffer.source.bytesRead →
    ∃ after, upload.buffer.acknowledgeProviderOffset nextOffset
        = .ok (nextOffset - upload.buffer.pendingStartOffset) after ∧
      after.pendingStartOffset = nextOffset ∧ after.source = upload.buffer.source ∧
      after.pending = (content.take upload.buffer.source.bytesRead).drop nextOffset
  /-- An acknowledgement outside the window is rejected and changes nothing. -/
  rejects : ∀ nextOffset, nextOffset < upload.buffer.pendingStartOffset ∨
      upload.buffer.source.bytesRead < nextOffset →
    ∃ error, upload.buffer.acknowledgeProviderOffset nextOffset = .error error upload.buffer
  /-- The hash is there once everything is read, and is that of the content. -/
  completes : ∀ hex, upload.buffer.completedSha256Hex = .ok hex ↔
    upload.buffer.source.bytesRead = content.length ∧ hex = sha256.sha256Hex content

theorem Upload.Sound.guarantees {upload : Upload sha256}
    (h : upload.Sound content target alignment) (htarget : 0 < target) (haligned : alignment ∣ target) :
    UploadGuarantees content target alignment upload where
  window := ⟨h.retains.start_eq, h.retains.start_le, h.retains.read_le, by
    rw [h.retains.start_eq]
    exact h.retains.retained⟩
  hashed := h.retains.hashed
  prepares hlt := by
    obtain ⟨request, after, hprepare, -⟩ := h.retains.prepareRequest h.sized haligned hlt
    exact ⟨request, after, hprepare⟩
  requests request after hprepare := by
    have hlt : upload.acknowledged < content.length := by
      by_contra hdone
      rw [h.retains.prepareRequest_done (by omega)] at hprepare
      cases hprepare
    obtain ⟨request', after', hprepare', hrequest, -⟩ :=
      h.retains.prepareRequest h.sized haligned hlt
    rw [hprepare] at hprepare'
    cases hprepare'
    have hlength := hrequest.length_eq
    refine ⟨hrequest.start_eq, hrequest.bytes_eq, hrequest.final_iff.mp, fun hmore => ?_, ?_⟩
    · have hend := mt hrequest.final_iff.mpr (by simp [hmore])
      omega
    · intro hdrive
      exact hrequest.range_accepted h.retains.fits hlt htarget (hdrive ▸ haligned)
  accepts nextOffset hlower hupper := by
    rw [h.retains.start_eq] at hlower ⊢
    obtain ⟨after, haccepted, hretains, hsource, -⟩ := h.retains.acknowledge hlower hupper
    refine ⟨after, haccepted, hretains.start_eq, hsource, ?_⟩
    rw [hretains.retained, hsource, window]
  rejects nextOffset houtside := by
    rw [h.retains.start_eq] at houtside
    exact ⟨_, h.retains.acknowledge_refused _ houtside⟩
  completes := h.retains.completedSha256Hex_iff

end Runs

/-- **Upload buffer**: on any content, with any target size that is a multiple of the alignment, the
    guarantees hold after every sequence of calls with any arguments. -/
theorem upload_guarantees (sha256 : Sha256) (content : List UInt8) (target alignment : ℕ)
    (hfits : content.length < 2 ^ 64) (htarget : 0 < target) (haligned : alignment ∣ target) :
    ∃ buffer, SelectedRootFileCreateUploadBuffer.new
        (.opened content : SelectedRootFileCreateLocalSource sha256) target alignment
          = .ok buffer ∧
      ∀ calls : List UploadCall,
        UploadGuarantees content target alignment (calls.foldl Upload.after ⟨buffer, 0⟩) := by
  refine ⟨_, new_eq_ok htarget haligned, fun calls => ?_⟩
  exact ((Upload.Sound.opened hfits).run haligned calls).guarantees htarget haligned

theorem foldl_append_eq (fed : List UInt8) (chunks : List (List UInt8)) :
    chunks.foldl (· ++ ·) fed = fed ++ chunks.flatten := by
  induction chunks generalizing fed with
  | nil => simp
  | cons chunk rest ih => rw [List.foldl_cons, ih, List.flatten_cons, List.append_assoc]

/-- A hash that keeps what it is fed. -/
def keepingHash : Sha256 where
  Hasher := List UInt8
  new := []
  update := (· ++ ·)
  finalizeHex bytes := bytes.map fun byte => Char.ofNat byte.toNat
  sha256Hex bytes := bytes.map fun byte => Char.ofNat byte.toNat
  streams chunks := congrArg _ (by rw [foldl_append_eq, List.nil_append])

theorem upload_guarantees_sample :
    ∃ buffer, SelectedRootFileCreateUploadBuffer.new
        (.opened [1, 2, 3] : SelectedRootFileCreateLocalSource keepingHash)
          driveResumableChunkAlignmentBytes driveResumableChunkAlignmentBytes = .ok buffer ∧
      ∀ calls : List UploadCall,
        UploadGuarantees [1, 2, 3] driveResumableChunkAlignmentBytes
          driveResumableChunkAlignmentBytes (calls.foldl Upload.after ⟨buffer, 0⟩) :=
  upload_guarantees keepingHash [1, 2, 3] driveResumableChunkAlignmentBytes
    driveResumableChunkAlignmentBytes (by decide) (by decide) (Nat.dvd_refl _)

end NubiSync
