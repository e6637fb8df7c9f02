import NubiSync.Cli.FileCreateUpload
import NubiSync.Storage.IntentExecution

set_option autoImplicit false

/-! # The upload loop ends and is fenced

A provider can acknowledge a byte at a time, and none for a while in between, but each byte brings at most
three answers without progress with it, so that the acknowledged bytes and the patience left bound the
requests (`UploadSound`). The invariant also says of everything that has happened that the fingerprint was
recorded before a request that reaches the end; what follows for a whole command is `UploadFenced`. -/

namespace NubiSync

open Checks Methods Transactions FileCreateUpload

/-! ## The fingerprint -/

/-- The row of an intent has a size and a SHA-256 recorded. -/
def RootStore.HasFingerprint (store : RootStore) (intentId sizeBytes : ℕ) (sha256Hex : Text) : Prop :=
  ∃ intent, store.intents.find? intentId = some intent ∧
    intent.expectedRemoteSizeBytes = some sizeBytes ∧
    intent.expectedChecksumAlgorithm = some "sha256".toList ∧
    intent.expectedContentChecksum = some sha256Hex

theorem ensures_hasFingerprint (store : RootStore) (id generation size : ℕ) (sha256Hex : Text) :
    Ensures (store.recordFileCreateStreamFingerprint id generation size sha256Hex)
      fun r => r.1.HasFingerprint id size sha256Hex := by
  refine .check fun _arguments => .after fun _checksum => .after fun _generation => ?_
  refine (ensures_toI64 size).bind fun _ hsize => ?_
  subst hsize
  refine (ensures_intentWhere store id _).bind fun intent hintent => .ok ?_
  obtain ⟨-, rfl⟩ := Table.find?_eq_some_iff.mp hintent.1
  exact ⟨_, find?_writeIntent _ _, rfl, rfl, rfl⟩

/-! ## The fence -/

section Fence

variable (sha256 : Sha256) (content : List UInt8) (submission : FileCreateSubmission)

/-- A request that reaches the end of the content is sent over a store in which the intent has the size
    and the hash of the content recorded. -/
def FingerprintFirst (events : List UploadEvent) : Prop :=
  ∀ startOffset bytes store, .chunkRequest startOffset bytes store ∈ events →
    content.length ≤ startOffset + bytes.length →
    store.HasFingerprint submission.intentId content.length (sha256.sha256Hex content)

/-- A request has reached the end of the content and the provider has reported completion of it, with
    the version and the hash of the content; a completion without a hash has been followed by an exact
    lookup of the file. -/
def CompletedByProvider (events : List UploadEvent) (remoteVersion : ℕ) : Prop :=
  ∃ earlier startOffset bytes store completion later,
    events = earlier ++ .chunkRequest startOffset bytes store ::
      .providerProgress (.complete completion) :: later ∧
    startOffset + bytes.length = content.length ∧
    (completion.sha256Checksum = some (sha256.sha256Hex content) ∧
        remoteVersion = completion.remoteVersion ∨
      completion.sha256Checksum = none ∧
        .expectedFileLookup submission.predeterminedRemoteId content.length
          (sha256.sha256Hex content) (.exact remoteVersion) ∈ later)

/-- What has happened in an upload, in order. -/
structure UploadFenced (events : List UploadEvent) : Prop where
  bounded : chunkRequests events ≤ 4 * content.length
  fingerprintFirst : FingerprintFirst sha256 content submission events
  completed : ∀ before after remoteVersion, events = before ++ .completeUpload remoteVersion :: after →
    CompletedByProvider sha256 content submission before remoteVersion

/-- An upload throws, with the fence kept. -/
def ThrowsFenced (error : Halt CliError) (state : FileCreateUpload sha256) : Prop :=
  error ≠ .unending ∧ UploadFenced sha256 content submission state.events

end Fence

/-! ## What has happened -/

section Events

variable {sha256 : Sha256} {content : List UInt8} {submission : FileCreateSubmission}
  {events later : List UploadEvent}

@[simp] theorem chunkRequests_append (events later : List UploadEvent) :
    chunkRequests (events ++ later) = chunkRequests events + chunkRequests later :=
  List.countP_append

theorem FingerprintFirst.append (h : FingerprintFirst sha256 content submission events)
    (hlater : FingerprintFirst sha256 content submission later) :
    FingerprintFirst sha256 content submission (events ++ later) := by
  intro startOffset bytes store hmem hreaches
  rcases List.mem_append.mp hmem with hmem | hmem
  · exact h _ _ _ hmem hreaches
  · exact hlater _ _ _ hmem hreaches

/-- An upload that was not completed has nothing more to be fenced. -/
theorem UploadFenced.of_uncompleted (hbounded : chunkRequests events ≤ 4 * content.length)
    (hfirst : FingerprintFirst sha256 content submission events)
    (huncompleted : ∀ remoteVersion, .completeUpload remoteVersion ∉ events) :
    UploadFenced sha256 content submission events where
  bounded := hbounded
  fingerprintFirst := hfirst
  completed before after remoteVersion hsplit := by
    refine absurd ?_ (huncompleted remoteVersion)
    rw [hsplit]
    exact List.mem_append_right _ List.mem_cons_self

/-- The completion of an upload that the provider completed. -/
theorem UploadFenced.complete {remoteVersion : ℕ} (h : UploadFenced sha256 content submission events)
    (huncompleted : ∀ remoteVersion, .completeUpload remoteVersion ∉ events)
    (hcompleted : CompletedByProvider sha256 content submission events remoteVersion) :
    UploadFenced sha256 content submission (events ++ [.completeUpload remoteVersion]) where
  bounded := by
    have hbounded := h.bounded
    simpa [chunkRequests, UploadEvent.isChunkRequest] using hbounded
  fingerprintFirst := h.fingerprintFirst.append fun _ _ _ hmem => by simp at hmem
  completed before after version hsplit := by
    -- the only completion is the last event
    rcases List.eq_nil_or_concat after with rfl | ⟨initial, last, rfl⟩
    · obtain ⟨rfl, hlast⟩ := List.append_inj' hsplit rfl
      obtain rfl : remoteVersion = version := by simpa using hlast
      exact hcompleted
    · refine absurd ?_ (huncompleted version)
      rw [List.concat_eq_append, ← List.cons_append, ← List.append_assoc] at hsplit
      rw [(List.append_inj' hsplit rfl).1]
      exact List.mem_append_right _ List.mem_cons_self

end Events

/-! ## What the parts of a command do -/

section Parts

variable {sha256 : Sha256} {content : List UInt8} {submission : FileCreateSubmission} {α : Type}
  {state : FileCreateUpload sha256} {Q : α → FileCreateUpload sha256 → Prop}

/-- What fails beside the variables throws with the fence there was. -/
theorem meets_attempt {result : Except CliError α}
    (hfenced : UploadFenced sha256 content submission state.events)
    (hok : ∀ a, result = .ok a → Q a state) :
    Meets (attempt result) state Q (ThrowsFenced sha256 content submission) := by
  refine .ofExcept (fun a ha => hok a (mapError_eq_ok.mp ha)) fun error herror => ?_
  cases result with
  | ok => cases herror
  | error failure =>
      obtain rfl := Except.error.inj herror
      exact ⟨nofun, hfenced⟩

theorem meets_onUpload {method : SelectedRootFileCreateUploadBuffer.Method sha256 α}
    (hfenced : UploadFenced sha256 content submission state.events)
    (hmethod : ∀ a upload, method state.upload = .ok a upload → Q a { state with upload := upload }) :
    Meets (onUpload method) state Q (ThrowsFenced sha256 content submission) := by
  unfold Meets onUpload
  cases hresult : method state.upload with
  | ok a upload => exact hmethod a upload hresult
  | error error upload => exact ⟨nofun, hfenced⟩

theorem meets_onStore {write : RootStore → Except StorageError (RootStore × α)}
    (hfenced : UploadFenced sha256 content submission state.events)
    (hwrite : ∀ store a, write state.store = .ok (store, a) → Q a { state with store := store }) :
    Meets (onStore write) state Q (ThrowsFenced sha256 content submission) := by
  refine .bind (.get ?_)
  refine .bind (meets_attempt hfenced fun (store, a) hok => ?_)
  exact .bind (.modify (.pure (hwrite store a (mapError_eq_ok.mp hok))))

theorem meets_throw {error : CliError}
    (hfenced : UploadFenced sha256 content submission state.events) :
    Meets (throw (.failed error) : UploadMethod sha256 α) state Q
      (ThrowsFenced sha256 content submission) :=
  .throw ⟨nofun, hfenced⟩

end Parts

/-! ## The invariant -/

section Loop

variable {sha256 : Sha256} {content : List UInt8} {submission : FileCreateSubmission} {agreed : Prop}
  {acknowledged : ℕ} {state : FileCreateUpload sha256} {api : UploadApi}

/-- An upload of which so many bytes are acknowledged. -/
structure Uploading (content : List UInt8) (submission : FileCreateSubmission) (acknowledged : ℕ)
    (state : FileCreateUpload sha256) : Prop where
  retains : Retains content acknowledged state.upload
  sized : Sized driveDefaultResumableChunkBytes driveResumableChunkAlignmentBytes state.upload
  fingerprint : ∀ hex ∈ state.finalSha256, hex = sha256.sha256Hex content ∧
    state.store.HasFingerprint submission.intentId content.length (sha256.sha256Hex content)
  fingerprintFirst : FingerprintFirst sha256 content submission state.events
  uncompleted : ∀ remoteVersion, .completeUpload remoteVersion ∉ state.events

/-- The requests are paid for by what is acknowledged, four for a byte, and by the answers without
    progress since. -/
structure Waiting (content : List UInt8) (acknowledged : ℕ) (state : FileCreateUpload sha256) :
    Prop where
  completion : state.completion = none
  patient : state.noProgressResponses ≤ 3
  renewed : acknowledged = content.length → state.noProgressResponses = 0
  spent : chunkRequests state.events ≤ 4 * acknowledged + state.noProgressResponses

/-- The invariant of the loop. Before the final request, the hash of the stream was `agreed` on. -/
inductive UploadSound (content : List UInt8) (submission : FileCreateSubmission) (agreed : Prop)
    (state : FileCreateUpload sha256) : Prop where
  | waiting (acknowledged : ℕ) (uploading : Uploading content submission acknowledged state)
      (waiting : Waiting content acknowledged state)
  | completed (acknowledged : ℕ) (completion : DriveOrdinaryFileUploadCompletion)
      (uploading : Uploading content submission acknowledged state)
      (completion_eq : state.completion = some completion)
      (bounded : chunkRequests state.events ≤ 4 * content.length) (agrees : agreed)
      (ends : ∃ earlier startOffset bytes store, state.events = earlier ++
          [.chunkRequest startOffset bytes store, .providerProgress (.complete completion)] ∧
        startOffset + bytes.length = content.length)

theorem Uploading.fenced (h : Uploading content submission acknowledged state)
    (hbounded : chunkRequests state.events ≤ 4 * content.length) :
    UploadFenced sha256 content submission state.events :=
  .of_uncompleted hbounded h.fingerprintFirst h.uncompleted

/-- Something happens that is not the completion of the upload. -/
theorem Uploading.note {event : UploadEvent} (h : Uploading content submission acknowledged state)
    (hfirst : FingerprintFirst sha256 content submission [event])
    (hevent : ∀ remoteVersion, event ≠ .completeUpload remoteVersion) :
    Uploading content submission acknowledged { state with events := state.events ++ [event] } where
  retains := h.retains
  sized := h.sized
  fingerprint := h.fingerprint
  fingerprintFirst := h.fingerprintFirst.append hfirst
  uncompleted remoteVersion hmem := by
    rcases List.mem_append.mp hmem with hmem | hmem
    · exact h.uncompleted remoteVersion hmem
    · exact hevent remoteVersion (List.mem_singleton.mp hmem).symm

theorem Uploading.le_length (h : Uploading content submission acknowledged state) :
    acknowledged ≤ content.length :=
  h.retains.start_le.trans h.retains.read_le

theorem Waiting.bounded (h : Waiting content acknowledged state)
    (hle : acknowledged ≤ content.length) : chunkRequests state.events ≤ 4 * content.length := by
  have hpatient := h.patient
  have hspent := h.spent
  by_cases hall : acknowledged = content.length
  · have hrenewed := h.renewed hall
    omega
  · omega

theorem UploadSound.bounded (h : UploadSound content submission agreed state) :
    chunkRequests state.events ≤ 4 * content.length := by
  cases h with
  | waiting acknowledged uploading waiting => exact waiting.bounded uploading.le_length
  | completed _ _ _ _ bounded => exact bounded

/-! ## A round -/

/-- What precedes a final request changes only the store and the hash it keeps; afterwards the
    fingerprint is recorded and the hash agreed on. -/
def ReadiesFinal (content : List UInt8) (submission : FileCreateSubmission) (agreed : Prop)
    (beforeFinal : UploadMethod sha256 Unit) : Prop :=
  ∀ acknowledged state, Uploading content submission acknowledged state →
    UploadFenced sha256 content submission state.events →
    Meets beforeFinal state (fun _ after =>
        (∃ store finalSha256, after = { state with store := store, finalSha256 := finalSha256 }) ∧
        Uploading content submission acknowledged after ∧
        after.store.HasFingerprint submission.intentId content.length (sha256.sha256Hex content) ∧
        agreed)
      (ThrowsFenced sha256 content submission)

/-- A chunk request is answered, or its status cannot be told. -/
theorem meets_uploadChunk {request : SelectedRootFileCreateUploadRequest}
    (hfenced : UploadFenced sha256 content submission
      (state.events ++ [.chunkRequest request.startOffset request.bytes state.store])) :
    Meets (uploadChunk api request) state
      (fun progress after => ∃ statusProbes, after = { state with
        statusProbes := statusProbes
        events := state.events ++ [.chunkRequest request.startOffset request.bytes state.store]
          ++ [.providerProgress progress] })
      (ThrowsFenced sha256 content submission) := by
  refine .bind (.get (.bind (.modify ?_)))
  cases api.answer (chunkRequests state.events) with
  | progress progress => exact .bind (.pure (.bind (.modify (.pure ⟨state.statusProbes, rfl⟩))))
  | failed status =>
      refine .bind (meets_attempt hfenced fun statusProbes _ => ?_)
      refine .bind (.modify (.bind (meets_attempt hfenced fun progress _ => ?_)))
      exact .bind (.modify (.pure ⟨statusProbes, rfl⟩))

/-- An incomplete answer to a request keeps the invariant. -/
theorem meets_acceptOffset (h : Uploading content submission acknowledged state)
    (hlt : acknowledged < content.length) (hnone : state.completion = none)
    (hpatient : state.noProgressResponses ≤ 3)
    (hspent : chunkRequests state.events ≤ 4 * acknowledged + state.noProgressResponses + 1)
    (nextOffset requestEnd : ℕ) :
    Meets (acceptOffset nextOffset requestEnd) state
      (fun _ after => ∃ next, Uploading content submission next after ∧ Waiting content next after ∧
        after.events = state.events)
      (ThrowsFenced sha256 content submission) := by
  have hfenced := h.fenced (show chunkRequests state.events ≤ 4 * content.length by omega)
  refine .bind (.get ?_)
  by_cases hwithin : acknowledged ≤ nextOffset ∧ nextOffset ≤ state.upload.source.bytesRead
  · obtain ⟨upload, haccepted, hretains, -, hsized⟩ := h.retains.acknowledge hwithin.1 hwithin.2
    rw [haccepted]
    refine .bind (.modify ?_)
    split
    · -- no progress: as long as there is patience left, it pays for the request
      refine .bind (meets_attempt hfenced fun noProgress hadd => ?_)
      refine .bind (.modify (meets_attempt hfenced fun _ hlimit => ?_))
      obtain rfl : nextOffset = acknowledged := by omega
      obtain rfl := eq_add_of_checkedAddU64 ((orRefuse_eq_ok _ _ _).mp hadd)
      have hlimit := of_decide_eq_false ((refuseIf_eq_ok _ _ _).mp hlimit)
      exact ⟨nextOffset,
        ⟨hretains, hsized h.sized, h.fingerprint, h.fingerprintFirst, h.uncompleted⟩,
        ⟨hnone, Nat.le_of_not_lt hlimit, fun hall => by omega, hspent⟩, rfl⟩
    · -- progress: an acknowledged byte pays for the request and for the patience it renews
      have hrenewed : 4 * acknowledged + state.noProgressResponses + 1 ≤ 4 * nextOffset + 0 := by omega
      refine .bind (.modify ?_)
      split
      · refine .bind (meets_attempt hfenced fun recoveries _ => .modify ⟨nextOffset,
          ⟨hretains, hsized h.sized, h.fingerprint, h.fingerprintFirst, h.uncompleted⟩,
          ⟨hnone, Nat.zero_le _, fun _ => rfl, hspent.trans hrenewed⟩, rfl⟩)
      · exact .pure ⟨nextOffset,
          ⟨hretains, hsized h.sized, h.fingerprint, h.fingerprintFirst, h.uncompleted⟩,
          ⟨hnone, Nat.zero_le _, fun _ => rfl, hspent.trans hrenewed⟩, rfl⟩
  · rw [h.retains.acknowledge_refused nextOffset (by omega)]
    exact .bind (.modify (meets_throw hfenced))

/-- A prepared request, once the fingerprint is recorded where it has to be, keeps the invariant. -/
theorem meets_transmit {request : SelectedRootFileCreateUploadRequest}
    (h : Uploading content submission acknowledged state)
    (hwaiting : Waiting content acknowledged state) (hlt : acknowledged < content.length)
    (hrequest : RequestOf content acknowledged driveDefaultResumableChunkBytes request)
    (hfinal : request.finalRequest = true →
      state.store.HasFingerprint submission.intentId content.length (sha256.sha256Hex content) ∧ agreed)
    (requestEnd : ℕ) :
    Meets (transmit api request requestEnd) state
      (fun _ after => UploadSound content submission agreed after ∧
        chunkRequests state.events < chunkRequests after.events)
      (ThrowsFenced sha256 content submission) := by
  have hspent := hwaiting.spent
  have hpatient := hwaiting.patient
  refine .bind (meets_onUpload (h.fenced (hwaiting.bounded h.le_length)) fun _ upload hrecord => ?_)
  obtain ⟨hretains, hsized⟩ :=
    h.retains.recordTransmissionBytes h.sized request request.bytes.length
  simp only [stateAfter, hrecord] at hretains hsized
  -- what is sent reaches the end only as a final request
  have hfirst : FingerprintFirst sha256 content submission
      [.chunkRequest request.startOffset request.bytes state.store] := by
    intro startOffset bytes store hmem hreaches
    obtain ⟨rfl, rfl, rfl⟩ : startOffset = request.startOffset ∧ bytes = request.bytes ∧
      store = state.store := by simpa using hmem
    have hlength := hrequest.length_eq
    rw [hrequest.start_eq] at hreaches
    exact (hfinal (hrequest.final_iff.mpr (by omega))).1
  have hupload : Uploading content submission acknowledged { state with upload := upload } :=
    ⟨hretains, hsized, h.fingerprint, h.fingerprintFirst, h.uncompleted⟩
  have hsent := hupload.note hfirst (by simp)
  have hcount : chunkRequests (state.events ++
      [.chunkRequest request.startOffset request.bytes state.store]) = chunkRequests state.events + 1 :=
    chunkRequests_append _ _
  refine .andThen (meets_uploadChunk (hsent.fenced (by dsimp only; omega))) ?_
  rintro progress after ⟨statusProbes, rfl⟩
  have hcount' : chunkRequests (state.events ++
      [.chunkRequest request.startOffset request.bytes state.store] ++ [.providerProgress progress])
      = chunkRequests state.events + 1 := (chunkRequests_append _ _).trans hcount
  have hquiet : FingerprintFirst sha256 content submission [.providerProgress progress] :=
    fun _ _ _ hmem => by simp at hmem
  have hprogress := hsent.note hquiet (by simp)
  have hanswered : Uploading content submission acknowledged
      { state with
        upload := upload
        statusProbes := statusProbes
        events := state.events ++ [.chunkRequest request.startOffset request.bytes state.store]
          ++ [.providerProgress progress] } :=
    ⟨hretains, hsized, h.fingerprint, hprogress.fingerprintFirst, hprogress.uncompleted⟩
  have hfenced' := hanswered.fenced (by dsimp only; omega)
  cases progress with
  | incomplete nextOffset =>
      have haccept := meets_acceptOffset hanswered hlt hwaiting.completion hpatient
        (by dsimp only; omega) nextOffset requestEnd
      refine haccept.mono ?_ fun _ _ herror => herror
      rintro _ after ⟨next, huploading, hwaits, hevents⟩
      refine ⟨.waiting next huploading hwaits, ?_⟩
      rw [hevents]
      dsimp only
      omega
  | complete completion =>
      dsimp only
      split
      next hisfinal =>
        refine .modify ⟨.completed acknowledged completion ?_ rfl (by dsimp only; omega)
          (hfinal hisfinal).2 ⟨_, _, _, _, List.append_assoc _ _ _, ?_⟩, by dsimp only; omega⟩
        · exact ⟨hretains, hsized, h.fingerprint, hanswered.fingerprintFirst, hanswered.uncompleted⟩
        · rw [hrequest.start_eq]
          exact hrequest.final_iff.mp hisfinal
      · exact meets_throw hfenced'
  | expired => exact meets_throw hfenced'

/-- **A round keeps the invariant**, and sends a request. -/
theorem meets_chunkRound {beforeFinal : UploadMethod sha256 Unit}
    (hready : ReadiesFinal content submission agreed beforeFinal)
    (h : UploadSound content submission agreed state) (hnone : state.completion.isSome = false) :
    Meets (chunkRound api beforeFinal) state
      (fun _ after => UploadSound content submission agreed after ∧
        chunkRequests state.events < chunkRequests after.events)
      (ThrowsFenced sha256 content submission) := by
  cases h with
  | completed _ _ _ completion_eq => simp [completion_eq] at hnone
  | waiting acknowledged huploading hwaiting =>
      have hfenced := huploading.fenced (hwaiting.bounded huploading.le_length)
      by_cases hlt : acknowledged < content.length
      · obtain ⟨request, upload, hprepare, hrequest, hretains, hsized⟩ :=
          huploading.retains.prepareRequest huploading.sized (by decide) hlt
        refine .bind (meets_onUpload hfenced fun request' upload' hprepare' => ?_)
        rw [hprepare] at hprepare'
        cases hprepare'
        refine .bind (meets_attempt hfenced fun requestEnd _ => ?_)
        have hprepared : Uploading content submission acknowledged
            { state with upload := upload } :=
          ⟨hretains, hsized, huploading.fingerprint, huploading.fingerprintFirst,
            huploading.uncompleted⟩
        have hstill : Waiting content acknowledged { state with upload := upload } :=
          ⟨hwaiting.completion, hwaiting.patient, hwaiting.renewed, hwaiting.spent⟩
        by_cases hisfinal : request.finalRequest = true
        · rw [if_pos hisfinal]
          refine .andThen (hready acknowledged _ hprepared hfenced) ?_
          rintro _ after ⟨⟨store, finalSha256, rfl⟩, huploading, hrecorded, hagreed⟩
          exact meets_transmit huploading
            ⟨hwaiting.completion, hwaiting.patient, hwaiting.renewed, hwaiting.spent⟩ hlt hrequest
            (fun _ => ⟨hrecorded, hagreed⟩) requestEnd
        · rw [if_neg hisfinal]
          exact meets_transmit hprepared hstill hlt hrequest (fun h => absurd h hisfinal) requestEnd
      · refine .bind (meets_onUpload hfenced fun request upload hprepare => ?_)
        rw [huploading.retains.prepareRequest_done (by omega)] at hprepare
        cases hprepare

/-- **The loop ends** within four requests for a byte, whatever the provider answers, with a completion
    of a request that reached the end. -/
theorem meets_chunkLoop {beforeFinal : UploadMethod sha256 Unit}
    (hready : ReadiesFinal content submission agreed beforeFinal)
    {upload : SelectedRootFileCreateUploadBuffer sha256} (hretains : Retains content 0 upload)
    (hsized : Sized driveDefaultResumableChunkBytes driveResumableChunkAlignmentBytes upload)
    (store : RootStore) {fuel : ℕ} (hfuel : 4 * content.length < fuel) :
    Meets (chunkLoop api beforeFinal fuel) (.start store upload)
      (fun _ after => UploadSound content submission agreed after ∧ after.completion.isSome = true)
      (ThrowsFenced sha256 content submission) := by
  have hstart : UploadSound content submission agreed (.start store upload) :=
    .waiting 0 ⟨hretains, hsized, fun _ h => (nomatch h), fun _ _ _ h => (nomatch h),
      fun _ h => (nomatch h)⟩ ⟨rfl, Nat.zero_le _, fun _ => rfl, Nat.zero_le _⟩
  have hbound : ∀ state : FileCreateUpload sha256, UploadSound content submission agreed state →
      chunkRequests state.events ≤ 4 * content.length := fun _ h => h.bounded
  exact .untilDone hbound (fun _ h hnone => meets_chunkRound hready h hnone) hstart
    (Nat.lt_add_right _ hfuel)

/-! ## The commands -/

theorem readiesFinal_recordFinalSha256 : ReadiesFinal content submission True
    (recordFinalSha256 submission : UploadMethod sha256 Unit) := by
  intro acknowledged state h hfenced
  refine .bind (.get ?_)
  cases hfinal : state.finalSha256 with
  | some hex =>
      exact .pure ⟨⟨state.store, state.finalSha256, rfl⟩, h, (h.fingerprint hex hfinal).2, trivial⟩
  | none =>
      refine .bind (meets_attempt hfenced fun hex hhex => ?_)
      obtain ⟨-, rfl⟩ := (h.retains.completedSha256Hex_iff hex).mp (mapError_eq_ok.mp hhex)
      refine .bind (meets_onStore hfenced fun store _ hrecorded => .modify ?_)
      have hrecorded := ensures_hasFingerprint _ _ _ _ _ _ hrecorded
      rw [h.retains.total] at hrecorded
      refine ⟨⟨store, _, rfl⟩, ⟨h.retains, h.sized, ?_, h.fingerprintFirst, h.uncompleted⟩, hrecorded,
        trivial⟩
      intro hex hhex
      exact ⟨(Option.some.inj hhex).symm, hrecorded⟩

theorem readiesFinal_revalidateFingerprint (evidence : RemoteWriteFileCreateContentEvidence) :
    ReadiesFinal content submission (evidence.sha256Hex = sha256.sha256Hex content)
      (revalidateFingerprint submission evidence : UploadMethod sha256 Unit) := by
  intro acknowledged state h hfenced
  refine .bind (.get (.bind (meets_attempt hfenced fun hex hhex => ?_)))
  obtain ⟨-, rfl⟩ := (h.retains.completedSha256Hex_iff hex).mp (mapError_eq_ok.mp hhex)
  refine .bind (meets_attempt hfenced fun _ hagreed => ?_)
  have hagreed := (refuseIf_eq_ok _ _ _).mp hagreed
  rw [bne_eq_false_iff_eq] at hagreed
  refine .bind (meets_onStore hfenced fun store _ hrecorded => .pure ?_)
  have hrecorded := ensures_hasFingerprint _ _ _ _ _ _ hrecorded
  rw [h.retains.total] at hrecorded
  refine ⟨⟨store, state.finalSha256, rfl⟩, ⟨h.retains, h.sized, ?_, h.fingerprintFirst,
    h.uncompleted⟩, hrecorded, hagreed.symm⟩
  exact fun hex hhex => ⟨(h.fingerprint hex hhex).1, hrecorded⟩

theorem meets_conflict (now : UnixTimeMs) {Q : ℕ → FileCreateUpload sha256 → Prop}
    (hfenced : UploadFenced sha256 content submission state.events) :
    Meets (conflict submission now) state Q (ThrowsFenced sha256 content submission) :=
  .bind (meets_onStore hfenced fun _ _ _ => meets_throw hfenced)

/-- The version of a completed file is one that the provider vouches for. -/
theorem meets_completedVersion {completion : DriveOrdinaryFileUploadCompletion} (now : UnixTimeMs)
    (h : Uploading content submission acknowledged state)
    (hbounded : chunkRequests state.events ≤ 4 * content.length)
    (hends : ∃ earlier startOffset bytes store, state.events = earlier ++
        [.chunkRequest startOffset bytes store, .providerProgress (.complete completion)] ∧
      startOffset + bytes.length = content.length) :
    Meets (completedVersion api submission now completion content.length (sha256.sha256Hex content))
      state
      (fun remoteVersion after => Uploading content submission acknowledged after ∧
        chunkRequests after.events ≤ 4 * content.length ∧
        CompletedByProvider sha256 content submission after.events remoteVersion)
      (ThrowsFenced sha256 content submission) := by
  obtain ⟨earlier, startOffset, bytes, store, hevents, hreaches⟩ := hends
  have hfenced := h.fenced hbounded
  unfold completedVersion
  cases hchecksum : completion.sha256Checksum with
  | some remoteSha256 =>
      dsimp only
      split
      next hagrees =>
        refine .pure ⟨h, hbounded, earlier, startOffset, bytes, store, completion, [], hevents, hreaches,
          .inl ⟨?_, rfl⟩⟩
        rw [hchecksum, hagrees]
      · exact meets_conflict now hfenced
  | none =>
      refine .bind (meets_attempt hfenced fun lookup _ => .bind (.modify ?_))
      have hquiet : FingerprintFirst sha256 content submission [.expectedFileLookup
          submission.predeterminedRemoteId content.length (sha256.sha256Hex content) lookup] :=
        fun _ _ _ hmem => by simp at hmem
      have hlooked := h.note hquiet (by simp)
      have hbounded' : chunkRequests (state.events ++ [.expectedFileLookup
          submission.predeterminedRemoteId content.length (sha256.sha256Hex content) lookup])
          ≤ 4 * content.length := by
        rw [chunkRequests_append]
        exact hbounded
      cases lookup with
      | exact remoteVersion =>
          refine .pure ⟨hlooked, hbounded', earlier, startOffset, bytes, store, completion, _, ?_,
            hreaches, .inr ⟨hchecksum, List.mem_singleton_self _⟩⟩
          show state.events ++ _ = _
          rw [hevents, List.append_assoc]
          rfl
      | mismatch => exact meets_conflict now (hlooked.fenced hbounded')
      | missing => exact meets_throw (hlooked.fenced hbounded')

/-- The upload is completed once the provider has completed it. -/
theorem meets_completeUpload {remoteVersion : ℕ} (now : UnixTimeMs)
    (h : Uploading content submission acknowledged state)
    (hbounded : chunkRequests state.events ≤ 4 * content.length)
    (hcompleted : CompletedByProvider sha256 content submission state.events remoteVersion) :
    Meets (FileCreateUpload.completeUpload submission now remoteVersion) state
      (fun _ after => UploadFenced sha256 content submission after.events)
      (ThrowsFenced sha256 content submission) := by
  have hfenced := (h.fenced hbounded).complete h.uncompleted hcompleted
  exact .bind (.modify (meets_onStore hfenced fun _ _ _ => hfenced))

theorem meets_submit {upload : SelectedRootFileCreateUploadBuffer sha256}
    (hretains : Retains content 0 upload)
    (hsized : Sized driveDefaultResumableChunkBytes driveResumableChunkAlignmentBytes upload)
    (now : UnixTimeMs) (stable : Except SelectedRootExecutorError Bool) (store : RootStore) {fuel : ℕ}
    (hfuel : 4 * content.length < fuel) :
    Meets (submit api submission now stable fuel) (.start store upload)
      (fun _ after => UploadFenced sha256 content submission after.events)
      (ThrowsFenced sha256 content submission) := by
  refine .andThen (meets_chunkLoop readiesFinal_recordFinalSha256 hretains hsized store hfuel) ?_
  rintro _ state ⟨hsound, hcompleted⟩
  cases hsound with
  | waiting _ _ waiting => simp [waiting.completion] at hcompleted
  | completed acknowledged completion uploading completion_eq bounded _ ends =>
      have hfenced := uploading.fenced bounded
      refine .bind (.get (.bind (meets_attempt hfenced fun hex hhex => ?_)))
      obtain ⟨rfl, -⟩ := uploading.fingerprint hex ((orRefuse_eq_ok _ _ _).mp hhex)
      refine .bind (meets_attempt hfenced fun completion' hcompletion => ?_)
      obtain rfl := Option.some.inj (completion_eq.symm.trans ((orRefuse_eq_ok _ _ _).mp hcompletion))
      rw [uploading.retains.total]
      refine .andThen (meets_completedVersion now uploading bounded ends) ?_
      rintro remoteVersion after ⟨uploading, bounded, hprovider⟩
      have hfenced := uploading.fenced bounded
      exact .bind (meets_attempt hfenced fun streamed _ => .bind (meets_attempt hfenced fun _ _ =>
        meets_completeUpload now uploading bounded hprovider))

theorem meets_recover {upload : SelectedRootFileCreateUploadBuffer sha256}
    (hretains : Retains content 0 upload)
    (hsized : Sized driveDefaultResumableChunkBytes driveResumableChunkAlignmentBytes upload)
    {evidence : RemoteWriteFileCreateContentEvidence} (hsize : content.length = evidence.sizeBytes)
    (now : UnixTimeMs) (stable : Except SelectedRootExecutorError Bool) (store : RootStore) {fuel : ℕ}
    (hfuel : 4 * content.length < fuel) :
    Meets (recover api submission evidence now stable fuel) (.start store upload)
      (fun _ after => UploadFenced sha256 content submission after.events)
      (ThrowsFenced sha256 content submission) := by
  refine .andThen (meets_chunkLoop (readiesFinal_revalidateFingerprint evidence) hretains hsized store
    hfuel) ?_
  rintro _ state ⟨hsound, hcompleted⟩
  cases hsound with
  | waiting _ _ waiting => simp [waiting.completion] at hcompleted
  | completed acknowledged completion uploading completion_eq bounded agrees ends =>
      have hfenced := uploading.fenced bounded
      refine .bind (.get (.bind (meets_attempt hfenced fun completion' hcompletion => ?_)))
      obtain rfl := Option.some.inj (completion_eq.symm.trans ((orRefuse_eq_ok _ _ _).mp hcompletion))
      rw [← hsize, agrees]
      refine .andThen (meets_completedVersion now uploading bounded ends) ?_
      rintro remoteVersion after ⟨uploading, bounded, hprovider⟩
      have hfenced := uploading.fenced bounded
      exact .bind (meets_attempt hfenced fun streamed _ => .bind (meets_attempt hfenced fun _ _ =>
        .bind (meets_attempt hfenced fun _ _ =>
          meets_completeUpload now uploading bounded hprovider)))

end Loop

/-- An upload ends, not for want of rounds, and is fenced. -/
def EndsFenced {sha256 : Sha256} (content : List UInt8) (submission : FileCreateSubmission) :
    UploadEnd sha256 → Prop
  | .ok _ state => UploadFenced sha256 content submission state.events
  | .error error state => ThrowsFenced sha256 content submission error state

theorem endsFenced_of_meets {sha256 : Sha256} {content : List UInt8}
    {submission : FileCreateSubmission} {method : UploadMethod sha256 RemoteWriteIntentExecutionState}
    {state : FileCreateUpload sha256}
    (h : Meets method state (fun _ after => UploadFenced sha256 content submission after.events)
      (ThrowsFenced sha256 content submission)) : EndsFenced content submission (method state) := by
  unfold Meets at h
  cases hresult : method state with
  | ok execution after => rwa [hresult] at h
  | error error after => rwa [hresult] at h

/-- **The uploads of both commands end and are fenced**, on any content, over any store and whatever the
    provider answers. -/
theorem uploads_end_fenced (sha256 : Sha256) (content : List UInt8) (api : UploadApi)
    (submission : FileCreateSubmission) (now : UnixTimeMs)
    (stable : Except SelectedRootExecutorError Bool) (store : RootStore) (fuel : ℕ)
    (hfits : content.length < 2 ^ 64) (hfuel : 4 * content.length < fuel) :
    (∃ ended, submitFileCreate sha256 content api submission now stable fuel store = .ok ended ∧
      EndsFenced content submission ended) ∧
    ∀ evidence, content.length = evidence.sizeBytes →
      ∃ ended, recoverFileCreateSubmission sha256 content api submission evidence now stable fuel
        store = .ok ended ∧ EndsFenced content submission ended := by
  have hnew : SelectedRootFileCreateUploadBuffer.new
      (.opened content : SelectedRootFileCreateLocalSource sha256) driveDefaultResumableChunkBytes
        driveResumableChunkAlignmentBytes = .ok _ := new_eq_ok (by decide) (by decide)
  obtain ⟨hretains, hsized⟩ := Upload.Sound.opened hfits
  constructor
  · refine ⟨_, bind_eq_ok.mpr ⟨_, mapError_eq_ok.mpr hnew, rfl⟩, ?_⟩
    exact endsFenced_of_meets (meets_submit hretains hsized now stable store hfuel)
  · intro evidence hsize
    refine ⟨_, (refuseIf_bind_eq_ok _ _ _ _).mpr ⟨by simp [hsize],
      bind_eq_ok.mpr ⟨_, mapError_eq_ok.mpr hnew, rfl⟩⟩, ?_⟩
    exact endsFenced_of_meets (meets_recover hretains hsized hsize now stable store hfuel)

/-- A hash that keeps the last digits of what it is fed. -/
def digitHash : Sha256 where
  Hasher := List UInt8
  new := []
  update := (· ++ ·)
  finalizeHex bytes := List.leftpad 64 '0' (bytes.map fun byte => Nat.digitChar (byte.toNat % 16))
  sha256Hex bytes := List.leftpad 64 '0' (bytes.map fun byte => Nat.digitChar (byte.toNat % 16))
  streams chunks := congrArg _ (by rw [foldl_append_eq, List.nil_append])

/-- A provider that acknowledges a byte with every fourth answer, completes the last one without a hash,
    and has the file. -/
def slowProvider : UploadApi where
  answer count := .progress (if count = 11 then .complete ⟨7, none⟩ else .incomplete ((count + 1) / 4))
  inspectExpectedFile _ _ _ _ _ _ := .ok (.exact 7)

/-- The root of the sample once the create of its first file, of three bytes, is submitted. -/
def sampleSubmitted : Option RootStore :=
  (do
    let store ← sampleOperations.foldlM RootStore.apply (RootStore.new .twoWay)
    let (next, _) ← store.beginFileCreateSubmission 1 0 (.ofChar '1') 2
    .ok next : Except StorageError RootStore).toOption

/-- **Four requests for a byte** can be what an upload takes. -/
theorem uploads_end_fenced_slow : ∃ store ∈ sampleSubmitted, ∃ execution state,
    submitFileCreate digitHash [1, 2, 3] slowProvider ⟨1, 1, ['A'], ['a'], ['0']⟩ ⟨5, by decide⟩
      (.ok true) 13 store = .ok (.ok execution state) ∧
    chunkRequests state.events = 4 * 3 ∧
    UploadFenced digitHash [1, 2, 3] ⟨1, 1, ['A'], ['a'], ['0']⟩ state.events := by
  have hrun : ∃ store ∈ sampleSubmitted, (match submitFileCreate digitHash [1, 2, 3] slowProvider
      ⟨1, 1, ['A'], ['a'], ['0']⟩ ⟨5, by decide⟩ (.ok true) 13 store with
    | .ok (.ok _ state) => chunkRequests state.events == 12
    | _ => false) = true := by
    decide +kernel
  obtain ⟨store, hstore, hrun⟩ := hrun
  obtain ⟨⟨ended, hended, hfenced⟩, -⟩ := uploads_end_fenced digitHash [1, 2, 3] slowProvider
    ⟨1, 1, ['A'], ['a'], ['0']⟩ ⟨5, by decide⟩ (.ok true) store 13 (by decide) (by decide)
  rw [hended] at hrun
  cases ended with
  | error error state => cases hrun
  | ok execution state => exact ⟨store, hstore, execution, state, hended, beq_iff_eq.mp hrun, hfenced⟩

end NubiSync
