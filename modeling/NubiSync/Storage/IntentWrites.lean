import NubiSync.Storage.RootOperations

set_option autoImplicit false

/-! # What an operation does to the intents

One inversion for every operation on an intent: the row it found, with the guards it passed, and the
row it left. Every other operation leaves the intents alone, and none deletes a row, so an invariant
of an intent is a case analysis on `IntentMove`. -/

namespace NubiSync

open Checks Relation

/-! ## Inserting -/

/-- The insert of one intent that the root accepts. -/
inductive IntentInsert (store : RootStore) : RootStore → Prop where
  | planned (input : RemoteWriteIntentInput) (haccepts : store.AcceptsIntent input) :
      IntentInsert store (store.withPlanned input)

theorem ensures_insert (store : RootStore) (input : RemoteWriteIntentInput) :
    Ensures (store.insertRemoteWriteIntent input) fun r => IntentInsert store r.1 := by
  intro r h
  obtain ⟨haccepts, rfl⟩ := insertRemoteWriteIntent_eq_ok_iff.mp h
  exact .planned input haccepts

/-! ## Moving -/

/-- The source event a submission needs: the pending creation of an item of a kind. -/
def RootStore.HasSource (store : RootStore) (intent : RemoteWriteIntentRow)
    (createdKind : LocalItemKind) : Prop :=
  ∃ event ∈ store.localEvents.rows, event.id = intent.sourceLocalEventId ∧
    event.isPending intent.baselineGeneration = true ∧ event.eventKind = .created ∧
    event.currentKind = some createdKind

/-- The local baseline of the intent is the current one. -/
def RootStore.OnBaseline (store : RootStore) (intent : RemoteWriteIntentRow) : Prop :=
  ∃ state, store.completeBaseline? = some state ∧ state.generation = intent.baselineGeneration

/-- The row a submission leaves. -/
def RemoteWriteIntentRow.submittedRow (intent : RemoteWriteIntentRow) (cursor : ChangeCursor)
    (attemptAtUnixMs : Int) : RemoteWriteIntentRow :=
  { intent with
    status := .submitted
    attemptCount := intent.attemptCount + 1
    executionGeneration := intent.executionGeneration + 1
    lastAttemptAtUnixMs := some attemptAtUnixMs
    submittedAtUnixMs := some attemptAtUnixMs
    preSubmitChangeCursor := some cursor }

/-- The content evidence of an upload: a size that is not zero, and a well-formed SHA-256. -/
def RemoteWriteIntentRow.HasContentEvidence (intent : RemoteWriteIntentRow) : Prop :=
  ∃ size checksum, intent.expectedRemoteSizeBytes = some size ∧ size ≠ 0 ∧
    intent.expectedChecksumAlgorithm = some "sha256".toList ∧
    intent.expectedContentChecksum = some checksum ∧
    validateOptionalChecksum (some "sha256".toList) (some checksum) = .ok ()

/-- What an operation does to the intent it names. -/
inductive IntentMove (store : RootStore) (intent : RemoteWriteIntentRow) :
    IntentOperation → RemoteWriteIntentRow → Prop where
  | beginFileCreate (cursor : ChangeCursor) (at_ : Int) (hkind : intent.operation = .createFile)
      (hstatus : intent.status = .planned) (hbaseline : store.OnBaseline intent)
      (hsource : store.HasSource intent .file) :
      IntentMove store intent
        (.beginFileCreate intent.id intent.executionGeneration cursor at_)
        (intent.submittedRow cursor at_)
  | beginFolderCreate (cursor : ChangeCursor) (at_ : Int) (hkind : intent.operation = .createFolder)
      (hstatus : intent.status = .planned) (hbaseline : store.OnBaseline intent)
      (hsource : store.HasSource intent .directory) :
      IntentMove store intent
        (.beginFolderCreate intent.id intent.executionGeneration cursor at_)
        (intent.submittedRow cursor at_)
  | restartFileCreate (cursor : ChangeCursor) (at_ : Int) (hkind : intent.operation = .createFile)
      (hstatus : intent.status = .submitted) (hbaseline : store.OnBaseline intent)
      (hsource : store.HasSource intent .file) :
      IntentMove store intent
        (.restartFileCreate intent.id intent.executionGeneration intent.attemptCount cursor at_)
        (intent.submittedRow cursor at_)
  | recordFingerprint (size : ℕ) (checksum : Text) (hkind : intent.operation = .createFile)
      (hstatus : intent.status = .submitted) :
      IntentMove store intent
        (.recordFingerprint intent.id intent.executionGeneration size checksum)
        { intent with
          expectedRemoteSizeBytes := some size
          expectedChecksumAlgorithm := some "sha256".toList
          expectedContentChecksum := some checksum }
  | completeUpload (version : ℕ) (at_ : Int) (hkind : intent.operation = .createFile)
      (hstatus : intent.status = .submitted) (hversion : version ≠ 0)
      (hevidence : intent.HasContentEvidence) :
      IntentMove store intent (.completeUpload intent.id intent.executionGeneration version at_)
        { intent with
          status := .awaitingConfirmation
          executionGeneration := intent.executionGeneration + 1
          expectedRemoteKind := some .file
          expectedRemoteVersion := some version
          awaitingConfirmationAtUnixMs := some at_ }
  | recoverConflict (at_ : Int) (hkind : intent.operation = .createFile)
      (hstatus : intent.status = .conflict) (hversion : intent.expectedRemoteVersion.isSome = true)
      (hunsettled : store.settlements.find? intent.id = none) :
      IntentMove store intent
        (.recoverConflict intent.id intent.executionGeneration intent.attemptCount at_)
        { intent with
          status := .confirmed
          executionGeneration := intent.executionGeneration + 1
          confirmedAtUnixMs := some at_
          terminalAtUnixMs := none }
  | transitionFileCreate (new : RemoteWriteIntentStatus) (at_ : Int)
      (hkind : intent.operation = .createFile)
      (hnew : isFileCreateTransition intent.status new = true) :
      IntentMove store intent
        (.transitionFileCreate intent.id intent.status intent.executionGeneration new at_)
        (intent.transitioned new at_)
  | transitionFolderCreate (new : RemoteWriteIntentStatus) (at_ : Int)
      (hkind : intent.operation = .createFolder)
      (hnew : isFolderCreateTransition intent.status new = true) :
      IntentMove store intent
        (.transitionFolderCreate intent.id intent.status intent.executionGeneration new at_)
        (intent.transitioned new at_)

/-- The move of one intent, as a step of the root. -/
def IntentMoved (store : RootStore) (op : IntentOperation) (next : RootStore) : Prop :=
  ∃ intent ∈ store.intents.rows, ∃ moved, IntentMove store intent op moved ∧
    next = { store with intents := store.intents.upsert moved }

/-- An intent that a compare-and-set found, in the terms of its move. -/
theorem IntentMoved.of_find {store : RootStore} {op : IntentOperation} {id : ℕ}
    {intent moved : RemoteWriteIntentRow} (hfind : store.intents.find? id = some intent)
    (hmove : intent.id = id → IntentMove store intent op moved) :
    IntentMoved store op { store with intents := store.intents.upsert moved } := by
  obtain ⟨hrow, hid⟩ := Table.find?_eq_some_iff.mp hfind
  exact ⟨intent, hrow, moved, hmove hid, rfl⟩

theorem find?_writeIntent (store : RootStore) (row : RemoteWriteIntentRow) :
    (store.writeIntent row).1.intents.find? row.id = some row := by
  simp [RootStore.writeIntent, Table.find?_upsert]

theorem ensures_intentWhere (store : RootStore) (id : ℕ) (admits : RemoteWriteIntentRow → Bool) :
    Ensures (store.intentWhere id admits) fun intent =>
      store.intents.find? id = some intent ∧ admits intent = true := by
  intro intent h
  exact Option.filter_eq_some_iff.mp ((orRefuse_eq_ok _ _ _).mp h)

theorem ensures_checkSubmissionBaseline (store : RootStore) (intent : RemoteWriteIntentRow) :
    Ensures (store.checkSubmissionBaseline intent) fun _ => store.OnBaseline intent := by
  refine .present fun state hstate => ?_
  intro _ h
  simp only [refuseIf_eq_ok, Bool.or_eq_false_iff, bne_eq_false_iff_eq] at h
  exact ⟨state, hstate, h.1⟩

theorem ensures_beginMove (store : RootStore) (operation : RemoteWriteIntentOperation)
    (createdKind : LocalItemKind) (id generation : ℕ) (cursor : ChangeCursor) (at_ : Int)
    {op : IntentOperation}
    (hmove : ∀ intent : RemoteWriteIntentRow, intent.id = id →
      intent.executionGeneration = generation → intent.operation = operation →
      intent.status = .planned → store.OnBaseline intent → store.HasSource intent createdKind →
      IntentMove store intent op (intent.submittedRow cursor at_)) :
    Ensures (store.beginCreateSubmission operation createdKind id generation cursor at_)
      fun r => IntentMoved store op r.1 := by
  refine .check fun _ => (ensures_toI64 generation).bind fun executionGeneration hgeneration => ?_
  subst hgeneration
  refine .check fun _ => .present fun intent hintent => .check fun hguard => ?_
  refine (ensures_checkSubmissionBaseline store intent).bind fun _ hbaseline => ?_
  refine .check fun hsource => .after fun _ => .check fun _ => .present fun parent _ => ?_
  refine .after fun _ => .ok (.of_find hintent fun hid => ?_)
  simp only [Bool.or_eq_false_iff, bne_eq_false_iff_eq] at hguard
  obtain ⟨⟨⟨⟨⟨hkind, hstatus⟩, hgeneration⟩, -⟩, -⟩, -⟩ := hguard
  refine hmove intent hid hgeneration hkind hstatus hbaseline ?_
  simp only [Bool.not_eq_false', List.any_eq_true, Bool.and_eq_true, beq_iff_eq] at hsource
  obtain ⟨event, hevent, ⟨⟨hid', hpending⟩, hcreated⟩, hcurrent⟩ := hsource
  exact ⟨event, hevent, hid', hpending, hcreated, hcurrent⟩

theorem ensures_restartMove (store : RootStore) (id generation attempts : ℕ) (cursor : ChangeCursor)
    (at_ : Int) :
    Ensures (store.restartFileCreateSubmission id generation attempts cursor at_)
      fun r => IntentMoved store (.restartFileCreate id generation attempts cursor at_) r.1 := by
  refine .check fun _ => (ensures_toI64 generation).bind fun executionGeneration hgeneration => ?_
  subst hgeneration
  refine (ensures_toI64 attempts).bind fun attemptCount hattempts => ?_
  subst hattempts
  refine (ensures_checkedAdd _ 1).bind fun nextGeneration hnext => ?_
  subst hnext
  refine (ensures_checkedAdd _ 1).bind fun nextAttempt hnext => ?_
  subst hnext
  refine .check fun _ => .present fun intent hintent => .check fun hguard => ?_
  refine .present fun predetermined _ => .present fun parent _ => ?_
  refine .after fun _evidence => .after fun _predetermined => .after fun _parent => ?_
  refine (ensures_checkSubmissionBaseline store intent).bind fun _ hbaseline => ?_
  -- of the checks that follow only those of the move are kept: the status, the baseline, the source
  refine .check fun _kind => .check fun hsource => .after fun _catalog => .after fun _authority => ?_
  refine .after fun _parent => .check fun _unsettled => .ok (.of_find hintent fun hid => ?_)
  simp only [Bool.or_eq_false_iff, bne_eq_false_iff_eq] at hguard
  obtain ⟨⟨⟨⟨⟨⟨⟨⟨hkind, hstatus⟩, rfl⟩, rfl⟩, -⟩, -⟩, -⟩, -⟩, -⟩ := hguard
  subst hid
  have hsource : store.HasSource intent .file := by
    simp only [Bool.not_eq_false', Option.any_eq_true, Bool.and_eq_true, beq_iff_eq] at hsource
    obtain ⟨event, hevent, ⟨hcreated, hcurrent⟩, -⟩ := hsource
    have hfound := List.find?_some hevent
    simp only [Bool.and_eq_true, beq_iff_eq] at hfound
    exact ⟨event, List.mem_of_find?_eq_some hevent, hfound.1, hfound.2, hcreated, hcurrent⟩
  have hmove := IntentMove.restartFileCreate cursor at_ hkind hstatus hbaseline hsource
  rwa [RemoteWriteIntentRow.submittedRow, ← hstatus] at hmove

theorem ensures_fingerprintMove (store : RootStore) (id generation size : ℕ) (checksum : Text) :
    Ensures (store.recordFileCreateStreamFingerprint id generation size checksum)
      fun r => IntentMoved store (.recordFingerprint id generation size checksum) r.1 := by
  refine .check fun _ => .after fun _ => (ensures_toI64 generation).bind fun _ hgeneration => ?_
  subst hgeneration
  refine (ensures_toI64 size).bind fun size' hsize => ?_
  subst hsize
  refine (ensures_intentWhere store id _).bind fun intent hintent => .ok ?_
  refine .of_find hintent.1 fun hid => ?_
  have hguard := hintent.2
  simp only [Bool.and_eq_true, beq_iff_eq] at hguard
  obtain ⟨⟨⟨⟨⟨hkind, hstatus⟩, rfl⟩, -⟩, -⟩, -⟩ := hguard
  subst hid
  exact .recordFingerprint size' checksum hkind hstatus

/-- The evidence that a create has stored of its content. -/
structure RemoteWriteIntentRow.StoresEvidence (intent : RemoteWriteIntentRow)
    (evidence : RemoteWriteFileCreateContentEvidence) : Prop where
  create : intent.operation = .createFile
  size_ne_zero : evidence.sizeBytes ≠ 0
  size : intent.expectedRemoteSizeBytes = some evidence.sizeBytes
  algorithm : intent.expectedChecksumAlgorithm = some "sha256".toList
  checksum : intent.expectedContentChecksum = some evidence.sha256Hex
  checksum_valid : validateOptionalChecksum (some "sha256".toList) (some evidence.sha256Hex) = .ok ()
  version : intent.expectedRemoteVersion = evidence.remoteVersion
  version_ne_zero : evidence.remoteVersion ≠ some 0

theorem fileCreateContentEvidence_eq_some_iff {store : RootStore} {id : ℕ}
    {intent : RemoteWriteIntentRow} {evidence : RemoteWriteFileCreateContentEvidence}
    (hfound : store.intents.find? id = some intent) :
    store.fileCreateContentEvidence id = .ok (some evidence) ↔
      id ≠ 0 ∧ intent.StoresEvidence evidence := by
  unfold RootStore.fileCreateContentEvidence
  rw [hfound, refuseIf_bind_eq_ok, beq_eq_false_iff_ne]
  refine and_congr_right fun _ => ?_
  rw [refuseIf_bind_eq_ok, bne_eq_false_iff_eq]
  constructor
  · rintro ⟨hcreate, h⟩
    split at h
    · cases h
    · next size algorithm checksum hsize halgorithm hchecksum =>
        simp only [bind_eq_ok, refuseIf_eq_ok, Bool.or_eq_false_iff, beq_eq_false_iff_ne,
          bne_eq_false_iff_eq, Except.ok.injEq, Option.some.injEq] at h
        obtain ⟨_, ⟨hne, rfl⟩, _, hvalid, _, hversion, rfl⟩ := h
        exact ⟨hcreate, hne, hsize, halgorithm, hchecksum, hvalid, rfl, hversion⟩
    · cases h
  · intro h
    refine ⟨h.create, ?_⟩
    rw [h.size, h.algorithm, h.checksum, h.version]
    simp only [bind_eq_ok, refuseIf_eq_ok, Bool.or_eq_false_iff, beq_eq_false_iff_ne,
      bne_eq_false_iff_eq]
    exact ⟨(), ⟨h.size_ne_zero, trivial⟩, (), h.checksum_valid, (), h.version_ne_zero, trivial⟩

theorem RemoteWriteIntentRow.StoresEvidence.hasContentEvidence {intent : RemoteWriteIntentRow}
    {evidence : RemoteWriteFileCreateContentEvidence} (h : intent.StoresEvidence evidence) :
    intent.HasContentEvidence :=
  ⟨evidence.sizeBytes, evidence.sha256Hex, h.size, h.size_ne_zero, h.algorithm, h.checksum,
    h.checksum_valid⟩

theorem ensures_completeMove (store : RootStore) (id generation version : ℕ) (at_ : Int) :
    Ensures (store.completeFileCreateUpload id generation version at_)
      fun r => IntentMoved store (.completeUpload id generation version at_) r.1 := by
  refine .check fun hargs => (ensures_toI64 generation).bind fun _ hgeneration => ?_
  subst hgeneration
  refine .step fun found hfound => .present fun evidence hevidence => .check fun _ => ?_
  subst hevidence
  refine (ensures_intentWhere store id _).bind fun intent hintent => .ok ?_
  refine .of_find hintent.1 fun hid => ?_
  have hguard := hintent.2
  simp only [Bool.and_eq_true, beq_iff_eq] at hguard
  obtain ⟨⟨⟨⟨⟨hkind, hstatus⟩, rfl⟩, -⟩, -⟩, -⟩ := hguard
  simp only [Bool.or_eq_false_iff, beq_eq_false_iff_ne] at hargs
  obtain ⟨-, hevidence⟩ := (fileCreateContentEvidence_eq_some_iff hintent.1).mp hfound
  subst hid
  exact .completeUpload version at_ hkind hstatus hargs.1.2 hevidence.hasContentEvidence

theorem ensures_recoverMove (store : RootStore) (id generation attempts : ℕ) (at_ : Int) :
    Ensures (store.recoverFileCreateConfirmationConflict id generation attempts at_)
      fun r => IntentMoved store (.recoverConflict id generation attempts at_) r.1 := by
  refine .check fun _ => (ensures_toI64 generation).bind fun _ hgeneration => ?_
  subst hgeneration
  refine (ensures_toI64 attempts).bind fun _ hattempts => ?_
  subst hattempts
  refine (ensures_intentWhere store id _).bind fun intent hintent => .ok ?_
  refine .of_find hintent.1 fun hid => ?_
  have hguard := hintent.2
  simp only [Bool.and_eq_true, beq_iff_eq] at hguard
  obtain ⟨⟨⟨⟨⟨⟨⟨⟨⟨⟨hkind, hstatus⟩, rfl⟩, rfl⟩, -⟩, -⟩, hversion⟩, -⟩, -⟩, -⟩, hunsettled⟩ := hguard
  subst hid
  exact .recoverConflict at_ hkind hstatus hversion (Option.isNone_iff_eq_none.mp hunsettled)

theorem ensures_transitionMove (store : RootStore) (operation : RemoteWriteIntentOperation)
    (isTransition : RemoteWriteIntentStatus → RemoteWriteIntentStatus → Bool) (id : ℕ)
    (expected : RemoteWriteIntentStatus) (generation : ℕ) (new : RemoteWriteIntentStatus) (at_ : Int)
    {op : IntentOperation}
    (hmove : ∀ intent : RemoteWriteIntentRow, intent.id = id →
      intent.executionGeneration = generation → intent.operation = operation →
      intent.status = expected → isTransition expected new = true →
      IntentMove store intent op (intent.transitioned new at_)) :
    Ensures (store.transitionCreateIntent operation isTransition id expected generation new at_)
      fun r => IntentMoved store op r.1 := by
  refine .check fun _ => .check fun htransition => ?_
  refine (ensures_toI64 generation).bind fun _ hgeneration => ?_
  subst hgeneration
  refine (ensures_intentWhere store id _).bind fun intent hintent => .ok ?_
  refine .of_find hintent.1 fun hid => ?_
  have hguard := hintent.2
  simp only [Bool.and_eq_true, beq_iff_eq] at hguard
  exact hmove intent hid hguard.2 hguard.1.1 hguard.1.2 (by simpa using htransition)

/-- The intent an execution operation names, with the execution generation it expects; an operation
    that inserts intents names none. -/
def IntentOperation.target? : IntentOperation → Option (ℕ × ℕ)
  | .create _ | .createBatch _ => none
  | .beginFileCreate id generation _ _ => some (id, generation)
  | .beginFolderCreate id generation _ _ => some (id, generation)
  | .restartFileCreate id generation _ _ _ => some (id, generation)
  | .recordFingerprint id generation _ _ => some (id, generation)
  | .completeUpload id generation _ _ => some (id, generation)
  | .recoverConflict id generation _ _ => some (id, generation)
  | .transitionFileCreate id _ generation _ _ => some (id, generation)
  | .transitionFolderCreate id _ generation _ _ => some (id, generation)

/-- **An execution operation moves the intent it names.** -/
theorem IntentOperation.ensures_moved (store : RootStore) (op : IntentOperation)
    (hop : op.target?.isSome = true) : Ensures (op.apply store) (IntentMoved store op) := by
  cases op with
  | create input => cases hop
  | createBatch inputs => cases hop
  | beginFileCreate id generation cursor at_ =>
      refine ensures_stateOf (ensures_beginMove store _ _ id generation cursor at_ ?_)
      rintro intent rfl rfl
      exact .beginFileCreate cursor at_
  | beginFolderCreate id generation cursor at_ =>
      refine ensures_stateOf (ensures_beginMove store _ _ id generation cursor at_ ?_)
      rintro intent rfl rfl
      exact .beginFolderCreate cursor at_
  | restartFileCreate => exact ensures_stateOf (ensures_restartMove store _ _ _ _ _)
  | recordFingerprint => exact ensures_stateOf (ensures_fingerprintMove store _ _ _ _)
  | completeUpload => exact ensures_stateOf (ensures_completeMove store _ _ _ _)
  | recoverConflict => exact ensures_stateOf (ensures_recoverMove store _ _ _ _)
  | transitionFileCreate id expected generation new at_ =>
      refine ensures_stateOf (ensures_transitionMove store _ _ id expected generation new at_ ?_)
      rintro intent rfl rfl hkind rfl
      exact .transitionFileCreate new at_ hkind
  | transitionFolderCreate id expected generation new at_ =>
      refine ensures_stateOf (ensures_transitionMove store _ _ id expected generation new at_ ?_)
      rintro intent rfl rfl hkind rfl
      exact .transitionFolderCreate new at_ hkind

/-- The other intent operations insert. -/
theorem IntentOperation.ensures_inserted (store : RootStore) (op : IntentOperation)
    (hop : op.target? = none) :
    Ensures (op.apply store) (ReflTransGen IntentInsert store) := by
  cases op with
  | create input =>
      exact ensures_stateOf ((ensures_insert store input).mono fun _ h => .single h)
  | createBatch inputs =>
      refine ensures_stateOf (.check fun _ => fun r h => ?_)
      refine foldlM_invariant (P := fun acc : RootStore × List ℕ =>
        ReflTransGen IntentInsert store acc.1) (fun input _ acc next hnext hacc => ?_) h .refl
      obtain ⟨inserted, hinsert, hnext⟩ := bind_eq_ok.mp hnext
      obtain rfl := Except.ok.inj hnext
      exact hacc.tail (ensures_insert acc.1 input inserted hinsert)
  | _ => cases hop

end NubiSync
