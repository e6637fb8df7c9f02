import NubiSync.Storage.IntentExecution
import NubiSync.Storage.SettlementHistory

set_option autoImplicit false

/-! # What a submission opens

A file create that has been submitted is restarted, or gets its fingerprint, its completion and its
confirmation. Each of these operations checks the row and its surroundings on its own. The submission
checks less than the others do, so what they ask beyond it has to hold before the submission, or the
intent is submitted for ever. -/

namespace NubiSync

open Checks

variable {store next : RootStore} {intent : RemoteWriteIntentRow} {id generation : ℕ}
  {cursor : ChangeCursor} {at_ : Int}

/-! ## Begin -/

/-- What a submission has checked. -/
structure RootStore.SubmissionBegun (store : RootStore) (id generation : ℕ) (cursor : ChangeCursor)
    (intent : RemoteWriteIntentRow) : Prop where
  found : store.intents.find? id = some intent
  id_ne_zero : id ≠ 0
  twoWay : store.mode = .twoWay
  kind : intent.operation = .createFile
  planned : intent.status = .planned
  generation : intent.executionGeneration = generation
  size : intent.localSizeBytes.isSome = true
  predetermined : intent.predeterminedRemoteId.isSome = true
  baseline : store.checkSubmissionBaseline intent = .ok ()
  source : store.HasSource intent .file
  catalog : store.checkSubmissionCatalog cursor = .ok ()
  stamp : ∃ state, store.authorityState = some state ∧ state.changeCursor = cursor
  parent : ∃ parent, intent.expectedParentRemoteId = some parent
    ∧ store.checkSubmissionParent parent = .ok ()

theorem ensures_submissionBegun (store : RootStore) (id generation : ℕ) (cursor : ChangeCursor)
    (at_ : Int) :
    Ensures (store.beginFileCreateSubmission id generation cursor at_) fun r =>
      ∃ intent, store.SubmissionBegun id generation cursor intent
        ∧ r = store.writeIntent (intent.submittedRow cursor at_) := by
  refine .check fun hargs => (ensures_toI64 generation).bind fun _ hgeneration => ?_
  subst hgeneration
  refine .check fun hmode => .present fun intent hintent => .check fun hguard => ?_
  refine .step fun _ hbaseline => .check fun hsource => .step fun _ hcatalog => ?_
  refine .check fun hstamp => .present fun parent hparent => .step fun _ hauthority => ?_
  simp only [Bool.or_eq_false_iff, beq_eq_false_iff_ne] at hargs
  simp only [Bool.or_eq_false_iff, bne_eq_false_iff_eq, Bool.and_eq_false_iff] at hguard
  obtain ⟨⟨⟨⟨⟨hkind, hstatus⟩, hgeneration⟩, hsize⟩, hpredetermined⟩, -⟩ := hguard
  simp only [Bool.not_eq_false', List.any_eq_true, Bool.and_eq_true, beq_iff_eq] at hsource
  obtain ⟨event, hevent, ⟨⟨hid, hpending⟩, hcreated⟩, hcurrent⟩ := hsource
  simp only [Bool.not_eq_false', Option.any_eq_true, beq_iff_eq] at hstamp
  refine .ok ⟨intent, ?_, rfl⟩
  exact {
    found := hintent
    id_ne_zero := hargs.1
    twoWay := by simpa using hmode
    kind := hkind
    planned := hstatus
    generation := hgeneration
    size := by simpa using hsize
    predetermined := by simpa using hpredetermined
    baseline := hbaseline
    source := ⟨event, hevent, hid, hpending, hcreated, hcurrent⟩
    catalog := hcatalog
    stamp := hstamp
    parent := ⟨parent, hparent, hauthority⟩ }

/-! ## Restart -/

/-- The event a restart reads. -/
def RootStore.restartSource (store : RootStore) (intent : RemoteWriteIntentRow) :
    Option LocalChangeEventRow :=
  store.localEvents.rows.find? fun event => event.id == intent.sourceLocalEventId
    && event.isPending intent.baselineGeneration

/-- What a restart checks. -/
structure RootStore.RestartReady (store : RootStore) (intent : RemoteWriteIntentRow)
    (cursor : ChangeCursor) : Prop where
  twoWay : store.mode = .twoWay
  submitted : intent.operation = .createFile ∧ intent.status = .submitted
  counters : intent.executionGeneration + 1 < 2 ^ 63 ∧ intent.attemptCount + 1 < 2 ^ 63
  size : ∃ size, intent.localSizeBytes = some size ∧ size ≠ 0
  untouched : intent.expectedRemoteVersion = none ∧ intent.awaitingConfirmationAtUnixMs = none
    ∧ intent.confirmedAtUnixMs = none ∧ intent.terminalAtUnixMs = none
  predetermined : ∃ predetermined, intent.predeterminedRemoteId = some predetermined
    ∧ validateRemoteWriteIdentifier predetermined = .ok ()
  parent : ∃ parent, intent.expectedParentRemoteId = some parent
    ∧ validateRemoteWriteIdentifier parent = .ok () ∧ store.checkSubmissionParent parent = .ok ()
  evidence : intent.checkRestartEvidence = .ok ()
  baseline : store.checkSubmissionBaseline intent = .ok ()
  source : ∃ event, store.restartSource intent = some event ∧ event.eventKind = .created
    ∧ event.currentKind = some .file ∧ event.relativePath = intent.relativePath
  catalog : store.checkSubmissionCatalog cursor = .ok ()
  authority : store.checkRestartAuthority cursor = .ok ()
  unsettled : store.settlements.find? intent.id = none

theorem ensures_restartReady (hfound : store.intents.find? intent.id = some intent) :
    Ensures (store.restartFileCreateSubmission intent.id intent.executionGeneration
      intent.attemptCount cursor at_) fun _ => store.RestartReady intent cursor := by
  refine .check fun _ => (ensures_toI64 _).bind fun _ hgeneration => ?_
  refine (ensures_toI64 _).bind fun _ hattempts => ?_
  subst hgeneration hattempts
  refine (ensures_toI64_fits _).bind fun _ hgeneration => ?_
  refine (ensures_toI64_fits _).bind fun _ hattempts => ?_
  refine .check fun hmode => .present fun found hfound' => ?_
  obtain rfl := Option.some.inj (hfound.symm.trans hfound')
  refine .check fun hguard => .present fun predetermined hpredetermined => ?_
  refine .present fun parent hparent => .step fun _ hevidence => .step fun _ hvalid => ?_
  refine .step fun _ hvalid' => .step fun _ hbaseline => .check fun _ => .check fun hsource => ?_
  refine .step fun _ hcatalog => .step fun _ hauthority => .step fun _ hadmits => ?_
  refine .check fun hunsettled => .ok ?_
  simp only [Bool.or_eq_false_iff, bne_eq_false_iff_eq, Bool.not_eq_false', Option.any_eq_true,
    bne_iff_ne, Option.isSome_eq_false_iff, Option.isNone_iff_eq_none] at hguard
  obtain ⟨⟨⟨⟨⟨⟨⟨⟨hkind, hstatus⟩, -⟩, -⟩, hsize⟩, hversion⟩, hawaiting⟩, hconfirmed⟩, hterminal⟩ := hguard
  simp only [Bool.not_eq_false', Option.any_eq_true, Bool.and_eq_true, beq_iff_eq] at hsource
  obtain ⟨event, hevent, ⟨hcreated, hcurrent⟩, hpath⟩ := hsource
  exact {
    twoWay := by simpa using hmode
    submitted := ⟨hkind, hstatus⟩
    counters := ⟨hgeneration, hattempts⟩
    size := hsize
    untouched := ⟨hversion, hawaiting, hconfirmed, hterminal⟩
    predetermined := ⟨predetermined, hpredetermined, hvalid⟩
    parent := ⟨parent, hparent, hvalid', hadmits⟩
    evidence := hevidence
    baseline := hbaseline
    source := ⟨event, hevent, hcreated, hcurrent, hpath⟩
    catalog := hcatalog
    authority := hauthority
    unsettled := by simpa using hunsettled }

theorem RootStore.RestartReady.succeeds (h : store.RestartReady intent cursor)
    (hfound : store.intents.find? intent.id = some intent) (hid : intent.id ≠ 0)
    (hattempts : intent.attemptCount ≠ 0) (hat : 0 < at_) :
    Succeeds (store.restartFileCreateSubmission intent.id intent.executionGeneration
      intent.attemptCount cursor at_) := by
  obtain ⟨hgeneration, hattempt⟩ := h.counters
  obtain ⟨hkind, hstatus⟩ := h.submitted
  obtain ⟨size, hsize, hne⟩ := h.size
  obtain ⟨hversion, hawaiting, hconfirmed, hterminal⟩ := h.untouched
  obtain ⟨predetermined, hpredetermined, hvalid⟩ := h.predetermined
  obtain ⟨parent, hparent, hvalid', hadmits⟩ := h.parent
  obtain ⟨event, hevent, hcreated, hcurrent, hpath⟩ := h.source
  rw [RootStore.restartSource] at hevent
  refine .check (by simp [hid, hattempts, hat]) ?_
  refine .bind (toI64_of_lt (Nat.lt_of_succ_lt hgeneration)) ?_
  refine .bind (toI64_of_lt (Nat.lt_of_succ_lt hattempt)) ?_
  refine .bind (toI64_of_lt hgeneration) (.bind (toI64_of_lt hattempt) ?_)
  refine .check (by simp [h.twoWay]) (.present hfound ?_)
  refine .check ?_ (.present hpredetermined (.present hparent ?_))
  · simp [hkind, hstatus, hsize, hne, hversion, hawaiting, hconfirmed, hterminal]
  refine .bind h.evidence (.bind hvalid (.bind hvalid' (.bind h.baseline ?_)))
  refine .check ?_ (.check ?_ ?_)
  · simp [hevent, hcurrent]
  · simp [hevent, hcreated, hcurrent, hpath]
  refine .bind h.catalog (.bind h.authority (.bind hadmits ?_))
  exact .check (by simp [h.unsettled]) (.ok _)

/-! ## Fingerprint, completion and confirmation -/

/-- The row a fingerprint leaves. -/
def RemoteWriteIntentRow.fingerprinted (intent : RemoteWriteIntentRow) (size : ℕ)
    (sha256Hex : Text) : RemoteWriteIntentRow :=
  { intent with
    expectedRemoteSizeBytes := some size
    expectedChecksumAlgorithm := some "sha256".toList
    expectedContentChecksum := some sha256Hex }

/-- The row a completion leaves. -/
def RemoteWriteIntentRow.completed (intent : RemoteWriteIntentRow) (version : ℕ)
    (completedAtUnixMs : Int) : RemoteWriteIntentRow :=
  { intent with
    status := .awaitingConfirmation
    executionGeneration := intent.executionGeneration + 1
    expectedRemoteKind := some .file
    expectedRemoteVersion := some version
    awaitingConfirmationAtUnixMs := some completedAtUnixMs }

theorem intentWhere_eq_ok {admits : RemoteWriteIntentRow → Bool}
    (hfound : store.intents.find? id = some intent) (hadmits : admits intent = true) :
    store.intentWhere id admits = .ok intent :=
  (orRefuse_eq_ok _ _ _).mpr (Option.filter_eq_some_iff.mpr ⟨hfound, hadmits⟩)

/-- A first fingerprint of a submitted create is recorded. -/
theorem record_first_fingerprint (hfound : store.intents.find? intent.id = some intent)
    (hid : intent.id ≠ 0) (hsubmitted : intent.operation = .createFile ∧ intent.status = .submitted)
    (hgeneration : intent.executionGeneration < 2 ^ 63) {size : ℕ} (hsize : size ≠ 0 ∧ size < 2 ^ 63)
    {sha256Hex : Text}
    (hsha : validateOptionalChecksum (some "sha256".toList) (some sha256Hex) = .ok ())
    (hunset : intent.expectedRemoteSizeBytes = none ∧ intent.expectedChecksumAlgorithm = none
      ∧ intent.expectedContentChecksum = none) :
    store.recordFileCreateStreamFingerprint intent.id intent.executionGeneration size sha256Hex
      = .ok (store.writeIntent (intent.fingerprinted size sha256Hex)) := by
  obtain ⟨hnoSize, hnoAlgorithm, hnoChecksum⟩ := hunset
  refine (refuseIf_bind_eq_ok _ _ _ _).mpr ⟨by simp [hid, hsize], ?_⟩
  refine bind_eq_ok.mpr ⟨(), hsha, bind_eq_ok.mpr ⟨_, toI64_of_lt hgeneration, ?_⟩⟩
  refine bind_eq_ok.mpr ⟨_, toI64_of_lt hsize.2, bind_eq_ok.mpr ⟨intent, ?_, rfl⟩⟩
  exact intentWhere_eq_ok hfound (by simp [hsubmitted, unsetOr, hnoSize, hnoAlgorithm, hnoChecksum])

/-- What the recording of a fingerprint asks of its size, and of a checksum that is there. -/
theorem ensures_fingerprintChecked (store : RootStore) (id generation size : ℕ) (sha256Hex : Text) :
    Ensures (store.recordFileCreateStreamFingerprint id generation size sha256Hex) fun _ =>
      (size ≠ 0 ∧ size < 2 ^ 63) ∧ ∃ intent, store.intents.find? id = some intent
        ∧ ∀ checksum ∈ intent.expectedContentChecksum, checksum = sha256Hex := by
  refine .check fun hargs => .after fun _checksum => .after fun _generation => ?_
  refine (ensures_toI64_fits size).bind fun _ hsize => ?_
  refine (ensures_intentWhere store id _).bind fun intent ⟨hfound, hadmits⟩ => .ok ?_
  simp only [Bool.or_eq_false_iff, beq_eq_false_iff_ne] at hargs
  simp only [Bool.and_eq_true] at hadmits
  refine ⟨⟨hargs.2, hsize⟩, intent, hfound, fun checksum hchecksum => ?_⟩
  simpa [unsetOr, Option.mem_def.mp hchecksum] using hadmits.2

/-- A create with a recorded fingerprint is completed. -/
theorem complete_fingerprinted {size : ℕ} {sha256Hex : Text} {version : ℕ}
    (hfound : store.intents.find? intent.id = some (intent.fingerprinted size sha256Hex))
    (hid : intent.id ≠ 0) (hsubmitted : intent.operation = .createFile ∧ intent.status = .submitted)
    (hgeneration : intent.executionGeneration < 2 ^ 63) (hsize : size ≠ 0)
    (hsha : validateOptionalChecksum (some "sha256".toList) (some sha256Hex) = .ok ())
    (hnew : intent.expectedRemoteVersion = none) (hversion : version ≠ 0) (hat : 0 < at_) :
    store.completeFileCreateUpload intent.id intent.executionGeneration version at_
      = .ok (store.writeIntent ((intent.fingerprinted size sha256Hex).completed version at_)) := by
  have hevidence : store.fileCreateContentEvidence intent.id = .ok (some ⟨size, sha256Hex, none⟩) :=
    (fileCreateContentEvidence_eq_some_iff hfound).mpr
      ⟨hid, hsubmitted.1, hsize, rfl, rfl, rfl, hsha, hnew, nofun⟩
  refine (refuseIf_bind_eq_ok _ _ _ _).mpr ⟨by simp [hid, hversion, hat], ?_⟩
  refine bind_eq_ok.mpr ⟨_, toI64_of_lt hgeneration, bind_eq_ok.mpr ⟨_, hevidence, ?_⟩⟩
  refine (orRefuse_bind_eq_ok _ _ _ _).mpr ⟨_, rfl, ?_⟩
  refine (refuseIf_bind_eq_ok _ _ _ _).mpr ⟨by simp [hsize], bind_eq_ok.mpr ⟨_, ?_, rfl⟩⟩
  exact intentWhere_eq_ok hfound (by simp [RemoteWriteIntentRow.fingerprinted, hsubmitted])

theorem confirm_awaiting (hfound : store.intents.find? intent.id = some intent)
    (hid : intent.id ≠ 0)
    (hawaiting : intent.operation = .createFile ∧ intent.status = .awaitingConfirmation)
    (hgeneration : intent.executionGeneration < 2 ^ 63) (hat : 0 < at_) :
    Succeeds (store.transitionFileCreateIntent intent.id .awaitingConfirmation
      intent.executionGeneration .confirmed at_) := by
  refine .check (by simp [hid, hat]) (.check rfl (.bind (toI64_of_lt hgeneration) ?_))
  exact .bind (intentWhere_eq_ok hfound (by simp [hawaiting])) (.ok _)

/-! ## What the submission does not check -/

/-- The restart of an execution, at any time. -/
def RootStore.Restarts (store : RootStore) (execution : RemoteWriteIntentExecutionState)
    (cursor : ChangeCursor) : Prop :=
  ∀ at_, 0 < at_ → Succeeds (store.restartFileCreateSubmission execution.intentId
    execution.executionGeneration execution.attemptCount cursor at_)

/-- The rest of the protocol of a file create that has been submitted: it restarts, and it gets any
    fingerprint of its size, after which it restarts still, is completed and confirmed. -/
structure RootStore.ProtocolOpen (begun : RootStore) (execution : RemoteWriteIntentExecutionState)
    (size : ℕ) (cursor : ChangeCursor) : Prop where
  restarts : begun.Restarts execution cursor
  completes : ∀ sha256Hex,
    validateOptionalChecksum (some "sha256".toList) (some sha256Hex) = .ok () →
    ∃ recorded, begun.recordFileCreateStreamFingerprint execution.intentId
        execution.executionGeneration size sha256Hex = .ok recorded ∧
      recorded.1.Restarts recorded.2 cursor ∧
      ∀ version completedAt confirmedAt, version ≠ 0 → 0 < completedAt → 0 < confirmedAt →
        ∃ completed, recorded.1.completeFileCreateUpload recorded.2.intentId
            recorded.2.executionGeneration version completedAt = .ok completed ∧
          Succeeds (completed.1.transitionFileCreateIntent completed.2.intentId
            .awaitingConfirmation completed.2.executionGeneration .confirmed confirmedAt)

/-- The observed authority counts every item of the catalog and the root. -/
def RootStore.AuthorityCounted (store : RootStore) : Prop :=
  (∃ state, store.authorityState = some state ∧ state.itemCount = store.catalog.itemCount + 1)
    ∧ store.authority.rows.length = store.catalog.itemCount + 1 ∧ store.catalog.itemCount + 1 < 2 ^ 63

/-- The create is of a file of some bytes, as many as a column holds, and has no content evidence. -/
def RemoteWriteIntentRow.Unfingerprinted (intent : RemoteWriteIntentRow) : Prop :=
  (∃ size, intent.localSizeBytes = some size ∧ size ≠ 0 ∧ size < 2 ^ 63)
    ∧ intent.expectedRemoteSizeBytes = none ∧ intent.expectedChecksumAlgorithm = none
    ∧ intent.expectedContentChecksum = none

/-- What the rest of the protocol asks beyond the submission. -/
structure RootStore.SubmissionSound (store : RootStore) (intent : RemoteWriteIntentRow) : Prop where
  unfingerprinted : intent.Unfingerprinted
  authority : store.AuthorityCounted
  counters : intent.executionGeneration + 2 < 2 ^ 63 ∧ intent.attemptCount + 2 < 2 ^ 63
  untouched : intent.expectedRemoteVersion = none ∧ intent.awaitingConfirmationAtUnixMs = none
    ∧ intent.confirmedAtUnixMs = none ∧ intent.terminalAtUnixMs = none
  identifiers : ∀ remoteId, intent.predeterminedRemoteId = some remoteId
    ∨ intent.expectedParentRemoteId = some remoteId → validateRemoteWriteIdentifier remoteId = .ok ()
  source : ∃ event, store.restartSource intent = some event ∧ event.eventKind = .created
    ∧ event.currentKind = some .file ∧ event.relativePath = intent.relativePath
  unsettled : store.settlements.find? intent.id = none

theorem ensures_authorityCounted (store : RootStore) (cursor : ChangeCursor) :
    Ensures (store.checkRestartAuthority cursor) fun _ => store.AuthorityCounted := by
  refine .present fun state hstate => .step fun expected hexpected => ?_
  obtain ⟨hfits, rfl⟩ := toI64_eq_ok_iff.mp hexpected
  intro _ h
  simp only [refuseIf_eq_ok, Bool.or_eq_false_iff, bne_eq_false_iff_eq] at h
  exact ⟨⟨state, hstate, h.1.2⟩, h.2, hfits⟩

theorem RootStore.AuthorityCounted.checked (h : store.AuthorityCounted)
    (hstamp : ∃ state, store.authorityState = some state ∧ state.changeCursor = cursor) :
    store.checkRestartAuthority cursor = .ok () := by
  obtain ⟨⟨state, hstate, hcount⟩, hrows, hfits⟩ := h
  obtain ⟨state', hstate', hcursor⟩ := hstamp
  obtain rfl := Option.some.inj (hstate.symm.trans hstate')
  refine (orRefuse_bind_eq_ok _ _ _ _).mpr ⟨state, hstate, ?_⟩
  refine bind_eq_ok.mpr ⟨_, toI64_of_lt hfits, ?_⟩
  simp [hcursor, hcount, hrows]

/-- A submitted row restarts just when nothing is missing. -/
theorem RootStore.SubmissionBegun.restartReady
    (hbegun : store.SubmissionBegun id generation cursor intent)
    (hsound : store.SubmissionSound intent) (intents : Table RemoteWriteIntentRow.id) :
    ({ store with intents := intents } : RootStore).RestartReady (intent.submittedRow cursor at_)
      cursor := by
  obtain ⟨⟨size, hsize, hne, -⟩, hnoSize, hnoAlgorithm, hnoChecksum⟩ := hsound.unfingerprinted
  obtain ⟨predetermined, hpredetermined⟩ := Option.isSome_iff_exists.mp hbegun.predetermined
  obtain ⟨parent, hparent, hadmits⟩ := hbegun.parent
  exact {
    twoWay := hbegun.twoWay
    submitted := ⟨hbegun.kind, rfl⟩
    counters := hsound.counters
    size := ⟨size, hsize, hne⟩
    untouched := hsound.untouched
    predetermined := ⟨predetermined, hpredetermined,
      hsound.identifiers predetermined (Or.inl hpredetermined)⟩
    parent := ⟨parent, hparent, hsound.identifiers parent (Or.inr hparent), hadmits⟩
    evidence := by
      simp [RemoteWriteIntentRow.checkRestartEvidence, RemoteWriteIntentRow.submittedRow, hnoSize,
        hnoAlgorithm, hnoChecksum]
    baseline := hbegun.baseline
    source := hsound.source
    catalog := hbegun.catalog
    authority := hsound.authority.checked hbegun.stamp
    unsettled := hsound.unsettled }

/-- A fingerprint of the local size does not stand in the way of a restart. -/
theorem RootStore.RestartReady.fingerprinted (h : store.RestartReady intent cursor) {size : ℕ}
    (hsize : intent.localSizeBytes = some size) (hne : size ≠ 0) {sha256Hex : Text}
    (hsha : validateOptionalChecksum (some "sha256".toList) (some sha256Hex) = .ok ())
    (intents : Table RemoteWriteIntentRow.id) :
    ({ store with intents := intents } : RootStore).RestartReady
      (intent.fingerprinted size sha256Hex) cursor where
  twoWay := h.twoWay
  submitted := h.submitted
  counters := h.counters
  size := h.size
  untouched := h.untouched
  predetermined := h.predetermined
  parent := h.parent
  evidence := (refuseIf_bind_eq_ok _ _ _ _).mpr
    ⟨by simp [RemoteWriteIntentRow.fingerprinted, hsize, hne], hsha⟩
  baseline := h.baseline
  source := h.source
  catalog := h.catalog
  authority := h.authority
  unsettled := h.unsettled

theorem RootStore.SubmissionBegun.intent_id_ne_zero
    (hbegun : store.SubmissionBegun id generation cursor intent) : intent.id ≠ 0 := by
  rw [(Table.find?_eq_some_iff.mp hbegun.found).2]
  exact hbegun.id_ne_zero

theorem RootStore.SubmissionBegun.protocolOpen {size : ℕ}
    (hbegun : store.SubmissionBegun id generation cursor intent)
    (hsound : store.SubmissionSound intent) (hsize : intent.localSizeBytes = some size) :
    (store.writeIntent (intent.submittedRow cursor at_)).1.ProtocolOpen
      (intent.submittedRow cursor at_).executionState size cursor := by
  have hid := hbegun.intent_id_ne_zero
  have hrow := find?_writeIntent store (intent.submittedRow cursor at_)
  have hsubmitted : (intent.submittedRow cursor at_).operation = .createFile
      ∧ (intent.submittedRow cursor at_).status = .submitted := ⟨hbegun.kind, rfl⟩
  have hready : (store.writeIntent (intent.submittedRow cursor at_)).1.RestartReady
      (intent.submittedRow cursor at_) cursor := hbegun.restartReady hsound _
  have hgeneration : intent.executionGeneration + 1 < 2 ^ 63 := Nat.lt_of_succ_lt hsound.counters.1
  obtain ⟨⟨size', hsize', hne, hfits⟩, hunset⟩ := hsound.unfingerprinted
  obtain rfl := Option.some.inj (hsize.symm.trans hsize')
  refine ⟨fun at' hat => hready.succeeds hrow hid (Nat.succ_ne_zero _) hat, fun sha256Hex hsha => ?_⟩
  refine ⟨_, record_first_fingerprint hrow hid hsubmitted hgeneration ⟨hne, hfits⟩ hsha hunset, ?_, ?_⟩
  · intro at' hat
    exact (hready.fingerprinted hsize hne hsha _).succeeds (find?_writeIntent _ _) hid
      (Nat.succ_ne_zero _) hat
  · intro version completedAt confirmedAt hversion hcompleted hconfirmed
    refine ⟨_, complete_fingerprinted (find?_writeIntent _ _) hid hsubmitted hgeneration hne hsha
      hsound.untouched.1 hversion hcompleted, ?_⟩
    exact confirm_awaiting (find?_writeIntent _ _) hid ⟨hbegun.kind, rfl⟩ hsound.counters.1 hconfirmed

theorem RootStore.ProtocolOpen.submissionSound {size : ℕ}
    (hopen : (store.writeIntent (intent.submittedRow cursor at_)).1.ProtocolOpen
      (intent.submittedRow cursor at_).executionState size cursor)
    (hsize : intent.localSizeBytes = some size) : store.SubmissionSound intent := by
  have hrow := find?_writeIntent store (intent.submittedRow cursor at_)
  obtain ⟨r, hr⟩ := hopen.restarts 1 one_pos
  have hready := ensures_restartReady hrow r hr
  -- two fingerprints that differ can only both be recorded over no checksum
  obtain ⟨recorded, hrecorded, -⟩ := hopen.completes (List.replicate 64 '0') (by rfl)
  obtain ⟨recorded', hrecorded', -⟩ := hopen.completes (List.replicate 64 '1') (by rfl)
  obtain ⟨⟨hne, hfits⟩, found, hfound, hzeros⟩ := ensures_fingerprintChecked _ _ _ _ _ _ hrecorded
  obtain ⟨-, found', hfound', hones⟩ := ensures_fingerprintChecked _ _ _ _ _ _ hrecorded'
  obtain rfl := Option.some.inj (hrow.symm.trans hfound)
  obtain rfl := Option.some.inj (hrow.symm.trans hfound')
  have hnoChecksum : intent.expectedContentChecksum = none := by
    refine Option.eq_none_iff_forall_not_mem.mpr fun checksum hchecksum => ?_
    exact absurd ((hzeros checksum hchecksum).symm.trans (hones checksum hchecksum)) (by decide)
  have hevidence : intent.checkRestartEvidence = .ok () := hready.evidence
  obtain ⟨predetermined, hpredetermined, hvalid⟩ := hready.predetermined
  obtain ⟨parent, hparent, hvalid', -⟩ := hready.parent
  refine ⟨⟨⟨size, hsize, hne, hfits⟩, ?_⟩, ?_, hready.counters, hready.untouched, ?_, hready.source,
    hready.unsettled⟩
  · rw [RemoteWriteIntentRow.checkRestartEvidence, hnoChecksum] at hevidence
    split at hevidence
    · next hnoSize hnoAlgorithm _ => exact ⟨hnoSize, hnoAlgorithm, hnoChecksum⟩
    · next hchecksum => cases hchecksum
    · cases hevidence
  · exact ensures_authorityCounted _ _ _ hready.authority
  · rintro remoteId (hsame | hsame)
    · exact Option.some.inj (hpredetermined.symm.trans hsame) ▸ hvalid
    · exact Option.some.inj (hparent.symm.trans hsame) ▸ hvalid'

/-! ## Planned intents of a root -/

/-- What holds of the plans in every state of a root: a planned intent is as it was inserted, its event
    is in the journal, and only confirmed intents are settled. -/
structure RootStore.PlansKept (store : RootStore) : Prop where
  ids : store.IdsUnique
  sources : store.SourcesKnown
  planned : ∀ intent ∈ store.intents.rows, intent.status = .planned →
    ∃ (input : RemoteWriteIntentInput) (id : ℕ), intent = input.plannedRow id
  settled : ∀ settlement ∈ store.settlements.rows, ∃ intent ∈ store.intents.rows,
    intent.id = settlement.intentId ∧ intent.status = .confirmed

variable {op : RootOperation}

theorem RootStore.Step.confirmed_kept (h : store.Step op next) (hfresh : store.FreshIntentIds)
    (hintent : intent ∈ store.intents.rows) (hconfirmed : intent.status = .confirmed) :
    intent ∈ next.intents.rows := by
  obtain ⟨later, hlater, hevolves⟩ := h.intent_later hfresh hintent
  cases hevolves with
  | same => exact hlater
  | moved iop _ _ hmove => exact absurd hconfirmed hmove.not_confirmed

theorem RootStore.Step.plansKept (h : store.Step op next) (hkept : store.PlansKept) :
    next.PlansKept where
  ids := h.idsUnique hkept.ids
  sources := h.sourcesKnown hkept.sources
  planned := by
    intro later hlater hplanned
    obtain ⟨intent, hintent, hevolves⟩ | ⟨-, input, id, rfl, -⟩ := h.intent_earlier hlater
    · cases hevolves with
      | same => exact hkept.planned later hintent hplanned
      | moved iop _ _ hmove => exact absurd hplanned hmove.not_planned
    · exact ⟨input, id, rfl⟩
  settled := by
    have hold : ∀ settlement ∈ store.settlements.rows, ∃ intent ∈ next.intents.rows,
        intent.id = settlement.intentId ∧ intent.status = .confirmed := by
      intro settlement hsettlement
      obtain ⟨intent, hintent, hid, hconfirmed⟩ := hkept.settled settlement hsettlement
      exact ⟨intent, h.confirmed_kept hkept.ids.intents hintent hconfirmed, hid, hconfirmed⟩
    by_cases hsettle : ∃ sop, op = .settle sop
    · obtain ⟨sop, rfl⟩ := hsettle
      obtain ⟨hready, hwritten⟩ := sop.ensures_settled store next h
      intro settlement hsettlement
      rw [hwritten.settlements] at hsettlement
      rcases Table.mem_upsert.mp hsettlement with ⟨hbefore, -⟩ | rfl
      · exact hold settlement hbefore
      · obtain ⟨intent, hfound, -, -, -, hconfirmed, -⟩ := hready.intent
        obtain ⟨hintent, hid⟩ := Table.find?_eq_some_iff.mp hfound
        exact ⟨intent, h.confirmed_kept hkept.ids.intents hintent hconfirmed, hid, hconfirmed⟩
    · rw [h.settlements fun sop hop => hsettle ⟨sop, hop⟩]
      exact hold

theorem RootStore.Reaches.plansKept {mode : SyncMode}
    (hrun : (RootStore.new mode).Reaches store) : store.PlansKept := by
  refine Machine.Run.invariant (P := RootStore.PlansKept) hrun ?_ ?_
  · refine ⟨RootStore.Reaches.idsUnique .refl, fun intent hintent => ?_, fun intent hintent => ?_,
      fun settlement hsettlement => ?_⟩
    · cases hintent
    · cases hintent
    · cases hsettlement
  · intro _ _ _ hkept _ hstep
    exact hstep.plansKept hkept

/-- In a state of a root, the plan of an intent vouches for most of what the submission leaves
    unchecked. -/
theorem RootStore.SubmissionBegun.sound_of_plansKept
    (hbegun : store.SubmissionBegun id generation cursor intent) (hkept : store.PlansKept)
    (hunfingerprinted : intent.Unfingerprinted) (hcounted : store.AuthorityCounted) :
    store.SubmissionSound intent := by
  obtain ⟨hintent, -⟩ := Table.find?_eq_some_iff.mp hbegun.found
  obtain ⟨input, planned, hplanned⟩ := hkept.planned intent hintent hbegun.planned
  have hversion : intent.expectedRemoteVersion = none := by
    refine Option.not_isSome_iff_eq_none.mp fun hversion => ?_
    have huploaded := (hplanned ▸ input.plannedRow_invariant planned).uploaded hbegun.kind hversion
    exact huploaded.1 hbegun.planned
  refine ⟨hunfingerprinted, hcounted, ?_, ?_, fun remoteId hremoteId => ?_, ?_, ?_⟩
  · rw [hplanned]
    show 0 + 2 < 2 ^ 63 ∧ 0 + 2 < 2 ^ 63
    decide
  · refine ⟨hversion, ?_⟩
    rw [hplanned]
    exact ⟨rfl, rfl, rfl⟩
  · rw [hplanned] at hremoteId
    exact input.identifiers_valid hremoteId
  · obtain ⟨event, hevent, hid, hpending, hcreated, hcurrent⟩ := hbegun.source
    obtain ⟨known, hknown, hknownId, hkey⟩ := hkept.sources intent hintent
    obtain rfl := hkept.ids.events.unique known hknown event hevent (hknownId.trans hid.symm)
    -- the one event with the id of the source
    cases hsource : store.restartSource intent with
    | none =>
        have hnot := List.find?_eq_none.mp hsource known hknown
        simp [hknownId, hpending] at hnot
    | some found =>
        have hfoundId := List.find?_some hsource
        simp only [Bool.and_eq_true, beq_iff_eq] at hfoundId
        obtain rfl := hkept.ids.events.unique found (List.mem_of_find?_eq_some hsource) known hknown
          (hfoundId.1.trans hknownId.symm)
        exact ⟨found, rfl, hcreated, hcurrent, congrArg Prod.snd hkey⟩
  · refine Table.find?_eq_none_iff.mpr fun settlement hsettlement hsame => ?_
    obtain ⟨settled, hsettled, hid, hconfirmed⟩ := hkept.settled settlement hsettlement
    obtain rfl := store.intents.eq_of_key hsettled hintent (hid.trans hsame)
    cases hconfirmed.symm.trans hbegun.planned

/-! ## Dead ends -/

/-- **A submission is no dead end just when nothing is missing.** The rest of the protocol is open after
    the submission of a file create exactly in the states that are sound for it; and in a state of a root
    these are the states where the file is not empty, the intent has no content evidence yet, and the
    authority counts the items of the catalog. -/
theorem submission_protocol_open_iff {execution : RemoteWriteIntentExecutionState}
    (h : store.beginFileCreateSubmission id generation cursor at_ = .ok (next, execution)) :
    ∃ intent size, store.intents.find? id = some intent ∧ intent.localSizeBytes = some size ∧
      (next.ProtocolOpen execution size cursor ↔ store.SubmissionSound intent) ∧
      ∀ mode, (RootStore.new mode).Reaches store →
        (next.ProtocolOpen execution size cursor ↔
          intent.Unfingerprinted ∧ store.AuthorityCounted) := by
  obtain ⟨intent, hbegun, hresult⟩ := ensures_submissionBegun _ _ _ _ _ _ h
  obtain ⟨rfl, rfl⟩ := Prod.mk.inj hresult
  obtain ⟨size, hsize⟩ := Option.isSome_iff_exists.mp hbegun.size
  have hiff : (store.writeIntent (intent.submittedRow cursor at_)).1.ProtocolOpen
      (intent.submittedRow cursor at_).executionState size cursor ↔ store.SubmissionSound intent :=
    ⟨fun hopen => hopen.submissionSound hsize, fun hsound => hbegun.protocolOpen hsound hsize⟩
  refine ⟨intent, size, hbegun.found, hsize, hiff, fun mode hrun => hiff.trans ?_⟩
  constructor
  · intro hsound
    exact ⟨hsound.unfingerprinted, hsound.authority⟩
  · rintro ⟨hunfingerprinted, hcounted⟩
    exact hbegun.sound_of_plansKept (RootStore.Reaches.plansKept hrun) hunfingerprinted hcounted

/-- The first of two new files of three bytes, once it is submitted. -/
theorem submission_protocol_open_sample :
    ∃ store next : RootStore, ∃ execution, (RootStore.new .twoWay).Reaches store ∧
      store.beginFileCreateSubmission 1 0 ⟨['1'], nofun⟩ 2 = .ok (next, execution) ∧
      next.ProtocolOpen execution 3 ⟨['1'], nofun⟩ := by
  have hends : ∃ store ∈ (sampleOperations.foldlM RootStore.apply (RootStore.new .twoWay)).toOption,
      (∃ r ∈ (store.beginFileCreateSubmission 1 0 ⟨['1'], nofun⟩ 2).toOption, True) ∧
      (∃ intent ∈ store.intents.find? 1, intent.localSizeBytes = some 3 ∧
        intent.expectedRemoteSizeBytes = none ∧ intent.expectedChecksumAlgorithm = none ∧
        intent.expectedContentChecksum = none) ∧
      (∃ state ∈ store.authorityState, state.itemCount = store.catalog.itemCount + 1) ∧
      store.authority.rows.length = store.catalog.itemCount + 1 ∧
      store.catalog.itemCount + 1 < 2 ^ 63 := by
    decide +kernel
  obtain ⟨store, hstore, ⟨⟨next, execution⟩, hbegin, -⟩, ⟨found, hfound, hsize, hunset⟩, hcounted⟩ :=
    hends
  have hrun : (RootStore.new .twoWay).Reaches store :=
    Machine.Run.of_foldlM (fun _ _ _ => trivial) (toOption_eq_some_iff.mp hstore)
  have hbegin := toOption_eq_some_iff.mp hbegin
  obtain ⟨intent, size, hintent, hsize', -, hiff⟩ := submission_protocol_open_iff hbegin
  obtain rfl := Option.some.inj (hintent.symm.trans hfound)
  obtain rfl := Option.some.inj (hsize'.symm.trans hsize)
  exact ⟨store, next, execution, hrun, hbegin,
    (hiff .twoWay hrun).mpr ⟨⟨⟨3, hsize, by decide, by decide⟩, hunset⟩, hcounted⟩⟩

/-- A two-way root with an empty catalog, on which a new file `a` without bytes is observed and its
    create is planned. -/
def emptyFileOperations : List RootOperation :=
  [.inventory (.commitSnapshot (.ofChar '0')),
    .inventory (.stageWindowPage (.ofChar '0') none ⟨[], none, some (.ofChar '1')⟩),
    .inventory (.commitWindow (.ofChar '0') (.ofChar '1') 0 []),
    .localItems (.commitSnapshot 1),
    .authority (.commitSnapshot (.ofChar '1') [sampleAuthority] 1),
    .localItems (.reconcileJournal 1 0 (some 1)
      [⟨['a'], .created, none, some .file, .refl true, .refl true⟩]),
    .intents (.createBatch [⟨⟨1, 1, .createFile, ['a'], .file, some 0, some 1, some 1, some 1, none,
      some ['A'], some ['0'], none, none, none, none, none⟩, rfl⟩])]

/-- **The create of an empty file is submitted for ever**: neither its fingerprint is recorded nor is it
    restarted. -/
theorem empty_file_submitted_for_ever :
    ∃ store next : RootStore, ∃ execution, (RootStore.new .twoWay).Reaches store ∧
      (∃ intent, store.intents.find? 1 = some intent ∧ intent.localSizeBytes = some 0) ∧
      store.beginFileCreateSubmission 1 0 ⟨['1'], nofun⟩ 2 = .ok (next, execution) ∧
      (∀ sha256Hex, ¬ Succeeds (next.recordFileCreateStreamFingerprint 1
        execution.executionGeneration 0 sha256Hex)) ∧
      ∀ at_, ¬ Succeeds (next.restartFileCreateSubmission 1 execution.executionGeneration
        execution.attemptCount ⟨['1'], nofun⟩ at_) := by
  have hends : ∃ store ∈ (emptyFileOperations.foldlM RootStore.apply
      (RootStore.new .twoWay)).toOption,
      (∃ r ∈ (store.beginFileCreateSubmission 1 0 ⟨['1'], nofun⟩ 2).toOption, True) ∧
      ∃ intent ∈ store.intents.find? 1, intent.localSizeBytes = some 0 := by
    decide +kernel
  obtain ⟨store, hstore, ⟨⟨next, execution⟩, hbegin, -⟩, found, hfound, hempty⟩ := hends
  have hrun : (RootStore.new .twoWay).Reaches store :=
    Machine.Run.of_foldlM (fun _ _ _ => trivial) (toOption_eq_some_iff.mp hstore)
  have hbegin := toOption_eq_some_iff.mp hbegin
  obtain ⟨intent, hbegun, hresult⟩ := ensures_submissionBegun _ _ _ _ _ _ hbegin
  obtain ⟨rfl, rfl⟩ := Prod.mk.inj hresult
  obtain rfl := Option.some.inj (hbegun.found.symm.trans hfound)
  have hid : intent.id = 1 := (Table.find?_eq_some_iff.mp hfound).2
  refine ⟨store, _, _, hrun, ⟨intent, hfound, hempty⟩, hbegin, ?_, ?_⟩
  · rintro sha256Hex ⟨r, hr⟩
    exact (ensures_fingerprintChecked _ _ _ _ _ r hr).1.1 rfl
  · rintro at_ ⟨r, hr⟩
    rw [← hid] at hr
    obtain ⟨size, hsize, hne⟩ := (ensures_restartReady (find?_writeIntent _ _) r hr).size
    exact hne (Option.some.inj (hsize.symm.trans hempty))

end NubiSync
