import NubiSync.Storage.RootHistory

set_option autoImplicit false

/-! # The execution of create intents

The compare-and-set operations on create intents make one state machine of every intent, whatever
clients call them in whatever order: its status moves along the edges of `movesTo`, each move takes
the execution generation up by one, and the columns of a row bear out its status. -/

namespace NubiSync

open Checks

/-! ## Status moves -/

/-- The edges of the state machine. -/
def RemoteWriteIntentStatus.movesTo : RemoteWriteIntentStatus → RemoteWriteIntentStatus → Bool
  | .planned, .submitted => true
  | .submitted, .awaitingConfirmation | .submitted, .conflict | .submitted, .failed => true
  | .awaitingConfirmation, .confirmed | .awaitingConfirmation, .conflict => true
  | .conflict, .confirmed => true
  | _, _ => false

/-- A conflict is left by the recovery of an unsettled file create. -/
def RecoversConflict (store : RootStore) (op : RootOperation) (intent : RemoteWriteIntentRow) : Prop :=
  intent.operation = .createFile ∧ store.settlements.find? intent.id = none ∧
    ∃ attempts at_, op = .intents
      (.recoverConflict intent.id intent.executionGeneration attempts at_)

/-- What a step may do to the status of an intent. -/
def StatusMoves (store : RootStore) (op : RootOperation) (intent later : RemoteWriteIntentRow) :
    Prop :=
  later.status = intent.status ∨ intent.status.movesTo later.status = true ∧
    (intent.status = .conflict → RecoversConflict store op intent)

theorem movesTo_of_isFolderCreateTransition {expected new : RemoteWriteIntentStatus}
    (h : isFolderCreateTransition expected new = true) :
    expected.movesTo new = true ∧ expected ≠ .conflict ∧ expected ≠ .planned ∧ new ≠ .planned ∧
      new ≠ .submitted := by
  revert h
  cases expected <;> cases new <;> decide

theorem isFolderCreateTransition_of_file {expected new : RemoteWriteIntentStatus}
    (h : isFileCreateTransition expected new = true) :
    isFolderCreateTransition expected new = true ∧ new ≠ .awaitingConfirmation := by
  revert h
  cases expected <;> cases new <;> decide

variable {store next : RootStore} {op : RootOperation} {iop : IntentOperation}
  {intent moved : RemoteWriteIntentRow}

theorem IntentMove.statusMoves (h : IntentMove store intent iop moved) :
    StatusMoves store (.intents iop) intent moved := by
  cases h with
  | beginFileCreate cursor at_ hkind hstatus =>
      exact Or.inr ⟨by rw [hstatus]; rfl, fun hconflict => by rw [hstatus] at hconflict; cases hconflict⟩
  | beginFolderCreate cursor at_ hkind hstatus =>
      exact Or.inr ⟨by rw [hstatus]; rfl, fun hconflict => by rw [hstatus] at hconflict; cases hconflict⟩
  | restartFileCreate cursor at_ hkind hstatus => exact Or.inl hstatus.symm
  | recordFingerprint size checksum hkind hstatus => exact Or.inl rfl
  | completeUpload version at_ hkind hstatus =>
      exact Or.inr ⟨by rw [hstatus]; rfl, fun hconflict => by rw [hstatus] at hconflict; cases hconflict⟩
  | recoverConflict at_ hkind hstatus hversion hunsettled =>
      exact Or.inr ⟨by rw [hstatus]; rfl, fun _ => ⟨hkind, hunsettled, _, at_, rfl⟩⟩
  | transitionFileCreate new at_ hkind hnew =>
      have hmoves := movesTo_of_isFolderCreateTransition (isFolderCreateTransition_of_file hnew).1
      exact Or.inr ⟨hmoves.1, fun hconflict => absurd hconflict hmoves.2.1⟩
  | transitionFolderCreate new at_ hkind hnew =>
      have hmoves := movesTo_of_isFolderCreateTransition hnew
      exact Or.inr ⟨hmoves.1, fun hconflict => absurd hconflict hmoves.2.1⟩

/-- Whatever moves a row, it does not make it a planned one. -/
theorem IntentMove.not_planned (hmove : IntentMove store intent iop moved) :
    moved.status ≠ .planned := by
  cases hmove with
  | recordFingerprint size checksum hkind hstatus =>
      show intent.status ≠ .planned
      rw [hstatus]
      nofun
  | transitionFileCreate new at_ hkind hnew =>
      exact (movesTo_of_isFolderCreateTransition (isFolderCreateTransition_of_file hnew).1).2.2.2.1
  | transitionFolderCreate new at_ hkind hnew =>
      exact (movesTo_of_isFolderCreateTransition hnew).2.2.2.1
  | _ => nofun

theorem IntentEvolves.statusMoves {later : RemoteWriteIntentRow}
    (h : IntentEvolves store op intent later) : StatusMoves store op intent later := by
  cases h with
  | same => exact Or.inl rfl
  | moved iop hop moved hmove =>
      subst hop
      exact hmove.statusMoves

/-! ## Execution generations -/

/-- The operation that records a fingerprint, the only one that does not move the execution on. -/
def IntentOperation.recordsFingerprint : IntentOperation → Bool
  | .recordFingerprint .. => true
  | _ => false

theorem IntentMove.target (h : IntentMove store intent iop moved) :
    iop.target? = some (intent.id, intent.executionGeneration) := by
  cases h <;> rfl

theorem IntentMove.executionGeneration (h : IntentMove store intent iop moved) :
    moved.executionGeneration =
      intent.executionGeneration + if iop.recordsFingerprint then 0 else 1 := by
  cases h <;> rfl

theorem IntentEvolves.executionGeneration_le {later : RemoteWriteIntentRow}
    (h : IntentEvolves store op intent later) :
    later.id = intent.id ∧ intent.executionGeneration ≤ later.executionGeneration := by
  cases h with
  | same => exact ⟨rfl, le_rfl⟩
  | moved iop hop moved hmove =>
      refine ⟨hmove.id_eq, ?_⟩
      rw [hmove.executionGeneration]
      omega

/-- A client that expects a generation an intent has passed finds it no more, in any later state. -/
theorem stale_after {later : RootStore} (hrun : store.Reaches later) (hfresh : store.FreshIntentIds)
    (hintent : intent ∈ store.intents.rows) :
    later.FreshIntentIds ∧ ∃ last ∈ later.intents.rows, last.id = intent.id ∧
      intent.executionGeneration ≤ last.executionGeneration := by
  induction hrun with
  | refl => exact ⟨hfresh, intent, hintent, rfl, le_rfl⟩
  | tail op _ _ hstep ih =>
      obtain ⟨hfresh', middle, hmiddle, hid, hle⟩ := ih
      obtain ⟨last, hlast, hevolves⟩ := hstep.intent_later hfresh' hmiddle
      obtain ⟨hid', hle'⟩ := hevolves.executionGeneration_le
      exact ⟨hstep.freshIntentIds hfresh', last, hlast, hid'.trans hid, hle.trans hle'⟩

/-- The intent an execution operation moves, and what it leaves alone. -/
theorem RootStore.Step.execution {id generation : ℕ} (h : store.Step (.intents iop) next)
    (htarget : iop.target? = some (id, generation)) :
    ∃ intent moved, store.intents.find? id = some intent ∧ intent.executionGeneration = generation ∧
      IntentMove store intent iop moved ∧ next.intents.find? id = some moved ∧
      ∀ other, other ≠ id → next.intents.find? other = store.intents.find? other := by
  obtain ⟨intent, hintent, moved, hmove, rfl⟩ :=
    iop.ensures_moved store (by rw [htarget]; rfl) next h
  obtain ⟨hid, hgeneration⟩ := Prod.mk.inj (Option.some.inj (hmove.target.symm.trans htarget))
  refine ⟨intent, moved, Table.find?_eq_some_iff.mpr ⟨hintent, hid⟩, hgeneration, hmove, ?_, ?_⟩
  · rw [Table.find?_upsert, if_pos (hmove.id_eq.trans hid)]
  · intro other hother
    rw [Table.find?_upsert, if_neg]
    rw [hmove.id_eq, hid]
    exact hother.symm

/-! ## Columns -/

/-- The columns of an intent bear out its status. -/
structure RemoteWriteIntentRow.ExecutionConsistent (intent : RemoteWriteIntentRow) : Prop where
  submitted : intent.status ≠ .planned → 1 ≤ intent.attemptCount ∧
    intent.submittedAtUnixMs.isSome = true ∧ intent.lastAttemptAtUnixMs.isSome = true ∧
    intent.preSubmitChangeCursor.isSome = true
  awaiting : intent.status = .awaitingConfirmation → intent.awaitingConfirmationAtUnixMs.isSome = true
  confirmed : intent.status = .confirmed → intent.confirmedAtUnixMs.isSome = true ∧
    intent.terminalAtUnixMs = none
  evidence : intent.operation = .createFile →
    intent.status = .awaitingConfirmation ∨ intent.status = .confirmed →
    intent.HasContentEvidence ∧ intent.expectedRemoteKind = some .file ∧
      intent.expectedRemoteVersion.isSome = true ∧
      intent.awaitingConfirmationAtUnixMs.isSome = true

/-- What the operations keep of every row: with the columns of the status, that a terminal time is
    that of an end, and that a remote version comes with the evidence of its upload. -/
structure RemoteWriteIntentRow.ExecutionInvariant (intent : RemoteWriteIntentRow) : Prop where
  submitted : intent.status ≠ .planned → 1 ≤ intent.attemptCount ∧
    intent.submittedAtUnixMs.isSome = true ∧ intent.lastAttemptAtUnixMs.isSome = true ∧
    intent.preSubmitChangeCursor.isSome = true
  awaiting : intent.status = .awaitingConfirmation → intent.awaitingConfirmationAtUnixMs.isSome = true
  confirmed : intent.status = .confirmed → intent.confirmedAtUnixMs.isSome = true
  terminal : intent.status ≠ .conflict → intent.status ≠ .failed → intent.terminalAtUnixMs = none
  versioned : intent.operation = .createFile →
    intent.status = .awaitingConfirmation ∨ intent.status = .confirmed →
    intent.expectedRemoteVersion.isSome = true
  uploaded : intent.operation = .createFile → intent.expectedRemoteVersion.isSome = true →
    intent.status ≠ .planned ∧ intent.status ≠ .submitted ∧ intent.HasContentEvidence ∧
      intent.expectedRemoteKind = some .file ∧ intent.awaitingConfirmationAtUnixMs.isSome = true

theorem RemoteWriteIntentRow.ExecutionInvariant.consistent (h : intent.ExecutionInvariant) :
    intent.ExecutionConsistent where
  submitted := h.submitted
  awaiting := h.awaiting
  confirmed := fun hstatus =>
    ⟨h.confirmed hstatus, h.terminal (by rw [hstatus]; nofun) (by rw [hstatus]; nofun)⟩
  evidence := fun hkind hstatus => by
    have hversion := h.versioned hkind hstatus
    obtain ⟨-, -, hcontent, hremote, hawaiting⟩ := h.uploaded hkind hversion
    exact ⟨hcontent, hremote, hversion, hawaiting⟩

/-- A new create has no remote version. -/
theorem RemoteWriteIntentInput.plannedRow_invariant (input : RemoteWriteIntentInput) (id : ℕ) :
    (input.plannedRow id).ExecutionInvariant where
  submitted := fun h => absurd rfl h
  awaiting := nofun
  confirmed := nofun
  terminal := fun _ _ => rfl
  versioned := fun _ h => by obtain h | h := h <;> cases h
  uploaded := fun hkind hversion => by
    have hshape : input.isShape = true := by
      have hchecked := input.checked
      simp only [RemoteWriteIntentFields.check, bind_eq_ok, refuseIf_eq_ok, Bool.not_eq_false']
        at hchecked
      obtain ⟨_, _, _, _, _, _, _, hshape, _⟩ := hchecked
      exact hshape
    have hkind : input.operation = .createFile := hkind
    have hversion : input.expectedRemoteVersion.isSome = true := hversion
    rw [RemoteWriteIntentFields.isShape, hkind] at hshape
    simp [RemoteWriteIntentFields.isCreateShape] at hshape
    rw [hshape.2.2] at hversion
    cases hversion

theorem RemoteWriteIntentRow.ExecutionInvariant.submittedRow (h : intent.ExecutionInvariant)
    (hstatus : intent.status = .planned ∨ intent.status = .submitted) (cursor : ChangeCursor)
    (at_ : Int) : (intent.submittedRow cursor at_).ExecutionInvariant where
  submitted := fun _ => ⟨Nat.succ_pos _, rfl, rfl, rfl⟩
  awaiting := nofun
  confirmed := nofun
  terminal := fun _ _ => by
    show intent.terminalAtUnixMs = none
    obtain hstatus | hstatus := hstatus
    · exact h.terminal (by rw [hstatus]; nofun) (by rw [hstatus]; nofun)
    · exact h.terminal (by rw [hstatus]; nofun) (by rw [hstatus]; nofun)
  versioned := fun _ hstatus => by obtain hstatus | hstatus := hstatus <;> cases hstatus
  uploaded := fun hkind hversion => by
    obtain ⟨hplanned, hsubmitted, -⟩ := h.uploaded hkind hversion
    obtain hstatus | hstatus := hstatus
    · exact absurd hstatus hplanned
    · exact absurd hstatus hsubmitted

theorem RemoteWriteIntentRow.ExecutionInvariant.transitioned (h : intent.ExecutionInvariant)
    {new : RemoteWriteIntentStatus} (hnew : isFolderCreateTransition intent.status new = true)
    (hfile : intent.operation = .createFile → isFileCreateTransition intent.status new = true)
    (at_ : Int) : (intent.transitioned new at_).ExecutionInvariant where
  submitted := fun _ => h.submitted (movesTo_of_isFolderCreateTransition hnew).2.2.1
  awaiting := fun hstatus => by
    have hstatus : new = .awaitingConfirmation := hstatus
    simp [RemoteWriteIntentRow.transitioned, hstatus]
  confirmed := fun hstatus => by
    have hstatus : new = .confirmed := hstatus
    simp [RemoteWriteIntentRow.transitioned, hstatus]
  terminal := fun hconflict hfailed => by
    have hconflict : new ≠ .conflict := hconflict
    have hfailed : new ≠ .failed := hfailed
    have hold : intent.status ≠ .conflict ∧ intent.status ≠ .failed := by
      refine ⟨(movesTo_of_isFolderCreateTransition hnew).2.1, fun hstatus => ?_⟩
      rw [hstatus] at hnew
      cases hnew
    simp [RemoteWriteIntentRow.transitioned, hconflict, hfailed, h.terminal hold.1 hold.2]
  versioned := fun hkind hstatus => by
    -- a file create gets its version with its upload, before it awaits its confirmation
    have hfile := hfile hkind
    have hstatus : new = .awaitingConfirmation ∨ new = .confirmed := hstatus
    obtain hstatus | hstatus := hstatus
    · exact absurd hstatus (isFolderCreateTransition_of_file hfile).2
    · refine h.versioned hkind (Or.inl ?_)
      revert hfile
      rw [hstatus]
      cases intent.status <;> decide
  uploaded := fun hkind hversion => by
    obtain ⟨-, -, hcontent, hremote, hawaiting⟩ := h.uploaded hkind hversion
    obtain ⟨-, -, -, hplanned, hsubmitted⟩ := movesTo_of_isFolderCreateTransition hnew
    refine ⟨hplanned, hsubmitted, hcontent, hremote, ?_⟩
    show (if new = .awaitingConfirmation then some at_ else _).isSome = true
    split
    · rfl
    · exact hawaiting

theorem IntentMove.executionInvariant (hmove : IntentMove store intent iop moved)
    (h : intent.ExecutionInvariant) : moved.ExecutionInvariant := by
  cases hmove with
  | beginFileCreate cursor at_ hkind hstatus => exact h.submittedRow (Or.inl hstatus) cursor at_
  | beginFolderCreate cursor at_ hkind hstatus => exact h.submittedRow (Or.inl hstatus) cursor at_
  | restartFileCreate cursor at_ hkind hstatus => exact h.submittedRow (Or.inr hstatus) cursor at_
  | recordFingerprint size checksum hkind hstatus =>
      refine ⟨h.submitted, h.awaiting, h.confirmed, h.terminal, h.versioned, fun _ hversion => ?_⟩
      exact absurd hstatus (h.uploaded hkind hversion).2.1
  | completeUpload version at_ hkind hstatus hversion hevidence =>
      refine ⟨fun _ => h.submitted (by rw [hstatus]; nofun), fun _ => rfl, nofun, fun _ _ => ?_,
        fun _ _ => rfl, fun _ _ => ⟨nofun, nofun, hevidence, rfl, rfl⟩⟩
      exact h.terminal (by rw [hstatus]; nofun) (by rw [hstatus]; nofun)
  | recoverConflict at_ hkind hstatus hversion hunsettled =>
      obtain ⟨-, -, hcontent, hremote, hawaiting⟩ := h.uploaded hkind hversion
      exact ⟨fun _ => h.submitted (by rw [hstatus]; nofun), nofun, fun _ => rfl, fun _ _ => rfl,
        fun _ _ => hversion, fun _ _ => ⟨nofun, nofun, hcontent, hremote, hawaiting⟩⟩
  | transitionFileCreate new at_ hkind hnew =>
      exact h.transitioned (isFolderCreateTransition_of_file hnew).1 (fun _ => hnew) at_
  | transitionFolderCreate new at_ hkind hnew =>
      exact h.transitioned hnew (fun hfile => by rw [hkind] at hfile; cases hfile) at_

/-- What holds of the intents in every state of a root. -/
structure RootStore.IntentsConsistent (store : RootStore) : Prop where
  fresh : store.FreshIntentIds
  rows : ∀ intent ∈ store.intents.rows, intent.ExecutionInvariant

theorem RootStore.Step.intentsConsistent (h : store.Step op next)
    (hstore : store.IntentsConsistent) : next.IntentsConsistent := by
  refine ⟨h.freshIntentIds hstore.fresh, fun later hlater => ?_⟩
  obtain ⟨intent, hintent, hevolves⟩ | ⟨-, input, id, rfl, -⟩ := h.intent_earlier hlater
  · cases hevolves with
    | same => exact hstore.rows later hintent
    | moved iop _ _ hmove => exact hmove.executionInvariant (hstore.rows intent hintent)
  · exact input.plannedRow_invariant id

theorem RootStore.Reaches.intentsConsistent {mode : SyncMode}
    (hrun : (RootStore.new mode).Reaches store) : store.IntentsConsistent := by
  refine Machine.Run.invariant (P := RootStore.IntentsConsistent) hrun ?_ ?_
  · refine ⟨fun intent hintent => ?_, fun intent hintent => ?_⟩
    · cases hintent
    · cases hintent
  · intro _ _ _ hconsistent _ hstep
    exact hstep.intentsConsistent hconsistent

/-! ## The state machine -/

/-- **Create intents run a linear state machine.** In every state a root reaches, a step moves the
    status of an intent along an edge of `movesTo`, and out of a conflict only by recovery; an
    execution operation finds its intent at the generation it expects, and but for the recording of a
    fingerprint leaves it one generation on, so that whoever expects the same generation later is
    refused; and the columns of every intent bear out its status. -/
theorem create_intents_execute_linearly (mode : SyncMode) (store : RootStore)
    (hrun : (RootStore.new mode).Reaches store) :
    (∀ op next, store.Step op next → ∀ intent ∈ store.intents.rows,
      ∃ later, next.intents.find? intent.id = some later ∧ StatusMoves store op intent later) ∧
    (∀ (iop : IntentOperation) (id generation : ℕ) (next : RootStore),
      iop.target? = some (id, generation) → store.Step (.intents iop) next →
      (∃ intent moved, store.intents.find? id = some intent ∧
        intent.executionGeneration = generation ∧ next.intents.find? id = some moved ∧
        (iop.recordsFingerprint = false → moved.executionGeneration = generation + 1) ∧
        ∀ other, other ≠ id → next.intents.find? other = store.intents.find? other) ∧
      (iop.recordsFingerprint = false → ∀ (later last : RootStore) (iop' : IntentOperation),
        next.Reaches later → iop'.target? = some (id, generation) →
        ¬ later.Step (.intents iop') last)) ∧
    ∀ intent ∈ store.intents.rows, intent.ExecutionConsistent := by
  have hconsistent := RootStore.Reaches.intentsConsistent hrun
  refine ⟨?_, ?_, fun intent hintent => (hconsistent.rows intent hintent).consistent⟩
  · intro op next hstep intent hintent
    obtain ⟨later, hlater, hevolves⟩ := hstep.intent_later hconsistent.fresh hintent
    exact ⟨later, Table.find?_eq_some_iff.mpr ⟨hlater, hevolves.executionGeneration_le.1⟩,
      hevolves.statusMoves⟩
  · intro iop id generation next htarget hstep
    obtain ⟨intent, moved, hintent, hgeneration, hmove, hmoved, hothers⟩ := hstep.execution htarget
    have hnext : iop.recordsFingerprint = false → moved.executionGeneration = generation + 1 := by
      intro hadvances
      rw [hmove.executionGeneration, hadvances, hgeneration]
      rfl
    refine ⟨⟨intent, moved, hintent, hgeneration, hmoved, hnext, hothers⟩, ?_⟩
    intro hadvances later last iop' hlater htarget' hstep'
    obtain ⟨hmem, hid⟩ := Table.find?_eq_some_iff.mp hmoved
    obtain ⟨-, current, hcurrent, hcurrentId, hle⟩ :=
      stale_after hlater (hstep.freshIntentIds hconsistent.fresh) hmem
    obtain ⟨found, -, hfound, hfoundGeneration, -⟩ := hstep'.execution htarget'
    obtain ⟨hfound, hfoundId⟩ := Table.find?_eq_some_iff.mp hfound
    -- the intent has moved past the generation the second call expects
    obtain rfl := later.intents.eq_of_key hcurrent hfound
      (hcurrentId.trans (hid.trans hfoundId.symm))
    have := hnext hadvances
    omega

/-! ## Two new files -/

/-- A create of a file `name` of three bytes under the root `0`, answering an event of the first
    generation. -/
def sampleCreate (eventId : ℕ) (name remoteId : Char)
    (h : (RemoteWriteIntentFields.mk eventId 1 .createFile [name] .file (some 3) (some 1) (some 1)
      (some 1) none (some [remoteId]) (some ['0']) none none none none none).check = .ok ()) :
    RemoteWriteIntentInput := ⟨_, h⟩

/-- What was observed of the root: everything is allowed. -/
def sampleAuthority : RemoteWriteAuthoritySnapshot :=
  ⟨['0'], 1, none, none, true, true, true, 1, rfl⟩

/-- A two-way root with an empty catalog and an empty local baseline, on which two new files `a` and
    `b` are observed and their creates are planned in one batch. -/
def sampleOperations : List RootOperation :=
  [.inventory (.commitSnapshot (.ofChar '0')),
    .inventory (.stageWindowPage (.ofChar '0') none ⟨[], none, some (.ofChar '1')⟩),
    .inventory (.commitWindow (.ofChar '0') (.ofChar '1') 0 []),
    .localItems (.commitSnapshot 1),
    .authority (.commitSnapshot (.ofChar '1') [sampleAuthority] 1),
    .localItems (.reconcileJournal 1 0 (some 1)
      [⟨['a'], .created, none, some .file, .refl true, .refl true⟩,
        ⟨['b'], .created, none, some .file, .refl true, .refl true⟩]),
    .intents (.createBatch [sampleCreate 1 'a' 'A' rfl, sampleCreate 2 'b' 'B' rfl])]

/-- The submission and the upload of the first file. -/
def sampleUpload : List RootOperation :=
  [.intents (.beginFileCreate 1 0 (.ofChar '1') 2),
    .intents (.recordFingerprint 1 1 3 (List.replicate 64 '0')),
    .intents (.completeUpload 1 1 7 3)]

/-- The create of a file `d/a` of three bytes in the folder `D`. -/
def sampleCreateBelow : RemoteWriteIntentInput :=
  ⟨⟨1, 1, .createFile, ['d', '/', 'a'], .file, some 3, some 1, some 1, some 1, none, some ['A'],
    some ['D'], none, none, none, none, none⟩, rfl⟩

/-- What was observed of an item: everything is allowed. -/
def sampleObserved (id : Char) (observedAt : Int)
    (h : checkRemoteWriteAuthority [id] 1 none none = .ok ()) : RemoteWriteAuthoritySnapshot :=
  ⟨[id], 1, none, none, true, true, true, observedAt, h⟩

/-- A file `c` that another client puts into the folder `D`. -/
def sampleUpserted : RemoteItem := ⟨['C'], some ['D'], ['c'], .file, some 5, none, false⟩

/-- A two-way root with a materialized folder `d`, in which a new file `d/a` is observed and its create is
    planned; after that another client's file comes into the folder, and the authority is observed
    anew. -/
def sampleBelowFolder : List RootOperation :=
  [.inventory (.stageItems [⟨['D'], some ['0'], ['d'], .folder, none, none, false⟩]),
    .inventory (.commitSnapshot (.ofChar '0')),
    .inventory (.stageWindowPage (.ofChar '0') none ⟨[], none, some (.ofChar '1')⟩),
    .inventory (.commitWindow (.ofChar '0') (.ofChar '1') 0 []),
    .receipts (.recordDirectories [⟨['D'], ['d']⟩]),
    .localItems (.stageItems [⟨['d'], .directory, none, 1, 1, 2, .refl true, .refl false⟩]),
    .localItems (.commitSnapshot 1),
    .authority (.commitSnapshot (.ofChar '1') [sampleObserved '0' 1 rfl, sampleObserved 'D' 1 rfl] 1),
    .localItems (.reconcileJournal 1 1 (some 1)
      [⟨['d', '/', 'a'], .created, none, some .file, .refl true, .refl true⟩]),
    .intents (.createBatch [sampleCreateBelow]),
    .inventory (.stageWindowPage (.ofChar '1') none ⟨[.upsert sampleUpserted], none, some (.ofChar '2')⟩),
    .inventory (.commitWindow (.ofChar '1') (.ofChar '2') 1 [.upsert sampleUpserted]),
    .authority (.commitSnapshot (.ofChar '2')
      [sampleObserved '0' 2 rfl, sampleObserved 'D' 2 rfl, sampleObserved 'C' 2 rfl] 2)]

/-- The first file after its upload. -/
theorem create_intents_execute_linearly_upload :
    ∃ store, (RootStore.new .twoWay).Reaches store ∧
      (∃ intent ∈ store.intents.rows, intent.status = .awaitingConfirmation) ∧
      ∀ intent ∈ store.intents.rows, intent.ExecutionConsistent := by
  have hends : ∃ store ∈ ((sampleOperations ++ sampleUpload).foldlM RootStore.apply
      (RootStore.new .twoWay)).toOption,
      ∃ intent ∈ store.intents.rows, intent.status = .awaitingConfirmation := by
    decide +kernel
  obtain ⟨store, hstore, hawaiting⟩ := hends
  have hrun : (RootStore.new .twoWay).Reaches store :=
    Machine.Run.of_foldlM (fun _ _ _ => trivial) (toOption_eq_some_iff.mp hstore)
  exact ⟨store, hrun, hawaiting, (create_intents_execute_linearly .twoWay store hrun).2.2⟩

end NubiSync
