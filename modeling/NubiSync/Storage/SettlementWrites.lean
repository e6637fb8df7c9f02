import NubiSync.Storage.JournalWrites

set_option autoImplicit false

/-! # What a settlement does

One inversion for the two settlements: what the transaction had checked, and the baseline, journal,
receipts and settlement rows it leaves. -/

namespace NubiSync

open Checks Relation

/-! ## Residual events -/

/-- The rows of the residual events, with consecutive ids. -/
def residualRows (generation : ℕ) : ℕ → List LocalChangeEventInput → List LocalChangeEventRow
  | _, [] => []
  | id, event :: rest =>
      ⟨id, generation, event.kind, event.relativePath, event.baselineKind, event.currentKind,
        .pending⟩ :: residualRows generation (id + 1) rest

theorem length_residualRows (generation id : ℕ) (events : List LocalChangeEventInput) :
    (residualRows generation id events).length = events.length := by
  induction events generalizing id with
  | nil => rfl
  | cons event rest ih => exact congrArg (· + 1) (ih (id + 1))

theorem ensures_insertResidual (generation : ℕ) (events : List LocalChangeEventInput) :
    ∀ store : RootStore, Ensures (events.foldlM (RootStore.insertLocalChange generation) store)
      fun next => (∃ localEvents, next = { store with
          localEvents := localEvents, nextEventId := store.nextEventId + events.length }) ∧
        next.localEvents.rows
          = store.localEvents.rows ++ residualRows generation store.nextEventId events ∧
        JournalWrites none store.journal next.journal := by
  induction events with
  | nil =>
      intro store
      exact .ok ⟨⟨store.localEvents, rfl⟩, by simp [residualRows], .refl⟩
  | cons event rest ih =>
      intro store
      rw [List.foldlM_cons]
      refine Ensures.bind (P := fun middle : RootStore => ∃ row, row.id = store.nextEventId ∧
        [row] = residualRows generation store.nextEventId [event] ∧
        store.localEvents.find? row.journalKey = none ∧ row.IsShaped ∧ middle = { store with
          localEvents := store.localEvents.upsert row, nextEventId := store.nextEventId + 1 }) ?_ ?_
      · refine (ensures_insertNew _ _).bind fun _ h => ?_
        obtain ⟨habsent, rfl⟩ := h
        exact .ok ⟨_, rfl, rfl, habsent, event.shape, rfl⟩
      · intro middle ⟨row, hid, hrow, habsent, hshape, hmiddle⟩
        subst hmiddle
        refine (ih _).mono fun next ⟨⟨localEvents, hnext⟩, hrows, hwrites⟩ => ?_
        refine ⟨⟨localEvents, ?_⟩, ?_, .head (.append row hid habsent hshape) hwrites⟩
        · rw [hnext, List.length_cons, Nat.add_assoc, Nat.add_comm 1]
        · rw [hrows, Table.rows_upsert_of_absent habsent, List.append_assoc, hrow]
          rfl

theorem mem_residualRows {generation id : ℕ} {events : List LocalChangeEventInput}
    {row : LocalChangeEventRow} (h : row ∈ residualRows generation id events) :
    row.baselineGeneration = generation ∧ row.status = .pending ∧ id ≤ row.id := by
  induction events generalizing id with
  | nil => cases h
  | cons event rest ih =>
      obtain rfl | h := List.mem_cons.mp h
      · exact ⟨rfl, rfl, le_rfl⟩
      · obtain ⟨hgeneration, hstatus, hid⟩ := ih h
        exact ⟨hgeneration, hstatus, by omega⟩

/-! ## The journal of a settlement -/

/-- What a settlement does to an event of the journal. -/
def settleEvent (sourceId generation : ℕ) (event : LocalChangeEventRow) : LocalChangeEventRow :=
  if event.id = sourceId ∧ event.isPending generation = true then { event with status := .applied }
  else if event.isPending generation = true then { event with status := .superseded }
  else event

/-- The two `UPDATE`s of a settlement: the second no longer finds the source event pending. -/
theorem supersede_after_apply (sourceId generation : ℕ) (event : LocalChangeEventRow) :
    (fun applied : LocalChangeEventRow =>
        if applied.isPending generation then { applied with status := .superseded } else applied)
      (if event.id == sourceId && event.isPending generation then { event with status := .applied }
        else event)
      = settleEvent sourceId generation event := by
  unfold settleEvent
  by_cases hsource : event.id = sourceId ∧ event.isPending generation = true
  · rw [if_pos hsource, if_pos (by simpa using hsource)]
    simp [LocalChangeEventRow.isPending]
  · rw [if_neg hsource, if_neg (by simpa using hsource)]

theorem ensures_settleJournal_rows (store : RootStore) (input : RemoteWriteCreateSettlementFields)
    (generation nextGeneration : ℕ) :
    Ensures (store.settleJournal input generation nextGeneration) fun r =>
      (∃ localEvents, r.1 = { store with
          localEvents := localEvents
          nextEventId := store.nextEventId + input.residualEvents.length }) ∧
        r.1.localEvents.rows
          = store.localEvents.rows.map (settleEvent input.sourceLocalEventId generation)
            ++ residualRows nextGeneration store.nextEventId input.residualEvents ∧
        r.1.localEvents.rows.countP (·.isPending nextGeneration) = input.residualEvents.length ∧
        (∃ event ∈ store.localEvents.rows, event.id = input.sourceLocalEventId ∧
          event.isPending generation = true) ∧
        JournalWrites none store.journal r.1.journal := by
  refine .check fun hsource => ?_
  refine (ensures_insertResidual nextGeneration input.residualEvents _).bind ?_
  intro journal ⟨⟨localEvents, hjournal⟩, hrows, hwrites⟩
  refine .check fun hcount => .ok ⟨⟨localEvents, hjournal⟩, ?_, by simpa using hcount, ?_, ?_⟩
  · show journal.localEvents.rows = _
    rw [hrows]
    refine congrArg (· ++ _) ?_
    show (store.localEvents.rows.map _).map _ = _
    rw [List.map_map]
    exact List.map_congr_left fun event _ => supersede_after_apply _ _ event
  · simp only [Bool.not_eq_false', List.any_eq_true, Bool.and_eq_true, beq_iff_eq] at hsource
    exact hsource
  · refine .head (journalWrite_setEventStatus _ .applied fun event hevent => ?_)
      (.head (journalWrite_setEventStatus _ .superseded fun event hevent => ?_) hwrites)
    · exact (pending_of_isPending (Bool.and_eq_true_iff.mp hevent).2).2
    · exact (pending_of_isPending hevent).2

/-! ## The settlements -/

/-- What a settlement had checked, but for its receipt. -/
structure RootStore.SettlementReady (store : RootStore) (fields : RemoteWriteCreateSettlementFields)
    (operation : RemoteWriteIntentOperation) (localKind : LocalItemKind) : Prop where
  twoWay : store.mode = .twoWay
  unsettled : store.settlements.find? fields.intentId = none
  unsettledSource : ∀ settlement ∈ store.settlements.rows,
    settlement.sourceLocalEventId ≠ fields.sourceLocalEventId
  baseline : ∃ state, store.localState = some state ∧ state.snapshotComplete = true ∧
    state.generation = fields.expectedFromGeneration ∧ state.itemCount = fields.expectedItemCount
  intent : ∃ intent, store.intents.find? fields.intentId = some intent ∧
    intent.sourceLocalEventId = fields.sourceLocalEventId ∧
    intent.baselineGeneration = fields.expectedFromGeneration ∧ intent.operation = operation ∧
    intent.status = .confirmed ∧ intent.relativePath = fields.promoted.relativePath ∧
    intent.predeterminedRemoteId = some fields.predeterminedRemoteId
  source : ∃ event ∈ store.localEvents.rows, event.id = fields.sourceLocalEventId ∧
    event.isPending fields.expectedFromGeneration = true ∧ event.eventKind = .created ∧
    event.relativePath = fields.promoted.relativePath ∧ event.currentKind = some localKind
  newPath : store.localItems.find? fields.promoted.relativePath = none

/-- The state a settlement leaves, but for its receipt. -/
structure RootStore.SettlementWritten (store : RootStore)
    (fields : RemoteWriteCreateSettlementFields) (next : RootStore) : Prop where
  localItems : next.localItems = store.localItems.upsert fields.promoted
  itemCount : next.localItems.rows.length = fields.expectedItemCount + 1
  localState : next.localState = some ⟨true, fields.expectedItemCount + 1,
    some fields.settledAtUnixMs, fields.expectedFromGeneration + 1, true⟩
  events : next.localEvents.rows = store.localEvents.rows.map
      (settleEvent fields.sourceLocalEventId fields.expectedFromGeneration)
    ++ residualRows (fields.expectedFromGeneration + 1) store.nextEventId fields.residualEvents
  pending : next.localEvents.rows.countP (·.isPending (fields.expectedFromGeneration + 1))
    = fields.residualEvents.length
  journal : JournalWrites none store.journal next.journal
  settlements : next.settlements = store.settlements.upsert ⟨fields.intentId,
    fields.sourceLocalEventId, fields.expectedFromGeneration, fields.expectedFromGeneration + 1⟩
  mode : next.mode = store.mode
  intents : next.intents = store.intents
  nextIntentId : next.nextIntentId = store.nextIntentId
  frame : ∃ catalog localItems localState localEvents nextEventId settlements, next = { store with
    catalog := catalog, localItems := localItems, localState := localState, localEvents := localEvents,
    nextEventId := nextEventId, settlements := settlements }

/-- The receipt a file settlement creates. -/
def CatalogStore.FileReceiptCreated (catalog : CatalogStore) (receipt : FileReceiptRow)
    (next : CatalogStore) : Prop :=
  next = { catalog with fileReceipts := catalog.fileReceipts.upsert receipt } ∧
    receipt.receiptState = .current ∧ ∀ row ∈ catalog.fileReceipts.rows,
      row.remoteId ≠ receipt.remoteId ∧ row.relativePath ≠ receipt.relativePath

/-- The receipt a folder settlement creates. -/
def CatalogStore.DirectoryReceiptCreated (catalog : CatalogStore) (receipt : DirectoryReceiptRow)
    (next : CatalogStore) : Prop :=
  next = { catalog with directoryReceipts := catalog.directoryReceipts.upsert receipt } ∧
    receipt.receiptState = .current ∧ ∀ row ∈ catalog.directoryReceipts.rows,
      row.remoteId ≠ receipt.remoteId ∧
        (row.receiptState = .current → row.relativePath ≠ receipt.relativePath)

/-- The item of a settlement is live, of the created kind, and where the intent put it. -/
theorem ensures_settledRemoteItem (store : RootStore) (input : RemoteWriteCreateSettlementFields)
    (kind : RemoteItemKind) :
    Ensures (store.settledRemoteItem input kind) fun row =>
      store.catalog.items.find? input.predeterminedRemoteId = some row ∧ row.itemKind = kind ∧
        row.trashed = false := by
  refine .after fun _ => .present fun row hrow => .check fun hchecks => .ok ?_
  simp only [Bool.or_eq_false_iff, bne_eq_false_iff_eq] at hchecks
  exact ⟨hrow, hchecks.1.2, hchecks.2⟩

theorem ensures_settledIntent (store : RootStore) (fields : RemoteWriteCreateSettlementFields)
    (operation : RemoteWriteIntentOperation) (localKind : LocalItemKind) (generation execution : ℕ) :
    Ensures (store.settledIntent fields operation localKind generation execution) fun intent =>
      store.intents.find? fields.intentId = some intent ∧
        intent.sourceLocalEventId = fields.sourceLocalEventId ∧
        intent.baselineGeneration = generation ∧ intent.operation = operation ∧
        intent.status = .confirmed ∧ intent.relativePath = fields.promoted.relativePath ∧
        intent.predeterminedRemoteId = some fields.predeterminedRemoteId := by
  refine .present fun intent hintent => .check fun hguard => .ok ?_
  simp only [Bool.or_eq_false_iff, bne_eq_false_iff_eq] at hguard
  obtain ⟨⟨⟨⟨⟨⟨⟨⟨⟨⟨hsource, hgeneration⟩, hoperation⟩, hstatus⟩, hpath⟩, -⟩, -⟩, -⟩, hid⟩, -⟩, -⟩ :=
    hguard
  exact ⟨hintent, hsource, hgeneration, hoperation, hstatus, hpath, hid⟩

theorem ensures_checkSettlementSource (store : RootStore)
    (fields : RemoteWriteCreateSettlementFields) (localKind : LocalItemKind) (generation : ℕ) :
    Ensures (store.checkSettlementSource fields localKind generation) fun _ =>
      ∃ event ∈ store.localEvents.rows, event.id = fields.sourceLocalEventId ∧
        event.isPending generation = true ∧ event.eventKind = .created ∧
        event.relativePath = fields.promoted.relativePath ∧ event.currentKind = some localKind := by
  refine .present fun event hevent => ?_
  intro _ h
  simp only [refuseIf_eq_ok, Bool.or_eq_false_iff, bne_eq_false_iff_eq] at h
  obtain ⟨⟨⟨⟨hkind, hpath⟩, hcurrent⟩, hstatus⟩, hgeneration⟩ := h
  refine ⟨event, List.mem_of_find?_eq_some hevent, by simpa using List.find?_some hevent, ?_, hkind,
    hpath, hcurrent⟩
  simp [LocalChangeEventRow.isPending, hstatus, hgeneration]

theorem ensures_checkSettlementRoot (store : RootStore) (fields : RemoteWriteCreateSettlementFields)
    (generation itemCount : ℕ) :
    Ensures (store.checkSettlementRoot fields generation itemCount) fun _ =>
      store.settlements.find? fields.intentId = none ∧ store.mode = .twoWay ∧
        ∃ state, store.localState = some state ∧ state.snapshotComplete = true ∧
          state.generation = generation ∧ state.itemCount = itemCount := by
  refine .check fun hunsettled => .check fun hmode => .present fun state hstate => ?_
  intro _ h
  simp only [refuseIf_eq_ok, Bool.or_eq_false_iff, bne_eq_false_iff_eq, Bool.not_eq_false'] at h hmode
  obtain ⟨⟨⟨⟨hcomplete, -⟩, hcount⟩, hgeneration⟩, -⟩ := h
  exact ⟨by simpa using hunsettled, hmode, state, hstate, hcomplete, hgeneration, hcount⟩

/-- The writes of both settlements, between their checks and the settlement row. -/
theorem ensures_settlementWrites (store : RootStore) (fields : RemoteWriteCreateSettlementFields)
    (generation : ℕ) (hgeneration : fields.expectedFromGeneration = generation)
    (receipt : CatalogStore → Except StorageError CatalogStore) (P : CatalogStore → Prop)
    (hreceipt : Ensures (receipt store.catalog) P) :
    Ensures (do
        let promoted ← store.promoteLocalItem fields (generation + 1) (fields.expectedItemCount + 1)
        let (journal, superseded) ← promoted.settleJournal fields generation (generation + 1)
        let catalog ← receipt journal.catalog
        let settled ← { journal with catalog := catalog : RootStore }.recordSettlement fields
          generation (generation + 1) (fields.expectedItemCount + 1)
        .ok (settled, (⟨generation, generation + 1, fields.expectedItemCount + 1,
          fields.residualEvents.length, superseded⟩ : RemoteWriteCreateSettlementResult)))
      fun r => store.SettlementWritten fields r.1 ∧ P r.1.catalog ∧
        ∀ settlement ∈ store.settlements.rows,
          settlement.sourceLocalEventId ≠ fields.sourceLocalEventId := by
  subst hgeneration
  refine Ensures.bind (P := fun promoted : RootStore => promoted = { store with
    localItems := store.localItems.upsert fields.promoted
    localState := some ⟨true, fields.expectedItemCount + 1, some fields.settledAtUnixMs,
      fields.expectedFromGeneration + 1, true⟩ }) ?_ ?_
  · refine (ensures_insertNew _ _).bind fun _ h => ?_
    rw [h.2]
    exact .ok rfl
  intro promoted hpromoted
  subst hpromoted
  refine (ensures_settleJournal_rows _ _ _ _).bind ?_
  intro ⟨journal, superseded⟩ ⟨⟨localEvents, hjournal⟩, hrows, hpending, _, hwrites⟩
  simp only at hjournal hrows hpending hwrites
  subst hjournal
  refine Ensures.bind hreceipt fun catalog hcatalog => ?_
  refine Ensures.bind (P := fun settled : RootStore => store.SettlementWritten fields settled ∧
    P settled.catalog ∧ ∀ settlement ∈ store.settlements.rows,
      settlement.sourceLocalEventId ≠ fields.sourceLocalEventId) ?_ fun settled h => .ok h
  refine .check fun hsource => (ensures_insertNew _ _).bind fun _ h => .check fun hcount => ?_
  obtain ⟨-, rfl⟩ := h
  refine .ok ⟨⟨rfl, by simpa using hcount, rfl, hrows, hpending, hwrites, rfl, rfl, rfl, rfl,
    ⟨_, _, _, _, _, _, rfl⟩⟩, hcatalog, ?_⟩
  simpa using hsource

/-- **A file settlement.** -/
theorem ensures_fileSettled (store : RootStore) (input : RemoteWriteFileCreateSettlementInput) :
    Ensures (store.settleConfirmedFileCreate input) fun r =>
      store.SettlementReady input.toRemoteWriteCreateSettlementFields .createFile .file ∧
        store.SettlementWritten input.toRemoteWriteCreateSettlementFields r.1 ∧
        ∃ size, input.promoted.sizeBytes = some size ∧ store.catalog.FileReceiptCreated
          ⟨input.predeterminedRemoteId, input.promoted.relativePath, size, input.sha256Hex, .current⟩
          r.1.catalog ∧ ∃ row, store.catalog.items.find? input.predeterminedRemoteId = some row ∧
            row.itemKind = .file ∧ row.trashed = false ∧ row.sizeBytes = some size := by
  refine (ensures_toI64 _).bind fun generation hgeneration => ?_
  refine (ensures_toI64 _).bind fun itemCount hitemCount => .after fun execution => ?_
  refine .present fun size hsize => (ensures_toI64 _).bind fun promotedSize hpromotedSize => ?_
  refine (ensures_checkedAdd _ _).bind fun nextGeneration hnextGeneration => ?_
  refine (ensures_checkedAdd _ _).bind fun nextItemCount hnextItemCount => ?_
  subst hgeneration hitemCount hpromotedSize hnextGeneration hnextItemCount
  refine (ensures_checkSettlementRoot _ _ _ _).bind fun _ ⟨hunsettled, hmode, hbaseline⟩ => ?_
  refine (ensures_settledIntent _ _ _ _ _ _).bind fun intent hintent => .after fun _ => ?_
  refine (ensures_checkSettlementSource _ _ _ _).bind fun _ hsource => ?_
  refine (ensures_settledRemoteItem _ _ _).bind fun row ⟨hrow, hkind, hlive⟩ => ?_
  refine .check fun hsize' => .check fun hnewPath => .check fun hreceipts => ?_
  refine (ensures_settlementWrites store input.toRemoteWriteCreateSettlementFields _ rfl
    (fun catalog => catalog.insertFileReceipt input.predeterminedRemoteId
      input.promoted.relativePath promotedSize input.sha256Hex)
    (store.catalog.FileReceiptCreated ⟨input.predeterminedRemoteId, input.promoted.relativePath,
      promotedSize, input.sha256Hex, .current⟩) ?_).mono ?_
  · refine .after fun _ => (ensures_insertNew _ _).bind fun _ h => ?_
    obtain ⟨-, rfl⟩ := h
    refine .ok ⟨rfl, rfl, fun receipt hreceipt => ?_⟩
    simpa using List.any_eq_false.mp hreceipts receipt hreceipt
  · intro r ⟨hwritten, hcatalog, hunsettledSource⟩
    exact ⟨⟨hmode, hunsettled, hunsettledSource, hbaseline, ⟨intent, hintent⟩, hsource,
      by simpa using hnewPath⟩, hwritten, promotedSize, hsize, hcatalog, row, hrow, hkind, hlive,
      by simpa using hsize'⟩

/-- **A folder settlement.** -/
theorem ensures_folderSettled (store : RootStore) (input : RemoteWriteFolderCreateSettlementInput) :
    Ensures (store.settleConfirmedFolderCreate input) fun r =>
      store.SettlementReady input.toRemoteWriteCreateSettlementFields .createFolder .directory ∧
        store.SettlementWritten input.toRemoteWriteCreateSettlementFields r.1 ∧
        store.catalog.DirectoryReceiptCreated
          ⟨input.predeterminedRemoteId, input.promoted.relativePath, .current⟩ r.1.catalog ∧
        ∃ row, store.catalog.items.find? input.predeterminedRemoteId = some row ∧
          row.itemKind = .folder ∧ row.trashed = false := by
  refine (ensures_toI64 _).bind fun generation hgeneration => ?_
  refine (ensures_toI64 _).bind fun itemCount hitemCount => .after fun execution => ?_
  refine (ensures_checkedAdd _ _).bind fun nextGeneration hnextGeneration => ?_
  refine (ensures_checkedAdd _ _).bind fun nextItemCount hnextItemCount => ?_
  subst hgeneration hitemCount hnextGeneration hnextItemCount
  refine (ensures_checkSettlementRoot _ _ _ _).bind fun _ ⟨hunsettled, hmode, hbaseline⟩ => ?_
  refine (ensures_settledIntent _ _ _ _ _ _).bind fun intent hintent => ?_
  refine (ensures_checkSettlementSource _ _ _ _).bind fun _ hsource => ?_
  refine (ensures_settledRemoteItem _ _ _).bind fun row hrow => .check fun hnewPath => ?_
  refine (ensures_settlementWrites store input.toRemoteWriteCreateSettlementFields _ rfl
    (fun catalog => catalog.insertDirectoryReceipt input.predeterminedRemoteId
      input.promoted.relativePath)
    (store.catalog.DirectoryReceiptCreated ⟨input.predeterminedRemoteId, input.promoted.relativePath,
      .current⟩) ?_).mono ?_
  · refine .check fun hother => (ensures_insertNew _ _).bind fun _ h => ?_
    obtain ⟨habsent, rfl⟩ := h
    refine .ok ⟨rfl, rfl, fun receipt hreceipt => ?_⟩
    have hid := Table.find?_eq_none_iff.mp habsent receipt hreceipt
    refine ⟨hid, fun hcurrent hpath => ?_⟩
    have hnone := List.any_eq_false.mp hother receipt hreceipt
    simp [hcurrent, hpath, hid] at hnone
  · intro r ⟨hwritten, hcatalog, hunsettledSource⟩
    exact ⟨⟨hmode, hunsettled, hunsettledSource, hbaseline, ⟨intent, hintent⟩, hsource,
      by simpa using hnewPath⟩, hwritten, hcatalog, row, hrow⟩

/-- The fields of a settlement. -/
def SettlementOperation.fields : SettlementOperation → RemoteWriteCreateSettlementFields
  | .fileCreate input => input.toRemoteWriteCreateSettlementFields
  | .folderCreate input => input.toRemoteWriteCreateSettlementFields

/-- The operation of the intent a settlement is for. -/
def SettlementOperation.intentOperation : SettlementOperation → RemoteWriteIntentOperation
  | .fileCreate _ => .createFile
  | .folderCreate _ => .createFolder

/-- The kind of the item a settlement promotes. -/
def SettlementOperation.localKind : SettlementOperation → LocalItemKind
  | .fileCreate _ => .file
  | .folderCreate _ => .directory

theorem SettlementOperation.ensures_settled (store : RootStore) (op : SettlementOperation) :
    Ensures (op.apply store) fun next =>
      store.SettlementReady op.fields op.intentOperation op.localKind ∧
        store.SettlementWritten op.fields next := by
  cases op with
  | fileCreate input =>
      exact ensures_stateOf ((ensures_fileSettled store input).mono fun _ h => ⟨h.1, h.2.1⟩)
  | folderCreate input =>
      exact ensures_stateOf ((ensures_folderSettled store input).mono fun _ h => ⟨h.1, h.2.1⟩)

/-- A settlement leaves the remote side alone but for its receipt. -/
theorem SettlementOperation.ensures_remoteSide (store : RootStore) (op : SettlementOperation) :
    Ensures (op.apply store) fun next => next.remoteSide = store.remoteSide := by
  have hside : ∀ {fields next}, store.SettlementWritten fields next →
      next.catalog.items = store.catalog.items → next.catalog.itemCount = store.catalog.itemCount →
      next.remoteSide = store.remoteSide := by
    intro fields next hwritten hitems hcount
    obtain ⟨catalog, _, _, _, _, _, rfl⟩ := hwritten.frame
    show RemoteSide.mk catalog.items catalog.itemCount .. = _
    rw [show catalog.items = _ from hitems, show catalog.itemCount = _ from hcount]
    rfl
  cases op with
  | fileCreate input =>
      refine ensures_stateOf ((ensures_fileSettled store input).mono ?_)
      rintro r ⟨-, hwritten, size, -, ⟨hcatalog, -⟩, -⟩
      exact hside hwritten (by rw [hcatalog]) (by rw [hcatalog])
  | folderCreate input =>
      refine ensures_stateOf ((ensures_folderSettled store input).mono ?_)
      rintro r ⟨-, hwritten, ⟨hcatalog, -⟩, -⟩
      exact hside hwritten (by rw [hcatalog]) (by rw [hcatalog])

end NubiSync
