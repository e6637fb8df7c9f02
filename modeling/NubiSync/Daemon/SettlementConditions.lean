import NubiSync.Daemon.DiffJournal
import NubiSync.Daemon.WindowCollection
import NubiSync.Storage.BaselineInvariant
import NubiSync.Storage.CreateCandidates

set_option autoImplicit false

/-! # When a confirmed create is settled

A settlement is planned on a store and two scans of the tree, and then committed. What both ask for
comes down to conditions on the rows and the scans: of the local side, that the baseline the intent was
planned on still stands, with its event pending and its path free, and of the remote side that the
catalog has the created item and no receipt is in the way. All else follows from what holds in every
state of a root. -/

namespace NubiSync

open Checks

variable {store next : RootStore} {intent : RemoteWriteIntentRow}

/-! ## The created item in the catalog -/

/-- The catalog has a created item where it was put. -/
def CatalogStore.hasCreated (catalog : CatalogStore) (targetId parent relativePath : Text)
    (kind : RemoteItemKind) (fits : CatalogRow → Bool) : Bool :=
  (catalog.items.find? targetId).any fun row => row.parentRemoteId == some parent
    && row.name == relativePath.basename && row.itemKind == kind && fits row && !row.trashed

/-- What a planner checks of the catalog. -/
theorem checkSettlementRemote_eq_ok {targetId parent relativePath : Text} {kind : RemoteItemKind}
    {fits : CatalogRow → Bool} {mismatch : SelectedRootExecutorError} :
    store.checkSettlementRemote targetId parent relativePath kind fits mismatch = .ok () ↔
      relativePath.basename ≠ [] ∧ store.catalog.hasCreated targetId parent relativePath kind fits := by
  unfold RootStore.checkSettlementRemote CatalogStore.hasCreated
  cases store.catalog.items.find? targetId with
  | none => simp [orRefuse, bind, Except.bind]
  | some row =>
      simp only [orRefuse, ok_bind, refuseIf_eq_ok, Bool.or_eq_false_iff, bne_eq_false_iff_eq,
        Bool.not_eq_false', Option.any_some, Bool.and_eq_true, beq_iff_eq, Bool.not_eq_true',
        List.isEmpty_eq_false_iff]
      tauto

theorem settledRemoteItem_eq_ok {input : RemoteWriteCreateSettlementFields} {kind : RemoteItemKind}
    {row : CatalogRow} :
    store.settledRemoteItem input kind = .ok row ↔
      input.promoted.relativePath.basename ≠ []
        ∧ store.catalog.items.find? input.predeterminedRemoteId = some row
        ∧ row.parentRemoteId = some input.expectedParentRemoteId
        ∧ row.name = input.promoted.relativePath.basename ∧ row.itemKind = kind
        ∧ row.trashed = false := by
  unfold RootStore.settledRemoteItem
  cases store.catalog.items.find? input.predeterminedRemoteId with
  | none => simp [bind_eq_ok]
  | some found =>
      simp only [orRefuse, ok_bind, refuseIf_bind_eq_ok, Bool.or_eq_false_iff, bne_eq_false_iff_eq,
        Except.ok.injEq, List.isEmpty_eq_false_iff, Option.some.injEq]
      constructor
      · rintro ⟨hname, ⟨⟨⟨hparent, hrow⟩, hkind⟩, htrashed⟩, hfound⟩
        subst hfound
        exact ⟨hname, rfl, hparent, hrow, hkind, htrashed⟩
      · rintro ⟨hname, hfound, hparent, hrow, hkind, htrashed⟩
        subst hfound
        exact ⟨hname, ⟨⟨⟨hparent, hrow⟩, hkind⟩, htrashed⟩, rfl⟩

theorem exists_settledRemoteItem {input : RemoteWriteCreateSettlementFields} {kind : RemoteItemKind}
    {fits : CatalogRow → Bool} (hname : input.promoted.relativePath.basename ≠ [])
    (hcreated : store.catalog.hasCreated input.predeterminedRemoteId input.expectedParentRemoteId
      input.promoted.relativePath kind fits) :
    ∃ row, store.settledRemoteItem input kind = .ok row ∧ fits row := by
  unfold CatalogStore.hasCreated at hcreated
  cases hrow : store.catalog.items.find? input.predeterminedRemoteId with
  | none =>
      rw [hrow] at hcreated
      cases hcreated
  | some row =>
      rw [hrow, Option.any_some] at hcreated
      simp only [Bool.and_eq_true, beq_iff_eq, Bool.not_eq_true'] at hcreated
      obtain ⟨⟨⟨⟨hparent, hrowName⟩, hkind⟩, hfit⟩, htrashed⟩ := hcreated
      exact ⟨row, settledRemoteItem_eq_ok.mpr ⟨hname, hrow, hparent, hrowName, hkind, htrashed⟩, hfit⟩

/-- The catalog a commit has found the created item in. -/
theorem hasCreated_of_settledRemoteItem {input : RemoteWriteCreateSettlementFields}
    {kind : RemoteItemKind} {row : CatalogRow} (h : store.settledRemoteItem input kind = .ok row)
    {fits : CatalogRow → Bool} (hfits : fits row) :
    store.catalog.hasCreated input.predeterminedRemoteId input.expectedParentRemoteId
      input.promoted.relativePath kind fits := by
  obtain ⟨-, hrow, hparent, hname, hkind, htrashed⟩ := settledRemoteItem_eq_ok.mp h
  unfold CatalogStore.hasCreated
  rw [hrow, Option.any_some]
  simp [hparent, hname, hkind, htrashed, hfits]

/-! ## Receipts in the way -/

/-- A receipt, of any state, that has the id or the path of a created file. -/
def CatalogStore.holdsFileReceipt (catalog : CatalogStore) (targetId relativePath : Text) : Bool :=
  catalog.fileReceipts.rows.any fun receipt =>
    receipt.remoteId == targetId || receipt.relativePath == relativePath

/-- A receipt that a created directory cannot be inserted beside: one of its id, or a current one that
    has its path. -/
def CatalogStore.holdsDirectoryReceipt (catalog : CatalogStore) (targetId relativePath : Text) :
    Bool :=
  catalog.hasOtherCurrentDirectory targetId relativePath
    || (catalog.directoryReceipts.find? targetId).isSome

theorem insertFileReceipt_of_free {catalog : CatalogStore} {targetId relativePath : Text}
    (hfree : catalog.holdsFileReceipt targetId relativePath = false) (sizeBytes : ℕ)
    (sha256Hex : Text) :
    ∃ inserted, catalog.insertFileReceipt targetId relativePath sizeBytes sha256Hex = .ok inserted := by
  unfold CatalogStore.holdsFileReceipt at hfree
  rw [List.any_eq_false] at hfree
  have hother : catalog.hasOtherCurrentFile targetId relativePath = false := by
    unfold CatalogStore.hasOtherCurrentFile
    rw [List.any_eq_false]
    intro receipt hreceipt
    have := hfree receipt hreceipt
    simp only [Bool.or_eq_true, beq_iff_eq, not_or] at this
    simp [this.2]
  have hnone : catalog.fileReceipts.find? targetId = none := by
    rw [Table.find?_eq_none_iff]
    intro receipt hreceipt
    have := hfree receipt hreceipt
    simp only [Bool.or_eq_true, beq_iff_eq, not_or] at this
    exact this.1
  unfold CatalogStore.insertFileReceipt insertNew
  rw [hother, hnone]
  exact ⟨_, rfl⟩

theorem insertDirectoryReceipt_eq_ok_iff {catalog : CatalogStore} {targetId relativePath : Text} :
    (∃ inserted, catalog.insertDirectoryReceipt targetId relativePath = .ok inserted) ↔
      catalog.holdsDirectoryReceipt targetId relativePath = false := by
  unfold CatalogStore.insertDirectoryReceipt CatalogStore.holdsDirectoryReceipt insertNew
  cases catalog.hasOtherCurrentDirectory targetId relativePath with
  | true => simp [refuseIf, bind, Except.bind]
  | false =>
      cases catalog.directoryReceipts.find? targetId with
      | none => simp [refuseIf]
      | some receipt => simp [refuseIf, bind, Except.bind]

/-! ## Conditions -/

/-- What the settlement of a create of a kind needs of the local side, on two scans in a row. -/
structure RootStore.AdmitsSettlement (store : RootStore) (intent : RemoteWriteIntentRow)
    (kind : LocalItemKind) (first second : List LocalItemSnapshot) : Prop where
  creates : intent.operation.createdKind? = some kind
  twoWay : store.mode = .twoWay
  baseline : ∃ state, store.localState = some state ∧ state.snapshotComplete = true ∧
    state.observationValid = true ∧ state.generation = intent.baselineGeneration
  newPath : store.localItems.find? intent.relativePath = none
  pending : ∃ event ∈ store.localEvents.rows, event.id = intent.sourceLocalEventId ∧
    event.isPending intent.baselineGeneration = true ∧ event.eventKind = .created ∧
    event.relativePath = intent.relativePath ∧ event.currentKind = some kind
  unsettled : ∀ settlement ∈ store.settlements.rows, settlement.intentId ≠ intent.id ∧
    settlement.sourceLocalEventId ≠ intent.sourceLocalEventId
  still : first = second
  distinct : (first.map LocalItemSnapshot.relativePath).Nodup
  generation_fits : intent.baselineGeneration + 1 < 2 ^ 63
  count_fits : store.localItems.rows.length + 1 < 2 ^ 63
  execution_fits : intent.executionGeneration < 2 ^ 63

/-- The stored evidence is that of an upload: of the planned size, with the version the provider
    answered. -/
structure RemoteWriteIntentRow.HasUploadEvidence (intent : RemoteWriteIntentRow)
    (evidence : RemoteWriteFileCreateContentEvidence) : Prop
    extends intent.StoresEvidence evidence where
  localSize : intent.localSizeBytes = some evidence.sizeBytes
  size_fits : evidence.sizeBytes < 2 ^ 63
  remoteKind : intent.expectedRemoteKind = some .file
  versioned : evidence.remoteVersion.isSome = true

/-- An item has the metadata of the file that was planned. -/
structure RemoteWriteIntentRow.IsUploaded (intent : RemoteWriteIntentRow) (item : LocalItemSnapshot) :
    Prop where
  kind : item.kind = .file
  size : item.sizeBytes = intent.localSizeBytes
  modified : some item.modifiedUnixNs = intent.localModifiedUnixNs
  device : some item.deviceId = intent.localDeviceId
  inode : some item.inode = intent.localInode

/-- What the settlement of a file create needs of the local side: there is evidence of the upload, and
    a file that still looks as it was uploaded is read, and has the uploaded content. -/
structure RootStore.AdmitsFileSettlement (store : RootStore) (intent : RemoteWriteIntentRow)
    (first second : List LocalItemSnapshot)
    (source : Except SelectedRootExecutorError SelectedRootFileCreateStreamResult) : Prop
    extends store.AdmitsSettlement intent .file first second where
  content : ∃ evidence, intent.HasUploadEvidence evidence ∧
    ∀ item, snapshotAt first intent.relativePath = some item → intent.IsUploaded item →
      ∃ finished, source = .ok finished ∧ finished.sourceStable = true ∧
        finished.sha256Hex = evidence.sha256Hex

/-- What the settlement of a folder create needs of the local side: the directory is still there. -/
structure RootStore.AdmitsFolderSettlement (store : RootStore) (intent : RemoteWriteIntentRow)
    (first second : List LocalItemSnapshot) : Prop
    extends store.AdmitsSettlement intent .directory first second where
  folder : ∃ item, snapshotAt first intent.relativePath = some item ∧ item.kind = .directory ∧
    intent.localDeviceId = some item.deviceId ∧ intent.localInode = some item.inode

/-! ## States of a root -/

/-- What the settlements rely on of the state of a root. -/
structure RootStore.SettlementSound (store : RootStore) : Prop where
  planned : store.IntentsPlanned
  generations : store.GenerationsStored
  eventIds : store.journal.FreshIds
  shaped : store.journal.Shaped
  counted : store.baselineItemCount = store.localItems.rows.length

theorem RootStore.Reaches.settlementSound {mode : SyncMode}
    (h : (RootStore.new mode).Reaches store) : store.SettlementSound where
  planned := h.intentsPlanned
  generations := h.generationsStored
  eventIds := h.idsUnique.events
  shaped := (RootStore.Reaches.journalSound h).shaped
  counted := h.baselineSound.counted

theorem RemoteOnly.admitsSettlement {kind : LocalItemKind} {first second : List LocalItemSnapshot}
    (h : RemoteOnly store next) (hadmits : store.AdmitsSettlement intent kind first second) :
    next.AdmitsSettlement intent kind first second := by
  rw [h]
  exact { hadmits with }

/-! ## Checks -/

/-- The baseline a settlement starts from, whose count is that of its rows. -/
theorem settlementBaseline_eq_ok_iff {generation : ℕ} {path : Text}
    {mismatch : SelectedRootExecutorError} {r : LocalInventoryState × List LocalItemSnapshot}
    (hcounted : store.baselineItemCount = store.localItems.rows.length) :
    store.settlementBaseline generation path mismatch = .ok r ↔
      (store.localState = some r.1 ∧ r.1.snapshotComplete = true ∧ r.1.observationValid = true ∧
        r.1.generation = generation) ∧
      r.2 = store.listLocalItems ∧ store.localItems.find? path = none := by
  have hpath : store.listLocalItems.any (·.relativePath == path) = false ↔
      store.localItems.find? path = none := by
    rw [← snapshotAt_listLocalItems, snapshotAt_eq_none_iff, List.any_eq_false]
    simp
  unfold RootStore.settlementBaseline RootStore.localInventoryState
  unfold RootStore.baselineItemCount at hcounted
  cases hstate : store.localState with
  | none => simp [refuseIf, bind, Except.bind]
  | some state =>
      have hlength : store.listLocalItems.length = state.itemCount := by
        rw [RootStore.listLocalItems, List.length_insertionSort, ← hcounted, hstate]
        rfl
      obtain ⟨state', items⟩ := r
      simp only [Option.getD_some, bind_eq_ok, refuseIf_eq_ok, Bool.or_eq_false_iff,
        bne_eq_false_iff_eq, Bool.not_eq_false', hpath, Except.ok.injEq, Prod.mk.injEq,
        Option.some.injEq]
      constructor
      · rintro ⟨_, ⟨⟨hcomplete, hvalid⟩, hgeneration⟩, _, ⟨-, hnew⟩, rfl, rfl⟩
        exact ⟨⟨rfl, hcomplete, hvalid, hgeneration⟩, rfl, hnew⟩
      · rintro ⟨⟨rfl, hcomplete, hvalid, hgeneration⟩, rfl, hnew⟩
        exact ⟨(), ⟨⟨hcomplete, hvalid⟩, hgeneration⟩, (), ⟨hlength, hnew⟩, rfl, rfl⟩

/-- The pending event of an id. -/
theorem find?_listPending_eq_some_iff (hids : store.journal.FreshIds) {id generation : ℕ}
    {event : LocalChangeEventRow} :
    (store.listPendingLocalChangeEvents generation).find? (·.id == id) = some event ↔
      event ∈ store.localEvents.rows ∧ event.id = id ∧ event.isPending generation = true := by
  have hmem : ∀ row, row ∈ store.listPendingLocalChangeEvents generation ↔
      row ∈ store.localEvents.rows ∧ row.isPending generation = true := by
    intro row
    rw [RootStore.listPendingLocalChangeEvents, List.mem_insertionSort, List.mem_filter]
  constructor
  · intro h
    obtain ⟨hrow, hpending⟩ := (hmem event).mp (List.mem_of_find?_eq_some h)
    exact ⟨hrow, by simpa using List.find?_some h, hpending⟩
  · rintro ⟨hrow, hid, hpending⟩
    obtain ⟨found, hfound⟩ : ∃ found, (store.listPendingLocalChangeEvents generation).find?
        (·.id == id) = some found := by
      refine Option.isSome_iff_exists.mp (List.find?_isSome.mpr ⟨event, ?_, by simpa using hid⟩)
      exact (hmem event).mpr ⟨hrow, hpending⟩
    have hfoundId : found.id = id := by simpa using List.find?_some hfound
    rw [hfound, hids.unique found ((hmem found).mp (List.mem_of_find?_eq_some hfound)).1 event hrow
      (hfoundId.trans hid.symm)]

theorem isBlank_of_valid {value : Text} (h : validateRemoteWriteIdentifier value = .ok ()) :
    value.isBlank = false := by
  simp only [validateRemoteWriteIdentifier, refuseIf_eq_ok, Bool.or_eq_false_iff,
    bne_eq_false_iff_eq] at h
  obtain ⟨⟨⟨hne, htrim⟩, -⟩, -⟩ := h
  rw [Text.isBlank, ← htrim]
  exact hne

theorem receiptValues_of_valid {targetId path sha256Hex : Text}
    (htarget : validateRemoteWriteIdentifier targetId = .ok ()) (hsafe : isSafeRelativePath path = true)
    (hsha : validateOptionalChecksum (some "sha256".toList) (some sha256Hex) = .ok ()) :
    validateMaterializationReceiptValues targetId path sha256Hex = .ok () := by
  have halgorithm : ("sha256".toList == "md5".toList) = false := by decide
  simp only [validateOptionalChecksum, halgorithm, refuseIf_eq_ok, Bool.not_eq_false',
    Bool.false_and, Bool.false_or, Bool.and_eq_true, beq_iff_eq] at hsha
  simp [validateMaterializationReceiptValues, isBlank_of_valid htarget, hsafe, hsha.1.2, hsha.2]

/-! ## The residual events -/

/-- A scan without the promoted item in its baseline gives a diff, and an event for each entry. -/
theorem exists_residual {state : LocalInventoryState} {current : List LocalItemSnapshot}
    {promoted : LocalItemSnapshot} (settledAt : Int) (hfits : state.generation + 1 < 2 ^ 63)
    (hnew : store.localItems.find? promoted.relativePath = none)
    (hcurrent : (current.map LocalItemSnapshot.relativePath).Nodup) :
    ∃ diff events,
      residualDiff state store.listLocalItems current promoted settledAt = .ok diff ∧
      diff.entries = diffEntries (proposedBaseline store.listLocalItems promoted) current ∧
      residualEvents diff.entries = .ok events ∧
      (events.map LocalChangeEventInput.relativePath).Nodup ∧
      events.map LocalChangeEventInput.entry = diff.entries := by
  have hperm : store.listLocalItems.Perm store.localItems.rows := List.perm_insertionSort _ _
  have hbaseline : ((proposedBaseline store.listLocalItems promoted).map
      LocalItemSnapshot.relativePath).Nodup := by
    refine ((List.perm_insertionSort _ _).map _).nodup_iff.mpr ?_
    rw [List.map_append, List.nodup_append]
    refine ⟨(hperm.map _).nodup_iff.mpr store.localItems.nodup_keys, by simp, ?_⟩
    intro path hpath other hother
    obtain ⟨item, hitem, rfl⟩ := List.mem_map.mp hpath
    rw [List.map_singleton, List.mem_singleton] at hother
    rw [hother]
    exact Table.find?_eq_none_iff.mp hnew item (hperm.mem_iff.mp hitem)
  have hdiff := buildDiff_eq_ok (state.generation + 1) (some settledAt) hbaseline hcurrent
  have haccepted : ∀ entry ∈ diffEntries (proposedBaseline store.listLocalItems promoted) current,
      ∃ event, entry.eventInput = .ok event ∧ event.entry = entry := fun entry hentry =>
    ((mem_diffEntries_iff hbaseline hcurrent entry).mp hentry).accepted
  obtain ⟨events, hevents, hentries⟩ := exists_eventInputs haccepted
  refine ⟨_, events, bind_eq_ok.mpr ⟨(), ?_, hdiff⟩, rfl, congrArg fromStorage hevents, ?_, hentries⟩
  · rw [refuseIf_eq_ok, decide_eq_false_iff_not]
    omega
  · have hpaths : ((diffEntries (proposedBaseline store.listLocalItems promoted) current).map
      SelectedRootLocalDiffEntry.relativePath).Nodup := nodup_diffPaths
    rwa [← hentries, List.map_map] at hpaths

/-- The residual events are inserted, while the journal has no row of their generation. -/
theorem succeeds_insertResidual {generation : ℕ} {events : List LocalChangeEventInput}
    (hdistinct : (events.map LocalChangeEventInput.relativePath).Nodup) (store : RootStore)
    (hfree : ∀ row ∈ store.localEvents.rows, row.baselineGeneration = generation →
      row.relativePath ∉ events.map LocalChangeEventInput.relativePath) :
    Succeeds (events.foldlM (RootStore.insertLocalChange generation) store) := by
  induction events generalizing store with
  | nil => exact .ok store
  | cons event rest ih =>
      rw [List.map_cons, List.nodup_cons] at hdistinct
      rw [List.foldlM_cons]
      have habsent : store.localEvents.find? (generation, event.relativePath) = none := by
        refine Table.find?_eq_none_iff.mpr fun row hrow hkey => ?_
        obtain ⟨hgeneration, hpath⟩ := Prod.mk.inj hkey
        exact hfree row hrow hgeneration (hpath ▸ List.mem_cons_self)
      have hinserted : RootStore.insertLocalChange generation store event = .ok _ :=
        bind_eq_ok.mpr ⟨_, insertNew_eq_ok_iff.mpr ⟨habsent, rfl⟩, rfl⟩
      refine .bind hinserted (ih hdistinct.2 _ fun row hrow hgeneration => ?_)
      obtain ⟨hold, -⟩ | rfl := Table.mem_upsert.mp hrow
      · exact fun hmem => hfree row hold hgeneration (List.mem_cons_of_mem _ hmem)
      · exact hdistinct.1

/-! ## The writes -/

/-- The journal of a settlement is written while no event is beyond the baseline. -/
theorem succeeds_settleJournal {fields : RemoteWriteCreateSettlementFields} {generation : ℕ}
    (hsource : ∃ event ∈ store.localEvents.rows, event.id = fields.sourceLocalEventId ∧
      event.isPending generation = true)
    (hknown : ∀ event ∈ store.localEvents.rows, event.baselineGeneration ≤ generation)
    (hdistinct : (fields.residualEvents.map LocalChangeEventInput.relativePath).Nodup) :
    Succeeds (store.settleJournal fields generation (generation + 1)) := by
  let applied := store.setEventStatus (fun event => event.id == fields.sourceLocalEventId
    && event.isPending generation) .applied
  let superseded := applied.setEventStatus (·.isPending generation) .superseded
  -- changes of status leave every event where it was
  have hbelow : ∀ event ∈ superseded.localEvents.rows, event.baselineGeneration ≤ generation := by
    intro event hevent
    obtain ⟨middle, hmiddle, hsame⟩ := mem_setEventStatus_generation hevent
    obtain ⟨old, hold, hsame'⟩ := mem_setEventStatus_generation hmiddle
    exact (hsame'.trans hsame) ▸ hknown old hold
  obtain ⟨journal, hjournal⟩ := succeeds_insertResidual hdistinct superseded
    fun row hrow hgeneration => absurd (hgeneration ▸ hbelow row hrow) (Nat.not_succ_le_self _)
  obtain ⟨-, hrows, -⟩ := ensures_insertResidual _ _ superseded journal hjournal
  have hcount : journal.localEvents.rows.countP (·.isPending (generation + 1))
      = fields.residualEvents.length := by
    have hold : superseded.localEvents.rows.countP (·.isPending (generation + 1)) = 0 := by
      refine List.countP_eq_zero.mpr fun event hevent hpending => ?_
      have hat := (pending_of_isPending hpending).1
      have := hbelow event hevent
      omega
    rw [hrows, List.countP_append, hold, Nat.zero_add, ← length_residualRows (generation + 1)
      superseded.nextEventId, List.countP_eq_length]
    intro row hrow
    obtain ⟨hgeneration, hstatus, -⟩ := mem_residualRows hrow
    simp [LocalChangeEventRow.isPending, hgeneration, hstatus]
  refine .check ?_ (.bind hjournal (.check (by simp [hcount]) (.ok _)))
  obtain ⟨event, hevent, hid, hpending⟩ := hsource
  rw [Bool.not_eq_false', List.any_eq_true]
  exact ⟨event, hevent, by simp [hid, hpending]⟩

/-- The settlement row of an intent and an event that have none. -/
theorem succeeds_recordSettlement {fields : RemoteWriteCreateSettlementFields}
    {generation nextGeneration itemCount : ℕ}
    (hunsettled : ∀ settlement ∈ store.settlements.rows, settlement.intentId ≠ fields.intentId ∧
      settlement.sourceLocalEventId ≠ fields.sourceLocalEventId)
    (hcount : store.localItems.rows.length = itemCount) :
    Succeeds (store.recordSettlement fields generation nextGeneration itemCount) := by
  have hfree : store.settlements.find? fields.intentId = none :=
    Table.find?_eq_none_iff.mpr fun settlement hsettlement => (hunsettled settlement hsettlement).1
  refine .check ?_ (.bind (insertNew_eq_ok_iff.mpr ⟨hfree, rfl⟩) (.check (by simp [hcount]) (.ok _)))
  refine List.any_eq_false.mpr fun settlement hsettlement => ?_
  simpa using (hunsettled settlement hsettlement).2

/-- The writes of both settlements go through once their checks have passed. -/
theorem succeeds_settlementWrites {fields : RemoteWriteCreateSettlementFields}
    {generation itemCount : ℕ} {receipt : CatalogStore → Except StorageError CatalogStore}
    (hnew : store.localItems.find? fields.promoted.relativePath = none)
    (hcount : store.localItems.rows.length = itemCount)
    (hsource : ∃ event ∈ store.localEvents.rows, event.id = fields.sourceLocalEventId ∧
      event.isPending generation = true)
    (hknown : ∀ event ∈ store.localEvents.rows, event.baselineGeneration ≤ generation)
    (hdistinct : (fields.residualEvents.map LocalChangeEventInput.relativePath).Nodup)
    (hreceipt : Succeeds (receipt store.catalog))
    (hunsettled : ∀ settlement ∈ store.settlements.rows, settlement.intentId ≠ fields.intentId ∧
      settlement.sourceLocalEventId ≠ fields.sourceLocalEventId) :
    Succeeds (do
      let promoted ← store.promoteLocalItem fields (generation + 1) (itemCount + 1)
      let (journal, superseded) ← promoted.settleJournal fields generation (generation + 1)
      let catalog ← receipt journal.catalog
      let settled ← { journal with catalog := catalog : RootStore }.recordSettlement fields
        generation (generation + 1) (itemCount + 1)
      .ok (settled, (⟨generation, generation + 1, itemCount + 1, fields.residualEvents.length,
        superseded⟩ : RemoteWriteCreateSettlementResult))) := by
  obtain ⟨promoted, hpromoted, hpromotedEvents, hpromotedCatalog, hpromotedSettlements, hlength⟩ :
      ∃ promoted, store.promoteLocalItem fields (generation + 1) (itemCount + 1) = .ok promoted ∧
        promoted.localEvents = store.localEvents ∧ promoted.catalog = store.catalog ∧
        promoted.settlements = store.settlements ∧
        promoted.localItems.rows.length = itemCount + 1 := by
    refine ⟨_, bind_eq_ok.mpr ⟨_, insertNew_eq_ok_iff.mpr ⟨hnew, rfl⟩, rfl⟩, rfl, rfl, rfl, ?_⟩
    rw [Table.rows_upsert_of_absent hnew, List.length_append, hcount, List.length_singleton]
  refine .bind hpromoted ?_
  rw [← hpromotedEvents] at hsource hknown
  obtain ⟨⟨journal, superseded⟩, hjournal⟩ := succeeds_settleJournal hsource hknown hdistinct
  refine .bind hjournal ?_
  obtain ⟨⟨localEvents, hsame⟩, -⟩ := ensures_settleJournal_rows _ _ _ _ _ hjournal
  obtain ⟨catalog, hcatalog⟩ := hreceipt
  have hjournalCatalog : journal.catalog = store.catalog :=
    (congrArg RootStore.catalog hsame).trans hpromotedCatalog
  rw [← hjournalCatalog] at hcatalog
  refine .bind hcatalog ?_
  obtain ⟨settled, hsettled⟩ : Succeeds ({ journal with catalog := catalog : RootStore }.recordSettlement
      fields generation (generation + 1) (itemCount + 1)) := by
    refine succeeds_recordSettlement ?_ ?_
    · show ∀ settlement ∈ journal.settlements.rows, _
      rwa [show journal.settlements = store.settlements from
        (congrArg RootStore.settlements hsame).trans hpromotedSettlements]
    · exact (congrArg (fun s : RootStore => s.localItems.rows.length) hsame).trans hlength
  exact .bind hsettled (.ok _)

/-! ## What a commit checks of the local side -/

/-- What a settlement of an intent commits, on a baseline. -/
def RemoteWriteIntentRow.settlementFields (intent : RemoteWriteIntentRow) (state : LocalInventoryState)
    (promoted : LocalItemSnapshot) (events : List LocalChangeEventInput) (targetId parent : Text)
    (settledAt : Int) : RemoteWriteCreateSettlementFields where
  intentId := intent.id
  sourceLocalEventId := intent.sourceLocalEventId
  expectedIntentExecutionGeneration := intent.executionGeneration
  expectedFromGeneration := state.generation
  expectedItemCount := state.itemCount
  expectedSnapshotCompletedAtUnixMs := state.snapshotCompletedAtUnixMs
  promoted := promoted
  residualEvents := events
  predeterminedRemoteId := targetId
  expectedParentRemoteId := parent
  settledAtUnixMs := settledAt

section Commit

variable {kind : LocalItemKind} {first second : List LocalItemSnapshot} {state : LocalInventoryState}
  {promoted : LocalItemSnapshot} {events : List LocalChangeEventInput} {modified : Int}
  {device inode : ℕ} {targetId parent : Text} {settledAt : Int}

theorem RootStore.AdmitsSettlement.state_eq (h : store.AdmitsSettlement intent kind first second)
    (hsound : store.SettlementSound) (hstate : store.localState = some state) :
    state.snapshotComplete = true ∧ state.observationValid = true ∧
      state.generation = intent.baselineGeneration ∧
      state.itemCount = store.localItems.rows.length ∧ store.baselineGeneration = state.generation := by
  obtain ⟨found, hfound, hcomplete, hvalid, hgeneration⟩ := h.baseline
  obtain rfl := Option.some.inj (hstate.symm.trans hfound)
  refine ⟨hcomplete, hvalid, hgeneration, ?_, ?_⟩
  · rw [← hsound.counted, RootStore.baselineItemCount, hstate]
    rfl
  · rw [RootStore.baselineGeneration, RootStore.generation?, hstate]
    rfl

/-- The part of the input that both constructors check. -/
theorem RootStore.SettlementSound.checkCommon (hsound : store.SettlementSound)
    (hstate : store.localState = some state)
    (hcolumns : intent.HasCreateColumns modified device inode targetId parent)
    (hkind : promoted.kind = kind) (hsettledAt : 0 < settledAt) :
    (intent.settlementFields state promoted events targetId parent settledAt).checkCommon kind
      = .ok () := by
  have hpositive : state.generation ≠ 0 := by
    refine (hsound.generations.baseline state.generation ?_).ne'
    rw [RootStore.generation?, hstate]
    rfl
  simp only [RemoteWriteCreateSettlementFields.checkCommon, refuseIf_eq_ok, Bool.or_eq_false_iff,
    beq_eq_false_iff_ne, bne_eq_false_iff_eq, Bool.not_eq_false', decide_eq_false_iff_not]
  exact ⟨⟨⟨⟨⟨hcolumns.id_ne_zero, hcolumns.source_ne_zero⟩, hpositive⟩, not_le.mpr hsettledAt⟩, hkind⟩,
    promoted.safe⟩

theorem RootStore.AdmitsSettlement.checkRoot (h : store.AdmitsSettlement intent kind first second)
    (hsound : store.SettlementSound) (hstate : store.localState = some state) :
    store.checkSettlementRoot (intent.settlementFields state promoted events targetId parent settledAt)
      state.generation state.itemCount = .ok () := by
  obtain ⟨hcomplete, hvalid, -, -, -⟩ := h.state_eq hsound hstate
  have hunsettled : store.settlements.find? intent.id = none :=
    Table.find?_eq_none_iff.mpr fun settlement hsettlement => (h.unsettled settlement hsettlement).1
  unfold RootStore.checkSettlementRoot
  simp [RemoteWriteIntentRow.settlementFields, hunsettled, h.twoWay, hstate, hcomplete, hvalid, orRefuse,
    refuseIf]

theorem RootStore.AdmitsSettlement.settledIntent (h : store.AdmitsSettlement intent kind first second)
    (hsound : store.SettlementSound) (hstate : store.localState = some state)
    (hfound : store.intents.find? intent.id = some intent) (hstatus : intent.status = .confirmed)
    (hcolumns : intent.HasCreateColumns modified device inode targetId parent)
    (hkind : intent.localKind = kind) (hpath : promoted.relativePath = intent.relativePath)
    (hdevice : intent.localDeviceId = some promoted.deviceId)
    (hinode : intent.localInode = some promoted.inode) :
    store.settledIntent (intent.settlementFields state promoted events targetId parent settledAt)
      intent.operation kind state.generation intent.executionGeneration = .ok intent := by
  obtain ⟨-, -, hgeneration, -, -⟩ := h.state_eq hsound hstate
  unfold RootStore.settledIntent
  simp [RemoteWriteIntentRow.settlementFields, hfound, hgeneration, hstatus, hkind, hpath, hdevice,
    hinode, hcolumns.targetId_eq, hcolumns.parent_eq, orRefuse, refuseIf]

theorem RootStore.AdmitsSettlement.checkSource (h : store.AdmitsSettlement intent kind first second)
    (hsound : store.SettlementSound) (hstate : store.localState = some state)
    (hpath : promoted.relativePath = intent.relativePath) :
    store.checkSettlementSource
      (intent.settlementFields state promoted events targetId parent settledAt) kind state.generation
      = .ok () := by
  obtain ⟨-, -, hgeneration, -, -⟩ := h.state_eq hsound hstate
  obtain ⟨event, hevent, hid, hpending, hcreated, heventPath, hcurrent⟩ := h.pending
  obtain ⟨hat, hstatus⟩ := pending_of_isPending hpending
  have hlocal : store.localEvent? intent.sourceLocalEventId = some event :=
    (localEvent?_eq_some_iff hsound.eventIds.unique).mpr ⟨hevent, hid⟩
  unfold RootStore.checkSettlementSource
  simp [RemoteWriteIntentRow.settlementFields, hlocal, hcreated, heventPath, hpath, hcurrent, hstatus,
    hat, hgeneration, orRefuse, refuseIf]

theorem RootStore.AdmitsSettlement.writes (h : store.AdmitsSettlement intent kind first second)
    (hsound : store.SettlementSound) (hstate : store.localState = some state)
    (hpath : promoted.relativePath = intent.relativePath)
    (hdistinct : (events.map LocalChangeEventInput.relativePath).Nodup)
    (receipt : CatalogStore → Except StorageError CatalogStore)
    (hreceipt : Succeeds (receipt store.catalog)) :
    let fields := intent.settlementFields state promoted events targetId parent settledAt
    Succeeds (do
      let promoted ← store.promoteLocalItem fields (state.generation + 1) (state.itemCount + 1)
      let (journal, superseded) ← promoted.settleJournal fields state.generation (state.generation + 1)
      let catalog ← receipt journal.catalog
      let settled ← { journal with catalog := catalog : RootStore }.recordSettlement fields
        state.generation (state.generation + 1) (state.itemCount + 1)
      .ok (settled, (⟨state.generation, state.generation + 1, state.itemCount + 1,
        fields.residualEvents.length, superseded⟩ : RemoteWriteCreateSettlementResult))) := by
  intro fields
  obtain ⟨-, -, hgeneration, hcount, hbaseline⟩ := h.state_eq hsound hstate
  obtain ⟨event, hevent, hid, hpending, -⟩ := h.pending
  refine succeeds_settlementWrites ?_ hcount.symm ⟨event, hevent, hid, hgeneration ▸ hpending⟩ ?_
    hdistinct hreceipt h.unsettled
  · show store.localItems.find? promoted.relativePath = none
    rw [hpath]
    exact h.newPath
  · rw [← hbaseline]
    exact hsound.generations.known

end Commit

end NubiSync
