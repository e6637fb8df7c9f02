import NubiSync.Daemon.DiffJournal
import NubiSync.Daemon.PlanSafety
import NubiSync.Storage.BaselineInvariant

set_option autoImplicit false

/-! # Planned creations can be stored

The planner, the constructor of an intent and its insert each check a creation on their own: its kind and
size, its parent and the authority over it, and the event it answers. In the state that was planned they
agree. The planner and the constructor take a size of 64 bits, and the insert one that fits the signed
integers of the database; a scan reads its sizes from the signed file sizes of the system. -/

namespace NubiSync

open Checks

variable {store : RootStore}

/-! ## What a plan is made of -/

/-- The inputs a plan is derived from are those of the store and of the scan. -/
structure RootStore.PlansFrom (store : RootStore) (current : List LocalItemSnapshot)
    (inputs : RemoteWritePlanInputs) (state : LocalInventoryState) : Prop where
  baseline : store.completeBaseline? = some state
  valid : state.observationValid = true
  events : inputs.events = store.listPendingLocalChangeEvents state.generation
  scanned : inputs.current = current
  authorities : inputs.authorities = store.listRemoteWriteAuthorities
  keys : inputs.DistinctKeys
  baselinePaths : (store.listLocalItems.map LocalItemSnapshot.relativePath).Nodup
  currentPaths : (current.map LocalItemSnapshot.relativePath).Nodup
  journal : inputs.events.map LocalChangeEventRow.entry = diffEntries store.listLocalItems current

theorem plansFrom_of_plan {remoteRootId : Option Text} {first second : List LocalItemSnapshot}
    {credential : Bool} {plan : SelectedRootRemoteWriteIntentPlan}
    (h : planSelectedRootRemoteWriteIntents store remoteRootId first second credential = .ok plan) :
    ∃ inputs state, store.PlansFrom first inputs state ∧
      plan.baselineGeneration = state.generation ∧
      plan.entries = inputs.events.map inputs.planEntry := by
  obtain ⟨state, hstate, h⟩ := (orRefuse_bind_eq_ok _ _ _ _).mp h
  obtain ⟨hvalid, h⟩ := (refuseIf_bind_eq_ok _ _ _ _).mp h
  obtain ⟨-, h⟩ := (refuseIf_bind_eq_ok _ _ _ _).mp h
  obtain ⟨-, h⟩ := (refuseIf_bind_eq_ok _ _ _ _).mp h
  obtain ⟨diff, hdiff, h⟩ := bind_eq_ok.mp h
  obtain ⟨rfl, hbaseline, hcurrent⟩ := ensures_buildDiff _ _ _ _ diff hdiff
  obtain ⟨hjournal, h⟩ := (refuseIf_bind_eq_ok _ _ _ _).mp h
  obtain ⟨root, -, h⟩ := (orRefuse_bind_eq_ok _ _ _ _).mp h
  obtain ⟨-, -, h⟩ := bind_eq_ok.mp h
  obtain ⟨fileReceipts, -, h⟩ := bind_eq_ok.mp h
  obtain ⟨directoryReceipts, -, h⟩ := bind_eq_ok.mp h
  obtain ⟨entries, hentries, h⟩ := bind_eq_ok.mp h
  obtain ⟨hkeys, rfl⟩ := RemoteWritePlanInputs.deriveEntries_eq_ok hentries
  obtain rfl := Except.ok.inj h
  refine ⟨_, state, ⟨hstate, by simpa using hvalid, rfl, rfl, rfl, hkeys, hbaseline, hcurrent, ?_⟩,
    rfl, rfl⟩
  exact (journalMatches_iff _ _).mp ((Bool.not_eq_false' _).mp hjournal)

/-- A pending creation has its item in the scan, of the kind that was journaled. -/
theorem RootStore.PlansFrom.created {current : List LocalItemSnapshot}
    {inputs : RemoteWritePlanInputs} {state : LocalInventoryState}
    (h : store.PlansFrom current inputs state) {event : LocalChangeEventRow}
    (hevent : event ∈ inputs.events) (hkind : event.eventKind = .created) :
    ∃ snapshot ∈ current, snapshot.relativePath = event.relativePath ∧
      inputs.identitySnapshot event = some snapshot ∧ event.baselineKind = none ∧
      event.currentKind = some snapshot.kind := by
  have hentry : event.entry ∈ diffEntries store.listLocalItems current :=
    h.journal ▸ List.mem_map_of_mem hevent
  have hchange := (mem_diffEntries_iff h.baselinePaths h.currentPaths _).mp hentry
  generalize hsame : event.entry = entry at hchange
  obtain ⟨hpath, hentryKind, hbaselineKind, hcurrentKind⟩ :=
    SelectedRootLocalDiffEntry.mk.inj (hsame : SelectedRootLocalDiffEntry.mk _ _ _ _ = _)
  cases hchange with
  | @created new hmem habsent =>
      refine ⟨new, hmem, hpath.symm, ?_, hbaselineKind, hcurrentKind⟩
      rw [RemoteWritePlanInputs.identitySnapshot, hkind, h.scanned, hpath]
      exact (snapshotAt_eq_some_iff h.currentPaths).mpr ⟨hmem, rfl⟩
  | deleted => cases hkind.symm.trans hentryKind
  | typeChanged => cases hkind.symm.trans hentryKind
  | modified => cases hkind.symm.trans hentryKind

/-! ## The entry of a creation -/

section Entry

variable {inputs : RemoteWritePlanInputs} {event : LocalChangeEventRow} {snapshot : LocalItemSnapshot}

theorem planEntry_created (hkind : event.eventKind = .created)
    (hsnapshot : inputs.identitySnapshot event = some snapshot) :
    inputs.planEntry event = inputs.createdEntry event snapshot
      (planEntryFromSnapshot event (planOperation event) (some snapshot)) := by
  simp [RemoteWritePlanInputs.planEntry, hkind, hsnapshot]

/-- The entry of a creation that waits for its remote id. -/
def createEntry (event : LocalChangeEventRow) (snapshot : LocalItemSnapshot) (parent : Text) :
    SelectedRootRemoteWritePlanEntry :=
  { planEntryFromSnapshot event (planOperation event) (some snapshot) with
    expectedParentRemoteId := some parent
    localKind := some snapshot.kind
    disposition := .needsPredeterminedRemoteId }

/-- An entry that waits for its id creates in a parent whose authority takes children. -/
theorem createdEntry_eq (h : (inputs.createdEntry event snapshot (planEntryFromSnapshot event
      (planOperation event) (some snapshot))).disposition = .needsPredeterminedRemoteId) :
    ∃ parent authority, inputs.authorityById parent = some authority ∧
      authority.canAddChildren = true ∧
      inputs.createdEntry event snapshot (planEntryFromSnapshot event (planOperation event)
        (some snapshot)) = createEntry event snapshot parent := by
  revert h
  unfold RemoteWritePlanInputs.createdEntry
  split
  · exact nofun
  next parent hparent =>
    intro h
    dsimp only at h ⊢
    split at h
    · next hadds =>
        obtain ⟨authority, hauthority, hcan⟩ := (Option.any_eq_true _ _).mp hadds
        exact ⟨parent, authority, hauthority, hcan, by rw [if_pos hadds]; rfl⟩
    · cases h

/-- The fields of the intent of a creation. -/
def createFields (event : LocalChangeEventRow) (snapshot : LocalItemSnapshot)
    (operation : RemoteWriteIntentOperation) (baselineGeneration : ℕ)
    (parent predeterminedRemoteId : Text) : RemoteWriteIntentFields where
  sourceLocalEventId := event.id
  baselineGeneration := baselineGeneration
  operation := operation
  relativePath := event.relativePath
  localKind := snapshot.kind
  localSizeBytes := snapshot.sizeBytes
  localModifiedUnixNs := some snapshot.modifiedUnixNs
  localDeviceId := some snapshot.deviceId
  localInode := some snapshot.inode
  targetRemoteId := none
  predeterminedRemoteId := some predeterminedRemoteId
  expectedParentRemoteId := some parent
  expectedRemoteKind := none
  expectedRemoteVersion := none
  expectedRemoteSizeBytes := none
  expectedChecksumAlgorithm := none
  expectedContentChecksum := none

/-- The operation that creates an item of a kind. -/
def createOperation : LocalItemKind → RemoteWriteIntentOperation
  | .file => .createFile
  | .directory => .createFolder

theorem planOperation_created {kind : LocalItemKind} (hkind : event.eventKind = .created)
    (hcurrent : event.currentKind = some kind) : planOperation event = some (createOperation kind) := by
  rw [planOperation, hkind, hcurrent]
  cases kind <;> rfl

/-- A file has a size and a directory has none, in the scan as in the intent. -/
theorem isShape_createFields {baselineGeneration : ℕ} {parent id : Text} :
    (createFields event snapshot (createOperation snapshot.kind) baselineGeneration parent id).isShape
      = true := by
  have hsized := snapshot.sized
  cases hkind : snapshot.kind with
  | file =>
      have hsome : snapshot.sizeBytes.isSome = true := by rw [hsized, hkind]; rfl
      simp [RemoteWriteIntentFields.isShape, RemoteWriteIntentFields.hasFileIdentity,
        RemoteWriteIntentFields.isCreateShape, createFields, createOperation, hkind, hsome]
  | directory =>
      have hnone : snapshot.sizeBytes.isSome = false := by rw [hsized, hkind]; rfl
      simp [RemoteWriteIntentFields.isShape, RemoteWriteIntentFields.hasDirectoryIdentity,
        RemoteWriteIntentFields.isCreateShape, createFields, createOperation, hkind,
        Option.isSome_eq_false_iff.mp hnone]

/-- The constructor of an intent accepts what the plan recorded. -/
theorem createFields_check {baselineGeneration : ℕ} {parent id : Text} (hid : 0 < event.id)
    (hgeneration : 0 < baselineGeneration) (hpath : snapshot.relativePath = event.relativePath)
    (hparent : validateRemoteWriteIdentifier parent = .ok ())
    (hvalid : validateRemoteWriteIdentifier id = .ok ()) :
    (createFields event snapshot (createOperation snapshot.kind) baselineGeneration parent id).check
      = .ok () := by
  have hsafe : isSafeRelativePath event.relativePath = true := hpath ▸ snapshot.safe
  refine (refuseIf_bind_eq_ok _ _ _ _).mpr ⟨?_, bind_eq_ok.mpr ⟨(), ?_, bind_eq_ok.mpr ⟨(), rfl, ?_⟩⟩⟩
  · simp [createFields, hsafe, hid.ne', hgeneration.ne']
  · -- of the three identifiers a creation has no target
    show ([id, parent].forM validateRemoteWriteIdentifier) = _
    simp [List.forM_cons, hparent, hvalid]
  · refine (refuseIf_bind_eq_ok _ _ _ _).mpr ⟨?_, rfl⟩
    rw [isShape_createFields]
    rfl

theorem createIntentInput_createEntry (hoperation : planOperation event
      = some (createOperation snapshot.kind)) {baselineGeneration : ℕ} {parent id : Text}
    (hcheck : (createFields event snapshot (createOperation snapshot.kind) baselineGeneration parent
      id).check = .ok ()) :
    (createEntry event snapshot parent).createIntentInput baselineGeneration id = .ok
      ⟨createFields event snapshot (createOperation snapshot.kind) baselineGeneration parent id,
        hcheck⟩ := by
  have hcreate : (createOperation snapshot.kind != .createFile
      && createOperation snapshot.kind != .createFolder) = false := by
    cases snapshot.kind <;> rfl
  refine (refuseIf_bind_eq_ok _ _ _ _).mpr ⟨rfl, ?_⟩
  refine (orRefuse_bind_eq_ok _ _ _ _).mpr ⟨_, hoperation, ?_⟩
  refine (refuseIf_bind_eq_ok _ _ _ _).mpr ⟨hcreate, ?_⟩
  show fromStorage (RemoteWriteIntentInput.new (createFields event snapshot
    (createOperation snapshot.kind) baselineGeneration parent id)) = _
  unfold RemoteWriteIntentInput.new
  split
  · rfl
  · next herror =>
      rw [hcheck] at herror
      cases herror

end Entry

/-! ## The insert -/

theorem matchesEvent_create {input : RemoteWriteIntentInput} {kind : LocalItemKind}
    (hoperation : input.operation = createOperation kind) {event : LocalChangeEventRow}
    (hkind : event.eventKind = .created) (hbaseline : event.baselineKind = none)
    (hcurrent : event.currentKind = some kind) : input.matchesEvent event = true := by
  unfold RemoteWriteIntentInput.matchesEvent
  rw [hoperation, hkind, hbaseline, hcurrent]
  cases kind <;> rfl

theorem checkIntentAuthority_create {input : RemoteWriteIntentInput} {kind : LocalItemKind}
    (hoperation : input.operation = createOperation kind) {parent : Text}
    (hparent : input.expectedParentRemoteId = some parent)
    {authority : RemoteWriteAuthoritySnapshot} (hfound : store.authority.find? parent = some authority)
    (hcan : authority.canAddChildren = true) : store.checkIntentAuthority input = .ok () := by
  unfold RootStore.checkIntentAuthority
  rw [hoperation]
  cases kind <;> simp [createOperation, hparent, hfound, orRefuse, refuseIf, hcan]

/-! ## Planned creations -/

/-- **Planned creations can be stored.** An entry that waits for its remote id is accepted by the
    constructor of an intent under any valid id, and the insert takes the intent in the state that was
    planned, if the event and the id are not taken. -/
theorem planned_creates_storable (store : RootStore) (hstored : store.JournalStored)
    (hmode : store.mode = .twoWay) (remoteRootId : Option Text)
    (first second : List LocalItemSnapshot)
    (hscanned : ∀ snapshot ∈ first, ∀ size ∈ snapshot.sizeBytes, size < 2 ^ 63) (credential : Bool)
    (plan : SelectedRootRemoteWriteIntentPlan)
    (hplan : planSelectedRootRemoteWriteIntents store remoteRootId first second credential = .ok plan)
    (entry : SelectedRootRemoteWritePlanEntry) (hentry : entry ∈ plan.entries)
    (hneeds : entry.disposition = .needsPredeterminedRemoteId) (id : Text)
    (hvalid : validateRemoteWriteIdentifier id = .ok ())
    (hfresh : ∀ intent ∈ store.intents.rows, intent.predeterminedRemoteId ≠ some id)
    (hunanswered : ∀ intent ∈ store.intents.rows,
      intent.sourceLocalEventId ≠ entry.sourceLocalEventId) :
    ∃ input, entry.createIntentInput plan.baselineGeneration id = .ok input ∧
      Succeeds (store.insertRemoteWriteIntent input) := by
  obtain ⟨inputs, state, hfrom, hgeneration, hentries⟩ := plansFrom_of_plan hplan
  obtain ⟨event, hevent, rfl⟩ := List.mem_map.mp (hentries ▸ hentry)
  -- the event is a pending creation, and its item is in the scan
  have hkind : event.eventKind = .created :=
    (hfrom.keys.planEntry_needsId hneeds).elim fun _ ⟨_, hcreatable, _⟩ => hcreatable.1
  obtain ⟨snapshot, hsnapshot, hpath, hidentity, hbaseline, hcurrent⟩ := hfrom.created hevent hkind
  rw [planEntry_created hkind hidentity] at hneeds hunanswered ⊢
  obtain ⟨parent, authority, hauthority, hcan, heq⟩ := createdEntry_eq hneeds
  rw [heq] at hunanswered ⊢
  have hlisted : event ∈ store.localEvents.rows ∧ event.isPending state.generation = true := by
    have hmem := hfrom.events ▸ hevent
    exact List.mem_filter.mp ((List.perm_insertionSort _ _).mem_iff.mp hmem)
  obtain ⟨hat, -⟩ := pending_of_isPending hlisted.2
  obtain ⟨hpositive, hfits⟩ := hstored.generation event hlisted.1
  rw [hat] at hpositive hfits
  -- the parent has an authority row, whose id was checked when it was stored
  obtain ⟨hauthorityMem, rfl⟩ := hfrom.keys.authorityById_eq_some_iff.mp hauthority
  have hrow : authority ∈ store.authority.rows :=
    (List.perm_insertionSort _ _).mem_iff.mp (hfrom.authorities ▸ hauthorityMem)
  have hparent : validateRemoteWriteIdentifier authority.remoteId = .ok () := by
    obtain ⟨_, hid, -⟩ := bind_eq_ok.mp authority.checked
    exact hid
  have hcheck := createFields_check (hstored.positive event hlisted.1) hpositive hpath hparent
    hvalid
  rw [hgeneration]
  refine ⟨_, createIntentInput_createEntry (planOperation_created hkind hcurrent) hcheck, ?_⟩
  refine ⟨_, insertRemoteWriteIntent_eq_ok_iff.mpr ⟨⟨by simp [hmode],
    ⟨state, hfrom.baseline, rfl, hfrom.valid⟩, ⟨event, ?_, hlisted.2, rfl, ?_⟩, ?_, hfits,
    hscanned snapshot hsnapshot, nofun, ?_⟩, rfl⟩⟩
  · exact (localEvent?_eq_some_iff hstored.unique).mpr ⟨hlisted.1, rfl⟩
  · exact matchesEvent_create rfl hkind hbaseline hcurrent
  · exact checkIntentAuthority_create rfl rfl (Table.find?_eq_some_iff.mpr ⟨hrow, rfl⟩) hcan
  · simp only [RootStore.hasIntentLike, List.any_eq_false]
    intro intent hintent
    have hevent := hunanswered intent hintent
    have hid := hfresh intent hintent
    simpa [createFields] using ⟨hevent, hid⟩

/-- A two-way root whose journal has one new file `a`. -/
def oneNewFile : List RootOperation :=
  [.inventory (.commitSnapshot (.ofChar '0')),
    .inventory (.stageWindowPage (.ofChar '0') none ⟨[], none, some (.ofChar '1')⟩),
    .inventory (.commitWindow (.ofChar '0') (.ofChar '1') 0 []),
    .localItems (.commitSnapshot 1),
    .authority (.commitSnapshot (.ofChar '1') [sampleAuthority] 1),
    .localItems (.reconcileJournal 1 0 (some 1)
      [⟨['a'], .created, none, some .file, .refl true, .refl true⟩])]

/-- A scan of that file, at a size. -/
def oneFileScan (size : ℕ) : List LocalItemSnapshot :=
  [⟨['a'], .file, some size, 1, 1, 1, .refl true, .refl true⟩]

/-- A file of 3 bytes can be stored. -/
theorem planned_creates_storable_small :
    ∃ (store : RootStore) (plan : SelectedRootRemoteWriteIntentPlan)
      (entry : SelectedRootRemoteWritePlanEntry) (input : RemoteWriteIntentInput),
      planSelectedRootRemoteWriteIntents store (some ['0']) (oneFileScan 3) (oneFileScan 3) true
        = .ok plan ∧ entry ∈ plan.entries ∧ entry.disposition = .needsPredeterminedRemoteId ∧
      entry.createIntentInput plan.baselineGeneration ['A'] = .ok input ∧
      Succeeds (store.insertRemoteWriteIntent input) := by
  have hends : ∃ store ∈ (oneNewFile.foldlM RootStore.apply (RootStore.new .twoWay)).toOption,
      store.mode = .twoWay ∧ store.intents.rows.length = 0 ∧
      ∃ plan ∈ (planSelectedRootRemoteWriteIntents store (some ['0']) (oneFileScan 3) (oneFileScan 3)
        true).toOption,
      ∃ entry ∈ plan.entries, entry.disposition = .needsPredeterminedRemoteId := by
    decide +kernel
  obtain ⟨store, hstore, hmode, hintents, plan, hplan, entry, hentry, hneeds⟩ := hends
  have hrun : (RootStore.new .twoWay).Reaches store :=
    Machine.Run.of_foldlM (fun _ _ _ => trivial) (toOption_eq_some_iff.mp hstore)
  have hnone := List.eq_nil_of_length_eq_zero hintents
  have hplanned := toOption_eq_some_iff.mp hplan
  obtain ⟨input, hinput, hstorable⟩ := planned_creates_storable store hrun.journalStored hmode _ _ _
    (by decide) _ plan hplanned entry hentry hneeds ['A'] rfl (by simp [hnone]) (by simp [hnone])
  exact ⟨store, plan, entry, input, hplanned, hentry, hneeds, hinput, hstorable⟩

end NubiSync
