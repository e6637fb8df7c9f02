import NubiSync.Daemon.SettlementConditions

set_option autoImplicit false

/-! # The creates that are settled

A confirmed create is settled when its rows and the scans meet the conditions, and only then: what the
planner and the commit compare is read back as the conditions in one direction, and taken through the
checks of both in the other. -/

namespace NubiSync

open Checks

variable {store next : RootStore} {intent : RemoteWriteIntentRow}

/-! ## The remote side -/

/-- What a file settlement that succeeds has found on the remote side. -/
theorem remote_of_settleConfirmedFileCreate {input : RemoteWriteFileCreateSettlementInput}
    (h : Succeeds (store.settleConfirmedFileCreate input)) :
    store.catalog.hasCreated input.predeterminedRemoteId input.expectedParentRemoteId
        input.promoted.relativePath .file (·.sizeBytes == input.promoted.sizeBytes)
      ∧ store.catalog.holdsFileReceipt input.predeterminedRemoteId input.promoted.relativePath
        = false := by
  obtain ⟨result, h⟩ := h
  unfold RootStore.settleConfirmedFileCreate at h
  simp only [bind_eq_ok, orRefuse_eq_ok, refuseIf_eq_ok] at h
  obtain ⟨generation, -, itemCount, -, execution, -, size, hsize, promotedSize, hpromotedSize, -, -, -, -,
    -, -, intent, -, -, -, -, -, row, hrow, -, hfits, -, -, -, hfree, -⟩ := h
  refine ⟨hasCreated_of_settledRemoteItem hrow ?_, hfree⟩
  rw [(toI64_eq_ok_iff.mp hpromotedSize).2, ← hsize] at hfits
  simpa using hfits

/-- What a folder settlement that succeeds has found on the remote side. -/
theorem remote_of_settleConfirmedFolderCreate {input : RemoteWriteFolderCreateSettlementInput}
    (h : Succeeds (store.settleConfirmedFolderCreate input)) :
    store.catalog.hasCreated input.predeterminedRemoteId input.expectedParentRemoteId
        input.promoted.relativePath .folder (fun _ => true)
      ∧ store.catalog.holdsDirectoryReceipt input.predeterminedRemoteId
        input.promoted.relativePath = false := by
  obtain ⟨result, h⟩ := h
  obtain ⟨-, -, ⟨-, -, hfree⟩, -⟩ := ensures_folderSettled store input result h
  unfold RootStore.settleConfirmedFolderCreate at h
  simp only [bind_eq_ok] at h
  obtain ⟨generation, -, itemCount, -, execution, -, nextGeneration, -, nextItemCount, -, -, -, intent, -,
    -, -, row, hrow, -⟩ := h
  refine ⟨hasCreated_of_settledRemoteItem hrow rfl, ?_⟩
  rw [CatalogStore.holdsDirectoryReceipt, Bool.or_eq_false_iff]
  constructor
  · refine List.any_eq_false.mpr fun receipt hreceipt => ?_
    obtain ⟨hid, hpath⟩ := hfree receipt hreceipt
    simp only [Bool.and_eq_true, beq_iff_eq, not_and, bne_iff_ne]
    tauto
  · rw [Table.find?_eq_none_iff.mpr fun receipt hreceipt => (hfree receipt hreceipt).1]
    rfl

/-! ## Files -/

section Files

variable {candidate : RemoteWriteFileCreateCandidate} {settledAt : Int}
  {first second : List LocalItemSnapshot}
  {source : Except SelectedRootExecutorError SelectedRootFileCreateStreamResult}

theorem columns_of_fileCandidate (hmade : intent.fileCreateCandidate = .ok candidate) :
    (∃ modified device inode, intent.HasCreateColumns modified device inode
      candidate.predeterminedRemoteId candidate.expectedParentRemoteId) ∧
      candidate.intentId = intent.id ∧ candidate.relativePath = intent.relativePath ∧
      intent.localSizeBytes = some candidate.localSizeBytes := by
  obtain ⟨size, modified, device, inode, targetId, parent, hcolumns, hsize, rfl⟩ :=
    fileCreateCandidate_eq_ok_iff.mp hmade
  exact ⟨⟨modified, device, inode, hcolumns⟩, rfl, rfl, hsize⟩

theorem exists_uploaded (hmade : intent.fileCreateCandidate = .ok candidate) :
    ∃ promoted, candidate.uploaded = some promoted ∧
      promoted.relativePath = intent.relativePath ∧ intent.IsUploaded promoted := by
  obtain ⟨size, modified, device, inode, targetId, parent, hcolumns, hsize, rfl⟩ :=
    fileCreateCandidate_eq_ok_iff.mp hmade
  exact ⟨_, dif_pos hcolumns.safe, rfl, rfl, hsize.symm, hcolumns.modified_eq.symm,
    hcolumns.device_eq.symm, hcolumns.inode_eq.symm⟩

theorem metadataMatchesUploaded_iff (hmade : intent.fileCreateCandidate = .ok candidate)
    {item : LocalItemSnapshot} :
    candidate.metadataMatchesUploaded item = true ↔ intent.IsUploaded item := by
  obtain ⟨size, modified, device, inode, targetId, parent, hcolumns, hsize, rfl⟩ :=
    fileCreateCandidate_eq_ok_iff.mp hmade
  simp only [RemoteWriteFileCreateCandidate.metadataMatchesUploaded, Bool.and_eq_true, beq_iff_eq]
  constructor
  · rintro ⟨⟨⟨⟨hkind, hitemSize⟩, hmodified⟩, hdevice⟩, hinode⟩
    exact ⟨hkind, hitemSize.trans hsize.symm, hmodified ▸ hcolumns.modified_eq.symm,
      hdevice ▸ hcolumns.device_eq.symm, hinode ▸ hcolumns.inode_eq.symm⟩
  · rintro ⟨hkind, hitemSize, hmodified, hdevice, hinode⟩
    exact ⟨⟨⟨⟨hkind, hitemSize.trans hsize⟩, Option.some.inj (hmodified.trans hcolumns.modified_eq)⟩,
      Option.some.inj (hdevice.trans hcolumns.device_eq)⟩,
      Option.some.inj (hinode.trans hcolumns.inode_eq)⟩

theorem checkSource_eq_ok_iff (hmade : intent.fileCreateCandidate = .ok candidate)
    {sha256Hex : Text} {u : Unit} :
    candidate.checkSource first sha256Hex source = .ok u ↔
      ∀ item, snapshotAt first intent.relativePath = some item → intent.IsUploaded item →
        ∃ finished, source = .ok finished ∧ finished.sourceStable = true ∧
          finished.sha256Hex = sha256Hex := by
  unfold RemoteWriteFileCreateCandidate.checkSource
  rw [(columns_of_fileCandidate hmade).2.2.1]
  cases hitem : snapshotAt first intent.relativePath with
  | none => simp
  | some item =>
      rw [Option.any_some]
      simp only [Option.some.injEq, forall_eq']
      split
      · next huploaded =>
          simp only [(metadataMatchesUploaded_iff hmade).mp huploaded, forall_const, bind_eq_ok,
            refuseIf_eq_ok, Bool.or_eq_false_iff, Bool.not_eq_false', bne_eq_false_iff_eq]
      · next hother => simp [mt (metadataMatchesUploaded_iff hmade).mpr hother]

/-- What the commit of a file settlement asks for besides. -/
theorem ensures_fileSettlementFits (store : RootStore) (input : RemoteWriteFileCreateSettlementInput) :
    Ensures (store.settleConfirmedFileCreate input) fun _ =>
      input.expectedFromGeneration + 1 < 2 ^ 63 ∧ input.expectedItemCount + 1 < 2 ^ 63 ∧
        input.expectedIntentExecutionGeneration < 2 ^ 63 ∧
        (∀ size, input.promoted.sizeBytes = some size → size < 2 ^ 63) ∧
        ∀ intent, store.intents.find? input.intentId = some intent →
          intent.expectedRemoteKind = some .file := by
  intro result h
  unfold RootStore.settleConfirmedFileCreate at h
  simp only [bind_eq_ok, orRefuse_eq_ok, checkedAdd, toI64_eq_ok_iff] at h
  obtain ⟨generation, ⟨-, rfl⟩, itemCount, ⟨-, rfl⟩, execution, ⟨hexecution, -⟩, size, hsize,
    promotedSize, ⟨hsizeFits, -⟩, next, ⟨hgeneration, -⟩, nextCount, ⟨hcount, -⟩, _, -, intent, hintent,
    _, hevidence, -⟩ := h
  refine ⟨hgeneration, hcount, hexecution, fun other hother => ?_, fun other hother => ?_⟩
  · rwa [← Option.some.inj (hsize.symm.trans hother)]
  · have hfound := (ensures_settledIntent _ _ _ _ _ _ intent hintent).1
    obtain rfl := Option.some.inj (hfound.symm.trans hother)
    simp only [RemoteWriteFileCreateSettlementInput.checkEvidence, bind_eq_ok, refuseIf_eq_ok,
      Bool.or_eq_false_iff, bne_eq_false_iff_eq] at hevidence
    obtain ⟨_, -, version, -, ⟨⟨⟨⟨⟨hkind, -⟩, -⟩, -⟩, -⟩, -⟩⟩ := hevidence
    exact hkind

theorem admits_of_fileSettled (hsound : store.SettlementSound)
    (hfound : store.intents.find? intent.id = some intent)
    (hmade : intent.fileCreateCandidate = .ok candidate) {input : RemoteWriteFileCreateSettlementInput}
    (hplan : planSelectedRootConfirmedFileCreateSettlement store candidate settledAt first second source
      = .ok input)
    (hcommit : Succeeds (store.settleConfirmedFileCreate input)) :
    store.AdmitsFileSettlement intent first second source ∧
      store.catalog.hasCreated candidate.predeterminedRemoteId candidate.expectedParentRemoteId
        candidate.relativePath .file (·.sizeBytes == some candidate.localSizeBytes) ∧
      store.catalog.holdsFileReceipt candidate.predeterminedRemoteId candidate.relativePath = false := by
  have hsourceChecked := @checkSource_eq_ok_iff _ _ first source hmade
  obtain ⟨size, modified, device, inode, targetId, parent, hcolumns, hsize, rfl⟩ :=
    fileCreateCandidate_eq_ok_iff.mp hmade
  unfold planSelectedRootConfirmedFileCreateSettlement at hplan
  simp only [bind_eq_ok, orRefuse_eq_ok, refuseIf_eq_ok] at hplan
  obtain ⟨_, hmode, _, -, found, hevidence, evidence, hthere, version, hversion, _, hsizes,
    ⟨state, baseline⟩, hbaseline, event, hevent, _, hsource, _, hscan, promoted, hpromoted, _, hcontent,
    _, -, diff, hdiff, events, -, hnew⟩ := hplan
  have hfields := ensures_fromStorage (ensures_newFileInput _ _ _) input hnew
  obtain ⟨hcreated, hfree⟩ := remote_of_settleConfirmedFileCreate hcommit
  obtain ⟨result, hcommit⟩ := hcommit
  obtain ⟨hready, -⟩ := ensures_fileSettled store input result hcommit
  obtain ⟨hgeneration, hcount, hexecution, hsizeFits, hkind⟩ :=
    ensures_fileSettlementFits store input result hcommit
  rw [hfields] at hready hgeneration hcount hexecution hsizeFits hkind hcreated hfree
  subst hthere
  obtain ⟨-, hstored⟩ := (fileCreateContentEvidence_eq_some_iff hfound).mp (mapError_eq_ok.mp hevidence)
  obtain ⟨⟨hstate, hcomplete, hvalid, hstands⟩, -, hnewPath⟩ :=
    (settlementBaseline_eq_ok_iff hsound.counted).mp hbaseline
  obtain ⟨heventMem, hid, hpending⟩ := (find?_listPending_eq_some_iff hsound.eventIds).mp hevent
  simp only [Bool.or_eq_false_iff, bne_eq_false_iff_eq] at hsource hscan hsizes
  obtain ⟨uploaded, huploaded, hpath, hitem⟩ := exists_uploaded hmade
  obtain rfl := Option.some.inj (hpromoted.symm.trans huploaded)
  simp only [hpath, hitem.size.trans hsize] at hcreated hfree
  have hpromotedSize : promoted.sizeBytes = some evidence.sizeBytes :=
    hitem.size.trans (hsize.trans (congrArg some hsizes.1.symm))
  refine ⟨?_, hcreated, hfree⟩
  exact {
    creates := congrArg RemoteWriteIntentOperation.createdKind? hstored.create
    twoWay := hready.twoWay
    baseline := ⟨state, hstate, hcomplete, hvalid, hstands⟩
    newPath := hnewPath
    pending := ⟨event, heventMem, hid, hpending, hsource.1.1.2, hsource.1.1.1, hsource.2⟩
    unsettled := fun settlement hsettlement =>
      ⟨Table.find?_eq_none_iff.mp hready.unsettled settlement hsettlement,
        hready.unsettledSource settlement hsettlement⟩
    still := hscan
    distinct := (ensures_residualDiff _ _ _ _ _ diff hdiff).2.2
    generation_fits := by rwa [← hstands]
    count_fits := by
      rw [← hsound.counted, RootStore.baselineItemCount, hstate]
      exact hcount
    execution_fits := hexecution
    content := ⟨evidence, { hstored with
      localSize := hsize.trans (congrArg some hsizes.1.symm)
      size_fits := hsizeFits _ hpromotedSize
      remoteKind := hkind intent hfound
      versioned := by rw [hversion]; rfl }, hsourceChecked.mp hcontent⟩ }

theorem newFileInput_eq_ok {fields : RemoteWriteCreateSettlementFields} {sha256Hex : Text}
    {version : ℕ} (h : fields.checkFile sha256Hex version = .ok ()) :
    RemoteWriteFileCreateSettlementInput.new fields sha256Hex version
      = .ok ⟨fields, sha256Hex, version, h⟩ := by
  unfold RemoteWriteFileCreateSettlementInput.new
  split
  · rfl
  · next error herror =>
      rw [h] at herror
      cases herror

/-- A file settlement that can be made is planned, at any time. -/
theorem RootStore.AdmitsFileSettlement.planned
    (h : store.AdmitsFileSettlement intent first second source) (hsound : store.SettlementSound)
    (hfound : store.intents.find? intent.id = some intent) (hstatus : intent.status = .confirmed)
    (hmade : intent.fileCreateCandidate = .ok candidate)
    (hcreated : store.catalog.hasCreated candidate.predeterminedRemoteId
      candidate.expectedParentRemoteId candidate.relativePath .file
      (·.sizeBytes == some candidate.localSizeBytes)) (hsettledAt : 0 < settledAt) :
    ∃ input, planSelectedRootConfirmedFileCreateSettlement store candidate settledAt first second source
        = .ok input ∧
      ∃ state promoted events evidence, store.localState = some state ∧
        candidate.uploaded = some promoted ∧
        (events.map LocalChangeEventInput.relativePath).Nodup ∧
        input.toRemoteWriteCreateSettlementFields = intent.settlementFields state promoted events
          candidate.predeterminedRemoteId candidate.expectedParentRemoteId settledAt ∧
        intent.HasUploadEvidence evidence ∧ input.sha256Hex = evidence.sha256Hex ∧
        evidence.remoteVersion = some input.expectedRemoteVersion := by
  have hsourceChecked := @checkSource_eq_ok_iff _ _ first source hmade
  obtain ⟨promoted, hpromoted, hpath, hitem⟩ := exists_uploaded hmade
  obtain ⟨size, modified, device, inode, targetId, parent, hcolumns, hsize, rfl⟩ :=
    fileCreateCandidate_eq_ok_iff.mp hmade
  obtain ⟨evidence, hupload, hcontent⟩ := h.content
  obtain ⟨version, hversion⟩ := Option.isSome_iff_exists.mp hupload.versioned
  have hsame : evidence.sizeBytes = size := Option.some.inj (hupload.localSize.symm.trans hsize)
  have hnonzero : size ≠ 0 := hsame ▸ hupload.size_ne_zero
  have hversionNonzero : version ≠ 0 := by
    rintro rfl
    exact hupload.version_ne_zero hversion
  obtain ⟨state, hstate, hcomplete, hvalid, hgeneration⟩ := h.baseline
  obtain ⟨event, hevent, hid, hpending, heventKind, heventPath, hcurrent⟩ := h.pending
  have hbaselineKind := (hsound.shaped event hevent).baselineKind_of_created heventKind
  obtain ⟨diff, events, hdiff, -, hevents, hdistinct, -⟩ := @exists_residual store state first promoted
    settledAt (hgeneration ▸ h.generation_fits) (hpath ▸ h.newPath) h.distinct
  have hchecked : (intent.settlementFields state promoted events targetId parent settledAt).checkFile
      evidence.sha256Hex version = .ok () := by
    simp only [RemoteWriteCreateSettlementFields.checkFile, bind_eq_ok, refuseIf_eq_ok,
      Bool.not_eq_false', decide_eq_true_eq]
    refine ⟨(), hsound.checkCommon hstate hcolumns hitem.kind hsettledAt, (), ?_, (),
      hcolumns.parent_valid, (), receiptValues_of_valid hcolumns.targetId_valid promoted.safe
        hupload.checksum_valid, hdistinct⟩
    simp [RemoteWriteIntentRow.settlementFields, hitem.size, hsize, hnonzero, hversionNonzero]
  refine ⟨⟨_, evidence.sha256Hex, version, hchecked⟩, ?_, state, promoted, events, evidence, hstate,
    hpromoted, hdistinct, rfl, hupload, rfl, hversion⟩
  unfold planSelectedRootConfirmedFileCreateSettlement
  simp only [bind_eq_ok, orRefuse_eq_ok, refuseIf_eq_ok]
  refine ⟨(), by simp [h.twoWay], (), by simp [hstatus, hsettledAt], some evidence, ?_, evidence,
    rfl, version, hversion, (), by simp [hsame, hnonzero], (state, store.listLocalItems),
    (settlementBaseline_eq_ok_iff hsound.counted).mpr
      ⟨⟨hstate, hcomplete, hvalid, hgeneration⟩, rfl, h.newPath⟩, event,
    (find?_listPending_eq_some_iff hsound.eventIds).mpr ⟨hevent, hid, hpending⟩, (), ?_, (),
    by simp [h.still], promoted, hpromoted, (), hsourceChecked.mpr hcontent, (), ?_,
    diff, hdiff, events, hevents, congrArg fromStorage (newFileInput_eq_ok hchecked)⟩
  · rw [(fileCreateContentEvidence_eq_some_iff hfound).mpr
      ⟨hcolumns.id_ne_zero, hupload.toStoresEvidence⟩]
    rfl
  · simp [heventKind, heventPath, hcurrent, hbaselineKind]
  · rw [hsame]
    exact checkSettlementRemote_eq_ok.mpr ⟨basename_ne_nil hcolumns.safe, hcreated⟩

/-- **A file create that can be settled is**, at any time. -/
theorem RootStore.AdmitsFileSettlement.settled
    (h : store.AdmitsFileSettlement intent first second source) (hsound : store.SettlementSound)
    (hfound : store.intents.find? intent.id = some intent) (hstatus : intent.status = .confirmed)
    (hmade : intent.fileCreateCandidate = .ok candidate)
    (hcreated : store.catalog.hasCreated candidate.predeterminedRemoteId
      candidate.expectedParentRemoteId candidate.relativePath .file
      (·.sizeBytes == some candidate.localSizeBytes))
    (hfree : store.catalog.holdsFileReceipt candidate.predeterminedRemoteId candidate.relativePath
      = false) (hsettledAt : 0 < settledAt) :
    ∃ input, planSelectedRootConfirmedFileCreateSettlement store candidate settledAt first second source
        = .ok input ∧ Succeeds (store.settleConfirmedFileCreate input) := by
  obtain ⟨input, hplan, state, promoted, events, evidence, hstate, hpromoted, hdistinct, hfields, hupload,
    hsha, hversion⟩ := h.planned hsound hfound hstatus hmade hcreated hsettledAt
  refine ⟨input, hplan, ?_⟩
  obtain ⟨⟨modified, device, inode, hcolumns⟩, -, hcandidatePath, hsize⟩ := columns_of_fileCandidate hmade
  obtain ⟨uploaded, huploaded, hpath, hitem⟩ := exists_uploaded hmade
  obtain rfl := Option.some.inj (hpromoted.symm.trans huploaded)
  obtain ⟨hkind, -⟩ := hsound.planned.hasCreateColumns (Table.find?_eq_some_iff.mp hfound).1 h.creates
  obtain ⟨-, -, hgeneration, hcount, -⟩ := h.state_eq hsound hstate
  have hgenerationFits : state.generation + 1 < 2 ^ 63 := hgeneration ▸ h.generation_fits
  have hcountFits : state.itemCount + 1 < 2 ^ 63 := hcount ▸ h.count_fits
  have hpromotedSize : promoted.sizeBytes = some evidence.sizeBytes := hitem.size.trans hupload.localSize
  let fields := intent.settlementFields state promoted events candidate.predeterminedRemoteId
    candidate.expectedParentRemoteId settledAt
  have hintent : store.settledIntent fields intent.operation .file state.generation
      intent.executionGeneration = .ok intent :=
    h.settledIntent hsound hstate hfound hstatus hcolumns hkind hpath hitem.device.symm hitem.inode.symm
  rw [hupload.create] at hintent
  have hname : promoted.relativePath.basename ≠ [] := basename_ne_nil promoted.safe
  rw [hcandidatePath, ← hpath, Option.some.inj (hsize.symm.trans hupload.localSize)] at hcreated
  rw [hcandidatePath, ← hpath] at hfree
  obtain ⟨inputFields, sha256Hex, version, hchecked⟩ := input
  simp only at hfields hsha hversion
  subst hfields hsha
  obtain ⟨row, hrow, hfits⟩ := @exists_settledRemoteItem _ fields _ _ hname hcreated
  have hevidence : RemoteWriteFileCreateSettlementInput.checkEvidence ⟨fields, evidence.sha256Hex,
      version, hchecked⟩ intent evidence.sizeBytes = .ok () := by
    have hpositive : version ≠ 0 := by
      rintro rfl
      exact hupload.version_ne_zero hversion
    simp only [RemoteWriteFileCreateSettlementInput.checkEvidence, bind_eq_ok, refuseIf_eq_ok,
      orRefuse_eq_ok]
    refine ⟨(), ?_, version, hupload.version.trans hversion, ?_⟩
    · simp [fields, RemoteWriteIntentRow.settlementFields, hupload.localSize, hitem.modified]
    · simp [hupload.remoteKind, hupload.size, hupload.algorithm, hupload.checksum, hpositive]
  unfold RootStore.settleConfirmedFileCreate
  refine .bind (toI64_of_lt (Nat.lt_of_succ_lt hgenerationFits)) <|
    .bind (toI64_of_lt (Nat.lt_of_succ_lt hcountFits)) <| .bind (toI64_of_lt h.execution_fits) <|
    .present hpromotedSize <| .bind (toI64_of_lt hupload.size_fits) <|
    .bind (toI64_of_lt hgenerationFits) <| .bind (toI64_of_lt hcountFits) <|
    .bind (h.checkRoot hsound hstate) <| .bind hintent <| .bind hevidence <|
    .bind (h.checkSource hsound hstate hpath) <| .bind hrow <| .check (by simpa using hfits) <|
    .check ?_ <| .check hfree ?_
  · show (store.localItems.find? promoted.relativePath).isSome = false
    rw [hpath, h.newPath]
    rfl
  · exact h.writes hsound hstate hpath hdistinct
      (fun catalog => catalog.insertFileReceipt candidate.predeterminedRemoteId promoted.relativePath
        evidence.sizeBytes evidence.sha256Hex)
      (insertFileReceipt_of_free hfree evidence.sizeBytes evidence.sha256Hex)

/-- **When a file create is settled.** -/
theorem fileSettled_iff (hsound : store.SettlementSound)
    (hfound : store.intents.find? intent.id = some intent) (hstatus : intent.status = .confirmed)
    (hmade : intent.fileCreateCandidate = .ok candidate) :
    (∃ settledAt input, planSelectedRootConfirmedFileCreateSettlement store candidate settledAt first
        second source = .ok input ∧ Succeeds (store.settleConfirmedFileCreate input)) ↔
      store.AdmitsFileSettlement intent first second source ∧
        store.catalog.hasCreated candidate.predeterminedRemoteId candidate.expectedParentRemoteId
          candidate.relativePath .file (·.sizeBytes == some candidate.localSizeBytes) ∧
        store.catalog.holdsFileReceipt candidate.predeterminedRemoteId candidate.relativePath
          = false := by
  constructor
  · rintro ⟨settledAt, input, hplan, hcommit⟩
    exact admits_of_fileSettled hsound hfound hmade hplan hcommit
  · rintro ⟨hadmits, hcreated, hfree⟩
    exact ⟨1, hadmits.settled hsound hfound hstatus hmade hcreated hfree one_pos⟩

end Files

/-! ## Folders -/

section Folders

variable {candidate : RemoteWriteFolderCreateCandidate} {settledAt : Int}
  {first second : List LocalItemSnapshot}

theorem columns_of_folderCandidate (hmade : intent.folderCreateCandidate = .ok candidate) :
    (∃ modified, intent.HasCreateColumns modified candidate.localDeviceId candidate.localInode
      candidate.predeterminedRemoteId candidate.expectedParentRemoteId) ∧
      candidate.intentId = intent.id ∧ candidate.relativePath = intent.relativePath := by
  obtain ⟨modified, device, inode, targetId, parent, hcolumns, rfl⟩ :=
    folderCreateCandidate_eq_ok_iff.mp hmade
  exact ⟨⟨modified, hcolumns⟩, rfl, rfl⟩

/-- What the commit of a folder settlement asks for besides. -/
theorem ensures_folderSettlementFits (store : RootStore)
    (input : RemoteWriteFolderCreateSettlementInput) :
    Ensures (store.settleConfirmedFolderCreate input) fun _ =>
      input.expectedFromGeneration + 1 < 2 ^ 63 ∧ input.expectedItemCount + 1 < 2 ^ 63 ∧
        input.expectedIntentExecutionGeneration < 2 ^ 63 := by
  intro result h
  unfold RootStore.settleConfirmedFolderCreate at h
  simp only [bind_eq_ok, checkedAdd, toI64_eq_ok_iff] at h
  obtain ⟨generation, ⟨-, rfl⟩, itemCount, ⟨-, rfl⟩, execution, ⟨hexecution, -⟩, next,
    ⟨hgeneration, -⟩, nextCount, ⟨hcount, -⟩, -⟩ := h
  exact ⟨hgeneration, hcount, hexecution⟩

theorem admits_of_folderSettled (hsound : store.SettlementSound)
    (hfound : store.intents.find? intent.id = some intent)
    (hmade : intent.folderCreateCandidate = .ok candidate)
    {input : RemoteWriteFolderCreateSettlementInput}
    (hplan : planSelectedRootConfirmedFolderCreateSettlement store candidate settledAt first second
      = .ok input)
    (hcommit : Succeeds (store.settleConfirmedFolderCreate input)) :
    store.AdmitsFolderSettlement intent first second ∧
      store.catalog.hasCreated candidate.predeterminedRemoteId candidate.expectedParentRemoteId
        candidate.relativePath .folder (fun _ => true) ∧
      store.catalog.holdsDirectoryReceipt candidate.predeterminedRemoteId candidate.relativePath
        = false := by
  obtain ⟨modified, device, inode, targetId, parent, hcolumns, rfl⟩ :=
    folderCreateCandidate_eq_ok_iff.mp hmade
  unfold planSelectedRootConfirmedFolderCreateSettlement at hplan
  simp only [bind_eq_ok, orRefuse_eq_ok, refuseIf_eq_ok] at hplan
  obtain ⟨_, -, _, -, ⟨state, baseline⟩, hbaseline, _, hscan, item, hitem, _, hidentity, oldDiff, -,
    entry, -, _, -, _, -, diff, hdiff, _, -, events, -, hnew⟩ := hplan
  have hfields := ensures_fromStorage (ensures_newFolderInput _) input hnew
  obtain ⟨hcreatedItem, hfree⟩ := remote_of_settleConfirmedFolderCreate hcommit
  obtain ⟨result, hcommit⟩ := hcommit
  obtain ⟨hready, -⟩ := ensures_folderSettled store input result hcommit
  obtain ⟨hgeneration, hcount, hexecution⟩ := ensures_folderSettlementFits store input result hcommit
  rw [hfields] at hready hgeneration hcount hexecution hcreatedItem hfree
  obtain ⟨⟨hstate, hcomplete, hvalid, hstands⟩, -, hnewPath⟩ :=
    (settlementBaseline_eq_ok_iff hsound.counted).mp hbaseline
  have hitemPath : item.relativePath = intent.relativePath := by simpa using List.find?_some hitem
  simp only [hitemPath] at hcreatedItem hfree
  obtain ⟨found, hready', -, -, hoperation, -⟩ := hready.intent
  obtain rfl := Option.some.inj (hready'.symm.trans hfound)
  obtain ⟨event, hevent, hid, hpending, hcreated, hpath, hcurrent⟩ := hready.source
  simp only [Bool.or_eq_false_iff, bne_eq_false_iff_eq] at hidentity hscan
  refine ⟨?_, hcreatedItem, hfree⟩
  exact {
    creates := congrArg RemoteWriteIntentOperation.createdKind? hoperation
    twoWay := hready.twoWay
    baseline := ⟨state, hstate, hcomplete, hvalid, hstands⟩
    newPath := hnewPath
    pending := ⟨event, hevent, hid, hstands ▸ hpending, hcreated, hpath.trans hitemPath, hcurrent⟩
    unsettled := fun settlement hsettlement =>
      ⟨Table.find?_eq_none_iff.mp hready.unsettled settlement hsettlement,
        hready.unsettledSource settlement hsettlement⟩
    still := hscan
    distinct := (ensures_residualDiff _ _ _ _ _ diff hdiff).2.2
    generation_fits := by rwa [← hstands]
    count_fits := by
      rw [← hsound.counted, RootStore.baselineItemCount, hstate]
      exact hcount
    execution_fits := hexecution
    folder := ⟨item, hitem, hidentity.1.1.1, hidentity.1.2 ▸ hcolumns.device_eq,
      hidentity.2 ▸ hcolumns.inode_eq⟩ }

theorem newFolderInput_eq_ok {fields : RemoteWriteCreateSettlementFields}
    (h : fields.checkFolder = .ok ()) :
    RemoteWriteFolderCreateSettlementInput.new fields = .ok ⟨fields, h⟩ := by
  unfold RemoteWriteFolderCreateSettlementInput.new
  split
  · rfl
  · next error herror =>
      rw [h] at herror
      cases herror

/-- A folder settlement that can be made is planned, at any time. -/
theorem RootStore.AdmitsFolderSettlement.planned (h : store.AdmitsFolderSettlement intent first second)
    (hsound : store.SettlementSound) (hstatus : intent.status = .confirmed)
    (hmade : intent.folderCreateCandidate = .ok candidate)
    (hcreated : store.catalog.hasCreated candidate.predeterminedRemoteId
      candidate.expectedParentRemoteId candidate.relativePath .folder fun _ => true)
    (hsettledAt : 0 < settledAt) :
    ∃ input, planSelectedRootConfirmedFolderCreateSettlement store candidate settledAt first second
        = .ok input ∧
      ∃ state promoted events, store.localState = some state ∧
        promoted.relativePath = intent.relativePath ∧
        intent.localDeviceId = some promoted.deviceId ∧ intent.localInode = some promoted.inode ∧
        (events.map LocalChangeEventInput.relativePath).Nodup ∧
        input.toRemoteWriteCreateSettlementFields = intent.settlementFields state promoted events
          candidate.predeterminedRemoteId candidate.expectedParentRemoteId settledAt := by
  obtain ⟨modified, device, inode, targetId, parent, hcolumns, rfl⟩ :=
    folderCreateCandidate_eq_ok_iff.mp hmade
  obtain ⟨state, hstate, hcomplete, hvalid, hgeneration⟩ := h.baseline
  obtain ⟨promoted, hitem, hkind, hdevice, hinode⟩ := h.folder
  have hpath : promoted.relativePath = intent.relativePath := by simpa using List.find?_some hitem
  have hsize : promoted.sizeBytes = none := by
    have hsized := promoted.sized
    rw [hkind] at hsized
    exact Option.not_isSome_iff_eq_none.mp (by simp [hsized])
  obtain ⟨diff, events, hdiff, hentries, hevents, hdistinct, heventEntries⟩ := @exists_residual store state
    first promoted settledAt (hgeneration ▸ h.generation_fits) (hpath ▸ h.newPath) h.distinct
  obtain ⟨-, hproposed, -⟩ := ensures_residualDiff _ _ _ _ _ diff hdiff
  have hbaseline : (store.listLocalItems.map LocalItemSnapshot.relativePath).Nodup :=
    ((List.perm_insertionSort _ _).map _).nodup_iff.mpr store.localItems.nodup_keys
  -- the folder differs from the old baseline, and no longer from the proposed one
  have hsource : (diffEntries store.listLocalItems first).find? (·.relativePath == intent.relativePath)
      = some ⟨intent.relativePath, .created, none, some .directory⟩ := by
    rw [find?_diffEntries, diffEntry, snapshotAt_listLocalItems, h.newPath, hitem, ← hkind]
  have hresidual : diff.entries.any (·.relativePath == intent.relativePath) = false := by
    rw [List.any_eq_false, ← List.find?_eq_none, hentries, find?_diffEntries, diffEntry,
      snapshotAt_proposedBaseline hproposed, if_pos hpath.symm, hitem]
    simp [localSnapshotMetadataChanged, hkind]
  have hchecked : (intent.settlementFields state promoted events targetId parent settledAt).checkFolder
      = .ok () := by
    simp only [RemoteWriteCreateSettlementFields.checkFolder, bind_eq_ok, refuseIf_eq_ok]
    refine ⟨(), hsound.checkCommon hstate hcolumns hkind hsettledAt, (), ?_, (),
      hcolumns.targetId_valid, (), hcolumns.parent_valid, ?_⟩
    · rw [RemoteWriteIntentRow.settlementFields, hsize]
      rfl
    · rw [← heventEntries, List.any_map] at hresidual
      rw [RemoteWriteIntentRow.settlementFields, hpath]
      exact hresidual
  refine ⟨⟨_, hchecked⟩, ?_, state, promoted, events, hstate, hpath, hdevice, hinode, hdistinct, rfl⟩
  unfold planSelectedRootConfirmedFolderCreateSettlement
  simp only [bind_eq_ok, orRefuse_eq_ok, refuseIf_eq_ok]
  refine ⟨(), by simp [h.twoWay], (), by simp [hstatus, hsettledAt], (state, store.listLocalItems),
    (settlementBaseline_eq_ok_iff hsound.counted).mpr
      ⟨⟨hstate, hcomplete, hvalid, hgeneration⟩, rfl, h.newPath⟩, (), by simp [h.still], promoted, hitem,
    (), ?_, _, buildDiff_eq_ok _ _ hbaseline h.distinct, _, hsource, (), by simp, (),
    checkSettlementRemote_eq_ok.mpr ⟨basename_ne_nil hcolumns.safe, hcreated⟩, diff, hdiff, (), hresidual,
    events, hevents, congrArg fromStorage (newFolderInput_eq_ok hchecked)⟩
  simp [hkind, hsize, Option.some.inj (hdevice.symm.trans hcolumns.device_eq),
    Option.some.inj (hinode.symm.trans hcolumns.inode_eq)]

/-- **A folder create that can be settled is**, at any time. -/
theorem RootStore.AdmitsFolderSettlement.settled (h : store.AdmitsFolderSettlement intent first second)
    (hsound : store.SettlementSound) (hfound : store.intents.find? intent.id = some intent)
    (hstatus : intent.status = .confirmed) (hmade : intent.folderCreateCandidate = .ok candidate)
    (hcreated : store.catalog.hasCreated candidate.predeterminedRemoteId
      candidate.expectedParentRemoteId candidate.relativePath .folder fun _ => true)
    (hfree : store.catalog.holdsDirectoryReceipt candidate.predeterminedRemoteId candidate.relativePath
      = false) (hsettledAt : 0 < settledAt) :
    ∃ input, planSelectedRootConfirmedFolderCreateSettlement store candidate settledAt first second
        = .ok input ∧ Succeeds (store.settleConfirmedFolderCreate input) := by
  obtain ⟨input, hplan, state, promoted, events, hstate, hpath, hdevice, hinode, hdistinct, hfields⟩ :=
    h.planned hsound hstatus hmade hcreated hsettledAt
  refine ⟨input, hplan, ?_⟩
  obtain ⟨⟨modified, hcolumns⟩, -, hcandidatePath⟩ := columns_of_folderCandidate hmade
  obtain ⟨hkind, -⟩ := hsound.planned.hasCreateColumns (Table.find?_eq_some_iff.mp hfound).1 h.creates
  obtain ⟨-, -, hgeneration, hcount, -⟩ := h.state_eq hsound hstate
  have hgenerationFits : state.generation + 1 < 2 ^ 63 := hgeneration ▸ h.generation_fits
  have hcountFits : state.itemCount + 1 < 2 ^ 63 := hcount ▸ h.count_fits
  let fields := intent.settlementFields state promoted events candidate.predeterminedRemoteId
    candidate.expectedParentRemoteId settledAt
  have hintent : store.settledIntent fields intent.operation .directory state.generation
      intent.executionGeneration = .ok intent :=
    h.settledIntent hsound hstate hfound hstatus hcolumns hkind hpath hdevice hinode
  have hoperation : intent.operation = .createFolder := operation_of_createsDirectory h.creates
  rw [hoperation] at hintent
  rw [hcandidatePath, ← hpath] at hcreated hfree
  obtain ⟨inputFields, hchecked⟩ := input
  simp only at hfields
  subst hfields
  obtain ⟨row, hrow, -⟩ := @exists_settledRemoteItem _ fields _ _ (basename_ne_nil promoted.safe) hcreated
  unfold RootStore.settleConfirmedFolderCreate
  refine .bind (toI64_of_lt (Nat.lt_of_succ_lt hgenerationFits)) <|
    .bind (toI64_of_lt (Nat.lt_of_succ_lt hcountFits)) <| .bind (toI64_of_lt h.execution_fits) <|
    .bind (toI64_of_lt hgenerationFits) <| .bind (toI64_of_lt hcountFits) <|
    .bind (h.checkRoot hsound hstate) <| .bind hintent <|
    .bind (h.checkSource hsound hstate hpath) <| .bind hrow <| .check ?_ ?_
  · show (store.localItems.find? promoted.relativePath).isSome = false
    rw [hpath, h.newPath]
    rfl
  · exact h.writes hsound hstate hpath hdistinct
      (fun catalog => catalog.insertDirectoryReceipt candidate.predeterminedRemoteId
        promoted.relativePath) (insertDirectoryReceipt_eq_ok_iff.mpr hfree)

/-- **When a folder create is settled.** -/
theorem folderSettled_iff (hsound : store.SettlementSound)
    (hfound : store.intents.find? intent.id = some intent) (hstatus : intent.status = .confirmed)
    (hmade : intent.folderCreateCandidate = .ok candidate) :
    (∃ settledAt input, planSelectedRootConfirmedFolderCreateSettlement store candidate settledAt first
        second = .ok input ∧ Succeeds (store.settleConfirmedFolderCreate input)) ↔
      store.AdmitsFolderSettlement intent first second ∧
        store.catalog.hasCreated candidate.predeterminedRemoteId candidate.expectedParentRemoteId
          candidate.relativePath .folder (fun _ => true) ∧
        store.catalog.holdsDirectoryReceipt candidate.predeterminedRemoteId candidate.relativePath
          = false := by
  constructor
  · rintro ⟨settledAt, input, hplan, hcommit⟩
    exact admits_of_folderSettled hsound hfound hmade hplan hcommit
  · rintro ⟨hadmits, hcreated, hfree⟩
    exact ⟨1, hadmits.settled hsound hfound hstatus hmade hcreated hfree one_pos⟩

end Folders

end NubiSync
