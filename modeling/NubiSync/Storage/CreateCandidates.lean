import NubiSync.Storage.RootHistory

set_option autoImplicit false

/-! # Candidates of the creates

A command reads the creates it works on from a listing of a status, which refuses a row that lacks a
column. An intent of a root never does: it was accepted with all of them, and no operation takes one
back. So the listings succeed in every reachable state, and have one candidate for each intent. -/

namespace NubiSync

open Checks Relation

variable {store next : RootStore} {op : RootOperation} {intent : RemoteWriteIntentRow}

/-! ## What was accepted -/

/-- Ids are counted from 1 on, and every intent has the plan of an input that was accepted. -/
structure RootStore.IntentsPlanned (store : RootStore) : Prop where
  counter : 0 < store.nextIntentId
  rows : ∀ intent ∈ store.intents.rows, 0 < intent.id ∧
    ∃ input : RemoteWriteIntentInput, intent.plan = input.plan

theorem intentsPlanned_of_inserts (hinserts : ReflTransGen IntentInsert store next)
    (hplanned : store.IntentsPlanned) : next.IntentsPlanned := by
  induction hinserts with
  | refl => exact hplanned
  | tail _ hlast ih =>
      cases hlast with
      | planned input =>
          refine ⟨Nat.succ_pos _, fun row hrow => ?_⟩
          obtain ⟨hold, -⟩ | rfl := Table.mem_upsert.mp hrow
          · exact ih.rows row hold
          · exact ⟨ih.counter, input, rfl⟩

theorem RootStore.Step.intentsPlanned (h : store.Step op next) (hplanned : store.IntentsPlanned) :
    next.IntentsPlanned := by
  cases h.intentEffect with
  | none _ _ _ hintents hid =>
      refine ⟨hplanned.counter.trans_le hid, fun intent hintent => ?_⟩
      rw [hintents] at hintent
      exact hplanned.rows intent hintent
  | inserted iop _ _ hinserted => exact intentsPlanned_of_inserts hinserted hplanned
  | moved iop _ hmoved =>
      obtain ⟨named, hnamed, moved, hmove, rfl⟩ := hmoved
      refine ⟨hplanned.counter, fun row hrow => ?_⟩
      obtain ⟨hold, -⟩ | rfl := Table.mem_upsert.mp hrow
      · exact hplanned.rows row hold
      · rw [hmove.id_eq, hmove.plan_eq]
        exact hplanned.rows named hnamed

theorem RootStore.Reaches.intentsPlanned {mode : SyncMode} (h : (RootStore.new mode).Reaches store) :
    store.IntentsPlanned := by
  refine Machine.Run.invariant (P := RootStore.IntentsPlanned) h ?_ ?_
  · refine ⟨Nat.one_pos, fun intent hintent => ?_⟩
    cases hintent
  · exact fun _ _ _ hplanned _ hstep => hstep.intentsPlanned hplanned

/-! ## Columns -/

/-- The columns that the listing of a create reads, but for the size of a file. -/
structure RemoteWriteIntentRow.HasCreateColumns (intent : RemoteWriteIntentRow) (modified : Int)
    (device inode : ℕ) (targetId parent : Text) : Prop where
  id_ne_zero : intent.id ≠ 0
  source_ne_zero : intent.sourceLocalEventId ≠ 0
  safe : isSafeRelativePath intent.relativePath = true
  modified_eq : intent.localModifiedUnixNs = some modified
  device_eq : intent.localDeviceId = some device
  inode_eq : intent.localInode = some inode
  targetId_eq : intent.predeterminedRemoteId = some targetId
  parent_eq : intent.expectedParentRemoteId = some parent
  targetId_valid : validateRemoteWriteIdentifier targetId = .ok ()
  parent_valid : validateRemoteWriteIdentifier parent = .ok ()

theorem checkCandidate_eq_ok {u : Unit} :
    intent.checkCandidate = .ok u ↔
      intent.id ≠ 0 ∧ intent.sourceLocalEventId ≠ 0 ∧ isSafeRelativePath intent.relativePath = true := by
  simp [RemoteWriteIntentRow.checkCandidate, and_assoc]

theorem fileCreateCandidate_eq_ok_iff {candidate : RemoteWriteFileCreateCandidate} :
    intent.fileCreateCandidate = .ok candidate ↔ ∃ size modified device inode targetId parent,
      intent.HasCreateColumns modified device inode targetId parent ∧ intent.localSizeBytes = some size ∧
      candidate = ⟨intent.id, intent.sourceLocalEventId, intent.baselineGeneration, intent.relativePath,
        size, modified, device, inode, targetId, parent, intent.status, intent.executionGeneration⟩ := by
  unfold RemoteWriteIntentRow.fileCreateCandidate
  simp only [bind_eq_ok, orRefuse_eq_ok, checkCandidate_eq_ok, Except.ok.injEq]
  constructor
  · rintro ⟨_, ⟨hid, hsource, hsafe⟩, size, hsize, modified, hmodified, device, hdevice, inode, hinode,
      targetId, htargetId, parent, hparent, _, hvalid, _, hvalid', rfl⟩
    exact ⟨size, modified, device, inode, targetId, parent,
      ⟨hid, hsource, hsafe, hmodified, hdevice, hinode, htargetId, hparent, hvalid, hvalid'⟩, hsize, rfl⟩
  · rintro ⟨size, modified, device, inode, targetId, parent, h, hsize, rfl⟩
    exact ⟨(), ⟨h.id_ne_zero, h.source_ne_zero, h.safe⟩, size, hsize, modified, h.modified_eq, device,
      h.device_eq, inode, h.inode_eq, targetId, h.targetId_eq, parent, h.parent_eq, (), h.targetId_valid,
      (), h.parent_valid, rfl⟩

theorem folderCreateCandidate_eq_ok_iff {candidate : RemoteWriteFolderCreateCandidate} :
    intent.folderCreateCandidate = .ok candidate ↔ ∃ modified device inode targetId parent,
      intent.HasCreateColumns modified device inode targetId parent ∧
      candidate = ⟨intent.id, intent.sourceLocalEventId, intent.baselineGeneration, intent.relativePath,
        modified, device, inode, targetId, parent, intent.status, intent.executionGeneration⟩ := by
  unfold RemoteWriteIntentRow.folderCreateCandidate
  simp only [bind_eq_ok, orRefuse_eq_ok, checkCandidate_eq_ok, Except.ok.injEq]
  constructor
  · rintro ⟨_, ⟨hid, hsource, hsafe⟩, modified, hmodified, device, hdevice, inode, hinode, targetId,
      htargetId, parent, hparent, _, hvalid, _, hvalid', rfl⟩
    exact ⟨modified, device, inode, targetId, parent,
      ⟨hid, hsource, hsafe, hmodified, hdevice, hinode, htargetId, hparent, hvalid, hvalid'⟩, rfl⟩
  · rintro ⟨modified, device, inode, targetId, parent, h, rfl⟩
    exact ⟨(), ⟨h.id_ne_zero, h.source_ne_zero, h.safe⟩, modified, h.modified_eq, device, h.device_eq,
      inode, h.inode_eq, targetId, h.targetId_eq, parent, h.parent_eq, (), h.targetId_valid, (),
      h.parent_valid, rfl⟩

/-! ## Creates of a root -/

/-- The kind of the local item that an operation creates remotely. -/
def RemoteWriteIntentOperation.createdKind? : RemoteWriteIntentOperation → Option LocalItemKind
  | .createFile => some .file
  | .createFolder => some .directory
  | _ => none

theorem operation_of_createsDirectory {operation : RemoteWriteIntentOperation}
    (h : operation.createdKind? = some .directory) : operation = .createFolder := by
  cases operation with
  | createFolder => rfl
  | _ => cases h

/-- An accepted create has a shape with all the columns of its kind. -/
theorem RemoteWriteIntentInput.createShape (input : RemoteWriteIntentInput) {kind : LocalItemKind}
    (h : input.operation.createdKind? = some kind) :
    input.localKind = kind ∧ (kind = .file → input.localSizeBytes.isSome) ∧
      input.localModifiedUnixNs.isSome ∧ input.localDeviceId.isSome ∧ input.localInode.isSome ∧
      input.predeterminedRemoteId.isSome ∧ input.expectedParentRemoteId.isSome := by
  have hchecked := input.checked
  simp only [RemoteWriteIntentFields.check, bind_eq_ok, refuseIf_eq_ok, Bool.not_eq_false'] at hchecked
  obtain ⟨_, -, _, -, _, -, _, hshape, -⟩ := hchecked
  unfold RemoteWriteIntentFields.isShape at hshape
  cases hoperation : input.operation with
  | createFile =>
      rw [hoperation] at h hshape
      obtain rfl := Option.some.inj h
      simp only [RemoteWriteIntentFields.hasFileIdentity, RemoteWriteIntentFields.isCreateShape,
        Bool.and_eq_true, beq_iff_eq] at hshape
      obtain ⟨⟨hkind, ⟨⟨hsize, hmodified⟩, hdevice⟩, hinode⟩, ⟨⟨⟨-, htarget⟩, hparent⟩, -⟩, -⟩ := hshape
      exact ⟨hkind, fun _ => hsize, hmodified, hdevice, hinode, htarget, hparent⟩
  | createFolder =>
      rw [hoperation] at h hshape
      obtain rfl := Option.some.inj h
      simp only [RemoteWriteIntentFields.hasDirectoryIdentity, RemoteWriteIntentFields.isCreateShape,
        Bool.and_eq_true, beq_iff_eq] at hshape
      obtain ⟨⟨hkind, ⟨⟨-, hmodified⟩, hdevice⟩, hinode⟩, ⟨⟨⟨-, htarget⟩, hparent⟩, -⟩, -⟩ := hshape
      exact ⟨hkind, nofun, hmodified, hdevice, hinode, htarget, hparent⟩
  | updateFile =>
      rw [hoperation] at h
      cases h
  | trashItem =>
      rw [hoperation] at h
      cases h

/-- **A create of a root has the columns of its candidate**, whatever has become of it. -/
theorem RootStore.IntentsPlanned.hasCreateColumns (h : store.IntentsPlanned)
    (hintent : intent ∈ store.intents.rows) {kind : LocalItemKind}
    (hcreate : intent.operation.createdKind? = some kind) :
    intent.localKind = kind ∧ (kind = .file → ∃ size, intent.localSizeBytes = some size) ∧
      ∃ modified device inode targetId parent,
        intent.HasCreateColumns modified device inode targetId parent := by
  obtain ⟨hid, input, hplan⟩ := h.rows intent hintent
  have hcolumn {α : Type} (column : RemoteWriteIntentFields → α) :
      column intent.plan = column input.plan := congrArg column hplan
  have hoperation : intent.operation = input.operation := hcolumn (·.operation)
  obtain ⟨hkind, hsize, hmodified, hdevice, hinode, htarget, hparent⟩ :=
    input.createShape (hoperation ▸ hcreate)
  have hchecked := input.checked
  simp only [RemoteWriteIntentFields.check, bind_eq_ok, refuseIf_eq_ok, Bool.or_eq_false_iff,
    beq_eq_false_iff_ne, Bool.not_eq_false'] at hchecked
  obtain ⟨_, ⟨⟨hsource, -⟩, hsafe⟩, -⟩ := hchecked
  obtain ⟨modified, hmodified⟩ := Option.isSome_iff_exists.mp hmodified
  obtain ⟨device, hdevice⟩ := Option.isSome_iff_exists.mp hdevice
  obtain ⟨inode, hinode⟩ := Option.isSome_iff_exists.mp hinode
  obtain ⟨targetId, htarget⟩ := Option.isSome_iff_exists.mp htarget
  obtain ⟨parent, hparent⟩ := Option.isSome_iff_exists.mp hparent
  refine ⟨(hcolumn (·.localKind)).trans hkind, ?_, modified, device, inode, targetId, parent, ?_⟩
  · intro hfile
    obtain ⟨size, hsize⟩ := Option.isSome_iff_exists.mp (hsize hfile)
    exact ⟨size, (hcolumn (·.localSizeBytes)).trans hsize⟩
  · exact {
      id_ne_zero := hid.ne'
      source_ne_zero := (hcolumn (·.sourceLocalEventId)).trans_ne hsource
      safe := (congrArg isSafeRelativePath (hcolumn (·.relativePath))).trans hsafe
      modified_eq := (hcolumn (·.localModifiedUnixNs)).trans hmodified
      device_eq := (hcolumn (·.localDeviceId)).trans hdevice
      inode_eq := (hcolumn (·.localInode)).trans hinode
      targetId_eq := (hcolumn (·.predeterminedRemoteId)).trans htarget
      parent_eq := (hcolumn (·.expectedParentRemoteId)).trans hparent
      targetId_valid := input.identifiers_valid (.inl htarget)
      parent_valid := input.identifiers_valid (.inr hparent) }

/-! ## Listings -/

/-- The rows a listing is made from. -/
theorem mem_intentsOf {operation : RemoteWriteIntentOperation} {status : RemoteWriteIntentStatus} :
    intent ∈ store.intentsOf operation status ↔
      intent ∈ store.intents.rows ∧ intent.operation = operation ∧ intent.status = status := by
  unfold RootStore.intentsOf
  rw [List.mem_insertionSort]
  simp

/-- The listing of the file creates of a root has the candidate of each intent. -/
theorem RootStore.IntentsPlanned.exists_fileCandidate (h : store.IntentsPlanned)
    (hintent : intent ∈ store.intents.rows) (hoperation : intent.operation = .createFile) :
    ∃ candidates, store.listFileCreateCandidates intent.status = .ok candidates ∧
      ∃ candidate ∈ candidates, intent.fileCreateCandidate = .ok candidate := by
  have haccepted : ∀ row ∈ store.intentsOf .createFile intent.status,
      Succeeds row.fileCreateCandidate := by
    intro row hrow
    obtain ⟨hmem, hcreate, -⟩ := mem_intentsOf.mp hrow
    have hkind : row.operation.createdKind? = some .file := congrArg _ hcreate
    obtain ⟨-, hsize, modified, device, inode, targetId, parent, hcolumns⟩ :=
      h.hasCreateColumns hmem hkind
    obtain ⟨size, hsize⟩ := hsize rfl
    exact ⟨_, fileCreateCandidate_eq_ok_iff.mpr
      ⟨size, modified, device, inode, targetId, parent, hcolumns, hsize, rfl⟩⟩
  obtain ⟨candidates, hlisted, hmem⟩ := exists_mapM_eq_ok haccepted
  have hlists := mem_intentsOf.mpr ⟨hintent, hoperation, rfl⟩
  obtain ⟨candidate, hcandidate⟩ := haccepted intent hlists
  exact ⟨candidates, hlisted, candidate, hmem intent hlists candidate hcandidate, hcandidate⟩

/-- The listing of the folder creates of a root has the candidate of each intent. -/
theorem RootStore.IntentsPlanned.exists_folderCandidate (h : store.IntentsPlanned)
    (hintent : intent ∈ store.intents.rows) (hoperation : intent.operation = .createFolder) :
    ∃ candidates, store.listFolderCreateCandidates intent.status = .ok candidates ∧
      ∃ candidate ∈ candidates, intent.folderCreateCandidate = .ok candidate := by
  have haccepted : ∀ row ∈ store.intentsOf .createFolder intent.status,
      Succeeds row.folderCreateCandidate := by
    intro row hrow
    obtain ⟨hmem, hcreate, -⟩ := mem_intentsOf.mp hrow
    have hkind : row.operation.createdKind? = some .directory := congrArg _ hcreate
    obtain ⟨-, -, modified, device, inode, targetId, parent, hcolumns⟩ :=
      h.hasCreateColumns hmem hkind
    exact ⟨_, folderCreateCandidate_eq_ok_iff.mpr
      ⟨modified, device, inode, targetId, parent, hcolumns, rfl⟩⟩
  obtain ⟨candidates, hlisted, hmem⟩ := exists_mapM_eq_ok haccepted
  have hlists := mem_intentsOf.mpr ⟨hintent, hoperation, rfl⟩
  obtain ⟨candidate, hcandidate⟩ := haccepted intent hlists
  exact ⟨candidates, hlisted, candidate, hmem intent hlists candidate hcandidate, hcandidate⟩

end NubiSync
