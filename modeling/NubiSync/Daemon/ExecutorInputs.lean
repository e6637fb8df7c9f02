import NubiSync.Daemon.LocalFiles
import NubiSync.Sync.ConvergenceSpec

set_option autoImplicit false

/-! # What the executors read

Every executor reads the catalog, scans the local tree, plans and admits its phase before it changes
anything; the scans that the source makes one after the other for one admission give the same entries and
are one scan here. A scan that succeeds lists what the tree holds, so what is admitted is known of the
tree. -/

namespace NubiSync

open Checks Methods FileTrees

/-- The receipts of a root, as the planner takes them. -/
def RootStore.ownershipReceipts (store : RootStore) :
    Except SelectedRootExecutorError (List ReceiveOnlyOwnershipReceipt) := do
  let files ← fromStorage store.listFileReceipts
  let currentFiles ← fileOwnership .current files
  let staleFiles ← fromStorage store.listStaleFileReceipts
  let staleFiles ← fileOwnership .stale staleFiles
  let directories ← fromStorage store.listDirectoryReceipts
  let currentDirectories ← directoryOwnership .current directories
  let staleDirectories ← fromStorage store.listStaleDirectoryReceipts
  let staleDirectories ← directoryOwnership .stale staleDirectories
  .ok (currentFiles ++ staleFiles ++ currentDirectories ++ staleDirectories)

/-- Planning reads the inputs and the receipts, and plans on them. -/
theorem planSelectedRootReceiveOnlyConvergence_eq (store : RootStore) (mode : SyncMode)
    (scan : Except SelectedRootExecutorError (List LocalTreeEntry)) :
    planSelectedRootReceiveOnlyConvergence store mode scan = (do
      let (remoteItems, localEntries) ← store.materializationInputs mode scan
      let receipts ← store.ownershipReceipts
      planRootConvergence ⟨remoteItems, localEntries, receipts⟩) := by
  simp only [planSelectedRootReceiveOnlyConvergence, RootStore.ownershipReceipts, bind_assoc, ok_bind]

theorem fromMaterializationPlan_eq_ok {α : Type} {x : Except ReceiveOnlyMaterializationPlanError α} {a : α} :
    fromMaterializationPlan x = .ok a ↔ x = .ok a := by
  cases x <;> simp [fromMaterializationPlan]

/-- What a store and a tree give an executor to read. -/
structure ReadsAs (mode : SyncMode) (m : LocalNodes) (store : RootStore) (read : RootInputs) : Prop where
  inputs : store.materializationInputs mode (.ok read.localEntries) =
    .ok (read.remoteItems, read.localEntries)
  scanned : Scanned m read.localEntries
  receipts : store.ownershipReceipts = .ok read.receipts

/-- What an executor reads is what is planned on. -/
theorem ReadsAs.plan {mode : SyncMode} {m : LocalNodes} {store : RootStore} {read : RootInputs}
    (h : ReadsAs mode m store read) :
    planSelectedRootReceiveOnlyConvergence store mode (.ok read.localEntries) =
      planRootConvergence read := by
  rw [planSelectedRootReceiveOnlyConvergence_eq, h.inputs]
  simp only [ok_bind, h.receipts]

theorem ReadsAs.remoteItems {mode : SyncMode} {m : LocalNodes} {store : RootStore} {read : RootInputs}
    (h : ReadsAs mode m store read) : read.remoteItems = store.listRemoteItems := by
  have hinputs := h.inputs
  simp only [RootStore.materializationInputs, refuseIf_bind_eq_ok, ok_bind, Except.ok.injEq,
    Prod.mk.injEq] at hinputs
  exact hinputs.2.2.2.2.2.2.1.symm

/-! ## The receipts -/

theorem fromStorage_eq_ok {α : Type} {x : Except StorageError α} {a : α} :
    fromStorage x = .ok a ↔ x = .ok a := by
  cases x <;> simp [fromStorage]

/-- The path of a receipt. -/
def FileReceiptRow.path (receipt : FileReceiptRow) : LocalPath := localPath receipt.relativePath

theorem ensures_ownershipPath (remoteId relativePath : Text) (kind : LocalTreeEntryKind)
    (state : ReceiveOnlyReceiptState) :
    Ensures (ownershipReceipt remoteId relativePath kind state) (·.relativePath = relativePath) := by
  intro receipt h
  obtain ⟨-, hpath, -⟩ := ReceiveOnlyOwnershipReceipt.new_eq_ok_iff.mp (mapError_eq_ok.mp h)
  exact hpath

theorem ensures_filePaths (state : ReceiveOnlyReceiptState) (receipts : List FileReceiptRow) :
    Ensures (fileOwnership state receipts)
      (List.map ReceiveOnlyOwnershipReceipt.relativePath · = receipts.map FileReceiptRow.relativePath) :=
  .mapM (fun _ => ensures_ownershipPath _ _ _ _) receipts

theorem ensures_directoryPaths (state : ReceiveOnlyReceiptState) (receipts : List DirectoryReceiptRow) :
    Ensures (directoryOwnership state receipts)
      (List.map ReceiveOnlyOwnershipReceipt.relativePath · =
        receipts.map DirectoryReceiptRow.relativePath) :=
  .mapM (fun _ => ensures_ownershipPath _ _ _ _) receipts

/-- The lists of receipts that a planner reads, with their paths in its order. -/
structure ReceiptLists (store : RootStore) (owned : List ReceiveOnlyOwnershipReceipt)
    (staleFiles : List FileReceiptRow) (staleDirectories : List DirectoryReceiptRow) : Prop where
  files : store.listStaleFileReceipts = .ok staleFiles
  directories : store.listStaleDirectoryReceipts = .ok staleDirectories
  paths : ∃ currentFiles currentDirectories : List Text, owned.map (·.relativePath) =
    currentFiles ++ staleFiles.map (·.relativePath) ++ currentDirectories ++
      staleDirectories.map (·.relativePath)

theorem RootStore.receiptLists_of_ownership {store : RootStore} {owned : List ReceiveOnlyOwnershipReceipt}
    (h : store.ownershipReceipts = .ok owned) :
    ∃ staleFiles staleDirectories, ReceiptLists store owned staleFiles staleDirectories := by
  unfold RootStore.ownershipReceipts at h
  obtain ⟨files, -, h⟩ := bind_eq_ok.mp h
  obtain ⟨currentFiles, hcurrentFiles, h⟩ := bind_eq_ok.mp h
  obtain ⟨staleFiles, hfiles, h⟩ := bind_eq_ok.mp h
  obtain ⟨ownedFiles, hstaleFiles, h⟩ := bind_eq_ok.mp h
  obtain ⟨directories, -, h⟩ := bind_eq_ok.mp h
  obtain ⟨currentDirectories, hcurrentDirectories, h⟩ := bind_eq_ok.mp h
  obtain ⟨staleDirectories, hdirectories, h⟩ := bind_eq_ok.mp h
  obtain ⟨ownedDirectories, hstaleDirectories, h⟩ := bind_eq_ok.mp h
  refine ⟨staleFiles, staleDirectories, fromStorage_eq_ok.mp hfiles, fromStorage_eq_ok.mp hdirectories,
    currentFiles.map (·.relativePath), currentDirectories.map (·.relativePath), ?_⟩
  rw [← Except.ok.inj h, List.map_append, List.map_append, List.map_append,
    ensures_filePaths _ _ _ hstaleFiles, ensures_directoryPaths _ _ _ hstaleDirectories]

/-- What is planned on has one receipt for a path. -/
theorem RootInputs.distinct_paths {read : RootInputs} {plan : ReceiveOnlyConvergencePlan}
    (hplan : planRootConvergence read = .ok plan) :
    (read.receipts.map ReceiveOnlyOwnershipReceipt.relativePath).Nodup := by
  unfold planRootConvergence at hplan
  split at hplan
  · next plan' hplanned =>
      obtain ⟨expectedPaths, drafts, hplanned⟩ := planReceiveOnlyConvergence_ok hplanned
      exact hplanned.distinct.receipt_paths
  · cases hplan

theorem RootStore.safe_of_staleFiles {store : RootStore} {receipts : List FileReceiptRow}
    (h : store.listStaleFileReceipts = .ok receipts) :
    ∀ receipt ∈ receipts, isSafeRelativePath receipt.relativePath = true := by
  intro receipt hreceipt
  obtain ⟨_, hvalid, h⟩ := bind_eq_ok.mp h
  obtain rfl := Except.ok.inj h
  have hvalid := of_forM_eq_ok hvalid hreceipt
  simp only [validateMaterializationReceiptValues, refuseIf_eq_ok, Bool.or_eq_false_iff,
    Bool.not_eq_false'] at hvalid
  exact hvalid.1.1.2

/-- **The stale files of a root that can be planned have a path each.** -/
theorem ReadsAs.distinct_staleFiles {mode : SyncMode} {m : LocalNodes} {store : RootStore}
    {read : RootInputs} {plan : ReceiveOnlyConvergencePlan} {receipts : List FileReceiptRow}
    (h : ReadsAs mode m store read) (hplan : planRootConvergence read = .ok plan)
    (hlisted : store.listStaleFileReceipts = .ok receipts) :
    (receipts.map FileReceiptRow.path).Nodup := by
  obtain ⟨staleFiles, staleDirectories, hfiles, -, currentFiles, currentDirectories, hpaths⟩ :=
    RootStore.receiptLists_of_ownership h.receipts
  obtain rfl := Except.ok.inj (hlisted.symm.trans hfiles)
  have hdistinct := RootInputs.distinct_paths hplan
  rw [hpaths, List.append_assoc, List.append_assoc] at hdistinct
  have hdistinct := (List.nodup_append.mp (List.nodup_append.mp hdistinct).2.1).1
  have hsafe := RootStore.safe_of_staleFiles hlisted
  have hpath : receipts.map FileReceiptRow.path = (receipts.map (·.relativePath)).map localPath := by
    rw [List.map_map]
    rfl
  rw [hpath]
  refine List.Nodup.map_on (fun path hpath other hother hsame => ?_) hdistinct
  obtain ⟨receipt, hreceipt, rfl⟩ := List.mem_map.mp hpath
  obtain ⟨receipt', hreceipt', rfl⟩ := List.mem_map.mp hother
  exact localPath_injective (hsafe receipt hreceipt) (hsafe receipt' hreceipt') hsame

/-- The scan has no part in what is checked before it. -/
theorem RootStore.materializationInputs_scan {store : RootStore} {mode : SyncMode}
    {scanned scanned' : List LocalTreeEntry} {read : List RemoteItem × List LocalTreeEntry}
    (h : store.materializationInputs mode (.ok scanned) = .ok read) :
    store.materializationInputs mode (.ok scanned') = .ok (read.1, scanned') := by
  simp only [RootStore.materializationInputs, refuseIf_bind_eq_ok, ok_bind, Except.ok.injEq] at h ⊢
  obtain ⟨hmode, hsnapshot, hcatchup, hwindow, hcursor, hcount, rfl⟩ := h
  exact ⟨hmode, hsnapshot, hcatchup, hwindow, hcursor, hcount, rfl⟩

/-- An executor that fails keeps the receipts; the tree may have grown, and only after an error that is a
    leak. -/
def GivesUp (leak : LocalExecutorError → Prop) (fresh : LocalPath → Prop) (m : LocalNodes)
    (store : RootStore) (error : LocalExecutorError) (d : LocalRoot) : Prop :=
  d.store.catalog = store.catalog ∧ GrownAt fresh m d.files.node? ∧ (leak error ∨ d.files.node? = m)

theorem RootStore.catalog_invalidateBaseline (store : RootStore) :
    store.invalidateLocalObservationBaseline.1.catalog = store.catalog := by
  unfold invalidateLocalObservationBaseline
  split
  · split <;> rfl
  · rfl

theorem givesUp_of_fails {leak : LocalExecutorError → Prop} {fresh : LocalPath → Prop}
    {m : LocalNodes} {store : RootStore} {error : LocalExecutorError} {d : LocalRoot}
    (h : Fails (fun d => Looks m store d ∨ Looks m store.invalidateLocalObservationBaseline.1 d)
      leak (LeftBehind fresh m store.invalidateLocalObservationBaseline.1) error d) :
    GivesUp leak fresh m store error d := by
  have hcatalog := RootStore.catalog_invalidateBaseline store
  obtain (hd | hd) | ⟨hleak, m', hgrown, hd⟩ := h
  · exact ⟨by rw [hd.store], hd.nodes ▸ .refl _ _, .inr hd.nodes⟩
  · exact ⟨by rw [hd.store, hcatalog], hd.nodes ▸ .refl _ _, .inr hd.nodes⟩
  · exact ⟨by rw [hd.store, hcatalog], hd.nodes ▸ hgrown, .inl hleak⟩

namespace ExecutorWorld

variable (world : ExecutorWorld)

/-- `selected_root_materialization_inputs`. The catalog is read before the tree is scanned. -/
def selectedRootMaterializationInputs : LocalMethod (List RemoteItem × List LocalTreeEntry) := do
  let (remoteItems, _) ← world.query (·.materializationInputs world.mode (.ok []))
  let localEntries ← world.scanSelectedRootLocalTree
  pure (remoteItems, localEntries)

/-- The inputs of a plan, as `plan_selected_root_receive_only_convergence` reads them. -/
def readInputs : LocalMethod RootInputs := do
  let (remoteItems, localEntries) ← world.selectedRootMaterializationInputs
  let receipts ← world.query RootStore.ownershipReceipts
  pure ⟨remoteItems, localEntries, receipts⟩

/-- The inputs of an executor whose checks admit them. -/
def admittedInputs (check : RootInputs → Except SelectedRootExecutorError Unit) :
    LocalMethod RootInputs := do
  let inputs ← world.readInputs
  ofSelectedRoot (check inputs)
  pure inputs

/-- `invalidate_sync_root_local_observation_baseline`, before the first change. -/
def invalidateBaseline : LocalMethod Unit := do
  let _ ← world.transact fun store => .ok store.invalidateLocalObservationBaseline
  pure ()

section Rules

variable {world} {m : LocalNodes} {store : RootStore} {E : LocalExecutorError → LocalRoot → Prop}

theorem queryLooks_bind {α β : Type} {op : RootStore → Except SelectedRootExecutorError α}
    {next : α → LocalMethod β} {R : β → LocalRoot → Prop}
    (hfault : ∀ d, Looks m store d → E (.selectedRoot (.storage .sqlite)) d)
    (hrefused : ∀ error, op store = .error error → ∀ d, Looks m store d → E (.selectedRoot error) d)
    (hnext : ∀ value, op store = .ok value → LocalTriple (Looks m store) (next value) R E) :
    LocalTriple (Looks m store) (world.query op >>= next) R E := by
  apply query_bind hfault
  · intro d error hd herror
    rw [hd.store] at herror
    exact hrefused error herror d hd
  · intro value state hstate
    obtain ⟨hd, hvalue⟩ := hstate
    rw [hd.store] at hvalue
    exact hnext value hvalue state hd

theorem validatedSelectedRootPath_rule (hE : ∀ d, Looks m store d → E .localRootUnavailable d) :
    LocalTriple (Looks m store) world.validatedSelectedRootPath (fun _ => Looks m store) E :=
  lookOrThrow_bind (A := fun _ => True) (fun _ _ _ _ => trivial) hE fun _ _ =>
    lookOrThrow_bind (A := fun _ => True) (fun _ _ _ _ => trivial) hE fun _ _ => .pure fun _ h => h

/-- A scan leaves everything as it is, and lists the tree when it succeeds. -/
theorem scanSelectedRootLocalTree_rule (hE : ∀ error d, Looks m store d → E error d) :
    LocalTriple (Looks m store) world.scanSelectedRootLocalTree
      (fun entries d => Scanned m entries ∧ Looks m store d) E := by
  refine Triple.bind (validatedSelectedRootPath_rule (hE _)) fun _ => ?_
  refine lookOrThrow_bind_of (A := fun scan => ∃ files : FileTree FileName, files.node? = m ∧
    scan = scanLocalTree files) (fun d hd => ⟨_, rfl, d.files, hd.nodes, rfl⟩) (hE _) ?_
  rintro _ ⟨files, rfl, rfl⟩
  exact .of_bind_pure (.computed_bind (fun entries hentries => .pure fun d hd =>
    ⟨scanned_of_ok hentries, hd⟩) fun error _ => hE error)

theorem selectedRootMaterializationInputs_rule (hE : ∀ error d, Looks m store d → E error d) :
    LocalTriple (Looks m store) world.selectedRootMaterializationInputs
      (fun read d => Scanned m read.2 ∧ store.materializationInputs world.mode (.ok read.2) = .ok read ∧
        Looks m store d) E := by
  refine queryLooks_bind (hE _) (fun error _ => hE _) ?_
  rintro ⟨remoteItems, scanned⟩ hinputs
  refine Triple.bind (scanSelectedRootLocalTree_rule hE) fun entries => .fact fun hscanned => ?_
  exact .pure fun d hd => ⟨hscanned, RootStore.materializationInputs_scan hinputs, hd⟩

theorem readInputs_rule (hE : ∀ error d, Looks m store d → E error d) :
    LocalTriple (Looks m store) world.readInputs
      (fun read d => ReadsAs world.mode m store read ∧ Looks m store d) E := by
  refine Triple.bind (selectedRootMaterializationInputs_rule hE) ?_
  rintro ⟨remoteItems, localEntries⟩
  refine .fact fun hscanned => .fact fun hinputs => ?_
  exact queryLooks_bind (hE _) (fun error _ => hE _) fun receipts hreceipts =>
    .pure fun d hd => ⟨⟨hinputs, hscanned, hreceipts⟩, hd⟩

theorem admittedInputs_rule {check : RootInputs → Except SelectedRootExecutorError Unit}
    (hE : ∀ error d, Looks m store d → E error d) :
    LocalTriple (Looks m store) (world.admittedInputs check)
      (fun read d => ReadsAs world.mode m store read ∧ check read = .ok () ∧ Looks m store d) E := by
  refine Triple.bind (readInputs_rule hE) fun read => .fact fun hread => ?_
  exact ofSelectedRoot_bind (fun _ hadmitted => .pure fun d hd => ⟨hread, hadmitted, hd⟩)
    fun error _ => hE _

theorem invalidateBaseline_rule
    (hE : ∀ d, Looks m store d → E (.selectedRoot (.storage .sqlite)) d) :
    LocalTriple (Looks m store) world.invalidateBaseline
      (fun _ => Looks m store.invalidateLocalObservationBaseline.1) E := by
  refine transact_bind (S := fun _ => Looks m store.invalidateLocalObservationBaseline.1)
    (fun d store' value hd hdone => ?_) hE (fun d error _ herror => by cases herror)
    fun _ => .pure fun _ h => h
  have hstore := congrArg Prod.fst (Except.ok.inj hdone)
  rw [hd.store] at hstore
  exact ⟨hd.nodes, hstore.symm⟩

end Rules

end ExecutorWorld

/-! ## A world to run in -/

/-- The SHA-256 of no bytes. -/
def emptySha256Hex : Text :=
  ['e', '3', 'b', '0', 'c', '4', '4', '2', '9', '8', 'f', 'c', '1', 'c', '1', '4',
    '9', 'a', 'f', 'b', 'f', '4', 'c', '8', '9', '9', '6', 'f', 'b', '9', '2', '4',
    '2', '7', 'a', 'e', '4', '1', 'e', '4', '6', '4', '9', 'b', '9', '3', '4', 'c',
    'a', '4', '9', '5', '9', '9', '1', 'b', '7', '8', '5', '2', 'b', '8', '5', '5']

/-- A hash that tells the empty file from the others. -/
def emptyFileHash : Sha256 where
  Hasher := List UInt8
  new := []
  update := (· ++ ·)
  finalizeHex bytes := if bytes.isEmpty then emptySha256Hex else List.replicate 64 '0'
  sha256Hex bytes := if bytes.isEmpty then emptySha256Hex else List.replicate 64 '0'
  streams chunks := by
    have hfed : ∀ (fed : List UInt8) (chunks : List (List UInt8)),
        chunks.foldl (· ++ ·) fed = fed ++ chunks.flatten := by
      intro fed chunks
      induction chunks generalizing fed with
      | nil => simp
      | cons chunk rest ih => simp [ih]
    rw [hfed, List.nil_append]

/-- No call fails, and the provider has the empty file. -/
def emptyFileWorld : ExecutorWorld where
  sha256 := emptyFileHash
  mode := .receiveOnly
  processId := 1
  fails _ := false
  now _ := 0
  contentFingerprint _ _ := .ok ⟨0, emptySha256Hex⟩
  downloadFileContent _ _ _ := ⟨[], .ok 0⟩

/-- The calls with these numbers fail. -/
def failingWorld (fails : ℕ → Bool) : ExecutorWorld := { emptyFileWorld with fails := fails }

/-- The state of a process before its first call. -/
def startOn (files : FileTree FileName) (store : RootStore) : ExecutorState := ⟨⟨files, store⟩, 0, 0⟩

end NubiSync
