import NubiSync.Cli.CommandRuns
import NubiSync.Cli.ConfirmationCuts
import NubiSync.Daemon.SettledCreates

set_option autoImplicit false

/-! # Confirmed creates under metadata refreshes

A metadata refresh is refused while a create is submitted or awaits its confirmation, but not while a
confirmed one waits for its settlement. What other clients did to the created item is then committed to
the catalog, and the settlement, which compares the catalog with what was created, is refused from then
on: the intent stays confirmed, and nothing moves it on. -/

namespace NubiSync

open Checks Transactions

/-! ## Settling a confirmed create -/

/-- What a settlement reads of the file system: two scans in a row, and the content of the file. -/
structure LocalScan where
  first : List LocalItemSnapshot
  second : List LocalItemSnapshot
  source : Except SelectedRootExecutorError SelectedRootFileCreateStreamResult

/-- The planner and the commit of a settlement succeed for the confirmed create of an id. -/
def RootStore.Settleable (store : RootStore) (kind : CreateKind) (intentId : ℕ) (scan : LocalScan) :
    Prop :=
  match kind with
  | .file => ∃ candidates, ∃ candidate ∈ candidates, ∃ settledAt input,
      store.listFileCreateCandidates .confirmed = .ok candidates ∧ candidate.intentId = intentId
        ∧ planSelectedRootConfirmedFileCreateSettlement store candidate settledAt scan.first
          scan.second scan.source = .ok input
        ∧ Succeeds (store.settleConfirmedFileCreate input)
  | .folder => ∃ candidates, ∃ candidate ∈ candidates, ∃ settledAt input,
      store.listFolderCreateCandidates .confirmed = .ok candidates ∧ candidate.intentId = intentId
        ∧ planSelectedRootConfirmedFolderCreateSettlement store candidate settledAt scan.first
          scan.second = .ok input
        ∧ Succeeds (store.settleConfirmedFolderCreate input)

/-- The created item of an intent is in the catalog, with the parent, the name and the kind it was
    created with, and a file with the size it was uploaded with. -/
def RemoteWriteIntentRow.isCatalogued (intent : RemoteWriteIntentRow) (kind : CreateKind)
    (store : RootStore) : Bool :=
  match intent.predeterminedRemoteId, intent.expectedParentRemoteId with
  | some targetId, some parent =>
      store.catalog.hasCreated targetId parent intent.relativePath kind.remoteKind
        fun row => kind == .folder || row.sizeBytes == intent.localSizeBytes
  | _, _ => false

/-- No receipt is in the way of the one that the settlement inserts. -/
def RemoteWriteIntentRow.isUnclaimed (intent : RemoteWriteIntentRow) (kind : CreateKind)
    (store : RootStore) : Bool :=
  intent.predeterminedRemoteId.any fun targetId =>
    match kind with
    | .file => !store.catalog.holdsFileReceipt targetId intent.relativePath
    | .folder => !store.catalog.holdsDirectoryReceipt targetId intent.relativePath

/-- What a settlement needs of the local side: of the baseline, the journal, the settlements and the
    evidence of the intent, and of the scans. -/
def RootStore.AdmitsLocally (store : RootStore) (kind : CreateKind) (intent : RemoteWriteIntentRow)
    (scan : LocalScan) : Prop :=
  match kind with
  | .file => store.AdmitsFileSettlement intent scan.first scan.second scan.source
  | .folder => store.AdmitsFolderSettlement intent scan.first scan.second

/-! ## When a settlement succeeds -/

variable {store next : RootStore} {intent : RemoteWriteIntentRow} {kind : CreateKind}
  {scan : LocalScan}

/-- No refresh changes the local side. -/
theorem RemoteOnly.admitsLocally_iff (h : RemoteOnly store next) :
    next.AdmitsLocally kind intent scan ↔ store.AdmitsLocally kind intent scan := by
  have hkeeps : ∀ {store next : RootStore}, RemoteOnly store next →
      store.AdmitsLocally kind intent scan → next.AdmitsLocally kind intent scan := by
    intro store next hremote hadmits
    cases kind with
    | file => exact { hremote.admitsSettlement hadmits.toAdmitsSettlement with content := hadmits.content }
    | folder => exact { hremote.admitsSettlement hadmits.toAdmitsSettlement with folder := hadmits.folder }
  exact ⟨hkeeps h.symm, hkeeps h⟩

/-- The intent that a listed candidate was read from. -/
theorem made_of_listed {α : Type} {make : RemoteWriteIntentRow → Except StorageError α}
    {candidateId : α → ℕ} (hmake : ∀ row candidate, make row = .ok candidate → candidateId candidate = row.id)
    {operation : RemoteWriteIntentOperation} {status : RemoteWriteIntentStatus} {candidates : List α}
    {candidate : α} (hintent : store.intents.find? intent.id = some intent)
    (hlisted : (store.intentsOf operation status).mapM make = .ok candidates)
    (hcandidate : candidate ∈ candidates) (hid : candidateId candidate = intent.id) :
    make intent = .ok candidate := by
  obtain ⟨row, hrow, hmade⟩ := mem_of_mapM_eq_ok hlisted hcandidate
  have hsame := (hmake row candidate hmade).symm.trans hid
  obtain rfl := store.intents.eq_of_key (mem_intentsOf.mp hrow).1 (Table.find?_eq_some_iff.mp hintent).1
    hsame
  exact hmade

/-- **When a confirmed create is settled**: its local side admits it, the catalog has the created item,
    and no receipt is in the way. -/
theorem settleable_iff (hsound : store.SettlementSound)
    (hintent : store.intents.find? intent.id = some intent) (hconfirmed : intent.status = .confirmed) :
    store.Settleable kind intent.id scan ↔
      store.AdmitsLocally kind intent scan ∧ intent.isCatalogued kind store
        ∧ intent.isUnclaimed kind store := by
  cases kind with
  | file =>
      have hconditions : ∀ candidate, intent.fileCreateCandidate = .ok candidate →
          ((∃ settledAt input, planSelectedRootConfirmedFileCreateSettlement store candidate settledAt
            scan.first scan.second scan.source = .ok input
            ∧ Succeeds (store.settleConfirmedFileCreate input)) ↔
          store.AdmitsFileSettlement intent scan.first scan.second scan.source
            ∧ intent.isCatalogued .file store ∧ intent.isUnclaimed .file store) := by
        intro candidate hmade
        obtain ⟨⟨modified, device, inode, hcolumns⟩, -, hpath, hsize⟩ := columns_of_fileCandidate hmade
        have hkind : (CreateKind.file == CreateKind.folder) = false := rfl
        rw [fileSettled_iff hsound hintent hconfirmed hmade, hpath, ← hsize]
        simp [RemoteWriteIntentRow.isCatalogued, RemoteWriteIntentRow.isUnclaimed,
          hcolumns.targetId_eq, hcolumns.parent_eq, CreateKind.remoteKind, hkind]
      constructor
      · rintro ⟨candidates, candidate, hcandidate, settledAt, input, hlisted, hid, hplan, hsettles⟩
        refine (hconditions candidate ?_).mp ⟨settledAt, input, hplan, hsettles⟩
        exact made_of_listed (fun row candidate hmade => (columns_of_fileCandidate hmade).2.1) hintent
          hlisted hcandidate hid
      · intro h
        obtain ⟨evidence, hupload, -⟩ := h.1.content
        obtain ⟨candidates, hlisted, candidate, hcandidate, hmade⟩ :=
          hsound.planned.exists_fileCandidate (Table.find?_eq_some_iff.mp hintent).1 hupload.create
        obtain ⟨settledAt, input, hplan, hsettles⟩ := (hconditions candidate hmade).mpr h
        rw [hconfirmed] at hlisted
        exact ⟨candidates, candidate, hcandidate, settledAt, input, hlisted,
          (columns_of_fileCandidate hmade).2.1, hplan, hsettles⟩
  | folder =>
      have hconditions : ∀ candidate, intent.folderCreateCandidate = .ok candidate →
          ((∃ settledAt input, planSelectedRootConfirmedFolderCreateSettlement store candidate settledAt
            scan.first scan.second = .ok input ∧ Succeeds (store.settleConfirmedFolderCreate input)) ↔
          store.AdmitsFolderSettlement intent scan.first scan.second
            ∧ intent.isCatalogued .folder store ∧ intent.isUnclaimed .folder store) := by
        intro candidate hmade
        obtain ⟨⟨modified, hcolumns⟩, -, hpath⟩ := columns_of_folderCandidate hmade
        rw [folderSettled_iff hsound hintent hconfirmed hmade, hpath]
        simp [RemoteWriteIntentRow.isCatalogued, RemoteWriteIntentRow.isUnclaimed,
          hcolumns.targetId_eq, hcolumns.parent_eq, CreateKind.remoteKind]
      constructor
      · rintro ⟨candidates, candidate, hcandidate, settledAt, input, hlisted, hid, hplan, hsettles⟩
        refine (hconditions candidate ?_).mp ⟨settledAt, input, hplan, hsettles⟩
        exact made_of_listed (fun row candidate hmade => (columns_of_folderCandidate hmade).2.1) hintent
          hlisted hcandidate hid
      · intro h
        obtain ⟨candidates, hlisted, candidate, hcandidate, hmade⟩ :=
          hsound.planned.exists_folderCandidate (Table.find?_eq_some_iff.mp hintent).1
            (operation_of_createsDirectory h.1.creates)
        obtain ⟨settledAt, input, hplan, hsettles⟩ := (hconditions candidate hmade).mpr h
        rw [hconfirmed] at hlisted
        exact ⟨candidates, candidate, hcandidate, settledAt, input, hlisted,
          (columns_of_folderCandidate hmade).2.1, hplan, hsettles⟩

/-! ## Any sequence of refreshes -/

/-- **A confirmed create stays settleable, under the condition and only under it.** After any sequence
    of refreshes the intent is confirmed as before, and its settlement succeeds exactly when the local
    side admits it, which no refresh changes, the catalog still has the item as it was created, and no
    receipt is in the way. -/
theorem confirmed_create_settleable_iff (mode : SyncMode) (kind : CreateKind) (scan : LocalScan)
    (store next : RootStore) (intent : RemoteWriteIntentRow)
    (hreached : (RootStore.new mode).Reaches store)
    (hintent : store.intents.find? intent.id = some intent) (hconfirmed : intent.status = .confirmed)
    (hrun : Refreshes store next) :
    (next.Settleable kind intent.id scan ∨ next.intentStatus? intent.id ≠ some .confirmed) ↔
      store.AdmitsLocally kind intent scan ∧ intent.isCatalogued kind next
        ∧ intent.isUnclaimed kind next := by
  have hremote := hrun.remoteOnly
  have hnext : next.intents.find? intent.id = some intent := by
    rw [hremote.intents_eq, hintent]
  have hstays : next.intentStatus? intent.id = some .confirmed := by
    rw [RootStore.intentStatus?, hnext, Option.map_some, hconfirmed]
  rw [or_iff_left (not_not.mpr hstays),
    settleable_iff (hrun.reaches hreached).settlementSound hnext hconfirmed,
    hremote.admitsLocally_iff]

/-- The provider after another client has renamed the uploaded file. -/
def sampleRenamed (name : Char) : GoogleDriveApi Unit :=
  { sampleApi with
    listChangesPage := fun _ _ =>
      .ok ⟨[.upsert ⟨['A'], some ['0'], [name], .file, some 3, none, false⟩], none,
        some (.ofChar '3')⟩ }

/-- The two new files as they are on disk, the first as it was uploaded. -/
def sampleScan : LocalScan where
  first := [⟨['a'], .file, some 3, 1, 1, 1, .refl true, .refl true⟩,
    ⟨['b'], .file, some 3, 1, 1, 1, .refl true, .refl true⟩]
  second := [⟨['a'], .file, some 3, 1, 1, 1, .refl true, .refl true⟩,
    ⟨['b'], .file, some 3, 1, 1, 1, .refl true, .refl true⟩]
  source := .ok ⟨List.replicate 64 '0', true⟩

/-- The first file is confirmed by its command, with its settlement to succeed, and then the metadata
    is refreshed after the item was given a name. -/
structure SampleRefresh (name : Char) (store next : RootStore) (intent : RemoteWriteIntentRow) :
    Prop where
  reached : (RootStore.new .twoWay).Reaches store
  found : store.intents.find? intent.id = some intent
  confirmed : intent.status = .confirmed
  settleable : store.Settleable .file intent.id sampleScan
  refreshed : Refreshes store next
  catalogued : intent.isCatalogued .file next = (name == 'a')
  unclaimed : intent.isUnclaimed .file next = true

/-- The root after the confirmation of the first file. -/
def sampleConfirmed : Option RootStore :=
  ((sampleOperations ++ sampleUpload).foldlM RootStore.apply (RootStore.new .twoWay)).toOption.map
    fun store => (sampleConfirm store).last store

theorem reaches_sampleConfirmed {store : RootStore} (h : store ∈ sampleConfirmed) :
    (RootStore.new .twoWay).Reaches store := by
  obtain ⟨uploaded, huploaded, rfl⟩ := Option.map_eq_some_iff.mp h
  have hreached : (RootStore.new .twoWay).Reaches uploaded :=
    Machine.Run.of_foldlM (fun _ _ _ => trivial) (toOption_eq_some_iff.mp huploaded)
  exact (confirmCreate_leaves sampleApi _ _ .file _ hreached).last hreached

/-- The first file can be settled there. -/
theorem sampleConfirmed_settleable :
    ∃ store ∈ sampleConfirmed, store.Settleable .file 1 sampleScan := by
  have hends : ∃ store ∈ sampleConfirmed,
      ∃ candidates ∈ (store.listFileCreateCandidates .confirmed).toOption,
      ∃ candidate ∈ candidates, candidate.intentId = 1
        ∧ ∃ input ∈ (planSelectedRootConfirmedFileCreateSettlement store candidate 5 sampleScan.first
            sampleScan.second sampleScan.source).toOption,
          (store.settleConfirmedFileCreate input).toOption.isSome := by
    decide +kernel
  obtain ⟨store, hstore, candidates, hlisted, candidate, hcandidate, hid, input, hplan, hsettled⟩ := hends
  obtain ⟨result, hresult⟩ := Option.isSome_iff_exists.mp hsettled
  exact ⟨store, hstore, candidates, candidate, hcandidate, 5, input, toOption_eq_some_iff.mp hlisted, hid,
    toOption_eq_some_iff.mp hplan, result, toOption_eq_some_iff.mp hresult⟩

theorem exists_sampleRefresh (name : Char) (hname : name ∈ ['a', 'c']) :
    ∃ store next intent, SampleRefresh name store next intent := by
  have hends : ∃ store ∈ sampleConfirmed, ∃ intent ∈ store.intents.find? 1,
      intent.id = 1 ∧ intent.status = .confirmed
        ∧ (intent.isCatalogued .file ((syncRootsRefreshTwoWayMetadata (sampleRenamed name)
            (fun _ => 0) (some ['0']) store).last store) = (name == 'a'))
        ∧ (intent.isUnclaimed .file ((syncRootsRefreshTwoWayMetadata (sampleRenamed name)
            (fun _ => 0) (some ['0']) store).last store) = true) := by
    simp only [List.mem_cons, List.not_mem_nil, or_false] at hname
    rcases hname with rfl | rfl
    · decide +kernel
    · decide +kernel
  obtain ⟨store, hstore, intent, hintent, hid, hconfirmed, hcatalogued, hunclaimed⟩ := hends
  obtain ⟨store', hstore', hsettles⟩ := sampleConfirmed_settleable
  obtain rfl := Option.mem_unique hstore hstore'
  rw [← hid] at hintent hsettles
  exact ⟨store, _, intent, reaches_sampleConfirmed hstore, hintent, hconfirmed, hsettles,
    Relation.ReflTransGen.single ⟨Unit, sampleRenamed name, _, _, rfl⟩, hcatalogued, hunclaimed⟩

/-- A refresh that finds the file as it was leaves it settleable. -/
theorem confirmed_create_settleable_iff_kept :
    ∃ store next intent, SampleRefresh 'a' store next intent
      ∧ (next.Settleable .file intent.id sampleScan
        ∨ next.intentStatus? intent.id ≠ some .confirmed) := by
  obtain ⟨store, next, intent, h⟩ := exists_sampleRefresh 'a' (by decide)
  have hadmits := ((settleable_iff h.reached.settlementSound h.found h.confirmed).mp h.settleable).1
  exact ⟨store, next, intent, h, (confirmed_create_settleable_iff .twoWay .file sampleScan store next
    intent h.reached h.found h.confirmed h.refreshed).mpr ⟨hadmits, h.catalogued, h.unclaimed⟩⟩

/-- A refresh that finds the file renamed strands it: it stays confirmed, and cannot be settled. -/
theorem renamed_create_not_settleable :
    ∃ store next intent, SampleRefresh 'c' store next intent
      ∧ ¬ (next.Settleable .file intent.id sampleScan
        ∨ next.intentStatus? intent.id ≠ some .confirmed) := by
  obtain ⟨store, next, intent, h⟩ := exists_sampleRefresh 'c' (by decide)
  have hfound : next.intents.find? intent.id = some intent := by
    rw [h.refreshed.remoteOnly.intents_eq]
    exact h.found
  refine ⟨store, next, intent, h, ?_⟩
  intro hholds
  obtain hsettles | hmoved := hholds
  · have hsound := (h.refreshed.reaches h.reached).settlementSound
    have hcatalogued := ((settleable_iff hsound hfound h.confirmed).mp hsettles).2.1
    rw [h.catalogued] at hcatalogued
    cases hcatalogued
  · refine hmoved ?_
    rw [RootStore.intentStatus?, hfound, Option.map_some, h.confirmed]

end NubiSync
