import NubiSync.Cli.CreateConfirmation
import NubiSync.Drive.FolderInventory
import NubiSync.Storage.AccountCatalog

set_option autoImplicit false

/-! # The commands of an account

`google_login`, `drive_changes`, `drive_inventory` and `drive_catalog_catchup` move the cursor of the
account or take the fence of its inventory. Each reads the provider page by page, and all but the
inventory, which stages as it reads, open their transactions once the reading is done. -/

namespace NubiSync

open Checks Transactions

/-! ## The provider -/

/-- What a command asks of the keyring, of the authorization and of `GoogleDriveApi`. -/
structure DriveSession where
  ensureKeyringAvailable : Except CliError Unit
  authorize : Except CliError Unit
  probe : Except CliError ChangeCursor
  currentChangeCursor : Except CliError ChangeCursor
  listChangesPage : ChangeCursor → Option ContinuationToken → Except CliError ChangePage
  listInventoryPage : Option ContinuationToken → ℕ → Except CliError DriveInventoryPage

/-- What a command does to the rows of the account, and how it ends. -/
abbrev AccountTrace (α : Type) := Trace AccountStore CliError α

/-- A transaction of a command. -/
def accountCommit {α : Type} (result : Except StorageError (AccountStore × α)) :
    AccountTrace (AccountStore × α) :=
  Trace.commit (result.mapError .storage)

/-- The number of pages a command fetches at most. -/
def maxDrivePages : ℕ := 10_000

/-! ## The login -/

def googleLogin (session : DriveSession) (store : AccountStore) : AccountTrace (AccountStore × Unit) := do
  Trace.read session.ensureKeyringAvailable
  Trace.read session.authorize
  let changeCursor ← Trace.read session.probe
  let (store, _) ← accountCommit (.ok (store.upsertAccount, ()))
  accountCommit (.ok (store.saveCursor changeCursor, ()))

/-! ## Changes -/

/-- The loop that collects the changes since a cursor, with the checkpoint they end at and the number of
    pages fetched. -/
def collectChangePages (session : DriveSession) (cursor : ChangeCursor) :
    ℕ → List ContinuationToken → Option ContinuationToken →
      Except CliError (List RemoteChange × ChangeCursor × ℕ)
  | 0, _, _ => .error .driveChangePageLimitExceeded
  | pages + 1, seenContinuations, continuation => do
      let page ← session.listChangesPage cursor continuation
      match page.continuation, page.checkpoint with
      | some next, none => do
          refuseIf (seenContinuations.contains next) .driveChangePaginationLoop
          let (changes, checkpoint, pagesFetched) ←
            collectChangePages session cursor pages (next :: seenContinuations) (some next)
          .ok (page.changes ++ changes, checkpoint, pagesFetched + 1)
      | none, some checkpoint => .ok (page.changes, checkpoint, 1)
      | _, _ => .error .driveChangeStreamMissingCheckpoint

/-- What `drive_changes` prints. -/
structure DriveChangesReport where
  pagesFetched : ℕ
  changesTotal : ℕ
  upserts : ℕ
  deletes : ℕ
  files : ℕ
  folders : ℕ
  trashed : ℕ
  remoteEventsPersisted : ℕ
  remoteEventsPendingTotal : ℕ
  cursorChanged : Bool
  deriving DecidableEq, Repr

/-- The item of an upsert. -/
def RemoteChange.item? : RemoteChange → Option RemoteItem
  | .delete _ => none
  | .upsert item => some item

def driveChanges (session : DriveSession) (store : AccountStore) :
    AccountTrace (AccountStore × DriveChangesReport) := do
  Trace.read session.ensureKeyringAvailable
  Trace.read (refuseIf (!store.registered) .noLocalGoogleAccount)
  Trace.read session.authorize
  let cursor ← Trace.read (orRefuse store.cursor .missingStoredDriveCursor)
  let (changes, checkpoint, pagesFetched) ←
    Trace.read (collectChangePages session cursor maxDrivePages [] none)
  let (store, persisted) ← accountCommit (store.commitRemoteChangesAndCursor changes checkpoint)
  let items := changes.filterMap RemoteChange.item?
  pure (store, {
    pagesFetched := pagesFetched
    changesTotal := changes.length
    upserts := items.length
    deletes := changes.length - items.length
    files := items.countP (·.kind == .file)
    folders := items.countP (·.kind == .folder)
    trashed := items.countP (·.trashed)
    remoteEventsPersisted := persisted
    remoteEventsPendingTotal := store.pendingChanges.length
    cursorChanged := checkpoint != cursor })

/-! ## The inventory -/

/-- What the loop of `drive_inventory` counts. -/
structure InventoryProgress where
  pagesFetched : ℕ
  observedItems : ℕ
  supportedItems : ℕ
  files : ℕ
  folders : ℕ
  unsupportedProviderNative : ℕ
  deriving DecidableEq, Repr

/-- The counts with those of a page. -/
def InventoryProgress.fetched (progress : InventoryProgress) (page : DriveInventoryPage) :
    InventoryProgress where
  pagesFetched := progress.pagesFetched + 1
  observedItems := progress.observedItems + (page.supportedItems + page.unsupportedProviderNative)
  supportedItems := progress.supportedItems + page.supportedItems
  files := progress.files + page.fileCount
  folders := progress.folders + page.folderCount
  unsupportedProviderNative := progress.unsupportedProviderNative + page.unsupportedProviderNative

/-- The limit of a bounded inventory is reached. -/
def InventoryProgress.limitReached (progress : InventoryProgress) (maxItems : Option ℕ) : Bool :=
  maxItems.any (· ≤ progress.observedItems)

/-- The page size the loop asks for. -/
def InventoryProgress.pageSize (progress : InventoryProgress) : Option ℕ → ℕ
  | some limit => min (limit - progress.observedItems) 1000
  | none => 1000

/-- The loop of `drive_inventory`, with whether it came to the end of the listing. -/
def driveInventoryPages (session : DriveSession) (maxItems : Option ℕ) :
    ℕ → List ContinuationToken → Option ContinuationToken → InventoryProgress → AccountStore →
      AccountTrace (AccountStore × InventoryProgress × Bool)
  | 0, _, _, _, _ => Trace.read (.error .driveInventoryPageLimitExceeded)
  | pages + 1, seenContinuations, continuation, progress, store =>
      if progress.limitReached maxItems then pure (store, progress, false)
      else do
        let page ← Trace.read (session.listInventoryPage continuation (progress.pageSize maxItems))
        let (store, _) ← accountCommit (store.stageRemoteInventoryItems page.items)
        match page.continuation with
        | none => pure (store, progress.fetched page, true)
        | some next => do
            Trace.read (refuseIf (seenContinuations.contains next) .driveInventoryPaginationLoop)
            if (progress.fetched page).limitReached maxItems then
              pure (store, progress.fetched page, false)
            else
              driveInventoryPages session maxItems pages (next :: seenContinuations) (some next)
                (progress.fetched page) store

/-- What `drive_inventory` prints. -/
structure DriveInventoryReport where
  progress : InventoryProgress
  inventoryComplete : Bool
  stagedItems : ℕ
  authoritativeSnapshotCommitted : Bool
  authoritativeItems : ℕ
  deriving DecidableEq, Repr

/-- `drive_inventory`; without a bound it is the full one. -/
def driveInventory (session : DriveSession) (maxItems : Option ℕ) (store : AccountStore) :
    AccountTrace (AccountStore × DriveInventoryReport) := do
  Trace.read session.ensureKeyringAvailable
  Trace.read (refuseIf (!store.registered) .noLocalGoogleAccount)
  Trace.read session.authorize
  let bootstrapFence ← Trace.read (if maxItems.isNone then do
      let fence ← session.currentChangeCursor
      .ok (some fence)
    else .ok none)
  let (store, _) ← accountCommit (.ok (store.beginRemoteInventoryStaging, ()))
  let (store, progress, inventoryComplete) ←
    driveInventoryPages session maxItems maxDrivePages [] none ⟨0, 0, 0, 0, 0, 0⟩ store
  let stagedItems := store.staging.rows.length
  if inventoryComplete && maxItems.isNone then do
    let fence ← Trace.read (orRefuse bootstrapFence .missingInventoryBootstrapFence)
    let (store, authoritativeItems) ← accountCommit (store.commitRemoteInventorySnapshot fence)
    pure (store, ⟨progress, inventoryComplete, stagedItems, true, authoritativeItems⟩)
  else do
    let (store, _) ← accountCommit (.ok (store.beginRemoteInventoryStaging, ()))
    pure (store, ⟨progress, inventoryComplete, stagedItems, false, store.items.rows.length⟩)

/-! ## The catch-up -/

/-- What `drive_catalog_catchup` prints. -/
inductive CatalogCatchupReport where
  | snapshotMissing
  | alreadyComplete
  | pass (pagesFetched : ℕ) (changesTotal : ℕ) (commit : CatalogCatchupCommit) (catchupComplete : Bool)
      (stateConsistent : Bool) (ready : Bool)
  deriving DecidableEq, Repr

def driveCatalogCatchup (session : DriveSession) (store : AccountStore) :
    AccountTrace (AccountStore × CatalogCatchupReport) := do
  Trace.read (refuseIf (!store.registered) .noLocalGoogleAccount)
  let state := store.remoteInventoryState
  if !state.snapshotComplete then pure (store, .snapshotMissing)
  else if state.catchupComplete then pure (store, .alreadyComplete)
  else do
    let fromCursor ← Trace.read (orRefuse state.catchupFromCursor .missingCatalogCatchupCursor)
    Trace.read session.ensureKeyringAvailable
    Trace.read session.authorize
    let (changes, checkpoint, pagesFetched) ←
      Trace.read (collectChangePages session fromCursor maxDrivePages [] none)
    let (store, commit) ←
      accountCommit (store.commitRemoteCatalogCatchup fromCursor changes checkpoint)
    let finalState := store.remoteInventoryState
    let stateConsistent := finalState.itemCount == commit.authoritativeItems
    pure (store, .pass pagesFetched changes.length commit finalState.catchupComplete stateConsistent
      (store.readyForReconciliation && stateConsistent && store.staging.rows.length == 0))

/-! ## What a provider lists -/

section

variable (session : DriveSession)

/-- The pages of the change stream from a cursor, on from a continuation: their changes, to a checkpoint. -/
inductive ChangePages (cursor : ChangeCursor) :
    Option ContinuationToken → List RemoteChange → ChangeCursor → Prop where
  | last {continuation : Option ContinuationToken} (page : ChangePage) (checkpoint : ChangeCursor)
      (hpage : session.listChangesPage cursor continuation = .ok page)
      (hend : page.continuation = none) (hcheckpoint : page.checkpoint = some checkpoint) :
      ChangePages cursor continuation page.changes checkpoint
  | more {continuation : Option ContinuationToken} (page : ChangePage) (next : ContinuationToken)
      {changes : List RemoteChange} {checkpoint : ChangeCursor}
      (hpage : session.listChangesPage cursor continuation = .ok page)
      (hnext : page.continuation = some next) (hopen : page.checkpoint = none)
      (hrest : ChangePages cursor (some next) changes checkpoint) :
      ChangePages cursor continuation (page.changes ++ changes) checkpoint

/-- The pages of a full listing, on from a continuation: their items. -/
inductive ListingPages : Option ContinuationToken → List RemoteItem → Prop where
  | last {continuation : Option ContinuationToken} (page : DriveInventoryPage)
      (hpage : session.listInventoryPage continuation 1000 = .ok page)
      (hend : page.continuation = none) : ListingPages continuation page.items
  | more {continuation : Option ContinuationToken} (page : DriveInventoryPage)
      (next : ContinuationToken) {items : List RemoteItem}
      (hpage : session.listInventoryPage continuation 1000 = .ok page)
      (hnext : page.continuation = some next) (hrest : ListingPages (some next) items) :
      ListingPages continuation (page.items ++ items)

end

variable {session : DriveSession} {store next : AccountStore}

/-- What the loop collects is what the provider lists. -/
theorem ensures_collectChangePages (cursor : ChangeCursor) (pages : ℕ)
    (seenContinuations : List ContinuationToken) (continuation : Option ContinuationToken) :
    Ensures (collectChangePages session cursor pages seenContinuations continuation)
      fun collected => ChangePages session cursor continuation collected.1 collected.2.1 := by
  induction pages generalizing seenContinuations continuation with
  | zero => exact .error
  | succ pages ih =>
      rw [collectChangePages]
      refine .bind (P := fun page => session.listChangesPage cursor continuation = .ok page)
        (fun page h => h) fun page hpage => ?_
      cases hcontinuation : page.continuation with
      | none =>
          cases hcheckpoint : page.checkpoint with
          | none => exact .error
          | some checkpoint => exact .ok (.last page checkpoint hpage hcontinuation hcheckpoint)
      | some token =>
          cases hcheckpoint : page.checkpoint with
          | none =>
              refine .check fun _ => (ih _ (some token)).bind fun collected hrest => ?_
              exact .ok (.more page token hpage hcontinuation hcheckpoint hrest)
          | some checkpoint => exact .error

/-! ## What a command leaves -/

/-- A login that is not stopped before it saves its cursor, `cursor`. -/
def LoginSaves (session : DriveSession) (transactions : ℕ) (cursor : ChangeCursor) : Prop :=
  session.ensureKeyringAvailable = .ok () ∧ session.authorize = .ok () ∧
    session.probe = .ok cursor ∧ 2 ≤ transactions

/-- A login saves its cursor, or leaves the rows as they were but for the registration. -/
theorem googleLogin_cases (session : DriveSession) (transactions : ℕ) (store : AccountStore) :
    (∃ cursor, LoginSaves session transactions cursor ∧
      (googleLogin session store).stoppedAfter transactions store
        = store.upsertAccount.saveCursor cursor) ∨
    (∀ cursor, ¬ LoginSaves session transactions cursor) ∧
      ((googleLogin session store).stoppedAfter transactions store = store ∨
        (googleLogin session store).stoppedAfter transactions store = store.upsertAccount) := by
  by_cases hgranted : ∃ cursor, session.ensureKeyringAvailable = .ok () ∧ session.authorize = .ok () ∧
      session.probe = .ok cursor
  · obtain ⟨cursor, hkeyring, hauthorize, hprobe⟩ := hgranted
    have hstores : (googleLogin session store).stores
        = [store.upsertAccount, store.upsertAccount.saveCursor cursor] := by
      rw [googleLogin, hkeyring, hauthorize, hprobe]
      rfl
    rw [Trace.stoppedAfter, hstores]
    match transactions with
    | 0 => exact .inr ⟨fun _ hsaves => absurd hsaves.2.2.2 (by decide), .inl rfl⟩
    | 1 => exact .inr ⟨fun _ hsaves => absurd hsaves.2.2.2 (by decide), .inr rfl⟩
    | transactions + 2 =>
        refine .inl ⟨cursor, ⟨hkeyring, hauthorize, hprobe, by omega⟩, ?_⟩
        simp
  · have hnothing : (googleLogin session store).Leaves (fun _ => False) fun _ => True :=
      .read_bind fun _ hkeyring => .read_bind fun _ hauthorize => .read_bind fun cursor hprobe =>
        absurd ⟨cursor, hkeyring, hauthorize, hprobe⟩ hgranted
    refine .inr ⟨fun cursor hsaves => hgranted ⟨cursor, hsaves.1, hsaves.2.1, hsaves.2.2.1⟩, .inl ?_⟩
    rw [Trace.stoppedAfter, List.eq_nil_iff_forall_not_mem.mpr hnothing.stores, List.take_nil]
    rfl

/-- The changes since the cursor are committed, or nothing is. -/
theorem driveChanges_leaves (session : DriveSession) (store : AccountStore) :
    (driveChanges session store).Leaves
      (fun next => ∃ cursor changes checkpoint persisted, store.cursor = some cursor ∧
        ChangePages session cursor none changes checkpoint ∧
        store.commitRemoteChangesAndCursor changes checkpoint = .ok (next, persisted))
      fun _ => True := by
  refine .read_bind fun _ _ => .read_bind fun _ _ => .read_bind fun _ _ => ?_
  refine .read_bind fun cursor hcursor => .read_bind fun (changes, checkpoint, _) hcollected => ?_
  refine .commit_bind fun next persisted hcommitted => ⟨?_, .pure trivial⟩
  exact ⟨cursor, changes, checkpoint, persisted, (orRefuse_eq_ok _ _ _).mp hcursor,
    ensures_collectChangePages _ _ _ _ _ hcollected, mapError_eq_ok.mp hcommitted⟩

/-- The changes since the fence are committed, or nothing is. -/
theorem driveCatalogCatchup_leaves (session : DriveSession) (store : AccountStore) :
    (driveCatalogCatchup session store).Leaves
      (fun next => ∃ fromCursor changes checkpoint commit,
        ChangePages session fromCursor none changes checkpoint ∧
        store.commitRemoteCatalogCatchup fromCursor changes checkpoint = .ok (next, commit))
      fun _ => True := by
  refine .read_bind fun _ _ => ?_
  dsimp only
  split
  · exact .pure trivial
  split
  · exact .pure trivial
  refine .read_bind fun fromCursor _ => .read_bind fun _ _ => .read_bind fun _ _ => ?_
  refine .read_bind fun (changes, checkpoint, _) hcollected => ?_
  refine .commit_bind fun next commit hcommitted => ⟨?_, .pure trivial⟩
  exact ⟨fromCursor, changes, checkpoint, commit, ensures_collectChangePages _ _ _ _ _ hcollected,
    mapError_eq_ok.mp hcommitted⟩

/-- The rows are those of `store`, but for the staging. -/
def SameButStaging (store next : AccountStore) : Prop :=
  next = { store with staging := next.staging }

/-- The loop of the inventory does nothing but stage; one that comes to its end unbounded has staged a
    full listing. -/
theorem driveInventoryPages_leaves (session : DriveSession) (maxItems : Option ℕ) (pages : ℕ)
    (seenContinuations : List ContinuationToken) (continuation : Option ContinuationToken)
    (progress : InventoryProgress) {start store : AccountStore} (hstore : SameButStaging start store) :
    (driveInventoryPages session maxItems pages seenContinuations continuation progress store).Leaves
      (SameButStaging start)
      fun listed => SameButStaging start listed.1 ∧
        (maxItems = none → listed.2.2 = true → ∃ items, ListingPages session continuation items ∧
          items.foldlM insertInventoryItem store.staging = .ok listed.1.staging) := by
  induction pages generalizing seenContinuations continuation progress store with
  | zero => exact .read nofun
  | succ pages ih =>
      rw [driveInventoryPages]
      split
      · exact .pure ⟨hstore, nofun⟩
      refine .read_bind fun page hpage => .commit_bind fun staged count hstaged => ?_
      obtain ⟨staging, hstaging, hstaged⟩ := bind_eq_ok.mp (mapError_eq_ok.mp hstaged)
      obtain ⟨rfl, -⟩ := Prod.mk.inj (Except.ok.inj hstaged)
      have hstaged : SameButStaging start { store with staging := staging } := by
        rw [SameButStaging, hstore]
      refine ⟨hstaged, ?_⟩
      cases hcontinuation : page.continuation with
      | none =>
          refine .pure ⟨hstaged, fun hunbounded _ => ⟨page.items, ?_, hstaging⟩⟩
          subst hunbounded
          exact .last page hpage hcontinuation
      | some token =>
          refine .read_bind fun _ _ => ?_
          split
          · exact .pure ⟨hstaged, nofun⟩
          refine (ih _ (some token) _ hstaged).mono (fun _ => id) fun listed ⟨hlast, hlisted⟩ => ?_
          refine ⟨hlast, ?_⟩
          intro hunbounded hcomplete
          obtain ⟨items, hitems, hrest⟩ := hlisted hunbounded hcomplete
          subst hunbounded
          refine ⟨page.items ++ items, .more page token hpage hcontinuation hitems, ?_⟩
          rw [List.foldlM_append, hstaging]
          exact hrest

/-- A full inventory takes a fence, and commits the listing it staged since with it; until then it does
    nothing but stage. -/
theorem driveInventory_leaves (session : DriveSession) (maxItems : Option ℕ) (store : AccountStore) :
    (driveInventory session maxItems store).Leaves
      (fun next => SameButStaging store next ∨ ∃ fence items staged itemCount,
        session.currentChangeCursor = .ok fence ∧ ListingPages session none items ∧
        SameButStaging store staged ∧ items.foldlM insertInventoryItem ∅ = .ok staged.staging ∧
        staged.commitRemoteInventorySnapshot fence = .ok (next, itemCount))
      fun _ => True := by
  refine .read_bind fun _ _ => .read_bind fun _ _ => .read_bind fun _ _ => ?_
  refine .read_bind fun bootstrapFence hfence => .commit_bind fun begun _ hbegun => ?_
  obtain ⟨rfl, -⟩ := Prod.mk.inj (Except.ok.inj hbegun)
  have hbegun : SameButStaging store store.beginRemoteInventoryStaging := rfl
  refine ⟨.inl hbegun, ?_⟩
  have hpages := driveInventoryPages_leaves session maxItems maxDrivePages [] none ⟨0, 0, 0, 0, 0, 0⟩
    hbegun
  refine .bind (hpages.mono (fun _ => .inl) fun _ => id) fun (listed, progress, complete) hlisted => ?_
  have hframe : SameButStaging store listed := hlisted.1
  dsimp only
  split
  next hfull =>
    obtain ⟨hcomplete, hunbounded⟩ : complete = true ∧ maxItems = none := by simpa using hfull
    subst hunbounded
    obtain ⟨items, hitems, hstaging⟩ := hlisted.2 rfl hcomplete
    refine .read_bind fun fence hsome => .commit_bind fun next itemCount hcommitted => ?_
    refine ⟨.inr ?_, .pure trivial⟩
    obtain rfl := (orRefuse_eq_ok _ _ _).mp hsome
    obtain ⟨captured, hcurrent, hsame⟩ := bind_eq_ok.mp hfence
    obtain rfl := Option.some.inj (Except.ok.inj hsame)
    exact ⟨captured, items, listed, itemCount, hcurrent, hitems, hframe, hstaging,
      mapError_eq_ok.mp hcommitted⟩
  next =>
    refine .commit_bind fun next _ hcleared => ⟨.inl ?_, .pure trivial⟩
    obtain ⟨rfl, -⟩ := Prod.mk.inj (Except.ok.inj hcleared)
    rw [SameButStaging, hframe]
    rfl

end NubiSync
