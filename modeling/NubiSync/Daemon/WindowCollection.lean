import NubiSync.Daemon.ChangeWindows
import NubiSync.Storage.CatalogWrites

set_option autoImplicit false

/-! # What a window changes

Staging a page and executing a window touch the remote side of a root only: the catalog with its
receipts, the cursors and the window itself. Everything a command reads of the local side and of the
intents is the same before and after. -/

namespace NubiSync

open Checks Transactions

variable {RootIdentity : Type} {provider : SelectedRootChangeProvider} {store next : RootStore}

/-! ## The remote side -/

/-- The root with the remote side of another. -/
def RootStore.withRemote (store remote : RootStore) : RootStore :=
  { store with
    catalog := remote.catalog
    remoteState := remote.remoteState
    windowState := remote.windowState
    windowEvents := remote.windowEvents
    windowTokens := remote.windowTokens }

/-- Only the remote side of the root has changed. -/
def RemoteOnly (store next : RootStore) : Prop := next = store.withRemote next

theorem RemoteOnly.refl (store : RootStore) : RemoteOnly store store := rfl

theorem RemoteOnly.trans {middle last : RootStore} (h : RemoteOnly store middle)
    (h' : RemoteOnly middle last) : RemoteOnly store last := by
  unfold RemoteOnly at h h' ⊢
  rw [h', h]
  rfl

theorem RemoteOnly.symm (h : RemoteOnly store next) : RemoteOnly next store := by
  unfold RemoteOnly at h ⊢
  rw [h]
  rfl

theorem RemoteOnly.intents_eq (h : RemoteOnly store next) : next.intents = store.intents := by
  rw [h]
  rfl

/-! ## Staging -/

theorem ensures_stageChangeWindowPage (store : RootStore) (baseCursor : ChangeCursor)
    (continuation : Option ContinuationToken) (page : ChangePage) :
    Ensures (store.stageChangeWindowPage baseCursor continuation page) fun result =>
      RemoteOnly store result.1 ∧ result.1.windowState = some result.2
        ∧ result.2.baseCursor = baseCursor ∧ result.1.catalog = store.catalog := by
  unfold RootStore.stageChangeWindowPage
  refine .check fun _ => .after fun state => .after fun cursor => .check fun _ =>
    .after fun counts => .after fun pages => .check fun _ => .after fun changes => .check fun _ =>
      .after fun events => .after fun tokens => .ok ?_
  exact ⟨rfl, rfl, rfl, rfl⟩

/-- The stores of one transaction: the one it returns, or none. -/
theorem stores_executorCommit {α : Type} (result : Except StorageError (RootStore × α)) :
    (∃ r, result = .ok r ∧ executorCommit result = ⟨[r.1], .ok r⟩)
      ∨ ∃ error, executorCommit result = ⟨[], .error error⟩ := by
  cases result with
  | ok r =>
      left
      exact ⟨r, rfl, rfl⟩
  | error error =>
      right
      exact ⟨_, rfl⟩

/-- What a collected page leaves: the window it reports, open on the base it had. -/
structure Collected (store staged : RootStore) (collection : SelectedRootChangeWindowCollection) :
    Prop where
  remoteOnly : RemoteOnly store staged
  catalog_eq : staged.catalog = store.catalog
  window : ∃ window, staged.windowState = some window ∧ collection = window.collection
    ∧ ∀ earlier, store.windowState = some earlier → window.baseCursor = earlier.baseCursor

theorem stageListedPage_cases (baseCursor : ChangeCursor)
    (continuation : Option ContinuationToken)
    (hbase : ∀ earlier, store.windowState = some earlier → baseCursor = earlier.baseCursor) :
    (∃ staged collection,
        stageListedPage provider store baseCursor continuation
          = ⟨[staged], .ok (staged, collection)⟩ ∧ Collected store staged collection)
      ∨ ∃ error, stageListedPage provider store baseCursor continuation = ⟨[], .error error⟩ := by
  unfold stageListedPage executorRead
  cases hpage : provider.listChangesPage baseCursor continuation with
  | error error =>
      right
      exact ⟨_, Trace.read_error_bind _ _⟩
  | ok page =>
      simp only [mapError_ok, Trace.read_ok_bind]
      obtain ⟨⟨staged, window⟩, hstaged, hcommit⟩ | ⟨error, hcommit⟩ :=
        stores_executorCommit (store.stageChangeWindowPage baseCursor continuation page)
      · obtain ⟨hremote, hwindow, hsame, hcatalog⟩ :=
          ensures_stageChangeWindowPage store baseCursor continuation page _ hstaged
        left
        rw [hcommit]
        refine ⟨staged, window.collection, rfl, hremote, hcatalog, window, hwindow, rfl, ?_⟩
        intro earlier hearlier
        rw [← hbase earlier hearlier]
        exact hsame
      · right
        rw [hcommit]
        exact ⟨error, rfl⟩

/-- **One collected page.** It is staged in one transaction, unless the window was complete before;
    and a failed call changes nothing. -/
theorem collectPage_cases (provider : SelectedRootChangeProvider) (store : RootStore) :
    (∃ window, store.windowState = some window ∧ window.isComplete = true ∧
        collectSelectedRootChangeWindowPage provider store
          = ⟨[], .ok (store, window.collection)⟩)
      ∨ (∃ staged collection,
          collectSelectedRootChangeWindowPage provider store
            = ⟨[staged], .ok (staged, collection)⟩ ∧ Collected store staged collection)
      ∨ ∃ error, collectSelectedRootChangeWindowPage provider store = ⟨[], .error error⟩ := by
  unfold collectSelectedRootChangeWindowPage
  split
  · next window hwindow =>
      split
      · next hcomplete =>
          left
          exact ⟨window, hwindow, hcomplete, rfl⟩
      · -- the open window is continued from its own cursor
        right
        refine stageListedPage_cases _ _ fun earlier hearlier => ?_
        rw [hwindow] at hearlier
        rw [Option.some.inj hearlier]
  · -- without a window the page starts one, from the durable cursor
    next hwindow =>
      right
      unfold executorRead
      cases hbase : store.newWindowBase with
      | error error =>
          right
          exact ⟨_, Trace.read_error_bind _ _⟩
      | ok baseCursor =>
          simp only [mapError_ok, Trace.read_ok_bind]
          refine stageListedPage_cases _ _ fun earlier hearlier => ?_
          rw [hwindow] at hearlier
          cases hearlier

/-! ## Execution -/

/-- A committed window: the mutations on the catalog, the cursor at the checkpoint, and no window. -/
theorem ensures_commitCatalogChangeWindow (store : RootStore) (base checkpoint : ChangeCursor)
    (changeCount : ℕ) (mutations : List SyncRootCatalogMutation) :
    Ensures (store.commitCatalogChangeWindow base checkpoint changeCount mutations) fun result =>
      RemoteOnly store result.1 ∧ result.1.windowState = none
        ∧ result.1.changeCursor = some checkpoint := by
  unfold RootStore.commitCatalogChangeWindow RootStore.commitMutations
  refine .after fun count => .after fun _ => .bind (P := fun result =>
    RemoteOnly store result.1 ∧ result.1.changeCursor = some checkpoint) ?_ ?_
  · refine .after fun state => .after fun cursor => .check fun _ => .after fun applied => .ok ?_
    exact ⟨rfl, rfl⟩
  · rintro ⟨committed, commit⟩ ⟨hremote, hcursor⟩
    refine .ok ⟨?_, rfl, hcursor⟩
    exact hremote.trans rfl

/-- **The execution of a window** is one transaction that closes it, or changes nothing. -/
theorem executeWindow_cases (api : SelectedRootProvider RootIdentity)
    (fuel : RootCatalogProjection → ℕ) (remoteRootId : Option Text) (store : RootStore) :
    (∃ committed execution window checkpoint,
        executeCompletedSelectedRootChangeWindow api fuel remoteRootId store
          = ⟨[committed], .ok (committed, execution)⟩
        ∧ store.completedWindow = .ok (window, checkpoint) ∧ RemoteOnly store committed
        ∧ committed.windowState = none ∧ committed.changeCursor = some checkpoint)
      ∨ ∃ error, executeCompletedSelectedRootChangeWindow api fuel remoteRootId store
          = ⟨[], .error error⟩ := by
  unfold executeCompletedSelectedRootChangeWindow executorRead
  cases hwindow : store.completedWindow with
  | error error =>
      right
      exact ⟨_, Trace.read_error_bind _ _⟩
  | ok found =>
      obtain ⟨window, checkpoint⟩ := found
      simp only [mapError_ok, Trace.read_ok_bind]
      cases hplan : store.planWindow api fuel remoteRootId with
      | error error =>
          right
          exact ⟨_, Trace.read_error_bind _ _⟩
      | ok plan =>
          simp only [Trace.read_ok_bind]
          obtain ⟨⟨committed, commit⟩, hcommitted, hcommit⟩ | ⟨error, hcommit⟩ :=
            stores_executorCommit (store.commitCatalogChangeWindow window.baseCursor checkpoint
              window.changeCount (plan.mutations.map intoStorageMutation))
          · obtain ⟨hremote, hclosed, hcursor⟩ :=
              ensures_commitCatalogChangeWindow _ _ _ _ _ _ hcommitted
            left
            rw [hcommit]
            exact ⟨committed, _, window, checkpoint, rfl, rfl, hremote, hclosed, hcursor⟩
          · right
            rw [hcommit]
            exact ⟨error, rfl⟩

end NubiSync
