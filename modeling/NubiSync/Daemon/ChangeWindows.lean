import NubiSync.Daemon.ExecutorErrors
import NubiSync.Daemon.RemoteWritePlan
import NubiSync.Library.Transactions
import NubiSync.Storage.CatalogCommits
import NubiSync.Storage.ProjectionRefinement

set_option autoImplicit false

/-! # Collecting and executing change windows

The daemon stages the provider's feed page by page in the change window of the root, and executes the
window once it is complete: every staged event is judged against the live tree of the provider, the
projection says what it does to the catalog, and one commit applies all of it and moves the cursor.

The provider is a parameter. A subtree deletion of the projection that does not end makes the
execution one that does not end either. -/

namespace NubiSync

open Checks Transactions

/-! ## Providers -/

structure SelectedRootProvider (RootIdentity : Type) where
  resolveRoot : Text → Except SelectedRootExecutorError RootIdentity
  canonicalRootId : RootIdentity → Text
  resolveMembership :
    RemoteItem → RootIdentity → Except SelectedRootExecutorError RootChangeMembership
  hydrateFolder : RemoteItem → Except SelectedRootExecutorError (List RemoteItem)

structure SelectedRootChangeProvider where
  listChangesPage :
    ChangeCursor → Option ContinuationToken → Except SelectedRootExecutorError ChangePage

/-- What the daemon does to a store, and how it ends. -/
abbrev ExecutorTrace (α : Type) := Trace RootStore (Halt SelectedRootExecutorError) α

/-- A call whose errors are those of the executor. -/
def executorRead {α : Type} (result : Except SelectedRootExecutorError α) : ExecutorTrace α :=
  Trace.read (result.mapError .failed)

/-- A transaction of the store. -/
def executorCommit {α : Type} (result : Except StorageError (RootStore × α)) :
    ExecutorTrace (RootStore × α) :=
  Trace.commit ((fromStorage result).mapError .failed)

/-! ## Collecting a page -/

structure SelectedRootChangeWindowCollection where
  pageCount : ℕ
  changeCount : ℕ
  complete : Bool
  deriving DecidableEq, Repr

/-- What a collection reports of a window. -/
def SyncRootChangeWindowState.collection (window : SyncRootChangeWindowState) :
    SelectedRootChangeWindowCollection :=
  ⟨window.pageCount, window.changeCount, window.isComplete⟩

/-- Where a new window starts, as the daemon reads it. -/
def RootStore.newWindowBase (store : RootStore) : Except SelectedRootExecutorError ChangeCursor := do
  let state ← orRefuse store.remoteState .changeWindowSnapshotMissing
  refuseIf (!state.snapshotComplete) .changeWindowSnapshotMissing
  if state.catchupComplete then orRefuse store.changeCursor .changeWindowCursorMissing
  else orRefuse state.catchupFromCursor .changeWindowCursorMissing

/-- List one page and stage it. -/
def stageListedPage (provider : SelectedRootChangeProvider) (store : RootStore)
    (baseCursor : ChangeCursor) (continuation : Option ContinuationToken) :
    ExecutorTrace (RootStore × SelectedRootChangeWindowCollection) := do
  let page ← executorRead (provider.listChangesPage baseCursor continuation)
  let (staged, window) ← executorCommit (store.stageChangeWindowPage baseCursor continuation page)
  pure (staged, window.collection)

def collectSelectedRootChangeWindowPage (provider : SelectedRootChangeProvider) (store : RootStore) :
    ExecutorTrace (RootStore × SelectedRootChangeWindowCollection) :=
  match store.windowState with
  | some window =>
      if window.isComplete then pure (store, window.collection)
      else stageListedPage provider store window.baseCursor window.continuation
  | none => do
      let baseCursor ← executorRead store.newWindowBase
      stageListedPage provider store baseCursor none

/-! ## Executing a window -/

def resolveChangeMembership {RootIdentity : Type} (provider : SelectedRootProvider RootIdentity)
    (root : RootIdentity) (canonicalRootId : Text) :
    RemoteChange → Except SelectedRootExecutorError RootChangeMembership
  | .delete remoteId => .ok (if remoteId = canonicalRootId then .root else .unresolvedDelete)
  | .upsert item => provider.resolveMembership item root

/-- What executing the events of a window has planned so far. -/
structure WindowPlan where
  projection : RootCatalogProjection
  mutations : List RootCatalogMutationPlan
  hydratedItems : ℕ
  rootRevalidations : ℕ

/-- A sum of `usize`. -/
def checkedCount (a b : ℕ) : Except SelectedRootExecutorError ℕ := do
  refuseIf (decide (2 ^ 64 ≤ a + b)) .countOverflow
  .ok (a + b)

theorem checkedCount_eq_ok_iff {a b c : ℕ} : checkedCount a b = .ok c ↔ a + b < 2 ^ 64 ∧ c = a + b := by
  rw [checkedCount, refuseIf_bind_eq_ok]
  simp [eq_comm]

/-- The hydration an event needs: of a live folder in the root that has no catalog row yet. -/
def hydrateChange {RootIdentity : Type} (provider : SelectedRootProvider RootIdentity)
    (projection : RootCatalogProjection) (membership : RootChangeMembership) :
    RemoteChange → Except SelectedRootExecutorError (Option (List RemoteItem))
  | .upsert item =>
      if membership = .descendant ∧ item.kind = .folder ∧ item.trashed = false
          ∧ projection.contains item.remoteId = false then
        (provider.hydrateFolder item).map some
      else .ok none
  | .delete _ => .ok none

/-- `RootCatalogProjection::apply_change`, as the executor sees it. -/
def applyWindowChange (fuel : RootCatalogProjection → ℕ) (projection : RootCatalogProjection)
    (call : ChangeCall) :
    Except (Halt SelectedRootExecutorError) (RootCatalogResolution × RootCatalogProjection) :=
  match projection.applyChange (fuel projection) call with
  | none => .error .unending
  | some outcome => outcome.mapError fun error => .failed (.projection error)

/-- One event of the window. -/
def planWindowChange {RootIdentity : Type} (provider : SelectedRootProvider RootIdentity)
    (fuel : RootCatalogProjection → ℕ) (configuredRemoteRootId canonicalRootId : Text)
    (root : RootIdentity) (plan : WindowPlan) (change : RemoteChange) :
    Except (Halt SelectedRootExecutorError) WindowPlan := do
  let membership ← (resolveChangeMembership provider root canonicalRootId change).mapError .failed
  let hydration ← (hydrateChange provider plan.projection membership change).mapError .failed
  let hydratedItems ← (checkedCount plan.hydratedItems
    (hydration.elim 0 List.length)).mapError .failed
  let (resolution, projection) ← applyWindowChange fuel plan.projection
    ⟨change, membership, hydration⟩
  match resolution with
  | .noop | .mutations _ =>
      .ok ⟨projection, plan.mutations ++ resolution.planned, hydratedItems, plan.rootRevalidations⟩
  -- a change of the root itself plans nothing, but the root must still resolve to the same id
  | .revalidateRoot => do
      let rootRevalidations ← (checkedCount plan.rootRevalidations 1).mapError .failed
      let revalidated ← (provider.resolveRoot configuredRemoteRootId).mapError .failed
      (refuseIf (provider.canonicalRootId revalidated != canonicalRootId)
        .rootIdentityChanged).mapError .failed
      .ok ⟨projection, plan.mutations, hydratedItems, rootRevalidations⟩

/-- The window to execute, with its checkpoint: complete, and with as many events as it counted. -/
def RootStore.completedWindow (store : RootStore) :
    Except SelectedRootExecutorError (SyncRootChangeWindowState × ChangeCursor) := do
  let window ← orRefuse store.windowState .changeWindowMissing
  refuseIf (!window.isComplete) .changeWindowIncomplete
  let checkpoint ← orRefuse window.checkpoint .changeWindowIncomplete
  refuseIf (store.windowEvents.length != window.changeCount) .changeWindowChangeCountMismatch
  .ok (window, checkpoint)

/-- What executing the events of a window plans, from the catalog it is executed on. -/
def RootStore.planWindow {RootIdentity : Type} (store : RootStore)
    (provider : SelectedRootProvider RootIdentity) (fuel : RootCatalogProjection → ℕ)
    (remoteRootId : Option Text) : Except (Halt SelectedRootExecutorError) WindowPlan := do
  let configuredRemoteRootId ← (orRefuse remoteRootId .missingRemoteRoot).mapError .failed
  let root ← (provider.resolveRoot configuredRemoteRootId).mapError .failed
  let canonicalRootId := provider.canonicalRootId root
  (refuseIf canonicalRootId.isBlank .invalidCanonicalRoot).mapError .failed
  let projection ← (RootCatalogProjection.new canonicalRootId store.listRemoteItems).mapError
    fun error => .failed (.projection error)
  let plan ← store.windowEvents.foldlM
    (planWindowChange provider fuel configuredRemoteRootId canonicalRootId root)
    ⟨projection, [], 0, 0⟩
  -- in the middle of a window a parent may be missing, at its end no longer
  plan.projection.validateComplete.mapError fun error => .failed (.projection error)
  .ok plan

structure SelectedRootBatchExecution where
  providerChanges : ℕ
  storageMutations : ℕ
  authoritativeItems : ℕ
  hydratedItems : ℕ
  rootRevalidations : ℕ
  completedInitialCatchup : Bool
  deriving DecidableEq, Repr

def executeCompletedSelectedRootChangeWindow {RootIdentity : Type}
    (provider : SelectedRootProvider RootIdentity) (fuel : RootCatalogProjection → ℕ)
    (remoteRootId : Option Text) (store : RootStore) :
    ExecutorTrace (RootStore × SelectedRootBatchExecution) := do
  let (window, checkpoint) ← executorRead store.completedWindow
  let plan ← Trace.read (store.planWindow provider fuel remoteRootId)
  let mutations := plan.mutations.map intoStorageMutation
  let (committed, commit) ← executorCommit (store.commitCatalogChangeWindow window.baseCursor
    checkpoint window.changeCount mutations)
  pure (committed, ⟨store.windowEvents.length, mutations.length, commit.authoritativeItems,
    plan.hydratedItems, plan.rootRevalidations, commit.completedInitialCatchup⟩)

end NubiSync
