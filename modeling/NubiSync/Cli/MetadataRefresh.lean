import NubiSync.Cli.PageCollection

set_option autoImplicit false

/-! # The metadata refresh of a two-way root

`refresh-two-way-metadata` brings the catalog up to the provider's feed: it collects a window and
executes it. It is refused while a create is submitted or awaits its confirmation, and its last checks
compare the local side and the intents with what they were. -/

namespace NubiSync

open Checks Transactions

/-! ## The command -/

/-- The number of intents of a status. -/
def RootStore.intentStatusCount (store : RootStore) (status : RemoteWriteIntentStatus) : ℕ :=
  store.intents.rows.countP (·.status == status)

/-- `pending_sync_root_local_change_event_count`. -/
def RootStore.pendingLocalChangeEventCount (store : RootStore) (baselineGeneration : ℕ) : ℕ :=
  store.localEvents.rows.countP (·.isPending baselineGeneration)

/-- `two_way_metadata_refresh_base_cursor`. -/
def RootStore.metadataRefreshBaseCursor (store : RootStore) : Except CliError ChangeCursor := do
  let state ← orRefuse store.remoteState (.metadataRefresh .remoteStateNotReady)
  refuseIf (!state.snapshotComplete) (.metadataRefresh .remoteStateNotReady)
  if state.catchupComplete then orRefuse store.changeCursor (.metadataRefresh .remoteStateNotReady)
  else orRefuse state.catchupFromCursor (.metadataRefresh .remoteStateNotReady)

/-- What the command checks before its first call. -/
def RootStore.checkMetadataRefresh (store : RootStore) : Except CliError Unit := do
  refuseIf (store.mode != .twoWay) (.metadataRefresh .modeUnsupported)
  refuseIf (store.intentStatusCount .submitted != 0
    || store.intentStatusCount .awaitingConfirmation != 0) (.metadataRefresh .confirmationFenceActive)
  let state := store.localInventoryState
  refuseIf (!state.snapshotComplete || !state.observationValid) (.metadataRefresh .localStateNotReady)
  let _ ← store.metadataRefreshBaseCursor

/-- What the command checks after its commit. -/
def RootStore.checkMetadataRefreshed (before after : RootStore) : Except CliError Unit := do
  -- a refresh moves the remote side and nothing else
  let stateBefore := before.localInventoryState
  let stateAfter := after.localInventoryState
  refuseIf (stateAfter.generation != stateBefore.generation
    || stateAfter.itemCount != stateBefore.itemCount
    || stateAfter.snapshotCompletedAtUnixMs != stateBefore.snapshotCompletedAtUnixMs
    || stateAfter.observationValid != stateBefore.observationValid
    || after.pendingLocalChangeEventCount stateAfter.generation
      != before.pendingLocalChangeEventCount stateBefore.generation)
    (.metadataRefresh .localStateChanged)
  refuseIf after.windowState.isSome (.metadataRefresh .windowNotCleared)
  refuseIf (after.intents.rows.length != before.intents.rows.length)
    (.metadataRefresh .intentStateChanged)
  refuseIf (!after.remoteState.any fun state => state.snapshotComplete && state.catchupComplete)
    (.metadataRefresh .remoteStateNotReady)
  refuseIf after.changeCursor.isNone (.metadataRefresh .remoteStateNotReady)

def syncRootsRefreshTwoWayMetadata {RootIdentity : Type} (api : GoogleDriveApi RootIdentity)
    (fuel : RootCatalogProjection → ℕ) (remoteRootId : Option Text) (store : RootStore) :
    CliTrace SelectedRootBatchExecution := do
  cliRead store.checkMetadataRefresh
  let collected ← collectChangeWindow api.toSelectedRootChangeProvider
    (.metadataRefresh .pageLimitExceeded) maxPagesPerApproval store
  let (committed, execution) ← cliExecutor (executeCompletedSelectedRootChangeWindow
    api.toSelectedRootProvider fuel remoteRootId collected)
  cliRead (store.checkMetadataRefreshed committed)
  pure execution

/-! ## Runs of refreshes -/

/-- One refresh, whatever the provider answers: what it leaves when it ends, by success or by an
    error. -/
def RefreshStep (store next : RootStore) : Prop :=
  ∃ (RootIdentity : Type) (api : GoogleDriveApi RootIdentity) (fuel : RootCatalogProjection → ℕ)
    (remoteRootId : Option Text),
    next = (syncRootsRefreshTwoWayMetadata api fuel remoteRootId store).last store

/-- The states that a sequence of refreshes reaches. -/
def Refreshes : RootStore → RootStore → Prop := Relation.ReflTransGen RefreshStep

theorem RefreshStep.remoteOnly {store next : RootStore} (h : RefreshStep store next) :
    RemoteOnly store next := by
  obtain ⟨RootIdentity, api, fuel, remoteRootId, rfl⟩ := h
  have hleaves : (syncRootsRefreshTwoWayMetadata api fuel remoteRootId store).Leaves
      (RemoteOnly store) fun _ => True := by
    refine .read_bind fun _ _ => ?_
    have hpages := collectChangeWindow_leaves api.toSelectedRootChangeProvider
      (.metadataRefresh .pageLimitExceeded) maxPagesPerApproval store
    refine .bind (hpages.mono (fun _ h => h.remoteOnly) fun _ h => h.remoteOnly) fun collected hremote => ?_
    obtain ⟨committed, execution, window, checkpoint, hexecute, -, hcommitted, -, -⟩
      | ⟨error, hexecute⟩ := executeWindow_cases api.toSelectedRootProvider fuel remoteRootId collected
    · rw [cliExecutor, hexecute]
      refine .bind (R := fun _ => True) ⟨fun next h => ?_, fun _ _ => trivial⟩ fun both _ => ?_
      · exact List.mem_singleton.mp h ▸ hremote.trans hcommitted
      · exact .read_bind fun _ _ => .pure trivial
    · rw [cliExecutor, hexecute]
      exact .error
  exact hleaves.last (RemoteOnly.refl _)

theorem Refreshes.remoteOnly {store next : RootStore} (h : Refreshes store next) :
    RemoteOnly store next := by
  induction h with
  | refl => exact RemoteOnly.refl _
  | tail _ hstep ih => exact ih.trans hstep.remoteOnly

end NubiSync
