import NubiSync.Cli.MetadataRefresh
import NubiSync.Storage.RootHistory

set_option autoImplicit false

/-! # Commands are runs of storage operations

A command changes a root by the transactions of its store only, so every state that a confirmation or a
metadata refresh leaves, at its end or where it is cut off, is reached by storage operations. What holds
of every run of the operations holds of the commands. -/

namespace NubiSync

open Checks Transactions

variable {store start : RootStore}

/-! ## Transactions -/

/-- A transaction that is an operation goes on with the run. -/
theorem RootStore.Reaches.apply {α : Type} {op : RootOperation}
    {result : Except StorageError (RootStore × α)} (hstart : start.Reaches store)
    (hop : store.apply op = stateOf result) {next : RootStore} {a : α} (h : result = .ok (next, a)) :
    start.Reaches next := by
  refine hstart.tail op trivial (hop.trans ?_)
  rw [h]
  rfl

theorem executorCommit_leaves {α : Type} (op : RootOperation)
    {result : Except StorageError (RootStore × α)} (hstart : start.Reaches store)
    (hop : store.apply op = stateOf result) :
    (executorCommit result).Leaves start.Reaches fun r => start.Reaches r.1 := by
  refine .commit fun next a h => ?_
  have hnext := hstart.apply hop (mapError_eq_ok.mp (mapError_eq_ok.mp h))
  exact ⟨hnext, hnext⟩

theorem cliCommit_leaves {α : Type} (op : RootOperation)
    {result : Except StorageError (RootStore × α)} (hstart : start.Reaches store)
    (hop : store.apply op = stateOf result) :
    (cliCommit result).Leaves start.Reaches fun r => start.Reaches r.1 := by
  refine .commit fun next a h => ?_
  have hnext := hstart.apply hop (mapError_eq_ok.mp h)
  exact ⟨hnext, hnext⟩

theorem cliExecutor_leaves {α : Type} {trace : ExecutorTrace α} {P : RootStore → Prop} {Q : α → Prop}
    (h : trace.Leaves P Q) : (cliExecutor trace).Leaves P Q :=
  ⟨h.stores, fun a ha => h.result a (mapError_eq_ok.mp ha)⟩

/-! ## Windows -/

theorem stageListedPage_leaves (provider : SelectedRootChangeProvider) (hstart : start.Reaches store)
    (baseCursor : ChangeCursor) (continuation : Option ContinuationToken) :
    (stageListedPage provider store baseCursor continuation).Leaves start.Reaches
      fun r => start.Reaches r.1 := by
  refine .read_bind fun page _ => .bind (executorCommit_leaves
    (.inventory (.stageWindowPage baseCursor continuation page)) hstart rfl) fun both h => ?_
  exact .pure h

theorem collectPage_leaves (provider : SelectedRootChangeProvider) (hstart : start.Reaches store) :
    (collectSelectedRootChangeWindowPage provider store).Leaves start.Reaches
      fun r => start.Reaches r.1 := by
  unfold collectSelectedRootChangeWindowPage
  split
  · split
    · exact .pure hstart
    · exact stageListedPage_leaves provider hstart _ _
  · exact .read_bind fun base _ => stageListedPage_leaves provider hstart base none

theorem collectChangeWindow_reaches (provider : SelectedRootChangeProvider) (limit : CliError)
    (pages : ℕ) (hstart : start.Reaches store) :
    (collectChangeWindow provider limit pages store).Leaves start.Reaches start.Reaches := by
  induction pages generalizing store with
  | zero => exact .error
  | succ pages ih =>
      refine .bind (cliExecutor_leaves (collectPage_leaves provider hstart)) ?_
      intro ⟨staged, collection⟩ h
      simp only
      split
      · exact .pure h
      · exact ih h

section Commands

variable {RootIdentity : Type} (api : GoogleDriveApi RootIdentity) (fuel : RootCatalogProjection → ℕ)
  (remoteRootId : Option Text)

theorem executeWindow_leaves (provider : SelectedRootProvider RootIdentity)
    (hstart : start.Reaches store) :
    (executeCompletedSelectedRootChangeWindow provider fuel remoteRootId store).Leaves start.Reaches
      fun r => start.Reaches r.1 := by
  refine .read_bind fun window _ => .read_bind fun plan _ => ?_
  refine .bind (executorCommit_leaves (.inventory (.commitWindow window.1.baseCursor window.2
    window.1.changeCount (plan.mutations.map intoStorageMutation))) hstart rfl) fun both h => ?_
  exact .pure h

/-! ## The commands -/

theorem transitionAwaited_leaves (create : AwaitedCreate) (status : RemoteWriteIntentStatus)
    (now : UnixTimeMs) (hstart : start.Reaches store) :
    (cliCommit (store.transitionAwaited create status now)).Leaves start.Reaches
      fun r => start.Reaches r.1 := by
  unfold RootStore.transitionAwaited
  cases create.kind with
  | file =>
      exact cliCommit_leaves (.intents (.transitionFileCreate create.intentId .awaitingConfirmation
        create.executionGeneration status now.value)) hstart rfl
  | folder =>
      exact cliCommit_leaves (.intents (.transitionFolderCreate create.intentId .awaitingConfirmation
        create.executionGeneration status now.value)) hstart rfl

/-- **What a confirmation leaves is reached by storage operations**, wherever it stops. -/
theorem confirmCreate_leaves (kind : CreateKind) (now : UnixTimeMs) (hstart : start.Reaches store) :
    (confirmCreate kind api fuel remoteRootId now store).Leaves start.Reaches fun _ => True := by
  refine .read_bind fun awaited _ => ?_
  cases awaited with
  | none => exact .pure trivial
  | some create =>
      refine .read_bind fun _ _ => .bind (collectChangeWindow_reaches _ _ _ hstart) fun collected h => ?_
      refine .read_bind fun _ _ => ?_
      cases create.lastTargetExact collected.windowEvents with
      | none =>
          refine .bind (cliCommit_leaves (.inventory (.discardWindow create.preSubmitCursor)) h rfl)
            fun both _ => ?_
          exact .read_bind fun _ _ => .read_bind fun _ _ => .pure trivial
      | some changeExact =>
          refine .read_bind fun providerExact _ => ?_
          refine .bind (cliExecutor_leaves (executeWindow_leaves fuel remoteRootId _ h)) fun both h => ?_
          refine .bind (transitionAwaited_leaves create _ now h) fun both _ => ?_
          exact .read_bind fun _ _ => .pure trivial

theorem refresh_leaves (hstart : start.Reaches store) :
    (syncRootsRefreshTwoWayMetadata api fuel remoteRootId store).Leaves start.Reaches
      fun _ => True := by
  refine .read_bind fun _ _ => .bind (collectChangeWindow_reaches _ _ _ hstart) fun collected h => ?_
  refine .bind (cliExecutor_leaves (executeWindow_leaves fuel remoteRootId _ h)) fun both _ => ?_
  exact .read_bind fun _ _ => .pure trivial

end Commands

theorem Refreshes.reaches {next : RootStore} (h : Refreshes store next) (hstart : start.Reaches store) :
    start.Reaches next := by
  induction h with
  | refl => exact hstart
  | tail _ hstep ih =>
      obtain ⟨RootIdentity, api, fuel, remoteRootId, rfl⟩ := hstep
      exact (refresh_leaves api fuel remoteRootId ih).last ih

end NubiSync
