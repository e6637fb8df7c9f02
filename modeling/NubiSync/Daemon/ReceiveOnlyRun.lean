import NubiSync.Daemon.ChangeWindows
import NubiSync.Daemon.UnifiedConvergence

set_option autoImplicit false

/-! # Receive-only runs

A run alternates rounds of two kinds until the root is idle or its budget is used up: metadata rounds,
which move the catalog on, and rounds of local convergence. What a round calls is a parameter of the run
and may change anything: the metadata steps, the executors of the phases, the scan of the local tree. What
the daemon decides from it is modelled here: where a run starts, when a metadata round goes on to
convergence, when the run stops, and what it reports. -/

namespace NubiSync

open Checks

/-! ## Planning -/

/-- `RemoteInventoryState`, what a run reads of it. -/
structure RemoteInventoryState where
  snapshotComplete : Bool
  catchupComplete : Bool
  deriving DecidableEq, Repr

/-- `sync_root_remote_inventory_state`: a root without a row has neither a snapshot nor a catch-up. -/
def RootStore.remoteInventoryState (store : RootStore) : RemoteInventoryState :=
  match store.remoteState with
  | some row => ⟨row.snapshotComplete, row.catchupComplete⟩
  | none => ⟨false, false⟩

/-- `selected_root_materialization_inputs`, on a scan of the local tree. -/
def RootStore.materializationInputs (store : RootStore) (mode : SyncMode)
    (scan : Except SelectedRootExecutorError (List LocalTreeEntry)) :
    Except SelectedRootExecutorError (List RemoteItem × List LocalTreeEntry) := do
  refuseIf (mode != .receiveOnly) .localPlanModeUnsupported
  refuseIf (!store.remoteInventoryState.snapshotComplete) .localPlanSnapshotMissing
  refuseIf (!store.remoteInventoryState.catchupComplete) .localPlanCatchupIncomplete
  refuseIf store.windowState.isSome .localPlanChangeWindowPending
  refuseIf store.changeCursor.isNone .localPlanCursorMissing
  let remoteItems := store.listRemoteItems
  refuseIf (remoteItems.length != store.catalog.itemCount) .localPlanCatalogItemCountMismatch
  let localEntries ← scan
  .ok (remoteItems, localEntries)

/-- `list_sync_root_stale_file_materialization_receipts`. -/
def RootStore.listStaleFileReceipts (store : RootStore) :
    Except StorageError (List FileReceiptRow) := do
  let receipts := (store.catalog.fileReceipts.rows.filter (·.receiptState == .stale)).insertionSort
    fun left right => left.remoteId ≤ right.remoteId
  receipts.forM fun receipt =>
    validateMaterializationReceiptValues receipt.remoteId receipt.relativePath receipt.sha256Hex
  .ok receipts

/-- `list_sync_root_stale_directory_materialization_receipts`. -/
def RootStore.listStaleDirectoryReceipts (store : RootStore) :
    Except StorageError (List DirectoryReceiptRow) := do
  let receipts :=
    (store.catalog.directoryReceipts.rows.filter (·.receiptState == .stale)).insertionSort
      fun left right => left.remoteId ≤ right.remoteId
  receipts.forM fun receipt =>
    validateDirectoryMaterializationReceiptValues receipt.remoteId receipt.relativePath
  .ok receipts

/-- A receipt as the planner takes it. -/
def ownershipReceipt (remoteId relativePath : Text) (kind : LocalTreeEntryKind)
    (state : ReceiveOnlyReceiptState) :
    Except SelectedRootExecutorError ReceiveOnlyOwnershipReceipt :=
  (ReceiveOnlyOwnershipReceipt.new remoteId relativePath kind state).mapError .convergencePlan

/-- The file receipts of a state, as the planner takes them. -/
def fileOwnership (state : ReceiveOnlyReceiptState) (receipts : List FileReceiptRow) :
    Except SelectedRootExecutorError (List ReceiveOnlyOwnershipReceipt) :=
  receipts.mapM fun receipt => ownershipReceipt receipt.remoteId receipt.relativePath .file state

/-- The directory receipts of a state, as the planner takes them. -/
def directoryOwnership (state : ReceiveOnlyReceiptState) (receipts : List DirectoryReceiptRow) :
    Except SelectedRootExecutorError (List ReceiveOnlyOwnershipReceipt) :=
  receipts.mapM fun receipt => ownershipReceipt receipt.remoteId receipt.relativePath .directory state

def planSelectedRootReceiveOnlyConvergence (store : RootStore) (mode : SyncMode)
    (scan : Except SelectedRootExecutorError (List LocalTreeEntry)) :
    Except SelectedRootExecutorError ReceiveOnlyConvergencePlan := do
  let (remoteItems, localEntries) ← store.materializationInputs mode scan
  let files ← fromStorage store.listFileReceipts
  let currentFiles ← fileOwnership .current files
  let staleFiles ← fromStorage store.listStaleFileReceipts
  let staleFiles ← fileOwnership .stale staleFiles
  let directories ← fromStorage store.listDirectoryReceipts
  let currentDirectories ← directoryOwnership .current directories
  let staleDirectories ← fromStorage store.listStaleDirectoryReceipts
  let staleDirectories ← directoryOwnership .stale staleDirectories
  planRootConvergence ⟨remoteItems, localEntries,
    currentFiles ++ staleFiles ++ currentDirectories ++ staleDirectories⟩

/-! ## Totals -/

/-- What the executions of this module count of the work that was done. -/
structure ConvergenceTotals where
  directoriesCreated : ℕ
  filesMaterialized : ℕ
  filesVerified : ℕ
  filesReplaced : ℕ
  filesDeleted : ℕ
  directoriesDeleted : ℕ
  bytesDownloaded : ℕ
  bytesVerified : ℕ
  receiptsRecorded : ℕ
  receiptsDeleted : ℕ
  deriving DecidableEq, Repr

/-- Nothing was done. -/
def ConvergenceTotals.zero : ConvergenceTotals := ⟨0, 0, 0, 0, 0, 0, 0, 0, 0, 0⟩

/-- The `receive_only_run_add_usize` and `receive_only_run_add_u64` of a round. -/
def ConvergenceTotals.checkedAdd (run round : ConvergenceTotals) :
    Except SelectedRootExecutorError ConvergenceTotals := do
  let directoriesCreated ← checkedCount run.directoriesCreated round.directoriesCreated
  let filesMaterialized ← checkedCount run.filesMaterialized round.filesMaterialized
  let filesVerified ← checkedCount run.filesVerified round.filesVerified
  let filesReplaced ← checkedCount run.filesReplaced round.filesReplaced
  let filesDeleted ← checkedCount run.filesDeleted round.filesDeleted
  let directoriesDeleted ← checkedCount run.directoriesDeleted round.directoriesDeleted
  let bytesDownloaded ← checkedCount run.bytesDownloaded round.bytesDownloaded
  let bytesVerified ← checkedCount run.bytesVerified round.bytesVerified
  let receiptsRecorded ← checkedCount run.receiptsRecorded round.receiptsRecorded
  let receiptsDeleted ← checkedCount run.receiptsDeleted round.receiptsDeleted
  .ok ⟨directoriesCreated, filesMaterialized, filesVerified, filesReplaced, filesDeleted,
    directoriesDeleted, bytesDownloaded, bytesVerified, receiptsRecorded, receiptsDeleted⟩

/-- What the executor of a phase reports: the items it worked through, the bytes it downloaded or
    verified, and the receipts it wrote or deleted. -/
structure SelectedRootPhaseExecution where
  items : ℕ
  bytes : ℕ
  receipts : ℕ
  deriving DecidableEq, Repr

/-- The counters the report of a phase goes to. -/
def SelectedRootPhaseExecution.totals (result : SelectedRootPhaseExecution) :
    SelectedRootUnifiedConvergencePhase → ConvergenceTotals
  | .createDirectories =>
      { ConvergenceTotals.zero with
        directoriesCreated := result.items
        -- every directory that was created is recorded
        receiptsRecorded := result.items }
  | .materializeMissingFiles =>
      { ConvergenceTotals.zero with
        filesMaterialized := result.items
        bytesDownloaded := result.bytes
        receiptsRecorded := result.receipts }
  | .verifyExistingFiles =>
      { ConvergenceTotals.zero with
        filesVerified := result.items
        bytesVerified := result.bytes
        receiptsRecorded := result.receipts }
  | .replaceStaleFiles =>
      { ConvergenceTotals.zero with
        filesReplaced := result.items
        bytesDownloaded := result.bytes
        receiptsRecorded := result.receipts }
  | .deleteStaleFiles =>
      { ConvergenceTotals.zero with
        filesDeleted := result.items
        bytesVerified := result.bytes
        receiptsDeleted := result.receipts }
  | .deleteStaleDirectories =>
      { ConvergenceTotals.zero with
        directoriesDeleted := result.items
        receiptsDeleted := result.receipts }

/-! ## What a run calls -/

/-- The root a run is for, with what it reads and calls. A state is the store with everything else that
    the calls read and write: the local tree, the provider. -/
structure ReceiveOnlyEnvironment (σ : Type) where
  mode : SyncMode
  store : σ → RootStore
  scanSelectedRootLocalTree : σ → Except SelectedRootExecutorError (List LocalTreeEntry)
  /-- `bootstrap_selected_root_snapshot`: the authoritative items. -/
  bootstrapSnapshot : σ → Except SelectedRootExecutorError (σ × ℕ)
  collectChangeWindowPage :
    σ → Except SelectedRootExecutorError (σ × SelectedRootChangeWindowCollection)
  executeCompletedChangeWindow :
    σ → Except SelectedRootExecutorError (σ × SelectedRootBatchExecution)
  executePhase : SelectedRootUnifiedConvergencePhase →
    σ → Except SelectedRootExecutorError (σ × SelectedRootPhaseExecution)

namespace ReceiveOnlyEnvironment

variable {σ : Type} (env : ReceiveOnlyEnvironment σ)

/-- The plan of a state. -/
def planConvergence (s : σ) : Except SelectedRootExecutorError ReceiveOnlyConvergencePlan :=
  planSelectedRootReceiveOnlyConvergence (env.store s) env.mode (env.scanSelectedRootLocalTree s)

/-- The window of a state, by whether it is complete. -/
def windowComplete (s : σ) : Option Bool :=
  (env.store s).windowState.map SyncRootChangeWindowState.isComplete

/-- A complete snapshot and catch-up, and no open window. -/
def metadataStable (s : σ) : Bool :=
  (env.store s).remoteInventoryState.snapshotComplete
    && (env.store s).remoteInventoryState.catchupComplete && (env.windowComplete s).isNone

end ReceiveOnlyEnvironment

/-! ## A step of convergence -/

/-- `SelectedRootUnifiedConvergenceStopReason` of an execution: a reason of the decision, or one of its
    own. -/
inductive UnifiedConvergenceStop where
  | converged
  | phaseCompleted
  | blockedAfterPhase
  | safeStop (reason : SelectedRootUnifiedConvergenceStopReason)
  deriving DecidableEq, Repr

structure SelectedRootUnifiedConvergenceExecution extends ConvergenceTotals where
  initialActions : ℕ
  phaseExecuted : Option SelectedRootUnifiedConvergencePhase
  phaseActionsPlanned : ℕ
  phaseActionsExecuted : ℕ
  finalActions : ℕ
  finalBlockedActions : ℕ
  nextPhase : Option SelectedRootUnifiedConvergencePhase
  converged : Bool
  requiresAnotherInvocation : Bool
  manualInterventionRequired : Bool
  stopReason : UnifiedConvergenceStop
  deriving DecidableEq, Repr

def SelectedRootUnifiedConvergencePhase.requiresContentProvider :
    SelectedRootUnifiedConvergencePhase → Bool
  | .materializeMissingFiles | .verifyExistingFiles | .replaceStaleFiles => true
  | .createDirectories | .deleteStaleFiles | .deleteStaleDirectories => false

/-- What the plan after a phase makes of its execution. -/
def SelectedRootUnifiedConvergenceExecution.conclude
    (execution : SelectedRootUnifiedConvergenceExecution) (finalPlan : ReceiveOnlyConvergencePlan) :
    Except SelectedRootExecutorError SelectedRootUnifiedConvergenceExecution :=
  let execution := { execution with
    finalActions := finalPlan.actionCount
    finalBlockedActions := finalPlan.blockedActions }
  if finalPlan.blocked then
    .ok { execution with stopReason := .blockedAfterPhase, manualInterventionRequired := true }
  else do
    match ← decideSelectedRootUnifiedConvergenceStep finalPlan with
    | .converged => .ok { execution with converged := true, stopReason := .converged }
    | .dispatch phase _ =>
        .ok { execution with
          nextPhase := some phase, requiresAnotherInvocation := true, stopReason := .phaseCompleted }
    | .safeStop reason =>
        .ok { execution with stopReason := .safeStop reason, manualInterventionRequired := true }

def executeSelectedRootUnifiedConvergenceStep {σ : Type} (env : ReceiveOnlyEnvironment σ)
    (hasProvider : Bool) (s : σ) :
    Except SelectedRootExecutorError (σ × SelectedRootUnifiedConvergenceExecution) := do
  let initialPlan ← env.planConvergence s
  match ← decideSelectedRootUnifiedConvergenceStep initialPlan with
  | .converged =>
      .ok (s, ⟨.zero, initialPlan.actionCount, none, 0, 0, 0, 0, none, true, false, false, .converged⟩)
  | .safeStop reason =>
      .ok (s, ⟨.zero, initialPlan.actionCount, none, 0, 0, initialPlan.actionCount,
        initialPlan.blockedActions, none, false, false, true, .safeStop reason⟩)
  | .dispatch phase plannedActions => do
      refuseIf (phase.requiresContentProvider && !hasProvider) .unifiedConvergenceProviderRequired
      let (s, result) ← env.executePhase phase s
      refuseIf (result.items != plannedActions) .unifiedConvergencePhaseCountMismatch
      let finalPlan ← env.planConvergence s
      let execution ← SelectedRootUnifiedConvergenceExecution.conclude
        ⟨result.totals phase, initialPlan.actionCount, some phase, plannedActions, result.items,
          initialPlan.actionCount, initialPlan.blockedActions, none, false, false, false,
          .phaseCompleted⟩ finalPlan
      .ok (s, execution)

/-! ## A cycle -/

inductive SelectedRootReceiveOnlyCycleMetadataPhase where
  | bootstrap
  | collectChangePage
  | executeWindow
  deriving DecidableEq, Repr

inductive SelectedRootReceiveOnlyCycleStopReason where
  | metadataStepCompleted
  | converged
  | convergencePhaseCompleted
  | manualInterventionRequired
  deriving DecidableEq, Repr

structure SelectedRootReceiveOnlyCycleExecution extends ConvergenceTotals where
  metadataPhase : SelectedRootReceiveOnlyCycleMetadataPhase
  metadataAuthoritativeItems : ℕ
  metadataPageCount : ℕ
  metadataChangeCount : ℕ
  metadataCatalogMutations : ℕ
  metadataWindowComplete : Bool
  initialCatchupComplete : Bool
  convergenceExecuted : Bool
  convergencePhase : Option SelectedRootUnifiedConvergencePhase
  convergenceActionsExecuted : ℕ
  finalActions : ℕ
  finalBlockedActions : ℕ
  nextMetadataPhase : SelectedRootReceiveOnlyCycleMetadataPhase
  nextConvergencePhase : Option SelectedRootUnifiedConvergencePhase
  converged : Bool
  requiresAnotherInvocation : Bool
  manualInterventionRequired : Bool
  stopReason : SelectedRootReceiveOnlyCycleStopReason
  deriving DecidableEq, Repr

def classifySelectedRootReceiveOnlyCycleMetadataPhase (snapshotComplete : Bool)
    (windowComplete : Option Bool) : SelectedRootReceiveOnlyCycleMetadataPhase :=
  if !snapshotComplete then .bootstrap
  else
    match windowComplete with
    | some true => .executeWindow
    | some false | none => .collectChangePage

section Cycle

variable {σ : Type} (env : ReceiveOnlyEnvironment σ)

/-- The metadata phase a state calls for. -/
def ReceiveOnlyEnvironment.metadataPhase (s : σ) : SelectedRootReceiveOnlyCycleMetadataPhase :=
  classifySelectedRootReceiveOnlyCycleMetadataPhase (env.store s).remoteInventoryState.snapshotComplete
    (env.windowComplete s)

def planSelectedRootReceiveOnlyCycleMetadataPhase (s : σ) :
    Except SelectedRootExecutorError SelectedRootReceiveOnlyCycleMetadataPhase := do
  refuseIf (env.mode != .receiveOnly) .receiveOnlyCycleModeUnsupported
  .ok (env.metadataPhase s)

/-- The execution a cycle starts from. -/
def cycleStart (metadataPhase : SelectedRootReceiveOnlyCycleMetadataPhase) :
    SelectedRootReceiveOnlyCycleExecution where
  toConvergenceTotals := .zero
  metadataPhase := metadataPhase
  metadataAuthoritativeItems := 0
  metadataPageCount := 0
  metadataChangeCount := 0
  metadataCatalogMutations := 0
  metadataWindowComplete := false
  initialCatchupComplete := false
  convergenceExecuted := false
  convergencePhase := none
  convergenceActionsExecuted := 0
  finalActions := 0
  finalBlockedActions := 0
  nextMetadataPhase := metadataPhase
  nextConvergencePhase := none
  converged := false
  requiresAnotherInvocation := true
  manualInterventionRequired := false
  stopReason := .metadataStepCompleted

/-- The metadata step of a cycle. -/
def executeMetadataPhase (s : σ) (execution : SelectedRootReceiveOnlyCycleExecution) :
    Except SelectedRootExecutorError (σ × SelectedRootReceiveOnlyCycleExecution) :=
  match execution.metadataPhase with
  | .bootstrap => do
      let (s, authoritativeItems) ← env.bootstrapSnapshot s
      .ok (s, { execution with metadataAuthoritativeItems := authoritativeItems })
  | .collectChangePage => do
      let (s, result) ← env.collectChangeWindowPage s
      .ok (s, { execution with
        metadataPageCount := result.pageCount
        metadataChangeCount := result.changeCount
        metadataWindowComplete := result.complete })
  | .executeWindow => do
      let (s, result) ← env.executeCompletedChangeWindow s
      .ok (s, { execution with
        metadataAuthoritativeItems := result.authoritativeItems
        metadataChangeCount := result.providerChanges
        metadataCatalogMutations := result.storageMutations })

/-- What a cycle takes over from its step of convergence. -/
def SelectedRootReceiveOnlyCycleExecution.converge (execution : SelectedRootReceiveOnlyCycleExecution)
    (convergence : SelectedRootUnifiedConvergenceExecution) :
    SelectedRootReceiveOnlyCycleExecution :=
  { execution with
    toConvergenceTotals := convergence.toConvergenceTotals
    convergenceExecuted := true
    convergencePhase := convergence.phaseExecuted
    convergenceActionsExecuted := convergence.phaseActionsExecuted
    finalActions := convergence.finalActions
    finalBlockedActions := convergence.finalBlockedActions
    nextConvergencePhase := convergence.nextPhase
    converged := convergence.converged
    requiresAnotherInvocation := convergence.requiresAnotherInvocation
    manualInterventionRequired := convergence.manualInterventionRequired
    stopReason :=
      if convergence.manualInterventionRequired then .manualInterventionRequired
      else if convergence.converged then .converged
      else .convergencePhaseCompleted }

def executeSelectedRootReceiveOnlyCycle (s : σ) :
    Except SelectedRootExecutorError (σ × SelectedRootReceiveOnlyCycleExecution) := do
  let metadataPhase ← planSelectedRootReceiveOnlyCycleMetadataPhase env s
  let (s, execution) ← executeMetadataPhase env s (cycleStart metadataPhase)
  let execution := { execution with
    initialCatchupComplete := (env.store s).remoteInventoryState.catchupComplete
    metadataWindowComplete := (env.windowComplete s).getD false
    nextMetadataPhase := env.metadataPhase s }
  if metadataPhase ≠ .executeWindow ∨ env.metadataStable s = false then .ok (s, execution)
  else do
    let (s, convergence) ← executeSelectedRootUnifiedConvergenceStep env true s
    .ok (s, execution.converge convergence)

end Cycle

/-! ## A run -/

inductive SelectedRootReceiveOnlyRunMode where
  | metadata
  | convergence
  deriving DecidableEq, Repr

inductive SelectedRootReceiveOnlyRunStopReason where
  | converged
  | roundBudgetExhausted
  | manualInterventionRequired
  deriving DecidableEq, Repr

def supervisedReceiveOnlyRunMaxRounds : ℕ := 8

structure SelectedRootReceiveOnlyRunExecution extends ConvergenceTotals where
  maxRounds : ℕ
  roundsExecuted : ℕ
  metadataRounds : ℕ
  convergenceOnlyRounds : ℕ
  bootstrapRounds : ℕ
  collectChangePageRounds : ℕ
  executeWindowRounds : ℕ
  convergencePhasesExecuted : ℕ
  finalConvergenceKnown : Bool
  finalActions : ℕ
  finalBlockedActions : ℕ
  nextMetadataPhase : SelectedRootReceiveOnlyCycleMetadataPhase
  nextConvergencePhase : Option SelectedRootUnifiedConvergencePhase
  converged : Bool
  requiresAnotherInvocation : Bool
  manualInterventionRequired : Bool
  stopReason : SelectedRootReceiveOnlyRunStopReason
  deriving DecidableEq, Repr

def classifySelectedRootReceiveOnlyRunStart (snapshotComplete catchupComplete windowPresent : Bool)
    (convergenceActions : ℕ) : SelectedRootReceiveOnlyRunMode :=
  if snapshotComplete && catchupComplete && !windowPresent && convergenceActions != 0 then .convergence
  else .metadata

def accumulateReceiveOnlyCycle (run : SelectedRootReceiveOnlyRunExecution)
    (cycle : SelectedRootReceiveOnlyCycleExecution) :
    Except SelectedRootExecutorError SelectedRootReceiveOnlyRunExecution := do
  let metadataRounds ← checkedCount run.metadataRounds 1
  let bootstrapRounds ← checkedCount run.bootstrapRounds
    (if cycle.metadataPhase = .bootstrap then 1 else 0)
  let collectChangePageRounds ← checkedCount run.collectChangePageRounds
    (if cycle.metadataPhase = .collectChangePage then 1 else 0)
  let executeWindowRounds ← checkedCount run.executeWindowRounds
    (if cycle.metadataPhase = .executeWindow then 1 else 0)
  let convergencePhasesExecuted ← checkedCount run.convergencePhasesExecuted
    (if cycle.convergencePhase.isSome then 1 else 0)
  let totals ← run.toConvergenceTotals.checkedAdd cycle.toConvergenceTotals
  let run := { run with
    toConvergenceTotals := totals
    metadataRounds := metadataRounds
    bootstrapRounds := bootstrapRounds
    collectChangePageRounds := collectChangePageRounds
    executeWindowRounds := executeWindowRounds
    convergencePhasesExecuted := convergencePhasesExecuted
    nextMetadataPhase := cycle.nextMetadataPhase }
  if cycle.convergenceExecuted then
    .ok { run with
      finalConvergenceKnown := true
      finalActions := cycle.finalActions
      finalBlockedActions := cycle.finalBlockedActions
      nextConvergencePhase := cycle.nextConvergencePhase }
  else .ok run

def accumulateReceiveOnlyConvergence (run : SelectedRootReceiveOnlyRunExecution)
    (convergence : SelectedRootUnifiedConvergenceExecution) :
    Except SelectedRootExecutorError SelectedRootReceiveOnlyRunExecution := do
  let convergenceOnlyRounds ← checkedCount run.convergenceOnlyRounds 1
  let convergencePhasesExecuted ← checkedCount run.convergencePhasesExecuted
    (if convergence.phaseExecuted.isSome then 1 else 0)
  let totals ← run.toConvergenceTotals.checkedAdd convergence.toConvergenceTotals
  .ok { run with
    toConvergenceTotals := totals
    convergenceOnlyRounds := convergenceOnlyRounds
    convergencePhasesExecuted := convergencePhasesExecuted
    finalConvergenceKnown := true
    finalActions := convergence.finalActions
    finalBlockedActions := convergence.finalBlockedActions
    nextConvergencePhase := convergence.nextPhase }

/-- A run between two rounds. -/
structure ReceiveOnlyRunState (σ : Type) where
  state : σ
  mode : SelectedRootReceiveOnlyRunMode
  metadataObservationStarted : Bool
  run : SelectedRootReceiveOnlyRunExecution

/-- What a round of a run was. -/
inductive ReceiveOnlyRound where
  | metadata (cycle : SelectedRootReceiveOnlyCycleExecution)
  | convergence (execution : SelectedRootUnifiedConvergenceExecution)
  deriving DecidableEq, Repr

/-- How a run goes on after a round: it returns, or the next round follows. -/
inductive RoundOutcome (σ : Type) where
  | returned (state : σ) (run : SelectedRootReceiveOnlyRunExecution)
  | next (st : ReceiveOnlyRunState σ)

/-- The report of a run that needs the owner. -/
def SelectedRootReceiveOnlyRunExecution.intervened (run : SelectedRootReceiveOnlyRunExecution) :
    SelectedRootReceiveOnlyRunExecution :=
  { run with
    manualInterventionRequired := true
    requiresAnotherInvocation := false
    stopReason := .manualInterventionRequired }

/-- The report of a run that found the root idle. -/
def SelectedRootReceiveOnlyRunExecution.idle (run : SelectedRootReceiveOnlyRunExecution) :
    SelectedRootReceiveOnlyRunExecution :=
  { run with
    converged := true
    requiresAnotherInvocation := false
    stopReason := .converged }

/-- The report of a run whose budget is used up. -/
def SelectedRootReceiveOnlyRunExecution.exhausted (run : SelectedRootReceiveOnlyRunExecution) :
    SelectedRootReceiveOnlyRunExecution :=
  { run with requiresAnotherInvocation := true, stopReason := .roundBudgetExhausted }

section Run

variable {σ : Type} (env : ReceiveOnlyEnvironment σ)

/-- One turn of the loop, with the round it executed. -/
def executeRound (st : ReceiveOnlyRunState σ) :
    Except SelectedRootExecutorError (ReceiveOnlyRound × RoundOutcome σ) := do
  let roundsExecuted ← checkedCount st.run.roundsExecuted 1
  let run := { st.run with roundsExecuted := roundsExecuted }
  match st.mode with
  | .metadata => do
      let (s, cycle) ← executeSelectedRootReceiveOnlyCycle env st.state
      let run ← accumulateReceiveOnlyCycle run cycle
      if cycle.manualInterventionRequired then .ok (.metadata cycle, .returned s run.intervened)
      else if cycle.converged then .ok (.metadata cycle, .returned s run.idle)
      else if cycle.convergenceExecuted then
        .ok (.metadata cycle, .next ⟨s, .convergence, st.metadataObservationStarted, run⟩)
      else .ok (.metadata cycle, .next ⟨s, .metadata, st.metadataObservationStarted, run⟩)
  | .convergence => do
      let (s, convergence) ← executeSelectedRootUnifiedConvergenceStep env true st.state
      let run ← accumulateReceiveOnlyConvergence run convergence
      if convergence.manualInterventionRequired then
        .ok (.convergence convergence, .returned s run.intervened)
      else if convergence.converged then
        -- what was idle before any metadata was observed is not yet idle
        if st.metadataObservationStarted then .ok (.convergence convergence, .returned s run.idle)
        else do
          let nextMetadataPhase ← planSelectedRootReceiveOnlyCycleMetadataPhase env s
          .ok (.convergence convergence,
            .next ⟨s, .metadata, true, { run with nextMetadataPhase := nextMetadataPhase }⟩)
      else
        .ok (.convergence convergence,
          .next ⟨s, .convergence, st.metadataObservationStarted, run⟩)

/-- The loop, for the rounds that are left of the budget. -/
def executeRounds : ℕ → ReceiveOnlyRunState σ →
    Except SelectedRootExecutorError (σ × SelectedRootReceiveOnlyRunExecution)
  | 0, st => .ok (st.state, st.run.exhausted)
  | rounds + 1, st => do
      let (_, outcome) ← executeRound env st
      match outcome with
      | .returned s run => .ok (s, run)
      | .next st => executeRounds rounds st

/-- The actions that decide where a run starts. -/
def startActions (s : σ) : Except SelectedRootExecutorError ℕ :=
  if env.metadataStable s then do
    let plan ← env.planConvergence s
    .ok plan.actionCount
  else .ok 0

/-- A run before its first round. -/
def startRun (s : σ) : Except SelectedRootExecutorError (ReceiveOnlyRunState σ) := do
  refuseIf (env.mode != .receiveOnly) .receiveOnlyCycleModeUnsupported
  let convergenceActions ← startActions env s
  let inventory := (env.store s).remoteInventoryState
  let mode := classifySelectedRootReceiveOnlyRunStart inventory.snapshotComplete
    inventory.catchupComplete (env.windowComplete s).isSome convergenceActions
  let nextMetadataPhase ← planSelectedRootReceiveOnlyCycleMetadataPhase env s
  .ok ⟨s, mode, decide (mode = .metadata), {
    toConvergenceTotals := .zero
    maxRounds := supervisedReceiveOnlyRunMaxRounds
    roundsExecuted := 0
    metadataRounds := 0
    convergenceOnlyRounds := 0
    bootstrapRounds := 0
    collectChangePageRounds := 0
    executeWindowRounds := 0
    convergencePhasesExecuted := 0
    finalConvergenceKnown := false
    finalActions := 0
    finalBlockedActions := 0
    nextMetadataPhase := nextMetadataPhase
    nextConvergencePhase := none
    converged := false
    requiresAnotherInvocation := true
    manualInterventionRequired := false
    stopReason := .roundBudgetExhausted }⟩

def executeSelectedRootReceiveOnlyRunToIdle (s : σ) :
    Except SelectedRootExecutorError (σ × SelectedRootReceiveOnlyRunExecution) := do
  let st ← startRun env s
  executeRounds env st.run.maxRounds st

end Run

end NubiSync
