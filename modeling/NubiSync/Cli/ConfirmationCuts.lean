import NubiSync.Cli.PageCollection
import NubiSync.Storage.CreateCandidates
import NubiSync.Storage.IntentExecution

set_option autoImplicit false

/-! # Confirmations that are cut off

A confirmation that is cut off and run again reaches the status it would have reached, as long as its
change window is still there: the page loop goes on where it stopped, and what follows depends on the
collected window only. But the window is committed in one transaction and the intent moved on in the
next. Between them the window is gone and the durable cursor stands at its checkpoint, so the second
run is refused at the cursor fence, and the intent awaits its confirmation for good.

The count of pages starts again with each run, so a run that its limit of pages stops can come further
when it is cut off and run again. -/

namespace NubiSync

open Checks Transactions

variable {RootIdentity : Type} {create : AwaitedCreate} {api : GoogleDriveApi RootIdentity}
  {fuel : RootCatalogProjection → ℕ} {remoteRootId : Option Text}

/-! ## The intent -/

/-- The status of an intent. -/
def RootStore.intentStatus? (store : RootStore) (intentId : ℕ) : Option RemoteWriteIntentStatus :=
  (store.intents.find? intentId).map RemoteWriteIntentRow.status

/-- The operation of either kind. -/
def CreateKind.operation : CreateKind → RemoteWriteIntentOperation
  | .file => .createFile
  | .folder => .createFolder

/-- The store has the create a command has read from it, awaiting its confirmation. -/
structure AwaitedCreate.Awaits (create : AwaitedCreate) (store : RootStore) : Prop where
  id_ne_zero : create.intentId ≠ 0
  intent : ∃ intent, store.intents.find? create.intentId = some intent
    ∧ intent.operation = create.kind.operation ∧ intent.status = .awaitingConfirmation
    ∧ intent.executionGeneration = create.executionGeneration

theorem AwaitedCreate.Awaits.of_remoteOnly {store next : RootStore} (h : create.Awaits store)
    (hremote : RemoteOnly store next) : create.Awaits next := by
  refine ⟨h.id_ne_zero, ?_⟩
  rw [hremote.intents_eq]
  exact h.intent

theorem AwaitedCreate.Awaits.status {store : RootStore} (h : create.Awaits store) :
    store.intentStatus? create.intentId = some .awaitingConfirmation := by
  obtain ⟨intent, hintent, -, hstatus, -⟩ := h.intent
  rw [RootStore.intentStatus?, hintent, Option.map_some, hstatus]

theorem awaitedFence_eq_ok {store : RootStore} {kind : CreateKind} {intentId generation : ℕ}
    {cursor : ChangeCursor} (h : store.awaitedFence kind intentId generation = .ok cursor) :
    ∃ intent, store.intents.find? intentId = some intent ∧ intent.status = .awaitingConfirmation
      ∧ intent.executionGeneration = generation := by
  unfold RootStore.awaitedFence RootStore.intentExecutionState at h
  simp only [orRefuse_bind_eq_ok, refuseIf_bind_eq_ok, Option.map_eq_some_iff] at h
  obtain ⟨_, ⟨intent, hintent, rfl⟩, hstate, -⟩ := h
  simp only [RemoteWriteIntentRow.executionState, Bool.or_eq_false_iff, bne_eq_false_iff_eq] at hstate
  exact ⟨intent, hintent, hstate.1, hstate.2⟩

/-- A listed candidate with its execution state is an intent of the operation. -/
theorem intent_of_listed {store : RootStore} {kind : CreateKind} {intent : RemoteWriteIntentRow}
    {generation : ℕ} {cursor : ChangeCursor}
    (hlisted : intent ∈ store.intentsOf kind.operation .awaitingConfirmation)
    (hfence : store.awaitedFence kind intent.id generation = .ok cursor) :
    ∃ found, store.intents.find? intent.id = some found ∧ found.operation = kind.operation
      ∧ found.status = .awaitingConfirmation ∧ found.executionGeneration = generation := by
  obtain ⟨hmem, hoperation, -⟩ := mem_intentsOf.mp hlisted
  obtain ⟨found, hfound, hstatus, hgeneration⟩ := awaitedFence_eq_ok hfence
  rw [Table.find?_eq_some_iff.mpr ⟨hmem, rfl⟩] at hfound
  obtain rfl := Option.some.inj hfound
  exact ⟨intent, Table.find?_eq_some_iff.mpr ⟨hmem, rfl⟩, hoperation, hstatus, hgeneration⟩

/-- What a command works on is an intent of its kind that awaits its confirmation. -/
theorem awaits_of_awaitedCreate {kind : CreateKind} {store : RootStore}
    (h : store.awaitedCreate kind = .ok (some create)) :
    create.kind = kind ∧ create.Awaits store := by
  cases kind with
  | file =>
      change store.awaitedFileCreate = _ at h
      unfold RootStore.awaitedFileCreate at h
      obtain ⟨-, h⟩ := (refuseIf_bind_eq_ok _ _ _ _).mp h
      obtain ⟨candidates, hcandidates, h⟩ := bind_eq_ok.mp h
      rw [mapError_eq_ok] at hcandidates
      match candidates, h with
      | [candidate], h =>
          obtain ⟨intent, hlisted, hcandidate⟩ := mem_of_mapM_eq_ok hcandidates List.mem_cons_self
          obtain ⟨size, modified, device, inode, targetId, parent, hcolumns, -, hmade⟩ :=
            fileCreateCandidate_eq_ok_iff.mp hcandidate
          have hid : candidate.intentId = intent.id := congrArg _ hmade
          simp only [bind_eq_ok] at h
          obtain ⟨cursor, hfence, content, -, -, -, h⟩ := h
          obtain rfl := Option.some.inj (Except.ok.inj h)
          refine ⟨rfl, hid ▸ hcolumns.id_ne_zero, ?_⟩
          rw [hid] at hfence ⊢
          exact intent_of_listed hlisted hfence
  | folder =>
      change store.awaitedFolderCreate = _ at h
      unfold RootStore.awaitedFolderCreate at h
      obtain ⟨-, h⟩ := (refuseIf_bind_eq_ok _ _ _ _).mp h
      obtain ⟨candidates, hcandidates, h⟩ := bind_eq_ok.mp h
      rw [mapError_eq_ok] at hcandidates
      match candidates, h with
      | candidate :: _, h =>
          obtain ⟨intent, hlisted, hcandidate⟩ := mem_of_mapM_eq_ok hcandidates List.mem_cons_self
          obtain ⟨modified, device, inode, targetId, parent, hcolumns, hmade⟩ :=
            folderCreateCandidate_eq_ok_iff.mp hcandidate
          have hid : candidate.intentId = intent.id := congrArg _ hmade
          simp only [bind_eq_ok] at h
          obtain ⟨cursor, hfence, -, -, h⟩ := h
          obtain rfl := Option.some.inj (Except.ok.inj h)
          refine ⟨rfl, hid ▸ hcolumns.id_ne_zero, ?_⟩
          rw [hid] at hfence ⊢
          exact intent_of_listed hlisted hfence

/-- What a command works on is read from the local side and the intents only. -/
theorem RemoteOnly.awaitedCreate_eq {store next : RootStore} (h : RemoteOnly store next)
    (kind : CreateKind) : next.awaitedCreate kind = store.awaitedCreate kind := by
  rw [h]
  cases kind <;> rfl

/-! ## What the collected window decides -/

/-- The collected window decides the create: it is the window of the submission, it names the created
    item, the provider answers for the content, and the window can be executed. -/
structure AwaitedCreate.Decides (create : AwaitedCreate) (api : GoogleDriveApi RootIdentity)
    (fuel : RootCatalogProjection → ℕ) (remoteRootId : Option Text) (collected : RootStore) :
    Prop where
  generation_fits : create.executionGeneration < 2 ^ 63
  window : create.checkWindow collected = .ok ()
  named : (create.lastTargetExact collected.windowEvents).isSome
  provider : ∃ exact, create.providerExact api = .ok exact
  executed : ∃ result, (executeCompletedSelectedRootChangeWindow api.toSelectedRootProvider fuel
    remoteRootId collected).result = .ok result

/-- The transition of an awaited create. -/
theorem transitionAwaited_cases {store : RootStore} (hawaits : create.Awaits store)
    {status : RemoteWriteIntentStatus} (hstatus : status = .confirmed ∨ status = .conflict)
    (now : UnixTimeMs) :
    if create.executionGeneration < 2 ^ 63 then
      ∃ transitioned execution, store.transitionAwaited create status now
        = .ok (transitioned, execution) ∧ transitioned.intentStatus? create.intentId = some status
    else ∃ error, store.transitionAwaited create status now = .error error := by
  obtain ⟨intent, hintent, hoperation, hawaiting, hgeneration⟩ := hawaits.intent
  have hid : (create.intentId == 0 || decide (now.value ≤ 0)) = false := by
    have := now.positive
    simp [hawaits.id_ne_zero]
    omega
  -- for the statuses of a confirmation the two tables of transitions agree
  have hcommon : store.transitionAwaited create status now
      = store.transitionCreateIntent create.kind.operation isFolderCreateTransition create.intentId
          .awaitingConfirmation create.executionGeneration status now.value := by
    unfold RootStore.transitionAwaited
    cases create.kind with
    | file =>
        change store.transitionCreateIntent _ _ _ _ _ _ _ = _
        unfold RootStore.transitionCreateIntent
        rcases hstatus with rfl | rfl <;> rfl
    | folder => rfl
  have htransition : isFolderCreateTransition .awaitingConfirmation status = true := by
    rcases hstatus with rfl | rfl <;> rfl
  rw [hcommon]
  unfold RootStore.transitionCreateIntent
  rw [hid, htransition]
  simp only [refuseIf, Bool.not_true, Bool.false_eq_true, ↓reduceIte, ok_bind, toI64]
  split
  · have hwhere : store.intentWhere create.intentId (fun intent =>
        intent.operation == create.kind.operation && intent.status == .awaitingConfirmation
          && intent.executionGeneration == create.executionGeneration) = .ok intent := by
      unfold RootStore.intentWhere
      rw [hintent]
      simp [Option.filter, hoperation, hawaiting, hgeneration, orRefuse]
    simp only [ok_bind, hwhere]
    refine ⟨_, _, rfl, ?_⟩
    have hkey : (intent.transitioned status now.value).id = create.intentId :=
      (Table.find?_eq_some_iff.mp hintent).2
    simp only [RootStore.intentStatus?, Table.find?_upsert, hkey, ↓reduceIte, Option.map_some]
    rfl
  · exact ⟨_, rfl⟩

theorem discardChangeWindow_remoteOnly (store : RootStore) (base : ChangeCursor) :
    Ensures (store.discardChangeWindow base) fun result => RemoteOnly store result.1 := by
  unfold RootStore.discardChangeWindow
  split
  · exact .ok (RemoteOnly.refl _)
  · refine .check fun _ => .after fun state => .after fun cursor => .check fun _ => .ok ?_
    exact rfl

/-- A discard is at most one transaction. -/
theorem discardUnobserved_stores (before collected : RootStore) :
    (create.discardUnobserved before collected).stores = []
      ∨ ∃ s, (create.discardUnobserved before collected).stores = [s]
        ∧ RemoteOnly collected s := by
  unfold AwaitedCreate.discardUnobserved cliCommit
  cases hdiscard : collected.discardChangeWindow create.preSubmitCursor with
  | error error =>
      left
      exact congrArg Trace.stores (Trace.bind_of_error rfl)
  | ok result =>
      obtain ⟨discarded, existed⟩ := result
      right
      refine ⟨discarded, ?_, discardChangeWindow_remoteOnly _ _ _ hdiscard⟩
      rw [Trace.stores_bind_of_nil]
      · rfl
      · intro a
        rw [Trace.stores_bind_of_nil]
        · rfl
        · intro _
          rw [Trace.stores_bind_of_nil]
          · rfl
          · intro _
            rfl

theorem confirmationStatus_cases (changeExact catalogued providerExact : Bool) :
    confirmationStatus changeExact catalogued providerExact = .confirmed
      ∨ confirmationStatus changeExact catalogued providerExact = .conflict := by
  unfold confirmationStatus
  split
  · exact Or.inl rfl
  · exact Or.inr rfl

/-- The transactions of a window that names the created item and can be executed. -/
theorem commitObserved_stores {collected committed : RootStore} {changeExact providerExact : Bool}
    {execution : SelectedRootBatchExecution} (hprovider : create.providerExact api = .ok providerExact)
    (hexecute : executeCompletedSelectedRootChangeWindow api.toSelectedRootProvider fuel remoteRootId
      collected = ⟨[committed], .ok (committed, execution)⟩)
    (now : UnixTimeMs) (before : RootStore) :
    (create.commitObserved api fuel remoteRootId now before collected changeExact).stores
      = committed :: (cliCommit (committed.transitionAwaited create
          (confirmationStatus changeExact (create.isCatalogued committed) providerExact)
          now)).stores := by
  unfold AwaitedCreate.commitObserved
  rw [hprovider]
  simp only [cliRead, mapError_ok, Trace.read_ok_bind, cliExecutor, hexecute]
  rw [Trace.bind_of_ok rfl]
  change [committed] ++ Trace.stores (_ >>= _) = _
  rw [Trace.stores_bind_of_nil]
  · rfl
  · intro result
    rw [Trace.stores_bind_of_nil]
    · rfl
    · intro _
      rfl

/-- What a window that decides the create leads to: its commit closes it, and the intent is moved on in
    the next transaction, to a status that depends on the collected window only. -/
structure AwaitedCreate.MovesOn (create : AwaitedCreate) (api : GoogleDriveApi RootIdentity)
    (fuel : RootCatalogProjection → ℕ) (remoteRootId : Option Text) (collected committed : RootStore)
    (status : RemoteWriteIntentStatus) : Prop where
  remoteOnly : RemoteOnly collected committed
  closed : committed.windowState = none
  cursor : ∃ window checkpoint, collected.completedWindow = .ok (window, checkpoint)
    ∧ committed.changeCursor = some checkpoint
  status_ne : status ≠ .awaitingConfirmation
  stores : ∀ now before, ∃ transitioned,
    (create.conclude api fuel remoteRootId now before collected).stores = [committed, transitioned]
      ∧ transitioned.intentStatus? create.intentId = some status

theorem AwaitedCreate.Decides.movesOn {collected : RootStore} (hawaits : create.Awaits collected)
    (h : create.Decides api fuel remoteRootId collected) :
    ∃ committed status, create.MovesOn api fuel remoteRootId collected committed status := by
  obtain ⟨changeExact, hnamed⟩ := Option.isSome_iff_exists.mp h.named
  obtain ⟨providerExact, hprovider⟩ := h.provider
  obtain ⟨result, hresult⟩ := h.executed
  obtain ⟨committed, execution, window, checkpoint, hexecute, hcompleted, hremote, hclosed, hcursor⟩
    | ⟨error, hexecute⟩ := executeWindow_cases api.toSelectedRootProvider fuel remoteRootId collected
  · have hstatus := confirmationStatus_cases changeExact (create.isCatalogued committed) providerExact
    refine ⟨committed, confirmationStatus changeExact (create.isCatalogued committed) providerExact,
      hremote, hclosed, ⟨window, checkpoint, hcompleted, hcursor⟩, ?_, fun now before => ?_⟩
    · rcases hstatus with hstatus | hstatus <;> rw [hstatus] <;> decide
    · have htransition := transitionAwaited_cases (hawaits.of_remoteOnly hremote) hstatus now
      rw [if_pos h.generation_fits] at htransition
      obtain ⟨transitioned, moved, htransition, hmoved⟩ := htransition
      refine ⟨transitioned, ?_, hmoved⟩
      simp only [AwaitedCreate.conclude, h.window, hnamed, cliRead, mapError_ok,
        Trace.read_ok_bind]
      rw [commitObserved_stores hprovider hexecute, htransition]
      rfl
  · rw [hexecute] at hresult
    cases hresult

/-- A window that does not decide the create leaves the intent as it is. -/
theorem conclude_of_not_decides {collected : RootStore} (hawaits : create.Awaits collected)
    (h : ¬ create.Decides api fuel remoteRootId collected) (now : UnixTimeMs) (before : RootStore) :
    (create.conclude api fuel remoteRootId now before collected).stores = []
      ∨ ∃ s, (create.conclude api fuel remoteRootId now before collected).stores = [s]
        ∧ RemoteOnly collected s := by
  unfold AwaitedCreate.conclude
  cases hwindow : create.checkWindow collected with
  | error error => exact Or.inl rfl
  | ok passed =>
      cases passed
      simp only [cliRead, mapError_ok, Trace.read_ok_bind]
      cases hnamed : create.lastTargetExact collected.windowEvents with
      | none => exact discardUnobserved_stores before collected
      | some changeExact =>
          cases hprovider : create.providerExact api with
          | error error =>
              left
              simp only [AwaitedCreate.commitObserved, hprovider, cliRead, mapError_error,
                Trace.read_error_bind]
          | ok providerExact =>
              obtain ⟨committed, execution, window, checkpoint, hexecute, -, hremote, -, -⟩
                | ⟨error, hexecute⟩ := executeWindow_cases api.toSelectedRootProvider fuel
                  remoteRootId collected
              · -- the window was committed, so what went wrong is the generation that no longer fits
                have hfits : ¬ create.executionGeneration < 2 ^ 63 := fun hfits =>
                  h ⟨hfits, hwindow, by rw [hnamed]; rfl, ⟨_, hprovider⟩,
                    by rw [hexecute]; exact ⟨_, rfl⟩⟩
                have htransition := transitionAwaited_cases (hawaits.of_remoteOnly hremote)
                  (confirmationStatus_cases changeExact (create.isCatalogued committed)
                    providerExact) now
                rw [if_neg hfits] at htransition
                obtain ⟨error, htransition⟩ := htransition
                right
                refine ⟨committed, ?_, hremote⟩
                rw [commitObserved_stores hprovider hexecute, htransition]
                rfl
              · left
                simp only [AwaitedCreate.commitObserved, hprovider, cliRead, mapError_ok,
                  Trace.read_ok_bind, cliExecutor, hexecute]
                rfl

/-! ## One run -/

/-- The page loop of a confirmation. -/
def AwaitedCreate.collect (create : AwaitedCreate) (provider : SelectedRootChangeProvider)
    (store : RootStore) : CliTrace RootStore :=
  collectChangeWindow provider (.createConfirmation create.kind .pageLimitExceeded)
    maxPagesPerApproval store

/-- The page loop ends in a window that decides the create. -/
def AwaitedCreate.DecidesFrom (create : AwaitedCreate) (api : GoogleDriveApi RootIdentity)
    (fuel : RootCatalogProjection → ℕ) (remoteRootId : Option Text) (store : RootStore) : Prop :=
  ∃ collected, (create.collect api.toSelectedRootChangeProvider store).result = .ok collected
    ∧ create.Decides api fuel remoteRootId collected

/-- The page loop is stopped by the limit of one approval. -/
def AwaitedCreate.StoppedByLimit (create : AwaitedCreate) (api : GoogleDriveApi RootIdentity)
    (store : RootStore) : Prop :=
  (create.collect api.toSelectedRootChangeProvider store).result
    = .error (.failed (.createConfirmation create.kind .pageLimitExceeded))

variable {kind : CreateKind} {store cut : RootStore}

/-- A run on a create with its fence in place is the page loop and what follows it. -/
theorem confirmCreate_of_fence (hcreate : store.awaitedCreate kind = .ok (some create))
    (hfence : store.checkConfirmationFence create = .ok ()) (now : UnixTimeMs) :
    confirmCreate kind api fuel remoteRootId now store
      = create.collect api.toSelectedRootChangeProvider store >>= fun collected =>
          create.conclude api fuel remoteRootId now store collected := by
  unfold confirmCreate
  rw [hcreate]
  simp only [cliRead, mapError_ok, Trace.read_ok_bind, hfence]
  rfl

/-- A run without its fence opens no transaction. -/
theorem stores_of_no_fence (hcreate : store.awaitedCreate kind = .ok (some create))
    (hfence : store.checkConfirmationFence create ≠ .ok ()) (now : UnixTimeMs) :
    (confirmCreate kind api fuel remoteRootId now store).stores = [] := by
  unfold confirmCreate
  rw [hcreate]
  simp only [cliRead, mapError_ok, Trace.read_ok_bind]
  cases h : store.checkConfirmationFence create with
  | error error => rfl
  | ok passed => exact absurd h hfence

/-- A run whose window does not decide the create leaves it awaiting its confirmation. -/
theorem last_of_not_decidesFrom (hcreate : store.awaitedCreate kind = .ok (some create))
    (hdecides : ¬ create.DecidesFrom api fuel remoteRootId store) (now : UnixTimeMs) :
    ((confirmCreate kind api fuel remoteRootId now store).last store).intentStatus? create.intentId
      = some .awaitingConfirmation := by
  have hawaits := (awaits_of_awaitedCreate hcreate).2
  suffices hremote : RemoteOnly store
      ((confirmCreate kind api fuel remoteRootId now store).last store) from
    (hawaits.of_remoteOnly hremote).status
  by_cases hfence : store.checkConfirmationFence create = .ok ()
  · -- no store of the trace moves the local side: neither a page of the collection nor the end
    rw [confirmCreate_of_fence hcreate hfence]
    have hpages : (create.collect api.toSelectedRootChangeProvider store).Leaves (RemoteOnly store)
        fun collected => RemoteOnly store collected ∧
          (create.collect api.toSelectedRootChangeProvider store).result = .ok collected :=
      ⟨fun staged h => (collects_of_mem h).remoteOnly,
        fun collected h => ⟨(collects_of_result h).remoteOnly, h⟩⟩
    refine Trace.Leaves.last (Q := fun _ => True) (hpages.bind ?_) (RemoteOnly.refl _)
    intro collected ⟨hremote, hcollected⟩
    obtain hnone | ⟨s, hone, hs⟩ := conclude_of_not_decides (hawaits.of_remoteOnly hremote)
      (fun h => hdecides ⟨collected, hcollected, h⟩) now store
    · exact ⟨fun staged h => absurd (hnone ▸ h) List.not_mem_nil, fun _ _ => trivial⟩
    · refine ⟨fun staged h => ?_, fun _ _ => trivial⟩
      rw [hone] at h
      exact List.mem_singleton.mp h ▸ hremote.trans hs
  · rw [Trace.last_of_nil (stores_of_no_fence hcreate hfence now)]
    exact RemoteOnly.refl _

/-- The transactions of a run whose window decides the create. -/
theorem stores_of_decides (hcreate : store.awaitedCreate kind = .ok (some create))
    (hfence : store.checkConfirmationFence create = .ok ()) {collected : RootStore}
    (hcollected : (create.collect api.toSelectedRootChangeProvider store).result = .ok collected)
    (now : UnixTimeMs) :
    (confirmCreate kind api fuel remoteRootId now store).stores
      = (create.collect api.toSelectedRootChangeProvider store).stores
        ++ (create.conclude api fuel remoteRootId now store collected).stores := by
  rw [confirmCreate_of_fence hcreate hfence, Trace.bind_of_ok hcollected]

theorem last_of_movesOn (hcreate : store.awaitedCreate kind = .ok (some create))
    (hfence : store.checkConfirmationFence create = .ok ()) {collected committed : RootStore}
    {status : RemoteWriteIntentStatus}
    (hcollected : (create.collect api.toSelectedRootChangeProvider store).result = .ok collected)
    (hmoves : create.MovesOn api fuel remoteRootId collected committed status) (now : UnixTimeMs) :
    ((confirmCreate kind api fuel remoteRootId now store).last store).intentStatus? create.intentId
      = some status := by
  obtain ⟨transitioned, hstores, hstatus⟩ := hmoves.stores now store
  unfold Trace.last
  rw [stores_of_decides hcreate hfence hcollected, hstores]
  simpa using hstatus

/-! ## A run that is cut off -/

/-- A window that lists a change does not end at the cursor it starts from, however it was collected
    from what the store has staged. -/
def AwaitedCreate.WindowsAdvance (create : AwaitedCreate) (api : GoogleDriveApi RootIdentity)
    (store : RootStore) : Prop :=
  ∀ collected window,
    (create.collect api.toSelectedRootChangeProvider store).result = .ok collected →
    collected.windowState = some window → collected.windowEvents ≠ [] →
    window.checkpoint ≠ some window.baseCursor

/-- What `checkWindow` and the fence compare. -/
theorem checkWindow_eq_ok {collected : RootStore} (h : create.checkWindow collected = .ok ()) :
    ∃ window, collected.windowState = some window ∧ window.baseCursor = create.preSubmitCursor := by
  unfold AwaitedCreate.checkWindow at h
  simp only [orRefuse_bind_eq_ok, refuseIf_bind_eq_ok, Bool.or_eq_false_iff,
    bne_eq_false_iff_eq] at h
  obtain ⟨window, hwindow, hbase, -⟩ := h
  exact ⟨window, hwindow, hbase.2⟩

theorem checkConfirmationFence_of_window {window : SyncRootChangeWindowState}
    (hwindow : store.windowState = some window) :
    store.checkConfirmationFence create = .ok () ↔
      window.baseCursor = create.preSubmitCursor := by
  unfold RootStore.checkConfirmationFence
  rw [hwindow]
  simp

/-- With an open window off the fence, no window of the page loop is that of the submission. -/
theorem not_decidesFrom_of_no_fence {window : SyncRootChangeWindowState}
    (hwindow : cut.windowState = some window)
    (hfence : cut.checkConfirmationFence create ≠ .ok ()) :
    ¬ create.DecidesFrom api fuel remoteRootId cut := by
  intro ⟨collected, hcollected, hdecides⟩
  obtain ⟨last, hlast, hbase⟩ := (collects_of_result hcollected).window
  obtain ⟨found, hfound, hpre⟩ := checkWindow_eq_ok hdecides.window
  rw [hlast] at hfound
  obtain rfl := Option.some.inj hfound
  exact hfence ((checkConfirmationFence_of_window hwindow).mpr ((hbase window hwindow).symm.trans hpre))

/-- The run again reaches the status of the run that was not cut off. -/
def SurvivesCut (kind : CreateKind) (api : GoogleDriveApi RootIdentity)
    (fuel : RootCatalogProjection → ℕ) (remoteRootId : Option Text) (now again : UnixTimeMs)
    (store cut : RootStore) (intentId : ℕ) : Prop :=
  ((confirmCreate kind api fuel remoteRootId again cut).last cut).intentStatus? intentId
    = ((confirmCreate kind api fuel remoteRootId now store).last store).intentStatus? intentId

/-- A run that is cut off in its page loop goes on from there. -/
theorem survives_page_cut (hcreate : store.awaitedCreate kind = .ok (some create))
    (hfence : store.checkConfirmationFence create = .ok ())
    (hcut : cut ∈ (create.collect api.toSelectedRootChangeProvider store).stores)
    (now again : UnixTimeMs) :
    SurvivesCut kind api fuel remoteRootId now again store cut create.intentId ↔
      ¬ (create.StoppedByLimit api store ∧ create.DecidesFrom api fuel remoteRootId cut) := by
  have hcollects := collects_of_mem hcut
  have hawaits := (awaits_of_awaitedCreate hcreate).2
  have hcreate' : cut.awaitedCreate kind = .ok (some create) := by
    rw [hcollects.remoteOnly.awaitedCreate_eq, hcreate]
  obtain ⟨window, hwindow, -⟩ := hcollects.window
  unfold SurvivesCut
  -- the second run decides or not; the first run differs from it only when the page limit stopped it
  by_cases hdecides : create.DecidesFrom api fuel remoteRootId cut
  · have hfence' : cut.checkConfirmationFence create = .ok () := by
      by_contra hno
      exact not_decidesFrom_of_no_fence hwindow hno hdecides
    obtain ⟨collected, hcollected, hwins⟩ := hdecides
    have hremote := hcollects.remoteOnly.trans (collects_of_result hcollected).remoteOnly
    obtain ⟨committed, status, hmoves⟩ := hwins.movesOn (hawaits.of_remoteOnly hremote)
    rw [last_of_movesOn hcreate' hfence' hcollected hmoves]
    by_cases hlimit : create.StoppedByLimit api store
    · have hstops : ¬ create.DecidesFrom api fuel remoteRootId store := by
        intro hends
        obtain ⟨other, hother, -⟩ := hends
        rw [AwaitedCreate.StoppedByLimit, hother] at hlimit
        cases hlimit
      rw [last_of_not_decidesFrom hcreate hstops]
      constructor
      · intro hsame
        exact absurd (Option.some.inj hsame) hmoves.status_ne
      · intro hnot
        exact absurd ⟨hlimit, collected, hcollected, hwins⟩ hnot
    · -- within the limit, collecting on from the page that was kept ends at the same window
      have hresume := collectChangeWindow_resume (le_refl _) hcut hlimit
      rw [last_of_movesOn hcreate hfence (hresume.symm.trans hcollected) hmoves]
      simp [hlimit]
  · rw [last_of_not_decidesFrom hcreate' hdecides]
    have hstays : ¬ create.DecidesFrom api fuel remoteRootId store := by
      intro ⟨collected, hcollected, hwins⟩
      refine hdecides ⟨collected, ?_, hwins⟩
      refine (collectChangeWindow_resume (le_refl _) hcut fun hlimit => ?_).trans hcollected
      rw [AwaitedCreate.collect, hlimit] at hcollected
      cases hcollected
    rw [last_of_not_decidesFrom hcreate hstays]
    simp [hdecides]

/-- A run that is cut off between the commit of its window and the move of its intent is refused at the
    cursor fence when it is run again. -/
theorem not_survives_commit_cut (hcreate : store.awaitedCreate kind = .ok (some create))
    (hfence : store.checkConfirmationFence create = .ok ())
    (hadvance : create.WindowsAdvance api store) {collected : RootStore}
    {status : RemoteWriteIntentStatus}
    (hcollected : (create.collect api.toSelectedRootChangeProvider store).result = .ok collected)
    (hdecides : create.Decides api fuel remoteRootId collected)
    (hmoves : create.MovesOn api fuel remoteRootId collected cut status) (now again : UnixTimeMs) :
    ¬ SurvivesCut kind api fuel remoteRootId now again store cut create.intentId := by
  have hremote := (collects_of_result hcollected).remoteOnly.trans hmoves.remoteOnly
  have hcreate' : cut.awaitedCreate kind = .ok (some create) := by
    rw [hremote.awaitedCreate_eq, hcreate]
  have hnofence : cut.checkConfirmationFence create ≠ .ok () := by
    obtain ⟨window, checkpoint, hcompleted, hcursor⟩ := hmoves.cursor
    obtain ⟨found, hfound, hbase⟩ := checkWindow_eq_ok hdecides.window
    have hnonempty : collected.windowEvents ≠ [] := by
      intro hempty
      have hnamed := hdecides.named
      rw [hempty] at hnamed
      cases hnamed
    have hends := hadvance collected found hcollected hfound hnonempty
    -- the durable cursor is the checkpoint now, and the window did not end where it began
    have hcheckpoint : found.checkpoint = some checkpoint := by
      unfold RootStore.completedWindow at hcompleted
      simp only [orRefuse_bind_eq_ok, refuseIf_bind_eq_ok] at hcompleted
      obtain ⟨window', hwindow', -, checkpoint', hcheckpoint', -, hpair⟩ := hcompleted
      rw [hfound] at hwindow'
      obtain rfl := Option.some.inj hwindow'
      obtain ⟨-, rfl⟩ := Prod.ext_iff.mp (Except.ok.inj hpair)
      exact hcheckpoint'
    unfold RootStore.checkConfirmationFence
    rw [hmoves.closed, hcursor]
    intro hpass
    simp only [orRefuse, ok_bind, refuseIf_eq_ok, bne_eq_false_iff_eq] at hpass
    rw [hcheckpoint, hpass, ← hbase] at hends
    exact hends rfl
  unfold SurvivesCut
  rw [last_of_movesOn hcreate hfence hcollected hmoves,
    Trace.last_of_nil (stores_of_no_fence hcreate' hnofence again),
    ((awaits_of_awaitedCreate hcreate').2).status]
  intro hsame
  exact hmoves.status_ne (Option.some.inj hsame).symm

/-- **A confirmation survives a cut, under the condition and only under it.** The store the cut leaves
    still has its change window, and it is not the case that the limit of pages stopped the run while
    the run again, which counts its pages anew, comes to a window that decides the create. -/
theorem confirmation_survives_cut_iff (kind : CreateKind) (api : GoogleDriveApi RootIdentity)
    (fuel : RootCatalogProjection → ℕ) (remoteRootId : Option Text) (now again : UnixTimeMs)
    (store cut : RootStore) (create : AwaitedCreate)
    (hcreate : store.awaitedCreate kind = .ok (some create))
    (hadvance : create.WindowsAdvance api store)
    (hcut : (confirmCreate kind api fuel remoteRootId now store).CutAt cut) :
    SurvivesCut kind api fuel remoteRootId now again store cut create.intentId ↔
      cut.windowState.isSome ∧
        ¬ (create.StoppedByLimit api store ∧ create.DecidesFrom api fuel remoteRootId cut) := by
  have hfence : store.checkConfirmationFence create = .ok () := by
    by_contra hno
    have hmem := hcut.mem
    rw [stores_of_no_fence hcreate hno now] at hmem
    cases hmem
  have hpage : cut ∈ (create.collect api.toSelectedRootChangeProvider store).stores →
      (SurvivesCut kind api fuel remoteRootId now again store cut create.intentId ↔
        cut.windowState.isSome ∧
          ¬ (create.StoppedByLimit api store ∧ create.DecidesFrom api fuel remoteRootId cut)) := by
    intro hmem
    obtain ⟨window, hwindow, -⟩ := (collects_of_mem hmem).window
    rw [survives_page_cut hcreate hfence hmem, hwindow]
    simp
  cases hresult : (create.collect api.toSelectedRootChangeProvider store).result with
  | error error =>
      have hmem := hcut.mem
      rw [confirmCreate_of_fence hcreate hfence, Trace.bind_of_error hresult] at hmem
      exact hpage hmem
  | ok collected =>
      obtain hmem | ⟨before, after, hstores, hafter⟩ :=
        hcut.of_append (stores_of_decides hcreate hfence hresult now)
      · exact hpage hmem
      · have hawaits := (awaits_of_awaitedCreate hcreate).2.of_remoteOnly
          (collects_of_result hresult).remoteOnly
        by_cases hdecides : create.Decides api fuel remoteRootId collected
        · obtain ⟨committed, status, hmoves⟩ := hdecides.movesOn hawaits
          obtain ⟨transitioned, htwo, -⟩ := hmoves.stores now store
          rw [htwo] at hstores
          -- of two transactions, the cut is after the first
          obtain rfl : committed = cut := by
            match before, after, hafter, hstores with
            | [], _ :: _, _, hstores => exact (List.cons.inj hstores).1
            | [_], [], hafter, _ => exact absurd rfl hafter
            | _ :: _ :: _, _, _, hstores => simp at hstores
            | [_], _ :: _, _, hstores => simp at hstores
          have hnot := not_survives_commit_cut hcreate hfence hadvance hresult hdecides hmoves now again
          simp [hnot, hmoves.closed]
        · obtain hnone | ⟨s, hone, -⟩ := conclude_of_not_decides hawaits hdecides now store
          · rw [hnone] at hstores
            simp at hstores
          · rw [hone] at hstores
            match before, after, hafter, hstores with
            | [], _ :: _, _, hstores => simp at hstores
            | _ :: _, _, _, hstores => simp at hstores

/-! ## The upload of the first file -/

/-- A provider whose feed lists the upload of the file `a`, in one page. -/
def sampleApi : GoogleDriveApi Unit where
  resolveRoot _ := .ok ()
  canonicalRootId _ := ['0']
  resolveMembership _ _ := .ok .descendant
  hydrateFolder _ := .ok []
  listChangesPage _ _ := .ok ⟨[.upsert ⟨['A'], some ['0'], ['a'], .file, some 3, none, false⟩], none,
    some (.ofChar '2')⟩
  inspectExpectedFile _ _ _ _ _ _ := .ok (.exact 7)

/-- Its confirmation. -/
def sampleConfirm (store : RootStore) : CliTrace ConfirmationReport :=
  syncRootsConfirmFileCreate sampleApi (fun _ => 0) (some ['0']) ⟨4, by decide⟩ store

/-- The confirmation is run on the first file after its upload, and cut off after one of its
    transactions. -/
structure SampleCut (index : ℕ) (store cut : RootStore) (create : AwaitedCreate) : Prop where
  created : store.awaitedCreate .file = .ok (some create)
  advances : create.WindowsAdvance sampleApi store
  cutAt : (sampleConfirm store).CutAt cut
  window : cut.windowState.isSome = decide (index = 0)
  intentId : create.intentId = 1

theorem exists_sampleCut (index : ℕ) (hindex : index < 2) :
    ∃ store cut create, SampleCut index store cut create
      ∧ ((sampleConfirm store).last store).intentStatus? 1 = some .confirmed
      ∧ ((sampleConfirm cut).last cut).intentStatus? 1
        = some (if index = 0 then .confirmed else .awaitingConfirmation) := by
  have hends : ∃ store ∈ ((sampleOperations ++ sampleUpload).foldlM RootStore.apply
      (RootStore.new .twoWay)).toOption, ∃ create? ∈ (store.awaitedCreate .file).toOption,
      ∃ create ∈ create?, create.intentId = 1
        ∧ ((create.collect sampleApi.toSelectedRootChangeProvider store).result.toOption.all
            fun collected => collected.windowState.all fun window =>
              window.checkpoint != some window.baseCursor)
        ∧ (sampleConfirm store).stores.length = 3
        ∧ ((sampleConfirm store).last store).intentStatus? 1 = some .confirmed
        ∧ ∀ i ∈ List.range 2, ∃ cut ∈ (sampleConfirm store).stores[i]?,
          cut.windowState.isSome = decide (i = 0)
          ∧ ((sampleConfirm cut).last cut).intentStatus? 1
            = some (if i = 0 then .confirmed else .awaitingConfirmation) := by
    decide +kernel
  obtain ⟨store, hstore, create?, hcreate?, create, hcreate, hid, hadvances, hlength, hlast, hcuts⟩ :=
    hends
  obtain ⟨cut, hcut, hwindow, hagain⟩ := hcuts index (List.mem_range.mpr hindex)
  refine ⟨store, cut, create, ⟨?_, ?_, ?_, hwindow, hid⟩, hlast, hagain⟩
  · obtain rfl := hcreate
    exact toOption_eq_some_iff.mp hcreate?
  · intro collected window hcollected hopen _
    rw [hcollected] at hadvances
    simpa [Except.toOption, hopen] using hadvances
  · obtain ⟨hlt, rfl⟩ := List.getElem?_eq_some_iff.mp hcut
    refine ⟨(sampleConfirm store).stores.take index, (sampleConfirm store).stores.drop (index + 1),
      ?_, ?_⟩
    · rw [List.cons_getElem_drop_succ, List.take_append_drop]
    · intro hnil
      have := congrArg List.length hnil
      simp [hlength] at this
      omega

/-- The page is staged, and the run again confirms the create. -/
theorem confirmation_survives_cut_iff_staged :
    ∃ store cut create, SampleCut 0 store cut create ∧
      SurvivesCut .file sampleApi (fun _ => 0) (some ['0']) ⟨4, by decide⟩ ⟨4, by decide⟩ store cut
        create.intentId ∧
      ¬ (create.StoppedByLimit sampleApi store
        ∧ create.DecidesFrom sampleApi (fun _ => 0) (some ['0']) cut) := by
  obtain ⟨store, cut, create, hcut, hlast, hagain⟩ := exists_sampleCut 0 (by omega)
  have hsurvives : SurvivesCut .file sampleApi (fun _ => 0) (some ['0']) ⟨4, by decide⟩
      ⟨4, by decide⟩ store cut create.intentId := by
    unfold SurvivesCut
    rw [hcut.intentId]
    exact hagain.trans hlast.symm
  exact ⟨store, cut, create, hcut, hsurvives, ((confirmation_survives_cut_iff .file sampleApi _ _ _ _
    store cut create hcut.created hcut.advances hcut.cutAt).mp hsurvives).2⟩

/-- Cut off after the commit of its window, the confirmation is refused for good. -/
theorem confirmation_lost_after_commit :
    ∃ store cut create, SampleCut 1 store cut create ∧
      ¬ SurvivesCut .file sampleApi (fun _ => 0) (some ['0']) ⟨4, by decide⟩ ⟨4, by decide⟩
        store cut create.intentId := by
  obtain ⟨store, cut, create, hcut, hlast, hagain⟩ := exists_sampleCut 1 (by omega)
  refine ⟨store, cut, create, hcut, fun hsurvives => ?_⟩
  unfold SurvivesCut at hsurvives
  rw [hcut.intentId] at hsurvives
  exact nomatch hagain.symm.trans (hsurvives.trans hlast)

end NubiSync
