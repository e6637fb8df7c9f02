import NubiSync.Storage.CursorChain

set_option autoImplicit false

/-! # Anchored windows

Staging, committing and discarding all compare the base cursor of the open window with the durable
cursor of the root, so a window that has lost its anchor can no longer be touched by any of them. A
rebaseline and a window commit move the cursor and delete the window; a snapshot and a batch commit
move the cursor and leave the window as it is. -/

namespace NubiSync

open Checks

/-- The durable cursor of a root: the fence while the initial catch-up is incomplete, and the change
    cursor afterwards. -/
def RootStore.durableCursor (store : RootStore) : Except StorageError ChangeCursor := do
  let state ← store.snapshotState
  state.durableCursor

/-- The open window, if there is one, starts from the durable cursor. -/
def RootStore.Anchored (store : RootStore) : Prop :=
  ∀ window, store.windowState = some window → store.durableCursor = .ok window.baseCursor

/-- The cursor that an operation puts in place without deleting the window. -/
def RootOperation.movesCursorTo? : RootOperation → Option ChangeCursor
  | .inventory (.commitSnapshot fence) => some fence
  | .inventory (.commitBatch _ _ cursor) => some cursor
  | _ => none

/-- The condition on a step: a snapshot or a batch commit finds no open window, or one that starts from
    the cursor it puts in place. -/
def KeepsAnchor (store : RootStore) (op : RootOperation) : Prop :=
  ∀ window ∈ store.windowState, ∀ cursor ∈ op.movesCursorTo?, window.baseCursor = cursor

instance (store : RootStore) (op : RootOperation) : Decidable (KeepsAnchor store op) :=
  inferInstanceAs (Decidable (∀ window ∈ _, ∀ cursor ∈ _, _))

/-- An open window can be discarded, committed if it is complete, and extended if it is not: whatever
    is refused is refused for the page or the mutations. -/
structure RootStore.WindowUsable (store : RootStore) (window : SyncRootChangeWindowState) : Prop where
  anchored : store.durableCursor = .ok window.baseCursor
  discarded : Succeeds (store.discardChangeWindow window.baseCursor)
  committed : window.isComplete = true → ∀ checkpoint mutations catalog,
    window.checkpoint = some checkpoint → store.Mutates mutations catalog →
    Succeeds (store.commitCatalogChangeWindow window.baseCursor checkpoint window.changeCount mutations)
  extended : window.isComplete = false → ∀ page events tokens,
    page.continuation.isSome ≠ page.checkpoint.isSome → window.pageCount < 1000000 →
    window.changeCount + page.changes.length ≤ 100000000 →
    page.changes.mapM RemoteChange.windowEvent = .ok events →
    store.recordWindowToken page.continuation = .ok tokens →
    Succeeds (store.stageChangeWindowPage window.baseCursor window.continuation page)

/-! ## The anchor -/

variable {store next : RootStore} {op : RootOperation}

theorem AtCursor.snapshotState {state : RemoteInventoryStateRow} {cursor : ChangeCursor}
    (h : store.AtCursor state cursor) : store.snapshotState = .ok state := by
  rw [RootStore.snapshotState, h.state_eq]
  simp [orRefuse, refuseIf, h.complete, bind, Except.bind]

theorem durableCursor_eq_ok_iff {cursor : ChangeCursor} :
    store.durableCursor = .ok cursor ↔ ∃ state, store.AtCursor state cursor := by
  rw [RootStore.durableCursor, bind_eq_ok]
  constructor
  · rintro ⟨state, hstate, hcursor⟩
    obtain ⟨hsome, hcomplete⟩ := ensures_snapshotState store state hstate
    exact ⟨state, hsome, hcomplete, hcursor⟩
  · intro ⟨state, hcursor⟩
    exact ⟨state, AtCursor.snapshotState hcursor, hcursor.cursor_eq⟩

/-- A commit leaves the root at the cursor it puts in place. -/
theorem durableCursor_of_advanced {state : RemoteInventoryStateRow} {cursor : ChangeCursor}
    (hcomplete : state.snapshotComplete = true)
    (hnext : next.remoteState = some (state.advanced cursor)) : next.durableCursor = .ok cursor :=
  durableCursor_eq_ok_iff.mpr ⟨_, hnext, hcomplete, rfl⟩

/-- The two cursors and the window decide whether the window is anchored. -/
theorem anchored_congr (hsame : next.cursorSide = store.cursorSide) (h : store.Anchored) :
    next.Anchored := by
  obtain ⟨hstate, hwindow⟩ := Prod.mk.inj hsame
  intro window hopen
  have hdurable := h window ((Prod.mk.inj hwindow).1 ▸ hopen)
  obtain ⟨state, hcursor⟩ := durableCursor_eq_ok_iff.mp hdurable
  exact durableCursor_eq_ok_iff.mpr ⟨state, hstate ▸ hcursor.state_eq, hcursor.complete,
    hcursor.cursor_eq⟩

/-- What is left of the anchor when the cursor moves and the window stays. -/
theorem anchored_iff_of_moved {cursor : ChangeCursor} (hcursor : next.durableCursor = .ok cursor)
    (hwindow : next.windowState = store.windowState) (hmoves : op.movesCursorTo? = some cursor) :
    next.Anchored ↔ KeepsAnchor store op := by
  unfold RootStore.Anchored KeepsAnchor
  rw [hwindow, hcursor, hmoves]
  constructor
  · intro h window hopen other hother
    obtain rfl := Option.some.inj hother
    exact (Except.ok.inj (h window hopen)).symm
  · intro h window hopen
    rw [h window hopen cursor rfl]

theorem keepsAnchor_of_stays (h : op.movesCursorTo? = none) : KeepsAnchor store op := by
  intro window _ cursor hcursor
  rw [h] at hcursor
  cases hcursor

/-- **Exactly the steps of the condition keep the anchor.** -/
theorem RootStore.Step.anchored_iff (h : store.Step op next) (hanchored : store.Anchored) :
    next.Anchored ↔ KeepsAnchor store op := by
  cases h.cursorEffect with
  | kept _ _ hop hsame =>
      -- only a snapshot and a batch commit move the cursor under a window
      refine iff_of_true (anchored_congr hsame hanchored) (keepsAnchor_of_stays ?_)
      unfold RootOperation.movesCursorTo?
      split
      · cases hop
      · cases hop
      · rfl
  | snapshot fence itemCount =>
      exact anchored_iff_of_moved (durableCursor_eq_ok_iff.mpr ⟨_, rfl, rfl, rfl⟩) rfl rfl
  | batch expected mutations cursor state hcursor catalog hcatalog =>
      exact anchored_iff_of_moved (durableCursor_of_advanced hcursor.complete rfl) rfl rfl
  | staged base requested page state hcursor =>
      refine iff_of_true (fun window hopen => ?_) (keepsAnchor_of_stays rfl)
      obtain rfl := Option.some.inj hopen
      exact durableCursor_eq_ok_iff.mpr
        ⟨state, hcursor.state_eq, hcursor.complete, hcursor.cursor_eq⟩
  | nothingToDiscard base hwindow => exact iff_of_true hanchored (keepsAnchor_of_stays rfl)
  | rebaseline => exact iff_of_true nofun (keepsAnchor_of_stays rfl)
  | discarded => exact iff_of_true nofun (keepsAnchor_of_stays rfl)
  | window => exact iff_of_true nofun (keepsAnchor_of_stays rfl)

/-! ## Usable windows -/

/-- What staging leaves of every window: one end, and a count within the limit. -/
def RootStore.WindowBounded (store : RootStore) : Prop :=
  ∀ window, store.windowState = some window →
    window.continuation.isSome ≠ window.checkpoint.isSome ∧ window.changeCount ≤ 100000000

theorem RootStore.Step.windowBounded (h : store.Step op next) (hbounded : store.WindowBounded) :
    next.WindowBounded := by
  cases h.cursorEffect with
  | kept _ _ _ hsame =>
      intro window hopen
      exact hbounded window ((Prod.mk.inj (Prod.mk.inj hsame).2).1 ▸ hopen)
  | staged base requested page state hcursor boundary pages changes hcounts hlimit tokens =>
      intro window hopen
      obtain rfl := Option.some.inj hopen
      exact ⟨boundary, hlimit⟩
  | snapshot => exact hbounded
  | batch => exact hbounded
  | nothingToDiscard => exact hbounded
  | rebaseline => exact nofun
  | discarded => exact nofun
  | window => exact nofun

variable {window : SyncRootChangeWindowState} {state : RemoteInventoryStateRow}

theorem discard_succeeds (hwindow : store.windowState = some window)
    (hcursor : store.AtCursor state window.baseCursor) :
    Succeeds (store.discardChangeWindow window.baseCursor) := by
  rw [RootStore.discardChangeWindow, hwindow]
  refine .check (by simp) (.bind (AtCursor.snapshotState hcursor) ?_)
  exact .bind hcursor.cursor_eq (.check (by simp) (.ok _))

/-- A commit expects the durable cursor: in a run no change cursor is stored before the catch-up is
    complete. -/
theorem commitCursor_eq {log : CursorLog} (htracks : log.Tracks store) {cursor : ChangeCursor}
    (hcursor : store.AtCursor state cursor) : state.commitCursor = .ok cursor := by
  obtain ⟨mark, -, hleaves⟩ := htracks.state state hcursor.state_eq
  rw [RemoteInventoryStateRow.commitCursor, hcursor.cursor_eq]
  cases mark with
  | fence fence =>
      obtain rfl : state = _ := hleaves
      rfl
  | commit committed =>
      rw [hleaves.2.1]
      rfl

theorem commit_succeeds {log : CursorLog} (htracks : log.Tracks store)
    (hwindow : store.windowState = some window) (hcursor : store.AtCursor state window.baseCursor)
    (hbounded : window.changeCount ≤ 100000000) (hcomplete : window.isComplete = true)
    {checkpoint : ChangeCursor} {mutations : List SyncRootCatalogMutation} {catalog : CatalogStore}
    (hcheckpoint : window.checkpoint = some checkpoint) (hmutates : store.Mutates mutations catalog) :
    Succeeds (store.commitCatalogChangeWindow window.baseCursor checkpoint window.changeCount
      mutations) := by
  have hevents : store.windowEvents.length = window.changeCount := by
    obtain ⟨open_, -, hheld, -, -, hcount⟩ := htracks.exists_open hwindow
    rw [hheld, List.length_map, hcount]
  have hcommit := commitCursor_eq htracks hcursor
  obtain ⟨applied, happlied, -⟩ := hmutates
  refine .bind (toI64_of_lt (by omega)) (.bind (a := ()) ?_ ?_)
  · rw [RootStore.checkCompleteWindow, hwindow]
    simp [orRefuse, refuseIf, bind, Except.bind, hcomplete, hcheckpoint, hevents]
  · obtain ⟨result, hresult⟩ :
        Succeeds (store.commitMutations window.baseCursor mutations checkpoint) :=
      .bind (AtCursor.snapshotState hcursor)
        (.bind hcommit (.check (by simp) (.bind happlied (.ok _))))
    exact .bind hresult (.ok _)

/-- An anchored window that is not complete can be extended. -/
theorem stage_succeeds (hwindow : store.windowState = some window)
    (hcursor : store.AtCursor state window.baseCursor)
    (hends : window.continuation.isSome ≠ window.checkpoint.isSome)
    (hincomplete : window.isComplete = false) {page : ChangePage} {events : List RemoteChange}
    {tokens : List ContinuationToken} (hboundary : page.continuation.isSome ≠ page.checkpoint.isSome)
    (hpages : window.pageCount < 1000000)
    (hchanges : window.changeCount + page.changes.length ≤ 100000000)
    (hevents : page.changes.mapM RemoteChange.windowEvent = .ok events)
    (htokens : store.recordWindowToken page.continuation = .ok tokens) :
    Succeeds (store.stageChangeWindowPage window.baseCursor window.continuation page) := by
  have hcheckpoint : window.checkpoint = none := by
    -- with a checkpoint there is no continuation, and the window would be complete
    cases hcheckpoint : window.checkpoint with
    | none => rfl
    | some checkpoint =>
        cases hcontinuation : window.continuation with
        | none => simp [SyncRootChangeWindowState.isComplete, hcheckpoint, hcontinuation] at hincomplete
        | some token => exact absurd (by rw [hcheckpoint, hcontinuation]; rfl) hends
  have hcounts : store.windowCounts window.baseCursor window.continuation
      = .ok (window.pageCount, window.changeCount) := by
    rw [RootStore.windowCounts, hwindow]
    simp [refuseIf, bind, Except.bind, hcheckpoint]
  refine .check (by simpa using hboundary) (.bind (AtCursor.snapshotState hcursor) ?_)
  refine .bind hcursor.cursor_eq (.check (by simp) (.bind hcounts ?_))
  refine .bind (toI64_of_lt (by omega)) (.check (by simp; omega) ?_)
  refine .bind (toI64_of_lt (by omega)) (.check (by simp; omega) ?_)
  exact .bind hevents (.bind htokens (.ok _))

/-- **Anchored windows.** Where every snapshot and every batch commit found no open window, or one that
    starts from the cursor it put in place, the open window can be extended, committed or discarded;
    and exactly the steps of that kind keep it so. -/
theorem anchored_run {mode : SyncMode} {store : RootStore}
    (h : Machine.Run RootStore.Step KeepsAnchor (RootStore.new mode) store) :
    (∀ window, store.windowState = some window → store.WindowUsable window) ∧
      ∀ op next, store.Step op next → (next.Anchored ↔ KeepsAnchor store op) := by
  have hanchored : store.Anchored :=
    h.invariant nofun fun s op s' hs hkeeps hstep => (hstep.anchored_iff hs).mpr hkeeps
  have hbounded : store.WindowBounded :=
    h.invariant nofun fun s op s' hs _ hstep => hstep.windowBounded hs
  have hreaches : (RootStore.new mode).Reaches store := h.mono fun _ _ _ => trivial
  obtain ⟨log, hlog⟩ := hreaches.recorded
  refine ⟨fun window hwindow => ?_, fun op next hstep => hstep.anchored_iff hanchored⟩
  have hdurable := hanchored window hwindow
  obtain ⟨hends, hcount⟩ := hbounded window hwindow
  obtain ⟨state, hcursor⟩ := durableCursor_eq_ok_iff.mp hdurable
  refine ⟨hdurable, discard_succeeds hwindow hcursor, ?_, ?_⟩
  · intro hcomplete checkpoint mutations catalog hcheckpoint hmutates
    exact commit_succeeds hlog.tracks hwindow hcursor hcount hcomplete hcheckpoint hmutates
  · intro hincomplete page events tokens hboundary hpages hchanges hevents htokens
    exact stage_succeeds hwindow hcursor hends hincomplete hboundary hpages hchanges hevents htokens

/-- The first page of a window after a snapshot, and its last page. -/
def sampleStaging : List RootOperation :=
  [.inventory (.commitSnapshot (.ofChar '0')),
    .inventory (.stageWindowPage (.ofChar '0') none
      ⟨[.delete ['x']], some (.ofChar 't'), none⟩),
    .inventory (.stageWindowPage (.ofChar '0') (some (.ofChar 't'))
      ⟨[], none, some (.ofChar '1')⟩)]

theorem anchored_run_sample :
    ∃ (store : RootStore) (window : SyncRootChangeWindowState), store.windowState = some window ∧
      store.WindowUsable window ∧
      ∀ op next, store.Step op next → (next.Anchored ↔ KeepsAnchor store op) := by
  have hends : ∃ store ∈ (sampleStaging.foldlM (fun s op => do
      refuseIf (!decide (KeepsAnchor s op)) StorageError.sqlite
      RootStore.apply s op) (RootStore.new .receiveOnly)).toOption,
      ∃ window ∈ store.windowState, window.isComplete = true := by
    decide +kernel
  obtain ⟨store, hstore, window, hwindow, -⟩ := hends
  have hrun : Machine.Run RootStore.Step KeepsAnchor (RootStore.new .receiveOnly) store :=
    Machine.Run.of_guarded (toOption_eq_some_iff.mp hstore)
  obtain ⟨husable, hexact⟩ := anchored_run hrun
  exact ⟨store, window, hwindow, husable window hwindow, hexact⟩

/-! ## A window left behind -/

/-- A window that has lost its anchor is refused by the operations that could use it. -/
theorem refused_of_unanchored (hwindow : store.windowState = some window)
    (hlost : store.durableCursor ≠ .ok window.baseCursor) :
    (∀ base, ¬ Succeeds (store.discardChangeWindow base)) ∧
      (∀ base requested page, ¬ Succeeds (store.stageChangeWindowPage base requested page)) ∧
      ∀ base checkpoint changes mutations,
        ¬ Succeeds (store.commitCatalogChangeWindow base checkpoint changes mutations) := by
  have hbase : ∀ {base : ChangeCursor} {state : RemoteInventoryStateRow},
      store.AtCursor state base → window.baseCursor ≠ base := by
    intro base state hcursor hsame
    exact hlost (durableCursor_eq_ok_iff.mpr ⟨state, hsame ▸ hcursor⟩)
  refine ⟨?_, ?_, ?_⟩
  · intro base ⟨⟨next, found⟩, hnext⟩
    cases discardChangeWindow_effect hnext with
    | kept _ _ hop => cases hop
    | nothingToDiscard _ hnone =>
        rw [hnone] at hwindow
        cases hwindow
    | discarded _ other hother hsame state hcursor =>
        obtain rfl := Option.some.inj (hwindow.symm.trans hother)
        exact hbase hcursor hsame
  · intro base requested page ⟨⟨next, staged⟩, hnext⟩
    cases stageChangeWindowPage_effect hnext with
    | kept _ _ hop => cases hop
    | staged _ _ _ state hcursor _ _ _ hcounts =>
        obtain ⟨hnone, -⟩ | ⟨other, hother, hsame, -⟩ := windowCounts_eq_ok hcounts
        · rw [hnone] at hwindow
          cases hwindow
        · obtain rfl := Option.some.inj (hwindow.symm.trans hother)
          exact hbase hcursor hsame
  · intro base checkpoint changes mutations ⟨⟨next, commit⟩, hnext⟩
    have hstep : store.Step (.inventory (.commitWindow base checkpoint changes mutations)) next :=
      bind_eq_ok.mpr ⟨_, hnext, rfl⟩
    cases hstep.cursorEffect with
    | kept _ _ hop => cases hop
    | window _ _ _ _ other hother hsame _ _ _ _ state hcursor =>
        obtain rfl := Option.some.inj (hwindow.symm.trans hother)
        exact hbase hcursor hsame

/-- A page is staged after the snapshot, and then a batch is committed from the cursor of the snapshot. -/
def sampleOvertaken : List RootOperation :=
  [.inventory (.commitSnapshot (.ofChar '0')),
    .inventory (.stageWindowPage (.ofChar '0') none
      ⟨[.delete ['x']], some (.ofChar 't'), none⟩),
    .inventory (.commitBatch (.ofChar '0') [] (.ofChar '1'))]

/-- The window that a batch commit leaves behind can be extended, committed and discarded no more. -/
theorem not_always_anchored :
    ∃ (store : RootStore) (window : SyncRootChangeWindowState),
      (RootStore.new .receiveOnly).Reaches store ∧ store.windowState = some window ∧
      ¬ store.Anchored ∧ (∀ base, ¬ Succeeds (store.discardChangeWindow base)) ∧
      (∀ base requested page, ¬ Succeeds (store.stageChangeWindowPage base requested page)) ∧
      ∀ base checkpoint changes mutations,
        ¬ Succeeds (store.commitCatalogChangeWindow base checkpoint changes mutations) := by
  have hends : ∃ store ∈ (sampleOvertaken.foldlM RootStore.apply
      (RootStore.new .receiveOnly)).toOption, ∃ window ∈ store.windowState,
      store.durableCursor.toOption ≠ some window.baseCursor := by
    decide +kernel
  obtain ⟨store, hstore, window, hwindow, hlost⟩ := hends
  have hlost : store.durableCursor ≠ .ok window.baseCursor :=
    fun h => hlost (toOption_eq_some_iff.mpr h)
  exact ⟨store, window, Machine.Run.of_foldlM (fun _ _ _ => trivial) (toOption_eq_some_iff.mp hstore),
    hwindow, fun hanchored => hlost (hanchored window hwindow), refused_of_unanchored hwindow hlost⟩

end NubiSync
