import NubiSync.Storage.RootOperations
import NubiSync.Storage.WindowStaging

set_option autoImplicit false

/-! # What an inventory operation does

The inventory state row holds the two cursors of a root, and the change window is anchored to one of
them. Six operations write to either; each is inverted here once, with the checks it had passed, and
what they leave alone is read off. -/

namespace NubiSync

open Checks

variable {store next : RootStore} {op : RootOperation}

/-! ## The effect on the cursors -/

/-- The cursors of a root, and its window. -/
def RootStore.cursorSide (store : RootStore) :
    Option RemoteInventoryStateRow × Option SyncRootChangeWindowState × List RemoteChange :=
  (store.remoteState, store.windowState, store.windowEvents)

/-- The operations that write to the cursors or to the window. -/
def RootOperation.isCursorOperation : RootOperation → Bool
  | .inventory (.commitSnapshot _) | .inventory (.commitRebaseline ..)
  | .inventory (.stageWindowPage ..) | .inventory (.discardWindow _)
  | .inventory (.commitBatch ..) | .inventory (.commitWindow ..) => true
  | _ => false

/-- The state row of a root with a complete snapshot, and the cursor that its next commit expects. -/
structure RootStore.AtCursor (store : RootStore) (state : RemoteInventoryStateRow)
    (cursor : ChangeCursor) : Prop where
  state_eq : store.remoteState = some state
  complete : state.snapshotComplete = true
  cursor_eq : state.durableCursor = .ok cursor

/-- The mutations of a commit, applied to the catalog of the store. -/
def RootStore.Mutates (store : RootStore) (mutations : List SyncRootCatalogMutation)
    (catalog : CatalogStore) : Prop :=
  ∃ applied, mutations.foldlM CatalogStore.applyCheckedMutation store.catalog = .ok applied ∧
    catalog = applied.refreshCatalogCount

/-- What an operation does to the cursors and the window. -/
inductive CursorEffect (store : RootStore) : RootOperation → RootStore → Prop where
  | kept (op : RootOperation) (next : RootStore) (hop : op.isCursorOperation = false)
      (hsame : next.cursorSide = store.cursorSide) : CursorEffect store op next
  | snapshot (fence : ChangeCursor) (itemCount : ℕ) :
      CursorEffect store (.inventory (.commitSnapshot fence))
        { store with
          catalog := store.replacedCatalog itemCount
          remoteState := some ⟨true, false, some fence, none⟩
          remoteStaging := ∅ }
  | rebaseline (base : ChangeCursor) (pages changes generation staged : ℕ) (fence : ChangeCursor)
      (completedAt : Int) (itemCount : ℕ) :
      CursorEffect store
        (.inventory (.commitRebaseline base pages changes generation staged fence completedAt))
        (store.rebaselined fence itemCount)
  | staged (base : ChangeCursor) (requested : Option ContinuationToken) (page : ChangePage)
      (state : RemoteInventoryStateRow) (hcursor : store.AtCursor state base)
      (boundary : page.continuation.isSome ≠ page.checkpoint.isSome)
      (pages changes : ℕ) (hcounts : store.windowCounts base requested = .ok (pages, changes))
      (hlimit : changes + page.changes.length ≤ 100000000) (tokens : List ContinuationToken) :
      CursorEffect store (.inventory (.stageWindowPage base requested page))
        { store with
          windowState := some ⟨base, page.continuation, page.checkpoint, pages + 1,
            changes + page.changes.length⟩
          windowEvents := store.windowEvents ++ page.changes.map RemoteChange.erased
          windowTokens := tokens }
  | nothingToDiscard (base : ChangeCursor) (hwindow : store.windowState = none) :
      CursorEffect store (.inventory (.discardWindow base)) store
  | discarded (base : ChangeCursor) (window : SyncRootChangeWindowState)
      (hwindow : store.windowState = some window) (hbase : window.baseCursor = base)
      (state : RemoteInventoryStateRow) (hcursor : store.AtCursor state base) :
      CursorEffect store (.inventory (.discardWindow base)) store.clearChangeWindow
  | batch (expected : ChangeCursor) (mutations : List SyncRootCatalogMutation)
      (cursor : ChangeCursor) (state : RemoteInventoryStateRow)
      (hcursor : store.AtCursor state expected) (catalog : CatalogStore)
      (hcatalog : store.Mutates mutations catalog) :
      CursorEffect store (.inventory (.commitBatch expected mutations cursor))
        { store with catalog := catalog, remoteState := some (state.advanced cursor) }
  | window (base checkpoint : ChangeCursor) (changes : ℕ)
      (mutations : List SyncRootCatalogMutation) (window : SyncRootChangeWindowState)
      (hwindow : store.windowState = some window) (hbase : window.baseCursor = base)
      (hcontinuation : window.continuation = none) (hcheckpoint : window.checkpoint = some checkpoint)
      (hchanges : window.changeCount = changes) (hevents : store.windowEvents.length = changes)
      (state : RemoteInventoryStateRow) (hcursor : store.AtCursor state base)
      (catalog : CatalogStore) (hcatalog : store.Mutates mutations catalog) :
      CursorEffect store (.inventory (.commitWindow base checkpoint changes mutations))
        { store with
          catalog := catalog
          remoteState := some (state.advanced checkpoint)
          windowEvents := []
          windowTokens := []
          windowState := none }

theorem ensures_snapshotState (store : RootStore) :
    Ensures store.snapshotState fun state =>
      store.remoteState = some state ∧ state.snapshotComplete = true :=
  .present fun _ hstate => .check fun hcomplete => .ok ⟨hstate, by simpa using hcomplete⟩

theorem ensures_commitMutations_cursor (store : RootStore) (expected : ChangeCursor)
    (mutations : List SyncRootCatalogMutation) (cursor : ChangeCursor) :
    Ensures (store.commitMutations expected mutations cursor) fun r =>
      ∃ state catalog, store.AtCursor state expected ∧ store.Mutates mutations catalog ∧
        r.1 = { store with catalog := catalog, remoteState := some (state.advanced cursor) } := by
  refine (ensures_snapshotState store).bind fun state ⟨hstate, hcomplete⟩ => ?_
  intro r h
  obtain ⟨current, hcurrent, h⟩ := bind_eq_ok.mp h
  obtain ⟨hsame, h⟩ := (refuseIf_bind_eq_ok _ _ _ _).mp h
  obtain ⟨applied, happlied, h⟩ := bind_eq_ok.mp h
  obtain rfl := Except.ok.inj h
  obtain ⟨-, hdurable⟩ := (refuseIf_bind_eq_ok _ _ _ _).mp hcurrent
  obtain rfl : current = expected := by simpa using hsame
  exact ⟨state, _, ⟨hstate, hcomplete, hdurable⟩, ⟨applied, happlied, rfl⟩, rfl⟩

theorem ensures_checkCompleteWindow (store : RootStore) (base checkpoint : ChangeCursor)
    (changes : ℕ) :
    Ensures (store.checkCompleteWindow base checkpoint changes) fun _ =>
      ∃ window, store.windowState = some window ∧ window.baseCursor = base ∧
        window.continuation = none ∧ window.checkpoint = some checkpoint ∧
        window.changeCount = changes ∧ store.windowEvents.length = changes := by
  refine .present fun window hwindow => .check fun hcomplete => .check fun hbase => ?_
  refine .check fun hcheckpoint => .check fun hchanges => ?_
  intro _ hevents
  simp only [refuseIf_eq_ok, bne_eq_false_iff_eq] at hbase hcheckpoint hchanges hevents
  simp only [SyncRootChangeWindowState.isComplete, Bool.not_eq_false', Bool.and_eq_true,
    Option.isNone_iff_eq_none] at hcomplete
  exact ⟨window, hwindow, hbase, hcomplete.1, hcheckpoint, hchanges, hevents.trans hchanges⟩

theorem stageChangeWindowPage_effect {base : ChangeCursor} {requested : Option ContinuationToken}
    {page : ChangePage} {window : SyncRootChangeWindowState}
    (h : store.stageChangeWindowPage base requested page = .ok (next, window)) :
    CursorEffect store (.inventory (.stageWindowPage base requested page)) next := by
  unfold RootStore.stageChangeWindowPage at h
  obtain ⟨hboundary, h⟩ := (refuseIf_bind_eq_ok _ _ _ _).mp h
  obtain ⟨state, hstate, h⟩ := bind_eq_ok.mp h
  obtain ⟨hstate, hcomplete⟩ := ensures_snapshotState store state hstate
  obtain ⟨current, hcurrent, h⟩ := bind_eq_ok.mp h
  obtain ⟨hsame, h⟩ := (refuseIf_bind_eq_ok _ _ _ _).mp h
  obtain rfl : current = base := by simpa using hsame
  obtain ⟨⟨pages, changes⟩, hcounts, h⟩ := bind_eq_ok.mp h
  obtain ⟨nextPages, hpages, h⟩ := bind_eq_ok.mp h
  obtain ⟨-, h⟩ := (refuseIf_bind_eq_ok _ _ _ _).mp h
  obtain ⟨nextChanges, hchanges, h⟩ := bind_eq_ok.mp h
  obtain ⟨hlimit, h⟩ := (refuseIf_bind_eq_ok _ _ _ _).mp h
  obtain ⟨events, hevents, h⟩ := bind_eq_ok.mp h
  obtain ⟨tokens, -, h⟩ := bind_eq_ok.mp h
  obtain ⟨rfl, -⟩ := Prod.mk.inj (Except.ok.inj h)
  obtain rfl := (toI64_eq_ok_iff.mp hpages).2
  obtain rfl := (toI64_eq_ok_iff.mp hchanges).2
  -- what the window keeps of a page are its changes without their times
  obtain rfl := erased_of_mapM hevents
  exact .staged _ _ _ state ⟨hstate, hcomplete, hcurrent⟩ (by simpa using hboundary) _ _ hcounts
    (by simpa using hlimit) _

theorem discardChangeWindow_effect {base : ChangeCursor} {found : Bool}
    (h : store.discardChangeWindow base = .ok (next, found)) :
    CursorEffect store (.inventory (.discardWindow base)) next := by
  unfold RootStore.discardChangeWindow at h
  cases hwindow : store.windowState with
  | none =>
      rw [hwindow] at h
      obtain ⟨rfl, -⟩ := Prod.mk.inj (Except.ok.inj h)
      exact .nothingToDiscard base hwindow
  | some window =>
      rw [hwindow] at h
      obtain ⟨hbase, h⟩ := (refuseIf_bind_eq_ok _ _ _ _).mp h
      obtain ⟨state, hstate, h⟩ := bind_eq_ok.mp h
      obtain ⟨hstate, hcomplete⟩ := ensures_snapshotState store state hstate
      obtain ⟨current, hcurrent, h⟩ := bind_eq_ok.mp h
      obtain ⟨hsame, h⟩ := (refuseIf_bind_eq_ok _ _ _ _).mp h
      obtain ⟨rfl, -⟩ := Prod.mk.inj (Except.ok.inj h)
      obtain rfl : current = base := by simpa using hsame
      exact .discarded _ window hwindow (by simpa using hbase) state ⟨hstate, hcomplete, hcurrent⟩

theorem ensures_rebaselined (store : RootStore) (base : ChangeCursor)
    (pages changes generation staged : ℕ) (fence : ChangeCursor) (completedAt : Int) :
    Ensures (store.commitRemoteInventoryRebaseline base pages changes generation staged fence completedAt)
      fun r => ∃ itemCount, r.1 = store.rebaselined fence itemCount := by
  intro r h
  obtain ⟨-, h⟩ := (refuseIf_bind_eq_ok _ _ _ _).mp h
  obtain ⟨expectedPages, -, h⟩ := bind_eq_ok.mp h
  obtain ⟨expectedChanges, -, h⟩ := bind_eq_ok.mp h
  obtain ⟨expectedGeneration, -, h⟩ := bind_eq_ok.mp h
  obtain ⟨expectedStaged, -, h⟩ := bind_eq_ok.mp h
  obtain ⟨-, -, h⟩ := bind_eq_ok.mp h
  obtain ⟨-, -, h⟩ := bind_eq_ok.mp h
  obtain ⟨-, h⟩ := (refuseIf_bind_eq_ok _ _ _ _).mp h
  obtain ⟨itemCount, -, h⟩ := bind_eq_ok.mp h
  obtain rfl := Except.ok.inj h
  exact ⟨itemCount, rfl⟩

theorem InventoryOperation.cursorEffect {iop : InventoryOperation}
    (h : store.Step (.inventory iop) next) : CursorEffect store (.inventory iop) next := by
  cases iop with
  | clearStaging =>
      obtain rfl := Except.ok.inj h
      exact .kept _ _ rfl rfl
  | stageItems items =>
      exact ensures_stateOf (.after fun _ => .ok (.kept _ _ rfl rfl)) next h
  | commitSnapshot fence =>
      exact ensures_stateOf (.after fun itemCount => .ok (.snapshot fence itemCount)) next h
  | commitRebaseline base pages changes generation staged fence completedAt =>
      refine ensures_stateOf ((ensures_rebaselined _ _ _ _ _ _ _ _).mono ?_) next h
      rintro r ⟨itemCount, hr⟩
      rw [hr]
      exact .rebaseline _ _ _ _ _ _ _ itemCount
  | stageWindowPage base requested page =>
      refine ensures_stateOf ?_ next h
      intro r hr
      exact stageChangeWindowPage_effect hr
  | discardWindow base =>
      refine ensures_stateOf ?_ next h
      intro r hr
      exact discardChangeWindow_effect hr
  | commitBatch expected mutations cursor =>
      refine ensures_stateOf ((ensures_commitMutations_cursor _ _ _ _).mono ?_) next h
      intro r ⟨state, catalog, hcursor, hcatalog, hr⟩
      rw [hr]
      exact .batch _ _ _ state hcursor catalog hcatalog
  | commitWindow base checkpoint changes mutations =>
      refine ensures_stateOf ((ensures_toI64 _).bind fun _ hchanges => ?_) next h
      subst hchanges
      refine (ensures_checkCompleteWindow _ _ _ _).bind ?_
      intro _ ⟨window, hwindow, hbase, hcontinuation, hcheckpoint, hchanges, hevents⟩
      refine (ensures_commitMutations_cursor _ _ _ _).bind ?_
      intro r ⟨state, catalog, hcursor, hcatalog, hr⟩
      refine .ok ?_
      rw [hr]
      exact .window _ _ _ _ window hwindow hbase hcontinuation hcheckpoint hchanges hevents state
        hcursor catalog hcatalog
  | upsertItem item => exact Ensures.after (fun _ => .ok (.kept _ _ rfl rfl)) next h
  | deleteSubtree remoteId =>
      obtain rfl := Except.ok.inj h
      exact .kept _ _ rfl rfl

end NubiSync
