import NubiSync.Library.Feeds
import NubiSync.Storage.CatalogCommits
import NubiSync.Storage.ProjectionRefinement

set_option autoImplicit false

/-! # The catalog of an account

Beside the catalogs of its roots, an account has one of its own: the items of a full inventory, the queue
of remote events that were recorded since, and one cursor, which the polling of changes, the catch-up of
the inventory and the login all move. -/

namespace NubiSync

open Checks Feeds

/-! ## Rows -/

/-- The `status` column of `remote_events`. -/
inductive RemoteEventStatus where
  | pending
  | applied
  | superseded
  | failed
  deriving DecidableEq, Repr

/-- A row of `remote_events`; `modified_unix_ms` has no column. -/
structure RemoteEventRow where
  change : RemoteChange
  status : RemoteEventStatus
  deriving DecidableEq, Repr

/-- A row of `remote_inventory_state`. -/
structure AccountInventoryRow where
  snapshotComplete : Bool
  catchupComplete : Bool
  itemCount : ℕ
  catchupFromCursor : Option ChangeCursor
  deriving DecidableEq

/-- The rows of one account: whether it has one in `accounts`, its provider cursor, `remote_items` and
    their staging, and its events in the order of their ids. -/
structure AccountStore where
  registered : Bool
  cursor : Option ChangeCursor
  items : Table CatalogRow.remoteId
  staging : Table CatalogRow.remoteId
  inventory : Option AccountInventoryRow
  events : List RemoteEventRow

/-- A database without the account. -/
def AccountStore.empty : AccountStore := ⟨false, none, ∅, ∅, none, []⟩

namespace AccountStore

variable (store : AccountStore)

def remoteInventoryState : AccountInventoryRow :=
  store.inventory.getD ⟨false, false, 0, none⟩

/-- `RemoteInventoryState::ready_for_reconciliation`: the snapshot and the catch-up are complete. -/
def readyForReconciliation : Bool :=
  store.remoteInventoryState.snapshotComplete && store.remoteInventoryState.catchupComplete

/-! ## The operations -/

def upsertAccount : AccountStore := { store with registered := true }

def saveCursor (cursor : ChangeCursor) : AccountStore := { store with cursor := some cursor }

end AccountStore

def insertRemoteEvent (events : List RemoteEventRow) :
    RemoteChange → Except StorageError (List RemoteEventRow)
  | .delete remoteId => .ok (events ++ [⟨.delete remoteId, .pending⟩])
  | .upsert item => do
      let sizeBytes ← toI64? item.sizeBytes
      .ok (events ++ [⟨.upsert { item with sizeBytes := sizeBytes, modifiedUnixMs := none }, .pending⟩])

def AccountStore.commitRemoteChangesAndCursor (store : AccountStore) (changes : List RemoteChange)
    (cursor : ChangeCursor) : Except StorageError (AccountStore × ℕ) := do
  let events ← changes.foldlM insertRemoteEvent store.events
  .ok ({ store with events := events, cursor := some cursor }, changes.length)

/-- `begin_remote_inventory_staging` and `clear_remote_inventory_staging`. -/
def AccountStore.beginRemoteInventoryStaging (store : AccountStore) : AccountStore :=
  { store with staging := ∅ }

/-- `stage_remote_inventory_items`; the rows of an account are inserted as those of a root. -/
def AccountStore.stageRemoteInventoryItems (store : AccountStore) (items : List RemoteItem) :
    Except StorageError (AccountStore × ℕ) := do
  let staging ← items.foldlM insertInventoryItem store.staging
  .ok ({ store with staging := staging }, items.length)

def AccountStore.commitRemoteInventorySnapshot (store : AccountStore)
    (catchupFromCursor : ChangeCursor) : Except StorageError (AccountStore × ℕ) := do
  let itemCount ← toI64 store.staging.rows.length
  .ok ({ store with
    items := store.staging
    inventory := some ⟨true, false, itemCount, some catchupFromCursor⟩
    staging := ∅ }, itemCount)

def applyRemoteChangeToInventory (items : Table CatalogRow.remoteId) :
    RemoteChange → Except StorageError (Table CatalogRow.remoteId)
  | .delete remoteId => .ok (items.deleteWhere (·.remoteId == remoteId))
  | .upsert item =>
      if item.trashed then .ok (items.deleteWhere (·.remoteId == item.remoteId))
      else do
        let sizeBytes ← toI64? item.sizeBytes
        .ok (items.upsert
          ⟨item.remoteId, item.parentRemoteId, item.name, item.kind, sizeBytes, false⟩)

/-- `SET status = 'superseded' WHERE status = 'pending'` on one event. -/
def RemoteEventRow.supersede (event : RemoteEventRow) : RemoteEventRow :=
  if event.status = .pending then { event with status := .superseded } else event

structure CatalogCatchupCommit where
  changesApplied : ℕ
  authoritativeItems : ℕ
  remoteEventsSuperseded : ℕ
  deriving DecidableEq, Repr

def AccountStore.commitRemoteCatalogCatchup (store : AccountStore) (fromCursor : ChangeCursor)
    (changes : List RemoteChange) (checkpoint : ChangeCursor) :
    Except StorageError (AccountStore × CatalogCatchupCommit) := do
  let state ← orRefuse store.inventory .remoteCatalogSnapshotMissing
  refuseIf (!state.snapshotComplete) .remoteCatalogSnapshotMissing
  refuseIf state.catchupComplete .remoteCatalogCatchupAlreadyComplete
  let storedFromCursor ← orRefuse state.catchupFromCursor .remoteCatalogCatchupCursorMissing
  refuseIf (storedFromCursor != fromCursor) .remoteCatalogCatchupCursorMismatch
  let items ← changes.foldlM applyRemoteChangeToInventory store.items
  .ok ({ store with
    items := items
    inventory := some { state with catchupComplete := true, itemCount := items.rows.length }
    cursor := some checkpoint
    events := store.events.map RemoteEventRow.supersede },
    ⟨changes.length, items.rows.length, store.events.countP (·.status == .pending)⟩)

/-! ## Events applied -/

/-- The changes of the pending events, in the order they were recorded. -/
def AccountStore.pendingChanges (store : AccountStore) : List RemoteChange :=
  (store.events.filter (·.status == .pending)).map RemoteEventRow.change

/-- The stored items with the pending events applied to them. -/
def AccountStore.pendingApplied (store : AccountStore) :
    Except StorageError (Table CatalogRow.remoteId) :=
  store.pendingChanges.foldlM applyRemoteChangeToInventory store.items

/-- What a change assigns to the id it is about. -/
def RemoteChange.assignment : RemoteChange → Text × Option CatalogRow
  | .delete remoteId => (remoteId, none)
  | .upsert item => (item.remoteId, if item.trashed then none else some item.storedRow)

theorem find?_deleteById (items : Table CatalogRow.remoteId) (remoteId : Text) :
    (items.deleteWhere (·.remoteId == remoteId)).find? = Function.update items.find? remoteId none := by
  have hkeys : ∀ row : CatalogRow, (row.remoteId == remoteId) = true ↔ row.remoteId ∈ [remoteId] := by
    simp
  funext id
  rw [items.find?_deleteWhere_keys hkeys, Function.update_apply]
  simp

/-- A change that is applied leaves its id with what it assigns. -/
theorem ensures_applyRemoteChange (items : Table CatalogRow.remoteId) (change : RemoteChange) :
    Ensures (applyRemoteChangeToInventory items change) fun next =>
      next.find? = Function.update items.find? change.assignment.1 change.assignment.2 := by
  cases change with
  | delete remoteId => exact .ok (find?_deleteById items remoteId)
  | upsert item =>
      rw [applyRemoteChangeToInventory, RemoteChange.assignment]
      by_cases htrashed : item.trashed
      · rw [if_pos htrashed, if_pos htrashed]
        exact .ok (find?_deleteById items item.remoteId)
      · rw [if_neg htrashed, if_neg htrashed]
        intro next h
        obtain ⟨sizeBytes, hsize, h⟩ := bind_eq_ok.mp h
        obtain rfl := (toI64?_eq_ok_iff.mp hsize).2
        obtain rfl := Except.ok.inj h
        have hrow : item.storedRow
            = ⟨item.remoteId, item.parentRemoteId, item.name, item.kind, item.sizeBytes, false⟩ := by
          rw [RemoteItem.storedRow, Bool.eq_false_of_not_eq_true htrashed]
        funext id
        rw [Table.find?_upsert, Function.update_apply, hrow]
        simp only [eq_comm]

/-- **Changes that are applied are replayed.** -/
theorem ensures_applyRemoteChanges (changes : List RemoteChange) (items : Table CatalogRow.remoteId) :
    Ensures (changes.foldlM applyRemoteChangeToInventory items) fun next =>
      next.find? = replay items.find? (changes.map RemoteChange.assignment) := by
  induction changes generalizing items with
  | nil => exact .ok rfl
  | cons change rest ih =>
      rw [List.foldlM_cons]
      refine (ensures_applyRemoteChange items change).bind fun next hnext => ?_
      refine (ih next).mono fun last hlast => ?_
      rw [hlast, hnext]
      rfl

/-! ## Events recorded -/

/-- The size of the item fits its column. -/
def RemoteChange.SizeFits : RemoteChange → Prop
  | .delete _ => True
  | .upsert item => item.SizeFits

theorem succeeds_applyRemoteChanges {changes : List RemoteChange}
    (hfits : ∀ change ∈ changes, change.SizeFits) (items : Table CatalogRow.remoteId) :
    Succeeds (changes.foldlM applyRemoteChangeToInventory items) := by
  induction changes generalizing items with
  | nil => exact .ok items
  | cons change rest ih =>
      obtain ⟨hfirst, hrest⟩ := List.forall_mem_cons.mp hfits
      have happlies : Succeeds (applyRemoteChangeToInventory items change) := by
        cases change with
        | delete remoteId => exact .ok _
        | upsert item =>
            rw [applyRemoteChangeToInventory]
            split
            · exact .ok _
            · exact .bind (toI64?_eq_ok_iff.mpr ⟨hfirst, rfl⟩) (.ok _)
      obtain ⟨next, hnext⟩ := happlies
      rw [List.foldlM_cons]
      exact .bind hnext (ih hrest next)

/-- A change as its event stores it: without the time of its modification. -/
def RemoteChange.recorded : RemoteChange → RemoteChange
  | .delete remoteId => .delete remoteId
  | .upsert item => .upsert { item with modifiedUnixMs := none }

@[simp] theorem assignment_recorded (change : RemoteChange) :
    change.recorded.assignment = change.assignment := by
  cases change <;> rfl

theorem insertRemoteEvent_eq_ok {events next : List RemoteEventRow} {change : RemoteChange}
    (h : insertRemoteEvent events change = .ok next) :
    change.SizeFits ∧ next = events ++ [⟨change.recorded, .pending⟩] := by
  cases change with
  | delete remoteId =>
      obtain rfl := Except.ok.inj h
      exact ⟨trivial, rfl⟩
  | upsert item =>
      obtain ⟨sizeBytes, hsize, h⟩ := bind_eq_ok.mp h
      obtain ⟨hfits, rfl⟩ := toI64?_eq_ok_iff.mp hsize
      obtain rfl := Except.ok.inj h
      exact ⟨hfits, rfl⟩

/-- **The changes of a batch are recorded** as pending events behind those there are, in their order. -/
theorem ensures_insertRemoteEvents (changes : List RemoteChange) (events : List RemoteEventRow) :
    Ensures (changes.foldlM insertRemoteEvent events) fun next =>
      (∀ change ∈ changes, change.SizeFits) ∧
        next = events ++ changes.map fun change => ⟨change.recorded, .pending⟩ := by
  induction changes generalizing events with
  | nil => exact .ok ⟨nofun, (List.append_nil events).symm⟩
  | cons change rest ih =>
      rw [List.foldlM_cons]
      refine .bind (fun next => insertRemoteEvent_eq_ok) fun next ⟨hfits, hnext⟩ => ?_
      refine (ih next).mono fun last ⟨hrest, hlast⟩ => ⟨List.forall_mem_cons.mpr ⟨hfits, hrest⟩, ?_⟩
      rw [hlast, hnext, List.append_assoc]
      rfl

namespace AccountStore

/-- Every event can be applied. -/
def EventsFit (store : AccountStore) : Prop := ∀ event ∈ store.events, event.change.SizeFits

variable {store : AccountStore}

/-- What the items are, as the ids see them, with the pending events applied. -/
theorem pendingApplied_spec (hfit : store.EventsFit) :
    ∃ items, store.pendingApplied = .ok items ∧
      items.find? = replay store.items.find? (store.pendingChanges.map RemoteChange.assignment) := by
  have hpending : ∀ change ∈ store.pendingChanges, change.SizeFits := by
    intro change hchange
    obtain ⟨event, hevent, rfl⟩ := List.mem_map.mp hchange
    exact hfit event (List.mem_filter.mp hevent).1
  obtain ⟨items, hitems⟩ := succeeds_applyRemoteChanges hpending store.items
  exact ⟨items, hitems, ensures_applyRemoteChanges _ _ items hitems⟩

/-- A batch of changes that is committed appends them to the pending ones and moves the cursor. -/
theorem commitRemoteChanges_spec (hfit : store.EventsFit) {changes : List RemoteChange}
    {cursor : ChangeCursor} {next : AccountStore} {count : ℕ}
    (h : store.commitRemoteChangesAndCursor changes cursor = .ok (next, count)) :
    next = { store with events := next.events, cursor := some cursor } ∧ next.EventsFit ∧
      next.pendingChanges.map RemoteChange.assignment
        = store.pendingChanges.map RemoteChange.assignment ++ changes.map RemoteChange.assignment := by
  obtain ⟨events, hevents, h⟩ := bind_eq_ok.mp h
  obtain ⟨rfl, -⟩ := Prod.mk.inj (Except.ok.inj h)
  obtain ⟨hfits, rfl⟩ := ensures_insertRemoteEvents changes store.events events hevents
  refine ⟨rfl, ?_, ?_⟩
  · intro event hevent
    obtain hold | hnew := List.mem_append.mp hevent
    · exact hfit event hold
    · obtain ⟨change, hchange, rfl⟩ := List.mem_map.mp hnew
      have hchange := hfits change hchange
      cases change <;> exact hchange
  · have hall : (changes.map fun change => (⟨change.recorded, .pending⟩ : RemoteEventRow)).filter
        (·.status == .pending) = changes.map fun change => ⟨change.recorded, .pending⟩ := by
      simp [List.filter_eq_self]
    rw [pendingChanges, List.filter_append, hall]
    simp [pendingChanges, Function.comp_def]

/-- What a catch-up leaves: the items with the changes replayed on them, and no event pending. -/
structure CaughtUp (store next : AccountStore) (changes : List RemoteChange)
    (checkpoint : ChangeCursor) : Prop where
  ready : next.readyForReconciliation = true
  cursor : next.cursor = some checkpoint
  eventsFit : next.EventsFit
  pending : next.pendingChanges = []
  items : next.items.find? = replay store.items.find? (changes.map RemoteChange.assignment)

/-- A catch-up that is committed continues the inventory that is not caught up, from its cursor. -/
theorem commitRemoteCatalogCatchup_spec (hfit : store.EventsFit) {fromCursor checkpoint : ChangeCursor}
    {changes : List RemoteChange} {next : AccountStore} {commit : CatalogCatchupCommit}
    (h : store.commitRemoteCatalogCatchup fromCursor changes checkpoint = .ok (next, commit)) :
    (∃ row, store.inventory = some row ∧ row.snapshotComplete = true ∧ row.catchupComplete = false ∧
      row.catchupFromCursor = some fromCursor) ∧ store.CaughtUp next changes checkpoint := by
  unfold commitRemoteCatalogCatchup at h
  simp only [orRefuse_bind_eq_ok, refuseIf_bind_eq_ok] at h
  obtain ⟨row, hrow, hsnapshot, hcatchup, stored, hstored, hsame, h⟩ := h
  obtain ⟨items, hitems, h⟩ := bind_eq_ok.mp h
  obtain ⟨rfl, -⟩ := Prod.mk.inj (Except.ok.inj h)
  have hsnapshot : row.snapshotComplete = true := by simpa using hsnapshot
  have hsame : stored = fromCursor := by simpa using hsame
  refine ⟨⟨row, hrow, hsnapshot, hcatchup, hsame ▸ hstored⟩, ?_, rfl, ?_, ?_, ?_⟩
  · simp [readyForReconciliation, remoteInventoryState, hsnapshot]
  · intro event hevent
    obtain ⟨earlier, hearlier, rfl⟩ := List.mem_map.mp hevent
    unfold RemoteEventRow.supersede
    split <;> exact hfit earlier hearlier
  · have hnone : (store.events.map RemoteEventRow.supersede).filter (·.status == .pending) = [] := by
      rw [List.filter_eq_nil_iff]
      intro event hevent
      obtain ⟨earlier, -, rfl⟩ := List.mem_map.mp hevent
      unfold RemoteEventRow.supersede
      split
      · simp
      · simpa
    rw [pendingChanges, hnone]
    rfl
  · exact ensures_applyRemoteChanges changes store.items items hitems

end AccountStore

/-! ## Items staged -/

/-- What listing an item assigns to its id. -/
def RemoteItem.listing (item : RemoteItem) : Text × Option CatalogRow :=
  (item.remoteId, some item.storedRow)

/-- **Listed items that are staged are replayed.** -/
theorem ensures_insertInventoryItems (items : List RemoteItem) (staging : Table CatalogRow.remoteId) :
    Ensures (items.foldlM insertInventoryItem staging) fun next =>
      next.find? = replay staging.find? (items.map RemoteItem.listing) := by
  induction items generalizing staging with
  | nil => exact .ok rfl
  | cons item rest ih =>
      rw [List.foldlM_cons]
      have hfirst : Ensures (insertInventoryItem staging item) fun next =>
          next.find? = Function.update staging.find? item.remoteId (some item.storedRow) := by
        intro next h
        obtain ⟨sizeBytes, hsize, h⟩ := bind_eq_ok.mp h
        obtain rfl := (toI64?_eq_ok_iff.mp hsize).2
        obtain rfl := Except.ok.inj h
        funext id
        rw [Table.find?_upsert, Function.update_apply]
        simp only [eq_comm, RemoteItem.storedRow]
      refine hfirst.bind fun next hnext => ?_
      refine (ih next).mono fun last hlast => ?_
      rw [hlast, hnext]
      rfl

end NubiSync
