import NubiSync.Storage.RootStore

set_option autoImplicit false

/-! # Local baseline and journal

The staged local inventory, the snapshot that makes it the baseline of a new generation, and the
reconciliation of the change journal. A journal row is keyed by generation and path, so a change that
is observed again keeps the id of its first event. -/

namespace NubiSync

open Checks

/-! ## Baseline -/

/-- `begin_sync_root_local_inventory_staging`. -/
def RootStore.beginLocalInventoryStaging (store : RootStore) : RootStore :=
  { store with localStaging := ∅ }

/-- `insert_sync_root_local_inventory_item`. -/
def insertLocalInventoryItem (staging : Table LocalItemSnapshot.relativePath)
    (item : LocalItemSnapshot) :
    Except StorageError (Table LocalItemSnapshot.relativePath) := do
  let _ ← toI64? item.sizeBytes
  .ok (staging.upsert item)

/-- `stage_sync_root_local_inventory_items`. -/
def RootStore.stageLocalInventoryItems (store : RootStore) (items : List LocalItemSnapshot) :
    Except StorageError (RootStore × ℕ) := do
  let staging ← items.foldlM insertLocalInventoryItem store.localStaging
  .ok ({ store with localStaging := staging }, items.length)

/-- `SET status = …` on the events a predicate selects. -/
def RootStore.setEventStatus (store : RootStore) (selected : LocalChangeEventRow → Bool)
    (status : LocalChangeEventStatus) : RootStore :=
  { store with
    localEvents := store.localEvents.update
      (fun event => if selected event then { event with status := status } else event)
      (fun event => by split <;> rfl) }

/-- The state of a complete local baseline: `WHERE snapshot_complete = 1`. -/
def RootStore.completeBaseline? (store : RootStore) : Option LocalInventoryState :=
  store.localState.filter (·.snapshotComplete)

/-- The generation a new snapshot gets. -/
def RootStore.nextGeneration (store : RootStore) : ℕ :=
  match store.localState with
  | some state => state.generation + 1
  | none => 1

/-- `commit_sync_root_local_inventory_snapshot`. -/
def RootStore.commitLocalInventorySnapshot (store : RootStore) (completedAtUnixMs : Int) :
    Except StorageError (RootStore × ℕ) := do
  let itemCount ← toI64 store.localStaging.rows.length
  let superseded := store.setEventStatus (·.status == .pending) .superseded
  .ok ({ superseded with
    localItems := store.localStaging
    localState := some ⟨true, itemCount, some completedAtUnixMs, store.nextGeneration, true⟩
    localStaging := ∅ }, itemCount)

/-- `invalidate_sync_root_local_observation_baseline`: whether a valid baseline was invalidated. -/
def RootStore.invalidateLocalObservationBaseline (store : RootStore) : RootStore × Bool :=
  match store.localState with
  | some state =>
      if state.snapshotComplete && state.observationValid then
        ({ store with localState := some { state with observationValid := false } }, true)
      else (store, false)
  | none => (store, false)

/-! ## Journal -/

/-- The `INSERT … ON CONFLICT DO UPDATE` of one journal event. -/
def RootStore.recordLocalChange (generation : ℕ) (store : RootStore)
    (event : LocalChangeEventInput) : RootStore :=
  match store.localEvents.find? (generation, event.relativePath) with
  -- the row of a path is rewritten under its old id
  | some row =>
      { store with
        localEvents := store.localEvents.upsert
          { row with
            eventKind := event.kind
            baselineKind := event.baselineKind
            currentKind := event.currentKind
            status := .pending } }
  | none =>
      { store with
        localEvents := store.localEvents.upsert ⟨store.nextEventId, generation, event.kind,
          event.relativePath, event.baselineKind, event.currentKind, .pending⟩
        nextEventId := store.nextEventId + 1 }

structure LocalChangeJournalCommit where
  baselineGeneration : ℕ
  pendingEvents : ℕ
  supersededEvents : ℕ
  currentDiffEvents : ℕ
  deriving DecidableEq, Repr

/-- `reconcile_sync_root_local_change_journal`. -/
def RootStore.reconcileLocalChangeJournal (store : RootStore)
    (expectedGeneration expectedItemCount : ℕ) (expectedSnapshotCompletedAtUnixMs : Option Int)
    (events : List LocalChangeEventInput) :
    Except StorageError (RootStore × LocalChangeJournalCommit) := do
  let generation ← toI64 expectedGeneration
  let itemCount ← toI64 expectedItemCount
  let state ← orRefuse store.localState .localChangeBaselineMismatch
  refuseIf (!state.snapshotComplete || !state.observationValid || state.generation != generation
    || state.itemCount != itemCount
    || state.snapshotCompletedAtUnixMs != expectedSnapshotCompletedAtUnixMs)
    .localChangeBaselineMismatch
  -- an event that the pass does not record again stays superseded
  let superseded := store.setEventStatus (·.isPending generation) .superseded
  let journal := events.foldl (RootStore.recordLocalChange generation) superseded
  let pending := journal.localEvents.rows.countP (·.isPending generation)
  refuseIf (pending != events.length) .localChangeJournalCountMismatch
  .ok (journal, ⟨generation, pending, store.localEvents.rows.countP (·.isPending generation),
    events.length⟩)

end NubiSync
