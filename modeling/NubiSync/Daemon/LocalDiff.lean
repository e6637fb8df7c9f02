import NubiSync.Daemon.ExecutorErrors
import NubiSync.Storage.LocalInventory

set_option autoImplicit false

/-! # The local diff

The difference between the durable local baseline of a root and a scan of its directory, which the
journal pass writes into the change journal. A scan is an input: two scans in a row that differ are a
race. -/

namespace NubiSync

open Checks

/-- `SelectedRootLocalDiffEntry`; `SelectedRootLocalDiffKind` has the kinds of a change event. -/
structure SelectedRootLocalDiffEntry where
  relativePath : Text
  kind : LocalChangeEventKind
  baselineKind : Option LocalItemKind
  currentKind : Option LocalItemKind
  deriving DecidableEq, Repr

/-- `SelectedRootLocalInventoryDiff`; its counts by kind are counts of the entries. -/
structure SelectedRootLocalInventoryDiff where
  baselineItems : ℕ
  baselineGeneration : ℕ
  baselineSnapshotCompletedAtUnixMs : Option Int
  observedItems : ℕ
  entries : List SelectedRootLocalDiffEntry
  deriving DecidableEq, Repr

/-- The number of entries of a kind. -/
def SelectedRootLocalInventoryDiff.count (diff : SelectedRootLocalInventoryDiff)
    (kind : LocalChangeEventKind) : ℕ :=
  diff.entries.countP (·.kind == kind)

def SelectedRootLocalInventoryDiff.created (diff : SelectedRootLocalInventoryDiff) : ℕ :=
  diff.count .created

def SelectedRootLocalInventoryDiff.deleted (diff : SelectedRootLocalInventoryDiff) : ℕ :=
  diff.count .deleted

def SelectedRootLocalInventoryDiff.modified (diff : SelectedRootLocalInventoryDiff) : ℕ :=
  diff.count .modified

def SelectedRootLocalInventoryDiff.typeChanged (diff : SelectedRootLocalInventoryDiff) : ℕ :=
  diff.count .typeChanged

def localSnapshotMetadataChanged (baseline current : LocalItemSnapshot) : Bool :=
  match baseline.kind with
  | .file => baseline.sizeBytes != current.sizeBytes
      || baseline.modifiedUnixNs != current.modifiedUnixNs
      || baseline.deviceId != current.deviceId || baseline.inode != current.inode
  | .directory => baseline.deviceId != current.deviceId || baseline.inode != current.inode

/-- A lookup in a map by path. -/
def snapshotAt (items : List LocalItemSnapshot) (path : Text) : Option LocalItemSnapshot :=
  items.find? (·.relativePath == path)

/-- The entry of one path. -/
def diffEntry (baseline current : List LocalItemSnapshot) (path : Text) :
    Option SelectedRootLocalDiffEntry :=
  match snapshotAt baseline path, snapshotAt current path with
  | none, some currentItem => some ⟨path, .created, none, some currentItem.kind⟩
  | some baselineItem, none => some ⟨path, .deleted, some baselineItem.kind, none⟩
  | some baselineItem, some currentItem =>
      if baselineItem.kind ≠ currentItem.kind then
        some ⟨path, .typeChanged, some baselineItem.kind, some currentItem.kind⟩
      else if localSnapshotMetadataChanged baselineItem currentItem then
        some ⟨path, .modified, some baselineItem.kind, some currentItem.kind⟩
      else none
  | none, none => none

/-- The paths of two lists of snapshots, sorted and without repetition. -/
def unionPaths (baseline current : List LocalItemSnapshot) : List Text :=
  ((baseline ++ current).map LocalItemSnapshot.relativePath).dedup.insertionSort (· ≤ ·)

/-- Two snapshots of a list stand at one path. -/
def hasDuplicatePath (items : List LocalItemSnapshot) : Bool :=
  !decide (items.map LocalItemSnapshot.relativePath).Nodup

def buildSelectedRootLocalInventoryDiff (baseline current : List LocalItemSnapshot)
    (baselineGeneration : ℕ) (baselineSnapshotCompletedAtUnixMs : Option Int) :
    Except SelectedRootExecutorError SelectedRootLocalInventoryDiff := do
  refuseIf (hasDuplicatePath baseline || hasDuplicatePath current) .localDiffDuplicatePath
  .ok ⟨baseline.length, baselineGeneration, baselineSnapshotCompletedAtUnixMs, current.length,
    (unionPaths baseline current).filterMap (diffEntry baseline current)⟩

/-- `list_sync_root_local_items`. -/
def RootStore.listLocalItems (store : RootStore) : List LocalItemSnapshot :=
  store.localItems.rows.insertionSort fun left right => left.relativePath ≤ right.relativePath

def LocalChangeEventInput.new (relativePath : Text) (kind : LocalChangeEventKind)
    (baselineKind currentKind : Option LocalItemKind) :
    Except StorageError LocalChangeEventInput :=
  if hsafe : isSafeRelativePath relativePath = true then
    if hshape : isLocalChangeShape kind baselineKind currentKind = true then
      .ok ⟨relativePath, kind, baselineKind, currentKind, hsafe, hshape⟩
    else .error .invalidLocalChangeShape
  else .error .invalidLocalChangePath

/-- `journal_selected_root_two_way_local_inventory_diff`, on two scans in a row. -/
def journalSelectedRootTwoWayLocalInventoryDiff (store : RootStore)
    (first second : List LocalItemSnapshot) :
    Except SelectedRootExecutorError (RootStore × LocalChangeJournalCommit) := do
  refuseIf (store.mode != .twoWay) .twoWayLocalJournalModeUnsupported
  let state ← orRefuse store.completeBaseline? .localDiffBaselineMissing
  refuseIf (!state.observationValid) .localDiffBaselineInvalidated
  let baseline := store.listLocalItems
  refuseIf (baseline.length != state.itemCount) .localDiffBaselineCountMismatch
  -- the tree has to stand still over two scans
  refuseIf (first != second) .localDiffScanRace
  let diff ← buildSelectedRootLocalInventoryDiff baseline first state.generation
    state.snapshotCompletedAtUnixMs
  let events ← fromStorage (diff.entries.mapM fun entry =>
    LocalChangeEventInput.new entry.relativePath entry.kind entry.baselineKind entry.currentKind)
  fromStorage (store.reconcileLocalChangeJournal diff.baselineGeneration diff.baselineItems
    diff.baselineSnapshotCompletedAtUnixMs events)

end NubiSync
