import Mathlib.Algebra.GroupWithZero.Nat
import NubiSync.Library.Checks
import NubiSync.Storage.Catalog

set_option autoImplicit false

/-! # The durable state of a root

Everything the store keeps for one sync root: the catalog with its receipts, the staged inventories,
the change window, the local baseline with its journal, and the remote-write authority, intents and
settlements. An operation of the store is one SQLite transaction, so it is a function to
`Except StorageError`: an error leaves the state as it was. Columns that are only ever written
(planning and observation times) are left out. -/

namespace NubiSync

open Checks

/-! ## Value checks -/

/-- `str::len`, in bytes. -/
def Text.utf8Len (t : Text) : ℕ := (t.map Char.utf8Size).sum

/-- A lower-case hexadecimal digit. -/
def isLowerHex (c : Char) : Bool := c.isDigit || ('a' ≤ c && c ≤ 'f')

def validateMaterializationReceiptValues (remoteId relativePath sha256Hex : Text) :
    Except StorageError Unit :=
  refuseIf (remoteId.isBlank || !isSafeRelativePath relativePath || sha256Hex.length != 64
    || !sha256Hex.all isLowerHex) .invalidMaterializationReceipt

def validateDirectoryMaterializationReceiptValues (remoteId relativePath : Text) :
    Except StorageError Unit :=
  refuseIf (remoteId.isBlank || !isSafeRelativePath relativePath)
    .invalidDirectoryMaterializationReceipt

def validateRemoteWriteIdentifier (value : Text) : Except StorageError Unit :=
  refuseIf (value.isEmpty || value != value.trim || value.any Text.isWhitespace
    || decide (value.utf8Len > 1024)) .invalidRemoteWriteIdentifier

def validateOptionalChecksum : Option Text → Option Text → Except StorageError Unit
  | none, none => .ok ()
  | some algorithm, some checksum =>
      refuseIf (!((algorithm == "md5".toList && checksum.length == 32
        || algorithm == "sha256".toList && checksum.length == 64) && checksum.all isLowerHex))
        .invalidRemoteWriteChecksum
  | _, _ => .error .invalidRemoteWriteChecksum

/-- A signed sum that has to fit its column. -/
def checkedAdd (a b : ℕ) : Except StorageError ℕ := toI64 (a + b)

/-! ## Remote inventory and change window -/

/-- A row of `sync_root_remote_inventory_state`; its `item_count` is the catalog's. -/
structure RemoteInventoryStateRow where
  snapshotComplete : Bool
  catchupComplete : Bool
  catchupFromCursor : Option ChangeCursor
  changeCursor : Option ChangeCursor
  deriving DecidableEq

/-- `SyncRootChangeWindowState`, the row of `sync_root_change_window_state`. -/
structure SyncRootChangeWindowState where
  baseCursor : ChangeCursor
  continuation : Option ContinuationToken
  checkpoint : Option ChangeCursor
  pageCount : ℕ
  changeCount : ℕ
  deriving DecidableEq

def SyncRootChangeWindowState.isComplete (window : SyncRootChangeWindowState) : Bool :=
  window.continuation.isNone && window.checkpoint.isSome

/-! ## Local inventory and journal -/

/-- `LocalInventoryState`, the row of `sync_root_local_inventory_state`. -/
structure LocalInventoryState where
  snapshotComplete : Bool
  itemCount : ℕ
  snapshotCompletedAtUnixMs : Option Int
  generation : ℕ
  observationValid : Bool
  deriving DecidableEq, Repr

inductive LocalChangeEventKind where
  | created
  | deleted
  | modified
  | typeChanged
  deriving DecidableEq, Repr

/-- The shape check of `LocalChangeEventInput::new`. -/
def isLocalChangeShape (kind : LocalChangeEventKind)
    (baselineKind currentKind : Option LocalItemKind) : Bool :=
  match kind with
  | .created => baselineKind.isNone && currentKind.isSome
  | .deleted => baselineKind.isSome && currentKind.isNone
  | .modified => baselineKind.isSome && currentKind.isSome && baselineKind == currentKind
  | .typeChanged => baselineKind.isSome && currentKind.isSome && baselineKind != currentKind

/-- `LocalChangeEventInput`, with the checks of its constructor. -/
structure LocalChangeEventInput where
  relativePath : Text
  kind : LocalChangeEventKind
  baselineKind : Option LocalItemKind
  currentKind : Option LocalItemKind
  safe : isSafeRelativePath relativePath = true
  shape : isLocalChangeShape kind baselineKind currentKind = true

instance : DecidableEq LocalChangeEventInput := fun a b =>
  decidable_of_iff (a.relativePath = b.relativePath ∧ a.kind = b.kind
    ∧ a.baselineKind = b.baselineKind ∧ a.currentKind = b.currentKind) (by cases a; cases b; simp)

/-- The `status` column of a local change event. -/
inductive LocalChangeEventStatus where
  | pending
  | applied
  | superseded
  | failed
  deriving DecidableEq, Repr

/-- A row of `sync_root_local_change_events`. -/
structure LocalChangeEventRow where
  id : ℕ
  baselineGeneration : ℕ
  eventKind : LocalChangeEventKind
  relativePath : Text
  baselineKind : Option LocalItemKind
  currentKind : Option LocalItemKind
  status : LocalChangeEventStatus
  deriving DecidableEq, Repr

/-- The unique key of the journal within a root. -/
def LocalChangeEventRow.journalKey (event : LocalChangeEventRow) : ℕ × Text :=
  (event.baselineGeneration, event.relativePath)

/-- A pending event of a generation. -/
def LocalChangeEventRow.isPending (event : LocalChangeEventRow) (generation : ℕ) : Bool :=
  event.baselineGeneration == generation && event.status == .pending

/-! ## Remote writes -/

inductive RemoteWriteIntentOperation where
  | createFile
  | createFolder
  | updateFile
  | trashItem
  deriving DecidableEq, Repr

inductive RemoteWriteIntentStatus where
  | planned
  | submitted
  | awaitingConfirmation
  | confirmed
  | conflict
  | failed
  | superseded
  deriving DecidableEq, Repr

/-- The checks of `RemoteWriteAuthoritySnapshot::new`. -/
def checkRemoteWriteAuthority (remoteId : Text) (remoteVersion : ℕ)
    (checksumAlgorithm contentChecksum : Option Text) : Except StorageError Unit := do
  validateRemoteWriteIdentifier remoteId
  refuseIf (remoteVersion == 0) .invalidRemoteWriteAuthority
  validateOptionalChecksum checksumAlgorithm contentChecksum

/-- `RemoteWriteAuthoritySnapshot`, the row of `sync_root_remote_write_authority`. -/
structure RemoteWriteAuthoritySnapshot where
  remoteId : Text
  remoteVersion : ℕ
  checksumAlgorithm : Option Text
  contentChecksum : Option Text
  canEdit : Bool
  canTrash : Bool
  canAddChildren : Bool
  observedAtUnixMs : Int
  checked : checkRemoteWriteAuthority remoteId remoteVersion checksumAlgorithm contentChecksum
    = .ok ()

/-- `RemoteWriteAuthorityState`, the row of `sync_root_remote_write_authority_state`. -/
structure RemoteWriteAuthorityState where
  changeCursor : ChangeCursor
  itemCount : ℕ
  deriving DecidableEq

/-- The part of an intent that its plan decides. -/
structure RemoteWriteIntentFields where
  sourceLocalEventId : ℕ
  baselineGeneration : ℕ
  operation : RemoteWriteIntentOperation
  relativePath : Text
  localKind : LocalItemKind
  localSizeBytes : Option ℕ
  localModifiedUnixNs : Option Int
  localDeviceId : Option ℕ
  localInode : Option ℕ
  targetRemoteId : Option Text
  predeterminedRemoteId : Option Text
  expectedParentRemoteId : Option Text
  expectedRemoteKind : Option RemoteItemKind
  expectedRemoteVersion : Option ℕ
  expectedRemoteSizeBytes : Option ℕ
  expectedChecksumAlgorithm : Option Text
  expectedContentChecksum : Option Text
  deriving DecidableEq

/-- A row of `sync_root_remote_write_intents`. -/
structure RemoteWriteIntentRow extends RemoteWriteIntentFields where
  id : ℕ
  attemptCount : ℕ
  executionGeneration : ℕ
  lastAttemptAtUnixMs : Option Int
  submittedAtUnixMs : Option Int
  preSubmitChangeCursor : Option ChangeCursor
  awaitingConfirmationAtUnixMs : Option Int
  confirmedAtUnixMs : Option Int
  terminalAtUnixMs : Option Int
  status : RemoteWriteIntentStatus
  deriving DecidableEq

/-- A row of `sync_root_remote_write_settlements`. -/
structure RemoteWriteSettlementRow where
  intentId : ℕ
  sourceLocalEventId : ℕ
  settledFromGeneration : ℕ
  settledToGeneration : ℕ
  deriving DecidableEq, Repr

/-! ## The root -/

/-- The durable state of one sync root. The rows of the change window events are kept in the order of
    their `sequence`, and the two id counters are those of `AUTOINCREMENT`. -/
structure RootStore where
  mode : SyncMode
  catalog : CatalogStore
  remoteStaging : Table CatalogRow.remoteId
  remoteState : Option RemoteInventoryStateRow
  windowState : Option SyncRootChangeWindowState
  windowEvents : List RemoteChange
  windowTokens : List ContinuationToken
  localStaging : Table LocalItemSnapshot.relativePath
  localItems : Table LocalItemSnapshot.relativePath
  localState : Option LocalInventoryState
  localEvents : Table LocalChangeEventRow.journalKey
  nextEventId : ℕ
  authority : Table RemoteWriteAuthoritySnapshot.remoteId
  authorityState : Option RemoteWriteAuthorityState
  intents : Table RemoteWriteIntentRow.id
  nextIntentId : ℕ
  settlements : Table RemoteWriteSettlementRow.intentId

/-- `insert_sync_root`: a new root has no rows but its own. -/
def RootStore.new (mode : SyncMode) : RootStore where
  mode := mode
  catalog := ⟨∅, ∅, ∅, 0⟩
  remoteStaging := ∅
  remoteState := none
  windowState := none
  windowEvents := []
  windowTokens := []
  localStaging := ∅
  localItems := ∅
  localState := none
  localEvents := ∅
  nextEventId := 1
  authority := ∅
  authorityState := none
  intents := ∅
  nextIntentId := 1
  settlements := ∅

/-- `update_sync_root_mode_if_expected`: whether the mode was changed. -/
def RootStore.updateMode (store : RootStore) (expected mode : SyncMode) : RootStore × Bool :=
  if store.mode = expected then ({ store with mode := mode }, true) else (store, false)

/-- A plain `INSERT`, which fails on a row with the same key. -/
def insertNew {ρ κ : Type} [DecidableEq κ] {key : ρ → κ} (t : Table key) (row : ρ) :
    Except StorageError (Table key) :=
  if (t.find? (key row)).isSome then .error .sqlite else .ok (t.upsert row)

/-- A plain `INSERT` succeeds just when the key is absent, and is an upsert then. -/
theorem insertNew_eq_ok_iff {ρ κ : Type} [DecidableEq κ] {key : ρ → κ} {t next : Table key} {row : ρ} :
    insertNew t row = .ok next ↔ t.find? (key row) = none ∧ next = t.upsert row := by
  unfold insertNew
  cases t.find? (key row) with
  | none => simp [eq_comm]
  | some found => simp

theorem ensures_checkedAdd (a b : ℕ) : Ensures (checkedAdd a b) fun m => m = a + b :=
  ensures_toI64 (a + b)

theorem ensures_insertNew {ρ κ : Type} [DecidableEq κ] {key : ρ → κ} (t : Table key) (row : ρ) :
    Ensures (insertNew t row) fun next => t.find? (key row) = none ∧ next = t.upsert row :=
  fun _ h => insertNew_eq_ok_iff.mp h

end NubiSync
