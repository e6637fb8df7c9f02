import NubiSync.Storage.IntentWrites
import NubiSync.Storage.InventoryWrites

set_option autoImplicit false

/-! # What an operation leaves alone

Every family of operations writes to a part of the root only. What it leaves alone is said once for the
family, and the two sides of a root are read off. -/

namespace NubiSync

open Checks

/-! ## The local side of a root -/

/-- The part of a root that the inventory, the receipts and the authority have no say in. -/
structure LocalSide where
  mode : SyncMode
  localItems : Table LocalItemSnapshot.relativePath
  localState : Option LocalInventoryState
  localEvents : Table LocalChangeEventRow.journalKey
  nextEventId : ℕ
  intents : Table RemoteWriteIntentRow.id
  nextIntentId : ℕ
  settlements : Table RemoteWriteSettlementRow.intentId

/-- The local side of a root. -/
def RootStore.localSide (store : RootStore) : LocalSide where
  mode := store.mode
  localItems := store.localItems
  localState := store.localState
  localEvents := store.localEvents
  nextEventId := store.nextEventId
  intents := store.intents
  nextIntentId := store.nextIntentId
  settlements := store.settlements

/-! ## The remote side of a root -/

/-- The part of a root that the local operations, the receipts and the intents have no say in. -/
structure RemoteSide where
  items : Table CatalogRow.remoteId
  itemCount : ℕ
  remoteState : Option RemoteInventoryStateRow
  windowState : Option SyncRootChangeWindowState
  windowEvents : List RemoteChange
  authority : Table RemoteWriteAuthoritySnapshot.remoteId
  authorityState : Option RemoteWriteAuthorityState

/-- The remote side of a root. -/
def RootStore.remoteSide (store : RootStore) : RemoteSide where
  items := store.catalog.items
  itemCount := store.catalog.itemCount
  remoteState := store.remoteState
  windowState := store.windowState
  windowEvents := store.windowEvents
  authority := store.authority
  authorityState := store.authorityState

/-! ## The families -/

theorem InventoryOperation.ensures_localSide (store : RootStore) (op : InventoryOperation) :
    Ensures (op.apply store) fun next => next.localSide = store.localSide := by
  intro next h
  have heffect : CursorEffect store (.inventory op) next := InventoryOperation.cursorEffect h
  cases op with
  | clearStaging =>
      obtain rfl := Except.ok.inj h
      rfl
  | stageItems items =>
      obtain ⟨r, hr, hnext⟩ := bind_eq_ok.mp h
      obtain ⟨staging, -, hr⟩ := bind_eq_ok.mp hr
      cases hr
      cases hnext
      rfl
  | upsertItem item =>
      obtain ⟨catalog, -, hnext⟩ := bind_eq_ok.mp h
      obtain rfl := Except.ok.inj hnext
      rfl
  | deleteSubtree remoteId =>
      obtain rfl := Except.ok.inj h
      rfl
  | _ =>
      cases heffect with
      | kept _ _ hop => cases hop
      | _ => rfl

/-- The receipts are all that a sequence of receipt writes changes of the catalog. -/
theorem ensures_foldlM_items {α : Type} {f : CatalogStore → α → Except StorageError CatalogStore}
    (hf : ∀ catalog a, Ensures (f catalog a) fun next =>
      next.items = catalog.items ∧ next.itemCount = catalog.itemCount)
    (items : List α) (catalog : CatalogStore) :
    Ensures (items.foldlM f catalog) fun next =>
      next.items = catalog.items ∧ next.itemCount = catalog.itemCount := by
  intro next h
  refine foldlM_invariant (P := fun middle : CatalogStore =>
    middle.items = catalog.items ∧ middle.itemCount = catalog.itemCount) ?_ h ⟨rfl, rfl⟩
  intro a _ middle last hlast ⟨hitems, hcount⟩
  obtain ⟨hitems', hcount'⟩ := hf middle a last hlast
  exact ⟨hitems'.trans hitems, hcount'.trans hcount⟩

theorem ensures_recordFile_items (catalog : CatalogStore) (file : FileMaterialization) :
    Ensures (catalog.recordFile file) fun next =>
      next.items = catalog.items ∧ next.itemCount = catalog.itemCount :=
  .after fun _size => .after fun _item => .check fun _other => .ok ⟨rfl, rfl⟩

theorem ensures_recordDirectory_items (catalog : CatalogStore) (directory : DirectoryMaterialization) :
    Ensures (catalog.recordDirectory directory) fun next =>
      next.items = catalog.items ∧ next.itemCount = catalog.itemCount :=
  .after fun _item => .check fun _other => .ok ⟨rfl, rfl⟩

/-- A receipt operation writes the receipts, and nothing else. -/
theorem ReceiptOperation.ensures_frame (store : RootStore) (op : ReceiptOperation) :
    Ensures (op.apply store) fun next => ∃ catalog, catalog.items = store.catalog.items ∧
      catalog.itemCount = store.catalog.itemCount ∧ next = { store with catalog := catalog } := by
  cases op with
  | recordFile file =>
      refine .after fun _ => (ensures_recordFile_items store.catalog file).bind ?_
      intro catalog ⟨hitems, hcount⟩
      exact .ok ⟨catalog, hitems, hcount, rfl⟩
  | recordFiles files =>
      refine ensures_stateOf (.after fun _valid => .check fun _distinct => ?_)
      refine (ensures_foldlM_items ensures_recordFile_items files store.catalog).bind ?_
      intro catalog ⟨hitems, hcount⟩
      exact .ok ⟨catalog, hitems, hcount, rfl⟩
  | recordDirectories directories =>
      refine ensures_stateOf (.after fun _valid => .check fun _distinct => ?_)
      refine (ensures_foldlM_items ensures_recordDirectory_items directories store.catalog).bind ?_
      intro catalog ⟨hitems, hcount⟩
      exact .ok ⟨catalog, hitems, hcount, rfl⟩
  | deleteStaleFile remoteId => exact .ok ⟨store.catalog.deleteStaleFile remoteId, rfl, rfl, rfl⟩
  | deleteStaleFiles remoteIds =>
      refine ensures_stateOf (.check fun _ => ?_)
      refine (ensures_foldlM_items (fun catalog remoteId => ?_) remoteIds store.catalog).bind ?_
      · exact .check fun _ => .ok ⟨rfl, rfl⟩
      · intro catalog ⟨hitems, hcount⟩
        exact .ok ⟨catalog, hitems, hcount, rfl⟩
  | deleteStaleDirectory remoteId =>
      exact .ok ⟨store.catalog.deleteStaleDirectory remoteId, rfl, rfl, rfl⟩
  | deleteStaleDirectories remoteIds =>
      refine ensures_stateOf (.check fun _ => ?_)
      refine (ensures_foldlM_items (fun catalog remoteId => ?_) remoteIds store.catalog).bind ?_
      · exact .check fun _ => .ok ⟨rfl, rfl⟩
      · intro catalog ⟨hitems, hcount⟩
        exact .ok ⟨catalog, hitems, hcount, rfl⟩

/-- The journal pass writes nothing but the journal. -/
theorem foldl_recordLocalChange_eq (generation : ℕ) (events : List LocalChangeEventInput) :
    ∀ store : RootStore, ∃ localEvents nextEventId,
      events.foldl (RootStore.recordLocalChange generation) store =
        { store with localEvents := localEvents, nextEventId := nextEventId } := by
  induction events with
  | nil => exact fun store => ⟨_, _, rfl⟩
  | cons event rest ih =>
      intro store
      obtain ⟨localEvents, nextEventId, h⟩ := ih (store.recordLocalChange generation event)
      refine ⟨localEvents, nextEventId, ?_⟩
      rw [List.foldl_cons, h]
      unfold RootStore.recordLocalChange
      split <;> rfl

/-- A local operation writes the local inventory and the journal, and nothing else. -/
theorem LocalOperation.ensures_frame (store : RootStore) (op : LocalOperation) :
    Ensures (op.apply store) fun next =>
      ∃ localStaging localItems localState localEvents nextEventId, next = { store with
        localStaging := localStaging, localItems := localItems, localState := localState,
        localEvents := localEvents, nextEventId := nextEventId } := by
  cases op with
  | beginStaging => exact .ok ⟨_, _, _, _, _, rfl⟩
  | stageItems items => exact ensures_stateOf (.after fun _ => .ok ⟨_, _, _, _, _, rfl⟩)
  | commitSnapshot completedAt => exact ensures_stateOf (.after fun _ => .ok ⟨_, _, _, _, _, rfl⟩)
  | invalidateBaseline =>
      refine .ok ?_
      unfold RootStore.invalidateLocalObservationBaseline
      split
      · split
        · exact ⟨_, _, _, _, _, rfl⟩
        · exact ⟨_, _, _, _, _, rfl⟩
      · exact ⟨_, _, _, _, _, rfl⟩
  | reconcileJournal generation itemCount completedAt events =>
      refine ensures_stateOf (.after fun stored => .after fun itemCount => ?_)
      refine .present fun state _ => .check fun _ => .check fun _ => .ok ?_
      obtain ⟨localEvents, nextEventId, h⟩ := foldl_recordLocalChange_eq stored events
        (store.setEventStatus (·.isPending stored) .superseded)
      rw [h]
      exact ⟨_, _, _, _, _, rfl⟩

/-- An authority operation writes the authority, and nothing else. -/
theorem AuthorityOperation.ensures_frame (store : RootStore) (op : AuthorityOperation) :
    Ensures (op.apply store) fun next => ∃ authority authorityState,
      next = { store with authority := authority, authorityState := authorityState } := by
  cases op with
  | upsert authority => exact .ok ⟨_, _, rfl⟩
  | replace authorities => exact ensures_stateOf (.after fun _ => .ok ⟨_, _, rfl⟩)
  | commitSnapshot cursor authorities observedAt =>
      refine ensures_stateOf (.present fun state _ => .check fun _ => .check fun _ => .check fun _ => ?_)
      refine .after fun expectedAuthorities => .after fun authorityCount => .check fun _ => ?_
      exact .check fun _ => .after fun authority => .ok ⟨_, _, rfl⟩

/-- An intent operation writes the intents, and nothing else. -/
theorem IntentOperation.ensures_frame (store : RootStore) (op : IntentOperation) :
    Ensures (op.apply store) fun next => ∃ intents nextIntentId,
      next = { store with intents := intents, nextIntentId := nextIntentId } := by
  intro next h
  cases hop : op.target? with
  | some target =>
      obtain ⟨intent, -, moved, -, rfl⟩ := op.ensures_moved store (by rw [hop]; rfl) next h
      exact ⟨_, _, rfl⟩
  | none =>
      -- a plan inserts its intents one by one
      have hinserted := op.ensures_inserted store hop next h
      clear h
      induction hinserted with
      | refl => exact ⟨_, _, rfl⟩
      | tail _ hlast ih =>
          obtain ⟨intents, nextIntentId, rfl⟩ := ih
          cases hlast
          exact ⟨_, _, rfl⟩

/-! ## The sides -/

theorem LocalOperation.ensures_catalog (store : RootStore) (op : LocalOperation) :
    Ensures (op.apply store) fun next => next.catalog = store.catalog := by
  intro next h
  obtain ⟨_, _, _, _, _, rfl⟩ := op.ensures_frame store next h
  rfl

theorem AuthorityOperation.ensures_catalog (store : RootStore) (op : AuthorityOperation) :
    Ensures (op.apply store) fun next => next.catalog = store.catalog := by
  intro next h
  obtain ⟨_, _, rfl⟩ := op.ensures_frame store next h
  rfl

theorem IntentOperation.ensures_catalog (store : RootStore) (op : IntentOperation) :
    Ensures (op.apply store) fun next => next.catalog = store.catalog := by
  intro next h
  obtain ⟨_, _, rfl⟩ := op.ensures_frame store next h
  rfl

theorem ReceiptOperation.ensures_localSide (store : RootStore) (op : ReceiptOperation) :
    Ensures (op.apply store) fun next => next.localSide = store.localSide := by
  intro next h
  obtain ⟨_, _, _, rfl⟩ := op.ensures_frame store next h
  rfl

theorem ReceiptOperation.ensures_remoteSide (store : RootStore) (op : ReceiptOperation) :
    Ensures (op.apply store) fun next => next.remoteSide = store.remoteSide := by
  intro next h
  obtain ⟨catalog, hitems, hcount, rfl⟩ := op.ensures_frame store next h
  show RemoteSide.mk catalog.items catalog.itemCount .. = _
  rw [hitems, hcount]
  rfl

theorem LocalOperation.ensures_remoteSide (store : RootStore) (op : LocalOperation) :
    Ensures (op.apply store) fun next => next.remoteSide = store.remoteSide := by
  intro next h
  obtain ⟨_, _, _, _, _, rfl⟩ := op.ensures_frame store next h
  rfl

theorem AuthorityOperation.ensures_localSide (store : RootStore) (op : AuthorityOperation) :
    Ensures (op.apply store) fun next => next.localSide = store.localSide := by
  intro next h
  obtain ⟨_, _, rfl⟩ := op.ensures_frame store next h
  rfl

theorem IntentOperation.ensures_remoteSide (store : RootStore) (op : IntentOperation) :
    Ensures (op.apply store) fun next => next.remoteSide = store.remoteSide := by
  intro next h
  obtain ⟨_, _, rfl⟩ := op.ensures_frame store next h
  rfl

end NubiSync
