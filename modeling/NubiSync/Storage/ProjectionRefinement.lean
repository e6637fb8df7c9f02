import NubiSync.Storage.Catalog
import NubiSync.Sync.ProjectionTables

set_option autoImplicit false

/-! # The catalog follows the projection

A window is applied twice: to the projection in memory, and, as the mutations it emits, to the rows
of the store. The two implementations of re-parenting and of subtree deletion have nothing in common
but the parent links, so the simulation relation is `Agrees`: the rows and the projection hold the
same ids with the same parents. Every call preserves it, through missing parents and cycles. -/

namespace NubiSync

open RootCatalogProjection Worklist

/-! ## The relation -/

/-- The rows and the projection hold the same ids with the same parents. -/
def Agrees (store : CatalogStore) (p : RootCatalogProjection) : Prop :=
  ∀ id, (store.items.find? id).map CatalogRow.parentRemoteId = p.parents.lookup id

/-- A stored item and its parent. -/
def StoredLink (store : CatalogStore) (child parent : Text) : Prop :=
  ∃ row ∈ store.items.rows, row.remoteId = child ∧ row.parentRemoteId = some parent

section Relation

variable {store : CatalogStore} {p : RootCatalogProjection}

theorem Agrees.follows (h : Agrees store p) :
    FollowsLinks CatalogRow.parentRemoteId store.items p := h

theorem storedLink_eq (store : CatalogStore) :
    StoredLink store = Function.swap (Step (childIds store.items)) := by
  funext child parent
  refine propext ?_
  change _ ↔ child ∈ childIds store.items parent
  rw [mem_childIds]
  simp only [StoredLink, Option.map_eq_some_iff, Table.find?_eq_some_iff, and_assoc]

/-! ## The operations preserve it -/

theorem Agrees.writeItem (h : Agrees store p) (item : RemoteItem) (sizeBytes : Option ℕ) :
    Agrees ((store.invalidateForUpsert item).writeItem item sizeBytes) (p.applyUpsert item) := by
  have hitems : FollowsLinks CatalogRow.parentRemoteId (store.invalidateForUpsert item).items p := by
    rw [items_invalidateForUpsert]
    exact h.follows
  exact hitems.upsert rfl rfl

theorem Agrees.deleteSubtree (h : Agrees store p) (hp : p.Indexed) {fuel : ℕ} {remoteId : Text}
    {p' : RootCatalogProjection} (hdelete : p.deleteSubtree fuel remoteId = some p') :
    Agrees (store.deleteSubtreeInTransaction remoteId) p' :=
  h.follows.deleted hp hdelete fun id => find?_deleteSubtreeInTransaction store remoteId id

end Relation

/-! ## Applying the mutations -/

def intoStorageMutation : RootCatalogMutationPlan → SyncRootCatalogMutation
  | .upsert item => .upsert item
  | .deleteSubtree remoteId => .deleteSubtree remoteId

/-- The mutations of a run, applied in order. -/
def applyMutations (store : CatalogStore) (mutations : List RootCatalogMutationPlan) :
    Except StorageError CatalogStore :=
  (mutations.map intoStorageMutation).foldlM CatalogStore.applyMutation store

theorem applyMutations_cons (store : CatalogStore) (mutation : RootCatalogMutationPlan)
    (rest : List RootCatalogMutationPlan) :
    applyMutations store (mutation :: rest) =
      (store.applyMutation (intoStorageMutation mutation)).bind fun next =>
        applyMutations next rest := by
  simp [applyMutations, bind]

theorem applyMutations_append (store : CatalogStore) (first rest : List RootCatalogMutationPlan) :
    applyMutations store (first ++ rest) =
      (applyMutations store first).bind fun next => applyMutations next rest := by
  simp [applyMutations, bind]

/-- The mutations are refused only for a size that does not fit its column. -/
theorem applyMutations_isOk_iff (mutations : List RootCatalogMutationPlan) (store : CatalogStore) :
    (∃ store', applyMutations store mutations = .ok store') ↔
      ∀ item, .upsert item ∈ mutations → item.SizeFits := by
  induction mutations generalizing store with
  | nil => simp [applyMutations, pure, Except.pure]
  | cons mutation rest ih =>
      rw [applyMutations_cons]
      cases mutation with
      | deleteSubtree remoteId =>
          simp only [intoStorageMutation, CatalogStore.applyMutation, Except.bind, ih]
          simp
      | upsert item =>
          simp only [intoStorageMutation, CatalogStore.applyMutation, List.mem_cons,
            RootCatalogMutationPlan.upsert.injEq, forall_eq_or_imp]
          cases hupsert : store.upsertCatalogItem item with
          | ok next =>
              have hfits := ((upsertCatalogItem_eq_ok_iff store item next).mp hupsert).1
              simp [Except.bind, ih, hfits]
          -- an upsert is refused for its size only
          | error e =>
              have hno : ¬ item.SizeFits := fun hfits => by
                rw [(upsertCatalogItem_eq_ok_iff store item _).mpr ⟨hfits, rfl⟩] at hupsert
                simp at hupsert
              simp [Except.bind, hno]

theorem Agrees.applyUpserts {items : List RemoteItem} {store store' : CatalogStore}
    {p : RootCatalogProjection} (h : Agrees store p)
    (happly : applyMutations store (items.map .upsert) = .ok store') :
    Agrees store' (items.foldl RootCatalogProjection.applyUpsert p) := by
  induction items generalizing store p with
  | nil =>
      obtain rfl : store = store' := by simpa [applyMutations, pure, Except.pure] using happly
      exact h
  | cons item rest ih =>
      rw [List.map_cons, applyMutations_cons] at happly
      simp only [intoStorageMutation, CatalogStore.applyMutation] at happly
      cases hupsert : store.upsertCatalogItem item with
      | error e => simp [hupsert, Except.bind] at happly
      | ok next =>
          obtain ⟨-, rfl⟩ := (upsertCatalogItem_eq_ok_iff store item next).mp hupsert
          rw [hupsert] at happly
          exact ih (h.writeItem item item.sizeBytes) happly

/-- The step lemma: a call and its mutations keep the rows and the projection in agreement. -/
theorem Agrees.applyChange {store store' : CatalogStore} {p p' : RootCatalogProjection}
    (h : Agrees store p) (hp : p.Indexed) {fuel : ℕ} {call : ChangeCall}
    {resolution : RootCatalogResolution}
    (hcall : p.applyChange fuel call = some (.ok (resolution, p')))
    (happly : applyMutations store resolution.planned = .ok store') : Agrees store' p' := by
  rcases applyChange_cases hcall with ⟨hplanned, rfl⟩ | ⟨items, -, hplanned, rfl⟩ |
    ⟨-, hplanned, hdelete⟩
  · rw [hplanned] at happly
    obtain rfl : store = store' := by simpa [applyMutations, pure, Except.pure] using happly
    exact h
  · rw [hplanned] at happly
    exact h.applyUpserts happly
  · rw [hplanned] at happly
    obtain rfl : store.deleteSubtreeInTransaction call.change.remoteId = store' := by
      simpa [applyMutations, intoStorageMutation, CatalogStore.applyMutation, pure,
        Except.pure, bind, Except.bind] using happly
    exact h.deleteSubtree hp hdelete

theorem Agrees.applyChanges {fuel : RootCatalogProjection → ℕ} {calls : List ChangeCall}
    {store store' : CatalogStore} {p p' : RootCatalogProjection} (h : Agrees store p)
    (hp : p.Indexed) {mutations : List RootCatalogMutationPlan}
    (hrun : p.applyChanges fuel calls = some (.ok (mutations, p')))
    (happly : applyMutations store mutations = .ok store') :
    Agrees store' p' := by
  induction calls generalizing store p mutations with
  | nil =>
      obtain ⟨rfl, rfl⟩ : mutations = [] ∧ p = p' := by
        simpa [RootCatalogProjection.applyChanges, eq_comm] using hrun
      obtain rfl : store = store' := by simpa [applyMutations, pure, Except.pure] using happly
      exact h
  | cons call rest ih =>
      obtain ⟨resolution, next, later, hcall, hrest, rfl⟩ := applyChanges_cons hrun
      rw [applyMutations_append] at happly
      cases hfirst : applyMutations store resolution.planned with
      | error e => simp [hfirst, Except.bind] at happly
      | ok between =>
          rw [hfirst] at happly
          exact ih (h.applyChange hp hcall hfirst) (hp.applyChange hcall) hrest happly

/-! ## From an accepted item list -/

/-- The row an inventory item is stored as. -/
def RemoteItem.storedRow (item : RemoteItem) : CatalogRow :=
  ⟨item.remoteId, item.parentRemoteId, item.name, item.kind, item.sizeBytes, item.trashed⟩

theorem agrees_new {root : Text} {items : List RemoteItem} {p : RootCatalogProjection}
    (hnew : RootCatalogProjection.new root items = .ok p) {store : CatalogStore}
    (hstored : store.items = Table.ofRows (items.map RemoteItem.storedRow)) : Agrees store p := by
  have hkeys : ((items.map RemoteItem.storedRow).map CatalogRow.remoteId).Nodup := by
    rw [List.map_map]
    exact (new_ok hnew).2.1
  have hlinks : HasLinksOf CatalogRow.parentRemoteId store.items items := by
    intro id parent
    simp only [hstored, Table.mem_ofRows hkeys, List.mem_map]
    constructor
    · rintro ⟨-, ⟨item, hitem, rfl⟩, hid, hparent⟩
      exact ⟨item, hitem, hid, hparent⟩
    · rintro ⟨item, hitem, hid, hparent⟩
      exact ⟨item.storedRow, ⟨item, hitem, rfl⟩, hid, hparent⟩
  exact hlinks.follows hnew

/-- **The catalog follows the projection.** For every accepted item list and every sequence of calls
    that return and end, the emitted mutations are applied to the stored rows without an error, sizes
    that do not fit their column apart, and the rows then hold exactly the ids and parents of the final
    projection. If that projection is complete, the refreshed count is its item count and every stored
    item leads to the root. -/
theorem catalog_follows_projection (root : Text) (items : List RemoteItem)
    (p : RootCatalogProjection) (hnew : RootCatalogProjection.new root items = .ok p)
    (store : CatalogStore)
    (hstored : store.items = Table.ofRows (items.map RemoteItem.storedRow))
    (fuel : RootCatalogProjection → ℕ) (calls : List ChangeCall)
    (mutations : List RootCatalogMutationPlan) (p' : RootCatalogProjection)
    (hrun : p.applyChanges fuel calls = some (.ok (mutations, p'))) :
    ((∃ store', applyMutations store mutations = .ok store') ↔
      ∀ item, .upsert item ∈ mutations → item.SizeFits) ∧
    ∀ store', applyMutations store mutations = .ok store' →
      (∀ id, (store'.items.find? id).map CatalogRow.parentRemoteId = p'.parents.lookup id) ∧
      (p'.validateComplete = .ok () →
        store'.refreshCatalogCount.itemCount = p'.itemCount ∧
          ∀ row ∈ store'.items.rows, Relation.TransGen (StoredLink store') row.remoteId root) := by
  refine ⟨applyMutations_isOk_iff mutations store, fun store' happly => ?_⟩
  have hagrees := (agrees_new hnew hstored).applyChanges (Indexed.new hnew) hrun happly
  obtain ⟨hindexed, hroot⟩ := (Indexed.new hnew).applyChanges hrun
  refine ⟨hagrees, fun hvalid => ⟨hagrees.follows.length_rows, fun row hrow => ?_⟩⟩
  have hcomplete : p'.isComplete = true := by
    unfold validateComplete at hvalid
    split at hvalid
    · next h => exact h
    · simp at hvalid
  have hkey := (hagrees.follows.mem_keys row.remoteId).mp (List.mem_map.mpr ⟨row, hrow, rfl⟩)
  obtain ⟨top, htop, hwalk⟩ := hindexed.isComplete_iff.mp hcomplete row.remoteId hkey
  rw [storedLink_eq, Relation.transGen_swap]
  -- a chain of stored parents is a walk down the child buckets, the other way round
  have hstep : Step (childIds store'.items) = Step p'.children := hagrees.follows.step_eq hindexed
  rw [hstep]
  have hrootEq : p'.rootRemoteId = root := by rw [hroot, (new_ok hnew).1, rootRemoteId_foldl_applyUpsert]
  exact Relation.TransGen.head' (hrootEq ▸ htop) hwalk

/-! The folder `f` is moved out of `g`, then `g` is deleted: `f` survives the subtree deletion. -/

def movedUpThenDeleted : List ChangeCall :=
  [⟨.upsert ⟨['f'], some ['r'], ['f'], .folder, none, none, false⟩, .descendant, none⟩,
    ⟨.delete ['g'], .unresolvedDelete, none⟩]

def movedUpMutations : List RootCatalogMutationPlan :=
  [.upsert ⟨['f'], some ['r'], ['f'], .folder, none, none, false⟩, .deleteSubtree ['g']]

def movedUpProjection : RootCatalogProjection :=
  (nestedProjection.applyUpsert ⟨['f'], some ['r'], ['f'], .folder, none, none, false⟩).removeNode
    ['g']

def nestedStore : CatalogStore :=
  ⟨Table.ofRows (nestedFolders.map RemoteItem.storedRow), ∅, ∅, 2⟩

theorem catalog_follows_projection_moved_up :
    ((∃ store', applyMutations nestedStore movedUpMutations = .ok store') ↔
      ∀ item, .upsert item ∈ movedUpMutations → item.SizeFits) ∧
    ∀ store', applyMutations nestedStore movedUpMutations = .ok store' →
      (∀ id, (store'.items.find? id).map CatalogRow.parentRemoteId =
        movedUpProjection.parents.lookup id) ∧
      (movedUpProjection.validateComplete = .ok () →
        store'.refreshCatalogCount.itemCount = movedUpProjection.itemCount ∧
          ∀ row ∈ store'.items.rows, Relation.TransGen (StoredLink store') row.remoteId ['r']) :=
  catalog_follows_projection ['r'] nestedFolders nestedProjection (by rfl) nestedStore rfl
    RootCatalogProjection.itemCount movedUpThenDeleted movedUpMutations movedUpProjection (by rfl)

end NubiSync
