import NubiSync.Daemon.ChangeWindows
import NubiSync.Storage.CatalogWrites
import NubiSync.Sync.CatalogClosure

set_option autoImplicit false

/-! # A committed window leaves a catalog the next one accepts

The execution of a window reads the catalog back from the store and gives it to
`RootCatalogProjection::new`. `catalog_accepted_after_window` says that it is never refused there on
account of an earlier window, and `executed_window_accepted` says the same of the execution, for a
provider that tells the root from its items. -/

namespace NubiSync

open Checks RootCatalogProjection Transactions

/-! ## The catalog read back -/

/-- The items of a store are its rows, in the order of their ids. -/
theorem listRemoteItems_perm (store : RootStore) :
    store.listRemoteItems.Perm (store.catalog.items.rows.map CatalogRow.remoteItem) :=
  (List.perm_insertionSort _ _).map _

theorem hasLinksOf_listRemoteItems (store : RootStore) :
    HasLinksOf CatalogRow.parentRemoteId store.catalog.items store.listRemoteItems := by
  intro id parent
  simp only [(listRemoteItems_perm store).mem_iff, List.mem_map]
  constructor
  · rintro ⟨row, hrow, hid, hparent⟩
    exact ⟨row.remoteItem, ⟨row, hrow, rfl⟩, hid, hparent⟩
  · rintro ⟨-, ⟨row, hrow, rfl⟩, hid, hparent⟩
    exact ⟨row, hrow, hid, hparent⟩

theorem nodup_listRemoteItems (store : RootStore) :
    (store.listRemoteItems.map RemoteItem.remoteId).Nodup := by
  rw [((listRemoteItems_perm store).map RemoteItem.remoteId).nodup_iff, List.map_map]
  exact store.catalog.items.nodup_keys

/-- A row after the mutations was there before, or one of them upserts its item. -/
theorem mem_rows_applyMutations {mutations : List RootCatalogMutationPlan}
    {catalog catalog' : CatalogStore} (happly : applyMutations catalog mutations = .ok catalog')
    {row : CatalogRow} (hrow : row ∈ catalog'.items.rows) :
    row ∈ catalog.items.rows ∨
      ∃ item, .upsert item ∈ mutations ∧ row = { item.storedRow with trashed := false } := by
  induction mutations generalizing catalog with
  | nil =>
      obtain rfl : catalog = catalog' := by simpa [applyMutations, pure, Except.pure] using happly
      exact Or.inl hrow
  | cons mutation rest ih =>
      rw [applyMutations_cons] at happly
      cases mutation with
      | upsert item =>
          obtain ⟨next, hupsert, hrest⟩ := bind_eq_ok.mp happly
          obtain ⟨-, rfl⟩ := (upsertCatalogItem_eq_ok_iff catalog item next).mp hupsert
          rcases ih hrest with hmem | ⟨other, hother, hsame⟩
          · rcases Table.mem_upsert.mp hmem with ⟨hold, -⟩ | hnew
            · rw [items_invalidateForUpsert] at hold
              exact Or.inl hold
            · exact Or.inr ⟨item, List.mem_cons_self, hnew⟩
          · exact Or.inr ⟨other, List.mem_cons_of_mem _ hother, hsame⟩
      | deleteSubtree remoteId =>
          rcases ih happly with hmem | ⟨other, hother, hsame⟩
          · exact Or.inl (Table.mem_deleteWhere.mp hmem).1
          · exact Or.inr ⟨other, List.mem_cons_of_mem _ hother, hsame⟩

/-- The check a commit makes of every mutation does not change what is applied. -/
theorem applyMutations_of_checked {mutations : List RootCatalogMutationPlan}
    {catalog catalog' : CatalogStore}
    (h : (mutations.map intoStorageMutation).foldlM CatalogStore.applyCheckedMutation catalog
      = .ok catalog') : applyMutations catalog mutations = .ok catalog' := by
  induction mutations generalizing catalog with
  | nil => exact h
  | cons mutation rest ih =>
      rw [List.map_cons, List.foldlM_cons] at h
      obtain ⟨next, hfirst, hrest⟩ := bind_eq_ok.mp h
      have happly := ((refuseIf_bind_eq_ok _ _ _ _).mp hfirst).2
      rw [applyMutations_cons, happly]
      exact ih hrest

/-! ## The constructor accepts what a window leaves -/

/-- The items a store lists are accepted again once a window commit has applied the mutations. -/
theorem listRemoteItems_accepted {root : Text} {store next : RootStore} {p p' : RootCatalogProjection}
    (hnew : RootCatalogProjection.new root store.listRemoteItems = .ok p)
    {fuel : RootCatalogProjection → ℕ} {calls : List ChangeCall}
    (hcalls : ∀ call ∈ calls, call.Promised root) {mutations : List RootCatalogMutationPlan}
    (hrun : p.applyChanges fuel calls = some (.ok (mutations, p')))
    (hcomplete : p'.isComplete = true) {base checkpoint : ChangeCursor} {count : ℕ}
    {commit : SyncRootCatalogBatchCommit}
    (hcommit : store.commitCatalogChangeWindow base checkpoint count
      (mutations.map intoStorageMutation) = .ok (next, commit)) :
    ∃ q, RootCatalogProjection.new root next.listRemoteItems = .ok q := by
  obtain ⟨catalog, hchecked, hcatalog⟩ := ensures_committedCatalog _ _ _ _ _ _ hcommit
  have happly := applyMutations_of_checked hchecked
  have hitems : next.catalog.items = catalog.items := by rw [hcatalog]; rfl
  obtain ⟨hfold, -, hvalid, -⟩ := new_ok hnew
  -- the catalog and the projection start with the same links, and each commit or call keeps them so
  have hstart : Agrees store.catalog p := (hasLinksOf_listRemoteItems store).follows hnew
  have hfollows : FollowsLinks CatalogRow.parentRemoteId next.catalog.items p' := by
    rw [hitems]
    exact hstart.applyChanges (Indexed.new hnew) hrun happly
  obtain ⟨hindexed, hkept⟩ := (Indexed.new hnew).applyChanges hrun
  have hroot : p'.rootRemoteId = root := by
    rw [hkept, hfold, rootRemoteId_foldl_applyUpsert]
  have hfits : ∀ item ∈ next.listRemoteItems, item.FitsCatalog root := by
    intro item hitem
    obtain ⟨row, hrow, rfl⟩ := List.mem_map.mp ((listRemoteItems_perm next).mem_iff.mp hitem)
    rw [hitems] at hrow
    -- a row of the new catalog was there before the window, or is an item that a call planned
    rcases mem_rows_applyMutations happly hrow with hold | ⟨other, hupsert, rfl⟩
    · have hlisted : row.remoteItem ∈ store.listRemoteItems :=
        (listRemoteItems_perm store).mem_iff.mpr (List.mem_map.mpr ⟨row, hold, rfl⟩)
      obtain ⟨hid, hname, hlive, hbelow⟩ := hvalid row.remoteItem hlisted
      exact ⟨hid, hname, hlive, hbelow⟩
    · have hother := fits_of_applyChanges hcalls hrun other hupsert
      exact ⟨hother.identified, hother.named, rfl, hother.below_root⟩
  subst hroot
  exact new_of_follows hfollows hindexed (root_not_blank hnew) hcomplete
    (hasLinksOf_listRemoteItems next) (nodup_listRemoteItems next) hfits

/-- **The catalog stays acceptable.** Of an accepted item list and any promised calls that return and
    end in a complete projection, the items with the emitted mutations applied are accepted again;
    and so are the items read back from any store that listed them before and has committed the
    mutations with a window. -/
theorem catalog_accepted_after_window (root : Text) (items : List RemoteItem)
    (p : RootCatalogProjection) (hnew : RootCatalogProjection.new root items = .ok p)
    (fuel : RootCatalogProjection → ℕ) (calls : List ChangeCall)
    (hcalls : ∀ call ∈ calls, call.Promised root) (mutations : List RootCatalogMutationPlan)
    (p' : RootCatalogProjection) (hrun : p.applyChanges fuel calls = some (.ok (mutations, p')))
    (hvalid : p'.validateComplete = .ok ()) :
    (∃ q, RootCatalogProjection.new root (applyPlans items mutations) = .ok q) ∧
    ∀ (store next : RootStore) (base checkpoint : ChangeCursor) (count : ℕ)
      (commit : SyncRootCatalogBatchCommit), store.listRemoteItems = items →
      store.commitCatalogChangeWindow base checkpoint count (mutations.map intoStorageMutation)
        = .ok (next, commit) →
      ∃ q, RootCatalogProjection.new root next.listRemoteItems = .ok q := by
  have hcomplete := isComplete_of_validateComplete hvalid
  refine ⟨applyPlans_accepted hnew hcalls hrun hcomplete, ?_⟩
  intro store next base checkpoint count commit hlisted hcommit
  subst hlisted
  exact listRemoteItems_accepted hnew hcalls hrun hcomplete hcommit

/-! A folder moves out of the one it lay in, which is then deleted. -/

theorem catalog_accepted_after_window_moved_up :
    (∃ q, RootCatalogProjection.new ['r'] (applyPlans nestedFolders movedUpMutations) = .ok q) ∧
    ∀ (store next : RootStore) (base checkpoint : ChangeCursor) (count : ℕ)
      (commit : SyncRootCatalogBatchCommit), store.listRemoteItems = nestedFolders →
      store.commitCatalogChangeWindow base checkpoint count (movedUpMutations.map intoStorageMutation)
        = .ok (next, commit) →
      ∃ q, RootCatalogProjection.new ['r'] next.listRemoteItems = .ok q := by
  refine catalog_accepted_after_window ['r'] nestedFolders nestedProjection (by rfl)
    RootCatalogProjection.itemCount movedUpThenDeleted ?_ movedUpMutations movedUpProjection (by rfl)
    (by rfl)
  intro call hcall
  simp only [movedUpThenDeleted, List.mem_cons, List.not_mem_nil, or_false] at hcall
  rcases hcall with rfl | rfl
  · exact ⟨by decide, by simp, by decide, by simp⟩
  · exact ⟨by decide, by simp, by decide, by simp⟩

/-! ## The execution of a window -/

section Execution

variable {RootIdentity : Type} {provider : SelectedRootProvider RootIdentity}
  {fuel : RootCatalogProjection → ℕ} {configured canonicalRootId : Text} {root : RootIdentity}

theorem result_executorCommit {α : Type} {result : Except StorageError (RootStore × α)}
    {r : RootStore × α} (h : (executorCommit result).result = .ok r) : result = .ok r := by
  cases result with
  | error error => cases h
  | ok found =>
      obtain ⟨store, value⟩ := found
      obtain rfl : (store, value) = r := Except.ok.inj h
      rfl

/-- The provider tells the root from its items: membership `Root` is the root's alone, and the root is
    not in a hydration, as a folder is never its own ancestor. -/
structure SelectedRootProvider.TellsRoot (provider : SelectedRootProvider RootIdentity)
    (root : RootIdentity) : Prop where
  membership : ∀ item membership, provider.resolveMembership item root = .ok membership →
    (membership = .root ↔ item.remoteId = provider.canonicalRootId root)
  hydration : ∀ item items, provider.hydrateFolder item = .ok items →
    ∀ other ∈ items, other.remoteId ≠ provider.canonicalRootId root

/-- An event that has passed the checks of staging. -/
def RemoteChange.Staged (change : RemoteChange) : Prop :=
  change.remoteId.isBlank = false ∧ ∀ item, change = .upsert item → item.name ≠ []

theorem resolveChangeMembership_root_iff (htells : provider.TellsRoot root) {change : RemoteChange}
    {membership : RootChangeMembership}
    (h : resolveChangeMembership provider root (provider.canonicalRootId root) change
      = .ok membership) :
    membership = .root ↔ change.remoteId = provider.canonicalRootId root := by
  cases change with
  | upsert item => exact htells.membership item membership h
  | delete remoteId =>
      obtain rfl := Except.ok.inj h
      show _ ↔ remoteId = provider.canonicalRootId root
      by_cases hroot : remoteId = provider.canonicalRootId root
      · simp [hroot]
      · simp [hroot]

theorem hydrateChange_below (htells : provider.TellsRoot root) {projection : RootCatalogProjection}
    {membership : RootChangeMembership} {change : RemoteChange} {items : List RemoteItem}
    (h : hydrateChange provider projection membership change = .ok (some items)) :
    ∀ item ∈ items, item.remoteId ≠ provider.canonicalRootId root := by
  cases change with
  | delete remoteId => simp [hydrateChange] at h
  | upsert folder =>
      rw [hydrateChange] at h
      split at h
      · cases hfolder : provider.hydrateFolder folder with
        | error error => simp [hfolder, Except.map] at h
        | ok found =>
            obtain rfl : found = items := by simpa [hfolder, Except.map] using h
            exact htells.hydration folder found hfolder
      · cases h

/-- One event of a window is a promised call on the projection. -/
theorem planWindowChange_call (htells : provider.TellsRoot root) {plan plan' : WindowPlan}
    {change : RemoteChange} (hstaged : change.Staged)
    (h : planWindowChange provider fuel configured (provider.canonicalRootId root) root plan change
      = .ok plan') :
    ∃ (call : ChangeCall) (resolution : RootCatalogResolution),
      call.Promised (provider.canonicalRootId root) ∧
      plan.projection.applyChange (fuel plan.projection) call
        = some (.ok (resolution, plan'.projection)) ∧
      plan'.mutations = plan.mutations ++ resolution.planned := by
  obtain ⟨membership, hmembership, h⟩ := bind_eq_ok.mp h
  obtain ⟨hydration, hhydration, h⟩ := bind_eq_ok.mp h
  obtain ⟨hydratedItems, -, h⟩ := bind_eq_ok.mp h
  obtain ⟨⟨resolution, projection⟩, happly, h⟩ := bind_eq_ok.mp h
  rw [mapError_eq_ok] at hmembership hhydration
  have hpromised : (ChangeCall.mk change membership hydration).Promised
      (provider.canonicalRootId root) := by
    refine ⟨hstaged.1, hstaged.2, resolveChangeMembership_root_iff htells hmembership, ?_⟩
    intro items hitems
    obtain rfl : hydration = some items := hitems
    exact hydrateChange_below htells hhydration
  have hcall : plan.projection.applyChange (fuel plan.projection) ⟨change, membership, hydration⟩
      = some (.ok (resolution, projection)) := by
    rw [applyWindowChange] at happly
    split at happly
    · cases happly
    · next outcome houtcome => rw [houtcome, (mapError_eq_ok.mp happly)]
  refine ⟨_, resolution, hpromised, ?_⟩
  cases resolution with
  | noop | mutations all =>
      obtain rfl := Except.ok.inj h
      exact ⟨hcall, rfl⟩
  -- a change at the root plans no mutation: the executor looks the root up again
  | revalidateRoot =>
      obtain ⟨rootRevalidations, -, h⟩ := bind_eq_ok.mp h
      obtain ⟨revalidated, -, h⟩ := bind_eq_ok.mp h
      obtain ⟨-, -, h⟩ := bind_eq_ok.mp h
      obtain rfl := Except.ok.inj h
      exact ⟨hcall, (List.append_nil _).symm⟩

/-- The run lemma: the loop over the events of a window is a run of promised calls. -/
theorem planWindowChanges_calls (htells : provider.TellsRoot root) {events : List RemoteChange}
    (hstaged : ∀ change ∈ events, change.Staged) {plan plan' : WindowPlan}
    (h : events.foldlM
      (planWindowChange provider fuel configured (provider.canonicalRootId root) root) plan
        = .ok plan') :
    ∃ (calls : List ChangeCall) (later : List RootCatalogMutationPlan),
      (∀ call ∈ calls, call.Promised (provider.canonicalRootId root)) ∧
      plan.projection.applyChanges fuel calls = some (.ok (later, plan'.projection)) ∧
      plan'.mutations = plan.mutations ++ later := by
  induction events generalizing plan with
  | nil =>
      obtain rfl := Except.ok.inj h
      exact ⟨[], [], by simp, rfl, (List.append_nil _).symm⟩
  | cons change rest ih =>
      obtain ⟨hfirst, hothers⟩ := List.forall_mem_cons.mp hstaged
      rw [List.foldlM_cons] at h
      obtain ⟨next, hnext, hrest⟩ := bind_eq_ok.mp h
      obtain ⟨call, resolution, hcall, happly, hmutations⟩ :=
        planWindowChange_call htells hfirst hnext
      obtain ⟨calls, later, hcalls, hrun, hlater⟩ := ih hothers hrest
      refine ⟨call :: calls, resolution.planned ++ later,
        List.forall_mem_cons.mpr ⟨hcall, hcalls⟩, ?_, ?_⟩
      · simp [RootCatalogProjection.applyChanges, happly, hrun, Except.map]
      · rw [hlater, hmutations, List.append_assoc]

theorem planWindow_ok {store : RootStore} {plan : WindowPlan}
    (hroot : provider.resolveRoot configured = .ok root)
    (h : store.planWindow provider fuel (some configured) = .ok plan) :
    ∃ p, RootCatalogProjection.new (provider.canonicalRootId root) store.listRemoteItems = .ok p ∧
      store.windowEvents.foldlM
        (planWindowChange provider fuel configured (provider.canonicalRootId root) root) ⟨p, [], 0, 0⟩
          = .ok plan ∧
      plan.projection.validateComplete = .ok () := by
  -- the steps of the executor in its own order: the root, its identity, the projection, the events,
  -- the completeness of the result
  obtain ⟨given, hgiven, h⟩ := bind_eq_ok.mp h
  obtain rfl : configured = given := by simpa [orRefuse] using hgiven
  obtain ⟨identity, hidentity, h⟩ := bind_eq_ok.mp h
  obtain rfl : root = identity := Except.ok.inj (hroot.symm.trans (mapError_eq_ok.mp hidentity))
  obtain ⟨-, -, h⟩ := bind_eq_ok.mp h
  obtain ⟨p, hnew, h⟩ := bind_eq_ok.mp h
  obtain ⟨planned, hevents, h⟩ := bind_eq_ok.mp h
  obtain ⟨complete, hvalid, h⟩ := bind_eq_ok.mp h
  obtain rfl := Except.ok.inj h
  exact ⟨p, mapError_eq_ok.mp hnew, hevents, mapError_eq_ok.mp hvalid⟩

/-- **A window that was executed leaves a catalog that the next execution accepts**, whatever its
    events were and whatever the provider answered. -/
theorem executed_window_accepted (store committed : RootStore) (execution : SelectedRootBatchExecution)
    (hroot : provider.resolveRoot configured = .ok root) (htells : provider.TellsRoot root)
    (hstaged : ∀ change ∈ store.windowEvents, change.Staged)
    (h : (executeCompletedSelectedRootChangeWindow provider fuel (some configured) store).result
      = .ok (committed, execution)) :
    ∃ q, RootCatalogProjection.new (provider.canonicalRootId root) committed.listRemoteItems
      = .ok q := by
  obtain ⟨⟨window, checkpoint⟩, -, h⟩ := Trace.bind_result_eq_ok.mp h
  obtain ⟨plan, hplan, h⟩ := Trace.bind_result_eq_ok.mp h
  obtain ⟨⟨next, commit⟩, hcommit, h⟩ := Trace.bind_result_eq_ok.mp h
  obtain ⟨rfl, -⟩ : next = committed ∧ _ := Prod.ext_iff.mp (Except.ok.inj h)
  obtain ⟨p, hnew, hevents, hvalid⟩ := planWindow_ok hroot hplan
  obtain ⟨calls, mutations, hcalls, hrun, hmutations⟩ :=
    planWindowChanges_calls htells hstaged hevents
  obtain rfl : plan.mutations = mutations := hmutations
  exact listRemoteItems_accepted hnew hcalls hrun (isComplete_of_validateComplete hvalid)
    (result_executorCommit hcommit)

end Execution

end NubiSync
