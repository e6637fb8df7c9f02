import NubiSync.Daemon.WindowClosure
import NubiSync.Storage.AnchoredWindows

set_option autoImplicit false

/-! # Changes executed directly and through a window

A list of changes can be executed at once, or staged page by page and executed as a window. The two
executors and the two commits are separate, and a staged change has lost its modification time, so
`change_paths_agree_iff` compares them: on a provider whose answers do not depend on that time they do
the same to the catalog and the cursor and report the same. That they report anything needs the
deletions among the changes to end. -/

namespace NubiSync

open Checks Transactions RootCatalogProjection

/-! ## Executing a batch -/

section Batch

variable {RootIdentity : Type} (provider : SelectedRootProvider RootIdentity)
  (fuel : RootCatalogProjection → ℕ) (remoteRootId : Option Text) (store : RootStore)

/-- What executing changes plans, from the catalog they are executed on. -/
def RootStore.planChanges (changes : List RemoteChange) :
    Except (Halt SelectedRootExecutorError) WindowPlan := do
  let configuredRemoteRootId ← (orRefuse remoteRootId .missingRemoteRoot).mapError .failed
  let root ← (provider.resolveRoot configuredRemoteRootId).mapError .failed
  let canonicalRootId := provider.canonicalRootId root
  (refuseIf canonicalRootId.isBlank .invalidCanonicalRoot).mapError .failed
  let projection ← (RootCatalogProjection.new canonicalRootId store.listRemoteItems).mapError
    fun error => .failed (.projection error)
  let plan ← changes.foldlM
    (planWindowChange provider fuel configuredRemoteRootId canonicalRootId root)
    ⟨projection, [], 0, 0⟩
  plan.projection.validateComplete.mapError fun error => .failed (.projection error)
  .ok plan

def executeSelectedRootChangeBatch (expectedCursor : ChangeCursor) (changes : List RemoteChange)
    (nextCursor : ChangeCursor) : ExecutorTrace (RootStore × SelectedRootBatchExecution) := do
  let plan ← Trace.read (store.planChanges provider fuel remoteRootId changes)
  let mutations := plan.mutations.map intoStorageMutation
  let (committed, commit) ← executorCommit (store.commitCatalogBatchAndCursor expectedCursor mutations
    nextCursor)
  pure (committed, ⟨changes.length, mutations.length, commit.authoritativeItems,
    plan.hydratedItems, plan.rootRevalidations, commit.completedInitialCatchup⟩)

/-- A window plans what its changes would plan directly. -/
theorem planWindow_eq :
    store.planWindow provider fuel remoteRootId
      = store.planChanges provider fuel remoteRootId store.windowEvents := rfl

end Batch

/-! ## Staging pages -/

/-- Pages staged one after the other, each asked for by the continuation of the one before. -/
def RootStore.stagePages (baseCursor : ChangeCursor) :
    RootStore → Option ContinuationToken → List ChangePage → Except StorageError RootStore
  | store, _, [] => .ok store
  | store, requested, page :: rest => do
      let (staged, _) ← store.stageChangeWindowPage baseCursor requested page
      stagePages baseCursor staged page.continuation rest

/-- A window that was opened on a store and holds changes, up to the end of a page. -/
structure HoldsStaged (store staged : RootStore) (baseCursor : ChangeCursor)
    (changes : List RemoteChange) (page : ChangePage) : Prop where
  window : ∃ pages, staged.windowState
    = some ⟨baseCursor, page.continuation, page.checkpoint, pages, changes.length⟩
  events : staged.windowEvents = changes.map RemoteChange.erased
  catalog : staged.catalog = store.catalog
  remoteState : staged.remoteState = store.remoteState
  limit : changes.length ≤ 100000000
  cursor : ∃ state, store.AtCursor state baseCursor
  boundary : page.continuation.isSome ≠ page.checkpoint.isSome

/-- The first page of a window, staged on a root of a run. -/
theorem holdsStaged_first {mode : SyncMode} {store staged : RootStore}
    (hreaches : (RootStore.new mode).Reaches store) {baseCursor : ChangeCursor} {page : ChangePage}
    {window : SyncRootChangeWindowState}
    (h : store.stageChangeWindowPage baseCursor none page = .ok (staged, window)) :
    HoldsStaged store staged baseCursor page.changes page := by
  obtain ⟨log, hlog⟩ := hreaches.recorded
  have hbounded : store.WindowBounded :=
    hreaches.invariant nofun fun s op s' hs _ hstep => hstep.windowBounded hs
  cases stageChangeWindowPage_effect h with
  | kept _ _ hop => cases hop
  | staged _ _ _ state hcursor boundary pages changes hcounts hlimit tokens =>
      obtain ⟨hnone, rfl⟩ : store.windowState = none ∧ changes = 0 := by
        -- an open window asks for its continuation, and one without it has its checkpoint
        cases hwindow : store.windowState with
        | none =>
            obtain ⟨-, rfl⟩ | ⟨open_, hopen, -⟩ := windowCounts_eq_ok hcounts
            · exact ⟨rfl, rfl⟩
            · cases hwindow.symm.trans hopen
        | some open_ =>
            rw [RootStore.windowCounts, hwindow] at hcounts
            obtain ⟨hcheckpoint, hcounts⟩ := (refuseIf_bind_eq_ok _ _ _ _).mp hcounts
            obtain ⟨-, hcounts⟩ := (refuseIf_bind_eq_ok _ _ _ _).mp hcounts
            obtain ⟨hcontinuation, -⟩ := (refuseIf_bind_eq_ok _ _ _ _).mp hcounts
            have hends := (hbounded open_ hwindow).1
            simp only [bne_eq_false_iff_eq] at hcontinuation
            rw [hcontinuation, hcheckpoint] at hends
            exact absurd rfl hends
      have hempty : store.windowEvents = [] := by
        cases hopen : log.window with
        | none => exact (hlog.tracks.closed hopen).2
        | some open_ =>
            obtain ⟨-, -, state, hsome, -⟩ := hlog.tracks.opened open_ hopen
            cases hnone.symm.trans hsome
      rw [Nat.zero_add] at hlimit
      refine ⟨⟨pages + 1, by rw [Nat.zero_add]⟩, ?_, rfl, rfl, hlimit, ⟨state, hcursor⟩, boundary⟩
      rw [hempty]
      rfl

theorem HoldsStaged.next {store middle staged : RootStore} {baseCursor : ChangeCursor}
    {changes : List RemoteChange} {page page' : ChangePage}
    (h : HoldsStaged store middle baseCursor changes page) {window : SyncRootChangeWindowState}
    (hstaged : middle.stageChangeWindowPage baseCursor page.continuation page' = .ok (staged, window)) :
    HoldsStaged store staged baseCursor (changes ++ page'.changes) page' := by
  obtain ⟨held, hwindow⟩ := h.window
  cases stageChangeWindowPage_effect hstaged with
  | kept _ _ hop => cases hop
  | staged _ _ _ state hcursor boundary pages counted hcounts hlimit tokens =>
      obtain rfl : counted = changes.length := by
        obtain ⟨hnone, -⟩ | ⟨open_, hopen, -, -, hcount⟩ := windowCounts_eq_ok hcounts
        · cases hwindow.symm.trans hnone
        · obtain rfl := Option.some.inj (hwindow.symm.trans hopen)
          exact hcount.symm
      rw [← List.length_append] at hlimit
      refine ⟨⟨pages + 1, by rw [List.length_append]⟩, ?_, h.catalog, h.remoteState, hlimit, h.cursor,
        boundary⟩
      rw [h.events, List.map_append]

/-- The run lemma, by induction on the pages that follow. -/
theorem HoldsStaged.stagePages {store : RootStore} {baseCursor : ChangeCursor} {rest : List ChangePage}
    {middle staged : RootStore} {changes : List RemoteChange} {page : ChangePage}
    (h : HoldsStaged store middle baseCursor changes page)
    (hstaged : RootStore.stagePages baseCursor middle page.continuation rest = .ok staged) :
    HoldsStaged store staged baseCursor (changes ++ rest.flatMap ChangePage.changes)
      (rest.getLastD page) := by
  induction rest generalizing middle changes page with
  | nil =>
      obtain rfl := Except.ok.inj hstaged
      rw [List.flatMap_nil, List.append_nil]
      exact h
  | cons next rest ih =>
      obtain ⟨⟨after, window⟩, hnext, hrest⟩ := bind_eq_ok.mp hstaged
      have hlast := ih (h.next hnext) hrest
      rw [List.append_assoc] at hlast
      rwa [List.flatMap_cons, List.getLastD_cons]

/-- **What staging leaves of a list of changes**, however it was split: a complete window with all of
    them, and the catalog and the cursor as they were. -/
theorem holdsStaged_of_stagePages {mode : SyncMode} {store staged : RootStore}
    (hreaches : (RootStore.new mode).Reaches store) {baseCursor checkpoint : ChangeCursor}
    {pages : List ChangePage}
    (hstaged : RootStore.stagePages baseCursor store none pages = .ok staged)
    (hlast : pages.getLast?.bind ChangePage.checkpoint = some checkpoint) :
    ∃ last, last.checkpoint = some checkpoint ∧
      HoldsStaged store staged baseCursor (pages.flatMap ChangePage.changes) last := by
  cases pages with
  | nil => cases hlast
  | cons page rest =>
      obtain ⟨⟨after, window⟩, hfirst, hrest⟩ := bind_eq_ok.mp hstaged
      refine ⟨rest.getLastD page, ?_, (holdsStaged_first hreaches hfirst).stagePages hrest⟩
      rw [List.getLast?_cons, ← List.getLastD_eq_getLast?] at hlast
      exact hlast

/-! ## Without modification times -/

/-- An item without its modification time. -/
def RemoteItem.erased (item : RemoteItem) : RemoteItem := { item with modifiedUnixMs := none }

/-- A mutation without modification times. -/
def RootCatalogMutationPlan.erased : RootCatalogMutationPlan → RootCatalogMutationPlan
  | .upsert item => .upsert item.erased
  | .deleteSubtree remoteId => .deleteSubtree remoteId

/-- A resolution without modification times. -/
def RootCatalogResolution.erased : RootCatalogResolution → RootCatalogResolution
  | .noop => .noop
  | .revalidateRoot => .revalidateRoot
  | .mutations all => .mutations (all.map RootCatalogMutationPlan.erased)

/-- A plan without modification times. -/
def WindowPlan.erased (plan : WindowPlan) : WindowPlan :=
  { plan with mutations := plan.mutations.map RootCatalogMutationPlan.erased }

/-- A hydration whose folder has lost its modification time. -/
def eraseFolder : List RemoteItem → List RemoteItem
  | [] => []
  | folder :: others => folder.erased :: others

/-- The provider's answers are those to the item without its modification time, and a hydration starts
    with the folder it was asked for. -/
structure SelectedRootProvider.IgnoresModified {RootIdentity : Type}
    (provider : SelectedRootProvider RootIdentity) : Prop where
  membership : ∀ item root,
    provider.resolveMembership item.erased root = provider.resolveMembership item root
  hydration : ∃ below : RemoteItem → Except SelectedRootExecutorError (List RemoteItem),
    ∀ item, provider.hydrateFolder item = (below item.erased).map (item :: ·)

theorem planned_erased (resolution : RootCatalogResolution) :
    resolution.planned.map RootCatalogMutationPlan.erased = resolution.erased.planned := by
  cases resolution <;> rfl

@[simp] theorem applyUpsert_erased (p : RootCatalogProjection) (item : RemoteItem) :
    p.applyUpsert item.erased = p.applyUpsert item := rfl

/-- What a plan does to the catalog does not depend on modification times. -/
@[simp] theorem applyCheckedMutation_erased (catalog : CatalogStore)
    (mutation : RootCatalogMutationPlan) :
    catalog.applyCheckedMutation (intoStorageMutation mutation.erased)
      = catalog.applyCheckedMutation (intoStorageMutation mutation) := by
  cases mutation <;> rfl

theorem foldlM_applyCheckedMutation_congr {plan plan' : List RootCatalogMutationPlan}
    (h : plan.map RootCatalogMutationPlan.erased = plan'.map RootCatalogMutationPlan.erased)
    (catalog : CatalogStore) :
    (plan.map intoStorageMutation).foldlM CatalogStore.applyCheckedMutation catalog
      = (plan'.map intoStorageMutation).foldlM CatalogStore.applyCheckedMutation catalog := by
  have hsteps : ∀ mutations : List RootCatalogMutationPlan,
      (mutations.map intoStorageMutation).foldlM CatalogStore.applyCheckedMutation catalog
        = (mutations.map RootCatalogMutationPlan.erased).foldlM
            (fun catalog mutation => catalog.applyCheckedMutation (intoStorageMutation mutation))
            catalog := by
    intro mutations
    rw [List.foldlM_map, List.foldlM_map]
    simp only [applyCheckedMutation_erased]
  rw [hsteps, hsteps, h]

/-! ## Planning side by side -/

section Planning

variable {RootIdentity : Type} {provider : SelectedRootProvider RootIdentity}
  {fuel : RootCatalogProjection → ℕ} {configured canonicalRootId : Text} {root : RootIdentity}

theorem resolveChangeMembership_erased (hignores : provider.IgnoresModified) (change : RemoteChange) :
    resolveChangeMembership provider root canonicalRootId change.erased
      = resolveChangeMembership provider root canonicalRootId change := by
  cases change with
  | delete remoteId => rfl
  | upsert item => exact hignores.membership item root

theorem hydrateChange_erased (hignores : provider.IgnoresModified) (projection : RootCatalogProjection)
    (membership : RootChangeMembership) (change : RemoteChange) :
    hydrateChange provider projection membership change.erased
      = (hydrateChange provider projection membership change).map (Option.map eraseFolder) := by
  obtain ⟨below, hbelow⟩ := hignores.hydration
  cases change with
  | delete remoteId => rfl
  | upsert item =>
      have hfolder : provider.hydrateFolder item.erased
          = (provider.hydrateFolder item).map eraseFolder := by
        rw [hbelow, hbelow]
        change (below item.erased).map _ = _
        cases below item.erased <;> rfl
      rw [hydrateChange, show (RemoteChange.upsert item).erased = .upsert item.erased from rfl,
        hydrateChange]
      by_cases hneeded : membership = .descendant ∧ item.kind = .folder ∧ item.trashed = false
          ∧ projection.contains item.remoteId = false
      · rw [if_pos hneeded, if_pos (by exact hneeded), hfolder]
        cases provider.hydrateFolder item <;> rfl
      · rw [if_neg hneeded, if_neg (by exact hneeded)]
        rfl

/-- A hydration starts with the folder it was asked for. -/
theorem head_of_hydrateChange (hignores : provider.IgnoresModified)
    {projection : RootCatalogProjection} {membership : RootChangeMembership} {change : RemoteChange}
    {items : List RemoteItem}
    (h : hydrateChange provider projection membership change = .ok (some items)) :
    ∃ item others, change = .upsert item ∧ items = item :: others := by
  obtain ⟨below, hbelow⟩ := hignores.hydration
  cases change with
  | delete remoteId => cases h
  | upsert item =>
      rw [hydrateChange, hbelow] at h
      split at h
      · cases hothers : below item.erased with
        | error error =>
            rw [hothers] at h
            cases h
        | ok others =>
            rw [hothers] at h
            exact ⟨item, others, rfl, (Option.some.inj (Except.ok.inj h)).symm⟩
      · cases h

theorem validateHydration_erased (item : RemoteItem) (others : List RemoteItem) :
    validateHydration item.erased (item.erased :: others)
      = validateHydration item (item :: others) := by
  unfold validateHydration
  simp only [ne_eq, not_true_eq_false, false_or]
  rfl

theorem plannedAction_erased (p : RootCatalogProjection) (change : RemoteChange)
    (membership : RootChangeMembership) (hydration hydration' : Option (List RemoteItem)) :
    p.plannedAction ⟨change.erased, membership, hydration⟩
      = p.plannedAction ⟨change, membership, hydration'⟩ := by
  cases change with
  | delete remoteId => rfl
  | upsert item => cases membership <;> rfl

theorem applyHydration_erased (p : RootCatalogProjection) (membership : RootChangeMembership)
    (item : RemoteItem) (others : List RemoteItem) :
    (p.applyHydration ⟨.upsert item.erased, membership, some (item.erased :: others)⟩).map
        (Prod.map RootCatalogResolution.erased id)
      = (p.applyHydration ⟨.upsert item, membership, some (item :: others)⟩).map
        (Prod.map RootCatalogResolution.erased id) := by
  unfold RootCatalogProjection.applyHydration
  dsimp only
  rw [validateHydration_erased]
  cases validateHydration item (item :: others) <;> rfl

/-- A call on the erased change does what the call on the change does. -/
theorem applyChange_erased (p : RootCatalogProjection) (fuel : ℕ) (membership : RootChangeMembership)
    {change : RemoteChange} {hydration : Option (List RemoteItem)}
    (hhead : ∀ items, hydration = some items →
      ∃ item others, change = .upsert item ∧ items = item :: others) :
    (p.applyChange fuel ⟨change.erased, membership, hydration.map eraseFolder⟩).map
        (Except.map (Prod.map RootCatalogResolution.erased id))
      = (p.applyChange fuel ⟨change, membership, hydration⟩).map
        (Except.map (Prod.map RootCatalogResolution.erased id)) := by
  unfold RootCatalogProjection.applyChange
  rw [plannedAction_erased p change membership (hydration.map eraseFolder) hydration]
  cases hydration with
  | some items =>
      obtain ⟨item, others, rfl, rfl⟩ := hhead items rfl
      cases p.plannedAction ⟨.upsert item, membership, some (item :: others)⟩ with
      | error error => rfl
      | ok action =>
          cases action with
          | hydrateSubtree => exact congrArg some (applyHydration_erased p membership item others)
          | _ => rfl
  | none =>
      cases p.plannedAction ⟨change, membership, none⟩ with
      | error error => rfl
      | ok action =>
          cases change with
          | upsert item => cases action <;> rfl
          | delete remoteId => cases action <;> rfl

theorem applyWindowChange_erased (projection : RootCatalogProjection)
    (membership : RootChangeMembership) {change : RemoteChange} {hydration : Option (List RemoteItem)}
    (hhead : ∀ items, hydration = some items →
      ∃ item others, change = .upsert item ∧ items = item :: others) :
    (applyWindowChange fuel projection ⟨change, membership, hydration⟩).map
        (Prod.map RootCatalogResolution.erased id)
      = (applyWindowChange fuel projection
          ⟨change.erased, membership, hydration.map eraseFolder⟩).map
        (Prod.map RootCatalogResolution.erased id) := by
  have hcall := applyChange_erased projection (fuel projection) membership hhead
  unfold applyWindowChange
  cases hleft : projection.applyChange (fuel projection) ⟨change, membership, hydration⟩ with
  | none =>
      rw [hleft] at hcall
      rw [Option.map_eq_none_iff.mp hcall]
  | some outcome =>
      rw [hleft] at hcall
      obtain ⟨outcome', hright, halike⟩ := Option.map_eq_some_iff.mp hcall
      rw [hright]
      cases outcome with
      | error error =>
          cases outcome' with
          | error error' =>
              obtain rfl := Except.error.inj halike
              rfl
          | ok result' => cases halike
      | ok result =>
          cases outcome' with
          | error error' => cases halike
          | ok result' => exact congrArg Except.ok (Except.ok.inj halike).symm

/-- The step lemma: a change and the erased change plan the same on plans that look alike. -/
theorem planWindowChange_erased (hignores : provider.IgnoresModified) {plan plan' : WindowPlan}
    (change : RemoteChange) (halike : plan.erased = plan'.erased) :
    (planWindowChange provider fuel configured canonicalRootId root plan change).map WindowPlan.erased
      = (planWindowChange provider fuel configured canonicalRootId root plan' change.erased).map
          WindowPlan.erased := by
  obtain ⟨projection, mutations, hydratedItems, rootRevalidations⟩ := plan
  obtain ⟨projection', mutations', hydratedItems', rootRevalidations'⟩ := plan'
  obtain ⟨rfl, hmutations, rfl, rfl⟩ := WindowPlan.mk.inj halike
  unfold planWindowChange
  rw [resolveChangeMembership_erased hignores]
  cases resolveChangeMembership provider root canonicalRootId change with
  | error error => rfl
  | ok membership =>
      dsimp only [mapError_ok, mapError_error]
      rw [ok_bind, ok_bind, hydrateChange_erased hignores]
      cases hhydration : hydrateChange provider projection membership change with
      | error error => rfl
      | ok hydration =>
          have hlength : (hydration.map eraseFolder).elim 0 List.length
              = hydration.elim 0 List.length := by
            cases hydration with
            | none => rfl
            | some items => cases items <;> rfl
          dsimp only [Except.map, mapError_ok, mapError_error]
          rw [ok_bind, ok_bind, hlength]
          cases checkedCount hydratedItems (hydration.elim 0 List.length) with
          | error error => rfl
          | ok hydrated =>
              dsimp only [mapError_ok, mapError_error]
              rw [ok_bind, ok_bind]
              refine map_bind_congr (applyWindowChange_erased projection membership fun items hitems =>
                head_of_hydrateChange hignores (hitems ▸ hhydration)) ?_
              intro ⟨resolution, next⟩ ⟨resolution', next'⟩ _ _ hresult
              obtain ⟨hresolution, rfl⟩ := Prod.mk.inj hresult
              have hplanned : (mutations ++ resolution.planned).map RootCatalogMutationPlan.erased
                  = (mutations' ++ resolution'.planned).map RootCatalogMutationPlan.erased := by
                rw [List.map_append, List.map_append, hmutations, planned_erased, planned_erased,
                  hresolution]
              cases resolution with
              | noop =>
                  cases resolution' with
                  | noop => exact congrArg (fun m => Except.ok (WindowPlan.mk next m _ _)) hplanned
                  | revalidateRoot => cases hresolution
                  | mutations all' => cases hresolution
              | mutations all =>
                  cases resolution' with
                  | noop => cases hresolution
                  | revalidateRoot => cases hresolution
                  | mutations all' =>
                      exact congrArg (fun m => Except.ok (WindowPlan.mk next m _ _)) hplanned
              | revalidateRoot =>
                  cases resolution' with
                  | noop => cases hresolution
                  | mutations all' => cases hresolution
                  | revalidateRoot =>
                      refine map_bind_congr_right fun counted _ => ?_
                      refine map_bind_congr_right fun revalidated _ => ?_
                      refine map_bind_congr_right fun _ _ => ?_
                      exact congrArg (fun m => Except.ok (WindowPlan.mk next m _ _)) hmutations

/-- The run lemma: the changes and the erased changes plan the same on stores with one catalog. -/
theorem planChanges_erased (hignores : provider.IgnoresModified) {store staged : RootStore}
    (hcatalog : staged.catalog = store.catalog) (remoteRootId : Option Text)
    (changes : List RemoteChange) :
    (store.planChanges provider fuel remoteRootId changes).map WindowPlan.erased
      = (staged.planChanges provider fuel remoteRootId (changes.map RemoteChange.erased)).map
          WindowPlan.erased := by
  have hitems : staged.listRemoteItems = store.listRemoteItems := by
    rw [RootStore.listRemoteItems, RootStore.listRemoteItems, hcatalog]
  unfold RootStore.planChanges
  rw [hitems]
  refine map_bind_congr_right fun configured _ => map_bind_congr_right fun root _ => ?_
  refine map_bind_congr_right fun _ _ => map_bind_congr_right fun projection _ => ?_
  refine map_bind_congr (map_foldlM_congr rfl fun _ _ change halike =>
    planWindowChange_erased hignores change halike) ?_
  intro plan plan' _ _ halike
  have hprojection : plan.projection = plan'.projection := (WindowPlan.mk.inj halike).1
  rw [hprojection]
  exact map_bind_congr_right fun _ _ => congrArg Except.ok halike

end Planning

/-! ## Executing side by side -/

/-- What both paths write: the catalog with its receipts and its count, the cursor and the catch-up
    flag. -/
def RootStore.catalogSide (store : RootStore) : CatalogStore × Option RemoteInventoryStateRow :=
  (store.catalog, store.remoteState)

theorem commitMutations_congr {store staged : RootStore}
    (hsame : staged.catalogSide = store.catalogSide) {plan plan' : List RootCatalogMutationPlan}
    (hplan : plan.map RootCatalogMutationPlan.erased = plan'.map RootCatalogMutationPlan.erased)
    (expected next : ChangeCursor) :
    (store.commitMutations expected (plan.map intoStorageMutation) next).map
        (Prod.map RootStore.catalogSide id)
      = (staged.commitMutations expected (plan'.map intoStorageMutation) next).map
        (Prod.map RootStore.catalogSide id) := by
  obtain ⟨hcatalog, hremote⟩ := Prod.mk.inj hsame
  have hstate : staged.snapshotState = store.snapshotState := by
    rw [RootStore.snapshotState, RootStore.snapshotState, hremote]
  have hlength : plan'.length = plan.length := by
    rw [← List.length_map RootCatalogMutationPlan.erased, ← hplan, List.length_map]
  unfold RootStore.commitMutations
  rw [hstate, hcatalog, foldlM_applyCheckedMutation_congr hplan, List.length_map, List.length_map,
    hlength]
  refine map_bind_congr_right fun state _ => map_bind_congr_right fun current _ => ?_
  exact map_bind_congr_right fun _ _ => map_bind_congr_right fun applied _ => rfl

section Staged

variable {store staged : RootStore} {baseCursor checkpoint : ChangeCursor}
  {changes : List RemoteChange} {last : ChangePage}

theorem HoldsStaged.exists_window (h : HoldsStaged store staged baseCursor changes last)
    (hcheckpoint : last.checkpoint = some checkpoint) :
    ∃ pages, staged.windowState
      = some ⟨baseCursor, none, some checkpoint, pages, changes.length⟩ := by
  obtain ⟨pages, hwindow⟩ := h.window
  have hboundary := h.boundary
  rw [hcheckpoint] at hwindow hboundary
  cases hcontinuation : last.continuation with
  | none => exact ⟨pages, hcontinuation ▸ hwindow⟩
  | some token =>
      rw [hcontinuation] at hboundary
      exact absurd rfl hboundary

theorem HoldsStaged.length_events (h : HoldsStaged store staged baseCursor changes last) :
    staged.windowEvents.length = changes.length := by
  rw [h.events, List.length_map]

theorem HoldsStaged.completedWindow (h : HoldsStaged store staged baseCursor changes last)
    (hcheckpoint : last.checkpoint = some checkpoint) :
    ∃ pages, staged.completedWindow
      = .ok (⟨baseCursor, none, some checkpoint, pages, changes.length⟩, checkpoint) := by
  obtain ⟨pages, hwindow⟩ := h.exists_window hcheckpoint
  refine ⟨pages, ?_⟩
  rw [RootStore.completedWindow, hwindow, h.length_events]
  simp [orRefuse, refuseIf, SyncRootChangeWindowState.isComplete, bind, Except.bind]

/-- The commit of the window commits as the direct one does, from the cursor on. -/
theorem HoldsStaged.commitCatalogChangeWindow (h : HoldsStaged store staged baseCursor changes last)
    (hcheckpoint : last.checkpoint = some checkpoint) (mutations : List SyncRootCatalogMutation) :
    (staged.commitCatalogChangeWindow baseCursor checkpoint changes.length mutations).map
        (Prod.map RootStore.catalogSide id)
      = (staged.commitMutations baseCursor mutations checkpoint).map
        (Prod.map RootStore.catalogSide id) := by
  obtain ⟨pages, hwindow⟩ := h.exists_window hcheckpoint
  have hlimit := h.limit
  have hcheck : staged.checkCompleteWindow baseCursor checkpoint changes.length = .ok () := by
    rw [RootStore.checkCompleteWindow, hwindow, h.length_events]
    simp [orRefuse, refuseIf, SyncRootChangeWindowState.isComplete, bind, Except.bind]
  rw [RootStore.commitCatalogChangeWindow, toI64_of_lt (by omega), ok_bind, hcheck, ok_bind]
  cases staged.commitMutations baseCursor mutations checkpoint <;> rfl

theorem result_executorCommit_congr {α β : Type} {look : RootStore × α → β}
    {x y : Except StorageError (RootStore × α)} (h : x.map look = y.map look) :
    (executorCommit x).result.map look = (executorCommit y).result.map look := by
  cases x with
  | error error =>
      cases y with
      | error error' =>
          obtain rfl := Except.error.inj h
          rfl
      | ok written' => cases h
  | ok written =>
      cases y with
      | error error' => cases h
      | ok written' => exact congrArg Except.ok (Except.ok.inj h)

variable {RootIdentity : Type} {provider : SelectedRootProvider RootIdentity}
  {fuel : RootCatalogProjection → ℕ} {remoteRootId : Option Text}

/-- **The two executions return alike**: the same report with the same catalog and cursor, or the same
    error, or nothing. -/
theorem HoldsStaged.executions_alike (h : HoldsStaged store staged baseCursor changes last)
    (hcheckpoint : last.checkpoint = some checkpoint) (hignores : provider.IgnoresModified) :
    (executeSelectedRootChangeBatch provider fuel remoteRootId store baseCursor changes
        checkpoint).result.map (Prod.map RootStore.catalogSide id)
      = (executeCompletedSelectedRootChangeWindow provider fuel remoteRootId staged).result.map
          (Prod.map RootStore.catalogSide id) := by
  obtain ⟨pages, hcompleted⟩ := h.completedWindow hcheckpoint
  have hsame : staged.catalogSide = store.catalogSide := Prod.ext h.catalog h.remoteState
  unfold executeSelectedRootChangeBatch executeCompletedSelectedRootChangeWindow
  rw [hcompleted, show executorRead (.ok _) = Trace.read (.ok _) from rfl, Trace.read_ok_bind,
    Trace.result_bind, Trace.result_bind, Trace.result_read, Trace.result_read, planWindow_eq, h.events]
  refine map_bind_congr (planChanges_erased hignores h.catalog remoteRootId changes) ?_
  intro plan plan' _ _ halike
  obtain ⟨-, hmutations, hhydrated, hrevalidations⟩ := WindowPlan.mk.inj halike
  have hlength : plan'.mutations.length = plan.mutations.length := by
    rw [← List.length_map RootCatalogMutationPlan.erased, ← hmutations, List.length_map]
  dsimp only
  rw [Trace.result_bind, Trace.result_bind]
  refine map_bind_congr (result_executorCommit_congr ((commitMutations_congr hsame hmutations baseCursor
    checkpoint).trans (h.commitCatalogChangeWindow hcheckpoint _).symm)) ?_
  intro ⟨committed, commit⟩ ⟨committed', commit'⟩ _ _ hcommitted
  obtain ⟨hside, rfl⟩ := Prod.mk.inj hcommitted
  refine congrArg Except.ok (Prod.ext hside ?_)
  simp [hlength, hhydrated, hrevalidations]

end Staged

/-! ## When planning ends -/

section Ends

variable {RootIdentity : Type} {provider : SelectedRootProvider RootIdentity}
  {fuel : RootCatalogProjection → ℕ} {configured canonicalRootId : Text} {root : RootIdentity}

/-- A change whose turn comes, and that deletes an item which is then its own ancestor by the parent
    links of the projection. -/
structure LoopingDeletion (provider : SelectedRootProvider RootIdentity)
    (fuel : RootCatalogProjection → ℕ) (configured : Text) (root : RootIdentity)
    (projection : RootCatalogProjection) (changes : List RemoteChange) (plan : WindowPlan)
    (change : RemoteChange) (membership : RootChangeMembership) : Prop where
  turn : Visits (planWindowChange provider fuel configured (provider.canonicalRootId root) root)
    ⟨projection, [], 0, 0⟩ changes plan change
  resolved : resolveChangeMembership provider root (provider.canonicalRootId root) change
    = .ok membership
  deletes : plan.projection.Deletes ⟨change, membership, none⟩
  loops : plan.projection.IsOwnAncestor change.remoteId

/-- Changes that come to such a deletion on the catalog of a store. -/
def RootStore.DeletionLoops (store : RootStore) (provider : SelectedRootProvider RootIdentity)
    (fuel : RootCatalogProjection → ℕ) (remoteRootId : Option Text) (changes : List RemoteChange) :
    Prop :=
  ∃ configured root projection plan change membership, remoteRootId = some configured ∧
    provider.resolveRoot configured = .ok root ∧
    RootCatalogProjection.new (provider.canonicalRootId root) store.listRemoteItems = .ok projection ∧
    LoopingDeletion provider fuel configured root projection changes plan change membership

/-- A call whose errors are returned is never the reason that nothing is. -/
theorem refuses_failed {ε α : Type} {P : Prop} {f : ε → SelectedRootExecutorError}
    (result : Except ε α) :
    Refuses (result.mapError fun error => Halt.failed (f error)) fun halt => halt = .unending → P := by
  cases result with
  | error error => exact .error nofun
  | ok a => exact .ok

/-- What is deleted is catalogued, so nothing is listed for it. -/
theorem hydrateChange_of_deletes {projection : RootCatalogProjection}
    {membership : RootChangeMembership} {change : RemoteChange}
    (h : projection.Deletes ⟨change, membership, none⟩) :
    hydrateChange provider projection membership change = .ok none := by
  cases change with
  | delete remoteId => rfl
  | upsert item =>
      have hcontains : projection.contains item.remoteId = true := by
        rw [RootCatalogProjection.contains, AList.lookup_isSome, AList.mem_keys]
        exact contains_of_deletes h
      rw [hydrateChange, if_neg]
      exact fun hneeded => absurd (hcontains.symm.trans hneeded.2.2.2) (by simp)

theorem applyWindowChange_eq_unending_iff {projection : RootCatalogProjection}
    (hp : projection.Indexed) (hfuel : projection.itemCount ≤ fuel projection) {call : ChangeCall} :
    applyWindowChange fuel projection call = .error .unending ↔
      projection.Deletes call ∧ projection.IsOwnAncestor call.change.remoteId := by
  have hnone : applyWindowChange fuel projection call = .error .unending ↔
      projection.applyChange (fuel projection) call = none := by
    unfold applyWindowChange
    cases projection.applyChange (fuel projection) call with
    | none => simp
    | some outcome => cases outcome <;> simp
  rw [hnone, applyChange_eq_none_iff]
  exact and_congr_right fun hdeletes =>
    hp.deleteOrder_eq_none_iff (contains_of_deletes hdeletes) hfuel

/-- What the plans of a run have in common. -/
structure WindowPlan.Sound (plan : WindowPlan) : Prop where
  indexed : plan.projection.Indexed
  counted : plan.hydratedItems < 2 ^ 64

theorem ensures_planWindowChange {plan : WindowPlan} (hplan : plan.Sound) (change : RemoteChange) :
    Ensures (planWindowChange provider fuel configured canonicalRootId root plan change)
      WindowPlan.Sound := by
  intro plan' h
  obtain ⟨membership, -, h⟩ := bind_eq_ok.mp h
  obtain ⟨hydration, -, h⟩ := bind_eq_ok.mp h
  obtain ⟨hydratedItems, hcount, h⟩ := bind_eq_ok.mp h
  obtain ⟨⟨resolution, projection⟩, happly, h⟩ := bind_eq_ok.mp h
  obtain ⟨hlimit, rfl⟩ := checkedCount_eq_ok_iff.mp (mapError_eq_ok.mp hcount)
  have hindexed : projection.Indexed := by
    rw [applyWindowChange] at happly
    split at happly
    · cases happly
    · next outcome houtcome =>
        rw [mapError_eq_ok.mp happly] at houtcome
        exact hplan.indexed.applyChange houtcome
  cases resolution with
  | noop | mutations all =>
      obtain rfl := Except.ok.inj h
      exact ⟨hindexed, hlimit⟩
  | revalidateRoot =>
      obtain ⟨rootRevalidations, -, h⟩ := bind_eq_ok.mp h
      obtain ⟨revalidated, -, h⟩ := bind_eq_ok.mp h
      obtain ⟨-, -, h⟩ := bind_eq_ok.mp h
      obtain rfl := Except.ok.inj h
      exact ⟨hindexed, hlimit⟩

/-- **A change whose planning does not end** deletes an item that is its own ancestor. -/
theorem planWindowChange_eq_unending_iff (hfuel : ∀ p, p.itemCount ≤ fuel p) {plan : WindowPlan}
    (hplan : plan.Sound) (change : RemoteChange) :
    planWindowChange provider fuel configured canonicalRootId root plan change = .error .unending ↔
      ∃ membership, resolveChangeMembership provider root canonicalRootId change = .ok membership ∧
        plan.projection.Deletes ⟨change, membership, none⟩ ∧
        plan.projection.IsOwnAncestor change.remoteId := by
  constructor
  · intro h
    suffices hrefuses : Refuses
        (planWindowChange provider fuel configured canonicalRootId root plan change)
        fun halt => halt = .unending → ∃ membership,
          resolveChangeMembership provider root canonicalRootId change = .ok membership ∧
          plan.projection.Deletes ⟨change, membership, none⟩ ∧
          plan.projection.IsOwnAncestor change.remoteId from hrefuses _ h rfl
    refine (refuses_failed _).bind fun membership hmembership => ?_
    refine (refuses_failed _).bind fun hydration _ => (refuses_failed _).bind fun hydratedItems _ => ?_
    refine Refuses.bind (fun halt happly hunending => ?_) fun ⟨resolution, projection⟩ _ => ?_
    · rw [hunending] at happly
      obtain ⟨hdeletes, hloops⟩ :=
        (applyWindowChange_eq_unending_iff hplan.indexed (hfuel _)).mp happly
      obtain rfl : hydration = none := hdeletes.2
      exact ⟨membership, mapError_eq_ok.mp hmembership, hdeletes, hloops⟩
    · cases resolution with
      | noop | mutations all => exact .ok
      | revalidateRoot =>
          exact (refuses_failed _).bind fun _ _ => (refuses_failed _).bind fun _ _ =>
            (refuses_failed _).bind fun _ _ => .ok
  · rintro ⟨membership, hmembership, hdeletes, hloops⟩
    have hcount : checkedCount plan.hydratedItems ((none : Option (List RemoteItem)).elim 0 List.length)
        = .ok plan.hydratedItems := checkedCount_eq_ok_iff.mpr ⟨hplan.counted, rfl⟩
    have happly := (applyWindowChange_eq_unending_iff hplan.indexed (hfuel _)).mpr ⟨hdeletes, hloops⟩
    unfold planWindowChange
    rw [hmembership]
    dsimp only [mapError_ok, mapError_error]
    rw [ok_bind, hydrateChange_of_deletes hdeletes]
    dsimp only [mapError_ok, mapError_error]
    rw [ok_bind, hcount]
    dsimp only [mapError_ok, mapError_error]
    rw [ok_bind, happly]
    rfl

/-- **Planning ends** unless a deletion loops. -/
theorem planChanges_eq_unending_iff (hfuel : ∀ p, p.itemCount ≤ fuel p) (store : RootStore)
    (remoteRootId : Option Text) (changes : List RemoteChange) :
    store.planChanges provider fuel remoteRootId changes = .error .unending ↔
      store.DeletionLoops provider fuel remoteRootId changes := by
  have hvisited : ∀ {configured : Text} {root : RootIdentity} {projection : RootCatalogProjection},
      RootCatalogProjection.new (provider.canonicalRootId root) store.listRemoteItems
        = .ok projection → ∀ {plan : WindowPlan} {change : RemoteChange},
      Visits (planWindowChange provider fuel configured (provider.canonicalRootId root) root)
        ⟨projection, [], 0, 0⟩ changes plan change → plan.Sound := by
    intro configured root projection hnew plan change hvisit
    exact hvisit.invariant ⟨Indexed.new hnew, Nat.two_pow_pos 64⟩ fun _ change hplan =>
      ensures_planWindowChange hplan change
  constructor
  · intro h
    suffices hrefuses : Refuses (store.planChanges provider fuel remoteRootId changes)
        fun halt => halt = .unending → store.DeletionLoops provider fuel remoteRootId changes from
      hrefuses _ h rfl
    refine (refuses_failed _).bind fun configured hconfigured => ?_
    refine (refuses_failed _).bind fun root hroot => (refuses_failed _).bind fun _ _ => ?_
    refine (refuses_failed _).bind fun projection hnew => ?_
    rw [mapError_eq_ok] at hconfigured hroot hnew
    refine Refuses.bind (fun halt hfold hunending => ?_) fun plan _ =>
      (refuses_failed _).bind fun _ _ => .ok
    rw [hunending] at hfold
    obtain ⟨plan, change, hvisit, hchange⟩ := foldlM_eq_error_iff.mp hfold
    obtain ⟨membership, hmembership, hdeletes, hloops⟩ :=
      (planWindowChange_eq_unending_iff hfuel (hvisited hnew hvisit) change).mp hchange
    exact ⟨configured, root, projection, plan, change, membership, (orRefuse_eq_ok _ _ _).mp hconfigured,
      hroot, hnew, hvisit, hmembership, hdeletes, hloops⟩
  · rintro ⟨configured, root, projection, plan, change, membership, rfl, hroot, hnew, hloop⟩
    have hchange : planWindowChange provider fuel configured (provider.canonicalRootId root) root plan
        change = .error .unending :=
      (planWindowChange_eq_unending_iff hfuel (hvisited hnew hloop.turn) change).mpr ⟨membership,
        hloop.resolved, hloop.deletes, hloop.loops⟩
    have hfold := foldlM_eq_error_iff.mpr ⟨plan, change, hloop.turn, hchange⟩
    have hblank : (provider.canonicalRootId root).isBlank = false := root_not_blank hnew
    unfold RootStore.planChanges
    simp [orRefuse, refuseIf, hroot, hnew, hblank, hfold, bind, Except.bind]

end Ends

/-! ## The two paths -/

/-- Two executions agree: both return the same report and leave the same catalog, receipts, count, cursor
    and catch-up flag, or both fail with the same error and leave them as they were. -/
def PathsAgree (store staged : RootStore)
    (direct durable : ExecutorTrace (RootStore × SelectedRootBatchExecution)) : Prop :=
  (∃ execution, (∃ committed, direct.result = .ok (committed, execution)) ∧
    (∃ committed, durable.result = .ok (committed, execution)) ∧
    (direct.last store).catalogSide = (durable.last staged).catalogSide) ∨
  ∃ error, direct.result = .error (.failed error) ∧ durable.result = .error (.failed error) ∧
    (direct.last store).catalogSide = store.catalogSide ∧
    (durable.last staged).catalogSide = store.catalogSide

section Paths

variable {RootIdentity : Type} {provider : SelectedRootProvider RootIdentity}
  {fuel : RootCatalogProjection → ℕ} {remoteRootId : Option Text} {store staged : RootStore}
  {baseCursor checkpoint : ChangeCursor} {changes : List RemoteChange} {last : ChangePage}

theorem leavesReturned_executeBatch :
    (executeSelectedRootChangeBatch provider fuel remoteRootId store baseCursor changes
      checkpoint).LeavesReturned store :=
  .read_bind fun _ => .commit_bind fun _ _ => ⟨_, rfl⟩

theorem leavesReturned_executeWindow :
    (executeCompletedSelectedRootChangeWindow provider fuel remoteRootId store).LeavesReturned store :=
  .read_bind fun _ => .read_bind fun _ => .commit_bind fun _ _ => ⟨_, rfl⟩

/-- Only planning may not end: a transaction does. -/
theorem executeBatch_eq_unending_iff :
    (executeSelectedRootChangeBatch provider fuel remoteRootId store baseCursor changes
        checkpoint).result = .error .unending ↔
      store.planChanges provider fuel remoteRootId changes = .error .unending := by
  unfold executeSelectedRootChangeBatch
  cases store.planChanges provider fuel remoteRootId changes with
  | error halt =>
      rw [Trace.read_error_bind]
      simp
  | ok plan =>
      rw [Trace.read_ok_bind]
      dsimp only
      cases store.commitCatalogBatchAndCursor baseCursor (plan.mutations.map intoStorageMutation)
        checkpoint with
      | error error => exact iff_of_false nofun nofun
      | ok written => exact iff_of_false nofun nofun

/-- What the same results make of the stores. -/
theorem HoldsStaged.pathsAgree_iff (h : HoldsStaged store staged baseCursor changes last)
    {direct durable : ExecutorTrace (RootStore × SelectedRootBatchExecution)}
    (hdirect : direct.LeavesReturned store) (hdurable : durable.LeavesReturned staged)
    (halike : direct.result.map (Prod.map RootStore.catalogSide id)
      = durable.result.map (Prod.map RootStore.catalogSide id)) :
    PathsAgree store staged direct durable ↔ direct.result ≠ .error .unending := by
  have hsame : staged.catalogSide = store.catalogSide := Prod.ext h.catalog h.remoteState
  constructor
  · rintro (⟨execution, ⟨committed, hok⟩, -⟩ | ⟨error, hfailed, -⟩) hunending
    · cases hunending.symm.trans hok
    · cases hunending.symm.trans hfailed
  · intro hends
    cases hleft : direct.result with
    | error halt =>
        cases hright : durable.result with
        | ok returned' =>
            rw [hleft, hright] at halike
            cases halike
        | error halt' =>
            rw [hleft, hright] at halike
            obtain rfl := Except.error.inj halike
            cases halt with
            | unending => exact absurd hleft hends
            | failed error =>
                refine Or.inr ⟨error, hleft, hright, ?_, ?_⟩
                · rw [hdirect.failed _ hleft]
                · rw [hdurable.failed _ hright, hsame]
    | ok returned =>
        cases hright : durable.result with
        | error halt' =>
            rw [hleft, hright] at halike
            cases halike
        | ok returned' =>
            rw [hleft, hright] at halike
            obtain ⟨hside, hexecution⟩ := Prod.mk.inj (Except.ok.inj halike)
            obtain ⟨committed, execution⟩ := returned
            obtain ⟨committed', execution'⟩ := returned'
            obtain rfl : execution = execution' := hexecution
            refine Or.inl ⟨execution, ⟨committed, hleft⟩, ⟨committed', hright⟩, ?_⟩
            rw [hdirect.returned _ _ hleft, hdurable.returned _ _ hright]
            exact hside

end Paths

/-- **The direct and the durable path agree** on every list of changes that staging accepts, however it is
    split into pages and whatever the provider answers, if and only if no deletion among the changes
    loops: when one does, neither path returns. -/
theorem change_paths_agree_iff {RootIdentity : Type} (mode : SyncMode) (store staged : RootStore)
    (hreaches : (RootStore.new mode).Reaches store) (provider : SelectedRootProvider RootIdentity)
    (hignores : provider.IgnoresModified) (fuel : RootCatalogProjection → ℕ)
    (hfuel : ∀ p, p.itemCount ≤ fuel p) (remoteRootId : Option Text)
    (baseCursor checkpoint : ChangeCursor) (pages : List ChangePage)
    (hstaged : RootStore.stagePages baseCursor store none pages = .ok staged)
    (hlast : pages.getLast?.bind ChangePage.checkpoint = some checkpoint) :
    PathsAgree store staged
      (executeSelectedRootChangeBatch provider fuel remoteRootId store baseCursor
        (pages.flatMap ChangePage.changes) checkpoint)
      (executeCompletedSelectedRootChangeWindow provider fuel remoteRootId staged) ↔
    ¬ store.DeletionLoops provider fuel remoteRootId (pages.flatMap ChangePage.changes) := by
  obtain ⟨last, hcheckpoint, hheld⟩ := holdsStaged_of_stagePages hreaches hstaged hlast
  rw [hheld.pathsAgree_iff leavesReturned_executeBatch leavesReturned_executeWindow
    (hheld.executions_alike hcheckpoint hignores), ne_eq, executeBatch_eq_unending_iff,
    planChanges_eq_unending_iff hfuel]

/-! A root with the folder `f` in the folder `g`. -/

/-- A provider whose changes all lie in the root, and whose new folders are empty. -/
def sampleProvider : SelectedRootProvider Unit where
  resolveRoot _ := .ok ()
  canonicalRootId _ := ['r']
  resolveMembership _ _ := .ok .descendant
  hydrateFolder item := .ok [item]

theorem sampleProvider_ignoresModified : sampleProvider.IgnoresModified where
  membership _ _ := rfl
  hydration := ⟨fun _ => .ok [], fun _ => rfl⟩

/-- The first page brings a new folder, the second deletes `f`. -/
def samplePages : List ChangePage :=
  [⟨[.upsert ⟨['h'], some ['f'], ['h'], .folder, none, some 7, false⟩], some (.ofChar 't'), none⟩,
    ⟨[.delete ['f']], none, some (.ofChar '1')⟩]

theorem change_paths_agree_two_pages :
    ∃ store staged : RootStore, staged.windowEvents.length = 2 ∧
      PathsAgree store staged
        (executeSelectedRootChangeBatch sampleProvider itemCount (some ['r']) store ⟨['0'], nofun⟩
          (samplePages.flatMap ChangePage.changes) ⟨['1'], nofun⟩)
        (executeCompletedSelectedRootChangeWindow sampleProvider itemCount (some ['r']) staged) := by
  have hruns : ∃ store ∈ ([.inventory (.stageItems nestedFolders),
        .inventory (.commitSnapshot ⟨['0'], nofun⟩)].foldlM RootStore.apply
        (RootStore.new .receiveOnly)).toOption,
      (store.planChanges sampleProvider itemCount (some ['r'])
        (samplePages.flatMap ChangePage.changes)).toOption.isSome = true ∧
      ∃ staged ∈ (RootStore.stagePages ⟨['0'], nofun⟩ store none samplePages).toOption,
        staged.windowEvents.length = 2 := by
    decide +kernel
  obtain ⟨store, hstore, hplanned, staged, hstaged, hlength⟩ := hruns
  have hreaches : (RootStore.new .receiveOnly).Reaches store :=
    Machine.Run.of_foldlM (fun _ _ _ => trivial) (toOption_eq_some_iff.mp hstore)
  refine ⟨store, staged, hlength, (change_paths_agree_iff .receiveOnly store staged hreaches
    sampleProvider sampleProvider_ignoresModified itemCount (fun _ => le_rfl) (some ['r']) ⟨['0'], nofun⟩
    ⟨['1'], nofun⟩ samplePages (toOption_eq_some_iff.mp hstaged) rfl).mpr fun hloops => ?_⟩
  rw [(planChanges_eq_unending_iff (fun _ => le_rfl) store _ _).mpr hloops] at hplanned
  cases hplanned

/-- One page: `g` has been moved into `f`, and `f` is deleted. -/
def swappedPages : List ChangePage :=
  [⟨[.upsert ⟨['g'], some ['f'], ['g'], .folder, none, none, false⟩, .delete ['f']], none,
    some (.ofChar '1')⟩]

/-- Neither path returns on the two folders that are each other's parents. -/
theorem change_paths_loop :
    ∃ store staged : RootStore, (RootStore.new .receiveOnly).Reaches store ∧
      sampleProvider.IgnoresModified ∧
      RootStore.stagePages ⟨['0'], nofun⟩ store none swappedPages = .ok staged ∧
      ∀ fuel : RootCatalogProjection → ℕ, (∀ p, p.itemCount ≤ fuel p) →
        ¬ PathsAgree store staged
          (executeSelectedRootChangeBatch sampleProvider fuel (some ['r']) store ⟨['0'], nofun⟩
            (swappedPages.flatMap ChangePage.changes) ⟨['1'], nofun⟩)
          (executeCompletedSelectedRootChangeWindow sampleProvider fuel (some ['r']) staged) := by
  have hruns : ∃ store ∈ ([.inventory (.stageItems nestedFolders),
        .inventory (.commitSnapshot ⟨['0'], nofun⟩)].foldlM RootStore.apply
        (RootStore.new .receiveOnly)).toOption,
      store.listRemoteItems = nestedFolders.reverse ∧
      ∃ staged ∈ (RootStore.stagePages ⟨['0'], nofun⟩ store none swappedPages).toOption,
        staged.windowEvents.length = 2 := by
    decide +kernel
  obtain ⟨store, hstore, hitems, staged, hstaged, -⟩ := hruns
  have hreaches : (RootStore.new .receiveOnly).Reaches store :=
    Machine.Run.of_foldlM (fun _ _ _ => trivial) (toOption_eq_some_iff.mp hstore)
  have hpages := toOption_eq_some_iff.mp hstaged
  refine ⟨store, staged, hreaches, sampleProvider_ignoresModified, hpages, fun fuel hfuel hagree => ?_⟩
  have hlast : swappedPages.getLast?.bind ChangePage.checkpoint = some ⟨['1'], nofun⟩ := rfl
  obtain ⟨last, hcheckpoint, hheld⟩ := holdsStaged_of_stagePages hreaches hpages hlast
  refine (hheld.pathsAgree_iff leavesReturned_executeBatch leavesReturned_executeWindow
    (hheld.executions_alike hcheckpoint sampleProvider_ignoresModified)).mp hagree ?_
  rw [executeBatch_eq_unending_iff, planChanges_eq_unending_iff hfuel]
  have hnew : RootCatalogProjection.new ['r'] store.listRemoteItems
      = .ok (nestedFolders.reverse.foldl RootCatalogProjection.applyUpsert ⟨['r'], ∅, ∅⟩) := by
    rw [hitems]
    rfl
  refine ⟨['r'], (), _, _, .delete ['f'], .unresolvedDelete, rfl, rfl, hnew, .tail rfl .head, rfl,
    ⟨rfl, rfl⟩, ?_⟩
  exact .tail (.single (b := ['g']) rfl) rfl

end NubiSync
