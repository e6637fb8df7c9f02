import NubiSync.Library.Checks
import NubiSync.Sync.ProjectionTables

set_option autoImplicit false

/-! # The catalog under its own constructor

`RootCatalogProjection::new` accepts an item list or refuses it, and every window starts with it. What
it asks is spread over the run of a window: of an item on its own (`FitsCatalog`) the change planner
and the hydration validator take care, the distinct ids are those of a keyed table, and that every item
is reached is the one thing `validate_complete` asks again. Halfway through a window none of the last
two need hold of the projection; the table of the items follows it all the same. -/

namespace NubiSync

open RootCatalogProjection Checks

/-! ## What the constructor accepts -/

/-- What the constructor asks of an item on its own. -/
structure RemoteItem.FitsCatalog (root : Text) (item : RemoteItem) : Prop where
  identified : item.remoteId.isBlank = false
  named : item.name ≠ []
  live : item.trashed = false
  below_root : item.remoteId ≠ root

namespace RootCatalogProjection

/-- The loop of `new` on items that fit, all of them new. -/
theorem addInitialItems_of_fits {items : List RemoteItem} {p : RootCatalogProjection}
    (hfits : ∀ item ∈ items, item.FitsCatalog p.rootRemoteId)
    (hnodup : (items.map RemoteItem.remoteId).Nodup)
    (hnew : ∀ item ∈ items, p.contains item.remoteId = false) :
    p.addInitialItems items = .ok (items.foldl applyUpsert p) := by
  induction items generalizing p with
  | nil => rfl
  | cons item rest ih =>
      obtain ⟨hfirst, hrest⟩ := List.forall_mem_cons.mp hfits
      obtain ⟨hfresh, hothers⟩ := List.forall_mem_cons.mp hnew
      obtain ⟨hitem, hnodup⟩ := List.nodup_cons.mp hnodup
      have hvalid : (item.remoteId.isBlank || item.name.isEmpty || item.trashed
          || item.remoteId == p.rootRemoteId) = false := by
        simp [hfirst.identified, hfirst.named, hfirst.live, hfirst.below_root]
      rw [addInitialItems, hvalid, hfresh]
      refine ih hrest hnodup fun other hother => ?_
      rw [contains, lookup_applyUpsert, if_neg]
      · exact hothers other hother
      · -- ids are distinct, so the item just added is none of the others
        intro hsame
        exact hitem (List.mem_map.mpr ⟨other, hother, hsame.symm⟩)

theorem root_not_blank {root : Text} {items : List RemoteItem} {p : RootCatalogProjection}
    (h : RootCatalogProjection.new root items = .ok p) : root.isBlank = false := by
  unfold RootCatalogProjection.new at h
  split at h
  · cases h
  · next hroot => simpa using hroot

/-- **Acceptance through a table.** Items that fit are accepted, in any order, when they have the links
    of a table that follows a complete projection. -/
theorem new_of_follows {ρ : Type} {key : ρ → Text} {parentOf : ρ → Option Text} {t : Table key}
    {p : RootCatalogProjection} (h : FollowsLinks parentOf t p) (hp : p.Indexed)
    (hroot : p.rootRemoteId.isBlank = false) (hcomplete : p.isComplete = true)
    {items : List RemoteItem} (hlinks : HasLinksOf parentOf t items)
    (hnodup : (items.map RemoteItem.remoteId).Nodup)
    (hfits : ∀ item ∈ items, item.FitsCatalog p.rootRemoteId) :
    ∃ q, RootCatalogProjection.new p.rootRemoteId items = .ok q := by
  let built := items.foldl applyUpsert ⟨p.rootRemoteId, ∅, ∅⟩
  have hadd : addInitialItems ⟨p.rootRemoteId, ∅, ∅⟩ items = .ok built :=
    addInitialItems_of_fits hfits hnodup fun item _ => rfl
  -- completeness is read off the links, and the two projections have the same
  have hsame : ∀ id, built.parents.lookup id = p.parents.lookup id := by
    intro id
    refine Option.ext fun parent => ?_
    rw [lookup_foldl_applyUpsert hnodup, ← hlinks.lookup_iff, ← h id]
    simp
  have hbuilt : built.isComplete = true :=
    hp.isComplete_congr ((Indexed.empty _).foldl_applyUpsert items)
      (rootRemoteId_foldl_applyUpsert items _) hsame hcomplete
  refine ⟨built, ?_⟩
  rw [RootCatalogProjection.new, hroot, hadd]
  simp [bind, Except.bind, hbuilt]

theorem isComplete_of_validateComplete {p : RootCatalogProjection}
    (h : p.validateComplete = .ok ()) : p.isComplete = true := by
  unfold validateComplete at h
  split at h
  · next hcomplete => exact hcomplete
  · cases h

end RootCatalogProjection

/-! ## What a window upserts -/

/-- What is promised of a call: by the checks of staging of its change, and by the provider of the
    membership and of the hydration. -/
structure ChangeCall.Promised (root : Text) (call : ChangeCall) : Prop where
  identified : call.change.remoteId.isBlank = false
  named : ∀ item, call.change = .upsert item → item.name ≠ []
  root_iff : call.membership = .root ↔ call.change.remoteId = root
  hydration_below : ∀ items, call.hydration = some items → ∀ item ∈ items, item.remoteId ≠ root

/-- The planner upserts live items of the root only. -/
theorem planRootCatalogChange_upsertItem {item : RemoteItem} {membership : RootChangeMembership}
    {previouslyCataloged : Bool}
    (h : planRootCatalogChange (.upsert item) membership previouslyCataloged = .ok .upsertItem) :
    membership = .descendant ∧ item.trashed = false := by
  cases membership with
  | root | unresolvedDelete => simp [planRootCatalogChange] at h
  | outside => cases previouslyCataloged <;> simp [planRootCatalogChange] at h
  | descendant =>
      cases hlive : item.trashed with
      | false => exact ⟨rfl, rfl⟩
      | true => cases previouslyCataloged <;> simp [planRootCatalogChange, hlive] at h

/-- The first loop of `validate_hydration` has looked at every item. -/
theorem collectHydrationIds_ok {items : List RemoteItem} {ids ids' : List Text}
    (h : collectHydrationIds ids items = .ok ids') :
    ∀ item ∈ items, item.remoteId.isBlank = false ∧ item.name ≠ [] ∧ item.trashed = false := by
  induction items generalizing ids with
  | nil => simp
  | cons item rest ih =>
      rw [collectHydrationIds] at h
      split at h
      · cases h
      next hvalid =>
      split at h
      · cases h
      refine List.forall_mem_cons.mpr ⟨?_, ih h⟩
      simp only [Bool.or_eq_true, List.isEmpty_iff, not_or, Bool.not_eq_true] at hvalid
      exact ⟨hvalid.1.1, hvalid.1.2, hvalid.2⟩

theorem validateHydration_ok {expectedRoot : RemoteItem} {items : List RemoteItem}
    (h : validateHydration expectedRoot items = .ok ()) :
    ∀ item ∈ items, item.remoteId.isBlank = false ∧ item.name ≠ [] ∧ item.trashed = false := by
  cases items with
  | nil => simp
  | cons actualRoot others =>
      simp only [validateHydration] at h
      split at h
      · cases h
      obtain ⟨ids, hids, -⟩ := bind_eq_ok.mp h
      exact collectHydrationIds_ok hids

/-- What a promised call upserts fits the catalog. -/
theorem RootCatalogProjection.Upserts.fits {p : RootCatalogProjection} {root : Text}
    {call : ChangeCall} {items : List RemoteItem} (h : p.Upserts call items)
    (hcall : call.Promised root) : ∀ item ∈ items, item.FitsCatalog root := by
  cases h with
  | @item item hplanned hchange =>
      obtain ⟨hmembership, hlive⟩ : call.membership = .descendant ∧ item.trashed = false := by
        rw [plannedAction, hchange] at hplanned
        exact planRootCatalogChange_upsertItem hplanned
      have hid : call.change.remoteId = item.remoteId := by rw [hchange]; rfl
      -- a change about the root is never planned as an upsert, so the item is below it
      have hbelow : item.remoteId ≠ root := by
        intro hroot
        have := hcall.root_iff.mpr (hid.trans hroot)
        rw [hmembership] at this
        cases this
      intro other hother
      obtain rfl := List.mem_singleton.mp hother
      exact ⟨hid ▸ hcall.identified, hcall.named other hchange, hlive, hbelow⟩
  | hydration _ _ hhydration hvalid =>
      intro item hitem
      obtain ⟨hid, hname, hlive⟩ := validateHydration_ok hvalid item hitem
      exact ⟨hid, hname, hlive, hcall.hydration_below _ hhydration item hitem⟩

/-- The run lemma, by induction on the calls. -/
theorem RootCatalogProjection.fits_of_applyChanges {fuel : RootCatalogProjection → ℕ}
    {calls : List ChangeCall} {root : Text} (hcalls : ∀ call ∈ calls, call.Promised root)
    {p p' : RootCatalogProjection} {mutations : List RootCatalogMutationPlan}
    (hrun : p.applyChanges fuel calls = some (.ok (mutations, p'))) :
    ∀ item, .upsert item ∈ mutations → item.FitsCatalog root := by
  induction calls generalizing p mutations with
  | nil =>
      obtain ⟨rfl, -⟩ : mutations = [] ∧ p = p' := by
        simpa [RootCatalogProjection.applyChanges, eq_comm] using hrun
      simp
  | cons call rest ih =>
      obtain ⟨hfirst, hothers⟩ := List.forall_mem_cons.mp hcalls
      obtain ⟨resolution, next, later, hcall, hrest, rfl⟩ := applyChanges_cons hrun
      intro item hitem
      rcases List.mem_append.mp hitem with hitem | hitem
      · rcases applyChange_cases hcall with ⟨hplanned, -⟩ | ⟨items, hupserts, hplanned, -⟩ |
          ⟨-, hplanned, -⟩
        · simp [hplanned] at hitem
        · rw [hplanned] at hitem
          obtain ⟨other, hother, hsame⟩ := List.mem_map.mp hitem
          cases hsame
          exact hupserts.fits hfirst item hother
        · simp [hplanned] at hitem
      · exact ih hothers hrest item hitem

/-! ## The items after a window -/

/-- What a mutation does to the items of the root. -/
def RootCatalogMutationPlan.applyTo (items : Table RemoteItem.remoteId) :
    RootCatalogMutationPlan → Table RemoteItem.remoteId
  | .upsert item => items.upsert item
  | .deleteSubtree remoteId => items.deleteSubtree RemoteItem.parentRemoteId remoteId

/-- The items after the mutations of a window, applied in order. -/
def applyPlans (items : List RemoteItem) (mutations : List RootCatalogMutationPlan) :
    List RemoteItem :=
  (mutations.foldl RootCatalogMutationPlan.applyTo (Table.ofRows items)).rows

/-- An item after the mutations was there before, or a mutation upserts it. -/
theorem mem_foldl_applyTo {mutations : List RootCatalogMutationPlan}
    {items : Table RemoteItem.remoteId} {item : RemoteItem}
    (h : item ∈ (mutations.foldl RootCatalogMutationPlan.applyTo items).rows) :
    item ∈ items.rows ∨ .upsert item ∈ mutations := by
  induction mutations generalizing items with
  | nil => exact Or.inl h
  | cons mutation rest ih =>
      rcases ih h with hmem | hrest
      · cases mutation with
        | upsert other =>
            rcases Table.mem_upsert.mp hmem with ⟨hold, -⟩ | rfl
            · exact Or.inl hold
            · exact Or.inr List.mem_cons_self
        | deleteSubtree remoteId => exact Or.inl (Table.mem_deleteWhere.mp hmem).1
      · exact Or.inr (List.mem_cons_of_mem _ hrest)

namespace FollowsLinks

variable {items : Table RemoteItem.remoteId} {p p' : RootCatalogProjection}

theorem applyUpserts (h : FollowsLinks RemoteItem.parentRemoteId items p) (upserts : List RemoteItem) :
    FollowsLinks RemoteItem.parentRemoteId
      ((upserts.map .upsert).foldl RootCatalogMutationPlan.applyTo items)
      (upserts.foldl RootCatalogProjection.applyUpsert p) := by
  induction upserts generalizing items p with
  | nil => exact h
  | cons item rest ih => exact ih (h.upsert rfl rfl)

/-- The step lemma: a call and its mutations keep the items in step with the projection. -/
theorem applyChange (h : FollowsLinks RemoteItem.parentRemoteId items p) (hp : p.Indexed) {fuel : ℕ}
    {call : ChangeCall} {resolution : RootCatalogResolution}
    (hcall : p.applyChange fuel call = some (.ok (resolution, p'))) :
    FollowsLinks RemoteItem.parentRemoteId
      (resolution.planned.foldl RootCatalogMutationPlan.applyTo items) p' := by
  rcases applyChange_cases hcall with ⟨hplanned, rfl⟩ | ⟨upserts, -, hplanned, rfl⟩ |
    ⟨-, hplanned, hdelete⟩
  · rw [hplanned]
    exact h
  · rw [hplanned]
    exact h.applyUpserts upserts
  · rw [hplanned]
    exact h.deleted hp hdelete fun id => items.find?_deleteSubtree _ _ id

theorem applyChanges {fuel : RootCatalogProjection → ℕ} {calls : List ChangeCall}
    (h : FollowsLinks RemoteItem.parentRemoteId items p) (hp : p.Indexed)
    {mutations : List RootCatalogMutationPlan}
    (hrun : p.applyChanges fuel calls = some (.ok (mutations, p'))) :
    FollowsLinks RemoteItem.parentRemoteId
      (mutations.foldl RootCatalogMutationPlan.applyTo items) p' := by
  induction calls generalizing items p mutations with
  | nil =>
      obtain ⟨rfl, rfl⟩ : mutations = [] ∧ p = p' := by
        simpa [RootCatalogProjection.applyChanges, eq_comm] using hrun
      exact h
  | cons call rest ih =>
      obtain ⟨resolution, next, later, hcall, hrest, rfl⟩ := applyChanges_cons hrun
      rw [List.foldl_append]
      exact ih (h.applyChange hp hcall) (hp.applyChange hcall) hrest

end FollowsLinks

/-- The rows of a table of items have the links of the items. -/
theorem hasLinksOf_rows (items : Table RemoteItem.remoteId) :
    HasLinksOf RemoteItem.parentRemoteId items items.rows := fun _ _ => Iff.rfl

/-- Accepted items are accepted again once the mutations of a window are applied to them. -/
theorem applyPlans_accepted {root : Text} {items : List RemoteItem} {p p' : RootCatalogProjection}
    (hnew : RootCatalogProjection.new root items = .ok p) {fuel : RootCatalogProjection → ℕ}
    {calls : List ChangeCall} (hcalls : ∀ call ∈ calls, call.Promised root)
    {mutations : List RootCatalogMutationPlan}
    (hrun : p.applyChanges fuel calls = some (.ok (mutations, p')))
    (hcomplete : p'.isComplete = true) :
    ∃ q, RootCatalogProjection.new root (applyPlans items mutations) = .ok q := by
  obtain ⟨hfold, hnodup, hvalid, -⟩ := new_ok hnew
  let start : Table RemoteItem.remoteId := Table.ofRows items
  have hmem : ∀ item, item ∈ start.rows ↔ item ∈ items := fun _ => Table.mem_ofRows hnodup
  have hstart : FollowsLinks RemoteItem.parentRemoteId start p := by
    refine HasLinksOf.follows (fun id parent => ?_) hnew
    simp only [hmem]
  obtain ⟨hindexed, hkept⟩ := (Indexed.new hnew).applyChanges hrun
  have hroot : p'.rootRemoteId = root := by
    rw [hkept, hfold, rootRemoteId_foldl_applyUpsert]
  have hfits : ∀ item ∈ applyPlans items mutations, item.FitsCatalog root := by
    intro item hitem
    rcases mem_foldl_applyTo hitem with hold | hupsert
    · obtain ⟨hid, hname, hlive, hbelow⟩ := hvalid item ((hmem item).mp hold)
      exact ⟨hid, hname, hlive, hbelow⟩
    · exact fits_of_applyChanges hcalls hrun item hupsert
  subst hroot
  exact new_of_follows (hstart.applyChanges (Indexed.new hnew) hrun) hindexed (root_not_blank hnew)
    hcomplete (hasLinksOf_rows _) (Table.nodup_keys _) hfits

end NubiSync
