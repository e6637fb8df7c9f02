import NubiSync.Sync.ProjectionIndex

set_option autoImplicit false

/-! # Runs of the projection

`applyChange_cases` says once what a call can do; every invariant of a run follows from it. The queue
of `delete_subtree` keeps no visited set, so a deletion ends exactly when its target is not among its
own ancestors (`deleteOrder_isSome_iff`). Between windows that cannot happen
(`not_isOwnAncestor_of_complete`), but in the middle of a window the parent links may hold a cycle,
and then the queue never empties. -/

namespace NubiSync

open Worklist

namespace RootCatalogProjection

/-! ## One call -/

/-- The call deletes a subtree. -/
def Deletes (p : RootCatalogProjection) (call : ChangeCall) : Prop :=
  p.plannedAction call = .ok .deleteSubtree ∧ call.hydration = none

theorem contains_of_deletes {p : RootCatalogProjection} {call : ChangeCall} (h : p.Deletes call) :
    call.change.remoteId ∈ p.parents.keys := by
  have hplanned := h.1
  rw [← AList.mem_keys, ← AList.lookup_isSome]
  change p.contains call.change.remoteId = true
  unfold plannedAction planRootCatalogChange at hplanned
  cases hin : p.contains call.change.remoteId with
  | true => rfl
  | false =>
      rw [hin] at hplanned
      split at hplanned <;> try simp at hplanned
      split at hplanned
      · simp at hplanned
      · split at hplanned <;> simp at hplanned

/-- The items a call upserts: the item of its change, or a hydration that has been validated. -/
inductive Upserts (p : RootCatalogProjection) (call : ChangeCall) : List RemoteItem → Prop
  | item {item : RemoteItem} (hplanned : p.plannedAction call = .ok .upsertItem)
      (hchange : call.change = .upsert item) : Upserts p call [item]
  | hydration {rootItem : RemoteItem} {items : List RemoteItem}
      (hplanned : p.plannedAction call = .ok .hydrateSubtree)
      (hchange : call.change = .upsert rootItem) (hhydration : call.hydration = some items)
      (hvalid : validateHydration rootItem items = .ok ()) : Upserts p call items

/-- **What a call does** when it returns: nothing, a run of upserts, or a subtree deletion. -/
theorem applyChange_cases {p p' : RootCatalogProjection} {fuel : ℕ} {call : ChangeCall}
    {resolution : RootCatalogResolution}
    (h : p.applyChange fuel call = some (.ok (resolution, p'))) :
    (resolution.planned = [] ∧ p' = p) ∨
    (∃ items : List RemoteItem, p.Upserts call items ∧ resolution.planned = items.map .upsert ∧
      p' = items.foldl RootCatalogProjection.applyUpsert p) ∨
    (p.Deletes call ∧ resolution.planned = [.deleteSubtree call.change.remoteId] ∧
      p.deleteSubtree fuel call.change.remoteId = some p') := by
  unfold applyChange at h
  split at h
  · simp at h
  · -- hydration
    next hplanned =>
    simp only [Option.some.injEq] at h
    unfold applyHydration at h
    split at h
    · simp at h
    next hydration hhydration =>
    split at h
    · simp at h
    next rootItem hchange =>
    split at h
    · simp at h
    next hvalid =>
    obtain ⟨rfl, rfl⟩ : resolution = _ ∧ p' = _ := by simpa [eq_comm] using h
    exact Or.inr (Or.inl ⟨hydration, .hydration hplanned hchange hhydration hvalid, rfl, rfl⟩)
  next action hnot hplanned =>
  have hhydration : call.hydration = none := by
    cases hcall : call.hydration with
    | none => rfl
    | some items => simp [hcall, rejectUnexpectedHydration] at h
  simp only [hhydration, rejectUnexpectedHydration, Option.isSome_none, Bool.false_eq_true,
    if_false] at h
  cases action with
  | ignore =>
      obtain ⟨rfl, rfl⟩ : RootCatalogResolution.noop = resolution ∧ p = p' := by simpa using h
      exact Or.inl ⟨rfl, rfl⟩
  | revalidateRoot =>
      obtain ⟨rfl, rfl⟩ : RootCatalogResolution.revalidateRoot = resolution ∧ p = p' := by
        simpa using h
      exact Or.inl ⟨rfl, rfl⟩
  | upsertItem =>
      cases hchange : call.change with
      | delete remoteId => simp [hchange] at h
      | upsert item =>
          simp only [hchange, Option.some.injEq, Except.ok.injEq, Prod.mk.injEq] at h
          obtain ⟨rfl, rfl⟩ := h
          exact Or.inr (Or.inl ⟨[item], .item hplanned hchange, rfl, rfl⟩)
  | deleteSubtree =>
      obtain ⟨p'', hdelete, hresult⟩ := Option.map_eq_some_iff.mp h
      obtain ⟨rfl, rfl⟩ : RootCatalogResolution.mutations
          [.deleteSubtree call.change.remoteId] = resolution ∧ p'' = p' := by simpa using hresult
      exact Or.inr (Or.inr ⟨⟨hplanned, hhydration⟩, rfl, hdelete⟩)
  | hydrateSubtree => exact absurd rfl hnot

/-- A call that does not return is a deletion whose queue the fuel does not empty. -/
theorem applyChange_eq_none_iff {p : RootCatalogProjection} {fuel : ℕ} {call : ChangeCall} :
    p.applyChange fuel call = none ↔
      p.Deletes call ∧ p.deleteOrder fuel call.change.remoteId = none := by
  constructor
  · intro h
    unfold applyChange at h
    split at h
    · cases h
    · cases h
    next action hnot hplanned =>
    have hhydration : call.hydration = none := by
      cases hcall : call.hydration with
      | none => rfl
      | some items => simp [hcall, rejectUnexpectedHydration] at h
    simp only [hhydration, rejectUnexpectedHydration, Option.isSome_none, Bool.false_eq_true,
      if_false] at h
    cases action with
    | ignore => cases h
    | revalidateRoot => cases h
    | upsertItem => cases hchange : call.change <;> simp [hchange] at h
    | deleteSubtree =>
        rw [Option.map_eq_none_iff, deleteSubtree, Option.map_eq_none_iff] at h
        exact ⟨⟨hplanned, hhydration⟩, h⟩
    | hydrateSubtree => exact absurd rfl hnot
  · rintro ⟨⟨hplanned, hhydration⟩, horder⟩
    unfold applyChange
    rw [hplanned]
    simp [hhydration, rejectUnexpectedHydration, deleteSubtree, horder]

theorem Indexed.applyChange {p p' : RootCatalogProjection} (hp : p.Indexed) {fuel : ℕ}
    {call : ChangeCall} {resolution : RootCatalogResolution}
    (h : p.applyChange fuel call = some (.ok (resolution, p'))) : p'.Indexed := by
  rcases applyChange_cases h with ⟨-, rfl⟩ | ⟨items, -, -, rfl⟩ | ⟨-, -, hdelete⟩
  · exact hp
  · exact hp.foldl_applyUpsert items
  · exact (deleteSubtree_spec hp hdelete).1

theorem Indexed.rootRemoteId_applyChange {p p' : RootCatalogProjection} (hp : p.Indexed) {fuel : ℕ}
    {call : ChangeCall} {resolution : RootCatalogResolution}
    (h : p.applyChange fuel call = some (.ok (resolution, p'))) :
    p'.rootRemoteId = p.rootRemoteId := by
  rcases applyChange_cases h with ⟨-, rfl⟩ | ⟨items, -, -, rfl⟩ | ⟨-, -, hdelete⟩
  · rfl
  · exact rootRemoteId_foldl_applyUpsert items p
  · exact (deleteSubtree_spec hp hdelete).2.1

/-- A run that returns is its first call and the run of the others. -/
theorem applyChanges_cons {p p' : RootCatalogProjection} {fuel : RootCatalogProjection → ℕ}
    {call : ChangeCall} {rest : List ChangeCall} {mutations : List RootCatalogMutationPlan}
    (h : p.applyChanges fuel (call :: rest) = some (.ok (mutations, p'))) :
    ∃ resolution next later, p.applyChange (fuel p) call = some (.ok (resolution, next)) ∧
      next.applyChanges fuel rest = some (.ok (later, p')) ∧
      mutations = resolution.planned ++ later := by
  rw [applyChanges] at h
  split at h
  · simp at h
  · simp at h
  next resolution next hcall =>
  obtain ⟨outcome, hrest, houtcome⟩ := Option.map_eq_some_iff.mp h
  cases outcome with
  | error e => simp [Except.map] at houtcome
  | ok result =>
      obtain ⟨later, last⟩ := result
      obtain ⟨rfl, rfl⟩ : resolution.planned ++ later = mutations ∧ last = p' := by
        simpa [Except.map] using houtcome
      exact ⟨resolution, next, later, hcall, hrest, rfl⟩

theorem Indexed.applyChanges {p p' : RootCatalogProjection} (hp : p.Indexed)
    {fuel : RootCatalogProjection → ℕ} {calls : List ChangeCall}
    {mutations : List RootCatalogMutationPlan}
    (h : p.applyChanges fuel calls = some (.ok (mutations, p'))) :
    p'.Indexed ∧ p'.rootRemoteId = p.rootRemoteId := by
  induction calls generalizing p mutations with
  | nil =>
      obtain ⟨-, rfl⟩ : mutations = [] ∧ p = p' := by
        simpa [RootCatalogProjection.applyChanges, eq_comm] using h
      exact ⟨hp, rfl⟩
  | cons call rest ih =>
      obtain ⟨resolution, next, later, hcall, hrest, -⟩ := applyChanges_cons h
      obtain ⟨hindexed, hroot⟩ := ih (hp.applyChange hcall) hrest
      exact ⟨hindexed, hroot.trans (hp.rootRemoteId_applyChange hcall)⟩

/-! ## Cycles -/

/-- The parent of a catalogued item. -/
def ParentLink (p : RootCatalogProjection) (child parent : Text) : Prop :=
  p.parents.lookup child = some (some parent)

/-- The item is among its own ancestors. -/
def IsOwnAncestor (p : RootCatalogProjection) (remoteId : Text) : Prop :=
  Relation.TransGen p.ParentLink remoteId remoteId

theorem Indexed.step_iff {p : RootCatalogProjection} (hp : p.Indexed) :
    Step p.children = Function.swap p.ParentLink := by
  funext parent child
  exact propext (hp.mem_children parent child)

theorem Indexed.isOwnAncestor_iff {p : RootCatalogProjection} (hp : p.Indexed) (remoteId : Text) :
    p.IsOwnAncestor remoteId ↔ Relation.TransGen (Step p.children) remoteId remoteId := by
  rw [hp.step_iff, Relation.transGen_swap]
  rfl

/-- An item has one parent, so below an item that is not its own ancestor lies a tree. -/
theorem Indexed.forest {p : RootCatalogProjection} (hp : p.Indexed) {remoteId : Text}
    (h : ¬ p.IsOwnAncestor remoteId) : Forest p.children [remoteId] where
  nodup_seeds := List.nodup_singleton _
  nodup_next x _ := hp.sets.nodup x
  unique_pred x y _ _ c hcx hcy := by
    have hx := (hp.mem_children x c).mp hcx
    rw [(hp.mem_children y c).mp hcy] at hx
    exact (Option.some.inj (Option.some.inj hx)).symm
  seed_fresh x hreach s hs hmem := by
    obtain rfl := List.mem_singleton.mp hs
    obtain ⟨s', hs', hwalk⟩ := hreach
    obtain rfl := List.mem_singleton.mp hs'
    exact h ((hp.isOwnAncestor_iff s').mpr (Relation.TransGen.tail' hwalk hmem))

theorem Indexed.reach_keys {p : RootCatalogProjection} (hp : p.Indexed) {remoteId : Text}
    (hmem : remoteId ∈ p.parents.keys) (x : Text) (h : Reach p.children [remoteId] x) :
    x ∈ p.parents.keys := by
  obtain ⟨s, hs, hwalk⟩ := h
  obtain rfl := List.mem_singleton.mp hs
  rcases Relation.ReflTransGen.cases_tail hwalk with rfl | ⟨b, -, hstep⟩
  · exact hmem
  · exact hp.contains_child hstep

/-- A target among its own ancestors keeps the queue busy for ever. -/
theorem Indexed.deleteOrder_eq_none {p : RootCatalogProjection} (hp : p.Indexed) {remoteId : Text}
    (h : p.IsOwnAncestor remoteId) (fuel : ℕ) : p.deleteOrder fuel remoteId = none :=
  drain_eq_none_of_cycle List.mem_cons_self ((hp.isOwnAncestor_iff remoteId).mp h) fuel

/-- **A deletion ends exactly when its target is not among its own ancestors**, and then within as
    many steps as there are items. -/
theorem Indexed.deleteOrder_isSome_iff {p : RootCatalogProjection} (hp : p.Indexed) {remoteId : Text}
    (hmem : remoteId ∈ p.parents.keys) :
    (∃ order, p.deleteOrder p.itemCount remoteId = some order) ↔ ¬ p.IsOwnAncestor remoteId := by
  constructor
  · rintro ⟨order, horder⟩ hcycle
    rw [hp.deleteOrder_eq_none hcycle] at horder
    exact absurd horder (by simp)
  · intro hno
    obtain ⟨order, horder, -⟩ :=
      drain_isSome_of_forest (hp.forest hno) (hp.reach_keys hmem) p.itemCount le_rfl
    exact ⟨order, horder⟩

theorem Indexed.deleteOrder_eq_none_iff {p : RootCatalogProjection} (hp : p.Indexed) {remoteId : Text}
    (hmem : remoteId ∈ p.parents.keys) {fuel : ℕ} (hfuel : p.itemCount ≤ fuel) :
    p.deleteOrder fuel remoteId = none ↔ p.IsOwnAncestor remoteId := by
  constructor
  · intro hnone
    by_contra hno
    obtain ⟨order, horder, -⟩ :=
      drain_isSome_of_forest (hp.forest hno) (hp.reach_keys hmem) fuel hfuel
    cases hnone.symm.trans horder
  · exact fun hcycle => hp.deleteOrder_eq_none hcycle fuel

/-- Between windows there are no cycles: in a complete projection every chain of parents ends in the
    root, which has no parent of its own. -/
theorem Indexed.not_isOwnAncestor_of_complete {p : RootCatalogProjection} (hp : p.Indexed)
    (hroot : p.rootRemoteId ∉ p.parents.keys) (hcomplete : p.isComplete = true) (remoteId : Text) :
    ¬ p.IsOwnAncestor remoteId := by
  intro hcycle
  have hlink : ∀ {child parent : Text}, p.ParentLink child parent → p.IsOwnAncestor child →
      p.IsOwnAncestor parent := by
    intro child parent hlink hown
    obtain ⟨next, hnext, hback⟩ := Relation.TransGen.head'_iff.mp hown
    obtain rfl : next = parent := Option.some.inj (Option.some.inj (hnext.symm.trans hlink))
    exact Relation.TransGen.tail' hback hlink
  have hkey : ∀ {child parent : Text}, p.ParentLink child parent → child ∈ p.parents.keys :=
    fun h => hp.contains_child ((hp.mem_children _ _).mpr h)
  obtain ⟨up, hup, -⟩ := Relation.TransGen.head'_iff.mp hcycle
  obtain ⟨top, htop, hwalk⟩ := hp.isComplete_iff.mp hcomplete remoteId (hkey hup)
  -- a cycle would carry on from the item up to the root, which has no parent
  have hno : ¬ p.IsOwnAncestor remoteId := by
    clear hcycle hup
    induction hwalk with
    | refl =>
        intro hown
        obtain ⟨next, hnext, -⟩ := Relation.TransGen.head'_iff.mp
          (hlink ((hp.mem_children _ _).mp htop) hown)
        exact hroot (hkey hnext)
    | tail _ hstep ih => exact fun hown => ih (hlink ((hp.mem_children _ _).mp hstep) hown)
  exact hno hcycle

/-! ## Runs -/

/-- The calls of a sequence that are made, each with the projection it is made on. A call is made when
    all calls before it have returned without an error. -/
inductive Made : RootCatalogProjection → List ChangeCall → RootCatalogProjection → ChangeCall → Prop
  | head {p : RootCatalogProjection} {call : ChangeCall} {rest : List ChangeCall} :
      Made p (call :: rest) p call
  | tail {p next p' : RootCatalogProjection} {first call : ChangeCall} {rest : List ChangeCall}
      {resolution : RootCatalogResolution} :
      p.applyChange p.itemCount first = some (.ok (resolution, next)) → Made next rest p' call →
        Made p (first :: rest) p' call

theorem Made.indexed {p p' : RootCatalogProjection} {calls : List ChangeCall} {call : ChangeCall}
    (h : Made p calls p' call) (hp : p.Indexed) : p'.Indexed := by
  induction h with
  | head => exact hp
  | tail happly _ ih => exact ih (hp.applyChange happly)

end RootCatalogProjection

open RootCatalogProjection in
/-- **When deletions end.** Along every sequence of calls on an accepted item list, the queues of all
    deletions empty within the item count if and only if no deletion is made on an item that the
    projection has among its own ancestors. -/
theorem deletions_end_iff (root : Text) (items : List RemoteItem) (p : RootCatalogProjection)
    (hnew : RootCatalogProjection.new root items = .ok p) (calls : List ChangeCall) :
    (∀ p' call, Made p calls p' call → p'.Deletes call →
      ∃ order, p'.deleteOrder p'.itemCount call.change.remoteId = some order) ↔
    ∀ p' call, Made p calls p' call → p'.Deletes call →
      ¬ p'.IsOwnAncestor call.change.remoteId := by
  refine forall₂_congr fun p' call => forall₂_congr fun hmade hdeletes => ?_
  exact (hmade.indexed (Indexed.new hnew)).deleteOrder_isSome_iff (contains_of_deletes hdeletes)

/-! The folder `f` lies in `g`. A window first reports `g` inside `f`, as it is after `f` was moved up
and `g` into it, and deletes `f` before it reports where `f` went. -/

def nestedFolders : List RemoteItem :=
  [⟨['g'], some ['r'], ['g'], .folder, none, none, false⟩,
    ⟨['f'], some ['g'], ['f'], .folder, none, none, false⟩]

def swappedThenDeleted : List ChangeCall :=
  [⟨.upsert ⟨['g'], some ['f'], ['g'], .folder, none, none, false⟩, .descendant, none⟩,
    ⟨.delete ['f'], .unresolvedDelete, none⟩]

def nestedProjection : RootCatalogProjection :=
  nestedFolders.foldl RootCatalogProjection.applyUpsert ⟨['r'], ∅, ∅⟩

open RootCatalogProjection in
theorem deletions_end_iff_nested :
    (∀ p' call, Made nestedProjection swappedThenDeleted p' call → p'.Deletes call →
      ∃ order, p'.deleteOrder p'.itemCount call.change.remoteId = some order) ↔
    ∀ p' call, Made nestedProjection swappedThenDeleted p' call → p'.Deletes call →
      ¬ p'.IsOwnAncestor call.change.remoteId :=
  deletions_end_iff ['r'] nestedFolders nestedProjection (by rfl) swappedThenDeleted

/-- The projection after the first report: `g` and `f` are each other's parents. -/
def swappedProjection : RootCatalogProjection :=
  nestedProjection.applyUpsert ⟨['g'], some ['f'], ['g'], .folder, none, none, false⟩

open RootCatalogProjection in
/-- The deletion of `f` in the middle of that window never ends. -/
theorem deletion_loops_on_swapped_folders :
    ¬ ∀ (root : Text) (items : List RemoteItem) (p : RootCatalogProjection),
      RootCatalogProjection.new root items = .ok p → ∀ (calls : List ChangeCall) (p' : _)
        (call : ChangeCall), Made p calls p' call → p'.Deletes call →
          ∃ order, p'.deleteOrder p'.itemCount call.change.remoteId = some order := by
  intro h
  have hfirst : nestedProjection.applyChange nestedProjection.itemCount
      ⟨.upsert ⟨['g'], some ['f'], ['g'], .folder, none, none, false⟩, .descendant, none⟩ =
        some (.ok (.mutations [.upsert ⟨['g'], some ['f'], ['g'], .folder, none, none, false⟩],
          swappedProjection)) := by rfl
  obtain ⟨order, horder⟩ := h ['r'] nestedFolders nestedProjection (by rfl) swappedThenDeleted _ _
    (.tail hfirst .head) ⟨by rfl, by rfl⟩
  have hloop : swappedProjection.deleteOrder swappedProjection.itemCount ['f'] = none := by rfl
  exact absurd (hloop.symm.trans horder) (by simp)

end NubiSync
