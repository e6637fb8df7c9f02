import NubiSync.Sync.HydrationTrees

set_option autoImplicit false

/-! # The projection in place

`apply_change` works on the projection of its caller and may fail at several points, so what it leaves
behind matters also when it fails. Here it is the computation that the source has, on a state that stays
when an error is thrown; `applyChange` is what it comes to. -/

namespace NubiSync

open Checks

/-! ## The computation -/

/-- A computation on the caller's projection: an error keeps the state, and no result at all stands for a
    loop that the fuel does not end. -/
abbrev ProjectionM := ExceptT RootCatalogProjectionError (StateT RootCatalogProjection Option)

/-- The result of a computation and the projection it leaves behind. -/
def ProjectionM.runOn {α : Type} (x : ProjectionM α) (p : RootCatalogProjection) :
    Option (Except RootCatalogProjectionError α × RootCatalogProjection) :=
  x.run.run p

namespace ProjectionM

variable {α β : Type} (p : RootCatalogProjection)

@[simp] theorem runOn_pure (a : α) : (pure a : ProjectionM α).runOn p = some (.ok a, p) := rfl

@[simp] theorem runOn_throw (e : RootCatalogProjectionError) :
    (throw e : ProjectionM α).runOn p = some (.error e, p) := rfl

@[simp] theorem runOn_get : (get : ProjectionM RootCatalogProjection).runOn p = some (.ok p, p) := rfl

@[simp] theorem runOn_set (p' : RootCatalogProjection) :
    (set p' : ProjectionM Unit).runOn p = some (.ok (), p') := rfl

@[simp] theorem runOn_modify (f : RootCatalogProjection → RootCatalogProjection) :
    (modify f : ProjectionM Unit).runOn p = some (.ok (), f p) := rfl

@[simp] theorem runOn_ofExcept (x : Except RootCatalogProjectionError α) :
    (ofExcept x : ProjectionM α).runOn p = some (x, p) := by
  cases x <;> rfl

@[simp] theorem runOn_bind (x : ProjectionM α) (next : α → ProjectionM β) :
    (x >>= next).runOn p = (x.runOn p).bind fun
      | (.ok a, p') => (next a).runOn p'
      | (.error e, p') => some (.error e, p') := by
  change Option.bind _ _ = _
  refine Option.bind_congr fun result _ => ?_
  obtain ⟨result, p'⟩ := result
  cases result <;> rfl

end ProjectionM

namespace RootCatalogProjection

/-- `self.delete_subtree(remote_id)`. -/
def deleteSubtreeInPlace (fuel : ℕ) (remoteId : Text) : ProjectionM Unit := do
  let p ← get
  let p' ← liftM (m := Option) (p.deleteSubtree fuel remoteId)
  set p'

/-- The loop of the `HydrateSubtree` arm. -/
def upsertHydration : List RemoteItem → ProjectionM (List RootCatalogMutationPlan)
  | [] => pure []
  | item :: rest => do
      modify (applyUpsert · item)
      let mutations ← upsertHydration rest
      return .upsert item :: mutations

/-- `RootCatalogProjection::apply_change`, with the fuel of a subtree deletion. -/
def applyChangeInPlace (fuel : ℕ) (call : ChangeCall) : ProjectionM RootCatalogResolution := do
  let p ← get
  let action ← ofExcept ((p.plannedAction call).mapError .plan)
  match action with
  | .ignore => do
      ofExcept (rejectUnexpectedHydration call.hydration)
      return .noop
  | .revalidateRoot => do
      ofExcept (rejectUnexpectedHydration call.hydration)
      return .revalidateRoot
  | .upsertItem => do
      ofExcept (rejectUnexpectedHydration call.hydration)
      match call.change with
      | .delete _ => throw (.plan .invalidChangeContext)
      | .upsert item => do
          modify (applyUpsert · item)
          return .mutations [.upsert item]
  | .deleteSubtree => do
      ofExcept (rejectUnexpectedHydration call.hydration)
      deleteSubtreeInPlace fuel call.change.remoteId
      return .mutations [.deleteSubtree call.change.remoteId]
  | .hydrateSubtree => do
      let hydration ← ofExcept (orRefuse call.hydration .hydrationRequired)
      match call.change with
      | .delete _ => throw (.plan .invalidChangeContext)
      | .upsert rootItem => do
          ofExcept (validateHydration rootItem hydration)
          let mutations ← upsertHydration hydration
          return .mutations mutations

/-! ## What it comes to -/

theorem upsertHydration_runOn (items : List RemoteItem) (p : RootCatalogProjection) :
    (upsertHydration items).runOn p = some (.ok (items.map .upsert), items.foldl applyUpsert p) := by
  induction items generalizing p with
  | nil => rfl
  | cons item rest ih =>
      simp only [upsertHydration, ProjectionM.runOn_bind, ProjectionM.runOn_modify, Option.bind_some,
        ih, ProjectionM.runOn_pure, List.map_cons, List.foldl_cons]

theorem deleteSubtreeInPlace_runOn (fuel : ℕ) (remoteId : Text) (p : RootCatalogProjection) :
    (deleteSubtreeInPlace fuel remoteId).runOn p =
      (p.deleteSubtree fuel remoteId).map fun p' => (.ok (), p') := by
  simp only [deleteSubtreeInPlace, ProjectionM.runOn_bind, ProjectionM.runOn_get, Option.bind_some]
  cases p.deleteSubtree fuel remoteId <;> rfl

/-- What a call leaves behind: the projection of its result, and after an error the projection it was
    made on. -/
theorem applyChangeInPlace_runOn (p : RootCatalogProjection) (fuel : ℕ) (call : ChangeCall) :
    (applyChangeInPlace fuel call).runOn p = (p.applyChange fuel call).map fun
      | .error e => (.error e, p)
      | .ok (resolution, p') => (.ok resolution, p') := by
  simp only [applyChangeInPlace, applyChange, ProjectionM.runOn_bind, ProjectionM.runOn_get,
    ProjectionM.runOn_ofExcept, Option.bind_some]
  cases hplanned : p.plannedAction call with
  | error e => rfl
  | ok action =>
      simp only [mapError_ok]
      cases action with
      | hydrateSubtree =>
          simp only [applyHydration, ProjectionM.runOn_bind, ProjectionM.runOn_ofExcept,
            Option.bind_some]
          cases call.hydration with
          | none => rfl
          | some hydration =>
              cases call.change with
              | delete remoteId => rfl
              | upsert rootItem =>
                  simp only [orRefuse, ProjectionM.runOn_bind, ProjectionM.runOn_ofExcept,
                    Option.bind_some, upsertHydration_runOn]
                  cases validateHydration rootItem hydration <;> rfl
      | ignore | revalidateRoot =>
          simp only [ProjectionM.runOn_bind, ProjectionM.runOn_ofExcept, Option.bind_some]
          cases rejectUnexpectedHydration call.hydration <;> rfl
      | upsertItem =>
          simp only [ProjectionM.runOn_bind, ProjectionM.runOn_ofExcept, Option.bind_some]
          cases rejectUnexpectedHydration call.hydration with
          | error e => rfl
          | ok _ => cases call.change <;> rfl
      | deleteSubtree =>
          simp only [ProjectionM.runOn_bind, ProjectionM.runOn_ofExcept, Option.bind_some,
            deleteSubtreeInPlace_runOn]
          cases rejectUnexpectedHydration call.hydration with
          | error e => rfl
          | ok _ =>
              cases hdelete : p.deleteSubtree fuel call.change.remoteId <;> simp [hdelete]

theorem eq_of_applyChangeInPlace_error {p p' : RootCatalogProjection} {fuel : ℕ} {call : ChangeCall}
    {e : RootCatalogProjectionError}
    (h : (applyChangeInPlace fuel call).runOn p = some (.error e, p')) : p' = p := by
  rw [applyChangeInPlace_runOn, Option.map_eq_some_iff] at h
  obtain ⟨outcome, -, houtcome⟩ := h
  cases outcome with
  | error e' => exact (congrArg Prod.snd houtcome).symm
  | ok result => cases houtcome

end RootCatalogProjection

open RootCatalogProjection in
/-- A hydration is accepted exactly when it is a tree of live items below the changed folder, and a call
    that fails, whatever its change, its membership and its hydration, leaves the parents and the children
    as they were. -/
theorem hydration_all_or_nothing :
    (∀ expectedRoot items,
      validateHydration expectedRoot items = .ok () ↔ HydrationTree expectedRoot items)
      ∧ ∀ (p p' : RootCatalogProjection) (fuel : ℕ) (call : ChangeCall) (e : RootCatalogProjectionError),
        (applyChangeInPlace fuel call).runOn p = some (.error e, p') →
          p'.parents = p.parents ∧ p'.childrenByParent = p.childrenByParent := by
  refine ⟨validateHydration_iff, fun p p' fuel call e h => ?_⟩
  obtain rfl := eq_of_applyChangeInPlace_error h
  exact ⟨rfl, rfl⟩

/-! The folder `h` is new. It comes with a file in it, or with two folders that lie in each other. -/

def newFolder : RemoteItem := ⟨['h'], some ['r'], ['h'], .folder, none, none, false⟩

def filledHydration : List RemoteItem :=
  [newFolder, ⟨['a'], some ['h'], ['a'], .file, some 1, none, false⟩]

def cyclicHydration : List RemoteItem :=
  [newFolder, ⟨['i'], some ['j'], ['i'], .folder, none, none, false⟩,
    ⟨['j'], some ['i'], ['j'], .folder, none, none, false⟩]

open RootCatalogProjection in
/-- The one is accepted; the other is refused and leaves the two folders of before. -/
theorem hydration_all_or_nothing_nested :
    HydrationTree newFolder filledHydration
      ∧ ¬ HydrationTree newFolder cyclicHydration
      ∧ ∃ p', (applyChangeInPlace 2 ⟨.upsert newFolder, .descendant, some cyclicHydration⟩).runOn
            nestedProjection = some (.error .incompleteHydration, p')
          ∧ p'.parents = nestedProjection.parents
          ∧ p'.childrenByParent = nestedProjection.childrenByParent := by
  obtain ⟨haccepted, hkept⟩ := hydration_all_or_nothing
  have hrefused : (applyChangeInPlace 2 ⟨.upsert newFolder, .descendant, some cyclicHydration⟩).runOn
      nestedProjection = some (.error .incompleteHydration, nestedProjection) := by rfl
  refine ⟨(haccepted _ _).mp (by rfl), fun htree => ?_, _, hrefused, hkept _ _ _ _ _ hrefused⟩
  have haccepts := (haccepted _ _).mpr htree
  exact absurd haccepts (by decide)

/-! ## Any sequence of calls -/

/-- The projections that calls make out of an accepted list of items; a call that fails is one of them. -/
inductive ProjectionOf (rootRemoteId : Text) (items : List RemoteItem) : RootCatalogProjection → Prop where
  | new {p : RootCatalogProjection} (h : RootCatalogProjection.new rootRemoteId items = .ok p) :
      ProjectionOf rootRemoteId items p
  | call {p p' : RootCatalogProjection} {fuel : ℕ} {call : ChangeCall}
      {result : Except RootCatalogProjectionError RootCatalogResolution}
      (before : ProjectionOf rootRemoteId items p)
      (h : (RootCatalogProjection.applyChangeInPlace fuel call).runOn p = some (result, p')) :
      ProjectionOf rootRemoteId items p'

namespace RootCatalogProjection

theorem Indexed.applyChangeInPlace {p p' : RootCatalogProjection} (hp : p.Indexed) {fuel : ℕ}
    {call : ChangeCall} {result : Except RootCatalogProjectionError RootCatalogResolution}
    (h : (applyChangeInPlace fuel call).runOn p = some (result, p')) :
    p'.Indexed ∧ p'.rootRemoteId = p.rootRemoteId := by
  rw [applyChangeInPlace_runOn, Option.map_eq_some_iff] at h
  obtain ⟨outcome, houtcome, hresult⟩ := h
  cases outcome with
  | error e =>
      obtain rfl : p = p' := congrArg Prod.snd hresult
      exact ⟨hp, rfl⟩
  | ok done =>
      obtain ⟨resolution, next⟩ := done
      obtain rfl : next = p' := congrArg Prod.snd hresult
      exact ⟨hp.applyChange houtcome, hp.rootRemoteId_applyChange houtcome⟩

theorem indexed_of_projectionOf {rootRemoteId : Text} {items : List RemoteItem}
    {p : RootCatalogProjection} (h : ProjectionOf rootRemoteId items p) :
    p.Indexed ∧ p.rootRemoteId = rootRemoteId := by
  induction h with
  | new h =>
      refine ⟨Indexed.new h, ?_⟩
      rw [(new_ok h).1]
      exact rootRemoteId_foldl_applyUpsert items _
  | call _ h ih =>
      obtain ⟨hindexed, hroot⟩ := ih.1.applyChangeInPlace h
      exact ⟨hindexed, hroot.trans ih.2⟩

/-- Below the root lie the items whose parent links lead to it. -/
theorem Indexed.reach_root_iff {p : RootCatalogProjection} (hp : p.Indexed) (id : Text) :
    Worklist.Reach p.children (p.children p.rootRemoteId) id ↔
      Relation.TransGen p.ParentLink id p.rootRemoteId := by
  rw [← Relation.transGen_swap, ← hp.step_iff, Relation.TransGen.head'_iff]
  rfl

end RootCatalogProjection

open RootCatalogProjection in
/-- Over every sequence of calls on every accepted list, the children index is the inverse of the
    parents, with every child in one place of one bucket and no bucket empty, and so the projection is
    complete exactly when the parent links of every item lead to the root. -/
theorem projection_index_exact (rootRemoteId : Text) (items : List RemoteItem)
    (p : RootCatalogProjection) (h : ProjectionOf rootRemoteId items p) :
    (∀ parent child, child ∈ p.children parent ↔ p.parents.lookup child = some (some parent))
      ∧ (∀ parent, (p.children parent).Nodup ∧ p.childrenByParent.lookup parent ≠ some [])
      ∧ (p.validateComplete = .ok () ↔ ∀ id, p.contains id = true →
        Relation.TransGen p.ParentLink id rootRemoteId) := by
  obtain ⟨hindexed, rfl⟩ := indexed_of_projectionOf h
  refine ⟨hindexed.mem_children, fun parent => ⟨hindexed.sets.nodup parent,
    hindexed.sets.no_empty parent⟩, ?_⟩
  have hcomplete := hindexed.isComplete_iff
  simp only [hindexed.reach_root_iff, ← AList.mem_keys, ← AList.lookup_isSome] at hcomplete
  simp [validateComplete, hcomplete, contains]

/-- After the first report of the window of swapped folders no parent links lead to the root. -/
theorem swapped_folders_incomplete :
    swappedProjection.validateComplete ≠ .ok ()
      ∧ ¬ ∀ id, swappedProjection.contains id = true →
        Relation.TransGen swappedProjection.ParentLink id ['r'] := by
  have hreported : ProjectionOf ['r'] nestedFolders swappedProjection :=
    @ProjectionOf.call _ _ nestedProjection _ 0
      ⟨.upsert ⟨['g'], some ['f'], ['g'], .folder, none, none, false⟩, .descendant, none⟩ _
      (.new (by rfl)) (by rfl)
  have hincomplete : swappedProjection.validateComplete ≠ .ok () := by decide
  exact ⟨hincomplete, fun h =>
    hincomplete ((projection_index_exact _ _ _ hreported).2.2.mpr h)⟩

end NubiSync
