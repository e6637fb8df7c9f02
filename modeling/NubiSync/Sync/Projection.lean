import NubiSync.Core.Items
import NubiSync.Library.Indexing
import NubiSync.Library.Search

set_option autoImplicit false

/-! # The root catalog projection

While a window of changes is applied, the catalog of the root lives in two hash maps: the parent of
every item, and the children of every parent. `plan_root_catalog_change` decides what a change does,
and `RootCatalogProjection` carries it out and emits the mutations the store will repeat.

Hash maps and hash sets are association lists and duplicate-free lists; no result depends on their
order. The one loop that may not end, the queue of `delete_subtree`, takes its fuel from the caller,
and `none` says that the fuel did not empty it. -/

namespace NubiSync

open Indexing

/-! ## Planning one change -/

inductive RootChangeMembership where
  | root
  | descendant
  | outside
  | unresolvedDelete
  deriving DecidableEq, Repr

inductive RootCatalogAction where
  | ignore
  | revalidateRoot
  | upsertItem
  | deleteSubtree
  | hydrateSubtree
  deriving DecidableEq, Repr

inductive RootCatalogPlanError where
  | invalidChangeContext
  deriving DecidableEq, Repr

def planRootCatalogChange (change : RemoteChange) (membership : RootChangeMembership)
    (previouslyCataloged : Bool) : Except RootCatalogPlanError RootCatalogAction :=
  match change, membership with
  | .delete _, .root => .ok .revalidateRoot
  | .delete _, .unresolvedDelete => .ok (if previouslyCataloged then .deleteSubtree else .ignore)
  | .delete _, .descendant | .delete _, .outside => .error .invalidChangeContext
  | .upsert _, .unresolvedDelete => .error .invalidChangeContext
  | .upsert _, .root => .ok .revalidateRoot
  -- what has left the root, or gone into the trash, leaves the catalog with all below it
  | .upsert _, .outside => .ok (if previouslyCataloged then .deleteSubtree else .ignore)
  | .upsert item, .descendant =>
      if item.trashed then .ok (if previouslyCataloged then .deleteSubtree else .ignore)
      else
        match item.kind with
        | .file => .ok .upsertItem
        -- a folder new to the catalog may hold items that no change of the window names
        | .folder => .ok (if previouslyCataloged then .upsertItem else .hydrateSubtree)

/-! ## The projection -/

inductive RootCatalogMutationPlan where
  | upsert (item : RemoteItem)
  | deleteSubtree (remoteId : Text)
  deriving DecidableEq, Repr

inductive RootCatalogResolution where
  | noop
  | revalidateRoot
  | mutations (all : List RootCatalogMutationPlan)
  deriving DecidableEq, Repr

/-- The mutations of a resolution. -/
def RootCatalogResolution.planned : RootCatalogResolution → List RootCatalogMutationPlan
  | .noop | .revalidateRoot => []
  | .mutations all => all

inductive RootCatalogProjectionError where
  | plan (error : RootCatalogPlanError)
  | invalidRootIdentifier
  | invalidInitialCatalogItem
  | duplicateInitialRemoteId
  | incompleteInitialCatalog
  | hydrationRequired
  | unexpectedHydration
  | invalidHydrationRoot
  | invalidHydrationItem
  | duplicateHydrationRemoteId
  | incompleteHydration
  | incompleteProjectedCatalog
  deriving DecidableEq, Repr

structure RootCatalogProjection where
  rootRemoteId : Text
  parents : AList fun _ : Text => Option Text
  childrenByParent : AList fun _ : Text => List Text

namespace RootCatalogProjection

def itemCount (p : RootCatalogProjection) : ℕ := p.parents.keys.length

def contains (p : RootCatalogProjection) (remoteId : Text) : Bool := (p.parents.lookup remoteId).isSome

/-- The children listed under a parent. -/
def children (p : RootCatalogProjection) (parent : Text) : List Text :=
  bucket p.childrenByParent parent

/-- Drop an item from the bucket of the parent it has so far. -/
def dropLink (p : RootCatalogProjection) (childrenByParent : AList fun _ : Text => List Text)
    (remoteId : Text) : AList fun _ : Text => List Text :=
  match p.parents.lookup remoteId with
  | some (some parent) => dropEntry childrenByParent parent remoteId
  | _ => childrenByParent

def applyUpsert (p : RootCatalogProjection) (item : RemoteItem) : RootCatalogProjection :=
  let unlinked := p.dropLink p.childrenByParent item.remoteId
  { p with
    parents := p.parents.insert item.remoteId item.parentRemoteId
    childrenByParent :=
      match item.parentRemoteId with
      | some parent => insertEntry unlinked parent item.remoteId
      | none => unlinked }

/-- `RootCatalogProjection::is_complete`: the search from the root reaches every item. -/
def isComplete (p : RootCatalogProjection) : Bool :=
  p.parents.keys.isEmpty ||
    (Worklist.search p.children (p.itemCount + 1) [p.rootRemoteId] []).length == p.itemCount

/-- The loop of `RootCatalogProjection::new`. -/
def addInitialItems (p : RootCatalogProjection) :
    List RemoteItem → Except RootCatalogProjectionError RootCatalogProjection
  | [] => .ok p
  | item :: rest =>
      if item.remoteId.isBlank || item.name.isEmpty || item.trashed
          || item.remoteId == p.rootRemoteId then .error .invalidInitialCatalogItem
      else if p.contains item.remoteId then .error .duplicateInitialRemoteId
      else addInitialItems (p.applyUpsert item) rest

def new (rootRemoteId : Text) (items : List RemoteItem) :
    Except RootCatalogProjectionError RootCatalogProjection :=
  if rootRemoteId.isBlank then .error .invalidRootIdentifier
  else do
    let p ← addInitialItems ⟨rootRemoteId, ∅, ∅⟩ items
    if p.isComplete then .ok p else .error .incompleteInitialCatalog

def validateComplete (p : RootCatalogProjection) : Except RootCatalogProjectionError Unit :=
  if p.isComplete then .ok () else .error .incompleteProjectedCatalog

/-! ## Subtree deletion -/

/-- The first loop of `delete_subtree`: everything queued from the item, with no visited set. -/
def deleteOrder (p : RootCatalogProjection) (fuel : ℕ) (remoteId : Text) : Option (List Text) :=
  Worklist.drain p.children fuel [remoteId]

/-- One turn of the second loop of `delete_subtree`. -/
def removeNode (p : RootCatalogProjection) (current : Text) : RootCatalogProjection :=
  { p with
    parents := p.parents.erase current
    childrenByParent := p.dropLink (p.childrenByParent.erase current) current }

def deleteSubtree (p : RootCatalogProjection) (fuel : ℕ) (remoteId : Text) :
    Option RootCatalogProjection :=
  (p.deleteOrder fuel remoteId).map fun order => order.reverse.foldl removeNode p

end RootCatalogProjection

/-! ## Hydration -/

def rejectUnexpectedHydration (hydration : Option (List RemoteItem)) :
    Except RootCatalogProjectionError Unit :=
  if hydration.isSome then .error .unexpectedHydration else .ok ()

/-- The first loop of `validate_hydration`: well-formed items with distinct ids. -/
def collectHydrationIds (ids : List Text) :
    List RemoteItem → Except RootCatalogProjectionError (List Text)
  | [] => .ok ids
  | item :: rest =>
      if item.remoteId.isBlank || item.name.isEmpty || item.trashed then .error .invalidHydrationItem
      else if item.remoteId ∈ ids then .error .duplicateHydrationRemoteId
      else collectHydrationIds (item.remoteId :: ids) rest

/-- The second loop of `validate_hydration`: parents lie inside the hydration. -/
def indexHydration (ids : List Text) (childrenByParent : AList fun _ : Text => List Text) :
    List RemoteItem → Except RootCatalogProjectionError (AList fun _ : Text => List Text)
  | [] => .ok childrenByParent
  | item :: rest =>
      match item.parentRemoteId with
      | none => .error .incompleteHydration
      | some parent =>
          if parent ∈ ids then
            indexHydration ids (pushEntry childrenByParent parent item.remoteId) rest
          else .error .incompleteHydration

def validateHydration (expectedRoot : RemoteItem) (hydration : List RemoteItem) :
    Except RootCatalogProjectionError Unit :=
  match hydration with
  | [] => .error .invalidHydrationRoot
  | actualRoot :: others =>
      if actualRoot ≠ expectedRoot ∨ actualRoot.kind ≠ .folder ∨ actualRoot.trashed = true then
        .error .invalidHydrationRoot
      else do
        let ids ← collectHydrationIds [] hydration
        let childrenByParent ← indexHydration ids ∅ others
        let reached := Worklist.search (bucket childrenByParent) (hydration.length + 1)
          [expectedRoot.remoteId] [expectedRoot.remoteId]
        if reached.length = hydration.length then .ok () else .error .incompleteHydration

/-! ## Applying changes -/

/-- The arguments of one `apply_change` call. -/
structure ChangeCall where
  change : RemoteChange
  membership : RootChangeMembership
  hydration : Option (List RemoteItem)

/-- What a call returns, together with the projection it leaves. -/
abbrev ChangeOutcome :=
  Except RootCatalogProjectionError (RootCatalogResolution × RootCatalogProjection)

namespace RootCatalogProjection

/-- The action planned for a call. -/
def plannedAction (p : RootCatalogProjection) (call : ChangeCall) :
    Except RootCatalogPlanError RootCatalogAction :=
  planRootCatalogChange call.change call.membership (p.contains call.change.remoteId)

/-- The `HydrateSubtree` arm of `apply_change`. -/
def applyHydration (p : RootCatalogProjection) (call : ChangeCall) : ChangeOutcome :=
  match call.hydration with
  | none => .error .hydrationRequired
  | some hydration =>
      match call.change with
      | .delete _ => .error (.plan .invalidChangeContext)
      | .upsert rootItem =>
          match validateHydration rootItem hydration with
          | .error e => .error e
          | .ok () => .ok (.mutations (hydration.map .upsert), hydration.foldl applyUpsert p)

/-- `RootCatalogProjection::apply_change`, with the fuel of a subtree deletion. -/
def applyChange (p : RootCatalogProjection) (fuel : ℕ) (call : ChangeCall) : Option ChangeOutcome :=
  match p.plannedAction call with
  | .error e => some (.error (.plan e))
  | .ok .hydrateSubtree => some (p.applyHydration call)
  | .ok action =>
      -- items are listed for one action only; with any other they are refused
      match rejectUnexpectedHydration call.hydration, action, call.change with
      | .error e, _, _ => some (.error e)
      | .ok (), .revalidateRoot, _ => some (.ok (.revalidateRoot, p))
      | .ok (), .upsertItem, .upsert item =>
          some (.ok (.mutations [.upsert item], p.applyUpsert item))
      | .ok (), .upsertItem, .delete _ => some (.error (.plan .invalidChangeContext))
      | .ok (), .deleteSubtree, change =>
          (p.deleteSubtree fuel change.remoteId).map fun p' =>
            .ok (.mutations [.deleteSubtree change.remoteId], p')
      | .ok (), _, _ => some (.ok (.noop, p))

/-- A sequence of calls, stopped by the first error, with the mutations of all of them. The fuel of a
    deletion may depend on the projection it runs on. -/
def applyChanges (fuel : RootCatalogProjection → ℕ) (p : RootCatalogProjection) :
    List ChangeCall → Option (Except RootCatalogProjectionError
      (List RootCatalogMutationPlan × RootCatalogProjection))
  | [] => some (.ok ([], p))
  | call :: rest =>
      match p.applyChange (fuel p) call with
      | none => none
      | some (.error e) => some (.error e)
      | some (.ok (resolution, p')) =>
          (applyChanges fuel p' rest).map fun outcome =>
            outcome.map fun (mutations, last) => (resolution.planned ++ mutations, last)

end RootCatalogProjection

end NubiSync
