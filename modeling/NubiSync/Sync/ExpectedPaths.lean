import Mathlib.Data.List.Sort
import NubiSync.Core.Items
import NubiSync.Library.Indexing

set_option autoImplicit false

/-! # Expected local paths of a remote catalog

`build_remote_expected_paths` turns the flat list of catalogued items into the local tree it stands
for: every item gets the relative path spelled by the names along its parent chain, and any list that
is not one tree below one external root is refused. Every planner of the root starts here. -/

namespace NubiSync

open Indexing

inductive ReceiveOnlyMaterializationPlanError where
  | invalidRemoteItem
  | unsafeRemoteName
  | duplicateRemoteId
  | duplicateSiblingName
  | incompleteRemoteCatalog
  | invalidRemoteParentKind
  | remotePathCollision
  | invalidLocalRelativePath
  | duplicateLocalPath
  deriving DecidableEq, Repr

/-! ## Name and path checks -/

/-- The test of `validate_safe_remote_name`. -/
def isSafeRemoteName (name : Text) : Bool :=
  !(name.isEmpty || isDotName name || name.contains '/' || name.contains '\x00')

def validateSafeRemoteName (name : Text) : Except ReceiveOnlyMaterializationPlanError Unit :=
  if isSafeRemoteName name then .ok () else .error .unsafeRemoteName

def validateSafeRelativePath (path : Text) : Except ReceiveOnlyMaterializationPlanError Unit :=
  if isSafeRelativePath path then .ok () else .error .invalidLocalRelativePath

/-! ## The builder -/

/-- `RemoteExpectedPath`: relative path, kind, remote id and size of one catalogued item. -/
structure RemoteExpectedPath where
  relativePath : Text
  kind : RemoteItemKind
  remoteId : Text
  sizeBytes : Option ℕ
  deriving DecidableEq, Repr

/-- The expected path entry of an item at a path. -/
def RemoteItem.expectedAt (item : RemoteItem) (path : Text) : RemoteExpectedPath :=
  ⟨path, item.kind, item.remoteId, item.sizeBytes⟩

/-- The first loop: every item is well formed and ids are distinct. `remote_ids` is the key set of
    `kind_by_id`, so one map stands for both. -/
def collectKinds (kindById : AList fun _ : Text => RemoteItemKind) :
    List RemoteItem →
      Except ReceiveOnlyMaterializationPlanError (AList fun _ : Text => RemoteItemKind)
  | [] => .ok kindById
  | item :: rest =>
      if item.remoteId.isBlank || item.parentRemoteId.isNone || item.trashed then
        .error .invalidRemoteItem
      else if !isSafeRemoteName item.name then .error .unsafeRemoteName
      else if item.remoteId ∈ kindById then .error .duplicateRemoteId
      else collectKinds (kindById.insert item.remoteId item.kind) rest

/-- What the second loop accumulates. -/
structure ParentIndex where
  externalParentIds : List Text
  childrenByParent : AList fun _ : Text => List RemoteItem
  siblingNames : List (Text × Text)

/-- One item of the second loop, once its checks have passed. -/
def ParentIndex.push (index : ParentIndex) (parentInside : Bool) (parent : Text)
    (item : RemoteItem) : ParentIndex where
  externalParentIds :=
    if parentInside then index.externalParentIds else index.externalParentIds.insert parent
  childrenByParent := pushEntry index.childrenByParent parent item
  siblingNames := (parent, item.name) :: index.siblingNames

/-- The second loop: sibling names are distinct, parents inside the catalog are folders, and the
    parents outside it are collected. -/
def indexParents (kindById : AList fun _ : Text => RemoteItemKind) (index : ParentIndex) :
    List RemoteItem → Except ReceiveOnlyMaterializationPlanError ParentIndex
  | [] => .ok index
  | item :: rest =>
      match item.parentRemoteId with
      | none => .error .invalidRemoteItem
      | some parent =>
          if (parent, item.name) ∈ index.siblingNames then .error .duplicateSiblingName
          else
            match kindById.lookup parent with
            | some .file => .error .invalidRemoteParentKind
            | some .folder => indexParents kindById (index.push true parent item) rest
            -- a parent that is not among the items can only be the root
            | none => indexParents kindById (index.push false parent item) rest

/-- The order of siblings: by name, then by remote id. -/
def siblingLe (left right : RemoteItem) : Prop :=
  left.name < right.name ∨ (left.name = right.name ∧ left.remoteId ≤ right.remoteId)

instance : DecidableRel siblingLe := fun _ _ => inferInstanceAs (Decidable (_ ∨ _))

/-- The children of a parent in sibling order. -/
def sortedChildren (childrenByParent : AList fun _ : Text => List RemoteItem) (parent : Text) :
    List RemoteItem :=
  (bucket childrenByParent parent).insertionSort siblingLe

/-- The children of a popped item with their paths; only folders have any. -/
def childEntries (childrenByParent : AList fun _ : Text => List RemoteItem) (entry : RemoteItem × Text) :
    List (RemoteItem × Text) :=
  match entry.1.kind with
  | .folder =>
      (sortedChildren childrenByParent entry.1.remoteId).map
        fun child => (child, entry.2.child child.name)
  | .file => []

/-- The queue the walk starts from. -/
def topLevelEntries (childrenByParent : AList fun _ : Text => List RemoteItem) (root : Text) :
    List (RemoteItem × Text) :=
  (sortedChildren childrenByParent root).map fun item => (item, item.name)

/-- The breadth-first loop. `visited` and `seen_paths` are the ids and the paths of the entries
    pushed so far, so `expected` stands for all three. Every pass pushes a new id or fails, so the
    fuel of the caller, one more than the number of items, is never used up. -/
def walkExpectedPaths (childrenByParent : AList fun _ : Text => List RemoteItem) :
    ℕ → List (RemoteItem × Text) → List RemoteExpectedPath →
      Except ReceiveOnlyMaterializationPlanError (List RemoteExpectedPath)
  | _, [], expected => .ok expected
  | 0, _ :: _, _ => .error .incompleteRemoteCatalog
  | fuel + 1, (item, path) :: queue, expected => do
      validateSafeRelativePath path
      if item.remoteId ∈ expected.map RemoteExpectedPath.remoteId then
        .error .incompleteRemoteCatalog
      else if path ∈ expected.map RemoteExpectedPath.relativePath then .error .remotePathCollision
      else do
        let children := childEntries childrenByParent (item, path)
        if children.all fun child => isSafeRelativePath child.2 then
          walkExpectedPaths childrenByParent fuel (queue ++ children)
            (expected ++ [item.expectedAt path])
        else .error .invalidLocalRelativePath

def buildRemoteExpectedPaths (remoteItems : List RemoteItem) :
    Except ReceiveOnlyMaterializationPlanError (List RemoteExpectedPath) :=
  if remoteItems.isEmpty then .ok []
  else do
    let kindById ← collectKinds ∅ remoteItems
    let index ← indexParents kindById ⟨[], ∅, []⟩ remoteItems
    match index.externalParentIds with
    | [root] => do
        let expected ← walkExpectedPaths index.childrenByParent (remoteItems.length + 1)
          (topLevelEntries index.childrenByParent root) []
        -- items on a cycle, or below one, are never reached
        if expected.length = remoteItems.length then .ok expected
        else .error .incompleteRemoteCatalog
    | _ => .error .incompleteRemoteCatalog

end NubiSync
