import NubiSync.Library.FolderTraversals
import NubiSync.Sync.ProjectionInPlace

set_option autoImplicit false

/-! # Listed trees

The whole tree below a folder is listed by whoever builds a catalog or hydrates a folder, and validated by
the projection, which is another crate. Both traversals admit an item after the same four checks; what
has been admitted (`Listed`) is a tree that `RootCatalogProjection::new` and `validate_hydration`
accept. -/

namespace NubiSync

open Checks RootCatalogProjection

/-- What both traversals ask of an item that a folder lists. -/
structure RemoteItem.Admissible (item : RemoteItem) (expectedParentRemoteId : Text)
    (seenRemoteIds : List Text) : Prop where
  identified : item.remoteId.isBlank = false
  named : item.name ≠ []
  live : item.trashed = false
  parent : item.parentRemoteId = some expectedParentRemoteId
  unseen : item.remoteId ∉ seenRemoteIds

/-- The id is the root's or that of a listed item. -/
def Known (root : Text) (items : List RemoteItem) (id : Text) : Prop :=
  id = root ∨ id ∈ items.map RemoteItem.remoteId

theorem Known.append {root : Text} {items : List RemoteItem} {id : Text} (h : Known root items id)
    (others : List RemoteItem) : Known root (items ++ others) id := by
  rw [Known, List.map_append, List.mem_append]
  exact h.imp_right Or.inl

/-- The items that a traversal has listed below `root`, with the ids it has seen. -/
structure Listed (root : Text) (seenRemoteIds : List Text) (items : List RemoteItem) : Prop where
  grown : Grown RemoteItem.remoteId RemoteItem.parentRemoteId root items
  valid : ∀ item ∈ items, item.remoteId.isBlank = false ∧ item.name ≠ [] ∧ item.trashed = false
  seen : ∀ id, id ∈ seenRemoteIds ↔ Known root items id

/-- The ids of the folders among items, in their order. -/
def folderIds (items : List RemoteItem) : List Text :=
  (items.filter (·.kind == .folder)).map RemoteItem.remoteId

/-- The folders still to be listed are the root and folders of the list. -/
theorem known_folders {root : Text} {before listed : List RemoteItem} {parent : Text}
    {queue : List Text} (h : ∀ id ∈ parent :: queue, Known root before id) :
    ∀ id ∈ parent :: (queue ++ folderIds listed), Known root (before ++ listed) id := by
  intro id hid
  rw [← List.cons_append, List.mem_append] at hid
  rcases hid with hold | hfolder
  · exact (h id hold).append listed
  · rw [Known, List.map_append, List.mem_append]
    exact Or.inr (Or.inr (List.map_subset _ (List.filter_subset_self _) hfolder))

namespace Listed

variable {root : Text} {seenRemoteIds : List Text} {items : List RemoteItem}

theorem start (root : Text) : Listed root [root] [] where
  grown := .nil
  valid := nofun
  seen := by simp [Known]

/-- The step lemma: an item that passes the checks is one more leaf. -/
theorem admitted (h : Listed root seenRemoteIds items) {item : RemoteItem} {parent : Text}
    (hparent : Known root items parent) (hitem : item.Admissible parent seenRemoteIds) :
    Listed root (item.remoteId :: seenRemoteIds) (items ++ [item]) := by
  have hnew : ¬ Known root items item.remoteId := fun hold => hitem.unseen ((h.seen _).mpr hold)
  rw [Known, not_or] at hnew
  refine ⟨h.grown.snoc hitem.parent hparent hnew.1 hnew.2, ?_, fun id => ?_⟩
  · intro other hother
    rcases List.mem_append.mp hother with hold | hlast
    · exact h.valid other hold
    · rw [List.mem_singleton.mp hlast]
      exact ⟨hitem.identified, hitem.named, hitem.live⟩
  · rw [List.mem_cons, h.seen, Known, Known, List.map_append, List.mem_append, List.map_singleton,
      List.mem_singleton]
    tauto

/-! ## What is accepted -/

theorem fits (h : Listed root seenRemoteIds items) : ∀ item ∈ items, item.FitsCatalog root := by
  intro item hitem
  obtain ⟨hid, hname, hlive⟩ := h.valid item hitem
  exact ⟨hid, hname, hlive, h.grown.ne_root item hitem⟩

/-- What was listed below a root is accepted as its catalog. -/
theorem accepted (h : Listed root seenRemoteIds items) (hroot : root.isBlank = false) :
    ∃ p, RootCatalogProjection.new root items = .ok p := by
  let built := items.foldl applyUpsert ⟨root, ∅, ∅⟩
  have hadd : addInitialItems ⟨root, ∅, ∅⟩ items = .ok built :=
    addInitialItems_of_fits h.fits h.grown.nodup fun _ _ => rfl
  have hindexed : built.Indexed := (Indexed.empty root).foldl_applyUpsert items
  have hsame : built.rootRemoteId = root := rootRemoteId_foldl_applyUpsert items _
  have hlookup : ∀ id parent, built.parents.lookup id = some parent ↔
      ∃ item ∈ items, item.remoteId = id ∧ item.parentRemoteId = parent := by
    intro id parent
    rw [lookup_foldl_applyUpsert h.grown.nodup]
    simp
  have hcomplete : built.isComplete = true := by
    rw [hindexed.isComplete_iff]
    intro id hid
    obtain ⟨parent, hparent⟩ := Option.isSome_iff_exists.mp (AList.lookup_isSome.mpr hid)
    obtain ⟨item, hitem, rfl, -⟩ := (hlookup id parent).mp hparent
    rw [hindexed.reach_root_iff, hsame, ← Relation.transGen_swap]
    -- the tree grew along the parent links, so they lead back to the root
    refine (h.grown.connected item hitem).lift id ?_
    rintro above below ⟨link, hlink, habove, hbelow⟩
    exact (hlookup below (some above)).mpr ⟨link, hlink, hbelow, habove⟩
  refine ⟨built, ?_⟩
  rw [RootCatalogProjection.new, hroot, hadd]
  simp [bind, Except.bind, hcomplete]

/-- With the folder itself in front, it is accepted as the hydration of the folder. -/
theorem hydrationTree {folder : RemoteItem} (h : Listed folder.remoteId seenRemoteIds items)
    (hkind : folder.kind = .folder) (hfolder : folder.remoteId.isBlank = false ∧ folder.name ≠ []
      ∧ folder.trashed = false) : HydrationTree folder (folder :: items) where
  first := rfl
  folder := hkind
  valid := List.forall_mem_cons.mpr ⟨hfolder, h.valid⟩
  unique := by
    rw [List.map_cons, List.nodup_cons]
    refine ⟨fun hmem => ?_, h.grown.nodup⟩
    obtain ⟨item, hitem, hid⟩ := List.mem_map.mp hmem
    exact h.grown.ne_root item hitem hid
  parents := by
    intro item hitem
    obtain ⟨parent, hlink, hparent⟩ := h.grown.parents item hitem
    exact ⟨parent, by simpa using hparent, hlink⟩
  connected := List.forall_mem_cons.mpr ⟨.refl, fun item hitem =>
    (h.grown.connected item hitem).to_reflTransGen⟩

end Listed

end NubiSync
