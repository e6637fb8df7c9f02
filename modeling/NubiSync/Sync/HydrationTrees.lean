import NubiSync.Sync.CatalogClosure

set_option autoImplicit false

/-! # Hydration trees

A folder that is new to the catalog comes with the list of everything below it. What
`validate_hydration` accepts is said here without its maps and its queue: the folder first, then items
with parents in the list, all of them below the folder. -/

namespace NubiSync

open Checks Indexing Worklist

/-! ## What is accepted -/

/-- One of the items has `child` as its id and `parent` as its parent. -/
def HydrationLink (items : List RemoteItem) (parent child : Text) : Prop :=
  ∃ item ∈ items, item.parentRemoteId = some parent ∧ item.remoteId = child

/-- The list is a tree of live items below the changed folder. -/
structure HydrationTree (expectedRoot : RemoteItem) (items : List RemoteItem) : Prop where
  first : items.head? = some expectedRoot
  folder : expectedRoot.kind = .folder
  valid : ∀ item ∈ items, item.remoteId.isBlank = false ∧ item.name ≠ [] ∧ item.trashed = false
  unique : (items.map RemoteItem.remoteId).Nodup
  parents : ∀ item ∈ items.tail, ∃ parent ∈ items.map RemoteItem.remoteId,
    item.parentRemoteId = some parent
  connected : ∀ item ∈ items,
    Relation.ReflTransGen (HydrationLink items.tail) expectedRoot.remoteId item.remoteId

/-! ## The loops of the validation -/

/-- The ids that the first loop has collected were new, each of them once. -/
theorem nodup_of_collectHydrationIds {items : List RemoteItem} {ids ids' : List Text}
    (h : collectHydrationIds ids items = .ok ids') (hids : ids.Nodup) :
    ids'.Nodup ∧ ids' = (items.map RemoteItem.remoteId).reverse ++ ids := by
  induction items generalizing ids with
  | nil =>
      obtain rfl : ids = ids' := by simpa [collectHydrationIds] using h
      exact ⟨hids, rfl⟩
  | cons item rest ih =>
      rw [collectHydrationIds] at h
      split at h
      · cases h
      split at h
      · cases h
      next hnew =>
      obtain ⟨hnodup, rfl⟩ := ih h (List.nodup_cons.mpr ⟨hnew, hids⟩)
      exact ⟨hnodup, by simp⟩

/-- Well-formed items with new and distinct ids pass the first loop. -/
theorem collectHydrationIds_of_valid {items : List RemoteItem} {ids : List Text}
    (hvalid : ∀ item ∈ items,
      item.remoteId.isBlank = false ∧ item.name ≠ [] ∧ item.trashed = false)
    (hnodup : (items.map RemoteItem.remoteId).Nodup) (hnew : ∀ item ∈ items, item.remoteId ∉ ids) :
    collectHydrationIds ids items = .ok ((items.map RemoteItem.remoteId).reverse ++ ids) := by
  induction items generalizing ids with
  | nil => rfl
  | cons item rest ih =>
      obtain ⟨⟨hid, hname, hlive⟩, hvalid⟩ := List.forall_mem_cons.mp hvalid
      obtain ⟨hitem, hnew⟩ := List.forall_mem_cons.mp hnew
      obtain ⟨hfresh, hnodup⟩ := List.nodup_cons.mp hnodup
      have hrest := ih hvalid hnodup fun other hother hmem => by
        rcases List.mem_cons.mp hmem with heq | hmem
        · exact hfresh (List.mem_map.mpr ⟨other, hother, heq⟩)
        · exact hnew other hother hmem
      simpa [collectHydrationIds, hid, hname, hlive, hitem] using hrest

/-- The second loop accepts items with a parent among the ids, and lists each of them under it. -/
theorem indexHydration_ok {ids : List Text} {items : List RemoteItem}
    {index : AList fun _ : Text => List Text}
    (hparents : ∀ item ∈ items, ∃ parent ∈ ids, item.parentRemoteId = some parent) :
    ∃ index', indexHydration ids index items = .ok index'
      ∧ ∀ parent child, child ∈ bucket index' parent ↔
        child ∈ bucket index parent ∨ HydrationLink items parent child := by
  induction items generalizing index with
  | nil => exact ⟨index, rfl, by simp [HydrationLink]⟩
  | cons item rest ih =>
      obtain ⟨⟨parent, hmem, hparent⟩, hrest⟩ := List.forall_mem_cons.mp hparents
      obtain ⟨index', hindex, hbucket⟩ :=
        @ih (pushEntry index parent item.remoteId) hrest
      refine ⟨index', by simpa [indexHydration, hparent, hmem] using hindex, fun other child => ?_⟩
      rw [hbucket, bucket_pushEntry]
      simp only [HydrationLink, List.exists_mem_cons_iff, hparent, Option.some.injEq]
      by_cases hother : parent = other <;> simp [hother, or_assoc, eq_comm]

theorem parents_of_indexHydration {ids : List Text} {items : List RemoteItem}
    {index index' : AList fun _ : Text => List Text}
    (h : indexHydration ids index items = .ok index') :
    ∀ item ∈ items, ∃ parent ∈ ids, item.parentRemoteId = some parent := by
  induction items generalizing index with
  | nil => simp
  | cons item rest ih =>
      rw [indexHydration] at h
      split at h
      · cases h
      next parent hparent =>
      split at h
      · next hmem => exact List.forall_mem_cons.mpr ⟨⟨parent, hmem, hparent⟩, ih h⟩
      · cases h

/-! ## The whole validation -/

/-- The queue reaches as many items as there are exactly when every item lies below the first. -/
theorem search_length_iff {root : RemoteItem} {others : List RemoteItem}
    {index : AList fun _ : Text => List Text}
    (hnodup : ((root :: others).map RemoteItem.remoteId).Nodup)
    (hindex : ∀ parent child, child ∈ bucket index parent ↔ HydrationLink others parent child) :
    (search (bucket index) ((root :: others).length + 1) [root.remoteId] [root.remoteId]).length =
        (root :: others).length ↔
      ∀ item ∈ root :: others,
        Relation.ReflTransGen (HydrationLink others) root.remoteId item.remoteId := by
  have hnodes : ∀ parent, ∀ child ∈ bucket index parent,
      child ∈ (root :: others).map RemoteItem.remoteId := by
    intro parent child hchild
    obtain ⟨item, hitem, -, rfl⟩ := (hindex parent child).mp hchild
    exact List.mem_map_of_mem (List.mem_cons_of_mem _ hitem)
  have hstep : Step (bucket index) = HydrationLink others :=
    funext₂ fun parent child => propext (hindex parent child)
  have hreached : ∀ id, id ∈ search (bucket index) ((root :: others).length + 1) [root.remoteId]
      [root.remoteId] ↔ Relation.ReflTransGen (HydrationLink others) root.remoteId id := by
    intro id
    rw [mem_search_seed_iff hnodes (by rw [List.length_map]), ← hstep]
    simp [Reach]
  have hsub : search (bucket index) ((root :: others).length + 1) [root.remoteId] [root.remoteId] ⊆
      (root :: others).map RemoteItem.remoteId := by
    intro id hid
    rcases Relation.ReflTransGen.cases_tail ((hreached id).mp hid) with rfl | ⟨parent, -, hlink⟩
    · exact List.mem_cons_self
    · exact hnodes parent id ((hindex parent id).mpr hlink)
  have hlength := length_eq_iff_subset (nodup_search _ (List.nodup_singleton _)) hnodup hsub
  rw [List.length_map] at hlength
  rw [hlength]
  constructor
  · exact fun hall item hitem => (hreached _).mp (hall (List.mem_map_of_mem hitem))
  · intro hall id hid
    obtain ⟨item, hitem, rfl⟩ := List.mem_map.mp hid
    exact (hreached _).mpr (hall item hitem)

/-- `validate_hydration` accepts the trees below the changed folder and nothing else. -/
theorem validateHydration_iff (expectedRoot : RemoteItem) (items : List RemoteItem) :
    validateHydration expectedRoot items = .ok () ↔ HydrationTree expectedRoot items := by
  cases items with
  | nil =>
      refine ⟨nofun, fun h => ?_⟩
      cases h.first
  | cons root others =>
      simp only [validateHydration]
      constructor
      · intro h
        split at h
        · cases h
        next hroot =>
        obtain ⟨hfirst, hfolder, -⟩ : root = expectedRoot ∧ root.kind = .folder
            ∧ root.trashed = false := by simpa using hroot
        obtain ⟨ids, hids, hloops⟩ := bind_eq_ok.mp h
        obtain ⟨index, hindexed, hcount⟩ := bind_eq_ok.mp hloops
        obtain ⟨hnodup, rfl⟩ := nodup_of_collectHydrationIds hids List.nodup_nil
        rw [List.append_nil, List.nodup_reverse] at hnodup
        have hparents : ∀ item ∈ others, ∃ parent ∈ (root :: others).map RemoteItem.remoteId,
            item.parentRemoteId = some parent := by
          simpa only [List.append_nil, List.mem_reverse] using parents_of_indexHydration hindexed
        obtain ⟨index', hindexed', hbucket⟩ := indexHydration_ok
          (parents_of_indexHydration hindexed)
        obtain rfl : index = index' := Except.ok.inj (hindexed.symm.trans hindexed')
        split at hcount
        · next hreached =>
            subst hfirst
            exact ⟨rfl, hfolder, collectHydrationIds_ok hids, hnodup, hparents,
              (search_length_iff hnodup (by simpa using hbucket)).mp hreached⟩
        · cases hcount
      · intro h
        obtain rfl : root = expectedRoot := Option.some.inj h.first
        have hlive := (h.valid root List.mem_cons_self).2.2
        have hparents : ∀ item ∈ others,
            ∃ parent ∈ ((root :: others).map RemoteItem.remoteId).reverse ++ [],
              item.parentRemoteId = some parent := by
          simpa only [List.append_nil, List.mem_reverse, List.tail_cons] using h.parents
        obtain ⟨index, hindexed, hbucket⟩ := @indexHydration_ok _ _ ∅ hparents
        have hreached := (search_length_iff h.unique (by simpa using hbucket)).mpr h.connected
        rw [if_neg (by simp [h.folder, hlive]),
          collectHydrationIds_of_valid h.valid h.unique (by simp), ok_bind, hindexed, ok_bind,
          if_pos hreached]

end NubiSync
