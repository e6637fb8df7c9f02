import NubiSync.Sync.Projection

set_option autoImplicit false

/-! # The projection's index

The children map is the exact inverse of the parents map (`Indexed`), and every operation keeps it
so. What an operation does can then be said on the parents map alone: an upsert sets one parent
(`lookup_applyUpsert`), and a subtree deletion removes what the item reaches through the children
(`deleteSubtree_spec`), whatever the parent links look like halfway through a window. -/

namespace NubiSync

open Indexing Worklist

namespace RootCatalogProjection

/-- The children map lists every item under its parent, once, and nothing else. -/
structure Indexed (p : RootCatalogProjection) : Prop where
  mem_children : ∀ parent child,
    child ∈ p.children parent ↔ p.parents.lookup child = some (some parent)
  sets : BucketSets p.childrenByParent

theorem Indexed.empty (rootRemoteId : Text) : Indexed ⟨rootRemoteId, ∅, ∅⟩ where
  mem_children _ _ := by simp [children]
  sets := ⟨by simp, by simp⟩

theorem Indexed.contains_child {p : RootCatalogProjection} (h : p.Indexed) {parent child : Text}
    (hchild : child ∈ p.children parent) : child ∈ p.parents.keys := by
  rw [← AList.mem_keys, ← AList.lookup_isSome, (h.mem_children parent child).mp hchild]
  rfl

/-! ## Links -/

theorem mem_dropLink (p : RootCatalogProjection) (childrenByParent : AList fun _ : Text => List Text)
    (remoteId parent child : Text) :
    child ∈ bucket (p.dropLink childrenByParent remoteId) parent ↔
      child ∈ bucket childrenByParent parent ∧
        ¬ (p.parents.lookup remoteId = some (some parent) ∧ child = remoteId) := by
  unfold dropLink
  split
  · next old hold =>
      rw [mem_bucket_dropEntry, hold]
      simp
  · next hnone =>
      exact ⟨fun hmem => ⟨hmem, fun hsame => hnone parent hsame.1⟩, And.left⟩

theorem sets_dropLink {p : RootCatalogProjection} {childrenByParent : AList fun _ : Text => List Text}
    (h : BucketSets childrenByParent) (remoteId : Text) :
    BucketSets (p.dropLink childrenByParent remoteId) := by
  unfold dropLink
  split
  · exact h.dropEntry _ _
  · exact h

/-! ## Upserts -/

theorem lookup_applyUpsert (p : RootCatalogProjection) (item : RemoteItem) (id : Text) :
    (p.applyUpsert item).parents.lookup id =
      if item.remoteId = id then some item.parentRemoteId else p.parents.lookup id := by
  change (p.parents.insert item.remoteId item.parentRemoteId).lookup id = _
  split
  · next h => rw [← h, AList.lookup_insert]
  · next h => rw [AList.lookup_insert_ne (Ne.symm h)]

@[simp] theorem rootRemoteId_applyUpsert (p : RootCatalogProjection) (item : RemoteItem) :
    (p.applyUpsert item).rootRemoteId = p.rootRemoteId := rfl

theorem mem_children_applyUpsert (p : RootCatalogProjection) (item : RemoteItem)
    (parent child : Text) :
    child ∈ (p.applyUpsert item).children parent ↔
      (item.parentRemoteId = some parent ∧ child = item.remoteId) ∨
        child ∈ bucket (p.dropLink p.childrenByParent item.remoteId) parent := by
  unfold applyUpsert children
  cases item.parentRemoteId with
  | none => simp
  | some target => simp [mem_bucket_insertEntry]

theorem Indexed.applyUpsert {p : RootCatalogProjection} (h : p.Indexed) (item : RemoteItem) :
    (p.applyUpsert item).Indexed := by
  refine ⟨fun parent child => ?_, ?_⟩
  · rw [mem_children_applyUpsert, mem_dropLink, lookup_applyUpsert]
    have hold := h.mem_children parent child
    by_cases hid : item.remoteId = child
    · -- the item's old link is dropped, so only its new parent lists it
      subst hid
      rw [if_pos rfl]
      simp only [and_true, Option.some.injEq]
      exact ⟨fun hmem => hmem.elim id fun hin => absurd (hold.mp hin.1) hin.2, Or.inl⟩
    · rw [if_neg hid, ← hold]
      constructor
      · rintro (⟨-, rfl⟩ | ⟨hmem, -⟩)
        · exact absurd rfl hid
        · exact hmem
      · exact fun hmem => Or.inr ⟨hmem, fun hsame => hid hsame.2.symm⟩
  · have hdrop := sets_dropLink (p := p) h.sets item.remoteId
    unfold RootCatalogProjection.applyUpsert
    simp only
    split
    · exact hdrop.insertEntry _ _
    · exact hdrop

theorem Indexed.foldl_applyUpsert (items : List RemoteItem) {p : RootCatalogProjection}
    (h : p.Indexed) : (items.foldl RootCatalogProjection.applyUpsert p).Indexed := by
  induction items generalizing p with
  | nil => exact h
  | cons item rest ih => exact ih (h.applyUpsert item)

theorem rootRemoteId_foldl_applyUpsert (items : List RemoteItem) (p : RootCatalogProjection) :
    (items.foldl RootCatalogProjection.applyUpsert p).rootRemoteId = p.rootRemoteId := by
  induction items generalizing p with
  | nil => rfl
  | cons item rest ih => exact ih (p.applyUpsert item)

/-! ## Building -/

/-- The loop of `new` upserts the items, all of them new and none of them the root. -/
theorem addInitialItems_ok {items : List RemoteItem} {p p' : RootCatalogProjection}
    (h : p.addInitialItems items = .ok p') :
    p' = items.foldl RootCatalogProjection.applyUpsert p ∧
      (∀ item ∈ items, item.remoteId.isBlank = false ∧ item.name ≠ [] ∧ item.trashed = false ∧
        item.remoteId ≠ p.rootRemoteId) ∧
      (items.map RemoteItem.remoteId).Nodup ∧ ∀ item ∈ items, p.contains item.remoteId = false := by
  induction items generalizing p with
  | nil =>
      obtain rfl : p = p' := by simpa [addInitialItems] using h
      simp
  | cons item rest ih =>
      rw [addInitialItems] at h
      split at h
      · simp at h
      next hvalid =>
      split at h
      · simp at h
      next hfresh =>
      obtain ⟨hfold, hvalids, hnodup, hrest⟩ := ih h
      have hother : ∀ other ∈ rest, item.remoteId ≠ other.remoteId ∧
          p.contains other.remoteId = false := by
        intro other hmem
        have := hrest other hmem
        rw [contains, lookup_applyUpsert] at this
        by_cases hid : item.remoteId = other.remoteId
        · rw [if_pos hid] at this
          exact absurd this (by simp)
        · rw [if_neg hid] at this
          exact ⟨hid, this⟩
      refine ⟨hfold, List.forall_mem_cons.mpr ⟨?_, hvalids⟩, ?_, ?_⟩
      · simp only [Bool.or_eq_true, List.isEmpty_iff, beq_iff_eq, not_or, Bool.not_eq_true]
          at hvalid
        exact ⟨hvalid.1.1.1, hvalid.1.1.2, hvalid.1.2, hvalid.2⟩
      · refine List.nodup_cons.mpr ⟨fun hmem => ?_, hnodup⟩
        obtain ⟨other, hmem, hid⟩ := List.mem_map.mp hmem
        exact (hother other hmem).1 hid.symm
      · exact List.forall_mem_cons.mpr ⟨by simpa using hfresh, fun other hmem => (hother other hmem).2⟩

/-- What an accepted item list is, and what is built from it. -/
theorem new_ok {root : Text} {items : List RemoteItem} {p : RootCatalogProjection}
    (h : RootCatalogProjection.new root items = .ok p) :
    p = items.foldl RootCatalogProjection.applyUpsert ⟨root, ∅, ∅⟩ ∧
      (items.map RemoteItem.remoteId).Nodup ∧
      (∀ item ∈ items, item.remoteId.isBlank = false ∧ item.name ≠ [] ∧ item.trashed = false ∧
        item.remoteId ≠ root) ∧ p.isComplete = true := by
  unfold RootCatalogProjection.new at h
  split at h
  · simp at h
  cases hadd : addInitialItems ⟨root, ∅, ∅⟩ items with
  | error e => rw [hadd] at h; exact absurd h (by simp [bind, Except.bind])
  | ok p' =>
      rw [hadd] at h
      simp only [bind, Except.bind] at h
      split at h
      · next hcomplete =>
          obtain rfl : p' = p := by simpa using h
          obtain ⟨hfold, hvalid, hnodup, -⟩ := addInitialItems_ok hadd
          exact ⟨hfold, hnodup, hvalid, hcomplete⟩
      · simp at h

theorem Indexed.new {root : Text} {items : List RemoteItem} {p : RootCatalogProjection}
    (h : RootCatalogProjection.new root items = .ok p) : p.Indexed := by
  rw [(new_ok h).1]
  exact (Indexed.empty root).foldl_applyUpsert items

/-- The parents after a run of upserts with distinct ids. -/
theorem lookup_foldl_applyUpsert {items : List RemoteItem}
    (hnodup : (items.map RemoteItem.remoteId).Nodup) (p : RootCatalogProjection) (id : Text)
    (parent : Option Text) :
    (items.foldl RootCatalogProjection.applyUpsert p).parents.lookup id = some parent ↔
      (∃ item ∈ items, item.remoteId = id ∧ item.parentRemoteId = parent) ∨
        (∀ item ∈ items, item.remoteId ≠ id) ∧ p.parents.lookup id = some parent := by
  induction items generalizing p with
  | nil => simp
  | cons item rest ih =>
      obtain ⟨hitem, hrest⟩ := List.nodup_cons.mp hnodup
      rw [List.foldl_cons, ih hrest, lookup_applyUpsert, List.forall_mem_cons]
      by_cases hid : item.remoteId = id
      · have hno : ∀ other ∈ rest, other.remoteId ≠ id := fun other hmem hsame =>
          hitem (List.mem_map.mpr ⟨other, hmem, hsame.trans hid.symm⟩)
        rw [if_pos hid]
        constructor
        · rintro (⟨other, hmem, hsame, -⟩ | ⟨-, hparent⟩)
          · exact absurd hsame (hno other hmem)
          · exact Or.inl ⟨item, List.mem_cons_self, hid, Option.some.inj hparent⟩
        · rintro (⟨other, hmem, hsame, hparent⟩ | ⟨⟨hne, -⟩, -⟩)
          · rcases List.mem_cons.mp hmem with rfl | hmem
            · exact Or.inr ⟨hno, congrArg some hparent⟩
            · exact absurd hsame (hno other hmem)
          · exact absurd hid hne
      · rw [if_neg hid]
        constructor
        · rintro (⟨other, hmem, hother⟩ | ⟨hno, hparent⟩)
          · exact Or.inl ⟨other, List.mem_cons_of_mem _ hmem, hother⟩
          · exact Or.inr ⟨⟨hid, hno⟩, hparent⟩
        · rintro (⟨other, hmem, hother⟩ | ⟨⟨-, hno⟩, hparent⟩)
          · rcases List.mem_cons.mp hmem with rfl | hmem
            · exact absurd hother.1 hid
            · exact Or.inl ⟨other, hmem, hother⟩
          · exact Or.inr ⟨hno, hparent⟩

/-! ## Subtree deletion -/

/-- `p'` is `p` without the items of a list, and without the buckets of these items. -/
structure Removed (p : RootCatalogProjection) (gone : List Text) (p' : RootCatalogProjection) :
    Prop where
  root_eq : p'.rootRemoteId = p.rootRemoteId
  lookup : ∀ id, p'.parents.lookup id = if id ∈ gone then none else p.parents.lookup id
  mem_children : ∀ parent child, child ∈ p'.children parent ↔
    parent ∉ gone ∧ child ∉ gone ∧ child ∈ p.children parent
  sets : BucketSets p'.childrenByParent

/-- One turn of the second loop removes one more item, in whatever order they come. -/
theorem Removed.removeNode {p p' : RootCatalogProjection} {gone : List Text} (hp : p.Indexed)
    (h : Removed p gone p') (current : Text) :
    Removed p (current :: gone) (p'.removeNode current) := by
  refine ⟨h.root_eq, fun id => ?_, fun parent child => ?_,
    sets_dropLink (h.sets.erase current) current⟩
  · unfold RootCatalogProjection.removeNode
    by_cases hid : id = current
    · subst hid
      rw [AList.lookup_erase, if_pos List.mem_cons_self]
    · rw [AList.lookup_erase_ne hid, h.lookup]
      simp [hid]
  · have hmem : child ∈ (p'.removeNode current).children parent ↔
        (current ≠ parent ∧ child ∈ p'.children parent) ∧
          ¬ (p'.parents.lookup current = some (some parent) ∧ child = current) := by
      unfold RootCatalogProjection.removeNode RootCatalogProjection.children
      rw [mem_dropLink, mem_bucket_erase]
    rw [hmem, h.mem_children]
    simp only [List.mem_cons, not_or]
    constructor
    · rintro ⟨⟨hne, hparent, hgone, hold⟩, hno⟩
      refine ⟨⟨Ne.symm hne, hparent⟩, ⟨?_, hgone⟩, hold⟩
      -- `current` itself is listed where its link points, and there it was dropped
      rintro rfl
      refine hno ⟨?_, rfl⟩
      rw [h.lookup, if_neg hgone]
      exact (hp.mem_children parent child).mp hold
    · rintro ⟨⟨hne, hparent⟩, ⟨hc, hgone⟩, hold⟩
      exact ⟨⟨Ne.symm hne, hparent, hgone, hold⟩, fun hsame => hc hsame.2⟩

theorem Removed.foldl_removeNode {p : RootCatalogProjection} (hp : p.Indexed) (order : List Text)
    {p' : RootCatalogProjection} {gone : List Text} (h : Removed p gone p') :
    Removed p (order.reverse ++ gone) (order.foldl RootCatalogProjection.removeNode p') := by
  induction order generalizing p' gone with
  | nil => simpa using h
  | cons current rest ih => simpa using ih (h.removeNode hp current)

theorem Removed.refl {p : RootCatalogProjection} (hp : p.Indexed) : Removed p [] p :=
  ⟨rfl, by simp, by simp, hp.sets⟩

/-- Removing a set closed under children keeps the index exact. -/
theorem Removed.indexed {p p' : RootCatalogProjection} {gone : List Text} (hp : p.Indexed)
    (h : Removed p gone p') (hclosed : ∀ x ∈ gone, ∀ y ∈ p.children x, y ∈ gone) : p'.Indexed where
  mem_children parent child := by
    rw [h.mem_children, h.lookup]
    constructor
    · rintro ⟨-, hchild, hmem⟩
      rw [if_neg hchild]
      exact (hp.mem_children parent child).mp hmem
    · intro hlookup
      split at hlookup
      · simp at hlookup
      next hchild =>
      have hmem := (hp.mem_children parent child).mpr hlookup
      exact ⟨fun hparent => hchild (hclosed parent hparent child hmem), hchild, hmem⟩
  sets := h.sets

/-- **What a subtree deletion does**, if its queue empties: the items reached from the target are
    gone, the others keep their parents, and the index stays exact. -/
theorem deleteSubtree_spec {p p' : RootCatalogProjection} (hp : p.Indexed) {fuel : ℕ}
    {remoteId : Text} (h : p.deleteSubtree fuel remoteId = some p') :
    p'.Indexed ∧ p'.rootRemoteId = p.rootRemoteId ∧
      (∀ id, Reach p.children [remoteId] id → p'.parents.lookup id = none) ∧
      ∀ id, ¬ Reach p.children [remoteId] id → p'.parents.lookup id = p.parents.lookup id := by
  obtain ⟨order, horder, rfl⟩ := Option.map_eq_some_iff.mp h
  have hremoved := (Removed.refl hp).foldl_removeNode hp order.reverse
  rw [List.reverse_reverse, List.append_nil] at hremoved
  have hmem := mem_drain_iff horder
  refine ⟨hremoved.indexed hp fun x hx y hy => ?_, hremoved.root_eq, fun id hid => ?_,
    fun id hid => ?_⟩
  · exact (hmem y).mpr (((hmem x).mp hx).step hy)
  · rw [hremoved.lookup, if_pos ((hmem id).mpr hid)]
  · rw [hremoved.lookup, if_neg fun hin => hid ((hmem id).mp hin)]

/-! ## Completeness -/

/-- **A complete projection** is one whose root reaches every item. -/
theorem Indexed.isComplete_iff {p : RootCatalogProjection} (hp : p.Indexed) :
    p.isComplete = true ↔
      ∀ id ∈ p.parents.keys, Reach p.children (p.children p.rootRemoteId) id := by
  have hnodes : ∀ x, ∀ y ∈ p.children x, y ∈ p.parents.keys := fun x y hy => hp.contains_child hy
  have hsearch := mem_search_below_iff hnodes (Nat.le_refl (p.itemCount + 1)) p.rootRemoteId
  have hnodup : (search p.children (p.itemCount + 1) [p.rootRemoteId] []).Nodup :=
    nodup_search _ List.nodup_nil
  have hsub : search p.children (p.itemCount + 1) [p.rootRemoteId] [] ⊆ p.parents.keys := by
    intro id hid
    obtain ⟨s, hs, hwalk⟩ := (hsearch id).mp hid
    rcases Relation.ReflTransGen.cases_tail hwalk with rfl | ⟨b, -, hstep⟩
    · exact hp.contains_child hs
    · exact hp.contains_child hstep
  have hlength := length_eq_iff_subset hnodup p.parents.keys_nodup hsub
  unfold isComplete
  rw [Bool.or_eq_true, List.isEmpty_iff, beq_iff_eq]
  constructor
  · rintro (hempty | hcount) id hid
    · simp [hempty] at hid
    · exact (hsearch id).mp (hlength.mp hcount hid)
  · exact fun hall => Or.inr (hlength.mpr fun id hid => (hsearch id).mpr (hall id hid))

end RootCatalogProjection

end NubiSync
