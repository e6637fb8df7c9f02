import NubiSync.Library.LinkedTable
import NubiSync.Sync.ProjectionRuns

set_option autoImplicit false

/-! # Tables that follow the projection

The projection keeps the parent links of the items and nothing else of them. A table of rows with
parent links follows it when both hold the same ids with the same parents (`FollowsLinks`). An upsert
and a subtree deletion keep a table in step with the projection, through missing parents and cycles,
whatever the rows hold besides their links. -/

namespace NubiSync

open RootCatalogProjection Worklist

variable {ρ : Type} {key : ρ → Text}

/-- The rows and the projection hold the same ids with the same parents. -/
def FollowsLinks (parentOf : ρ → Option Text) (t : Table key) (p : RootCatalogProjection) : Prop :=
  ∀ id, (t.find? id).map parentOf = p.parents.lookup id

namespace FollowsLinks

variable {parentOf : ρ → Option Text} {t : Table key} {p : RootCatalogProjection}

theorem mem_keys (h : FollowsLinks parentOf t p) (id : Text) :
    id ∈ t.rows.map key ↔ id ∈ p.parents.keys := by
  rw [← AList.mem_keys, ← AList.lookup_isSome, ← h id, Option.isSome_map,
    Option.isSome_iff_exists]
  simp only [Table.find?_eq_some_iff, List.mem_map]

theorem length_rows (h : FollowsLinks parentOf t p) : t.rows.length = p.itemCount := by
  rw [itemCount, ← List.length_map key]
  exact ((List.perm_ext_iff_of_nodup t.nodup_keys p.parents.keys_nodup).mpr h.mem_keys).length_eq

theorem step_eq (h : FollowsLinks parentOf t p) (hp : p.Indexed) :
    Step (t.childKeys parentOf) = Step p.children := by
  funext parent child
  refine propext ?_
  show child ∈ t.childKeys parentOf parent ↔ child ∈ p.children parent
  rw [Table.mem_childKeys, h child, hp.mem_children]

theorem mem_subtreeKeys (h : FollowsLinks parentOf t p) (hp : p.Indexed) (remoteId id : Text) :
    id ∈ t.subtreeKeys parentOf remoteId ↔ Reach p.children [remoteId] id := by
  rw [Table.mem_subtreeKeys, Reach, Reach, h.step_eq hp]

/-! ## What keeps a table in step -/

/-- A row of the item with the item's parent, written where the projection upserts the item. -/
theorem upsert (h : FollowsLinks parentOf t p) {row : ρ} {item : RemoteItem}
    (hkey : key row = item.remoteId) (hparent : parentOf row = item.parentRemoteId) :
    FollowsLinks parentOf (t.upsert row) (p.applyUpsert item) := by
  intro id
  rw [Table.find?_upsert, lookup_applyUpsert, hkey]
  split
  · rw [Option.map_some, hparent]
  · exact h id

/-- **The two subtree deletions agree**, whenever the projection's ends. -/
theorem deleted (h : FollowsLinks parentOf t p) (hp : p.Indexed) {fuel : ℕ} {remoteId : Text}
    {p' : RootCatalogProjection} (hdelete : p.deleteSubtree fuel remoteId = some p') {t' : Table key}
    (ht' : ∀ id, t'.find? id = if id ∈ t.subtreeKeys parentOf remoteId then none else t.find? id) :
    FollowsLinks parentOf t' p' := by
  obtain ⟨-, -, hgone, hkept⟩ := deleteSubtree_spec hp hdelete
  intro id
  rw [ht']
  by_cases hreach : Reach p.children [remoteId] id
  · rw [if_pos ((h.mem_subtreeKeys hp remoteId id).mpr hreach), hgone id hreach]
    rfl
  · rw [if_neg fun hin => hreach ((h.mem_subtreeKeys hp remoteId id).mp hin), hkept id hreach]
    exact h id

end FollowsLinks

/-! ## Tables of an item list -/

/-- The rows have the ids and the parents of a list of items. -/
def HasLinksOf (parentOf : ρ → Option Text) (t : Table key) (items : List RemoteItem) : Prop :=
  ∀ id parent, (∃ row ∈ t.rows, key row = id ∧ parentOf row = parent) ↔
    ∃ item ∈ items, item.remoteId = id ∧ item.parentRemoteId = parent

theorem HasLinksOf.lookup_iff {parentOf : ρ → Option Text} {t : Table key} {items : List RemoteItem}
    (h : HasLinksOf parentOf t items) (id : Text) (parent : Option Text) :
    (t.find? id).map parentOf = some parent ↔
      ∃ item ∈ items, item.remoteId = id ∧ item.parentRemoteId = parent := by
  rw [← h, Option.map_eq_some_iff]
  simp only [Table.find?_eq_some_iff, and_assoc]

/-- A table of an accepted item list follows the projection built of it. -/
theorem HasLinksOf.follows {parentOf : ρ → Option Text} {t : Table key} {items : List RemoteItem}
    (h : HasLinksOf parentOf t items) {root : Text} {p : RootCatalogProjection}
    (hnew : RootCatalogProjection.new root items = .ok p) : FollowsLinks parentOf t p := by
  obtain ⟨rfl, hnodup, -, -⟩ := new_ok hnew
  intro id
  refine Option.ext fun parent => ?_
  rw [lookup_foldl_applyUpsert hnodup, h.lookup_iff]
  simp

/-! ## Projections with the same links -/

namespace RootCatalogProjection

variable {p q : RootCatalogProjection}

/-- Completeness is a matter of the root and the parent links. -/
theorem Indexed.isComplete_congr (hp : p.Indexed) (hq : q.Indexed)
    (hroot : q.rootRemoteId = p.rootRemoteId)
    (hlinks : ∀ id, q.parents.lookup id = p.parents.lookup id) (h : p.isComplete = true) :
    q.isComplete = true := by
  have hchildren : ∀ parent child, child ∈ q.children parent ↔ child ∈ p.children parent := by
    intro parent child
    rw [hq.mem_children, hp.mem_children, hlinks]
  have hstep : Step q.children = Step p.children := by
    funext parent child
    exact propext (hchildren parent child)
  rw [hq.isComplete_iff]
  intro id hid
  have hkey : id ∈ p.parents.keys := by
    rw [← AList.mem_keys, ← AList.lookup_isSome] at hid ⊢
    rwa [← hlinks]
  obtain ⟨top, htop, hwalk⟩ := hp.isComplete_iff.mp h id hkey
  refine ⟨top, ?_, ?_⟩
  · rw [hchildren, hroot]
    exact htop
  · rw [hstep]
    exact hwalk

end RootCatalogProjection

end NubiSync
