import Mathlib.Data.Prod.Lex
import NubiSync.Sync.CatalogTree

set_option autoImplicit false

/-! # One tree, and one way to write it down

`CatalogTree` asks for a path of every item. `WellFormedCatalog` asks only for what can be read off the
items and their parent links, and the two agree on every catalog that is not empty. What the builder
makes of such a catalog is then settled to the last detail: every path is spelled from the path of the
parent, parents come before their children, and the list does not depend on the order the items came in.

The builder's path checks have no catalog to fire on. A walk below one external root spells safe and
distinct paths whether or not it reaches every item (`CatalogLinks.walk_error`). -/

namespace NubiSync

open Indexing

/-! ## The conditions, read off the items -/

/-- One step along the parent links. -/
def ParentLink (items : List RemoteItem) (id parent : Text) : Prop :=
  ∃ item ∈ items, item.remoteId = id ∧ item.parentRemoteId = some parent

/-- A parent id that is the id of no item. -/
def IsExternalParent (items : List RemoteItem) (id : Text) : Prop :=
  (∃ item ∈ items, item.parentRemoteId = some id) ∧ ∀ item ∈ items, item.remoteId ≠ id

/-- A catalog the builder accepts: sound items, distinct ids and sibling names, no file as a parent,
    one parent outside the list, and parent links that lead every item to it. -/
structure WellFormedCatalog (items : List RemoteItem) (root : Text) : Prop where
  id_not_blank : ∀ item ∈ items, item.remoteId.isBlank = false
  nodup_ids : (items.map RemoteItem.remoteId).Nodup
  has_parent : ∀ item ∈ items, item.parentRemoteId.isSome
  not_trashed : ∀ item ∈ items, item.trashed = false
  safe_name : ∀ item ∈ items, validateSafeRemoteName item.name = .ok ()
  sibling_names : items.Pairwise fun a b => a.parentRemoteId = b.parentRemoteId → a.name ≠ b.name
  parent_not_file : ∀ item ∈ items, ∀ parent ∈ items,
    item.parentRemoteId = some parent.remoteId → parent.kind ≠ .file
  external_iff : ∀ id, IsExternalParent items id ↔ id = root
  reaches : ∀ item ∈ items, Relation.TransGen (ParentLink items) item.remoteId root

theorem validateSafeRemoteName_ok_iff (name : Text) :
    validateSafeRemoteName name = .ok () ↔ isSafeRemoteName name = true := by
  unfold validateSafeRemoteName
  split <;> simp_all

/-- For items that have parents, distinct sibling keys are distinct names below each parent. -/
theorem nodup_siblingKey_iff {items : List RemoteItem}
    (hparents : ∀ item ∈ items, item.parentRemoteId.isSome) :
    (items.map RemoteItem.siblingKey).Nodup ↔
      items.Pairwise fun a b => a.parentRemoteId = b.parentRemoteId → a.name ≠ b.name := by
  rw [List.Nodup, List.pairwise_map]
  refine List.Pairwise.iff_of_mem fun {a b} ha hb => ?_
  obtain ⟨p, hp⟩ := Option.isSome_iff_exists.mp (hparents a ha)
  obtain ⟨q, hq⟩ := Option.isSome_iff_exists.mp (hparents b hb)
  simp [RemoteItem.siblingKey, hp, hq]

section Conditions

variable {items : List RemoteItem} {root : Text}

theorem PathOf.transGen {item : RemoteItem} {path : Text} (h : PathOf items root item path) :
    Relation.TransGen (ParentLink items) item.remoteId root := by
  induction h with
  | top hmem hparent => exact .single ⟨_, hmem, rfl, hparent⟩
  | child _ _ hmem hparent ih => exact .head ⟨_, hmem, rfl, hparent⟩ ih

theorem CatalogTree.wellFormed (ht : CatalogTree items root) (hne : items ≠ []) :
    WellFormedCatalog items root where
  id_not_blank item hitem := (ht.valid item hitem).id_not_blank
  nodup_ids := ht.nodup_ids
  has_parent item hitem := (ht.valid item hitem).has_parent
  not_trashed item hitem := (ht.valid item hitem).not_trashed
  safe_name item hitem := (validateSafeRemoteName_ok_iff _).mpr (ht.valid item hitem).safe_name
  sibling_names := (nodup_siblingKey_iff fun item hitem => (ht.valid item hitem).has_parent).mp
    ht.nodup_siblings
  parent_not_file item hitem parent hparent hid := by
    simp [ht.folder_parent item hitem parent hparent hid]
  external_iff id := by
    constructor
    · rintro ⟨⟨item, hitem, hparent⟩, houtside⟩
      obtain ⟨path, hpath⟩ := ht.rooted item hitem
      cases hpath with
      | top _ hroot => exact Option.some.inj (hparent.symm.trans hroot)
      | child hfolder _ _ hinside =>
          exact absurd (Option.some.inj (hinside.symm.trans hparent)) (houtside _ hfolder.mem)
    · rintro rfl
      refine ⟨?_, ht.root_external⟩
      obtain ⟨item, hitem⟩ := List.exists_mem_of_ne_nil items hne
      obtain ⟨path, hpath⟩ := ht.rooted item hitem
      -- up the parent chain of any item stands one directly below the root
      induction hpath with
      | top hmem hparent => exact ⟨_, hmem, hparent⟩
      | child hfolder _ _ _ ih => exact ih hfolder.mem
  reaches item hitem := by
    obtain ⟨path, hpath⟩ := ht.rooted item hitem
    exact hpath.transGen

theorem WellFormedCatalog.tree (h : WellFormedCatalog items root) : CatalogTree items root := by
  have hfolder : ∀ item ∈ items, ∀ parent ∈ items,
      item.parentRemoteId = some parent.remoteId → parent.kind = .folder := by
    intro item hitem parent hparent hid
    have hnot := h.parent_not_file item hitem parent hparent hid
    cases hkind : parent.kind with
    | file => exact absurd hkind hnot
    | folder => rfl
  have houtside := ((h.external_iff root).mpr rfl).2
  refine ⟨fun item hitem => ⟨h.id_not_blank item hitem, h.has_parent item hitem,
    h.not_trashed item hitem, (validateSafeRemoteName_ok_iff _).mp (h.safe_name item hitem)⟩,
    h.nodup_ids, (nodup_siblingKey_iff h.has_parent).mpr h.sibling_names, hfolder, houtside,
    fun item hitem => ?_⟩
  -- along the links every id but the root's is that of an item, which takes its parent's path
  have hchain : ∀ id, Relation.TransGen (ParentLink items) id root →
      ∃ item ∈ items, item.remoteId = id ∧ ∃ path, PathOf items root item path := by
    intro id hreach
    induction hreach using Relation.TransGen.head_induction_on with
    | single hlink =>
        obtain ⟨item, hitem, hid, hparent⟩ := hlink
        exact ⟨item, hitem, hid, _, .top hitem hparent⟩
    | head hlink _ ih =>
        obtain ⟨item, hitem, hid, hparent⟩ := hlink
        obtain ⟨parent, hmem, rfl, path, hpath⟩ := ih
        exact ⟨item, hitem, hid, _,
          .child hpath (hfolder item hitem parent hmem hparent) hitem hparent⟩
  obtain ⟨other, hother, hid, path, hpath⟩ := hchain _ (h.reaches item hitem)
  exact ⟨path, List.inj_on_of_nodup_map h.nodup_ids hother hitem hid ▸ hpath⟩

/-- **The conditions on the items are the tree.** -/
theorem wellFormedCatalog_iff (hne : items ≠ []) :
    WellFormedCatalog items root ↔ CatalogTree items root :=
  ⟨fun h => h.tree, fun ht => ht.wellFormed hne⟩

end Conditions

/-! ## The checks that never fire -/

theorem collectKinds_error {items : List RemoteItem} {kinds : AList fun _ : Text => RemoteItemKind}
    {e : ReceiveOnlyMaterializationPlanError} (h : collectKinds kinds items = .error e) :
    e = .invalidRemoteItem ∨ e = .unsafeRemoteName ∨ e = .duplicateRemoteId := by
  induction items generalizing kinds with
  | nil => simp [collectKinds] at h
  | cons item rest ih =>
      simp only [collectKinds] at h
      split at h
      · exact Or.inl (Except.error.inj h).symm
      split at h
      · exact Or.inr (Or.inl (Except.error.inj h).symm)
      split at h
      · exact Or.inr (Or.inr (Except.error.inj h).symm)
      · exact ih h

theorem indexParents_error {items : List RemoteItem} {kinds : AList fun _ : Text => RemoteItemKind}
    {index : ParentIndex} {e : ReceiveOnlyMaterializationPlanError}
    (h : indexParents kinds index items = .error e) :
    e = .invalidRemoteItem ∨ e = .duplicateSiblingName ∨ e = .invalidRemoteParentKind := by
  induction items generalizing index with
  | nil => simp [indexParents] at h
  | cons item rest ih =>
      simp only [indexParents] at h
      split at h
      · exact Or.inl (Except.error.inj h).symm
      split at h
      · exact Or.inr (Or.inl (Except.error.inj h).symm)
      split at h
      · exact Or.inr (Or.inr (Except.error.inj h).symm)
      · exact ih h
      · exact ih h

section Links

variable {items : List RemoteItem} {root : Text}

/-- The items that have a path below the root form a tree, with the paths they had. -/
theorem CatalogLinks.exists_reached (h : CatalogLinks items root) :
    ∃ reached, CatalogTree reached root ∧
      ∀ item path, PathOf items root item path → PathOf reached root item path := by
  classical
  set reached := items.filter fun item => decide (∃ path, PathOf items root item path) with hreached
  have hsub : ∀ item ∈ reached, item ∈ items := fun item hitem => List.mem_of_mem_filter hitem
  have hkeep : ∀ item path, PathOf items root item path → item ∈ reached := fun item path hpath =>
    List.mem_filter.mpr ⟨hpath.mem, decide_eq_true ⟨path, hpath⟩⟩
  have hpaths : ∀ item path, PathOf items root item path → PathOf reached root item path := by
    intro item path hpath
    induction hpath with
    | top hmem hparent => exact .top (hkeep _ _ (.top hmem hparent)) hparent
    | child hfolder hkind hmem hparent ih =>
        exact .child ih hkind (hkeep _ _ (.child hfolder hkind hmem hparent)) hparent
  refine ⟨reached, ?_, hpaths⟩
  exact {
    valid := fun item hitem => h.valid item (hsub item hitem)
    nodup_ids := h.nodup_ids.sublist (List.filter_sublist.map _)
    nodup_siblings := h.nodup_siblings.sublist (List.filter_sublist.map _)
    folder_parent := fun item hitem parent hparent =>
      h.folder_parent item (hsub item hitem) parent (hsub parent hparent)
    root_external := fun item hitem => h.root_external item (hsub item hitem)
    rooted := fun item hitem => by
      obtain ⟨path, hpath⟩ := of_decide_eq_true (List.mem_filter.mp hitem).2
      exact ⟨path, hpaths item path hpath⟩ }

theorem CatalogLinks.safe (h : CatalogLinks items root) {item : RemoteItem} {path : Text}
    (hpath : PathOf items root item path) : isSafeRelativePath path = true := by
  obtain ⟨reached, ht, hpaths⟩ := h.exists_reached
  exact (hpaths item path hpath).safe ht

theorem CatalogLinks.item_unique (h : CatalogLinks items root) {a b : RemoteItem} {path : Text}
    (ha : PathOf items root a path) (hb : PathOf items root b path) : a = b := by
  obtain ⟨reached, ht, hpaths⟩ := h.exists_reached
  exact (hpaths a path ha).item_unique ht (hpaths b path hb) rfl

/-- Whatever the walk pops has a path below the root, so a repeated item is the only thing it can trip
    over. -/
theorem CatalogLinks.walk_error (h : CatalogLinks items root)
    {childrenByParent : AList fun _ : Text => List RemoteItem}
    (hgroups : GroupsByParent childrenByParent items) {fuel : ℕ} {queue : List (RemoteItem × Text)}
    {expected : List RemoteExpectedPath} (hqueue : ∀ entry ∈ queue, PathOf items root entry.1 entry.2)
    (hexpected : ∀ e ∈ expected, ∃ item path, PathOf items root item path ∧ e = item.expectedAt path)
    {error : ReceiveOnlyMaterializationPlanError}
    (hwalk : walkExpectedPaths childrenByParent fuel queue expected = .error error) :
    error = .incompleteRemoteCatalog := by
  induction fuel generalizing queue expected with
  | zero =>
      cases queue with
      | nil => simp [walkExpectedPaths] at hwalk
      | cons entry queue => exact (Except.error.inj hwalk).symm
  | succ fuel ih =>
      cases queue with
      | nil => simp [walkExpectedPaths] at hwalk
      | cons entry queue =>
          obtain ⟨item, path⟩ := entry
          have hpath : PathOf items root item path := hqueue _ List.mem_cons_self
          have hchildren : ∀ child ∈ childEntries childrenByParent (item, path),
              PathOf items root child.1 child.2 := by
            intro child hchild
            obtain ⟨hfolder, hmem, hparent, hchildPath⟩ := (mem_childEntries hgroups _ _).mp hchild
            exact hchildPath ▸ PathOf.child hpath hfolder hmem hparent
          have hsafe : (childEntries childrenByParent (item, path)).all
              (fun child => isSafeRelativePath child.2) = true :=
            List.all_eq_true.mpr fun child hchild => h.safe (hchildren child hchild)
          -- a path met before is that of the same item, whose id has been met too
          have hcollision : item.remoteId ∉ expected.map RemoteExpectedPath.remoteId →
              path ∉ expected.map RemoteExpectedPath.relativePath := by
            intro hfresh hseen
            obtain ⟨e, he, hepath⟩ := List.mem_map.mp hseen
            obtain ⟨other, otherPath, hother, rfl⟩ := hexpected e he
            obtain rfl : otherPath = path := hepath
            obtain rfl := h.item_unique hpath hother
            exact hfresh (List.mem_map.mpr ⟨_, he, rfl⟩)
          have hok : validateSafeRelativePath path = .ok () := by
            simp [validateSafeRelativePath, h.safe hpath]
          simp only [walkExpectedPaths, hok, hsafe, bind, Except.bind] at hwalk
          split at hwalk
          · exact (Except.error.inj hwalk).symm
          next hfresh =>
          rw [if_neg (hcollision hfresh)] at hwalk
          refine ih (fun child hchild => ?_) (fun e he => ?_) hwalk
          · rcases List.mem_append.mp hchild with hchild | hchild
            · exact hqueue child (List.mem_cons_of_mem _ hchild)
            · exact hchildren child hchild
          · rcases List.mem_append.mp he with he | he
            · exact hexpected e he
            · exact ⟨item, path, hpath, List.mem_singleton.mp he⟩

end Links

/-- **The errors of the builder.** Neither of its path errors is among them. -/
theorem buildRemoteExpectedPaths_error {items : List RemoteItem}
    {e : ReceiveOnlyMaterializationPlanError} (h : buildRemoteExpectedPaths items = .error e) :
    e ≠ .remotePathCollision ∧ e ≠ .invalidLocalRelativePath := by
  unfold buildRemoteExpectedPaths at h
  split at h
  · simp at h
  cases hkinds : collectKinds ∅ items with
  | error e' =>
      rw [hkinds] at h
      obtain rfl : e' = e := Except.error.inj h
      rcases collectKinds_error hkinds with rfl | rfl | rfl <;> simp
  | ok kinds =>
  cases hparents : indexParents kinds ⟨[], ∅, []⟩ items with
  | error e' =>
      simp only [hkinds, hparents, bind, Except.bind] at h
      obtain rfl : e' = e := Except.error.inj h
      rcases indexParents_error hparents with rfl | rfl | rfl <;> simp
  | ok index =>
  simp only [hkinds, hparents, bind, Except.bind] at h
  have hincomplete : e = .incompleteRemoteCatalog := by
    split at h
    · next root hroot =>
        obtain ⟨hlinks, hgroups⟩ := catalogLinks_of_loops hkinds hparents hroot
        split at h
        · next error hwalk =>
            obtain rfl : error = e := Except.error.inj h
            refine hlinks.walk_error hgroups (fun entry hentry => ?_) (by simp) hwalk
            exact (reach_iff_pathOf hgroups entry).mp (Worklist.Reach.of_mem hentry)
        · split at h
          · simp at h
          · exact (Except.error.inj h).symm
    · exact (Except.error.inj h).symm
  simp [hincomplete]

/-! ## The order of the entries -/

theorem siblingLe_iff (left right : RemoteItem) :
    siblingLe left right ↔
      toLex (left.name, left.remoteId) ≤ toLex (right.name, right.remoteId) := by
  rw [Prod.Lex.toLex_le_toLex, siblingLe]

instance : Std.Total siblingLe where
  total left right := by
    simp only [siblingLe_iff]
    exact le_total _ _

instance : IsTrans RemoteItem siblingLe where
  trans a b c hab hbc := by
    rw [siblingLe_iff] at hab hbc ⊢
    exact hab.trans hbc

theorem siblingLe_antisymm {left right : RemoteItem} (h : siblingLe left right)
    (h' : siblingLe right left) : left.remoteId = right.remoteId := by
  rw [siblingLe_iff] at h h'
  exact congrArg (fun key => (ofLex key).2) (le_antisymm h h')

section Order

variable {items items' : List RemoteItem}

/-- Sorting leaves nothing of the order in which the siblings were listed. -/
theorem sortedChildren_perm (hperm : items.Perm items')
    (hids : (items.map RemoteItem.remoteId).Nodup)
    {children children' : AList fun _ : Text => List RemoteItem}
    (hgroups : GroupsByParent children items) (hgroups' : GroupsByParent children' items') :
    sortedChildren children = sortedChildren children' := by
  funext parent
  refine List.Perm.eq_of_pairwise (fun a b ha hb hab hba => ?_)
    (List.pairwise_insertionSort _ _) (List.pairwise_insertionSort _ _) ?_
  · have hmem := ((mem_sortedChildren hgroups parent a).mp ha).1
    have hmem' := hperm.mem_iff.mpr ((mem_sortedChildren hgroups' parent b).mp hb).1
    exact List.inj_on_of_nodup_map hids hmem hmem' (siblingLe_antisymm hab hba)
  · unfold sortedChildren
    refine (List.perm_insertionSort _ _).trans (.trans ?_ (List.perm_insertionSort _ _).symm)
    rw [hgroups parent, hgroups' parent]
    exact hperm.filter _

theorem PathOf.of_perm {root : Text} (hperm : items.Perm items') {item : RemoteItem} {path : Text}
    (h : PathOf items root item path) : PathOf items' root item path := by
  induction h with
  | top hmem hparent => exact .top (hperm.mem_iff.mp hmem) hparent
  | child _ hkind hmem hparent ih => exact .child ih hkind (hperm.mem_iff.mp hmem) hparent

theorem CatalogTree.of_perm {root : Text} (hperm : items.Perm items') (h : CatalogTree items root) :
    CatalogTree items' root where
  valid item hitem := h.valid item (hperm.mem_iff.mpr hitem)
  nodup_ids := (hperm.map _).nodup_iff.mp h.nodup_ids
  nodup_siblings := (hperm.map _).nodup_iff.mp h.nodup_siblings
  folder_parent item hitem parent hparent :=
    h.folder_parent item (hperm.mem_iff.mpr hitem) parent (hperm.mem_iff.mpr hparent)
  root_external item hitem := h.root_external item (hperm.mem_iff.mpr hitem)
  rooted item hitem := by
    obtain ⟨path, hpath⟩ := h.rooted item (hperm.mem_iff.mpr hitem)
    exact ⟨path, hpath.of_perm hperm⟩

/-- The root of a catalog is its one external parent. -/
theorem CatalogTree.root_unique {root root' : Text} (hne : items ≠ []) (h : CatalogTree items root)
    (h' : CatalogTree items root') : root = root' :=
  ((h'.wellFormed hne).external_iff root).mp (((h.wellFormed hne).external_iff root).mpr rfl)

/-- **The builder does not see the order of its input.** -/
theorem buildRemoteExpectedPaths_perm {expected : List RemoteExpectedPath}
    (hperm : items.Perm items') (h : buildRemoteExpectedPaths items = .ok expected) :
    buildRemoteExpectedPaths items' = .ok expected := by
  by_cases hne : items = []
  · subst hne
    rwa [hperm.nil_eq.symm]
  have hne' : items' ≠ [] := fun hnil => hne (hnil ▸ hperm).eq_nil
  obtain ⟨root, children, popped, hd, rfl⟩ := buildRemoteExpectedPaths_drained hne h
  have ht' := hd.tree.of_perm hperm
  obtain ⟨expected', hok, -⟩ := ht'.buildRemoteExpectedPaths
  obtain ⟨root', children', popped', hd', rfl⟩ := buildRemoteExpectedPaths_drained hne' hok
  obtain rfl : root' = root := hd'.tree.root_unique hne' ht'
  -- equal children everywhere make the two queues the same queue
  have hchildren := sortedChildren_perm hperm hd.tree.nodup_ids hd.groups hd'.groups
  have hnext : childEntries children = childEntries children' := by
    funext entry
    unfold childEntries
    rw [hchildren]
  have htop : topLevelEntries children root' = topLevelEntries children' root' := by
    unfold topLevelEntries
    rw [hchildren]
  have hdrained := hd.drained
  rw [hnext, htop, hperm.length_eq, hd'.drained, Option.some.injEq] at hdrained
  rw [hok, hdrained]

end Order

/-! ## The builder, exactly -/

/-- What the builder makes of a catalog below `root`: the items at the paths their parent links spell,
    parents first, every path once and sound. -/
structure ExactPaths (items : List RemoteItem) (root : Text) (expected : List RemoteExpectedPath) :
    Prop where
  items_at_paths : ∃ pathAt : RemoteItem → Text,
    expected.Perm (items.map fun item => item.expectedAt (pathAt item)) ∧
    ∀ item ∈ items, (item.parentRemoteId = some root → pathAt item = item.name) ∧
      ∀ parent ∈ items, item.parentRemoteId = some parent.remoteId →
        pathAt item = (pathAt parent).child item.name
  parents_first : ∀ before entry after, expected = before ++ entry :: after →
    ∃ item ∈ items, item.remoteId = entry.remoteId ∧
      (item.parentRemoteId = some root ∨
        ∃ parent ∈ before, item.parentRemoteId = some parent.remoteId)
  nodup_paths : (expected.map RemoteExpectedPath.relativePath).Nodup
  safe_paths : ∀ entry ∈ expected, validateSafeRelativePath entry.relativePath = .ok ()

section Exact

variable {items : List RemoteItem} {root : Text}
  {children : AList fun _ : Text => List RemoteItem} {popped : List (RemoteItem × Text)}

theorem DrainedBuild.parents_first (h : DrainedBuild items root children popped)
    {before after : List RemoteExpectedPath} {entry : RemoteExpectedPath}
    (hsplit : (popped.map fun e => e.1.expectedAt e.2) = before ++ entry :: after) :
    ∃ item ∈ items, item.remoteId = entry.remoteId ∧
      (item.parentRemoteId = some root ∨
        ∃ parent ∈ before, item.parentRemoteId = some parent.remoteId) := by
  obtain ⟨front, rest, hpopped, rfl, hrest⟩ := List.map_eq_append_iff.mp hsplit
  obtain ⟨⟨item, path⟩, back, rfl, rfl, -⟩ := List.map_eq_cons_iff.mp hrest
  have hpath := (h.mem_iff (item, path)).mp (by simp [hpopped])
  refine ⟨item, hpath.mem, rfl, ?_⟩
  rcases Worklist.drain_origin h.drained hpopped with htop | ⟨parent, hparent, hchild⟩
  · exact Or.inl ((mem_topLevelEntries h.groups _).mp htop).2.1
  · obtain ⟨-, -, hlink, -⟩ := (mem_childEntries h.groups _ _).mp hchild
    exact Or.inr ⟨_, List.mem_map_of_mem hparent, hlink⟩

theorem DrainedBuild.exactPaths (h : DrainedBuild items root children popped) :
    ExactPaths items root (popped.map fun e => e.1.expectedAt e.2) := by
  have ht := h.tree
  choose! pathAt hpathAt using ht.rooted
  have hat : ∀ entry ∈ popped, entry = (entry.1, pathAt entry.1) := by
    intro entry hentry
    have hpath := (h.mem_iff entry).mp hentry
    exact Prod.ext rfl (hpath.path_unique ht (hpathAt _ hpath.mem))
  refine ⟨⟨pathAt, ?_, fun item hitem => ⟨fun hroot => ?_, fun parent hparent hlink => ?_⟩⟩,
    fun _ _ _ => h.parents_first, ?_, ?_⟩
  · have hmap : (popped.map fun e => e.1.expectedAt e.2) =
        (popped.map Prod.fst).map fun item => item.expectedAt (pathAt item) := by
      rw [List.map_map]
      refine List.map_congr_left fun entry hentry => ?_
      rw [hat entry hentry]
      rfl
    rw [hmap]
    exact h.perm.map _
  · exact (hpathAt item hitem).path_unique ht (.top hitem hroot)
  · exact (hpathAt item hitem).path_unique ht (.child (hpathAt parent hparent)
      (ht.folder_parent item hitem parent hparent hlink) hitem hlink)
  · rw [List.map_map]
    refine List.Nodup.map_on (fun a ha b hb hab => ?_) (List.Nodup.of_map Prod.fst
      (h.perm.nodup_iff.mpr ht.nodup_ids.of_map))
    exact Prod.ext (((h.mem_iff a).mp ha).item_unique ht ((h.mem_iff b).mp hb) hab) hab
  · intro e he
    obtain ⟨entry, hentry, rfl⟩ := List.mem_map.mp he
    have hsafe := ((h.mem_iff entry).mp hentry).safe ht
    simp [validateSafeRelativePath, RemoteItem.expectedAt, hsafe]

end Exact

/-- **The builder is exact**: what it accepts, what it makes of it, and the errors it never returns. -/
theorem buildRemoteExpectedPaths_exact (items : List RemoteItem) (hne : items ≠ []) :
    ((∃ expected, buildRemoteExpectedPaths items = .ok expected) ↔
      ∃ root, WellFormedCatalog items root) ∧
    (∀ expected, buildRemoteExpectedPaths items = .ok expected →
      (∃ root, WellFormedCatalog items root ∧ ExactPaths items root expected) ∧
      ∀ items', items.Perm items' → buildRemoteExpectedPaths items' = .ok expected) ∧
    buildRemoteExpectedPaths items ≠ .error .remotePathCollision ∧
    buildRemoteExpectedPaths items ≠ .error .invalidLocalRelativePath := by
  refine ⟨?_, fun expected h => ⟨?_, fun items' hperm => buildRemoteExpectedPaths_perm hperm h⟩,
    fun h => (buildRemoteExpectedPaths_error h).1 rfl, fun h => (buildRemoteExpectedPaths_error h).2 rfl⟩
  · rw [buildRemoteExpectedPaths_isOk_iff]
    exact exists_congr fun root => (wellFormedCatalog_iff hne).symm
  · obtain ⟨root, children, popped, hdrained, rfl⟩ := buildRemoteExpectedPaths_drained hne h
    exact ⟨root, hdrained.tree.wellFormed hne, hdrained.exactPaths⟩

/-- A folder and a file in it, listed the wrong way round. -/
def folderAndFileItems : List RemoteItem :=
  [⟨"file".toList, some "folder".toList, "a.txt".toList, .file, some 3, none, false⟩,
    ⟨"folder".toList, some "root".toList, "docs".toList, .folder, none, none, false⟩]

theorem buildRemoteExpectedPaths_exact_folder :
    ∃ root, WellFormedCatalog folderAndFileItems root ∧
      ExactPaths folderAndFileItems root
        [⟨"docs".toList, .folder, "folder".toList, none⟩,
          ⟨"docs/a.txt".toList, .file, "file".toList, some 3⟩] :=
  ((buildRemoteExpectedPaths_exact folderAndFileItems (by decide)).2.1 _ (by rfl)).1

end NubiSync
