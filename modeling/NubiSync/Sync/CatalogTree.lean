import NubiSync.Library.Worklist
import NubiSync.Sync.ExpectedPaths

set_option autoImplicit false

/-! # What a catalog has to be, and what the builder makes of it

`PathOf items root item path` says, without any algorithm, that following parents from `item` leads to
`root` through folders of the catalog and that `path` spells the names on the way. `CatalogTree` says
that the items form one tree below `root`. `buildRemoteExpectedPaths_ok_iff` proves the builder exact:
it succeeds on the catalog trees and on nothing else, and returns every item at its path.

The breadth-first loop keeps no more than it needs for its error checks, so the proof reads it as the
worklist of `Library/Worklist.lean` on pairs of an item and its path: the pairs below the root form a
forest, hence the checks of the loop never fire on a tree. -/

namespace NubiSync

open Indexing

/-! ## The specification -/

/-- The item's parent chain ends in `root`, passing only folders, and `path` spells its names. -/
inductive PathOf (items : List RemoteItem) (root : Text) : RemoteItem → Text → Prop where
  | top {item : RemoteItem} : item ∈ items → item.parentRemoteId = some root →
      PathOf items root item item.name
  | child {folder item : RemoteItem} {path : Text} : PathOf items root folder path →
      folder.kind = .folder → item ∈ items → item.parentRemoteId = some folder.remoteId →
      PathOf items root item (path.child item.name)

/-- The conditions on one item that the first loop checks. -/
structure ValidRemoteItem (item : RemoteItem) : Prop where
  id_not_blank : item.remoteId.isBlank = false
  has_parent : item.parentRemoteId.isSome
  not_trashed : item.trashed = false
  safe_name : isSafeRemoteName item.name

/-- The parent and the name of an item, the pair siblings must not share. -/
def RemoteItem.siblingKey (item : RemoteItem) : Text × Text :=
  (item.parentRemoteId.getD [], item.name)

/-- The items form one tree below the external parent `root`. -/
structure CatalogTree (items : List RemoteItem) (root : Text) : Prop where
  valid : ∀ item ∈ items, ValidRemoteItem item
  nodup_ids : (items.map RemoteItem.remoteId).Nodup
  nodup_siblings : (items.map RemoteItem.siblingKey).Nodup
  folder_parent : ∀ item ∈ items, ∀ parent ∈ items,
    item.parentRemoteId = some parent.remoteId → parent.kind = .folder
  root_external : ∀ item ∈ items, item.remoteId ≠ root
  rooted : ∀ item ∈ items, ∃ path, PathOf items root item path

/-! ## Safe names spell safe paths -/

theorem isSafeRemoteName_iff (name : Text) :
    isSafeRemoteName name = true ↔
      name ≠ [] ∧ isDotName name = false ∧ '/' ∉ name ∧ '\x00' ∉ name := by
  simp [isSafeRemoteName, and_assoc]

theorem isSafeRelativePath_iff (path : Text) :
    isSafeRelativePath path = true ↔
      (path ≠ [] ∧ path.head? ≠ some '/' ∧ path.getLast? ≠ some '/' ∧ '\x00' ∉ path) ∧
        ∀ component ∈ path.components, component ≠ [] ∧ isDotName component = false := by
  simp [isSafeRelativePath, and_assoc]

theorem isSafeRelativePath_name {name : Text} (h : isSafeRemoteName name = true) :
    isSafeRelativePath name = true := by
  obtain ⟨hne, hdot, hslash, hnul⟩ := (isSafeRemoteName_iff name).mp h
  refine (isSafeRelativePath_iff name).mpr ⟨⟨hne, ?_, ?_, hnul⟩, ?_⟩
  · exact fun hhead => hslash (List.mem_of_mem_head? hhead)
  · exact fun hlast => hslash (List.mem_of_mem_getLast? hlast)
  · rw [Text.components_of_slash_free name hslash]
    simp [hne, hdot]

theorem isSafeRelativePath_child {path name : Text} (hpath : isSafeRelativePath path = true)
    (hname : isSafeRemoteName name = true) : isSafeRelativePath (path.child name) = true := by
  obtain ⟨⟨hne, hhead, -, hnul⟩, hcomps⟩ := (isSafeRelativePath_iff path).mp hpath
  obtain ⟨hname_ne, hdot, hslash, hname_nul⟩ := (isSafeRemoteName_iff name).mp hname
  refine (isSafeRelativePath_iff _).mpr ⟨⟨by simp [Text.child], ?_, ?_, ?_⟩, ?_⟩
  · rwa [Text.child, List.head?_append_of_ne_nil _ hne]
  · intro hlast
    rw [Text.child, List.getLast?_append_cons, List.getLast?_cons] at hlast
    rw [List.getLast?_eq_some_getLast hname_ne] at hlast
    exact hslash (Option.some.inj hlast ▸ List.getLast_mem hname_ne)
  · simp [Text.child, hnul, hname_nul]
  · intro component hcomponent
    rw [Text.components_child path name hslash, List.mem_append, List.mem_singleton] at hcomponent
    rcases hcomponent with hcomponent | rfl
    · exact hcomps component hcomponent
    · exact ⟨hname_ne, hdot⟩

/-! ## Paths in a tree -/

section Tree

variable {items : List RemoteItem} {root : Text}

theorem PathOf.mem {item : RemoteItem} {path : Text} (h : PathOf items root item path) :
    item ∈ items := by
  cases h with
  | top hmem _ => exact hmem
  | child _ _ hmem _ => exact hmem

theorem CatalogTree.eq_of_remoteId (ht : CatalogTree items root) {a b : RemoteItem}
    (ha : a ∈ items) (hb : b ∈ items) (h : a.remoteId = b.remoteId) : a = b :=
  List.inj_on_of_nodup_map ht.nodup_ids ha hb h

theorem CatalogTree.eq_of_sibling (ht : CatalogTree items root) {a b : RemoteItem}
    (ha : a ∈ items) (hb : b ∈ items) (hparent : a.parentRemoteId = b.parentRemoteId)
    (hname : a.name = b.name) : a = b :=
  List.inj_on_of_nodup_map ht.nodup_siblings ha hb (by simp [RemoteItem.siblingKey, hparent, hname])

theorem CatalogTree.slash_free (ht : CatalogTree items root) {item : RemoteItem}
    (h : item ∈ items) : '/' ∉ item.name :=
  ((isSafeRemoteName_iff _).mp (ht.valid item h).safe_name).2.2.1

theorem PathOf.safe (ht : CatalogTree items root) {item : RemoteItem} {path : Text}
    (h : PathOf items root item path) : isSafeRelativePath path = true := by
  induction h with
  | top hmem _ => exact isSafeRelativePath_name (ht.valid _ hmem).safe_name
  | child _ _ hmem _ ih => exact isSafeRelativePath_child ih (ht.valid _ hmem).safe_name

theorem PathOf.path_unique (ht : CatalogTree items root) {item : RemoteItem} {p q : Text}
    (hp : PathOf items root item p) (hq : PathOf items root item q) : p = q := by
  induction hp generalizing q with
  | top hmem hparent =>
      cases hq with
      | top _ _ => rfl
      | child hfolder _ _ hparent' =>
          exact absurd (Option.some.inj (hparent'.symm.trans hparent))
            (ht.root_external _ hfolder.mem)
  | child hfolder _ hmem hparent ih =>
      cases hq with
      | top _ hparent' =>
          exact absurd (Option.some.inj (hparent.symm.trans hparent'))
            (ht.root_external _ hfolder.mem)
      | child hfolder' _ _ hparent' =>
          have hid := Option.some.inj (hparent.symm.trans hparent')
          have hsame := ht.eq_of_remoteId hfolder.mem hfolder'.mem hid
          rw [ih (hsame ▸ hfolder')]

theorem PathOf.item_unique (ht : CatalogTree items root) {a b : RemoteItem} {p q : Text}
    (ha : PathOf items root a p) (hb : PathOf items root b q) (hpq : p = q) : a = b := by
  induction ha generalizing b q with
  | top hmem hparent =>
      cases hb with
      | top hmem' hparent' => exact ht.eq_of_sibling hmem hmem' (hparent.trans hparent'.symm) hpq
      | child _ _ _ _ => exact absurd (by simp [hpq, Text.child]) (ht.slash_free hmem)
  | child hfolder _ hmem hparent ih =>
      cases hb with
      | top hmem' _ => exact absurd (by simp [← hpq, Text.child]) (ht.slash_free hmem')
      | child hfolder' _ hmem' hparent' =>
          obtain ⟨hpaths, hname⟩ := Text.child_inj (ht.slash_free hmem) (ht.slash_free hmem') hpq
          have hsame := ih hfolder' hpaths
          exact ht.eq_of_sibling hmem hmem' (by rw [hparent, hparent', hsame]) hname

/-- Above the path of an item stand only folders of the catalog, and none of them is empty. -/
theorem PathOf.exists_above (ht : CatalogTree items root) {item : RemoteItem} {path above : Text}
    (h : PathOf items root item path) (habove : above.IsBelow path) :
    ∃ folder, PathOf items root folder above ∧
      ∃ child ∈ items, child.parentRemoteId = some folder.remoteId := by
  induction h with
  | top hmem _ => exact absurd habove (Text.not_isBelow_of_slash_free (ht.slash_free hmem))
  | child hfolder _ hmem hparent ih =>
      rcases (Text.isBelow_child (ht.slash_free hmem)).mp habove with rfl | hup
      · exact ⟨_, hfolder, _, hmem, hparent⟩
      · exact ih hup

end Tree

/-! ## The checking loops -/

/-- The map the first loop has built once it has passed an item list. -/
abbrev kindMap (kindById : AList fun _ : Text => RemoteItemKind) (items : List RemoteItem) :
    AList fun _ : Text => RemoteItemKind :=
  indexBy RemoteItem.remoteId RemoteItem.kind kindById items

theorem collectKinds_ok_iff (items : List RemoteItem)
    (kinds kinds' : AList fun _ : Text => RemoteItemKind) :
    collectKinds kinds items = .ok kinds' ↔
      (∀ item ∈ items, ValidRemoteItem item) ∧ (items.map RemoteItem.remoteId).Nodup ∧
        (∀ item ∈ items, item.remoteId ∉ kinds) ∧ kinds' = kindMap kinds items := by
  induction items generalizing kinds with
  | nil => simp [collectKinds, indexBy, eq_comm]
  | cons item rest ih =>
      simp only [collectKinds]
      split
      · next hbad =>
          refine ⟨fun h => by simp at h, fun h => ?_⟩
          have hvalid := h.1 item List.mem_cons_self
          simp [hvalid.id_not_blank, hvalid.not_trashed,
            Option.isNone_eq_false_iff.mpr hvalid.has_parent] at hbad
      next hgood =>
      split
      · next hname =>
          refine ⟨fun h => by simp at h, fun h => ?_⟩
          simp [(h.1 item List.mem_cons_self).safe_name] at hname
      next hname =>
      split
      · next hdup =>
          exact ⟨fun h => by simp at h, fun h => absurd hdup (h.2.2.1 item List.mem_cons_self)⟩
      next hfresh =>
      have hvalid : ValidRemoteItem item := by
        simp only [Bool.or_eq_true, not_or, Bool.not_eq_true] at hgood
        simp only [Bool.not_eq_true', Bool.not_eq_false] at hname
        exact ⟨hgood.1.1, by simpa using hgood.1.2, hgood.2, hname⟩
      rw [ih]
      simp only [List.forall_mem_cons, List.map_cons, List.nodup_cons, indexBy, List.foldl_cons,
        AList.mem_insert, not_or, List.mem_map, not_exists, not_and]
      constructor
      · rintro ⟨hrest, hnodup, hkinds, rfl⟩
        exact ⟨⟨hvalid, hrest⟩, ⟨fun j hj => (hkinds j hj).1, hnodup⟩,
          ⟨hfresh, fun j hj => (hkinds j hj).2⟩, rfl⟩
      · rintro ⟨⟨-, hrest⟩, ⟨hhead, hnodup⟩, ⟨-, hkinds⟩, rfl⟩
        exact ⟨hrest, hnodup, fun j hj => ⟨hhead j hj, hkinds j hj⟩, rfl⟩

/-- One item of the second loop, without the checks. -/
def indexItem (kindById : AList fun _ : Text => RemoteItemKind) (index : ParentIndex)
    (item : RemoteItem) : ParentIndex :=
  match item.parentRemoteId with
  | some parent => index.push (kindById.lookup parent).isSome parent item
  | none => index

theorem indexParents_ok_iff (kinds : AList fun _ : Text => RemoteItemKind)
    (items : List RemoteItem) (index index' : ParentIndex) :
    indexParents kinds index items = .ok index' ↔
      (∀ item ∈ items, ∃ parent, item.parentRemoteId = some parent ∧
        kinds.lookup parent ≠ some .file) ∧
      (items.map RemoteItem.siblingKey).Nodup ∧
      (∀ item ∈ items, item.siblingKey ∉ index.siblingNames) ∧
      index' = items.foldl (indexItem kinds) index := by
  induction items generalizing index with
  | nil => simp [indexParents, eq_comm]
  | cons item rest ih =>
      simp only [indexParents]
      split
      · next hnone =>
          refine ⟨fun h => by simp at h, fun h => ?_⟩
          obtain ⟨parent, hparent, -⟩ := h.1 item List.mem_cons_self
          rw [hnone] at hparent
          exact absurd hparent (by simp)
      next parent hparent =>
      have hkey : item.siblingKey = (parent, item.name) := by simp [RemoteItem.siblingKey, hparent]
      split
      · next hdup =>
          exact ⟨fun h => by simp at h,
            fun h => absurd (hkey ▸ hdup) (h.2.2.1 item List.mem_cons_self)⟩
      next hfresh =>
      -- the two accepting branches push the same record, with `inside` saying which one ran
      have haccept : ∀ inside : Bool, (kinds.lookup parent).isSome = inside →
          kinds.lookup parent ≠ some .file →
          (indexParents kinds (index.push inside parent item) rest = .ok index' ↔
            (∀ i ∈ item :: rest, ∃ p, i.parentRemoteId = some p ∧ kinds.lookup p ≠ some .file) ∧
            ((item :: rest).map RemoteItem.siblingKey).Nodup ∧
            (∀ i ∈ item :: rest, i.siblingKey ∉ index.siblingNames) ∧
            index' = (item :: rest).foldl (indexItem kinds) index) := by
        intro inside hinside hfolder
        have hitem : indexItem kinds index item = index.push inside parent item := by
          simp only [indexItem, hparent, hinside]
        rw [ih]
        simp only [List.forall_mem_cons, List.map_cons, List.nodup_cons, List.foldl_cons, hitem,
          hkey, List.mem_map, not_exists, not_and]
        simp only [ParentIndex.push, List.mem_cons, not_or]
        constructor
        · rintro ⟨hrest, hnodup, hnames, hidx⟩
          exact ⟨⟨⟨parent, hparent, hfolder⟩, hrest⟩, ⟨fun j hj => (hnames j hj).1, hnodup⟩,
            ⟨hfresh, fun j hj => (hnames j hj).2⟩, hidx⟩
        · rintro ⟨⟨-, hrest⟩, ⟨hhead, hnodup⟩, ⟨-, hnames⟩, hidx⟩
          exact ⟨hrest, hnodup, fun j hj => ⟨hhead j hj, hnames j hj⟩, hidx⟩
      split
      · next hfile =>
          refine ⟨fun h => by simp at h, fun h => ?_⟩
          obtain ⟨p, hp, hfolder⟩ := h.1 item List.mem_cons_self
          rw [hparent, Option.some.injEq] at hp
          exact absurd (hp ▸ hfile) hfolder
      · next hfolder => exact haccept true (by simp [hfolder]) (by simp [hfolder])
      · next hnone => exact haccept false (by simp [hnone]) (by simp [hnone])

theorem childrenByParent_indexItems (kinds : AList fun _ : Text => RemoteItemKind)
    (items : List RemoteItem) (index : ParentIndex) :
    (items.foldl (indexItem kinds) index).childrenByParent =
      groupBy RemoteItem.parentRemoteId index.childrenByParent items := by
  induction items generalizing index with
  | nil => rfl
  | cons item rest ih =>
      rw [List.foldl_cons, ih, groupBy]
      unfold indexItem
      cases item.parentRemoteId <;> rfl

theorem externalParentIds_indexItems (kinds : AList fun _ : Text => RemoteItemKind)
    (items : List RemoteItem) (index : ParentIndex) (hnodup : index.externalParentIds.Nodup) :
    (items.foldl (indexItem kinds) index).externalParentIds.Nodup ∧
      ∀ id, id ∈ (items.foldl (indexItem kinds) index).externalParentIds ↔
        id ∈ index.externalParentIds ∨
          ∃ item ∈ items, item.parentRemoteId = some id ∧ kinds.lookup id = none := by
  induction items generalizing index with
  | nil => simp [hnodup]
  | cons item rest ih =>
      have hpush : (indexItem kinds index item).externalParentIds.Nodup ∧
          ∀ id, id ∈ (indexItem kinds index item).externalParentIds ↔
            id ∈ index.externalParentIds ∨
              (item.parentRemoteId = some id ∧ kinds.lookup id = none) := by
        cases hparent : item.parentRemoteId with
        | none => simp [indexItem, hparent, hnodup]
        | some parent =>
            cases hlookup : kinds.lookup parent with
            | some kind =>
                refine ⟨by simpa [indexItem, hparent, hlookup, ParentIndex.push] using hnodup, ?_⟩
                intro id
                simp only [indexItem, hparent, hlookup, ParentIndex.push, Option.isSome_some, ↓reduceIte]
                refine ⟨Or.inl, ?_⟩
                rintro (h | ⟨hid, hnone⟩)
                · exact h
                · rw [Option.some.injEq] at hid
                  rw [← hid, hlookup] at hnone
                  exact absurd hnone (by simp)
            | none =>
                simp only [indexItem, hparent, hlookup, ParentIndex.push, Option.isSome_none,
                  Bool.false_eq_true, ↓reduceIte]
                refine ⟨hnodup.insert, fun id => ?_⟩
                rw [List.mem_insert_iff, Option.some.injEq]
                constructor
                · rintro (rfl | h)
                  · exact Or.inr ⟨rfl, hlookup⟩
                  · exact Or.inl h
                · rintro (h | ⟨rfl, -⟩)
                  · exact Or.inr h
                  · exact Or.inl rfl
      obtain ⟨hrest, hmem⟩ := ih _ hpush.1
      refine ⟨hrest, fun id => ?_⟩
      rw [List.foldl_cons, hmem, hpush.2]
      simp only [List.mem_cons, exists_eq_or_imp, or_assoc]

/-! ## The walk -/

section Walk

variable {childrenByParent : AList fun _ : Text => List RemoteItem}

/-- A walk that succeeds has drained its queue: it appends the popped pairs, in order, and never
    meets an id twice. -/
theorem walkExpectedPaths_ok {fuel : ℕ} {queue : List (RemoteItem × Text)}
    {acc expected : List RemoteExpectedPath}
    (h : walkExpectedPaths childrenByParent fuel queue acc = .ok expected) :
    ∃ popped, Worklist.drain (childEntries childrenByParent) fuel queue = some popped ∧
      expected = acc ++ popped.map (fun e => e.1.expectedAt e.2) ∧
      ((acc.map RemoteExpectedPath.remoteId).Nodup →
        (expected.map RemoteExpectedPath.remoteId).Nodup) := by
  induction fuel generalizing queue acc with
  | zero =>
      cases queue with
      | nil =>
          obtain rfl : acc = expected := by simpa [walkExpectedPaths] using h
          exact ⟨[], by simp⟩
      | cons entry queue => simp [walkExpectedPaths] at h
  | succ fuel ih =>
      cases queue with
      | nil =>
          obtain rfl : acc = expected := by simpa [walkExpectedPaths] using h
          exact ⟨[], by simp⟩
      | cons entry queue =>
          obtain ⟨item, path⟩ := entry
          simp only [walkExpectedPaths, validateSafeRelativePath] at h
          split at h
          · change (if _ then _ else _) = _ at h
            split at h
            · simp at h
            next hfresh =>
            split at h
            · simp at h
            split at h
            · obtain ⟨popped, hpopped, rfl, hnodup⟩ := ih h
              refine ⟨(item, path) :: popped, ?_, by simp, fun hacc => hnodup ?_⟩
              · rw [Worklist.drain_succ_cons, hpopped]
                rfl
              · rw [List.map_append, List.nodup_append]
                refine ⟨hacc, by simp, ?_⟩
                intro a ha b hb
                simp only [List.map_cons, List.map_nil, List.mem_singleton] at hb
                exact fun hab => hfresh (by rwa [← show b = item.remoteId from hb, ← hab])
            · simp at h
          · exact absurd h (by simp [bind, Except.bind])

/-- A drained queue is walked without an error when ids, paths and path texts are in order. -/
theorem walkExpectedPaths_of_drain (acc : List RemoteExpectedPath) {fuel : ℕ}
    {queue popped : List (RemoteItem × Text)}
    (h : Worklist.drain (childEntries childrenByParent) fuel queue = some popped)
    (hsafe : ∀ e ∈ popped, isSafeRelativePath e.2 = true)
    (hids : (acc.map RemoteExpectedPath.remoteId ++ popped.map (fun e => e.1.remoteId)).Nodup)
    (hpaths : (acc.map RemoteExpectedPath.relativePath ++ popped.map Prod.snd).Nodup) :
    walkExpectedPaths childrenByParent fuel queue acc =
      .ok (acc ++ popped.map fun e => e.1.expectedAt e.2) := by
  induction fuel generalizing queue popped acc with
  | zero =>
      cases queue with
      | nil => obtain rfl : popped = [] := by simpa [eq_comm] using h
               simp [walkExpectedPaths]
      | cons entry queue => simp at h
  | succ fuel ih =>
      cases queue with
      | nil => obtain rfl : popped = [] := by simpa [eq_comm] using h
               simp [walkExpectedPaths]
      | cons entry queue =>
          obtain ⟨item, path⟩ := entry
          have hclosed := Worklist.drain_closed h
          rw [Worklist.drain_succ_cons, Option.map_eq_some_iff] at h
          obtain ⟨rest, hrest, rfl⟩ := h
          have hid : item.remoteId ∉ acc.map RemoteExpectedPath.remoteId := fun hmem =>
            (List.nodup_append.mp hids).2.2 _ hmem _ (by simp) rfl
          have hpath : path ∉ acc.map RemoteExpectedPath.relativePath := fun hmem =>
            (List.nodup_append.mp hpaths).2.2 _ hmem _ (by simp) rfl
          have hchildren : (childEntries childrenByParent (item, path)).all
              (fun child => isSafeRelativePath child.2) = true := by
            rw [List.all_eq_true]
            exact fun child hchild => hsafe child (hclosed.2 _ List.mem_cons_self child hchild)
          have hok : validateSafeRelativePath path = .ok () := by
            simp [validateSafeRelativePath, hsafe (item, path) List.mem_cons_self]
          have hrec := ih (acc ++ [item.expectedAt path]) hrest
            (fun e he => hsafe e (List.mem_cons_of_mem _ he))
            (by simpa [RemoteItem.expectedAt] using hids)
            (by simpa [RemoteItem.expectedAt] using hpaths)
          simp only [walkExpectedPaths, hok, hid, hpath, hchildren, if_true, if_false, hrec]
          simp [bind, Except.bind]

end Walk

/-! ## The pairs below the root form a forest -/

section Forest

variable {items : List RemoteItem} {root : Text}
variable {childrenByParent : AList fun _ : Text => List RemoteItem}

/-- The reverse index of the second loop groups the items by parent. -/
def GroupsByParent (childrenByParent : AList fun _ : Text => List RemoteItem)
    (items : List RemoteItem) : Prop :=
  ∀ parent, bucket childrenByParent parent = items.filter (·.parentRemoteId = some parent)

variable (hgroups : GroupsByParent childrenByParent items)

include hgroups in
theorem mem_sortedChildren (parent : Text) (item : RemoteItem) :
    item ∈ sortedChildren childrenByParent parent ↔
      item ∈ items ∧ item.parentRemoteId = some parent := by
  rw [sortedChildren, List.mem_insertionSort, hgroups parent, List.mem_filter, decide_eq_true_eq]

include hgroups in
theorem nodup_sortedChildren (hnodup : items.Nodup) (parent : Text) :
    (sortedChildren childrenByParent parent).Nodup := by
  rw [sortedChildren, (List.perm_insertionSort _ _).nodup_iff, hgroups parent]
  exact hnodup.filter _

include hgroups in
theorem mem_childEntries (entry child : RemoteItem × Text) :
    child ∈ childEntries childrenByParent entry ↔
      entry.1.kind = .folder ∧ child.1 ∈ items ∧
        child.1.parentRemoteId = some entry.1.remoteId ∧ child.2 = entry.2.child child.1.name := by
  unfold childEntries
  obtain ⟨item, path⟩ := child
  cases entry.1.kind with
  | file => simp
  | folder =>
      simp only [List.mem_map, mem_sortedChildren hgroups, Prod.mk.injEq]
      constructor
      · rintro ⟨c, ⟨hmem, hparent⟩, rfl, rfl⟩
        exact ⟨trivial, hmem, hparent, rfl⟩
      · rintro ⟨-, hmem, hparent, rfl⟩
        exact ⟨item, ⟨hmem, hparent⟩, rfl, rfl⟩

include hgroups in
theorem mem_topLevelEntries (entry : RemoteItem × Text) :
    entry ∈ topLevelEntries childrenByParent root ↔
      entry.1 ∈ items ∧ entry.1.parentRemoteId = some root ∧ entry.2 = entry.1.name := by
  obtain ⟨item, path⟩ := entry
  simp only [topLevelEntries, List.mem_map, mem_sortedChildren hgroups, Prod.mk.injEq]
  constructor
  · rintro ⟨c, ⟨hmem, hparent⟩, rfl, rfl⟩
    exact ⟨hmem, hparent, rfl⟩
  · rintro ⟨hmem, hparent, rfl⟩
    exact ⟨item, ⟨hmem, hparent⟩, rfl, rfl⟩

include hgroups in
/-- The walk reaches an item at a path exactly when the item has that path. -/
theorem reach_iff_pathOf (entry : RemoteItem × Text) :
    Worklist.Reach (childEntries childrenByParent) (topLevelEntries childrenByParent root) entry ↔
      PathOf items root entry.1 entry.2 := by
  constructor
  · rintro ⟨seed, hseed, hreach⟩
    induction hreach with
    | refl =>
        obtain ⟨hmem, hparent, hname⟩ := (mem_topLevelEntries hgroups seed).mp hseed
        exact hname ▸ PathOf.top hmem hparent
    | tail _ hstep ih =>
        obtain ⟨hfolder, hmem, hparent, hpath⟩ := (mem_childEntries hgroups _ _).mp hstep
        exact hpath ▸ PathOf.child ih hfolder hmem hparent
  · obtain ⟨item, path⟩ := entry
    intro h
    change PathOf items root item path at h
    induction h with
    | top hmem hparent =>
        exact Worklist.Reach.of_mem ((mem_topLevelEntries hgroups _).mpr ⟨hmem, hparent, rfl⟩)
    | child _ hfolder hmem hparent ih =>
        exact ih.step ((mem_childEntries hgroups _ _).mpr ⟨hfolder, hmem, hparent, rfl⟩)

include hgroups in
/-- Below the root of a catalog tree no entry has two parents and none leads back to the top. -/
theorem CatalogTree.forest (ht : CatalogTree items root) :
    Worklist.Forest (childEntries childrenByParent) (topLevelEntries childrenByParent root) where
  nodup_seeds :=
    (nodup_sortedChildren hgroups ht.nodup_ids.of_map root).map fun _ _ h => (Prod.mk.inj h).1
  nodup_next entry _ := by
    unfold childEntries
    cases entry.1.kind with
    | file => simp
    | folder =>
        exact (nodup_sortedChildren hgroups ht.nodup_ids.of_map _).map
          fun _ _ h => (Prod.mk.inj h).1
  unique_pred a b ha hb child hchild hchild' := by
    have hpa := (reach_iff_pathOf hgroups a).mp ha
    have hpb := (reach_iff_pathOf hgroups b).mp hb
    obtain ⟨-, -, hparent, -⟩ := (mem_childEntries hgroups _ _).mp hchild
    obtain ⟨-, -, hparent', -⟩ := (mem_childEntries hgroups _ _).mp hchild'
    have hid := Option.some.inj (hparent.symm.trans hparent')
    have hitem := ht.eq_of_remoteId hpa.mem hpb.mem hid
    exact Prod.ext hitem (hpa.path_unique ht (hitem ▸ hpb))
  seed_fresh a ha seed hseed hchild := by
    obtain ⟨-, -, hparent, -⟩ := (mem_childEntries hgroups _ _).mp hchild
    obtain ⟨-, hroot, -⟩ := (mem_topLevelEntries hgroups _).mp hseed
    exact ht.root_external _ ((reach_iff_pathOf hgroups a).mp ha).mem
      (Option.some.inj (hparent.symm.trans hroot))

include hgroups in
/-- On a catalog tree the queue is drained within the walk's fuel, each item popped once at its
    path. -/
theorem CatalogTree.drain (ht : CatalogTree items root) :
    ∃ popped, Worklist.drain (childEntries childrenByParent) (items.length + 1)
        (topLevelEntries childrenByParent root) = some popped ∧
      (∀ entry, entry ∈ popped ↔ PathOf items root entry.1 entry.2) ∧
      (popped.map Prod.fst).Perm items ∧ (popped.map Prod.snd).Nodup := by
  choose! pathAt hpathAt using ht.rooted
  have hnodes : ∀ entry, Worklist.Reach (childEntries childrenByParent)
      (topLevelEntries childrenByParent root) entry →
      entry ∈ items.map fun item => (item, pathAt item) := by
    intro entry hreach
    have hpath := (reach_iff_pathOf hgroups entry).mp hreach
    exact List.mem_map.mpr ⟨entry.1, hpath.mem,
      Prod.ext rfl ((hpathAt _ hpath.mem).path_unique ht hpath)⟩
  obtain ⟨popped, hpopped, hnodup⟩ :=
    Worklist.drain_isSome_of_forest (ht.forest hgroups) hnodes (items.length + 1) (by simp)
  have hmem : ∀ entry, entry ∈ popped ↔ PathOf items root entry.1 entry.2 := fun entry => by
    rw [Worklist.mem_drain_iff hpopped, reach_iff_pathOf hgroups]
  refine ⟨popped, hpopped, hmem, ?_, ?_⟩
  · have hfst : (popped.map Prod.fst).Nodup := by
      refine List.Nodup.map_on ?_ hnodup
      intro a ha b hb hab
      exact Prod.ext hab (((hmem a).mp ha).path_unique ht (hab ▸ (hmem b).mp hb))
    refine (List.perm_ext_iff_of_nodup hfst ht.nodup_ids.of_map).mpr fun item => ?_
    rw [List.mem_map]
    exact ⟨fun ⟨entry, hentry, hitem⟩ => hitem ▸ ((hmem entry).mp hentry).mem,
      fun hitem => ⟨(item, pathAt item), (hmem _).mpr (hpathAt item hitem), rfl⟩⟩
  · refine List.Nodup.map_on ?_ hnodup
    intro a ha b hb hab
    exact Prod.ext (((hmem a).mp ha).item_unique ht ((hmem b).mp hb) hab) hab

end Forest

/-! ## The builder is exact -/

theorem groupsByParent_indexItems (kinds : AList fun _ : Text => RemoteItemKind)
    (items : List RemoteItem) :
    GroupsByParent (items.foldl (indexItem kinds) ⟨[], ∅, []⟩).childrenByParent items := by
  intro parent
  rw [childrenByParent_indexItems, bucket_groupBy, bucket_empty, List.nil_append]

/-- What a successful build returns: the catalog is a tree, and the entries are its items at their
    paths, each id and each path once. -/
structure ExpectedPathsOf (items : List RemoteItem) (root : Text)
    (expected : List RemoteExpectedPath) : Prop where
  tree : CatalogTree items root
  mem_iff : ∀ entry, entry ∈ expected ↔
    ∃ item path, PathOf items root item path ∧ entry = item.expectedAt path
  nodup_ids : (expected.map RemoteExpectedPath.remoteId).Nodup
  nodup_paths : (expected.map RemoteExpectedPath.relativePath).Nodup

theorem CatalogTree.expectedPathsOf {items : List RemoteItem} {root : Text}
    (ht : CatalogTree items root) {popped : List (RemoteItem × Text)}
    (hmem : ∀ entry, entry ∈ popped ↔ PathOf items root entry.1 entry.2)
    (hperm : (popped.map Prod.fst).Perm items) (hpaths : (popped.map Prod.snd).Nodup) :
    ExpectedPathsOf items root (popped.map fun e => e.1.expectedAt e.2) where
  tree := ht
  mem_iff entry := by
    simp only [List.mem_map, Prod.exists, hmem]
    exact ⟨fun ⟨item, path, h, he⟩ => ⟨item, path, h, he.symm⟩,
      fun ⟨item, path, h, he⟩ => ⟨item, path, h, he.symm⟩⟩
  nodup_ids := by
    rw [List.map_map]
    have := (hperm.map RemoteItem.remoteId).nodup_iff.mpr ht.nodup_ids
    rwa [List.map_map] at this
  nodup_paths := by rwa [List.map_map]

/-- **The builder accepts every catalog tree.** -/
theorem CatalogTree.buildRemoteExpectedPaths {items : List RemoteItem} {root : Text}
    (ht : CatalogTree items root) :
    ∃ expected, buildRemoteExpectedPaths items = .ok expected ∧
      ExpectedPathsOf items root expected := by
  have hkinds := (collectKinds_ok_iff items ∅ _).mpr
    ⟨ht.valid, ht.nodup_ids, fun item _ => AList.notMem_empty item.remoteId, rfl⟩
  have hparents := (indexParents_ok_iff (kindMap ∅ items) items ⟨[], ∅, []⟩ _).mpr
    ⟨fun item hitem => ?parent, ht.nodup_siblings, by simp, rfl⟩
  case parent =>
    obtain ⟨parent, hparent⟩ := Option.isSome_iff_exists.mp (ht.valid item hitem).has_parent
    refine ⟨parent, hparent, fun hfile => ?_⟩
    have hfound : (kindMap ∅ items).lookup parent ≠ none := by simp [hfile]
    rw [Ne, lookup_indexBy_eq_none ht.nodup_ids] at hfound
    push Not at hfound
    obtain ⟨folder, hfolder, rfl⟩ := hfound
    rw [lookup_indexBy_of_mem ht.nodup_ids hfolder,
      ht.folder_parent item hitem folder hfolder hparent] at hfile
    exact absurd hfile (by simp)
  have hgroups := groupsByParent_indexItems (kindMap ∅ items) items
  obtain ⟨popped, hpopped, hmem, hperm, hpaths⟩ := ht.drain hgroups
  have hexpected := ht.expectedPathsOf hmem hperm hpaths
  refine ⟨_, ?_, hexpected⟩
  unfold NubiSync.buildRemoteExpectedPaths
  by_cases hempty : items.isEmpty
  · obtain rfl : items = [] := List.isEmpty_iff.mp hempty
    have : popped = [] := by simpa using hperm.eq_nil
    simp [this]
  -- the parents outside the catalog are exactly the root
  have hexternal : (items.foldl (indexItem (kindMap ∅ items)) ⟨[], ∅, []⟩).externalParentIds =
      [root] := by
    obtain ⟨hnodup, hids⟩ :=
      externalParentIds_indexItems (kindMap ∅ items) items ⟨[], ∅, []⟩ (by simp)
    refine List.perm_singleton.mp
      ((List.perm_ext_iff_of_nodup hnodup (List.nodup_singleton root)).mpr fun id => ?_)
    rw [hids, List.mem_singleton, lookup_indexBy_eq_none ht.nodup_ids]
    constructor
    · rintro (h | ⟨item, hitem, hparent, houtside⟩)
      · simp at h
      · obtain ⟨path, hpath⟩ := ht.rooted item hitem
        cases hpath with
        | top _ hroot => exact Option.some.inj (hparent.symm.trans hroot)
        | child hfolder _ _ hinside =>
            exact absurd (Option.some.inj (hinside.symm.trans hparent)) (houtside _ hfolder.mem)
    · rintro rfl
      obtain ⟨item, hitem⟩ := List.exists_mem_of_ne_nil items (by simpa using hempty)
      obtain ⟨path, hpath⟩ := ht.rooted item hitem
      refine Or.inr ?_
      clear hpopped hmem hperm hpaths hexpected
      induction hpath with
      | top hmem hparent => exact ⟨_, hmem, hparent, ht.root_external⟩
      | child hfolder _ _ _ ih => exact ih hfolder.mem
  have hwalk := walkExpectedPaths_of_drain [] hpopped
    (fun e he => ((hmem e).mp he).safe ht)
    (by simpa [List.map_map, Function.comp_def, RemoteItem.expectedAt] using hexpected.nodup_ids)
    (by simpa using hpaths)
  have hlength : (popped.map fun e => e.1.expectedAt e.2).length = items.length := by
    simpa using hperm.length_eq
  simp only [hempty, hkinds, hparents, hexternal, bind, Except.bind, if_false, Bool.false_eq_true]
  rw [hwalk]
  simp [hlength]

/-- As many items were popped as there are, so every item was. -/
theorem popped_perm {items : List RemoteItem} {popped : List (RemoteItem × Text)}
    (hmem : ∀ entry ∈ popped, entry.1 ∈ items)
    (hids : (popped.map fun entry => entry.1.remoteId).Nodup) (hlength : items.length ≤ popped.length) :
    (popped.map Prod.fst).Perm items := by
  have hfst : (popped.map Prod.fst).Nodup :=
    List.Nodup.of_map RemoteItem.remoteId (by rwa [List.map_map])
  refine (List.subperm_of_subset hfst fun item hitem => ?_).perm_of_length_le
    (by rwa [List.length_map])
  obtain ⟨entry, hentry, rfl⟩ := List.mem_map.mp hitem
  exact hmem entry hentry

/-- What the two loops and the test on the external parents establish; only that every item is reached
    is left to the walk. -/
structure CatalogLinks (items : List RemoteItem) (root : Text) : Prop where
  valid : ∀ item ∈ items, ValidRemoteItem item
  nodup_ids : (items.map RemoteItem.remoteId).Nodup
  nodup_siblings : (items.map RemoteItem.siblingKey).Nodup
  folder_parent : ∀ item ∈ items, ∀ parent ∈ items,
    item.parentRemoteId = some parent.remoteId → parent.kind = .folder
  root_external : ∀ item ∈ items, item.remoteId ≠ root

theorem catalogLinks_of_loops {items : List RemoteItem} {root : Text}
    {kinds : AList fun _ : Text => RemoteItemKind} {index : ParentIndex}
    (hkinds : collectKinds ∅ items = .ok kinds)
    (hparents : indexParents kinds ⟨[], ∅, []⟩ items = .ok index)
    (hroot : index.externalParentIds = [root]) :
    CatalogLinks items root ∧ GroupsByParent index.childrenByParent items := by
  obtain ⟨hvalid, hids, -, rfl⟩ := (collectKinds_ok_iff items ∅ kinds).mp hkinds
  obtain ⟨hfolders, hsiblings, -, rfl⟩ := (indexParents_ok_iff _ items _ index).mp hparents
  have hexternal := externalParentIds_indexItems (kindMap ∅ items) items ⟨[], ∅, []⟩ (by simp)
  refine ⟨⟨hvalid, hids, hsiblings, ?_, ?_⟩, groupsByParent_indexItems _ items⟩
  · intro item hitem parent hparent hid
    obtain ⟨id, hsome, hfile⟩ := hfolders item hitem
    obtain rfl := Option.some.inj (hsome.symm.trans hid)
    rw [lookup_indexBy_of_mem hids hparent] at hfile
    cases hkind : parent.kind with
    | file => exact absurd (congrArg some hkind) hfile
    | folder => rfl
  · have hmem_root : root ∈ (items.foldl (indexItem (kindMap ∅ items))
        ⟨[], ∅, []⟩).externalParentIds := by simp [hroot]
    rcases (hexternal.2 root).mp hmem_root with hnil | ⟨_, _, _, hnone⟩
    · exact absurd hnil (by simp)
    · exact (lookup_indexBy_eq_none hids root).mp hnone

/-- A build that succeeds has drained the queue of the root, over a catalog that is a tree. -/
structure DrainedBuild (items : List RemoteItem) (root : Text)
    (childrenByParent : AList fun _ : Text => List RemoteItem) (popped : List (RemoteItem × Text)) :
    Prop where
  tree : CatalogTree items root
  groups : GroupsByParent childrenByParent items
  drained : Worklist.drain (childEntries childrenByParent) (items.length + 1)
    (topLevelEntries childrenByParent root) = some popped
  perm : (popped.map Prod.fst).Perm items

theorem buildRemoteExpectedPaths_drained {items : List RemoteItem}
    {expected : List RemoteExpectedPath} (hne : items ≠ [])
    (h : buildRemoteExpectedPaths items = .ok expected) :
    ∃ root children popped, DrainedBuild items root children popped ∧
      expected = popped.map fun e => e.1.expectedAt e.2 := by
  unfold buildRemoteExpectedPaths at h
  rw [if_neg (by simpa using hne)] at h
  -- peel the loops off one by one, reading each success back as its conditions
  cases hkinds : collectKinds ∅ items with
  | error e => rw [hkinds] at h; exact absurd h (by simp [bind, Except.bind])
  | ok kinds =>
  cases hparents : indexParents kinds ⟨[], ∅, []⟩ items with
  | error e => rw [hkinds] at h; simp [hparents, bind, Except.bind] at h
  | ok index =>
  simp only [hkinds, hparents, bind, Except.bind] at h
  split at h
  · next root hroot =>
      obtain ⟨hlinks, hgroups⟩ := catalogLinks_of_loops hkinds hparents hroot
      split at h
      · simp at h
      next walked hwalk =>
      split at h
      · next hlength =>
          obtain rfl : walked = expected := by simpa using h
          obtain ⟨popped, hpopped, rfl, hnodup⟩ := walkExpectedPaths_ok hwalk
          have hmem : ∀ entry ∈ popped, PathOf items root entry.1 entry.2 := fun entry hentry =>
            (reach_iff_pathOf hgroups entry).mp ((Worklist.mem_drain_iff hpopped entry).mp hentry)
          have hnodup_ids : (popped.map fun e => e.1.remoteId).Nodup := by
            simpa [Function.comp_def, RemoteItem.expectedAt] using hnodup (by simp)
          have hperm := popped_perm (fun entry hentry => (hmem entry hentry).mem) hnodup_ids
            (by simpa using hlength.ge)
          have hrooted : ∀ item ∈ items, ∃ path, PathOf items root item path := by
            intro item hitem
            obtain ⟨entry, hentry, rfl⟩ := List.mem_map.mp (hperm.mem_iff.mpr hitem)
            exact ⟨entry.2, hmem entry hentry⟩
          exact ⟨root, _, popped, ⟨{ hlinks with rooted := hrooted }, hgroups, hpopped, hperm⟩,
            by simp⟩
      · simp at h
  · simp at h

theorem DrainedBuild.mem_iff {items : List RemoteItem} {root : Text}
    {childrenByParent : AList fun _ : Text => List RemoteItem} {popped : List (RemoteItem × Text)}
    (h : DrainedBuild items root childrenByParent popped) (entry : RemoteItem × Text) :
    entry ∈ popped ↔ PathOf items root entry.1 entry.2 := by
  rw [Worklist.mem_drain_iff h.drained, reach_iff_pathOf h.groups]

/-- **The builder accepts only catalog trees**, and returns every item at its path. -/
theorem buildRemoteExpectedPaths_sound {items : List RemoteItem}
    {expected : List RemoteExpectedPath} (h : buildRemoteExpectedPaths items = .ok expected) :
    ∃ root, ExpectedPathsOf items root expected := by
  by_cases hempty : items = []
  · subst hempty
    obtain rfl : expected = [] := by simpa [buildRemoteExpectedPaths, eq_comm] using h
    refine ⟨[], ⟨by simp, by simp, by simp, by simp, by simp, by simp⟩, fun entry => ?_,
      by simp, by simp⟩
    simp only [List.not_mem_nil, false_iff, not_exists, not_and]
    exact fun item path hpath => absurd hpath.mem (by simp)
  obtain ⟨root, children, popped, hdrained, rfl⟩ := buildRemoteExpectedPaths_drained hempty h
  have ht := hdrained.tree
  have hpath : ∀ entry ∈ popped, PathOf items root entry.1 entry.2 := fun entry hentry =>
    (hdrained.mem_iff entry).mp hentry
  refine ⟨root, ht.expectedPathsOf hdrained.mem_iff hdrained.perm (List.Nodup.map_on ?_ ?_)⟩
  · intro a ha b hb hab
    exact Prod.ext ((hpath a ha).item_unique ht (hpath b hb) hab) hab
  · exact List.Nodup.of_map Prod.fst (hdrained.perm.nodup_iff.mpr ht.nodup_ids.of_map)

/-- **The builder is exact.** It succeeds on the catalog trees and on nothing else. -/
theorem buildRemoteExpectedPaths_isOk_iff (items : List RemoteItem) :
    (∃ expected, buildRemoteExpectedPaths items = .ok expected) ↔
      ∃ root, CatalogTree items root := by
  constructor
  · rintro ⟨expected, h⟩
    obtain ⟨root, hspec⟩ := buildRemoteExpectedPaths_sound h
    exact ⟨root, hspec.tree⟩
  · rintro ⟨root, ht⟩
    obtain ⟨expected, h, -⟩ := ht.buildRemoteExpectedPaths
    exact ⟨expected, h⟩

end NubiSync
