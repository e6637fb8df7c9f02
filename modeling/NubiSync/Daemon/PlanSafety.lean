import NubiSync.Library.Indexing
import NubiSync.Daemon.RemoteWritePlan

set_option autoImplicit false

/-! # What a planned remote write rests on

The entry of an event is `Ready` or `NeedsPredeterminedRemoteId` only over a whole chain of facts: the
receipts own the path and every directory above it, each owned item is live in the catalog under the
name of its path and under the folder above it, up to the root, and the observed authority grants the
write. `OwnedDirectory` and `OwnedParent` are that chain, said without the lookups of the planner;
`deriveEntries_safe` assembles it for the whole plan. -/

namespace NubiSync

open Checks

/-! ## Paths by their components -/

@[simp] theorem pathOfReversed_components (path : Text) :
    pathOfReversed path.components.reverse = path := by
  rw [pathOfReversed, List.reverse_reverse]
  exact List.intercalate_splitOn '/'

@[simp] theorem reverse_components_child {parent name : Text} (hname : '/' ∉ name) :
    (parent.child name).components.reverse = name :: parent.components.reverse := by
  rw [Text.components_child parent name hname, List.reverse_append, List.reverse_singleton,
    List.singleton_append]

theorem reverse_components_ne_nil (path : Text) : path.components.reverse ≠ [] :=
  mt List.reverse_eq_nil_iff.mp (Text.components_ne_nil path)

theorem pathsAbove_child {parent name : Text} (hname : '/' ∉ name) :
    pathsAbove (parent.child name).components.reverse
      = parent :: pathsAbove parent.components.reverse := by
  rw [reverse_components_child hname]
  cases h : parent.components.reverse with
  | nil => exact absurd h (reverse_components_ne_nil parent)
  | cons last rest => rw [pathsAbove, ← h, pathOfReversed_components]

/-- The paths above a path are those it lies below. -/
theorem mem_pathsAbove {above path : Text} :
    above ∈ pathsAbove path.components.reverse ↔ above.IsBelow path := by
  induction path using Text.path_induction with
  | top name hname =>
      rw [Text.components_of_slash_free name hname]
      simpa [pathsAbove] using Text.not_isBelow_of_slash_free hname
  | below parent name hname ih =>
      rw [pathsAbove_child hname, List.mem_cons, ih, Text.isBelow_child hname]

theorem hasDeletedAncestor_iff {path : Text} {deletedPaths : List Text} :
    hasDeletedAncestor path deletedPaths = true ↔ ∃ above ∈ deletedPaths, above.IsBelow path := by
  simp [hasDeletedAncestor, mem_pathsAbove, and_comm]

namespace RemoteWritePlanInputs

variable (inputs : RemoteWritePlanInputs)

/-! ## Ownership along a path -/

/-- A receipt for an item of a kind gives a path to a remote id. -/
def Receipted (path : Text) (remoteId : Text) : LocalItemKind → Prop
  | .file => ∃ receipt ∈ inputs.fileReceipts,
      receipt.relativePath = path ∧ receipt.remoteId = remoteId
  | .directory => ∃ receipt ∈ inputs.directoryReceipts,
      receipt.relativePath = path ∧ receipt.remoteId = remoteId

/-- A path is owned by an item: by a receipt of the kind, for an item that is live in the catalog, of
    that kind, named like the last component of the path and linked to a given parent. -/
structure Owned (path : Text) (kind : LocalItemKind) (parent : Text) (item : RemoteItem) : Prop where
  receipted : inputs.Receipted path item.remoteId kind
  catalogued : item ∈ inputs.remoteItems
  kind_eq : item.kind = remoteKindOf kind
  live : item.trashed = false
  named : item.name = path.basename
  linked : item.parentRemoteId = some parent

/-- A directory is owned by a folder, and so is every directory above it, by the folder's parent and so
    on up to the root. -/
inductive OwnedDirectory : Text → RemoteItem → Prop where
  | top {name : Text} {item : RemoteItem} (hname : '/' ∉ name)
      (howned : inputs.Owned name .directory inputs.remoteRootId item) : OwnedDirectory name item
  | child {parent name : Text} {folder item : RemoteItem} (hname : '/' ∉ name)
      (hparent : OwnedDirectory parent folder)
      (howned : inputs.Owned (parent.child name) .directory folder.remoteId item) :
      OwnedDirectory (parent.child name) item

/-- The remote folder a path is in: the root, or the owner of the directory above it. -/
inductive OwnedParent : Text → Text → Prop where
  | root {name : Text} (hname : '/' ∉ name) : OwnedParent name inputs.remoteRootId
  | folder {parent name : Text} {folder : RemoteItem} (hname : '/' ∉ name)
      (hparent : inputs.OwnedDirectory parent folder) :
      OwnedParent (parent.child name) folder.remoteId

/-! ## The lookups -/

/-- The keys of the lookups are distinct: what `derive_selected_root_remote_write_plan_entries` checks
    before it looks at an event. -/
structure DistinctKeys : Prop where
  items : (inputs.remoteItems.map RemoteItem.remoteId).Nodup
  authorities : (inputs.authorities.map RemoteWriteAuthoritySnapshot.remoteId).Nodup
  paths : (inputs.ownership.map Prod.fst).Nodup

variable {inputs : RemoteWritePlanInputs}

theorem mem_ownership_iff {path remoteId : Text} {kind : LocalItemKind} :
    (path, remoteId, kind) ∈ inputs.ownership ↔ inputs.Receipted path remoteId kind := by
  cases kind <;> simp [ownership, Receipted]

theorem DistinctKeys.ownerOf_eq_some_iff (hkeys : inputs.DistinctKeys) {path remoteId : Text}
    {kind : LocalItemKind} :
    inputs.ownerOf path = some (remoteId, kind) ↔ inputs.Receipted path remoteId kind := by
  rw [← mem_ownership_iff]
  exact Indexing.lookup_eq_some_iff_mem hkeys.paths path (remoteId, kind)

theorem DistinctKeys.remoteById_eq_some_iff (hkeys : inputs.DistinctKeys) {remoteId : Text}
    {item : RemoteItem} :
    inputs.remoteById remoteId = some item ↔ item ∈ inputs.remoteItems ∧ item.remoteId = remoteId := by
  constructor
  · intro h
    exact ⟨List.mem_of_find?_eq_some h, by simpa using List.find?_some h⟩
  · intro ⟨hitem, hid⟩
    subst hid
    simpa [remoteById, beq_eq_decide] using Indexing.find?_key_of_mem hkeys.items hitem

theorem DistinctKeys.authorityById_eq_some_iff (hkeys : inputs.DistinctKeys) {remoteId : Text}
    {authority : RemoteWriteAuthoritySnapshot} :
    inputs.authorityById remoteId = some authority ↔
      authority ∈ inputs.authorities ∧ authority.remoteId = remoteId := by
  constructor
  · intro h
    exact ⟨List.mem_of_find?_eq_some h, by simpa using List.find?_some h⟩
  · intro ⟨hauthority, hid⟩
    subst hid
    simpa [authorityById, beq_eq_decide] using Indexing.find?_key_of_mem hkeys.authorities hauthority

/-! ## The chain the planner resolves -/

theorem guard_eq_some {p : Prop} [Decidable p] {u : Unit} : (guard p : Option Unit) = some u ↔ p := by
  by_cases hp : p <;> simp [guard, hp]

theorem resolveOwnedParent_of_slash_free {name : Text} (hname : '/' ∉ name) :
    inputs.resolveOwnedParentRemoteId name = some inputs.remoteRootId := by
  simp [resolveOwnedParentRemoteId, Text.components_of_slash_free name hname]

theorem resolveOwnedParent_child {parent name : Text} (hname : '/' ∉ name) :
    inputs.resolveOwnedParentRemoteId (parent.child name)
      = inputs.resolveOwnedDirectoryRemoteId parent.components.reverse := by
  rw [resolveOwnedParentRemoteId, reverse_components_child hname, List.tail_cons]
  split
  · next h => exact absurd h (reverse_components_ne_nil parent)
  · rfl

/-- What the planner finds at a path: an owned item in the folder the path is in. -/
theorem DistinctKeys.ownedItem_eq_some_iff (hkeys : inputs.DistinctKeys) {path parent : Text}
    {kind : LocalItemKind} {item : RemoteItem} :
    inputs.ownedItem path kind = some (item, parent) ↔
      inputs.Owned path kind parent item ∧ inputs.resolveOwnedParentRemoteId path = some parent := by
  unfold ownedItem
  simp only [Option.bind_eq_bind, Option.bind_eq_some_iff, guard_eq_some, exists_const]
  constructor
  · intro ⟨⟨remoteId, receiptKind⟩, howner, hreceipt, remote, hremote, ⟨hkind, hlive, hnamed⟩,
      parent', hparent, hlinked, hresult⟩
    obtain ⟨rfl, rfl⟩ := Prod.mk.inj (Option.some.inj hresult)
    subst hreceipt
    obtain ⟨hmem, rfl⟩ := hkeys.remoteById_eq_some_iff.mp hremote
    exact ⟨⟨hkeys.ownerOf_eq_some_iff.mp howner, hmem, hkind, hlive, hnamed, hlinked⟩, hparent⟩
  · intro ⟨h, hparent⟩
    exact ⟨(item.remoteId, kind), hkeys.ownerOf_eq_some_iff.mpr h.receipted, rfl, item,
      hkeys.remoteById_eq_some_iff.mpr ⟨h.catalogued, rfl⟩, ⟨h.kind_eq, h.live, h.named⟩, parent,
      hparent, h.linked, rfl⟩

/-- Resolving a directory, by its path. -/
theorem resolveOwnedDirectory_eq (path : Text) :
    inputs.resolveOwnedDirectoryRemoteId path.components.reverse = (do
      let (remoteId, kind) ← inputs.ownerOf path
      guard (kind = .directory)
      let remote ← inputs.remoteById remoteId
      guard (remote.kind = .folder ∧ remote.trashed = false ∧ remote.name = path.basename)
      let expectedParent ← inputs.resolveOwnedParentRemoteId path
      guard (remote.parentRemoteId = some expectedParent)
      some remoteId) := by
  have hpath := pathOfReversed_components path
  have hbasename : path.basename = path.components.reverse.headD [] := by
    rw [Text.basename, List.headD_eq_head?_getD, List.head?_reverse, List.getLastD_eq_getLast?]
  rw [resolveOwnedParentRemoteId, hbasename]
  cases hcomponents : path.components.reverse with
  | nil => exact absurd hcomponents (reverse_components_ne_nil path)
  | cons name rest =>
      rw [hcomponents] at hpath
      rw [resolveOwnedDirectoryRemoteId, hpath]
      cases rest <;> rfl

/-- Resolving a directory makes the checks of an owned item. -/
theorem DistinctKeys.resolveOwnedDirectory_eq_some_iff (hkeys : inputs.DistinctKeys)
    {path id : Text} :
    inputs.resolveOwnedDirectoryRemoteId path.components.reverse = some id ↔
      ∃ item parent, inputs.Owned path .directory parent item ∧
        inputs.resolveOwnedParentRemoteId path = some parent ∧ item.remoteId = id := by
  rw [resolveOwnedDirectory_eq]
  simp only [Option.bind_eq_bind, Option.bind_eq_some_iff, guard_eq_some, exists_const]
  constructor
  · intro ⟨⟨remoteId, kind⟩, howner, hkind, item, hitem, ⟨hfolder, hlive, hnamed⟩, parent, hparent,
      hlinked, hid⟩
    obtain ⟨hmem, rfl⟩ := hkeys.remoteById_eq_some_iff.mp hitem
    obtain rfl : kind = .directory := hkind
    exact ⟨item, parent,
      ⟨hkeys.ownerOf_eq_some_iff.mp howner, hmem, hfolder, hlive, hnamed, hlinked⟩, hparent,
      Option.some.inj hid⟩
  · intro ⟨item, parent, h, hparent, hid⟩
    exact ⟨(item.remoteId, .directory), hkeys.ownerOf_eq_some_iff.mpr h.receipted, rfl, item,
      hkeys.remoteById_eq_some_iff.mpr ⟨h.catalogued, rfl⟩, ⟨h.kind_eq, h.live, h.named⟩, parent,
      hparent, h.linked, congrArg some hid⟩

/-- **The recursion of the planner**: a directory resolves exactly when it is owned all the way up. -/
theorem DistinctKeys.resolveOwnedDirectory_iff (hkeys : inputs.DistinctKeys) {path id : Text} :
    inputs.resolveOwnedDirectoryRemoteId path.components.reverse = some id ↔
      ∃ item, inputs.OwnedDirectory path item ∧ item.remoteId = id := by
  induction path using Text.path_induction generalizing id with
  -- a path without a slash has the root for its parent
  | top name hname =>
      rw [hkeys.resolveOwnedDirectory_eq_some_iff, resolveOwnedParent_of_slash_free hname]
      constructor
      · rintro ⟨item, parent, howned, hparent, hid⟩
        obtain rfl := Option.some.inj hparent
        exact ⟨item, .top hname howned, hid⟩
      · rintro ⟨item, howned, hid⟩
        cases howned with
        | top _ howned => exact ⟨item, _, howned, rfl, hid⟩
        | child _ _ _ => exact absurd (by simp [Text.child]) hname
  | below parent name hname ih =>
      rw [hkeys.resolveOwnedDirectory_eq_some_iff, resolveOwnedParent_child hname]
      constructor
      · rintro ⟨item, folderId, howned, hparent, hid⟩
        obtain ⟨folder, hfolder, rfl⟩ := ih.mp hparent
        exact ⟨item, .child hname hfolder howned, hid⟩
      · rintro ⟨item, howned, hid⟩
        generalize hpath : parent.child name = path at howned
        cases howned with
        | top htop _ => exact absurd (by simp [← hpath, Text.child]) htop
        | child hname' hfolder howned =>
            obtain ⟨rfl, rfl⟩ := Text.child_inj hname hname' hpath
            exact ⟨item, _, howned, ih.mpr ⟨_, hfolder, rfl⟩, hid⟩

theorem DistinctKeys.resolveOwnedParent_iff (hkeys : inputs.DistinctKeys) {path id : Text} :
    inputs.resolveOwnedParentRemoteId path = some id ↔ inputs.OwnedParent path id := by
  constructor
  · intro h
    by_cases hslash : '/' ∈ path
    · obtain ⟨parent, name, rfl, hname⟩ := Text.exists_child_of_slash hslash
      rw [resolveOwnedParent_child hname] at h
      obtain ⟨folder, hfolder, rfl⟩ := hkeys.resolveOwnedDirectory_iff.mp h
      exact .folder hname hfolder
    · rw [resolveOwnedParent_of_slash_free hslash] at h
      obtain rfl := Option.some.inj h
      exact .root hslash
  · intro h
    cases h with
    | root hname => exact resolveOwnedParent_of_slash_free hname
    | folder hname hfolder =>
        rw [resolveOwnedParent_child hname]
        exact hkeys.resolveOwnedDirectory_iff.mpr ⟨_, hfolder, rfl⟩

/-! ## The entries -/

/-- A modified file, or a deleted item of a kind. -/
def ChangesItem (event : LocalChangeEventRow) (kind : LocalItemKind) : Prop :=
  (event.eventKind = .modified ∧ event.currentKind = some .file ∧ kind = .file) ∨
    (event.eventKind = .deleted ∧ event.baselineKind = some kind)

variable (inputs) in
/-- What a `Ready` entry rests on: the event changes an owned item of its kind, in a parent that is
    owned up to the root, and the authority on the item grants the change. -/
structure Changeable (event : LocalChangeEventRow) (kind : LocalItemKind) (parent : Text)
    (item : RemoteItem) (authority : RemoteWriteAuthoritySnapshot) : Prop where
  changes : ChangesItem event kind
  identified : (inputs.identitySnapshot event).isSome = true
  topmost : event.eventKind = .deleted →
    ∀ above ∈ inputs.deletedPaths, ¬ above.IsBelow event.relativePath
  owned : inputs.Owned event.relativePath kind parent item
  parent_owned : inputs.OwnedParent event.relativePath parent
  authority_mem : authority ∈ inputs.authorities
  authority_id : authority.remoteId = item.remoteId
  edits : event.eventKind = .modified → authority.canEdit = true
  trashes : event.eventKind = .deleted → authority.canTrash = true

variable (inputs) in
/-- What a `NeedsPredeterminedRemoteId` entry rests on: a creation in a parent that is owned up to the
    root and takes children. -/
structure Creatable (event : LocalChangeEventRow) (parent : Text)
    (authority : RemoteWriteAuthoritySnapshot) : Prop where
  creates : event.eventKind = .created
  parent_owned : inputs.OwnedParent event.relativePath parent
  authority_mem : authority ∈ inputs.authorities
  authority_id : authority.remoteId = parent
  adds : authority.canAddChildren = true

/-- The entry of a change that nothing stands against. -/
theorem DistinctKeys.existingEntry_eq (hkeys : inputs.DistinctKeys) {event : LocalChangeEventRow}
    {kind : LocalItemKind} {parent : Text} {item : RemoteItem}
    {authority : RemoteWriteAuthoritySnapshot} (entry : SelectedRootRemoteWritePlanEntry)
    (howned : inputs.Owned event.relativePath kind parent item)
    (hparent : inputs.OwnedParent event.relativePath parent)
    (hmem : authority ∈ inputs.authorities) (hid : authority.remoteId = item.remoteId)
    (hgranted : hasCapability event.eventKind authority = true) :
    inputs.existingEntry event kind entry =
      { entry with
        targetRemoteId := some item.remoteId
        expectedParentRemoteId := some parent
        expectedRemoteKind := some (remoteKindOf kind)
        expectedRemoteVersion := some authority.remoteVersion
        expectedRemoteSizeBytes := item.sizeBytes
        expectedChecksumAlgorithm := authority.checksumAlgorithm
        expectedContentChecksum := authority.contentChecksum
        disposition := .ready } := by
  have hitem := hkeys.ownedItem_eq_some_iff.mpr ⟨howned, hkeys.resolveOwnedParent_iff.mpr hparent⟩
  have hauthority := hkeys.authorityById_eq_some_iff.mpr ⟨hmem, hid⟩
  have hfound : (inputs.authorityById item.remoteId).filter (hasCapability event.eventKind)
      = some authority := Option.filter_eq_some_iff.mpr ⟨hauthority, hgranted⟩
  simp only [existingEntry, hitem, hfound]

/-- A change is `Ready` only over an owned item and a granting authority. -/
theorem DistinctKeys.existingEntry_ready (hkeys : inputs.DistinctKeys) {event : LocalChangeEventRow}
    {kind : LocalItemKind} {entry : SelectedRootRemoteWritePlanEntry}
    (h : (inputs.existingEntry event kind entry).disposition = .ready) :
    ∃ parent item authority, inputs.Owned event.relativePath kind parent item ∧
      inputs.OwnedParent event.relativePath parent ∧ authority ∈ inputs.authorities ∧
      authority.remoteId = item.remoteId ∧ hasCapability event.eventKind authority = true := by
  unfold existingEntry at h
  split at h
  · exact absurd h (by simp)
  next item parent hitem =>
    obtain ⟨howned, hparent⟩ := hkeys.ownedItem_eq_some_iff.mp hitem
    split at h
    · exact absurd h (by simp)
    next authority hauthority =>
      obtain ⟨hfound, hgranted⟩ := Option.filter_eq_some_iff.mp hauthority
      obtain ⟨hmem, hid⟩ := hkeys.authorityById_eq_some_iff.mp hfound
      exact ⟨parent, item, authority, howned, hkeys.resolveOwnedParent_iff.mp hparent, hmem, hid,
        hgranted⟩

theorem existingEntry_not_needsId (event : LocalChangeEventRow) (kind : LocalItemKind)
    (entry : SelectedRootRemoteWritePlanEntry) :
    (inputs.existingEntry event kind entry).disposition ≠ .needsPredeterminedRemoteId := by
  unfold existingEntry
  split
  · simp
  · split <;> simp

/-- A creation is never `Ready`, and waits for its id only in an owned parent that takes children. -/
theorem DistinctKeys.createdEntry_disposition (hkeys : inputs.DistinctKeys)
    (event : LocalChangeEventRow) (snapshot : LocalItemSnapshot)
    (entry : SelectedRootRemoteWritePlanEntry) :
    (inputs.createdEntry event snapshot entry).disposition ≠ .ready ∧
      ((inputs.createdEntry event snapshot entry).disposition = .needsPredeterminedRemoteId →
        ∃ parent authority, inputs.OwnedParent event.relativePath parent ∧
          authority ∈ inputs.authorities ∧ authority.remoteId = parent ∧
          authority.canAddChildren = true ∧
          (inputs.createdEntry event snapshot entry).expectedParentRemoteId = some parent) := by
  unfold createdEntry
  split
  · simp
  next parent hparent =>
    by_cases hadds : (inputs.authorityById parent).any (·.canAddChildren) = true
    · rw [if_pos hadds]
      obtain ⟨authority, hauthority, hcan⟩ := (Option.any_eq_true _ _).mp hadds
      obtain ⟨hmem, hid⟩ := hkeys.authorityById_eq_some_iff.mp hauthority
      exact ⟨by simp, fun _ => ⟨parent, authority, hkeys.resolveOwnedParent_iff.mp hparent, hmem, hid,
        hcan, rfl⟩⟩
    · rw [if_neg hadds]
      simp

/-- The fields of an entry that tell its event, which only the starting entry sets. -/
structure TellsEvent (event : LocalChangeEventRow) (entry : SelectedRootRemoteWritePlanEntry) :
    Prop where
  id_eq : entry.sourceLocalEventId = event.id
  path_eq : entry.relativePath = event.relativePath
  operation_eq : entry.operation = planOperation event

theorem TellsEvent.existingEntry {event : LocalChangeEventRow}
    {entry : SelectedRootRemoteWritePlanEntry} (h : TellsEvent event entry) (kind : LocalItemKind) :
    TellsEvent event (inputs.existingEntry event kind entry) := by
  unfold RemoteWritePlanInputs.existingEntry
  split
  · exact ⟨h.id_eq, h.path_eq, h.operation_eq⟩
  · split <;> exact ⟨h.id_eq, h.path_eq, h.operation_eq⟩

theorem TellsEvent.createdEntry {event : LocalChangeEventRow}
    {entry : SelectedRootRemoteWritePlanEntry} (h : TellsEvent event entry)
    (snapshot : LocalItemSnapshot) :
    TellsEvent event (inputs.createdEntry event snapshot entry) := by
  unfold RemoteWritePlanInputs.createdEntry
  split
  · exact ⟨h.id_eq, h.path_eq, h.operation_eq⟩
  · dsimp only
    split <;> exact ⟨h.id_eq, h.path_eq, h.operation_eq⟩

/-- What becomes of the entry that an event starts with. -/
inductive EntryPlanned (inputs : RemoteWritePlanInputs) (event : LocalChangeEventRow)
    (start : SelectedRootRemoteWritePlanEntry) : SelectedRootRemoteWritePlanEntry → Prop where
  | refused (disposition : SelectedRootRemoteWritePlanDisposition)
      (hrefused : disposition = .blockedIdentity ∨ disposition = .conflict) :
      EntryPlanned inputs event start { start with disposition := disposition }
  | created (snapshot : LocalItemSnapshot) (hkind : event.eventKind = .created) :
      EntryPlanned inputs event start (inputs.createdEntry event snapshot start)
  | modified (hkind : event.eventKind = .modified) (hfile : event.currentKind = some .file)
      (hidentified : (inputs.identitySnapshot event).isSome = true) :
      EntryPlanned inputs event start (inputs.existingEntry event .file start)
  | deleted (kind : LocalItemKind) (hkind : event.eventKind = .deleted)
      (hbaseline : event.baselineKind = some kind)
      (hidentified : (inputs.identitySnapshot event).isSome = true)
      (htopmost : hasDeletedAncestor event.relativePath inputs.deletedPaths ≠ true) :
      EntryPlanned inputs event start (inputs.existingEntry event kind start)

theorem entryPlanned (inputs : RemoteWritePlanInputs) (event : LocalChangeEventRow) :
    EntryPlanned inputs event (planEntryFromSnapshot event (planOperation event)
      (inputs.identitySnapshot event)) (inputs.planEntry event) := by
  unfold planEntry
  dsimp only
  split
  · exact .refused _ (Or.inr rfl)
  next hplain =>
  split
  · exact .refused _ (Or.inl rfl)
  next snapshot hsnapshot =>
  have hidentified : (inputs.identitySnapshot event).isSome = true := by rw [hsnapshot]; rfl
  split
  · exact .refused _ (Or.inl rfl)
  next htopmost =>
  cases hkind : event.eventKind with
  | created => exact .created snapshot hkind
  | typeChanged => exact absurd (Or.inl hkind) hplain
  | modified =>
      simp only [if_true]
      split
      · exact .refused _ (Or.inl rfl)
      next kind hcurrent =>
      cases kind with
      | file => exact .modified hkind hcurrent hidentified
      | directory => exact absurd (Or.inr ⟨hkind, hcurrent⟩) hplain
  | deleted =>
      simp only [reduceCtorEq, if_false]
      split
      · exact .refused _ (Or.inl rfl)
      next kind hbaseline =>
      exact .deleted kind hkind hbaseline hidentified fun habove => htopmost ⟨hkind, habove⟩

theorem planEntry_tellsEvent (event : LocalChangeEventRow) :
    TellsEvent event (inputs.planEntry event) := by
  have hstart : TellsEvent event (planEntryFromSnapshot event (planOperation event)
      (inputs.identitySnapshot event)) := ⟨rfl, rfl, rfl⟩
  generalize hentry : inputs.planEntry event = entry
  cases hentry ▸ entryPlanned inputs event with
  | refused disposition => exact ⟨rfl, rfl, rfl⟩
  | created snapshot => exact hstart.createdEntry snapshot
  | modified => exact hstart.existingEntry _
  | deleted kind => exact hstart.existingEntry kind

theorem DistinctKeys.planEntry_ready (hkeys : inputs.DistinctKeys) {event : LocalChangeEventRow}
    (h : (inputs.planEntry event).disposition = .ready) :
    ∃ kind parent item authority, inputs.Changeable event kind parent item authority := by
  generalize hentry : inputs.planEntry event = entry at h
  cases hentry ▸ entryPlanned inputs event with
  | refused disposition hrefused =>
      rcases hrefused with rfl | rfl
      · cases h
      · cases h
  | created snapshot => exact absurd h (hkeys.createdEntry_disposition _ _ _).1
  | modified hkind hfile hidentified =>
      obtain ⟨parent, item, authority, howned, hparent, hmem, hid, hgranted⟩ :=
        hkeys.existingEntry_ready h
      rw [hkind] at hgranted
      exact ⟨.file, parent, item, authority,
        { changes := Or.inl ⟨hkind, hfile, rfl⟩
          identified := hidentified
          topmost := fun hdeleted => (nomatch hkind.symm.trans hdeleted)
          owned := howned
          parent_owned := hparent
          authority_mem := hmem
          authority_id := hid
          edits := fun _ => hgranted
          trashes := fun hdeleted => (nomatch hkind.symm.trans hdeleted) }⟩
  | deleted kind hkind hbaseline hidentified htopmost =>
      obtain ⟨parent, item, authority, howned, hparent, hmem, hid, hgranted⟩ :=
        hkeys.existingEntry_ready h
      rw [hkind] at hgranted
      exact ⟨kind, parent, item, authority,
        { changes := Or.inr ⟨hkind, hbaseline⟩
          identified := hidentified
          topmost := fun _ above habove hbelow =>
            htopmost (hasDeletedAncestor_iff.mpr ⟨above, habove, hbelow⟩)
          owned := howned
          parent_owned := hparent
          authority_mem := hmem
          authority_id := hid
          edits := fun hmodified => (nomatch hkind.symm.trans hmodified)
          trashes := fun _ => hgranted }⟩

theorem Changeable.granted {event : LocalChangeEventRow} {kind : LocalItemKind} {parent : Text}
    {item : RemoteItem} {authority : RemoteWriteAuthoritySnapshot}
    (h : inputs.Changeable event kind parent item authority) :
    hasCapability event.eventKind authority = true := by
  rcases h.changes with ⟨hkind, -, -⟩ | ⟨hkind, -⟩
  · rw [hkind]
    exact h.edits hkind
  · rw [hkind]
    exact h.trashes hkind

theorem Changeable.baseline_of_deleted {event : LocalChangeEventRow} {kind : LocalItemKind}
    {parent : Text} {item : RemoteItem} {authority : RemoteWriteAuthoritySnapshot}
    (h : inputs.Changeable event kind parent item authority) (hdeleted : event.eventKind = .deleted) :
    event.baselineKind = some kind := by
  rcases h.changes with ⟨hkind, -, -⟩ | ⟨-, hbaseline⟩
  · exact absurd (hkind.symm.trans hdeleted) (by simp)
  · exact hbaseline

/-- An entry over a changeable item is `Ready` and records the item, its parent and its version. -/
theorem DistinctKeys.planEntry_of_changeable (hkeys : inputs.DistinctKeys)
    {event : LocalChangeEventRow} {kind : LocalItemKind} {parent : Text} {item : RemoteItem}
    {authority : RemoteWriteAuthoritySnapshot}
    (h : inputs.Changeable event kind parent item authority) :
    (inputs.planEntry event).disposition = .ready ∧
      (inputs.planEntry event).targetRemoteId = some item.remoteId ∧
      (inputs.planEntry event).expectedParentRemoteId = some parent ∧
      (inputs.planEntry event).expectedRemoteVersion = some authority.remoteVersion := by
  obtain ⟨snapshot, hsnapshot⟩ := Option.isSome_iff_exists.mp h.identified
  have hentry (entry : SelectedRootRemoteWritePlanEntry) := hkeys.existingEntry_eq entry h.owned
    h.parent_owned h.authority_mem h.authority_id h.granted
  unfold planEntry
  dsimp only
  rw [hsnapshot]
  rcases h.changes with ⟨hkind, hcurrent, rfl⟩ | ⟨hkind, hbaseline⟩
  · simp [hkind, hcurrent, hentry]
  · have htopmost : ¬ hasDeletedAncestor event.relativePath inputs.deletedPaths = true := by
      intro habove
      obtain ⟨above, hmem, hbelow⟩ := hasDeletedAncestor_iff.mp habove
      exact h.topmost hkind above hmem hbelow
    simp [hkind, hbaseline, htopmost, hentry]

/-- What a `Ready` entry rests on and records. -/
theorem DistinctKeys.planEntry_ready_records (hkeys : inputs.DistinctKeys)
    {event : LocalChangeEventRow} (h : (inputs.planEntry event).disposition = .ready) :
    ∃ kind parent item authority, inputs.Changeable event kind parent item authority ∧
      (inputs.planEntry event).targetRemoteId = some item.remoteId ∧
      (inputs.planEntry event).expectedParentRemoteId = some parent ∧
      (inputs.planEntry event).expectedRemoteVersion = some authority.remoteVersion := by
  obtain ⟨kind, parent, item, authority, hchangeable⟩ := hkeys.planEntry_ready h
  exact ⟨kind, parent, item, authority, hchangeable, (hkeys.planEntry_of_changeable hchangeable).2⟩

theorem DistinctKeys.planEntry_needsId (hkeys : inputs.DistinctKeys) {event : LocalChangeEventRow}
    (h : (inputs.planEntry event).disposition = .needsPredeterminedRemoteId) :
    ∃ parent authority, inputs.Creatable event parent authority ∧
      (inputs.planEntry event).expectedParentRemoteId = some parent := by
  generalize hentry : inputs.planEntry event = entry at h ⊢
  cases hentry ▸ entryPlanned inputs event with
  | refused disposition hrefused =>
      rcases hrefused with rfl | rfl
      · cases h
      · cases h
  | created snapshot hkind =>
      obtain ⟨parent, authority, hparent, hmem, hid, hadds, hrecorded⟩ :=
        (hkeys.createdEntry_disposition event snapshot _).2 h
      exact ⟨parent, authority, ⟨hkind, hparent, hmem, hid, hadds⟩, hrecorded⟩
  | modified => exact absurd h (existingEntry_not_needsId _ _ _)
  | deleted => exact absurd h (existingEntry_not_needsId _ _ _)

/-! ## The plan -/

/-- A plan is derived entry by entry, once the lookups have distinct keys. -/
theorem deriveEntries_eq_ok {entries : List SelectedRootRemoteWritePlanEntry}
    (h : inputs.deriveEntries = .ok entries) :
    inputs.DistinctKeys ∧ entries = inputs.events.map inputs.planEntry := by
  unfold deriveEntries at h
  obtain ⟨-, h⟩ := (refuseIf_bind_eq_ok _ _ _ _).mp h
  obtain ⟨hitems, h⟩ := (refuseIf_bind_eq_ok _ _ _ _).mp h
  obtain ⟨hauthorities, h⟩ := (refuseIf_bind_eq_ok _ _ _ _).mp h
  obtain ⟨hpaths, h⟩ := (refuseIf_bind_eq_ok _ _ _ _).mp h
  exact ⟨⟨by simpa using hitems, by simpa using hauthorities, by simpa using hpaths⟩,
    (Except.ok.inj h).symm⟩

variable (inputs) in
/-- What the entry of an event promises. -/
structure SafeEntry (event : LocalChangeEventRow) (entry : SelectedRootRemoteWritePlanEntry) :
    Prop where
  tells : TellsEvent event entry
  ready : entry.disposition = .ready →
    ∃ kind parent item authority, inputs.Changeable event kind parent item authority ∧
      entry.targetRemoteId = some item.remoteId ∧ entry.expectedParentRemoteId = some parent ∧
      entry.expectedRemoteVersion = some authority.remoteVersion
  needsId : entry.disposition = .needsPredeterminedRemoteId →
    ∃ parent authority, inputs.Creatable event parent authority ∧
      entry.expectedParentRemoteId = some parent

/-- **Remote-write planner safety**: the entries of a plan are those of the events, in order; a `Ready`
    entry changes an owned item of its kind with an owned parent, at the version of an authority that
    grants it; an entry that needs an id creates in an owned parent that takes children; and nothing
    below another deleted path is ready to be trashed. -/
theorem deriveEntries_safe (inputs : RemoteWritePlanInputs)
    (entries : List SelectedRootRemoteWritePlanEntry) (h : inputs.deriveEntries = .ok entries) :
    List.Forall₂ inputs.SafeEntry inputs.events entries ∧
      ∀ entry ∈ entries, entry.disposition = .ready → entry.operation = some .trashItem →
        ∀ event ∈ inputs.events, event.eventKind = .deleted →
          ¬ event.relativePath.IsBelow entry.relativePath := by
  obtain ⟨hkeys, rfl⟩ := deriveEntries_eq_ok h
  constructor
  · rw [List.forall₂_map_right_iff]
    exact List.forall₂_same.mpr fun event _ =>
      ⟨planEntry_tellsEvent event, hkeys.planEntry_ready_records, hkeys.planEntry_needsId⟩
  · intro entry hentry hready htrash other hother hdeleted hbelow
    obtain ⟨event, -, rfl⟩ := List.mem_map.mp hentry
    obtain ⟨kind, parent, item, authority, hchangeable⟩ := hkeys.planEntry_ready hready
    have htells : TellsEvent event (inputs.planEntry event) := planEntry_tellsEvent event
    rw [htells.path_eq] at hbelow
    rw [htells.operation_eq] at htrash
    have hkind : event.eventKind = .deleted := by
      rcases hchangeable.changes with ⟨hkind, hcurrent, -⟩ | ⟨hkind, -⟩
      · simp [planOperation, hkind, hcurrent] at htrash
      · exact hkind
    have hmem : other.relativePath ∈ inputs.deletedPaths :=
      List.mem_map_of_mem (List.mem_filter.mpr ⟨hother, by simp [hdeleted]⟩)
    exact hchangeable.topmost hkind _ hmem hbelow

/-- The authority over a root `r` and a folder `d` below it. -/
def sampleFolderAuthorities : List RemoteWriteAuthoritySnapshot :=
  [⟨"r".toList, 5, none, none, true, true, true, 30, rfl⟩,
    ⟨"d".toList, 6, none, none, true, true, true, 30, rfl⟩]

/-- A root whose file `docs/a` was modified, beside which `docs/b` was created. -/
def sampleInputs : RemoteWritePlanInputs where
  remoteRootId := "r".toList
  events := [⟨1, 1, .modified, "docs/a".toList, some .file, some .file, .pending⟩,
    ⟨2, 1, .created, "docs/b".toList, none, some .file, .pending⟩]
  baseline := []
  current := [⟨"docs/a".toList, .file, some 4, 20, 8, 101, .refl true, .refl true⟩,
    ⟨"docs/b".toList, .file, some 3, 21, 8, 102, .refl true, .refl true⟩]
  remoteItems := [⟨"d".toList, some "r".toList, "docs".toList, .folder, none, none, false⟩,
    ⟨"f".toList, some "d".toList, "a".toList, .file, some 4, none, false⟩]
  fileReceipts := [⟨"f".toList, "docs/a".toList, 4, List.replicate 64 'a', .current⟩]
  directoryReceipts := [⟨"d".toList, "docs".toList, .current⟩]
  authorities := sampleFolderAuthorities ++ [⟨"f".toList, 7, none, none, true, true, false, 30, rfl⟩]

theorem deriveEntries_safe_sample :
    sampleInputs.events.map (fun event => (sampleInputs.planEntry event).disposition)
        = [.ready, .needsPredeterminedRemoteId] ∧
      List.Forall₂ sampleInputs.SafeEntry sampleInputs.events
        (sampleInputs.events.map sampleInputs.planEntry) :=
  ⟨by decide, (deriveEntries_safe sampleInputs _ rfl).1⟩

end RemoteWritePlanInputs

end NubiSync
