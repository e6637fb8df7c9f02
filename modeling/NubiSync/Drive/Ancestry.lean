import NubiSync.Core.Items
import NubiSync.Library.Checks
import NubiSync.Library.Climbs

set_option autoImplicit false

/-! # Ancestry of an item

Whether an item of the change feed belongs to a synchronized root is decided by looking up its parent,
the parent of that, and so on, for at most 128 folders. The answer decides whether a whole subtree of
the catalog is kept or deleted, so a chain that is not a plain walk through the user's own folders is
either outside the root or an error, never a descendant. -/

namespace NubiSync

open Checks

/-! ## Identifiers -/

/-- The errors of `DriveApiError` that the traversals of the folder tree return. -/
inductive DriveTraversalError where
  | http
  | invalidInventoryPage (code : Text)
  | invalidAncestryIdentifier
  | ancestryMetadataIdMismatch
  | ancestryParentNotFolder
  | ancestryMultipleParents
  | ancestryCycleDetected
  | ancestryHopLimitExceeded
  | hydrationRootNotFolder
  | hydrationRootTrashed
  | hydrationInvalidItem
  | hydrationParentMismatch
  | hydrationDuplicateRemoteId
  | hydrationPaginationLoop
  | hydrationSafetyLimitExceeded
  deriving DecidableEq, Repr

/-- `byte.is_ascii_alphanumeric() || matches!(byte, b'-' | b'_')`. -/
def isIdentifierChar (c : Char) : Bool :=
  ('0' ≤ c && c ≤ '9') || ('A' ≤ c && c ≤ 'Z') || ('a' ≤ c && c ≤ 'z') || c == '-' || c == '_'

/-- The test of `validate_ancestry_id` and `validate_drive_file_id`. A text with a character of more than
    one byte fails the last check, so its length in bytes is its length in characters. -/
def isDriveIdentifier (value : Text) : Bool :=
  !(value.isEmpty || value.length > 256 || !value.all isIdentifierChar)

def validateAncestryId (value : Text) : Except DriveTraversalError Unit :=
  refuseIf (!isDriveIdentifier value) .invalidAncestryIdentifier

/-! ## The root -/

def googleDriveFolderMimeType : Text := "application/vnd.google-apps.folder".toList

/-- `DriveFolderRoot`. Its field is private to the source module, where `resolve_folder_root` alone builds
    one, after it validated the identifier. -/
structure DriveFolderRoot where
  canonicalRemoteId : Text
  identifier : isDriveIdentifier canonicalRemoteId = true
  deriving DecidableEq

/-! ## One ancestor -/

inductive DriveRootMembership where
  | root
  | descendant
  | outside
  deriving DecidableEq, Repr

structure DriveAncestryMetadata where
  id : Text
  mimeType : Text
  parents : List Text
  trashed : Bool
  ownedByMe : Bool

inductive DriveAncestryStep where
  | reachedRoot
  | continue (nextParent : Option Text)
  | outside
  deriving DecidableEq, Repr

def ancestryStep (expectedRemoteId rootRemoteId : Text) (metadata : DriveAncestryMetadata) :
    Except DriveTraversalError DriveAncestryStep := do
  validateAncestryId expectedRemoteId
  validateAncestryId rootRemoteId
  validateAncestryId metadata.id
  refuseIf (metadata.id != expectedRemoteId) .ancestryMetadataIdMismatch
  if metadata.trashed || !metadata.ownedByMe then
    return .outside
  refuseIf (metadata.mimeType != googleDriveFolderMimeType) .ancestryParentNotFolder
  refuseIf (metadata.parents.length > 1) .ancestryMultipleParents
  let nextParent := metadata.parents.head?
  if nextParent = some rootRemoteId then
    return .reachedRoot
  else
    return .continue nextParent

def fetchAncestryMetadata (request : Text → Except DriveTraversalError DriveAncestryMetadata)
    (remoteId : Text) : Except DriveTraversalError DriveAncestryMetadata := do
  validateAncestryId remoteId
  request remoteId

/-! ## The walk -/

/-- The loop of `resolve_item_membership`: `hops` turns are left. -/
def resolveAncestors (request : Text → Except DriveTraversalError DriveAncestryMetadata)
    (root : DriveFolderRoot) :
    (hops : ℕ) → (seen : List Text) → (currentParent : Option Text) →
      Except DriveTraversalError DriveRootMembership
  | 0, _, _ => .error .ancestryHopLimitExceeded
  | hops + 1, seen, currentParent =>
      match currentParent with
      | none => .ok .outside
      | some parentRemoteId => do
          validateAncestryId parentRemoteId
          if parentRemoteId = root.canonicalRemoteId then
            return .descendant
          refuseIf (seen.contains parentRemoteId) .ancestryCycleDetected
          let metadata ← fetchAncestryMetadata request parentRemoteId
          match ← ancestryStep parentRemoteId root.canonicalRemoteId metadata with
          | .reachedRoot => return .descendant
          | .continue nextParent =>
              resolveAncestors request root hops (parentRemoteId :: seen) nextParent
          | .outside => return .outside

/-- The bound of the loop of `resolve_item_membership`. -/
def ancestryHopLimit : ℕ := 128

def resolveItemMembership (request : Text → Except DriveTraversalError DriveAncestryMetadata)
    (item : RemoteItem) (root : DriveFolderRoot) : Except DriveTraversalError DriveRootMembership := do
  validateAncestryId item.remoteId
  validateAncestryId root.canonicalRemoteId
  if item.remoteId = root.canonicalRemoteId then
    return .root
  resolveAncestors request root ancestryHopLimit [] item.parentRemoteId

/-! ## What a walk meets -/

variable (metadataOf : Text → DriveAncestryMetadata) (root : DriveFolderRoot)

/-- A live folder of the user below one parent at most, other than the root. -/
structure IsOpenAncestor (id : Text) : Prop where
  notRoot : id ≠ root.canonicalRemoteId
  identifier : isDriveIdentifier id = true
  matching : (metadataOf id).id = id
  live : (metadataOf id).trashed = false
  owned : (metadataOf id).ownedByMe = true
  folder : (metadataOf id).mimeType = googleDriveFolderMimeType
  single : (metadataOf id).parents.length ≤ 1

/-- A trashed or foreign ancestor. -/
structure IsForeignAncestor (id : Text) : Prop where
  notRoot : id ≠ root.canonicalRemoteId
  identifier : isDriveIdentifier id = true
  matching : (metadataOf id).id = id
  foreign : (metadataOf id).trashed = true ∨ (metadataOf id).ownedByMe = false

/-- An ancestor with a malformed identifier, with the metadata of another item, or a live one of the
    user that is no folder or has several parents. -/
structure IsBrokenAncestor (id : Text) : Prop where
  notRoot : id ≠ root.canonicalRemoteId
  broken : isDriveIdentifier id = false ∨ (metadataOf id).id ≠ id
    ∨ ((metadataOf id).trashed = false ∧ (metadataOf id).ownedByMe = true
      ∧ ((metadataOf id).mimeType ≠ googleDriveFolderMimeType ∨ 1 < (metadataOf id).parents.length))

/-- The chain of single parents from `start`: every one of `folders` was looked up, in this order, and
    the next to look up is `top`. -/
abbrev AncestorChain (folders : List Text) (start top : Option Text) : Prop :=
  Climb (IsOpenAncestor metadataOf root) (fun id => (metadataOf id).parents.head?) folders start top

/-- The chain reaches the root within `hops` lookups. -/
def ReachesRoot (hops : ℕ) (start : Option Text) : Prop :=
  ∃ folders, folders.length ≤ hops
    ∧ AncestorChain metadataOf root folders start (some root.canonicalRemoteId)

/-- The chain ends, or meets a trashed or foreign ancestor, before `hops` lookups are used up. -/
def LeavesTree (hops : ℕ) (start : Option Text) : Prop :=
  ∃ folders, folders.length < hops ∧ (AncestorChain metadataOf root folders start none
    ∨ ∃ id, AncestorChain metadataOf root folders start (some id)
      ∧ IsForeignAncestor metadataOf root id)

/-- The chain meets a broken or repeated ancestor before `hops` lookups are used up, or `hops` lookups
    have not brought it to the root. -/
def BreaksOff (hops : ℕ) (start : Option Text) : Prop :=
  (∃ folders id, folders.length < hops ∧ AncestorChain metadataOf root folders start (some id)
      ∧ (IsBrokenAncestor metadataOf root id ∨ id ∈ folders))
    ∨ ∃ folders top, folders.length = hops ∧ AncestorChain metadataOf root folders start top
      ∧ top ≠ some root.canonicalRemoteId

variable {metadataOf root}

/-! ## One turn of the loop -/

theorem ancestor_cases {id : Text} (hroot : id ≠ root.canonicalRemoteId) :
    IsOpenAncestor metadataOf root id ∨ IsForeignAncestor metadataOf root id
      ∨ IsBrokenAncestor metadataOf root id := by
  by_cases hid : isDriveIdentifier id = true
  case neg => exact .inr (.inr ⟨hroot, .inl (by simpa using hid)⟩)
  by_cases hmatching : (metadataOf id).id = id
  case neg => exact .inr (.inr ⟨hroot, .inr (.inl hmatching)⟩)
  by_cases hforeign : (metadataOf id).trashed = true ∨ (metadataOf id).ownedByMe = false
  · exact .inr (.inl ⟨hroot, hid, hmatching, hforeign⟩)
  obtain ⟨hlive, howned⟩ := not_or.mp hforeign
  rw [Bool.not_eq_true] at hlive
  rw [Bool.not_eq_false] at howned
  by_cases hfolder : (metadataOf id).mimeType = googleDriveFolderMimeType
  case neg => exact .inr (.inr ⟨hroot, .inr (.inr ⟨hlive, howned, .inl hfolder⟩)⟩)
  by_cases hsingle : (metadataOf id).parents.length ≤ 1
  · exact .inl ⟨hroot, hid, hmatching, hlive, howned, hfolder, hsingle⟩
  · exact .inr (.inr ⟨hroot, .inr (.inr ⟨hlive, howned, .inr (by omega)⟩)⟩)

theorem not_isOpenAncestor_of_foreign {id : Text} (h : IsForeignAncestor metadataOf root id) :
    ¬ IsOpenAncestor metadataOf root id := by
  intro hopen
  rcases h.foreign with htrashed | hforeign
  · simp [hopen.live] at htrashed
  · simp [hopen.owned] at hforeign

theorem not_isOpenAncestor_root : ¬ IsOpenAncestor metadataOf root root.canonicalRemoteId :=
  fun h => h.notRoot rfl

theorem resolveAncestors_open {id : Text} {hops : ℕ} {seen : List Text}
    (hopen : IsOpenAncestor metadataOf root id) (hseen : id ∉ seen) :
    resolveAncestors (fun id => .ok (metadataOf id)) root (hops + 1) seen (some id) =
      if (metadataOf id).parents.head? = some root.canonicalRemoteId then .ok .descendant
      else resolveAncestors (fun id => .ok (metadataOf id)) root hops (id :: seen)
        (metadataOf id).parents.head? := by
  have hsingle : ¬ 1 < (metadataOf id).parents.length := Nat.not_lt.mpr hopen.single
  have hstep : ancestryStep id root.canonicalRemoteId (metadataOf id) = .ok
      (if (metadataOf id).parents.head? = some root.canonicalRemoteId then .reachedRoot
        else .continue (metadataOf id).parents.head?) := by
    simp [ancestryStep, validateAncestryId, hopen.identifier, root.identifier, hopen.matching,
      hopen.live, hopen.owned, hopen.folder, hsingle, refuseIf, pure, Except.pure, apply_ite]
  by_cases hreached : (metadataOf id).parents.head? = some root.canonicalRemoteId <;>
    simp [resolveAncestors, validateAncestryId, hopen.identifier, hopen.notRoot, hseen,
      fetchAncestryMetadata, hstep, hreached, refuseIf, pure, Except.pure]

theorem resolveAncestors_foreign {id : Text} {hops : ℕ} {seen : List Text}
    (hforeign : IsForeignAncestor metadataOf root id) (hseen : id ∉ seen) :
    resolveAncestors (fun id => .ok (metadataOf id)) root (hops + 1) seen (some id) =
      .ok .outside := by
  have hleaves : ((metadataOf id).trashed || !(metadataOf id).ownedByMe) = true := by
    rcases hforeign.foreign with h | h <;> simp [h]
  have hstep : ancestryStep id root.canonicalRemoteId (metadataOf id) = .ok .outside := by
    simp [ancestryStep, validateAncestryId, hforeign.identifier, root.identifier,
      hforeign.matching, hleaves, refuseIf, pure, Except.pure]
  simp [resolveAncestors, validateAncestryId, hforeign.identifier, hforeign.notRoot, hseen,
    fetchAncestryMetadata, hstep, refuseIf, pure, Except.pure]

theorem resolveAncestors_seen {id : Text} {hops : ℕ} {seen : List Text}
    (hroot : id ≠ root.canonicalRemoteId) (hseen : id ∈ seen) :
    ∃ e, resolveAncestors (fun id => .ok (metadataOf id)) root (hops + 1) seen (some id) =
      .error e := by
  cases hid : isDriveIdentifier id <;>
    simp [resolveAncestors, validateAncestryId, hid, hroot, hseen, refuseIf, bind, Except.bind]

theorem resolveAncestors_broken {id : Text} {hops : ℕ} {seen : List Text}
    (hbroken : IsBrokenAncestor metadataOf root id) :
    ∃ e, resolveAncestors (fun id => .ok (metadataOf id)) root (hops + 1) seen (some id) =
      .error e := by
  cases hid : isDriveIdentifier id
  · simp [resolveAncestors, validateAncestryId, hid, refuseIf, bind, Except.bind]
  by_cases hseen : id ∈ seen
  · exact resolveAncestors_seen hbroken.notRoot hseen
  have hstep : ∃ e, ancestryStep id root.canonicalRemoteId (metadataOf id) = .error e := by
    by_cases hmatching : (metadataOf id).id = id
    case neg =>
      cases hmeta : isDriveIdentifier (metadataOf id).id <;>
        simp [ancestryStep, validateAncestryId, hid, root.identifier, hmeta, hmatching, refuseIf,
          bind, Except.bind]
    obtain h | h | ⟨hlive, howned, hshape⟩ := hbroken.broken
    · simp [hid] at h
    · exact absurd hmatching h
    by_cases hfolder : (metadataOf id).mimeType = googleDriveFolderMimeType
    · have hseveral := hshape.resolve_left (absurd hfolder)
      simp [ancestryStep, validateAncestryId, hid, root.identifier, hmatching, hlive, howned,
        hfolder, hseveral, refuseIf, bind, Except.bind]
    · simp [ancestryStep, validateAncestryId, hid, root.identifier, hmatching, hlive, howned,
        hfolder, refuseIf, bind, Except.bind]
  obtain ⟨e, hstep⟩ := hstep
  exact ⟨e, by simp [resolveAncestors, validateAncestryId, hid, hbroken.notRoot, hseen,
    fetchAncestryMetadata, hstep, refuseIf, bind, Except.bind]⟩

/-! ## Whole walks -/

section Walks

variable {folders seen : List Text} {start top : Option Text} {hops : ℕ}

/-- A walk through new folders either comes to the root or goes on where it stands, with what is left of
    the hops. -/
theorem resolveAncestors_chain (h : AncestorChain metadataOf root folders start top)
    (hstart : start ≠ some root.canonicalRemoteId) (hnodup : folders.Nodup)
    (hnew : ∀ id ∈ folders, id ∉ seen) :
    resolveAncestors (fun id => .ok (metadataOf id)) root (folders.length + hops) seen start =
      if top = some root.canonicalRemoteId then .ok .descendant
      else resolveAncestors (fun id => .ok (metadataOf id)) root hops (folders.reverse ++ seen) top := by
  induction h generalizing seen with
  | here start => simp [hstart]
  | @up id folders top hopen rest ih =>
      obtain ⟨hid, hnodup⟩ := List.nodup_cons.mp hnodup
      rw [List.length_cons, Nat.add_right_comm, resolveAncestors_open hopen (hnew id (by simp))]
      by_cases hreached : (metadataOf id).parents.head? = some root.canonicalRemoteId
      · -- the root does not pass, so the chain stands at it
        rw [hreached] at rest
        cases rest with
        | here => simp [hreached]
        | up hroot _ => exact absurd hroot not_isOpenAncestor_root
      · rw [if_neg hreached, ih hreached hnodup]
        · simp
        · rintro other hother hmem
          rcases List.mem_cons.mp hmem with rfl | hmem
          · exact hid hother
          · exact hnew other (List.mem_cons_of_mem _ hother) hmem

/-- A walk ends in an error where it stands, or in one before that. -/
theorem resolveAncestors_error (h : AncestorChain metadataOf root folders start top)
    (htop : top ≠ some root.canonicalRemoteId)
    (hfails : ∀ seen', (∀ id ∈ folders, id ∈ seen') →
      ∃ e, resolveAncestors (fun id => .ok (metadataOf id)) root hops seen' top = .error e) :
    ∃ e, resolveAncestors (fun id => .ok (metadataOf id)) root (folders.length + hops) seen start =
      .error e := by
  suffices hwalk : ∀ before, (∀ seen', (∀ id ∈ before ++ folders, id ∈ seen') →
      ∃ e, resolveAncestors (fun id => .ok (metadataOf id)) root hops seen' top = .error e) →
      (∀ id ∈ before, id ∈ seen) →
      ∃ e, resolveAncestors (fun id => .ok (metadataOf id)) root (folders.length + hops) seen start =
        .error e by
    exact hwalk [] (by simpa using hfails) (by simp)
  clear hfails
  induction h generalizing seen with
  | here start =>
      intro before hfails hbefore
      simpa using hfails seen (by simpa using hbefore)
  | @up id folders top hopen rest ih =>
      intro before hfails hbefore
      rw [List.length_cons, Nat.add_right_comm]
      by_cases hseen : id ∈ seen
      · exact resolveAncestors_seen hopen.notRoot hseen
      rw [resolveAncestors_open hopen hseen]
      split
      · next hreached =>
          rw [hreached] at rest
          cases rest with
          | here => exact absurd rfl htop
          | up hroot _ => exact absurd hroot not_isOpenAncestor_root
      · refine ih htop (before ++ [id]) (by simpa using hfails) fun other hother => ?_
        rcases List.mem_append.mp hother with hother | hother
        · exact List.mem_cons_of_mem _ (hbefore other hother)
        · exact List.mem_cons.mpr (.inl (List.mem_singleton.mp hother))

theorem resolveAncestors_of_reachesRoot (h : ReachesRoot metadataOf root hops start)
    (hstart : start ≠ some root.canonicalRemoteId) :
    resolveAncestors (fun id => .ok (metadataOf id)) root hops [] start = .ok .descendant := by
  obtain ⟨folders, hlength, hchain⟩ := h
  obtain ⟨left, rfl⟩ := Nat.exists_eq_add_of_le hlength
  have hnodup := hchain.nodup (Climb.stops_some not_isOpenAncestor_root)
  simp [resolveAncestors_chain hchain hstart hnodup]

theorem resolveAncestors_of_leavesTree (h : LeavesTree metadataOf root hops start)
    (hstart : start ≠ some root.canonicalRemoteId) :
    resolveAncestors (fun id => .ok (metadataOf id)) root hops [] start = .ok .outside := by
  obtain ⟨folders, hlength, hend⟩ := h
  obtain ⟨left, rfl⟩ := Nat.exists_eq_add_of_lt hlength
  rcases hend with hchain | ⟨id, hchain, hforeign⟩
  · rw [Nat.add_assoc,
      resolveAncestors_chain hchain hstart (hchain.nodup Climb.stops_none) (by simp)]
    rfl
  · have hstops := Climb.stops_some (not_isOpenAncestor_of_foreign hforeign)
    have hnew : id ∉ folders := fun hmem =>
      not_isOpenAncestor_of_foreign hforeign (hchain.passes_of_mem hmem)
    rw [Nat.add_assoc, resolveAncestors_chain hchain hstart (hchain.nodup hstops) (by simp),
      if_neg (by simpa using hforeign.notRoot), resolveAncestors_foreign hforeign (by simpa using hnew)]

theorem resolveAncestors_of_breaksOff (h : BreaksOff metadataOf root hops start) :
    ∃ e, resolveAncestors (fun id => .ok (metadataOf id)) root hops [] start = .error e := by
  rcases h with ⟨folders, id, hlength, hchain, hbad⟩ | ⟨folders, top, rfl, hchain, htop⟩
  · obtain ⟨left, rfl⟩ := Nat.exists_eq_add_of_lt hlength
    rw [Nat.add_assoc]
    rcases hbad with hbroken | hrepeated
    · exact resolveAncestors_error hchain (by simpa using hbroken.notRoot) fun seen' _ =>
        resolveAncestors_broken hbroken
    · have hroot := (hchain.passes_of_mem hrepeated).notRoot
      exact resolveAncestors_error hchain (by simpa using hroot) fun seen' hseen' =>
        resolveAncestors_seen hroot (hseen' id hrepeated)
  · rw [← Nat.add_zero folders.length]
    exact resolveAncestors_error hchain htop fun seen' _ => ⟨_, rfl⟩

/-- Every walk meets one of the three ends. -/
theorem walk_ends (hops : ℕ) (start : Option Text) :
    ReachesRoot metadataOf root hops start ∨ LeavesTree metadataOf root hops start
      ∨ BreaksOff metadataOf root hops start := by
  by_cases hroot : start = some root.canonicalRemoteId
  · exact .inl ⟨[], by simp, hroot ▸ .here _⟩
  induction hops generalizing start with
  | zero => exact .inr (.inr (.inr ⟨[], start, rfl, .here _, hroot⟩))
  | succ hops ih =>
      cases start with
      | none => exact .inr (.inl ⟨[], by simp, .inl (.here _)⟩)
      | some id =>
          rcases @ancestor_cases metadataOf root id (by simpa using hroot) with
            hopen | hforeign | hbroken
          · by_cases hnext : (metadataOf id).parents.head? = some root.canonicalRemoteId
            · exact .inl ⟨[id], by simp, .up hopen (hnext ▸ .here _)⟩
            -- one lookup more than the rest of the walk
            rcases ih _ hnext with ⟨folders, hlength, hchain⟩ | ⟨folders, hlength, hend⟩ |
              ⟨folders, other, hlength, hchain, hbad⟩ | ⟨folders, top, hlength, hchain, htop⟩
            · exact .inl ⟨id :: folders, by simpa using hlength, .up hopen hchain⟩
            · refine .inr (.inl ⟨id :: folders, by simpa using hlength, ?_⟩)
              rcases hend with hchain | ⟨other, hchain, hforeign⟩
              · exact .inl (.up hopen hchain)
              · exact .inr ⟨other, .up hopen hchain, hforeign⟩
            · exact .inr (.inr (.inl ⟨id :: folders, other, by simpa using hlength,
                .up hopen hchain, hbad.imp_right (List.mem_cons_of_mem _)⟩))
            · exact .inr (.inr (.inr ⟨id :: folders, top, by simpa using hlength,
                .up hopen hchain, htop⟩))
          · exact .inr (.inl ⟨[], by simp, .inr ⟨id, .here _, hforeign⟩⟩)
          · exact .inr (.inr (.inl ⟨[], id, by simp, .here _, .inl hbroken⟩))

/-- A walk that has at least one hop left ends as the first thing that it meets says. -/
theorem resolveAncestors_exact (hops : ℕ) (start : Option Text) :
    (resolveAncestors (fun id => .ok (metadataOf id)) root (hops + 1) [] start = .ok .descendant ↔
        ReachesRoot metadataOf root (hops + 1) start)
      ∧ (resolveAncestors (fun id => .ok (metadataOf id)) root (hops + 1) [] start = .ok .outside ↔
        LeavesTree metadataOf root (hops + 1) start)
      ∧ ((∃ e, resolveAncestors (fun id => .ok (metadataOf id)) root (hops + 1) [] start = .error e) ↔
        BreaksOff metadataOf root (hops + 1) start) := by
  have hreaches : ReachesRoot metadataOf root (hops + 1) start →
      resolveAncestors (fun id => .ok (metadataOf id)) root (hops + 1) [] start =
        .ok .descendant := by
    intro h
    by_cases hroot : start = some root.canonicalRemoteId
    · simp [hroot, resolveAncestors, validateAncestryId, root.identifier, refuseIf, pure, Except.pure]
    · exact resolveAncestors_of_reachesRoot h hroot
  have hleaves : LeavesTree metadataOf root (hops + 1) start →
      resolveAncestors (fun id => .ok (metadataOf id)) root (hops + 1) [] start = .ok .outside := by
    intro h
    refine resolveAncestors_of_leavesTree h ?_
    rintro rfl
    obtain ⟨folders, -, hchain | ⟨id, hchain, hforeign⟩⟩ := h
    · obtain ⟨-, htop⟩ := Climb.unique (.here _) hchain
        (Climb.stops_some not_isOpenAncestor_root) Climb.stops_none
      cases htop
    · obtain ⟨-, htop⟩ := Climb.unique (.here _) hchain
        (Climb.stops_some not_isOpenAncestor_root)
        (Climb.stops_some (not_isOpenAncestor_of_foreign hforeign))
      exact hforeign.notRoot (Option.some.inj htop).symm
  have hbreaks : BreaksOff metadataOf root (hops + 1) start → _ := resolveAncestors_of_breaksOff
  have hends := @walk_ends metadataOf root (hops + 1) start
  refine ⟨⟨fun hresult => ?_, hreaches⟩, ⟨fun hresult => ?_, hleaves⟩, ⟨fun hresult => ?_, hbreaks⟩⟩
  · rcases hends with h | h | h
    · exact h
    · simp [hleaves h] at hresult
    · obtain ⟨e, he⟩ := hbreaks h
      simp [he] at hresult
  · rcases hends with h | h | h
    · simp [hreaches h] at hresult
    · exact h
    · obtain ⟨e, he⟩ := hbreaks h
      simp [he] at hresult
  · obtain ⟨e, he⟩ := hresult
    rcases hends with h | h | h
    · simp [hreaches h] at he
    · simp [hleaves h] at he
    · exact h

end Walks

/-! ## Membership of an item -/

section Membership

variable {item : RemoteItem}

theorem resolveItemMembership_malformed
    {request : Text → Except DriveTraversalError DriveAncestryMetadata}
    (hid : isDriveIdentifier item.remoteId = false) :
    resolveItemMembership request item root = .error .invalidAncestryIdentifier := by
  simp [resolveItemMembership, validateAncestryId, hid, refuseIf, bind, Except.bind]

theorem resolveItemMembership_root
    {request : Text → Except DriveTraversalError DriveAncestryMetadata}
    (hroot : item.remoteId = root.canonicalRemoteId) :
    resolveItemMembership request item root = .ok .root := by
  simp [resolveItemMembership, validateAncestryId, hroot, root.identifier, refuseIf, pure, Except.pure]

theorem resolveItemMembership_below
    {request : Text → Except DriveTraversalError DriveAncestryMetadata}
    (hid : isDriveIdentifier item.remoteId = true) (hroot : item.remoteId ≠ root.canonicalRemoteId) :
    resolveItemMembership request item root =
      resolveAncestors request root 128 [] item.parentRemoteId := by
  simp [resolveItemMembership, validateAncestryId, hid, hroot, root.identifier, refuseIf,
    ancestryHopLimit]

/-- A chain that used up the hops elsewhere than at the root. -/
theorem BreaksOff.of_overlong {hops : ℕ} {folders : List Text} {start top : Option Text}
    (hchain : AncestorChain metadataOf root folders start top) (hlength : hops ≤ folders.length)
    (htop : ¬ (folders.length = hops ∧ top = some root.canonicalRemoteId)) :
    BreaksOff metadataOf root hops start := by
  rcases Nat.eq_or_lt_of_le hlength with heq | hlt
  · exact .inr ⟨folders, top, heq.symm, hchain, fun hroot => htop ⟨heq.symm, hroot⟩⟩
  · obtain ⟨id, hopen, htake⟩ := hchain.exists_take hlt
    exact .inr ⟨_, _, List.length_take_of_le hlength, htake, by simpa using hopen.notRoot⟩

/-- A chain that came back to a folder that it passed. -/
theorem BreaksOff.of_repeated {hops : ℕ} {folders : List Text} {start : Option Text} {id : Text}
    (hchain : AncestorChain metadataOf root folders start (some id)) (hrepeated : id ∈ folders) :
    BreaksOff metadataOf root hops start := by
  rcases Nat.lt_or_ge folders.length hops with hlt | hge
  · exact .inl ⟨folders, id, hlt, hchain, .inr hrepeated⟩
  · refine .of_overlong hchain hge fun htop => ?_
    exact (hchain.passes_of_mem hrepeated).notRoot (Option.some.inj htop.2)

/-- An item whose identifier is well formed belongs where its walk ends: it is the root exactly when its
    identifier is the root's, and otherwise a descendant, outside or an error by the first thing that
    the chain of its parents meets within 128 lookups. The end of a chain is seen only while a lookup is
    left, so a chain of 128 open ancestors other than the root is an error whatever is above it. -/
theorem resolve_item_membership_exact (metadataOf : Text → DriveAncestryMetadata) (item : RemoteItem)
    (root : DriveFolderRoot) :
    (resolveItemMembership (fun id => .ok (metadataOf id)) item root = .ok .root ↔
        item.remoteId = root.canonicalRemoteId)
      ∧ (resolveItemMembership (fun id => .ok (metadataOf id)) item root = .ok .descendant ↔
        isDriveIdentifier item.remoteId = true ∧ item.remoteId ≠ root.canonicalRemoteId
          ∧ ReachesRoot metadataOf root 128 item.parentRemoteId)
      ∧ (resolveItemMembership (fun id => .ok (metadataOf id)) item root = .ok .outside ↔
        isDriveIdentifier item.remoteId = true ∧ item.remoteId ≠ root.canonicalRemoteId
          ∧ LeavesTree metadataOf root 128 item.parentRemoteId)
      ∧ ((∃ e, resolveItemMembership (fun id => .ok (metadataOf id)) item root = .error e) ↔
        isDriveIdentifier item.remoteId = false
          ∨ (item.remoteId ≠ root.canonicalRemoteId
            ∧ BreaksOff metadataOf root 128 item.parentRemoteId))
      ∧ (∀ folders id, AncestorChain metadataOf root folders item.parentRemoteId (some id) →
        id ∈ folders → item.remoteId ≠ root.canonicalRemoteId →
        ∃ e, resolveItemMembership (fun id => .ok (metadataOf id)) item root = .error e)
      ∧ (∀ folders top, AncestorChain metadataOf root folders item.parentRemoteId top →
        128 ≤ folders.length → ¬ (folders.length = 128 ∧ top = some root.canonicalRemoteId) →
        item.remoteId ≠ root.canonicalRemoteId →
        ∃ e, resolveItemMembership (fun id => .ok (metadataOf id)) item root = .error e) := by
  cases hid : isDriveIdentifier item.remoteId with
  | false =>
      have hroot : item.remoteId ≠ root.canonicalRemoteId := by
        intro heq
        rw [heq, root.identifier] at hid
        cases hid
      simp [resolveItemMembership_malformed hid, hroot]
  | true =>
      by_cases hroot : item.remoteId = root.canonicalRemoteId
      · simp [resolveItemMembership_root hroot, hroot]
      obtain ⟨hdescendant, houtside, herror⟩ :=
        @resolveAncestors_exact metadataOf root 127 item.parentRemoteId
      simp only [resolveItemMembership_below hid hroot, hdescendant, houtside, herror, hroot, ne_eq,
        not_false_eq_true, true_and, Bool.true_eq_false, false_or, iff_false]
      refine ⟨fun hresult => ?_, ?_, ?_⟩
      · rcases @walk_ends metadataOf root 128 item.parentRemoteId with h | h | h
        · simp [hdescendant.mpr h] at hresult
        · simp [houtside.mpr h] at hresult
        · obtain ⟨e, he⟩ := herror.mpr h
          simp [he] at hresult
      · exact fun folders id hchain hrepeated _ => .of_repeated hchain hrepeated
      · exact fun folders top hchain hlength htop _ => .of_overlong hchain hlength htop

/-! A line of folders of the user, each inside the one with a shorter name. -/

/-- The metadata of the folders of the line. -/
def lineMetadata (id : Text) : DriveAncestryMetadata where
  id := id
  mimeType := googleDriveFolderMimeType
  parents := if id.length ≤ 1 then [] else [id.tail]
  trashed := false
  ownedByMe := true

/-- A root that is not on the line. -/
def lineRoot : DriveFolderRoot := ⟨"r".toList, by decide⟩

/-- A file below 128 folders of the line. -/
def lineItem : RemoteItem :=
  ⟨"f".toList, some (List.replicate 128 'a'), "f".toList, .file, none, none, false⟩

theorem isOpenAncestor_line {n : ℕ} (hn : n < 256) :
    IsOpenAncestor lineMetadata lineRoot (List.replicate (n + 1) 'a') where
  notRoot h := by
    have hchar : 'a' = 'r' := (List.cons.inj (h.trans (rfl : _ = 'r' :: []))).1
    exact absurd hchar (by decide)
  identifier := by
    have hchar : isIdentifierChar 'a' = true := by decide
    simp [isDriveIdentifier, hchar]
    omega
  matching := rfl
  live := rfl
  owned := rfl
  folder := rfl
  single := by
    simp only [lineMetadata]
    split <;> simp

theorem line_chain (n : ℕ) (hn : n < 256) : ∃ folders, folders.length = n + 1
    ∧ AncestorChain lineMetadata lineRoot folders (some (List.replicate (n + 1) 'a')) none := by
  induction n with
  | zero => exact ⟨_, rfl, .up (isOpenAncestor_line hn) (.here _)⟩
  | succ n ih =>
      obtain ⟨folders, hlength, hchain⟩ := ih (by omega)
      have hparent : (lineMetadata (List.replicate (n + 1 + 1) 'a')).parents.head? =
          some (List.replicate (n + 1) 'a') := by
        simp [lineMetadata, List.replicate_succ]
      refine ⟨_ :: folders, by simpa using hlength, .up (isOpenAncestor_line hn) ?_⟩
      simpa only [hparent] using hchain

/-- A chain that ends with its 128th lookup is not outside but an error, although a root in the place of
    its end would have been recognised. -/
theorem line_of_128_not_outside :
    (∃ folders, folders.length = 128
        ∧ AncestorChain lineMetadata lineRoot folders lineItem.parentRemoteId none)
      ∧ resolveItemMembership (fun id => .ok (lineMetadata id)) lineItem lineRoot
        = .error .ancestryHopLimitExceeded := by
  obtain ⟨folders, hlength, hchain⟩ := line_chain 127 (by omega)
  refine ⟨⟨folders, hlength, hchain⟩, ?_⟩
  have hstart : some (List.replicate (127 + 1) 'a') ≠ some lineRoot.canonicalRemoteId := by decide
  calc resolveItemMembership (fun id => .ok (lineMetadata id)) lineItem lineRoot
    _ = resolveAncestors (fun id => .ok (lineMetadata id)) lineRoot (folders.length + 0) []
        lineItem.parentRemoteId := by
      rw [resolveItemMembership_below (by decide) (by decide), hlength]
    _ = _ := resolveAncestors_chain hchain hstart (hchain.nodup Climb.stops_none) (by simp)

end Membership

end NubiSync
