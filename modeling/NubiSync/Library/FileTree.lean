import Mathlib.Algebra.Order.Group.Nat
import Mathlib.Data.List.Dedup
import Mathlib.Data.List.Induction
import Mathlib.Logic.Function.Basic

set_option autoImplicit false

/-! # File trees

A directory tree as the system calls see it: a path holds a directory, a file, a symbolic link or
something else, and whatever a path holds stands in a directory. A file is named by its identity, which
its hard links share: a write shows at every one of them. Every tree is built by the four changes of
this module (`insert`, `erase`, `touch`, `move`), each of which asks for what keeps the tree rooted. -/

namespace FileTrees

/-- Device and inode. -/
structure FileId where
  device : ℕ
  inode : ℕ
  deriving DecidableEq, Repr

/-- What a file holds, and when it was written last. -/
structure FileData where
  content : List UInt8
  modified : Int
  deriving DecidableEq

/-- What a path can hold. -/
inductive Node where
  | directory (id : FileId)
  | file (id : FileId) (data : FileData)
  | symlink
  | special
  deriving DecidableEq

/-- Change the data of the file with an identity. -/
def Node.touch (id : FileId) (f : FileData → FileData) : Node → Node
  | .file other data => .file other (if other = id then f data else data)
  | node => node

/-- The inode of a node, when it has one. -/
def Node.inode : Node → ℕ
  | .directory id | .file id _ => id.inode
  | .symlink | .special => 0

@[simp] theorem Node.touch_eq_directory {node : Node} {id id' : FileId} {f : FileData → FileData} :
    node.touch id' f = .directory id ↔ node = .directory id := by
  cases node <;> simp [Node.touch]

/-- A node with another inode is not the file that changes. -/
theorem Node.touch_of_inode_ne {node : Node} {id : FileId} (f : FileData → FileData)
    (h : node.inode ≠ id.inode) : node.touch id f = node := by
  cases node with
  | file other data =>
      have hother : other ≠ id := fun hsame => h (hsame ▸ rfl)
      simp [Node.touch, hother]
  | _ => rfl

/-- A rooted tree: the root is a directory, and whatever a path holds stands in one. -/
structure FileTree (ν : Type) where
  node? : List ν → Option Node
  /-- The paths that hold something, and others. -/
  listed : List (List ν)
  mem_listed : ∀ path, node? path ≠ none → path ∈ listed
  root : ∃ id, node? [] = some (.directory id)
  rooted : ∀ path name, node? (path ++ [name]) ≠ none → ∃ id, node? path = some (.directory id)

namespace FileTree

/-- The tree that has only a root. -/
def bare {ν : Type} [DecidableEq ν] : FileTree ν where
  node? path := if path = [] then some (.directory ⟨0, 0⟩) else none
  listed := [[]]
  mem_listed path hpath := by
    split_ifs at hpath with hroot
    · simp [hroot]
    · exact absurd rfl hpath
  root := ⟨⟨0, 0⟩, rfl⟩
  rooted path name hpath := by simp at hpath

variable {ν : Type} (t : FileTree ν)

/-- A path that holds a directory. -/
def IsDirectory (path : List ν) : Prop := ∃ id, t.node? path = some (.directory id)

instance (path : List ν) : Decidable (t.IsDirectory path) :=
  decidable_of_iff ((t.node? path).any fun node => node matches .directory _) (by
    cases h : t.node? path with
    | none => simp [IsDirectory, h]
    | some node => cases node <;> simp [IsDirectory, h])

variable {t}

/-- What stands at a path other than the root stands in a directory. -/
theorem isDirectory_dropLast {path : List ν} (hpath : path ≠ []) (h : t.node? path ≠ none) :
    t.IsDirectory path.dropLast := by
  refine t.rooted path.dropLast (path.getLast hpath) ?_
  rwa [List.dropLast_append_getLast hpath]

theorem node?_below {path : List ν} (h : ¬ t.IsDirectory path) {below : List ν} (hbelow : below ≠ []) :
    t.node? (path ++ below) = none := by
  induction below using List.reverseRecOn with
  | nil => exact absurd rfl hbelow
  | append_singleton above name ih =>
      by_contra hsome
      rw [← List.append_assoc] at hsome
      obtain ⟨id, hid⟩ := t.rooted _ _ hsome
      by_cases habove : above = []
      · subst habove
        rw [List.append_nil] at hid
        exact h ⟨id, hid⟩
      · rw [ih habove] at hid
        cases hid

/-- A directory without children has nothing below it either. -/
theorem node?_below_of_childless {path : List ν} (h : ∀ name, t.node? (path ++ [name]) = none)
    {below : List ν} (hbelow : below ≠ []) : t.node? (path ++ below) = none := by
  obtain ⟨name, rest, rfl⟩ := List.exists_cons_of_ne_nil hbelow
  by_cases hrest : rest = []
  · rw [hrest]
    exact h name
  · rw [List.append_cons]
    refine node?_below ?_ hrest
    rintro ⟨id, hid⟩
    rw [h name] at hid
    cases hid

theorem childless_of_not_directory {path : List ν} (h : ¬ t.IsDirectory path) (name : ν) :
    t.node? (path ++ [name]) = none :=
  node?_below h (by simp)

/-! ## The names in a directory -/

section Names

variable [DecidableEq ν] (t)

/-- The names of what stands in a directory. -/
def names (path : List ν) : List ν :=
  (t.listed.filterMap fun listed =>
    if listed.dropLast = path ∧ (t.node? listed).isSome then listed.getLast? else none).dedup

variable {t}

theorem mem_names {path : List ν} {name : ν} :
    name ∈ t.names path ↔ t.node? (path ++ [name]) ≠ none := by
  simp only [names, List.mem_dedup, List.mem_filterMap, Option.ite_none_right_eq_some,
    List.getLast?_eq_some_iff]
  constructor
  · rintro ⟨listed, -, ⟨hparent, hsome⟩, before, rfl⟩
    rw [List.dropLast_concat] at hparent
    subst hparent
    exact Option.isSome_iff_ne_none.mp hsome
  · intro h
    exact ⟨_, t.mem_listed _ h, ⟨List.dropLast_concat, Option.isSome_iff_ne_none.mpr h⟩, path, rfl⟩

theorem nodup_names (path : List ν) : (t.names path).Nodup := List.nodup_dedup _

theorem names_eq_nil {path : List ν} :
    t.names path = [] ↔ ∀ name, t.node? (path ++ [name]) = none := by
  rw [List.eq_nil_iff_forall_not_mem]
  exact forall_congr' fun name => by rw [mem_names, not_not]

end Names

/-! ## Changes -/

section Changes

variable [DecidableEq ν]

/-- Put a node at a free path in a directory. -/
def insert (t : FileTree ν) (path : List ν) (node : Node) (hpath : path ≠ [])
    (hparent : t.IsDirectory path.dropLast) (hfree : t.node? path = none) : FileTree ν where
  node? := Function.update t.node? path (some node)
  listed := path :: t.listed
  mem_listed other h := by
    by_cases hsame : other = path
    · exact hsame ▸ List.mem_cons_self
    · rw [Function.update_of_ne hsame] at h
      exact List.mem_cons_of_mem _ (t.mem_listed other h)
  root := by
    rw [Function.update_of_ne hpath.symm]
    exact t.root
  rooted above name h := by
    have hkept : ∀ other, t.IsDirectory other →
        ∃ id, Function.update t.node? path (some node) other = some (.directory id) := by
      rintro other ⟨id, hid⟩
      refine ⟨id, ?_⟩
      rwa [Function.update_of_ne]
      rintro rfl
      rw [hfree] at hid
      cases hid
    by_cases hsame : above ++ [name] = path
    · refine hkept above ?_
      rwa [← hsame, List.dropLast_concat] at hparent
    · rw [Function.update_of_ne hsame] at h
      exact hkept above (t.rooted above name h)

/-- Take away what stands at a path, and has nothing below it. -/
def erase (t : FileTree ν) (path : List ν) (hpath : path ≠ [])
    (hleaf : ∀ name, t.node? (path ++ [name]) = none) : FileTree ν where
  node? := Function.update t.node? path none
  listed := t.listed
  mem_listed other h := by
    by_cases hsame : other = path
    · rw [hsame, Function.update_self] at h
      exact absurd rfl h
    · rw [Function.update_of_ne hsame] at h
      exact t.mem_listed other h
  root := by
    rw [Function.update_of_ne hpath.symm]
    exact t.root
  rooted above name h := by
    by_cases hsame : above ++ [name] = path
    · rw [hsame, Function.update_self] at h
      exact absurd rfl h
    · rw [Function.update_of_ne hsame] at h
      rw [Function.update_of_ne]
      · exact t.rooted above name h
      · rintro rfl
        exact h (hleaf name)

/-- Change the data of a file, at all of its links. -/
def touch (t : FileTree ν) (id : FileId) (f : FileData → FileData) : FileTree ν where
  node? path := (t.node? path).map (Node.touch id f)
  listed := t.listed
  mem_listed path h := t.mem_listed path fun hnone => h (by rw [hnone]; rfl)
  root := by simpa using t.root
  rooted above name h := by
    simpa using t.rooted above name fun hnone => h (by rw [hnone]; rfl)

/-- Where a path leads once `source` has moved to `target`. -/
def movedFrom (source target path : List ν) : Option (List ν) :=
  if target <+: path then some (source ++ path.drop target.length)
  else if source <+: path then none
  else some path

/-- Move what stands at a path, with everything below it, to a path that is free or is taken by what
    has nothing below it. -/
def move (t : FileTree ν) (source target : List ν) (htarget : target ≠ [])
    (hparent : t.IsDirectory target.dropLast) (hinside : ¬ source <+: target) : FileTree ν where
  node? path := (movedFrom source target path).bind t.node?
  listed := t.listed ++ t.listed.map fun path => target ++ path.drop source.length
  mem_listed path h := by
    unfold movedFrom at h
    split at h
    · next hbelow =>
        obtain ⟨rest, rfl⟩ := hbelow
        rw [List.drop_left, Option.bind_some] at h
        refine List.mem_append_right _ (List.mem_map.mpr ⟨_, t.mem_listed _ h, ?_⟩)
        rw [List.drop_left]
    · split at h
      · exact absurd rfl h
      · exact List.mem_append_left _ (t.mem_listed path h)
  root := by
    have hsourceRoot : source ≠ [] := by
      rintro rfl
      exact hinside List.nil_prefix
    rw [movedFrom, if_neg (by simpa using htarget), if_neg (by simpa using hsourceRoot)]
    exact t.root
  rooted above name h := by
    unfold movedFrom at h
    split at h
    · next hbelow =>
        -- below the target: either the target itself, or something in what moved
        by_cases hsame : above ++ [name] = target
        · have habove : above = target.dropLast := by rw [← hsame, List.dropLast_concat]
          have hshort : above.length < target.length := by
            rw [← hsame, List.length_append]
            exact Nat.lt_succ_self _
          rw [movedFrom, if_neg fun hbegins => by have := hbegins.length_le; omega]
          rw [if_neg fun hbegins => hinside (hsame ▸ hbegins.trans (List.prefix_append _ _))]
          rw [Option.bind_some, habove]
          exact hparent
        · have hbegins : target <+: above := by
            rcases List.prefix_concat_iff.mp hbelow with heq | hbegins
            · exact absurd heq.symm hsame
            · exact hbegins
          obtain ⟨rest, rfl⟩ := hbegins
          rw [movedFrom, if_pos (List.prefix_append _ _), List.drop_left]
          rw [List.append_assoc, List.drop_left, Option.bind_some, ← List.append_assoc] at h
          exact t.rooted _ _ h
    · next hnot =>
        split at h
        · exact absurd rfl h
        · next hout =>
            rw [Option.bind_some] at h
            rw [movedFrom, if_neg fun hbegins => hnot (hbegins.trans (List.prefix_append _ _)),
              if_neg fun hbegins => hout (hbegins.trans (List.prefix_append _ _))]
            exact t.rooted above name h

@[simp] theorem node?_insert (path : List ν) (node : Node) (hpath : path ≠ [])
    (hparent : t.IsDirectory path.dropLast) (hfree : t.node? path = none) :
    (t.insert path node hpath hparent hfree).node? = Function.update t.node? path (some node) := rfl

@[simp] theorem node?_erase (path : List ν) (hpath : path ≠ [])
    (hleaf : ∀ name, t.node? (path ++ [name]) = none) :
    (t.erase path hpath hleaf).node? = Function.update t.node? path none := rfl

/-- A write to a file that has one link shows at that link alone. -/
theorem node?_touch {path : List ν} {id : FileId} {data : FileData} (f : FileData → FileData)
    (hfile : t.node? path = some (.file id data))
    (hlink : ∀ other node, t.node? other = some node → node.inode = id.inode → other = path) :
    (t.touch id f).node? = Function.update t.node? path (some (.file id (f data))) := by
  funext other
  by_cases hother : other = path
  · subst hother
    simp [touch, hfile, Node.touch]
  · rw [Function.update_of_ne hother]
    change (t.node? other).map _ = _
    cases hnode : t.node? other with
    | none => rfl
    | some node =>
        rw [Option.map_some, Node.touch_of_inode_ne]
        exact fun hsame => hother (hlink other node hnode hsame)

/-- What has nothing below it moves alone. -/
theorem node?_move {source target : List ν} (htarget : target ≠ [])
    (hparent : t.IsDirectory target.dropLast) (hinside : ¬ source <+: target)
    (hsource : t.node? source ≠ none) (hbare : ∀ name, t.node? (source ++ [name]) = none)
    (hleaf : ∀ name, t.node? (target ++ [name]) = none) :
    (t.move source target htarget hparent hinside).node? =
      Function.update (Function.update t.node? source none) target (t.node? source) := by
  funext path
  change (movedFrom source target path).bind t.node? = _
  unfold movedFrom
  split
  · next hbelow =>
      obtain ⟨rest, rfl⟩ := hbelow
      rw [List.drop_left, Option.bind_some]
      by_cases hrest : rest = []
      · subst hrest
        rw [List.append_nil, List.append_nil, Function.update_self]
      · rw [node?_below_of_childless hbare hrest, Function.update_of_ne (by simpa using hrest),
          Function.update_of_ne, node?_below_of_childless hleaf hrest]
        -- the target has nothing below it, so the source is not there either
        rintro rfl
        exact hsource (node?_below_of_childless hleaf hrest)
  · next hnot =>
      rw [Function.update_of_ne (by rintro rfl; exact hnot (List.prefix_refl _))]
      split
      · next hbelow =>
          obtain ⟨rest, rfl⟩ := hbelow
          by_cases hrest : rest = []
          · subst hrest
            rw [List.append_nil, Function.update_self]
            rfl
          · rw [Function.update_of_ne (by simpa using hrest), node?_below_of_childless hbare hrest]
            rfl
      · next hout =>
          rw [Function.update_of_ne (by rintro rfl; exact hout (List.prefix_refl _))]
          rfl

end Changes

end FileTree

end FileTrees
