import NubiSync.Library.FileTree

set_option autoImplicit false

/-! # Calls on a file tree

What the system calls of a program do to a tree, and which error they give: a path is followed from the
root on, a new name needs a free place in a directory, a rename replaces a file by a file and an empty
directory by a directory, and does nothing between two links of one file. The lemmas beside a call say
what it does where it succeeds. -/

namespace FileTrees

/-- `std::io::ErrorKind`, as far as programs tell errors apart. -/
inductive IoError where
  | notFound
  | alreadyExists
  | other
  deriving DecidableEq, Repr

namespace FileTree

variable {ν : Type} (t : FileTree ν)

/-! ## Reading -/

/-- Follow names from a path on. -/
def walk : List ν → List ν → Except IoError Node
  | above, [] =>
      match t.node? above with
      | some node => .ok node
      | none => .error .notFound
  | above, name :: rest =>
      match t.node? above with
      | some (.directory _) => walk (above ++ [name]) rest
      | some _ => .error .other
      | none => .error .notFound

/-- `lstat`. -/
def metadata (path : List ν) : Except IoError Node := t.walk [] path

/-- Why nothing can be done at a path. -/
def refusal (path : List ν) : IoError :=
  match t.metadata path with
  | .error error => error
  | .ok _ => .other

variable {t}

theorem walk_of_some {above names : List ν} {node : Node} (h : t.node? (above ++ names) = some node) :
    t.walk above names = .ok node := by
  induction names generalizing above with
  | nil => rw [walk, ← List.append_nil above, h]
  | cons name rest ih =>
      obtain ⟨id, hid⟩ : t.IsDirectory above := by
        by_contra hnot
        rw [node?_below hnot (List.cons_ne_nil _ _)] at h
        cases h
      simp only [walk, hid]
      exact ih (by rwa [List.append_assoc])

theorem metadata_of_some {path : List ν} {node : Node} (h : t.node? path = some node) :
    t.metadata path = .ok node := walk_of_some h

theorem walk_eq_ok {above names : List ν} {node : Node} (h : t.walk above names = .ok node) :
    t.node? (above ++ names) = some node := by
  induction names generalizing above with
  | nil =>
      rw [List.append_nil]
      unfold walk at h
      split at h
      · next found hfound => rw [hfound, Except.ok.inj h]
      · cases h
  | cons name rest ih =>
      unfold walk at h
      split at h
      · rw [List.append_cons]
        exact ih h
      · cases h
      · cases h

theorem metadata_eq_ok_iff {path : List ν} {node : Node} :
    t.metadata path = .ok node ↔ t.node? path = some node :=
  ⟨walk_eq_ok, metadata_of_some⟩

theorem node?_of_metadata_error {path : List ν} {error : IoError} (h : t.metadata path = .error error) :
    t.node? path = none := by
  cases hnode : t.node? path with
  | none => rfl
  | some node =>
      rw [metadata_of_some hnode] at h
      cases h

variable (t)

/-- Open what is no link. -/
def openPath (path : List ν) : Except IoError Node :=
  match t.metadata path with
  | .ok .symlink => .error .other
  | .ok node => .ok node
  | .error error => .error error

/-- `canonicalize`, of a path without links. -/
def canonicalize (path : List ν) : Except IoError (List ν) := (t.openPath path).map fun _ => path

/-- Read a file to its end. -/
def readFile (path : List ν) : Except IoError (List UInt8) :=
  match t.metadata path with
  | .ok (.file _ data) => .ok data.content
  | .ok _ => .error .other
  | .error error => .error error

variable {t}

theorem readFile_of_file {path : List ν} {id : FileId} {data : FileData}
    (h : t.node? path = some (.file id data)) : t.readFile path = .ok data.content := by
  rw [readFile, metadata_of_some h]

/-! ## New names -/

variable (t)

/-- An inode that no node has. -/
def freshInode : ℕ := (t.listed.filterMap t.node?).foldr (fun node bound => node.inode + bound) 1

/-- The identity of a new node, on the device of the root. -/
def fresh : FileId where
  device := match t.node? [] with
    | some (.directory id) => id.device
    | _ => 0
  inode := t.freshInode

variable {t}

theorem inode_lt_bound {nodes : List Node} {node : Node} (h : node ∈ nodes) :
    node.inode < nodes.foldr (fun node bound => node.inode + bound) 1 := by
  have hpos : ∀ nodes : List Node, 0 < nodes.foldr (fun node bound => node.inode + bound) 1 := by
    intro nodes
    induction nodes with
    | nil => exact Nat.one_pos
    | cons node rest ih => exact Nat.lt_of_lt_of_le ih (Nat.le_add_left _ _)
  induction nodes with
  | nil => cases h
  | cons other rest ih =>
      rw [List.foldr_cons]
      rcases List.mem_cons.mp h with rfl | h
      · exact Nat.lt_add_of_pos_right (hpos rest)
      · exact Nat.lt_of_lt_of_le (ih h) (Nat.le_add_left _ _)

theorem inode_ne_fresh {path : List ν} {node : Node} (h : t.node? path = some node) :
    node.inode ≠ t.fresh.inode := by
  have hmem : node ∈ t.listed.filterMap t.node? :=
    List.mem_filterMap.mpr ⟨path, t.mem_listed path (by rw [h]; exact Option.some_ne_none _), h⟩
  exact (inode_lt_bound hmem).ne

section Changes

variable [DecidableEq ν] (t)

/-- Give a node a name that is free. -/
def place (path : List ν) (node : Node) : Except IoError (FileTree ν) :=
  if hfree : t.node? path = none then
    if hparent : path ≠ [] ∧ t.IsDirectory path.dropLast then
      .ok (t.insert path node hparent.1 hparent.2 hfree)
    else .error (t.refusal path)
  else .error .alreadyExists

/-- `mkdir`. -/
def createDirectory (path : List ν) : Except IoError (FileTree ν × Unit) :=
  (t.place path (.directory t.fresh)).map (·, ())

/-- `open` with `O_CREAT` and `O_EXCL`: the file that is written through the handle. -/
def createFile (path : List ν) (now : Int) : Except IoError (FileTree ν × FileId) :=
  (t.place path (.file t.fresh ⟨[], now⟩)).map (·, t.fresh)

/-- `write` through a handle, at the end of what it has written. -/
def append (id : FileId) (bytes : List UInt8) (now : Int) : FileTree ν :=
  t.touch id fun data => ⟨data.content ++ bytes, now⟩

def link (source target : List ν) : Except IoError (FileTree ν × Unit) :=
  match t.metadata source with
  | .ok (.file id data) => (t.place target (.file id data)).map (·, ())
  | .ok _ => .error .other
  | .error error => .error error

/-- `unlink`. -/
def removeFile (path : List ν) : Except IoError (FileTree ν × Unit) :=
  if h : ¬ t.IsDirectory path ∧ t.node? path ≠ none then
    .ok (t.erase path (fun hroot => h.1 (hroot ▸ t.root)) (childless_of_not_directory h.1), ())
  else .error (t.refusal path)

/-- `rmdir`. -/
def removeDirectory (path : List ν) : Except IoError (FileTree ν × Unit) :=
  if h : path ≠ [] ∧ t.IsDirectory path ∧ t.names path = [] then
    .ok (t.erase path h.1 (names_eq_nil.mp h.2.2), ())
  else .error (t.refusal path)

/-- Whether one node may take the place of another. -/
def mayReplace (source : Node) (target : List ν) : Bool :=
  match source, t.node? target with
  | _, none => true
  | .directory _, some (.directory _) => (t.names target).isEmpty
  | .directory _, some _ => false
  | _, some (.directory _) => false
  | _, some _ => true

/-- Two paths that name one file. -/
def sameFile (source : Node) (target : List ν) : Bool :=
  match source, t.node? target with
  | .file id _, some (.file id' _) => id == id'
  | _, _ => false

def rename (source target : List ν) : Except IoError (FileTree ν × Unit) :=
  match t.metadata source with
  | .error error => .error error
  | .ok node =>
      if source = target ∨ t.sameFile node target = true then .ok (t, ())
      else if h : (target ≠ [] ∧ t.IsDirectory target.dropLast ∧ ¬ source <+: target)
          ∧ t.mayReplace node target = true then
        .ok (t.move source target h.1.1 h.1.2.1 h.1.2.2, ())
      else .error (t.refusal target)

variable {t}

theorem place_of_free {path : List ν} (node : Node) (hpath : path ≠ [])
    (hparent : t.IsDirectory path.dropLast) (hfree : t.node? path = none) :
    ∃ after, t.place path node = .ok after ∧
      after.node? = Function.update t.node? path (some node) :=
  ⟨_, by rw [place, dif_pos hfree, dif_pos ⟨hpath, hparent⟩], rfl⟩

theorem place_of_taken {path : List ν} (node : Node) (h : t.node? path ≠ none) :
    t.place path node = .error .alreadyExists := by
  rw [place, dif_neg h]

theorem createDirectory_of_free {path : List ν} (hpath : path ≠ [])
    (hparent : t.IsDirectory path.dropLast) (hfree : t.node? path = none) :
    ∃ after, t.createDirectory path = .ok (after, ()) ∧
      after.node? = Function.update t.node? path (some (.directory t.fresh)) := by
  obtain ⟨after, hplace, hafter⟩ := place_of_free (.directory t.fresh) hpath hparent hfree
  exact ⟨after, by rw [createDirectory, hplace]; rfl, hafter⟩

theorem createFile_of_free {path : List ν} (now : Int) (hpath : path ≠ [])
    (hparent : t.IsDirectory path.dropLast) (hfree : t.node? path = none) :
    ∃ after, t.createFile path now = .ok (after, t.fresh) ∧
      after.node? = Function.update t.node? path (some (.file t.fresh ⟨[], now⟩)) := by
  obtain ⟨after, hplace, hafter⟩ := place_of_free (.file t.fresh ⟨[], now⟩) hpath hparent hfree
  exact ⟨after, by rw [createFile, hplace]; rfl, hafter⟩

theorem createFile_of_taken {path : List ν} (now : Int) (h : t.node? path ≠ none) :
    t.createFile path now = .error .alreadyExists := by
  rw [createFile, place_of_taken _ h]
  rfl

theorem link_of_free {source target : List ν} {id : FileId} {data : FileData}
    (hsource : t.node? source = some (.file id data)) (htarget : target ≠ [])
    (hparent : t.IsDirectory target.dropLast) (hfree : t.node? target = none) :
    ∃ after, t.link source target = .ok (after, ()) ∧
      after.node? = Function.update t.node? target (some (.file id data)) := by
  obtain ⟨after, hplace, hafter⟩ := place_of_free (.file id data) htarget hparent hfree
  exact ⟨after, by rw [link, metadata_of_some hsource]; simp only [hplace]; rfl, hafter⟩

theorem removeFile_of_file {path : List ν} {id : FileId} {data : FileData}
    (h : t.node? path = some (.file id data)) :
    ∃ after, t.removeFile path = .ok (after, ()) ∧
      after.node? = Function.update t.node? path none := by
  have hfile : ¬ t.IsDirectory path ∧ t.node? path ≠ none := by
    constructor
    · rintro ⟨id, hid⟩
      rw [h] at hid
      cases hid
    · rw [h]
      exact Option.some_ne_none _
  exact ⟨_, by rw [removeFile, dif_pos hfile], rfl⟩

theorem removeDirectory_of_empty {path : List ν} (hpath : path ≠ []) (h : t.IsDirectory path)
    (hleaf : ∀ name, t.node? (path ++ [name]) = none) :
    ∃ after, t.removeDirectory path = .ok (after, ()) ∧
      after.node? = Function.update t.node? path none :=
  ⟨_, by rw [removeDirectory, dif_pos ⟨hpath, h, names_eq_nil.mpr hleaf⟩], rfl⟩

omit [DecidableEq ν] in
/-- A path with the parent of another lies below it only if it is the same. -/
theorem not_prefix_of_sibling {source target : List ν} (hsource : source ≠ []) (htarget : target ≠ [])
    (hsibling : source.dropLast = target.dropLast) (hne : source ≠ target) : ¬ source <+: target := by
  intro hbegins
  refine hne (hbegins.eq_of_length ?_)
  have hlengths := congrArg List.length hsibling
  rw [List.length_dropLast, List.length_dropLast] at hlengths
  have := List.length_pos_iff.mpr hsource
  have := List.length_pos_iff.mpr htarget
  omega

theorem rename_eq_move {source target : List ν} {node : Node} (hsource : t.node? source = some node)
    (hsame : ¬ (source = target ∨ t.sameFile node target = true)) (htarget : target ≠ [])
    (hparent : t.IsDirectory target.dropLast) (hinside : ¬ source <+: target)
    (hreplace : t.mayReplace node target = true) :
    t.rename source target = .ok (t.move source target htarget hparent hinside, ()) := by
  have h : (target ≠ [] ∧ t.IsDirectory target.dropLast ∧ ¬ source <+: target)
      ∧ t.mayReplace node target = true := ⟨⟨htarget, hparent, hinside⟩, hreplace⟩
  rw [rename, metadata_of_some hsource]
  simp only [if_neg hsame, dif_pos h]

/-- What has nothing below it can be renamed to a free name beside it. -/
theorem rename_of_free {source target : List ν} {node : Node} (hsource : t.node? source = some node)
    (hbare : ∀ name, t.node? (source ++ [name]) = none) (hroot : source ≠ []) (htarget : target ≠ [])
    (hsibling : source.dropLast = target.dropLast) (hfree : t.node? target = none) :
    ∃ after, t.rename source target = .ok (after, ()) ∧
      after.node? = Function.update (Function.update t.node? source none) target (some node) := by
  have hsome : t.node? source ≠ none := by
    rw [hsource]
    exact Option.some_ne_none _
  have hne : source ≠ target := by
    rintro rfl
    exact hsome hfree
  have hparent : t.IsDirectory target.dropLast := hsibling ▸ isDirectory_dropLast hroot hsome
  have hinside := not_prefix_of_sibling hroot htarget hsibling hne
  have hsame : ¬ (source = target ∨ t.sameFile node target = true) := by
    rintro (heq | hfile)
    · exact hne heq
    · simp [sameFile, hfree] at hfile
  have hreplace : t.mayReplace node target = true := by simp [mayReplace, hfree]
  refine ⟨_, rename_eq_move hsource hsame htarget hparent hinside hreplace, ?_⟩
  have hleaf : ∀ name, t.node? (target ++ [name]) = none :=
    childless_of_not_directory (by rintro ⟨id, hid⟩; rw [hfree] at hid; cases hid)
  rw [node?_move htarget hparent hinside hsome hbare hleaf, hsource]

/-- A file renamed to another file beside it takes its place. -/
theorem rename_of_file {source target : List ν} {id id' : FileId} {data data' : FileData}
    (hsource : t.node? source = some (.file id data)) (hfile : t.node? target = some (.file id' data'))
    (hid : id ≠ id') (hsibling : source.dropLast = target.dropLast) :
    ∃ after, t.rename source target = .ok (after, ()) ∧
      after.node? =
        Function.update (Function.update t.node? source none) target (some (.file id data)) := by
  have hnot : ∀ {path : List ν} {id : FileId} {data : FileData},
      t.node? path = some (.file id data) → ¬ t.IsDirectory path := by
    rintro path id data hpath ⟨id', hid'⟩
    rw [hpath] at hid'
    cases hid'
  have hroot : source ≠ [] := fun h => hnot hsource (h ▸ t.root)
  have htarget : target ≠ [] := fun h => hnot hfile (h ▸ t.root)
  have hsome : t.node? source ≠ none := by
    rw [hsource]
    exact Option.some_ne_none _
  have hne : source ≠ target := by
    rintro rfl
    rw [hsource] at hfile
    exact hid (Node.file.inj (Option.some.inj hfile)).1
  have hparent : t.IsDirectory target.dropLast := hsibling ▸ isDirectory_dropLast hroot hsome
  have hinside := not_prefix_of_sibling hroot htarget hsibling hne
  have hsame : ¬ (source = target ∨ t.sameFile (.file id data) target = true) := by
    rintro (heq | hsame)
    · exact hne heq
    · simp only [sameFile, hfile, beq_iff_eq] at hsame
      exact hid hsame
  have hreplace : t.mayReplace (.file id data) target = true := by simp [mayReplace, hfile]
  refine ⟨_, rename_eq_move hsource hsame htarget hparent hinside hreplace, ?_⟩
  rw [node?_move htarget hparent hinside hsome (childless_of_not_directory (hnot hsource))
    (childless_of_not_directory (hnot hfile)), hsource]

end Changes

end FileTree

end FileTrees
