import NubiSync.Daemon.LocalCalls
import NubiSync.Library.Worklist

set_option autoImplicit false

/-! # The scan of the local tree

`scan_selected_root_local_tree` lists the tree below the local root breadth first. It refuses names that
are not UTF-8, links, and what is neither a directory nor a file, so that a tree that was scanned is one
of plain directories and files, and its entries are all of them, each once (`Scanned`). -/

namespace NubiSync

open Checks Methods FileTrees Worklist

/-- The kind of a node that a scan lists. -/
def localKind? : Node → Option LocalTreeEntryKind
  | .directory _ => some .directory
  | .file _ _ => some .file
  | .symlink | .special => none

/-- The limit on the entries of a scan. -/
def maxScannedEntries : ℕ := 1000000

section Scan

variable (files : FileTree FileName)

/-- The kind of an entry that is read, or why the scan ends at it. -/
def scannedKind (path : LocalPath) : Except LocalExecutorError LocalTreeEntryKind :=
  match files.node? path with
  | some (.directory _) => .ok .directory
  | some (.file _ _) => .ok .file
  | some .symlink => .error .localEntrySymlinkUnsupported
  | some .special => .error .localEntryTypeUnsupported
  | none => .error .localFilesystemInspectionFailed

/-- The `for entry in directory` of the scan: the entries, and the directories to read. -/
def scanNames (parent : LocalPath) (relativeParent : Text) :
    List FileName → List LocalTreeEntry → List (LocalPath × Text) →
      Except LocalExecutorError (List LocalTreeEntry × List (LocalPath × Text))
  | [], entries, queue => .ok (entries, queue)
  | name :: rest, entries, queue => do
      let text ← orRefuse name.intoString .localEntryNonUtf8
      let relativePath := if relativeParent.isEmpty then text else relativeParent.child text
      let kind ← scannedKind files (parent ++ [name])
      let entry ← (LocalTreeEntry.new relativePath kind).mapError
        fun error => .selectedRoot (.materializationPlan error)
      let entries := entries ++ [entry]
      refuseIf (decide (entries.length > maxScannedEntries)) .localScanSafetyLimitExceeded
      scanNames parent relativeParent rest entries
        (if kind = .directory then queue ++ [(parent ++ [name], relativePath)] else queue)

/-- The `while let` of the scan. Every directory but the root is an entry, so the limit on the entries
    bounds the directories that are read. -/
def scanQueue : ℕ → List (LocalPath × Text) → List LocalTreeEntry →
    Except LocalExecutorError (List LocalTreeEntry)
  | _, [], entries => .ok entries
  | 0, _ :: _, _ => .error .localScanSafetyLimitExceeded
  | fuel + 1, (parent, relativeParent) :: queue, entries => do
      let (entries, queue) ←
        scanNames files parent relativeParent (files.names parent) entries queue
      scanQueue fuel queue entries

/-- `scan_selected_root_local_tree`, of a tree. -/
def scanLocalTree : Except LocalExecutorError (List LocalTreeEntry) :=
  scanQueue files (maxScannedEntries + 1) [([], [])] []

end Scan

namespace ExecutorWorld

variable (world : ExecutorWorld)

/-- `validated_selected_root_path`. The root of a tree is a directory and no link. -/
def validatedSelectedRootPath : LocalMethod Unit := do
  let _ ← orThrow (world.look (·.metadata [])) .localRootUnavailable
  let _ ← orThrow (world.look (·.canonicalize [])) .localRootUnavailable
  pure ()

/-- `scan_selected_root_local_tree`. Its calls only read, and fail with one error. -/
def scanSelectedRootLocalTree : LocalMethod (List LocalTreeEntry) := do
  world.validatedSelectedRootPath
  let scan ← orThrow (world.look fun files => .ok (scanLocalTree files))
    .localFilesystemInspectionFailed
  ofExcept scan

end ExecutorWorld

/-! ## What a scan has listed -/

/-- What the paths of a tree hold. -/
abbrev LocalNodes := LocalPath → Option Node

/-- The entries are all that is below the root, each once, and all of it is plain. -/
structure Scanned (m : LocalNodes) (entries : List LocalTreeEntry) : Prop where
  utf8 : ∀ path, m path ≠ none → path.IsUtf8
  plain : ∀ path node, m path = some node → (localKind? node).isSome
  mem_iff : ∀ entry : LocalTreeEntry, entry ∈ entries ↔
    (m (localPath entry.relativePath)).bind localKind? = some entry.kind
  nodup : (entries.map LocalTreeEntry.relativePath).Nodup

section Spec

variable {files : FileTree FileName}

/-- What stands in a directory. -/
def children (files : FileTree FileName) (parent : LocalPath) : List LocalPath :=
  (files.names parent).map fun name => parent ++ [name]

/-- The directories among some paths. -/
def directories (files : FileTree FileName) (paths : List LocalPath) : List LocalPath :=
  paths.filter fun path => decide (files.IsDirectory path)

/-- What a scan says of a path. -/
def seen (files : FileTree FileName) (path : LocalPath) : Text × Option LocalTreeEntryKind :=
  (path.relative, (files.node? path).bind localKind?)

/-- What an entry says. -/
def entrySeen (entry : LocalTreeEntry) : Text × Option LocalTreeEntryKind :=
  (entry.relativePath, some entry.kind)

/-- A path in the queue of the scan. -/
def queued (path : LocalPath) : LocalPath × Text := (path, LocalPath.relative path)

theorem scannedKind_eq_ok {path : LocalPath} {kind : LocalTreeEntryKind} :
    scannedKind files path = .ok kind ↔ (files.node? path).bind localKind? = some kind := by
  unfold scannedKind
  cases h : files.node? path with
  | none => simp
  | some node => cases node <;> simp [localKind?]

theorem isDirectory_iff_localKind {path : LocalPath} :
    files.IsDirectory path ↔ (files.node? path).bind localKind? = some .directory := by
  unfold FileTree.IsDirectory
  cases h : files.node? path with
  | none => simp
  | some node => cases node <;> simp [localKind?]

theorem relative_child {parent : LocalPath} {name : FileName} {text : Text}
    (htext : name.intoString = some text) :
    (if parent.relative.isEmpty then text else parent.relative.child text)
      = LocalPath.relative (parent ++ [name]) := by
  by_cases h : parent.filterMap FileName.intoString = []
  · rw [LocalPath.relative_of_filterMap_eq_nil h htext, LocalPath.relative, h]
    rfl
  · have hne : parent.relative ≠ [] :=
      ((isSafeRelativePath_iff _).mp (LocalPath.safe_relative h)).1.1
    rw [if_neg (by simpa using hne), LocalPath.relative_concat h htext]

theorem scanNames_cons {parent : LocalPath} {name : FileName} (rest : List FileName)
    (entries : List LocalTreeEntry) (queue : List (LocalPath × Text)) {text : Text}
    (htext : name.intoString = some text) {kind : LocalTreeEntryKind}
    (hkind : (files.node? (parent ++ [name])).bind localKind? = some kind) :
    ∃ entry, entrySeen entry = seen files (parent ++ [name]) ∧
      scanNames files parent parent.relative (name :: rest) entries queue =
        (refuseIf (decide ((entries ++ [entry]).length > maxScannedEntries))
          .localScanSafetyLimitExceeded >>= fun _ =>
            scanNames files parent parent.relative rest (entries ++ [entry])
              (queue ++ (directories files [parent ++ [name]]).map queued)) := by
  have hsafe : isSafeRelativePath (LocalPath.relative (parent ++ [name])) = true :=
    LocalPath.safe_relative (by simp [htext])
  refine ⟨⟨LocalPath.relative (parent ++ [name]), kind, hsafe⟩, by rw [seen, hkind]; rfl, ?_⟩
  have hentry : LocalTreeEntry.new (LocalPath.relative (parent ++ [name])) kind = .ok
      ⟨LocalPath.relative (parent ++ [name]), kind, hsafe⟩ :=
    LocalTreeEntry.new_eq_ok_iff.mpr ⟨rfl, rfl⟩
  have hqueue : (if kind = .directory
      then queue ++ [(parent ++ [name], LocalPath.relative (parent ++ [name]))]
      else queue) = queue ++ (directories files [parent ++ [name]]).map queued := by
    unfold directories
    by_cases hdirectory : kind = .directory
    · rw [if_pos hdirectory, List.filter_cons_of_pos (by
        rw [decide_eq_true_iff, isDirectory_iff_localKind, hkind, hdirectory])]
      rfl
    · rw [if_neg hdirectory, List.filter_cons_of_neg (by
        rw [decide_eq_true_iff, isDirectory_iff_localKind, hkind]
        simpa using hdirectory)]
      simp
  rw [← hqueue, scanNames, htext]
  simp only [orRefuse, ok_bind, relative_child htext, scannedKind_eq_ok.mpr hkind, hentry, mapError_ok]

/-- Reading a directory lists what stands in it and queues the directories among it. -/
theorem scanNames_eq_ok {parent : LocalPath} {names : List FileName}
    {entries entries' : List LocalTreeEntry} {queue queue' : List (LocalPath × Text)}
    (h : scanNames files parent parent.relative names entries queue = .ok (entries', queue')) :
    LocalPath.IsUtf8 names ∧ (∃ new, entries' = entries ++ new ∧
      new.map entrySeen = (names.map fun name => parent ++ [name]).map (seen files)) ∧
    queue' = queue ++ (directories files (names.map fun name => parent ++ [name])).map queued := by
  induction names generalizing entries queue with
  | nil =>
      obtain ⟨rfl, rfl⟩ := Prod.mk.inj (Except.ok.inj h)
      exact ⟨nofun, ⟨[], by simp, rfl⟩, by simp [directories]⟩
  | cons name rest ih =>
      have hread := h
      rw [scanNames] at hread
      obtain ⟨text, htext, hread⟩ := (orRefuse_bind_eq_ok _ _ _ _).mp hread
      obtain ⟨kind, hscanned, -⟩ := bind_eq_ok.mp hread
      obtain ⟨entry, hentry, hnext⟩ :=
        scanNames_cons rest entries queue htext (scannedKind_eq_ok.mp hscanned)
      rw [hnext, refuseIf_bind_eq_ok] at h
      obtain ⟨hutf8, ⟨new, hnew, hlisted⟩, hqueue⟩ := ih h.2
      refine ⟨List.forall_mem_cons.mpr ⟨by rw [htext]; rfl, hutf8⟩,
        ⟨entry :: new, by rw [hnew, List.append_assoc, List.singleton_append], ?_⟩, ?_⟩
      · rw [List.map_cons, hentry, hlisted]
        rfl
      · rw [hqueue, List.append_assoc, ← List.map_append]
        congr 2
        exact (List.filter_append [parent ++ [name]] _).symm

/-- The directories that reading a directory queues. -/
def nextDirectories (files : FileTree FileName) (parent : LocalPath) : List LocalPath :=
  directories files (children files parent)

/-- A scan drains the directories and lists what stands in each. -/
theorem scanQueue_eq_ok {fuel : ℕ} (queue : List LocalPath) {entries out : List LocalTreeEntry}
    (h : scanQueue files fuel (queue.map queued) entries = .ok out) :
    ∃ popped new, drain (nextDirectories files) fuel queue = some popped ∧
      (∀ parent ∈ popped, LocalPath.IsUtf8 (files.names parent)) ∧ out = entries ++ new ∧
      new.map entrySeen = (popped.flatMap (children files)).map (seen files) := by
  induction fuel generalizing queue entries with
  | zero =>
      cases queue with
      | nil =>
          obtain rfl := Except.ok.inj h
          exact ⟨[], [], by simp, nofun, by simp, rfl⟩
      | cons parent queue => cases h
  | succ fuel ih =>
      cases queue with
      | nil =>
          obtain rfl := Except.ok.inj h
          exact ⟨[], [], by simp, nofun, by simp, rfl⟩
      | cons parent queue =>
          rw [List.map_cons, queued, scanQueue] at h
          obtain ⟨⟨entries', queue'⟩, hread, h⟩ := bind_eq_ok.mp h
          obtain ⟨hutf8, ⟨new, rfl, hnew⟩, rfl⟩ := scanNames_eq_ok hread
          change scanQueue files fuel (queue.map queued ++ (nextDirectories files parent).map queued)
            _ = _ at h
          rw [← List.map_append] at h
          obtain ⟨popped, rest, hdrain, hnames, rfl, hrest⟩ := ih _ h
          refine ⟨parent :: popped, new ++ rest, ?_, List.forall_mem_cons.mpr ⟨hutf8, hnames⟩,
            List.append_assoc _ _ _, ?_⟩
          · rw [drain_succ_cons, hdrain]
            rfl
          · rw [List.flatMap_cons, List.map_append, List.map_append, hnew, hrest]
            rfl

theorem mem_children {parent path : LocalPath} :
    path ∈ children files parent ↔ files.node? path ≠ none ∧ ∃ name, path = parent ++ [name] := by
  rw [children, List.mem_map]
  constructor
  · rintro ⟨name, hname, rfl⟩
    exact ⟨FileTree.mem_names.mp hname, name, rfl⟩
  · rintro ⟨hsome, name, rfl⟩
    exact ⟨name, FileTree.mem_names.mpr hsome, rfl⟩

theorem mem_nextDirectories {parent path : LocalPath} :
    path ∈ nextDirectories files parent ↔
      files.IsDirectory path ∧ ∃ name, path = parent ++ [name] := by
  rw [nextDirectories, directories, List.mem_filter, mem_children, decide_eq_true_iff]
  constructor
  · rintro ⟨⟨-, hname⟩, hdirectory⟩
    exact ⟨hdirectory, hname⟩
  · rintro ⟨⟨id, hid⟩, hname⟩
    exact ⟨⟨by rw [hid]; exact Option.some_ne_none _, hname⟩, id, hid⟩

/-- The worklist reaches the directories of the tree. -/
theorem reach_iff {path : LocalPath} :
    Reach (nextDirectories files) [[]] path ↔ files.IsDirectory path := by
  constructor
  · rintro ⟨start, hstart, hsteps⟩
    obtain rfl := List.mem_singleton.mp hstart
    cases hsteps with
    | refl => exact files.root
    | tail _ hstep => exact (mem_nextDirectories.mp hstep).1
  · intro hdirectory
    induction path using List.reverseRecOn with
    | nil => exact .of_mem (List.mem_singleton.mpr rfl)
    | append_singleton above name ih =>
        have hsome : files.node? (above ++ [name]) ≠ none := by
          obtain ⟨id, hid⟩ := hdirectory
          rw [hid]
          exact Option.some_ne_none _
        exact (ih (files.rooted above name hsome)).step
          (mem_nextDirectories.mpr ⟨hdirectory, name, rfl⟩)

theorem nodup_children (parent : LocalPath) : (children files parent).Nodup :=
  (FileTree.nodup_names parent).map fun _ _ h => by simpa using h

theorem nextDirectories_forest (files : FileTree FileName) : Forest (nextDirectories files) [[]] where
  nodup_seeds := List.nodup_singleton _
  nodup_next parent _ := (nodup_children parent).filter _
  unique_pred := by
    intro parent other _ _ path hpath hother
    obtain ⟨-, name, rfl⟩ := mem_nextDirectories.mp hpath
    obtain ⟨-, name', hsame⟩ := mem_nextDirectories.mp hother
    exact (List.append_inj' hsame rfl).1
  seed_fresh := by
    intro parent _ seed hseed hmem
    obtain ⟨-, name, hsame⟩ := mem_nextDirectories.mp hmem
    rw [List.mem_singleton.mp hseed] at hsame
    simp at hsame

/-- What a drained worklist has read: everything below the root, each path once. -/
theorem drained {fuel : ℕ} {popped : List LocalPath}
    (h : drain (nextDirectories files) fuel [[]] = some popped) :
    (∀ path, path ∈ popped.flatMap (children files) ↔ path ≠ [] ∧ files.node? path ≠ none) ∧
      (popped.Nodup → (popped.flatMap (children files)).Nodup) := by
  constructor
  · intro path
    rw [List.mem_flatMap]
    constructor
    · rintro ⟨parent, -, hpath⟩
      obtain ⟨hsome, name, rfl⟩ := mem_children.mp hpath
      exact ⟨by simp, hsome⟩
    · rintro ⟨hne, hsome⟩
      have hsplit := List.dropLast_append_getLast hne
      refine ⟨path.dropLast, (mem_drain_iff h _).mpr (reach_iff.mpr ?_),
        mem_children.mpr ⟨hsome, path.getLast hne, hsplit.symm⟩⟩
      exact FileTree.isDirectory_dropLast hne hsome
  · intro hnodup
    refine List.nodup_flatMap.mpr ⟨fun parent _ => nodup_children parent, hnodup.imp ?_⟩
    intro parent other hne path hpath hother
    obtain ⟨-, name, rfl⟩ := mem_children.mp hpath
    obtain ⟨-, name', hsame⟩ := mem_children.mp hother
    exact hne (List.append_inj' hsame rfl).1

/-- The names that a drained worklist has read are those of all paths. -/
theorem utf8_of_drained {fuel : ℕ} {popped : List LocalPath}
    (h : drain (nextDirectories files) fuel [[]] = some popped) :
    (∀ parent ∈ popped, LocalPath.IsUtf8 (files.names parent)) ↔
      ∀ path : LocalPath, files.node? path ≠ none → path.IsUtf8 := by
  constructor
  · intro hnames path hsome
    induction path using List.reverseRecOn with
    | nil => exact fun name hname => nomatch hname
    | append_singleton above name ih =>
        have habove := files.rooted above name hsome
        have hdirectory := habove
        obtain ⟨id, hid⟩ := hdirectory
        refine LocalPath.isUtf8_concat.mpr ⟨ih (by rw [hid]; exact Option.some_ne_none _), ?_⟩
        exact hnames above ((mem_drain_iff h _).mpr (reach_iff.mpr habove)) name
          (FileTree.mem_names.mpr hsome)
  · intro hutf8 parent _ name hname
    exact (LocalPath.isUtf8_concat.mp (hutf8 _ (FileTree.mem_names.mp hname))).2

/-- The directories of a tree drain within a bound on its paths. -/
theorem exists_drained {paths : List LocalPath} (hpaths : ∀ path, files.node? path ≠ none → path ∈ paths)
    (fuel : ℕ) (hfuel : paths.length ≤ fuel) :
    ∃ popped, drain (nextDirectories files) fuel [[]] = some popped ∧ popped.Nodup := by
  have hreached : ∀ path, Reach (nextDirectories files) [[]] path → path ∈ paths := fun path hpath => by
    obtain ⟨id, hid⟩ := reach_iff.mp hpath
    exact hpaths path (by rw [hid]; exact Option.some_ne_none _)
  exact drain_isSome_of_forest (nextDirectories_forest files) hreached fuel hfuel

/-! ## The scan -/

/-- A drained worklist pops no directory twice. -/
theorem nodup_of_drained {fuel : ℕ} {popped : List LocalPath}
    (h : drain (nextDirectories files) fuel [[]] = some popped) : popped.Nodup := by
  obtain ⟨popped', hdrain, hnodup⟩ := exists_drained files.mem_listed
    (max fuel files.listed.length) (le_max_right _ _)
  rw [drain_mono (le_max_left _ _) h] at hdrain
  exact Option.some.inj hdrain ▸ hnodup

theorem entrySeen_injective : Function.Injective entrySeen := by
  rintro ⟨relativePath, kind, safe⟩ ⟨relativePath', kind', safe'⟩ h
  obtain ⟨rfl, hkind⟩ := Prod.mk.inj h
  obtain rfl : kind = kind' := Option.some.inj hkind
  rfl

theorem entrySeen_eq_iff {entry : LocalTreeEntry} {path : LocalPath} (hne : path ≠ [])
    (hutf8 : path.IsUtf8) :
    entrySeen entry = seen files path ↔
      localPath entry.relativePath = path ∧ (files.node? path).bind localKind? = some entry.kind := by
  rw [entrySeen, seen, Prod.mk.injEq]
  refine and_congr ⟨fun h => ?_, fun h => ?_⟩ eq_comm
  · rw [h, LocalPath.localPath_relative hne hutf8]
  · rw [← h, relative_localPath entry.safe]

/-- **What a scan lists.** -/
theorem scanned_of_ok {entries : List LocalTreeEntry} (h : scanLocalTree files = .ok entries) :
    Scanned files.node? entries := by
  obtain ⟨popped, _, hdrain, hnames, rfl, hlisted⟩ := scanQueue_eq_ok [[]] h
  obtain ⟨hmem, hnodup⟩ := drained hdrain
  have hutf8 := (utf8_of_drained hdrain).mp hnames
  have hentry : ∀ path, path ≠ [] → files.node? path ≠ none →
      ∃ entry ∈ entries, entrySeen entry = seen files path := by
    intro path hne hsome
    have hpath := List.mem_map_of_mem (f := seen files) ((hmem path).mpr ⟨hne, hsome⟩)
    rwa [← hlisted, List.mem_map] at hpath
  refine ⟨hutf8, fun path node hnode => ?_, fun entry => ?_, ?_⟩
  · by_cases hne : path = []
    · subst hne
      obtain ⟨id, hid⟩ := files.root
      obtain rfl := Option.some.inj (hid.symm.trans hnode)
      rfl
    · have hsome : files.node? path ≠ none := by
        rw [hnode]
        exact Option.some_ne_none _
      obtain ⟨entry, -, hseen⟩ := hentry path hne hsome
      have hkind := ((entrySeen_eq_iff hne (hutf8 path hsome)).mp hseen).2
      rw [hnode, Option.bind_some] at hkind
      rw [hkind]
      rfl
  · constructor
    · intro hmem'
      have hseen := List.mem_map_of_mem (f := entrySeen) hmem'
      rw [hlisted, List.mem_map] at hseen
      obtain ⟨path, hpath, hseen⟩ := hseen
      obtain ⟨hne, hsome⟩ := (hmem path).mp hpath
      obtain ⟨rfl, hkind⟩ := (entrySeen_eq_iff hne (hutf8 path hsome)).mp hseen.symm
      exact hkind
    · intro hkind
      have hne := localPath_ne_nil entry.safe
      have hsome : files.node? (localPath entry.relativePath) ≠ none := by
        intro hnone
        rw [hnone] at hkind
        cases hkind
      obtain ⟨other, hother, hseen⟩ := hentry _ hne hsome
      have hsame := (entrySeen_eq_iff hne (hutf8 _ hsome)).mpr ⟨rfl, hkind⟩
      rwa [entrySeen_injective (hseen.trans hsame.symm)] at hother
  · have hpaths : entries.map LocalTreeEntry.relativePath =
        (popped.flatMap (children files)).map LocalPath.relative := by
      have hfirst := congrArg (List.map Prod.fst) hlisted
      rwa [List.map_map, List.map_map] at hfirst
    rw [hpaths]
    refine (hnodup (nodup_of_drained hdrain)).map_on fun path hpath other hother hsame => ?_
    obtain ⟨hne, hsome⟩ := (hmem path).mp hpath
    obtain ⟨hne', hsome'⟩ := (hmem other).mp hother
    exact LocalPath.relative_injective hne (hutf8 path hsome) hne' (hutf8 other hsome') hsame

end Spec

end NubiSync
