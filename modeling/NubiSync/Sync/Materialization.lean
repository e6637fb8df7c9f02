import NubiSync.Library.Counting
import NubiSync.Sync.CatalogTree

set_option autoImplicit false

/-! # Receive-only materialization

`plan_receive_only_materialization` compares the expected paths with a scan of the local tree and
counts what is missing, present, local-only or of the wrong type. The executors of the materializing
phases take their admission checks and their targets from here. -/

namespace NubiSync

open Indexing

inductive LocalTreeEntryKind where
  | file
  | directory
  deriving DecidableEq, Repr

/-- `LocalTreeEntry`. The path is private to the source module and only `LocalTreeEntry::new` builds
    one, so a local entry carries the proof that its path passed the check. -/
structure LocalTreeEntry where
  relativePath : Text
  kind : LocalTreeEntryKind
  safe : isSafeRelativePath relativePath = true

instance : DecidableEq LocalTreeEntry := fun a b =>
  decidable_of_iff (a.relativePath = b.relativePath ∧ a.kind = b.kind) (by cases a; cases b; simp)

def LocalTreeEntry.new (relativePath : Text) (kind : LocalTreeEntryKind) :
    Except ReceiveOnlyMaterializationPlanError LocalTreeEntry :=
  if h : isSafeRelativePath relativePath = true then .ok ⟨relativePath, kind, h⟩
  else .error .invalidLocalRelativePath

theorem LocalTreeEntry.new_eq_ok_iff {path : Text} {kind : LocalTreeEntryKind}
    {entry : LocalTreeEntry} :
    LocalTreeEntry.new path kind = .ok entry ↔
      entry.relativePath = path ∧ entry.kind = kind := by
  unfold LocalTreeEntry.new
  split
  · rw [Except.ok.injEq]
    constructor
    · rintro rfl
      exact ⟨rfl, rfl⟩
    · rintro ⟨rfl, rfl⟩
      rfl
  · next hunsafe =>
      refine ⟨fun h => by simp at h, ?_⟩
      rintro ⟨rfl, rfl⟩
      exact absurd entry.safe hunsafe

structure ReceiveOnlyMaterializationPlan where
  remoteItems : ℕ
  remoteDirectories : ℕ
  remoteFiles : ℕ
  localEntries : ℕ
  missingDirectories : ℕ
  missingFiles : ℕ
  matchingDirectories : ℕ
  existingFilesUnverified : ℕ
  localOnlyEntries : ℕ
  typeConflicts : ℕ
  deriving DecidableEq, Repr

def ReceiveOnlyMaterializationPlan.readyForDirectoryPhase (plan : ReceiveOnlyMaterializationPlan) :
    Bool :=
  plan.typeConflicts == 0 && plan.localOnlyEntries == 0

structure ReceiveOnlyDirectoryTarget where
  remoteId : Text
  relativePath : Text
  deriving DecidableEq, Repr

structure ReceiveOnlyFileTarget where
  remoteId : Text
  relativePath : Text
  sizeBytes : Option ℕ
  deriving DecidableEq, Repr

/-! ## The planner -/

/-- The kinds of the scanned local entries by path. -/
abbrev LocalByPath := AList fun _ : Text => LocalTreeEntryKind

/-- The loop that indexes the local entries by path and refuses a path listed twice. -/
def indexLocalEntries (localByPath : LocalByPath) :
    List LocalTreeEntry → Except ReceiveOnlyMaterializationPlanError LocalByPath
  | [] => .ok localByPath
  | entry :: rest => do
      validateSafeRelativePath entry.relativePath
      if entry.relativePath ∈ localByPath then .error .duplicateLocalPath
      else indexLocalEntries (localByPath.insert entry.relativePath entry.kind) rest

/-- `plan_receive_only_materialization`. Each counter of the source's `match` on the remote kind and
    the local kind is the number of expected paths that take its arm. -/
def planReceiveOnlyMaterialization (remoteItems : List RemoteItem)
    (localEntries : List LocalTreeEntry) :
    Except ReceiveOnlyMaterializationPlanError ReceiveOnlyMaterializationPlan := do
  let expectedPaths ← buildRemoteExpectedPaths remoteItems
  let localByPath ← indexLocalEntries ∅ localEntries
  let count (remoteKind : RemoteItemKind) (localKind : Option LocalTreeEntryKind) : ℕ :=
    expectedPaths.countP fun e =>
      e.kind == remoteKind && localByPath.lookup e.relativePath == localKind
  let expectedPathNames := expectedPaths.map RemoteExpectedPath.relativePath
  .ok {
    remoteItems := remoteItems.length
    remoteDirectories := expectedPaths.countP (·.kind == .folder)
    remoteFiles := expectedPaths.countP (·.kind == .file)
    localEntries := localEntries.length
    missingDirectories := count .folder none
    missingFiles := count .file none
    matchingDirectories := count .folder (some .directory)
    existingFilesUnverified := count .file (some .file)
    localOnlyEntries := localByPath.keys.countP fun path => !expectedPathNames.contains path
    typeConflicts := count .folder (some .file) + count .file (some .directory) }

def planReceiveOnlyMissingDirectoryTargets (remoteItems : List RemoteItem)
    (localEntries : List LocalTreeEntry) :
    Except ReceiveOnlyMaterializationPlanError (List ReceiveOnlyDirectoryTarget) := do
  let _ ← planReceiveOnlyMaterialization remoteItems localEntries
  let localPaths := localEntries.map LocalTreeEntry.relativePath
  let expectedPaths ← buildRemoteExpectedPaths remoteItems
  .ok ((expectedPaths.filter fun e => e.kind == .folder && !localPaths.contains e.relativePath).map
    fun e => ⟨e.remoteId, e.relativePath⟩)

/-- The file targets whose path passes a test on the local paths. -/
def fileTargets (expectedPaths : List RemoteExpectedPath) (wanted : Text → Bool) :
    List ReceiveOnlyFileTarget :=
  (expectedPaths.filter fun e => e.kind == .file && wanted e.relativePath).map
    fun e => ⟨e.remoteId, e.relativePath, e.sizeBytes⟩

def planReceiveOnlyMissingFileTargets (remoteItems : List RemoteItem)
    (localEntries : List LocalTreeEntry) :
    Except ReceiveOnlyMaterializationPlanError (List ReceiveOnlyFileTarget) := do
  let _ ← planReceiveOnlyMaterialization remoteItems localEntries
  let localPaths := localEntries.map LocalTreeEntry.relativePath
  let expectedPaths ← buildRemoteExpectedPaths remoteItems
  .ok (fileTargets expectedPaths fun path => !localPaths.contains path)

def planReceiveOnlyExistingFileTargets (remoteItems : List RemoteItem)
    (localEntries : List LocalTreeEntry) :
    Except ReceiveOnlyMaterializationPlanError (List ReceiveOnlyFileTarget) := do
  let _ ← planReceiveOnlyMaterialization remoteItems localEntries
  let localFiles := (localEntries.filter (·.kind == .file)).map LocalTreeEntry.relativePath
  let expectedPaths ← buildRemoteExpectedPaths remoteItems
  .ok (fileTargets expectedPaths localFiles.contains)

/-! ## The local index -/

/-- The loop's map once it has passed a list of entries. -/
abbrev localMap (localByPath : LocalByPath) (localEntries : List LocalTreeEntry) : LocalByPath :=
  indexBy LocalTreeEntry.relativePath LocalTreeEntry.kind localByPath localEntries

theorem validateSafeRelativePath_entry (entry : LocalTreeEntry) :
    validateSafeRelativePath entry.relativePath = .ok () := by
  simp [validateSafeRelativePath, entry.safe]

theorem indexLocalEntries_ok_iff (entries : List LocalTreeEntry) (m m' : LocalByPath) :
    indexLocalEntries m entries = .ok m' ↔
      (entries.map LocalTreeEntry.relativePath).Nodup ∧
        (∀ entry ∈ entries, entry.relativePath ∉ m) ∧ m' = localMap m entries := by
  induction entries generalizing m with
  | nil => simp [indexLocalEntries, indexBy, eq_comm]
  | cons entry rest ih =>
      simp only [indexLocalEntries, validateSafeRelativePath_entry, bind, Except.bind]
      split
      · next hdup =>
          exact ⟨fun h => by simp at h, fun h => absurd hdup (h.2.1 entry List.mem_cons_self)⟩
      next hfresh =>
      rw [ih]
      simp only [List.forall_mem_cons, List.map_cons, List.nodup_cons, indexBy, List.foldl_cons,
        AList.mem_insert, not_or, List.mem_map, not_exists, not_and]
      constructor
      · rintro ⟨hnodup, hm, rfl⟩
        exact ⟨⟨fun e he => (hm e he).1, hnodup⟩, ⟨hfresh, fun e he => (hm e he).2⟩, rfl⟩
      · rintro ⟨⟨hhead, hnodup⟩, ⟨-, hm⟩, rfl⟩
        exact ⟨hnodup, fun e he => ⟨hhead e he, hm e he⟩, rfl⟩

/-! ## A plan and its targets -/

/-- The number of expected paths of a kind where the scan found a local kind, or nothing. -/
def localKindCount (expectedPaths : List RemoteExpectedPath) (localEntries : List LocalTreeEntry)
    (remoteKind : RemoteItemKind) (localKind : Option LocalTreeEntryKind) : ℕ :=
  expectedPaths.countP fun e =>
    e.kind == remoteKind && (localMap ∅ localEntries).lookup e.relativePath == localKind

/-- A materialization plan, with the expected paths it counts. -/
structure MaterializedFrom (remoteItems : List RemoteItem) (localEntries : List LocalTreeEntry)
    (expectedPaths : List RemoteExpectedPath) (plan : ReceiveOnlyMaterializationPlan) : Prop where
  build : buildRemoteExpectedPaths remoteItems = .ok expectedPaths
  local_paths : (localEntries.map LocalTreeEntry.relativePath).Nodup
  planned : planReceiveOnlyMaterialization remoteItems localEntries = .ok plan
  remoteDirectories : plan.remoteDirectories = expectedPaths.countP (·.kind == .folder)
  missingDirectories : plan.missingDirectories =
    localKindCount expectedPaths localEntries .folder none
  missingFiles : plan.missingFiles = localKindCount expectedPaths localEntries .file none
  matchingDirectories : plan.matchingDirectories =
    localKindCount expectedPaths localEntries .folder (some .directory)
  existingFiles : plan.existingFilesUnverified =
    localKindCount expectedPaths localEntries .file (some .file)

theorem planReceiveOnlyMaterialization_ok {remoteItems : List RemoteItem}
    {localEntries : List LocalTreeEntry} {plan : ReceiveOnlyMaterializationPlan}
    (h : planReceiveOnlyMaterialization remoteItems localEntries = .ok plan) :
    ∃ expectedPaths, MaterializedFrom remoteItems localEntries expectedPaths plan := by
  have hplanned := h
  unfold planReceiveOnlyMaterialization at h
  cases hbuild : buildRemoteExpectedPaths remoteItems with
  | error e => simp [hbuild, bind, Except.bind] at h
  | ok expectedPaths =>
  cases hlocal : indexLocalEntries ∅ localEntries with
  | error e => simp [hbuild, hlocal, bind, Except.bind] at h
  | ok localByPath =>
  obtain ⟨hnodup, -, rfl⟩ := (indexLocalEntries_ok_iff localEntries ∅ _).mp hlocal
  simp only [hbuild, hlocal, bind, Except.bind, Except.ok.injEq] at h
  subst h
  exact ⟨expectedPaths, hbuild, hnodup, hplanned, rfl, rfl, rfl, rfl, rfl⟩

section Targets

variable {remoteItems : List RemoteItem} {localEntries : List LocalTreeEntry}
  {expectedPaths : List RemoteExpectedPath} {plan : ReceiveOnlyMaterializationPlan}
variable (h : MaterializedFrom remoteItems localEntries expectedPaths plan)

include h

theorem MaterializedFrom.lookup_none_iff (path : Text) :
    ((localMap ∅ localEntries).lookup path == none) =
      !(localEntries.map LocalTreeEntry.relativePath).contains path := by
  rw [Bool.eq_iff_iff, beq_iff_eq, lookup_indexBy_eq_none h.local_paths]
  simp

theorem MaterializedFrom.lookup_file_iff (path : Text) :
    ((localMap ∅ localEntries).lookup path == some .file) =
      ((localEntries.filter (·.kind == .file)).map LocalTreeEntry.relativePath).contains path := by
  rw [Bool.eq_iff_iff, beq_iff_eq, lookup_indexBy_eq_some h.local_paths]
  simp only [List.contains_iff_mem, List.mem_map, List.mem_filter, beq_iff_eq]
  exact ⟨fun ⟨l, hl, hpath, hkind⟩ => ⟨l, ⟨hl, hkind⟩, hpath⟩,
    fun ⟨l, ⟨hl, hkind⟩, hpath⟩ => ⟨l, hl, hpath, hkind⟩⟩

theorem MaterializedFrom.missingDirectoryTargets :
    ∃ targets, planReceiveOnlyMissingDirectoryTargets remoteItems localEntries = .ok targets ∧
      targets.length = plan.missingDirectories := by
  refine ⟨_, by simp only [planReceiveOnlyMissingDirectoryTargets, h.planned, h.build, bind,
    Except.bind]; rfl, ?_⟩
  rw [List.length_map, ← List.countP_eq_length_filter, h.missingDirectories, localKindCount]
  simp only [h.lookup_none_iff]

theorem MaterializedFrom.missingFileTargets :
    ∃ targets, planReceiveOnlyMissingFileTargets remoteItems localEntries = .ok targets ∧
      targets.length = plan.missingFiles := by
  refine ⟨_, by simp only [planReceiveOnlyMissingFileTargets, h.planned, h.build, bind,
    Except.bind]; rfl, ?_⟩
  rw [fileTargets, List.length_map, ← List.countP_eq_length_filter, h.missingFiles, localKindCount]
  simp only [h.lookup_none_iff]

/-- The files of the catalog that are there have a target each. -/
theorem MaterializedFrom.existingFileTargets :
    ∃ targets, planReceiveOnlyExistingFileTargets remoteItems localEntries = .ok targets ∧
      targets.length = plan.existingFilesUnverified := by
  refine ⟨_, by simp only [planReceiveOnlyExistingFileTargets, h.planned, h.build, bind,
    Except.bind]; rfl, ?_⟩
  rw [fileTargets, List.length_map, ← List.countP_eq_length_filter, h.existingFiles, localKindCount]
  simp only [h.lookup_file_iff]

/-- A folder of the catalog is missing, there, or in the way of a file. -/
theorem MaterializedFrom.remoteDirectories_eq :
    plan.remoteDirectories = plan.missingDirectories + plan.matchingDirectories +
      localKindCount expectedPaths localEntries .folder (some .file) := by
  rw [h.remoteDirectories, h.missingDirectories, h.matchingDirectories]
  have hinside : expectedPaths.countP (fun e => e.kind == .folder &&
      ((localMap ∅ localEntries).lookup e.relativePath == none ||
        (localMap ∅ localEntries).lookup e.relativePath == some .directory)) =
      localKindCount expectedPaths localEntries .folder none +
        localKindCount expectedPaths localEntries .folder (some .directory) := by
    refine Counting.countP_eq_add expectedPaths fun e _ => ?_
    rcases (localMap ∅ localEntries).lookup e.relativePath with _ | _ | _ <;> cases e.kind <;> rfl
  rw [← hinside]
  refine Counting.countP_eq_add expectedPaths fun e _ => ?_
  rcases (localMap ∅ localEntries).lookup e.relativePath with _ | _ | _ <;> cases e.kind <;> rfl

end Targets

end NubiSync
