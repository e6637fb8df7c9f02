import NubiSync.Daemon.LocalScan

set_option autoImplicit false

/-! # Work on local files

The helpers that the executors of the phases share: hashing a file, syncing a directory, scratch names
that are free, downloading to a scratch file, removing what was created. Beside each stands the one lemma
about it that the executors use. `Looks` describes the tree and the store, `Holds` a tree with a scratch
file in it. -/

namespace NubiSync

open Checks Methods FileTrees

/-- The tree holds these nodes, and the store is this one. -/
structure Looks (m : LocalNodes) (store : RootStore) (d : LocalRoot) : Prop where
  nodes : d.files.node? = m
  store : d.store = store

/-- `Looks`, with a file of an identity and a content in addition. -/
def Holds (m : LocalNodes) (path : LocalPath) (id : FileId) (content : List UInt8) (store : RootStore)
    (d : LocalRoot) : Prop :=
  ∃ modified, Looks (Function.update m path (some (.file id ⟨content, modified⟩))) store d

/-- A path that holds a directory. -/
def IsDirectoryIn (m : LocalNodes) (path : LocalPath) : Prop := ∃ id, m path = some (.directory id)

section Looks

variable {m : LocalNodes} {store : RootStore} {d : LocalRoot}

theorem Looks.node? (h : Looks m store d) (path : LocalPath) : d.files.node? path = m path := by
  rw [h.nodes]

theorem Looks.isDirectory (h : Looks m store d) {path : LocalPath} (hpath : IsDirectoryIn m path) :
    d.files.IsDirectory path := by
  obtain ⟨id, hid⟩ := hpath
  exact ⟨id, by rw [h.nodes, hid]⟩

theorem Looks.metadata (h : Looks m store d) {path : LocalPath} {node : Node} :
    d.files.metadata path = .ok node ↔ m path = some node := by
  rw [FileTree.metadata_eq_ok_iff, h.nodes]

end Looks

section Nodes

variable {m : LocalNodes} {path other : LocalPath}

/-- What is put at a free path and taken away again leaves no trace. -/
theorem update_undone (h : m path = none) (node : Option Node) :
    Function.update (Function.update m path node) path none = m := by
  rw [Function.update_idem, Function.update_eq_self_iff, h]

/-- Taking away the first of two that were put somewhere leaves the second. -/
theorem update_undone_first (h : m path = none) (hne : path ≠ other) (node node' : Option Node) :
    Function.update (Function.update (Function.update m path node) other node') path none =
      Function.update m other node' := by
  rw [Function.update_comm hne.symm, update_undone h]

theorem IsDirectoryIn.update (h : IsDirectoryIn m other) (hfree : m path = none) (node : Option Node) :
    IsDirectoryIn (Function.update m path node) other := by
  obtain ⟨id, hid⟩ := h
  refine ⟨id, ?_⟩
  rwa [Function.update_of_ne]
  rintro rfl
  rw [hfree] at hid
  cases hid

theorem isDirectoryIn_root {files : FileTree FileName} (h : files.node? = m) : IsDirectoryIn m [] := by
  obtain ⟨id, hid⟩ := files.root
  exact ⟨id, h ▸ hid⟩

theorem ne_nil_of_file {files : FileTree FileName} (hfiles : files.node? = m) {id : FileId}
    {data : FileData} (h : m path = some (.file id data)) : path ≠ [] := by
  rintro rfl
  obtain ⟨root, hroot⟩ := isDirectoryIn_root hfiles
  rw [h] at hroot
  cases hroot

theorem parent_of_file {files : FileTree FileName} (hfiles : files.node? = m) {id : FileId}
    {data : FileData} (h : m path = some (.file id data)) : IsDirectoryIn m path.dropLast := by
  have hproper := ne_nil_of_file hfiles h
  subst hfiles
  apply FileTree.isDirectory_dropLast hproper
  rw [h]
  simp

theorem childless_of_file {files : FileTree FileName} (hfiles : files.node? = m) {id : FileId}
    {data : FileData} (h : m path = some (.file id data)) (name : FileName) : m (path ++ [name]) = none := by
  subst hfiles
  apply FileTree.childless_of_not_directory
  rintro ⟨other, hother⟩
  rw [h] at hother
  cases hother

end Nodes

/-! ## What is left behind -/

/-- Nothing that was there is changed, and what is new stands at fresh paths. -/
def GrownAt (fresh : LocalPath → Prop) (m m' : LocalNodes) : Prop :=
  ∀ path, m' path = m path ∨ m path = none ∧ fresh path

theorem GrownAt.refl (fresh : LocalPath → Prop) (m : LocalNodes) : GrownAt fresh m m := fun _ => .inl rfl

theorem GrownAt.update {fresh : LocalPath → Prop} {m m' : LocalNodes} (h : GrownAt fresh m m')
    {path : LocalPath} (hpath : m path = none) (hfresh : fresh path) (node : Option Node) :
    GrownAt fresh m (Function.update m' path node) := by
  intro other
  by_cases hother : other = path
  · subst hother
    exact .inr ⟨hpath, hfresh⟩
  · rw [Function.update_of_ne hother]
    exact h other

theorem GrownAt.mono {fresh fresh' : LocalPath → Prop} {m m' : LocalNodes} (h : GrownAt fresh m m')
    (hfresh : ∀ path, fresh path → fresh' path) : GrownAt fresh' m m' :=
  fun path => (h path).imp_right fun hpath => ⟨hpath.1, hfresh path hpath.2⟩

theorem GrownAt.trans {fresh : LocalPath → Prop} {m m' m'' : LocalNodes} (h : GrownAt fresh m m')
    (h' : GrownAt fresh m' m'') : GrownAt fresh m m'' := by
  intro path
  rcases h path with hsame | hnew
  · rw [← hsame]
    exact h' path
  · exact .inr hnew

theorem GrownAt.kept {fresh : LocalPath → Prop} {m m' : LocalNodes} (h : GrownAt fresh m m')
    {path : LocalPath} {node : Node} (hnode : m path = some node) : m' path = some node := by
  rcases h path with hsame | hnew
  · rw [hsame, hnode]
  · rw [hnew.1] at hnode
    cases hnode

theorem GrownAt.undone {fresh : LocalPath → Prop} {m m' : LocalNodes} {path : LocalPath} {node : Node}
    (h : GrownAt fresh (Function.update m path (some node)) m') (hfree : m path = none) :
    GrownAt fresh m (Function.update m' path none) := by
  intro other
  by_cases hother : other = path
  · subst hother
    rw [Function.update_self, hfree]
    exact .inl rfl
  · have hgrown := h other
    rw [Function.update_of_ne hother] at hgrown
    rwa [Function.update_of_ne hother]

theorem grownAt_nowhere {m m' : LocalNodes} : GrownAt (fun _ => False) m m' ↔ m' = m := by
  constructor
  · exact fun h => funext fun path => (h path).resolve_right fun hnew => hnew.2
  · rintro rfl
    exact .refl _ _

/-- The tree has grown at fresh paths. -/
def LeftBehind (fresh : LocalPath → Prop) (m : LocalNodes) (store : RootStore) (d : LocalRoot) : Prop :=
  ∃ m', GrownAt fresh m m' ∧ Looks m' store d

theorem leftBehind_nowhere {m : LocalNodes} {store : RootStore} {d : LocalRoot} :
    LeftBehind (fun _ => False) m store d ↔ Looks m store d := by
  unfold LeftBehind
  constructor
  · rintro ⟨m', hgrown, hd⟩
    rwa [grownAt_nowhere.mp hgrown] at hd
  · exact fun hd => ⟨m, .refl _ _, hd⟩

/-! ## Scratch names -/

/-- The scratch names of the executors, by what they are for. -/
inductive ScratchKind where
  | download
  | delete
  | replaceBackup
  | deleteDirectory
  deriving DecidableEq, Repr

/-- What the scratch names of a kind begin with. -/
def ScratchKind.stem : ScratchKind → Text
  | .download => ".nubisync-download-".toList
  | .delete => ".nubisync-delete-".toList
  | .replaceBackup => ".nubisync-replace-backup-".toList
  | .deleteDirectory => ".nubisync-delete-dir-".toList

/-- `format!("{stem}{process_id}-{n}.tmp")`. -/
def scratchText (kind : ScratchKind) (processId n : ℕ) : Text :=
  kind.stem ++ Nat.toDigits 10 processId ++ '-' :: Nat.toDigits 10 n ++ ".tmp".toList

theorem length_of_isDotName {t : Text} (h : isDotName t = true) : t.length ≤ 2 := by
  simp only [isDotName, Bool.or_eq_true, beq_iff_eq] at h
  rcases h with rfl | rfl <;> decide

/-- A character that no scratch name has. -/
theorem not_mem_scratchText {c : Char} (hdigit : c.isDigit = false) (hdash : c ≠ '-')
    (hstem : ∀ kind : ScratchKind, c ∉ kind.stem) (htmp : c ∉ ".tmp".toList) (kind : ScratchKind)
    (processId n : ℕ) : c ∉ scratchText kind processId n := by
  have hdigits : ∀ k : ℕ, c ∉ Nat.toDigits 10 k := by
    intro k hmem
    rw [Nat.isDigit_of_mem_toDigits (by decide) (by decide) hmem] at hdigit
    cases hdigit
  simp only [scratchText, List.mem_append, List.mem_cons, not_or]
  exact ⟨⟨⟨hstem kind, hdigits processId⟩, hdash, hdigits n⟩, htmp⟩

theorem scratchText_valid (kind : ScratchKind) (processId n : ℕ) :
    isSafeRemoteName (scratchText kind processId n) = true := by
  have hlength : 2 < (scratchText kind processId n).length := by
    have hstem : 2 < kind.stem.length := by cases kind <;> decide
    simp only [scratchText, List.length_append]
    omega
  refine (isSafeRemoteName_iff _).mpr ⟨?_, ?_, ?_, ?_⟩
  · exact List.length_pos_iff.mp (Nat.zero_lt_of_lt hlength)
  · rw [← Bool.not_eq_true]
    exact fun hdot => absurd (length_of_isDotName hdot) (by omega)
  · exact not_mem_scratchText (by decide) (by decide) (by intro kind; cases kind <;> decide)
      (by decide) kind processId n
  · exact not_mem_scratchText (by decide) (by decide) (by intro kind; cases kind <;> decide)
      (by decide) kind processId n

/-- A scratch name. -/
def scratchName (kind : ScratchKind) (processId n : ℕ) : FileName :=
  .utf8 (scratchText kind processId n) (scratchText_valid kind processId n)

/-- A path with a scratch name. -/
def IsScratch (path : LocalPath) : Prop :=
  ∃ parent kind processId n, path = parent ++ [scratchName kind processId n]

theorem isScratch_concat (parent : LocalPath) (kind : ScratchKind) (processId n : ℕ) :
    IsScratch (parent ++ [scratchName kind processId n]) :=
  ⟨parent, kind, processId, n, rfl⟩

/-! ## Metadata -/

/-- `metadata.is_dir()`. -/
def isDir : Node → Bool
  | .directory _ => true
  | _ => false

/-- `metadata.is_file() && metadata.len() == length`. -/
def isFileOfLength (length : ℕ) : Node → Bool
  | .file _ data => data.content.length == length
  | _ => false

/-- `same_local_file_state`: two files of one identity, length and modification time. -/
def sameLocalFileState : Node → Node → Bool
  | .file id data, .file id' data' =>
      id == id' && data.content.length == data'.content.length && data.modified == data'.modified
  | _, _ => false

/-- `same_local_file_identity`: two files of one identity and length. -/
def sameLocalFileIdentity : Node → Node → Bool
  | .file id data, .file id' data' => id == id' && data.content.length == data'.content.length
  | _, _ => false

@[simp] theorem sameLocalFileState_self (id : FileId) (data : FileData) :
    sameLocalFileState (.file id data) (.file id data) = true := by simp [sameLocalFileState]

@[simp] theorem sameLocalFileIdentity_self (id : FileId) (data : FileData) :
    sameLocalFileIdentity (.file id data) (.file id data) = true := by simp [sameLocalFileIdentity]

namespace ExecutorWorld

variable (world : ExecutorWorld)

/-! ## Directories -/

/-- `sync_parent_directory`, with the error that its caller throws. Syncing changes nothing that a later
    call sees. -/
def syncDirectory (path : LocalPath) (error : LocalExecutorError) : LocalMethod Unit := do
  let _ ← orThrow (world.look (·.openPath path)) error
  orThrow (world.look fun _ => .ok ()) error

/-- The check of a target's parent: a directory, no link, and canonically below the root. -/
def requireParentDirectory (parent : LocalPath) (error : LocalExecutorError) : LocalMethod Unit := do
  let node ← orThrow (world.look (·.metadata parent)) error
  ofExcept (refuseIf (!isDir node) error)
  let _ ← orThrow (world.look (·.canonicalize parent)) error
  pure ()

/-- `match fs::symlink_metadata(path) { Ok(_) => conflict, Err(NotFound) => {} … }`. -/
def requireAbsent (path : LocalPath) (conflict : LocalExecutorError) : LocalMethod Unit := do
  match ← world.look (·.metadata path) with
  | .ok _ => throw conflict
  | .error .notFound => pure ()
  | .error _ => throw .localFilesystemInspectionFailed

/-! ## Hashing -/

/-- The bytes that the calls of `read` give, for a buffer of a size. -/
def readChunks (bufferLen : ℕ) : ℕ → List UInt8 → List (List UInt8)
  | 0, _ => []
  | _, [] => []
  | reads + 1, content =>
      content.take bufferLen :: readChunks bufferLen reads (content.drop bufferLen)

/-- The read loop of `hash_local_file`. -/
def hashChunks (maxBytes : ℕ) :
    List (List UInt8) → ℕ → world.sha256.Hasher → LocalMethod (ℕ × Text)
  | [], total, hasher => do
      -- the read at the end of the file
      orThrow (world.look fun _ => .ok ()) .localFileVerifyFailed
      pure (total, world.sha256.finalizeHex hasher)
  | chunk :: rest, total, hasher => do
      orThrow (world.look fun _ => .ok ()) .localFileVerifyFailed
      let total ← ofExcept (orRefuse (checkedAddU64 total chunk.length) (.selectedRoot .countOverflow))
      ofExcept (refuseIf (decide (total > maxBytes)) (.selectedRoot .localFileTooLarge))
      hashChunks maxBytes rest total (world.sha256.update hasher chunk)

/-- `hash_local_file`: the size and the SHA-256 of a file. -/
def hashLocalFile (path : LocalPath) (maxBytes : ℕ) : LocalMethod (ℕ × Text) := do
  let node ← orThrow (world.look (·.metadata path)) .localFileVerifyFailed
  ofExcept (refuseIf (match node with
    | .file _ data => decide (data.content.length > maxBytes)
    | _ => true) .localFileVerifyFailed)
  let content ← orThrow (world.look (·.readFile path)) .localFileVerifyFailed
  world.hashChunks maxBytes (readChunks (64 * 1024) content.length content) 0 world.sha256.new

/-- The check of a file before it is moved or removed: it is still the one that was looked at, with the
    bytes that were hashed. -/
def requireUnchangedFile (path : LocalPath) (before : Node) (bytes : ℕ) (sha256Hex : Text)
    (error : LocalExecutorError) : LocalMethod Unit := do
  let now ← orThrow (world.look (·.metadata path)) error
  ofExcept (refuseIf (!sameLocalFileIdentity before now) error)
  let (bytesNow, sha256HexNow) ← orFail (world.hashLocalFile path supervisedFileDownloadMaxBytes) error
  ofExcept (refuseIf (bytesNow != bytes || sha256HexNow != sha256Hex) error)

/-! ## Scratch files -/

/-- The loop over the scratch names of a kind, with the attempts that are left. An attempt gives nothing
    when its name is taken. -/
def withScratchName {α : Type} (kind : ScratchKind) (parent : LocalPath) (exhausted : LocalExecutorError)
    (attempt : LocalPath → LocalMethod (Option α)) : ℕ → LocalMethod α
  | 0 => throw exhausted
  | attempts + 1 => do
      let n ← nextTempNumber
      match ← attempt (parent ++ [scratchName kind world.processId n]) with
      | some value => pure value
      | none => withScratchName kind parent exhausted attempt attempts

def createDownloadTemp (parent : LocalPath) : LocalMethod (LocalPath × FileId) :=
  world.withScratchName .download parent .localFileTempCreateFailed (fun path => do
    match ← world.call (fun now files => files.createFile path now) with
    | .ok file => pure (some (path, file))
    | .error .alreadyExists => pure none
    | .error _ => throw .localFileTempCreateFailed) 128

/-- `unique_deletion_quarantine_path` and the two functions like it. -/
def uniqueScratchPath (kind : ScratchKind) (unavailable : LocalExecutorError) (parent : LocalPath) :
    LocalMethod LocalPath :=
  world.withScratchName kind parent unavailable (fun candidate => do
    match ← world.look (·.metadata candidate) with
    | .error .notFound => pure (some candidate)
    | .ok _ => pure none
    | .error _ => throw .localFilesystemInspectionFailed) 128

/-- `fs::remove_file`, of what may be gone. -/
def removeIfPresent (path : LocalPath) (error : LocalExecutorError) : LocalMethod Bool := do
  match ← world.call (fun _ files => files.removeFile path) with
  | .ok () => pure true
  | .error .notFound => pure false
  | .error _ => throw error

def cleanupTempFile (path : LocalPath) : LocalMethod Unit := do
  let _ ← world.removeIfPresent path .localFileTempCleanupFailed
  pure ()

/-- Remove what may be gone, and sync its directory. -/
def removeAndSync (path : LocalPath) (error : LocalExecutorError) : LocalMethod Unit := do
  if ← world.removeIfPresent path error then
    world.syncDirectory path.dropLast error

def rollbackCreatedFile (path : LocalPath) : LocalMethod Unit :=
  world.removeAndSync path .localFileRollbackFailed

/-! ## Downloads -/

/-- `HashingWriter`, less the writer inside. -/
structure HashingWriter where
  hasher : world.sha256.Hasher
  bytesWritten : ℕ

/-- The writes of a download to a file, chunk by chunk. A provider gives up on a write that fails, with
    an error of its own. -/
def writeChunks (file : FileId) :
    List (List UInt8) → world.HashingWriter → LocalMethod world.HashingWriter
  | [], writer => pure writer
  | chunk :: rest, writer => do
      orThrow (world.call fun now files => .ok (files.append file chunk now, ()))
        (.selectedRoot .drive)
      let bytesWritten ← ofExcept
        (orRefuse (checkedAddU64 writer.bytesWritten chunk.length) (.selectedRoot .drive))
      writeChunks file rest ⟨world.sha256.update writer.hasher chunk, bytesWritten⟩

/-- `provider.download_file_content` to a scratch file, with the checks of the byte counts and the sync
    after it: the size and the SHA-256 of what was written. -/
def downloadToTemp (file : FileId) (remoteId : Text) (maxBytes expectedSize : ℕ) :
    LocalMethod (ℕ × Text) := do
  let download ← world.download remoteId maxBytes
  let writer ← world.writeChunks file download.chunks ⟨world.sha256.new, 0⟩
  let providerBytes ← ofExcept download.result
  ofExcept (refuseIf (providerBytes != writer.bytesWritten) .localFileProviderByteCountMismatch)
  ofExcept (refuseIf (providerBytes != expectedSize) .localFileDownloadSizeMismatch)
  orThrow (world.look fun _ => .ok ()) .localFileSyncFailed
  pure (providerBytes, world.sha256.finalizeHex writer.hasher)

/-- The bytes are those of a download. -/
def Gives (maxBytes : ℕ) (remoteId : Text) (bytes : List UInt8) : Prop :=
  ∃ call, (world.downloadFileContent call remoteId maxBytes).chunks.flatten = bytes

/-! ## Rules -/

section Rules

variable {world} {P : LocalRoot → Prop} {E : LocalExecutorError → LocalRoot → Prop}
  {m : LocalNodes} {store : RootStore} {error : LocalExecutorError}

theorem of_files {α : Type} {method : LocalMethod α} {Q : α → LocalRoot → Prop}
    (h : ∀ files : FileTree FileName, files.node? = m → LocalTriple (Looks m store) method Q E) :
    LocalTriple (Looks m store) method Q E :=
  fun state hstate => h state.disk.files hstate.nodes state hstate

theorem sync_bind {α : Type} {next : Unit → LocalMethod α} {Q : α → LocalRoot → Prop}
    (hE : ∀ d, P d → E error d) (hnext : LocalTriple P (next ()) Q E) :
    LocalTriple P (orThrow (world.look fun _ => .ok ()) error >>= next) Q E :=
  lookOrThrow_bind (A := fun _ => True) (fun _ _ _ _ => trivial) hE fun _ _ => hnext

theorem syncDirectory_rule {path : LocalPath} (hE : ∀ d, P d → E error d) :
    LocalTriple P (world.syncDirectory path error) (fun _ => P) E :=
  lookOrThrow_bind (A := fun _ => True) (fun _ _ _ _ => trivial) hE fun _ _ =>
    .of_bind_pure (sync_bind hE (.pure fun _ h => h))

theorem requireParentDirectory_rule {parent : LocalPath} (hE : ∀ d, Looks m store d → E error d) :
    LocalTriple (Looks m store) (world.requireParentDirectory parent error)
      (fun _ d => IsDirectoryIn m parent ∧ Looks m store d) E := by
  refine lookOrThrow_bind (A := fun node => m parent = some node)
    (fun d node hd hnode => hd.metadata.mp hnode) hE fun node hnode => ?_
  refine .check_bind (fun hpasses => ?_) fun _ => hE
  have hdirectory : IsDirectoryIn m parent := by
    cases node with
    | directory id => exact ⟨id, hnode⟩
    | _ => cases hpasses
  exact lookOrThrow_bind (A := fun _ => True) (fun _ _ _ _ => trivial) hE fun _ _ =>
    .pure fun d hd => ⟨hdirectory, hd⟩

/-- Looking at a path finds what is there, or that nothing is there, or fails for another reason. -/
theorem metadata_bind {α : Type} {path : LocalPath} {next : Except IoError Node → LocalMethod α}
    {Q : α → LocalRoot → Prop}
    (hsome : ∀ node, m path = some node → LocalTriple (Looks m store) (next (.ok node)) Q E)
    (hnone : m path = none → LocalTriple (Looks m store) (next (.error .notFound)) Q E)
    (hother : ∀ error, error ≠ .notFound → LocalTriple (Looks m store) (next (.error error)) Q E) :
    LocalTriple (Looks m store) (world.look (·.metadata path) >>= next) Q E := by
  refine look_bind (A := fun answer => match answer with
      | .ok node => m path = some node
      | .error _ => m path = none) (fun d hd => ?_) (hother _ (by decide)) ?_
  · cases hanswer : d.files.metadata path with
    | ok node => exact hd.metadata.mp hanswer
    | error error =>
        rw [← hd.nodes]
        exact FileTree.node?_of_metadata_error hanswer
  · rintro (error | node) hanswer
    · by_cases hmissing : error = .notFound
      · subst hmissing
        exact hnone hanswer
      · exact hother error hmissing
    · exact hsome node hanswer

/-- What has to be absent is absent where its parent is a directory. -/
theorem requireAbsent_rule {path : LocalPath} {conflict : LocalExecutorError}
    (hconflict : m path ≠ none → ∀ d, Looks m store d → E conflict d)
    (hE : ∀ d, Looks m store d → E .localFilesystemInspectionFailed d) :
    LocalTriple (Looks m store) (world.requireAbsent path conflict)
      (fun _ d => m path = none ∧ Looks m store d) E := by
  refine metadata_bind (fun node hnode => .throw (hconflict (hnode ▸ Option.some_ne_none _)))
    (fun hnone => .pure fun d hd => ⟨hnone, hd⟩) fun error hne => ?_
  cases error with
  | notFound => exact absurd rfl hne
  | alreadyExists => exact .throw hE
  | other => exact .throw hE

/-! ### Hashing -/

theorem flatten_readChunks {bufferLen : ℕ} (hbuffer : 0 < bufferLen) (reads : ℕ) {content : List UInt8}
    (h : content.length ≤ reads) : (readChunks bufferLen reads content).flatten = content := by
  induction reads generalizing content with
  | zero =>
      rw [List.length_eq_zero_iff.mp (Nat.le_zero.mp h)]
      rfl
  | succ reads ih =>
      cases content with
      | nil => rfl
      | cons byte rest =>
          rw [readChunks, List.flatten_cons, ih, List.take_append_drop]
          rw [List.length_drop]
          simp only [List.length_cons] at h ⊢
          omega
          simp

theorem hashChunks_rule {maxBytes : ℕ} (hword : maxBytes < 2 ^ 64)
    (hE : ∀ d, P d → E .localFileVerifyFailed d) (chunks : List (List UInt8)) (total : ℕ)
    (hasher : world.sha256.Hasher) (hlimit : total + chunks.flatten.length ≤ maxBytes) :
    LocalTriple P (world.hashChunks maxBytes chunks total hasher)
      (fun hashed d => hashed = (total + chunks.flatten.length,
        world.sha256.finalizeHex (chunks.foldl world.sha256.update hasher)) ∧ P d) E := by
  induction chunks generalizing total hasher with
  | nil => exact sync_bind hE (.pure fun d hd => ⟨rfl, hd⟩)
  | cons chunk rest ih =>
      rw [List.flatten_cons, List.length_append] at hlimit ⊢
      refine sync_bind hE ?_
      rw [checkedAddU64_of_lt (by omega)]
      refine .present_bind (fun next hnext => ?_) fun hnone => by cases hnone
      obtain rfl := Option.some.inj hnext
      refine .check_bind (fun _ => ?_) fun hrefused => ?_
      · rw [← Nat.add_assoc]
        exact ih _ _ (by omega)
      · rw [decide_eq_true_iff] at hrefused
        omega

/-- Hashing a file of a known content, which fails when the file is too large. -/
theorem hashLocalFile_rule {path : LocalPath} {content : List UInt8} {maxBytes : ℕ}
    (hfile : ∀ d, P d → ∃ id modified, d.files.node? path = some (.file id ⟨content, modified⟩))
    (hword : maxBytes < 2 ^ 64) (hE : ∀ d, P d → E .localFileVerifyFailed d) :
    LocalTriple P (world.hashLocalFile path maxBytes)
      (fun hashed d => hashed = (content.length, world.sha256.sha256Hex content) ∧
        content.length ≤ maxBytes ∧ P d) E := by
  refine lookOrThrow_bind_of (A := fun node => ∃ id modified, node = .file id ⟨content, modified⟩)
    (fun d hd => ?_) hE ?_
  · obtain ⟨id, modified, hnode⟩ := hfile d hd
    exact ⟨_, FileTree.metadata_of_some hnode, id, modified, rfl⟩
  rintro _ ⟨id, modified, rfl⟩
  refine .check_bind (fun hlength => ?_) fun _ => hE
  have hlength : content.length ≤ maxBytes := by simpa using hlength
  refine lookOrThrow_bind_of (A := fun read => content = read) (fun d hd => ?_) hE ?_
  · obtain ⟨id, modified, hnode⟩ := hfile d hd
    exact ⟨_, FileTree.readFile_of_file hnode, rfl⟩
  rintro _ rfl
  have hflatten := flatten_readChunks (show 0 < 64 * 1024 by decide) _ (le_refl content.length)
  have hrule := hashChunks_rule hword hE (readChunks (64 * 1024) content.length content) 0
    world.sha256.new (by rw [hflatten]; omega)
  rw [world.sha256.streams, hflatten, Nat.zero_add] at hrule
  exact hrule.mono (fun _ h => h) (fun _ d hd => ⟨hd.1, hlength, hd.2⟩) fun _ _ h => h

theorem requireUnchangedFile_rule {path : LocalPath} {id : FileId} {data : FileData}
    (hfile : m path = some (.file id data)) (hE : ∀ d, Looks m store d → E error d) :
    LocalTriple (Looks m store) (world.requireUnchangedFile path (.file id data) data.content.length
      (world.sha256.sha256Hex data.content) error) (fun _ => Looks m store) E := by
  apply lookOrThrow_bind_of (A := fun node => node = .file id data)
    (fun d hd => ⟨_, hd.metadata.mpr hfile, rfl⟩) hE
  rintro _ rfl
  apply Triple.check_bind
  swap
  · exact fun _ => hE
  intro _
  apply Triple.bind (Triple.orFail (F := fun _ => Looks m store) (hashLocalFile_rule
    (fun d hd => ⟨id, data.modified, (hd.node? _).trans hfile⟩) (by decide) fun _ hd => hd)
    fun _ => hE)
  rintro ⟨bytes, sha256Hex⟩
  apply Triple.fact
  intro hhashed
  obtain ⟨rfl, rfl⟩ := Prod.mk.inj hhashed
  apply Triple.fact
  intro _
  apply Triple.of_bind_pure
  apply Triple.check_bind
  · exact fun _ => .pure fun _ hd => hd
  · exact fun _ => hE

/-! ### Scratch files -/

/-- The names are tried one after the other, by recursion on the attempts that are left. -/
theorem withScratchName_rule {α : Type} {kind : ScratchKind} {parent : LocalPath}
    {exhausted : LocalExecutorError} {attempt : LocalPath → LocalMethod (Option α)}
    {Q : α → LocalRoot → Prop}
    (hattempt : ∀ n, LocalTriple (Looks m store)
      (attempt (parent ++ [scratchName kind world.processId n]))
      (fun answer d => match answer with
        | some value => Q value d
        | none => Looks m store d) E)
    (hE : ∀ d, Looks m store d → E exhausted d) (attempts : ℕ) :
    LocalTriple (Looks m store) (world.withScratchName kind parent exhausted attempt attempts) Q E := by
  induction attempts with
  | zero => exact .throw hE
  | succ attempts ih =>
      intro state hstate
      refine .bind ?_
      change Meets (attempt _ >>= _) { state with tempCounter := state.tempCounter + 1 } _ _
      refine (hattempt _ { state with tempCounter := state.tempCounter + 1 } hstate).andThen ?_
      rintro (_ | value) after hafter
      · exact ih after hafter
      · exact hafter

/-- A new download file is empty, and no other node has its inode. -/
theorem createDownloadTemp_rule {parent : LocalPath} (hparent : IsDirectoryIn m parent)
    (hE : ∀ d, Looks m store d → E .localFileTempCreateFailed d) :
    LocalTriple (Looks m store) (world.createDownloadTemp parent)
      (fun temp d => (∃ n, temp.1 = parent ++ [scratchName .download world.processId n]) ∧
        m temp.1 = none ∧ (∀ other node, m other = some node → node.inode ≠ temp.2.inode) ∧
        Holds m temp.1 temp.2 [] store d) E := by
  refine withScratchName_rule (fun n => ?_) hE 128
  by_cases hfree : m (parent ++ [scratchName .download world.processId n]) = none
  · refine call_bind (S := fun id d =>
        (∀ other node, m other = some node → node.inode ≠ id.inode) ∧
          Holds m (parent ++ [scratchName .download world.processId n]) id [] store d)
      (fun d now hd => ?_) (.throw hE) fun id => .pure fun d hd => ⟨⟨n, rfl⟩, hfree, hd.1, hd.2⟩
    obtain ⟨after, hcreate, hafter⟩ := FileTree.createFile_of_free now (by simp)
      (by rw [List.dropLast_concat]; exact hd.isDirectory hparent) ((hd.node? _).trans hfree)
    refine ⟨after, d.files.fresh, hcreate, fun other node hnode => ?_, now, ?_, hd.store⟩
    · exact FileTree.inode_ne_fresh ((hd.node? other).trans hnode)
    · rw [← hd.nodes]
      exact hafter
  · -- the name is taken, which shows in the error of the call
    intro state hstate
    refine .bind ?_
    simp only [Meets, call]
    cases hfails : world.fails state.calls with
    | true =>
        rw [if_pos rfl]
        exact hE _ hstate
    | false =>
        rw [if_neg Bool.false_ne_true, FileTree.createFile_of_taken _ (by rwa [hstate.nodes])]
        exact hstate

theorem uniqueScratchPath_rule {kind : ScratchKind} {unavailable : LocalExecutorError}
    {parent : LocalPath} (hunavailable : ∀ d, Looks m store d → E unavailable d)
    (hE : ∀ d, Looks m store d → E .localFilesystemInspectionFailed d) :
    LocalTriple (Looks m store) (world.uniqueScratchPath kind unavailable parent)
      (fun path d => (∃ n, path = parent ++ [scratchName kind world.processId n]) ∧ m path = none ∧
        Looks m store d) E := by
  refine withScratchName_rule (fun n => ?_) hunavailable 128
  refine metadata_bind (fun _ _ => .pure fun _ hd => hd)
    (fun hnone => .pure fun d hd => ⟨⟨n, rfl⟩, hnone, hd⟩) fun error hne => ?_
  cases error with
  | notFound => exact absurd rfl hne
  | alreadyExists => exact .throw hE
  | other => exact .throw hE

theorem removeIfPresent_rule {path : LocalPath} {id : FileId} {data : FileData}
    (hfile : m path = some (.file id data)) (hE : ∀ d, Looks m store d → E error d) :
    LocalTriple (Looks m store) (world.removeIfPresent path error)
      (fun removed d => removed = true ∧ Looks (Function.update m path none) store d) E := by
  refine call_bind (S := fun _ => Looks (Function.update m path none) store) (fun d now hd => ?_)
    (.throw hE) fun _ => .pure fun d hd => ⟨rfl, hd⟩
  obtain ⟨after, hremove, hafter⟩ := FileTree.removeFile_of_file ((hd.node? _).trans hfile)
  exact ⟨after, (), hremove, by rw [hafter, hd.nodes], hd.store⟩

theorem cleanupTempFile_rule {path : LocalPath} {id : FileId} (hfree : m path = none)
    (hE : ∀ d content, Holds m path id content store d →
      E .localFileTempCleanupFailed d) :
    LocalTriple (fun d => ∃ content, Holds m path id content store d) (world.cleanupTempFile path)
      (fun _ => Looks m store) E := by
  refine .exists fun content => .exists fun modified => ?_
  have hupdate : Function.update (Function.update m path (some (.file id ⟨content, modified⟩))) path none
      = m := by rw [Function.update_idem, Function.update_eq_self_iff, hfree]
  refine Triple.bind (removeIfPresent_rule (Function.update_self _ _ _)
    fun d hd => hE d content ⟨modified, hd⟩) fun removed => .pure fun d hd => ?_
  rw [hupdate] at hd
  exact hd.2

theorem removeAndSync_rule {path : LocalPath} {id : FileId} {data : FileData}
    (hfile : m path = some (.file id data))
    (hE : ∀ d, Looks m store d ∨ Looks (Function.update m path none) store d → E error d) :
    LocalTriple (Looks m store) (world.removeAndSync path error)
      (fun _ => Looks (Function.update m path none) store) E := by
  refine Triple.bind (removeIfPresent_rule hfile fun d hd => hE d (.inl hd)) fun removed => .fact ?_
  rintro rfl
  exact syncDirectory_rule fun d hd => hE d (.inr hd)

theorem rollbackCreatedFile_rule {path : LocalPath} {id : FileId} {data : FileData}
    (hfile : m path = some (.file id data))
    (hE : ∀ d, Looks m store d ∨ Looks (Function.update m path none) store d →
      E .localFileRollbackFailed d) :
    LocalTriple (Looks m store) (world.rollbackCreatedFile path)
      (fun _ => Looks (Function.update m path none) store) E :=
  removeAndSync_rule hfile hE

/-! ### Downloads -/

section Download

variable {path : LocalPath} {id : FileId}
  (hfresh : ∀ other node, m other = some node → node.inode ≠ id.inode)

include hfresh

/-- A write shows at the scratch file alone. -/
theorem append_of_holds {content chunk : List UInt8} {now : Int} {d : LocalRoot}
    (h : Holds m path id content store d) :
    Holds m path id (content ++ chunk) store { d with files := d.files.append id chunk now } := by
  obtain ⟨modified, hd⟩ := h
  refine ⟨now, ?_, hd.store⟩
  change (d.files.touch id _).node? = _
  have hfile : d.files.node? path = some (.file id ⟨content, modified⟩) := by
    rw [hd.nodes, Function.update_self]
  rw [FileTree.node?_touch _ hfile, hd.nodes, Function.update_idem]
  · intro other node hnode hinode
    by_contra hother
    rw [hd.nodes, Function.update_of_ne hother] at hnode
    exact hfresh other node hnode hinode

theorem writeChunks_rule (chunks : List (List UInt8)) (content : List UInt8)
    (writer : world.HashingWriter)
    (hE : ∀ d written, Holds m path id written store d → E (.selectedRoot .drive) d) :
    LocalTriple (Holds m path id content store) (world.writeChunks id chunks writer)
      (fun after d => after.hasher = chunks.foldl world.sha256.update writer.hasher ∧
        after.bytesWritten = writer.bytesWritten + chunks.flatten.length ∧
        Holds m path id (content ++ chunks.flatten) store d) E := by
  induction chunks generalizing content writer with
  | nil => exact .pure fun d hd => ⟨rfl, rfl, by simpa using hd⟩
  | cons chunk rest ih =>
      refine callOrThrow_bind (S := fun _ => Holds m path id (content ++ chunk) store)
        (fun d now hd => ⟨_, (), rfl, append_of_holds hfresh hd⟩) (fun d hd => hE d _ hd) fun _ => ?_
      refine .present_bind (fun total htotal => ?_) fun _ d hd => hE d _ hd
      obtain rfl := eq_add_of_checkedAddU64 htotal
      refine (ih (content ++ chunk) ⟨_, _⟩).mono (fun _ h => h) (fun after d h => ?_) fun _ _ h => h
      rw [List.foldl_cons, List.flatten_cons, List.length_append, ← Nat.add_assoc, ← List.append_assoc]
      exact h

/-- A download has written what it says, of the size that was asked for. -/
theorem downloadToTemp_rule {remoteId : Text} {maxBytes expectedSize : ℕ}
    (hE : ∀ error d written, Holds m path id written store d → E error d) :
    LocalTriple (Holds m path id [] store) (world.downloadToTemp id remoteId maxBytes expectedSize)
      (fun written d => ∃ bytes, written = (bytes.length, world.sha256.sha256Hex bytes) ∧
        bytes.length = expectedSize ∧ world.Gives maxBytes remoteId bytes ∧
        Holds m path id bytes store d) E := by
  refine download_bind fun call => ?_
  have hgives : world.Gives maxBytes remoteId
      (world.downloadFileContent call remoteId maxBytes).chunks.flatten := ⟨call, rfl⟩
  generalize world.downloadFileContent call remoteId maxBytes = download at hgives ⊢
  refine Triple.bind (writeChunks_rule hfresh download.chunks [] ⟨world.sha256.new, 0⟩
    fun d written hd => hE _ d written hd) fun writer => ?_
  refine .fact fun hhasher => .fact fun hwritten => ?_
  change writer.bytesWritten = 0 + _ at hwritten
  change writer.hasher = download.chunks.foldl world.sha256.update world.sha256.new at hhasher
  rw [Nat.zero_add] at hwritten
  rw [List.nil_append]
  refine .computed_bind (fun providerBytes _ => ?_) fun _ _ d hd => hE _ d _ hd
  refine .check_bind (fun hcounts => ?_) fun _ d hd => hE _ d _ hd
  obtain rfl : providerBytes = writer.bytesWritten := by simpa using hcounts
  refine .check_bind (fun hsizes => ?_) fun _ d hd => hE _ d _ hd
  have hlength : writer.bytesWritten = expectedSize := by simpa using hsizes
  refine sync_bind (fun d hd => hE _ d _ hd) (.pure fun d hd => ⟨download.chunks.flatten, ?_, ?_, hgives, hd⟩)
  · rw [hhasher, hwritten, world.sha256.streams]
  · rw [← hwritten, hlength]

end Download

end Rules

end ExecutorWorld

end NubiSync
