import NubiSync.Sync.Materialization

set_option autoImplicit false

/-! # Receive-only convergence

`plan_receive_only_convergence` compares the catalog, a scan of the local tree and the ownership
receipts, and plans what brings the tree to the catalog. Three passes (expected paths, local entries,
receipts) write candidate actions into one map keyed by path; `set_action` merges a second candidate
at a path into the first.

The passes are split as *classify, then record*: a classifier is the body of a loop up to the choice
of the action, and `setActions` records the chosen candidates in order. -/

namespace NubiSync

open Indexing

inductive ReceiveOnlyReceiptState where
  | current
  | stale
  deriving DecidableEq, Repr

inductive ReceiveOnlyConvergenceActionKind where
  | createDirectory
  | materializeMissingFile
  | verifyExistingFile
  | revalidateStaleFileReplacement
  | revalidateStaleFileDeletion
  | deleteOwnedEmptyDirectory
  | blocked
  deriving DecidableEq, Repr

inductive ReceiveOnlyConvergencePlanError where
  | materialization (error : ReceiveOnlyMaterializationPlanError)
  | invalidMaxActions
  | invalidReceiptRemoteId
  | invalidReceiptPath
  | duplicateReceiptRemoteId
  | duplicateReceiptPath
  | actionLimitExceeded
  deriving DecidableEq, Repr

/-- `ReceiveOnlyOwnershipReceipt`. Its fields are private to the source module, so a receipt carries
    the checks of `ReceiveOnlyOwnershipReceipt::new`. -/
structure ReceiveOnlyOwnershipReceipt where
  remoteId : Text
  relativePath : Text
  kind : LocalTreeEntryKind
  state : ReceiveOnlyReceiptState
  id_not_blank : remoteId.isBlank = false
  safe : isSafeRelativePath relativePath = true

instance : DecidableEq ReceiveOnlyOwnershipReceipt := fun a b =>
  decidable_of_iff (a.remoteId = b.remoteId ∧ a.relativePath = b.relativePath ∧ a.kind = b.kind
    ∧ a.state = b.state) (by cases a; cases b; simp)

def ReceiveOnlyOwnershipReceipt.new (remoteId relativePath : Text) (kind : LocalTreeEntryKind)
    (state : ReceiveOnlyReceiptState) :
    Except ReceiveOnlyConvergencePlanError ReceiveOnlyOwnershipReceipt :=
  if hid : remoteId.isBlank = false then
    if hpath : isSafeRelativePath relativePath = true then
      .ok ⟨remoteId, relativePath, kind, state, hid, hpath⟩
    else .error .invalidReceiptPath
  else .error .invalidReceiptRemoteId

theorem ReceiveOnlyOwnershipReceipt.new_eq_ok_iff {remoteId relativePath : Text}
    {kind : LocalTreeEntryKind} {state : ReceiveOnlyReceiptState}
    {receipt : ReceiveOnlyOwnershipReceipt} :
    ReceiveOnlyOwnershipReceipt.new remoteId relativePath kind state = .ok receipt ↔
      receipt.remoteId = remoteId ∧ receipt.relativePath = relativePath ∧ receipt.kind = kind ∧
        receipt.state = state := by
  unfold ReceiveOnlyOwnershipReceipt.new
  split
  · split
    · rw [Except.ok.injEq]
      constructor
      · rintro rfl
        exact ⟨rfl, rfl, rfl, rfl⟩
      · rintro ⟨rfl, rfl, rfl, rfl⟩
        rfl
    · next hunsafe =>
        refine ⟨fun h => by simp at h, ?_⟩
        rintro ⟨rfl, rfl, rfl, rfl⟩
        exact absurd receipt.safe hunsafe
  · next hblank =>
      refine ⟨fun h => by simp at h, ?_⟩
      rintro ⟨rfl, rfl, rfl, rfl⟩
      exact absurd receipt.id_not_blank hblank

structure ReceiveOnlyConvergenceAction where
  kind : ReceiveOnlyConvergenceActionKind
  remoteId : Option Text
  relativePath : Text
  depth : ℕ
  deriving DecidableEq, Repr

structure ReceiveOnlyConvergencePlan where
  actions : List ReceiveOnlyConvergenceAction
  remoteItems : ℕ
  localEntries : ℕ
  receiptCount : ℕ
  createDirectories : ℕ
  materializeMissingFiles : ℕ
  verifyExistingFiles : ℕ
  revalidateStaleFileReplacements : ℕ
  revalidateStaleFileDeletions : ℕ
  deleteOwnedEmptyDirectories : ℕ
  blockedActions : ℕ
  currentOwnedFiles : ℕ
  currentOwnedDirectories : ℕ
  unownedMatchingDirectories : ℕ
  deriving DecidableEq, Repr

def ReceiveOnlyConvergencePlan.actionCount (plan : ReceiveOnlyConvergencePlan) : ℕ :=
  plan.actions.length

def ReceiveOnlyConvergencePlan.blocked (plan : ReceiveOnlyConvergencePlan) : Bool :=
  plan.blockedActions != 0

/-! ## The draft map -/

structure ActionDraft where
  kind : ReceiveOnlyConvergenceActionKind
  remoteId : Option Text
  relativePath : Text
  deriving DecidableEq, Repr

/-- The `BTreeMap` of drafts by path. -/
abbrev ActionMap := AList fun _ : Text => ActionDraft

/-- `set_action`: a second candidate of another kind at a path blocks the path. -/
def setAction (maxActions : ℕ) (actions : ActionMap) (candidate : ActionDraft) :
    Except ReceiveOnlyConvergencePlanError ActionMap :=
  match actions.lookup candidate.relativePath with
  | some existing =>
      if existing.kind = candidate.kind then .ok actions
      else .ok (actions.insert candidate.relativePath
        { existing with kind := .blocked, remoteId := none })
  | none =>
      let actions := actions.insert candidate.relativePath candidate
      if actions.keys.length > maxActions then .error .actionLimitExceeded else .ok actions

/-- The candidates of a pass, recorded in order. -/
def setActions (maxActions : ℕ) (actions : ActionMap) (candidates : List ActionDraft) :
    Except ReceiveOnlyConvergencePlanError ActionMap :=
  candidates.foldlM (setAction maxActions) actions

/-! ## Classifying -/

def localKindForRemote : RemoteItemKind → LocalTreeEntryKind
  | .file => .file
  | .folder => .directory

/-- `local_directory_is_empty`: no local entry lies below the path. -/
def localDirectoryIsEmpty (path : Text) (localEntries : List LocalTreeEntry) : Bool :=
  !localEntries.any fun entry => (path ++ ['/']).isPrefixOf entry.relativePath

/-- The maps the passes read. -/
structure ConvergenceIndex where
  localByPath : LocalByPath
  receiptByRemoteId : AList fun _ : Text => ReceiveOnlyOwnershipReceipt
  receiptByPath : AList fun _ : Text => ReceiveOnlyOwnershipReceipt
  expectedByRemoteId : AList fun _ : Text => Text × RemoteItemKind
  expectedPathNames : List Text

/-- What the first pass makes of one expected path: an action, or one of its three counters. -/
inductive ExpectedOutcome where
  | act (kind : ReceiveOnlyConvergenceActionKind)
  | currentOwnedFile
  | currentOwnedDirectory
  | unownedMatchingDirectory
  deriving DecidableEq, Repr

/-- The `match` of the first pass on the local entry at the expected path, for an expected path
    whose receipts do not conflict; `receiptState` is the state of the item's own receipt. -/
def matchLocalEntry (remoteKind : RemoteItemKind) (localEntry : Option LocalTreeEntryKind)
    (receiptState : Option ReceiveOnlyReceiptState) : ExpectedOutcome :=
  match localEntry with
  | none =>
      match remoteKind with
      | .folder => .act .createDirectory
      | .file => .act .materializeMissingFile
  | some localKind =>
      if localKind != localKindForRemote remoteKind then .act .blocked
      else
        match localKind, receiptState with
        | .directory, some .current => .currentOwnedDirectory
        -- a stale file can be fetched again; there is no such action for a folder
        | .directory, some .stale => .act .blocked
        | .directory, none => .unownedMatchingDirectory
        | .file, some .current => .currentOwnedFile
        | .file, some .stale => .act .revalidateStaleFileReplacement
        | .file, none => .act .verifyExistingFile

/-- The body of the first pass. -/
def classifyExpected (index : ConvergenceIndex) (expected : RemoteExpectedPath) : ExpectedOutcome :=
  let expectedLocalKind := localKindForRemote expected.kind
  let receiptById := index.receiptByRemoteId.lookup expected.remoteId
  let receiptAtPath := index.receiptByPath.lookup expected.relativePath
  let receiptIdentityConflict := receiptById.any fun receipt =>
    receipt.relativePath != expected.relativePath || receipt.kind != expectedLocalKind
  let receiptPathConflict := receiptAtPath.any fun receipt =>
    receipt.remoteId != expected.remoteId
  if receiptIdentityConflict || receiptPathConflict then .act .blocked
  else
    matchLocalEntry expected.kind (index.localByPath.lookup expected.relativePath)
      (receiptById.map ReceiveOnlyOwnershipReceipt.state)

/-- The candidate of the first pass at an expected path. -/
def expectedDraft (index : ConvergenceIndex) (expected : RemoteExpectedPath) : Option ActionDraft :=
  match classifyExpected index expected with
  | .act kind => some ⟨kind, some expected.remoteId, expected.relativePath⟩
  | _ => none

/-- What a stale-owned local entry of a vanished item is removed by: a directory has to be empty. -/
def staleRemovalKind (localEntries : List LocalTreeEntry) (entry : LocalTreeEntry) :
    ReceiveOnlyConvergenceActionKind :=
  match entry.kind with
  | .file => .revalidateStaleFileDeletion
  | .directory =>
      if localDirectoryIsEmpty entry.relativePath localEntries then .deleteOwnedEmptyDirectory
      else .blocked

/-- The body of the second pass. -/
def localDraft (index : ConvergenceIndex) (localEntries : List LocalTreeEntry)
    (entry : LocalTreeEntry) : Option ActionDraft :=
  let path := entry.relativePath
  if index.expectedPathNames.contains path then none
  else
    match index.receiptByPath.lookup path with
    | none => some ⟨.blocked, none, path⟩
    | some receipt =>
        -- only what is owned, stale and no longer expected is taken away
        if receipt.state != .stale || receipt.kind != entry.kind
            || (index.expectedByRemoteId.lookup receipt.remoteId).isSome then
          some ⟨.blocked, some receipt.remoteId, path⟩
        else
          some ⟨staleRemovalKind localEntries entry, some receipt.remoteId, path⟩

/-- The body of the third pass. -/
def receiptDraft (index : ConvergenceIndex) (receipt : ReceiveOnlyOwnershipReceipt) :
    Option ActionDraft :=
  if (index.localByPath.lookup receipt.relativePath).isSome then none
  else if (index.expectedByRemoteId.lookup receipt.remoteId).any fun target =>
      target.1 == receipt.relativePath && localKindForRemote target.2 == receipt.kind then none
  else some ⟨.blocked, some receipt.remoteId, receipt.relativePath⟩

/-! ## Ordering -/

def pathDepth (path : Text) : ℕ := path.components.length

def actionPriority : ReceiveOnlyConvergenceActionKind → ℕ
  | .createDirectory => 0
  | .materializeMissingFile | .verifyExistingFile | .revalidateStaleFileReplacement => 1
  | .revalidateStaleFileDeletion => 2
  | .deleteOwnedEmptyDirectory => 3
  | .blocked => 4

/-- The depth comparison of the action order: directory removals run deepest first. -/
def depthBefore (left right : ReceiveOnlyConvergenceAction) : Prop :=
  if left.kind = .deleteOwnedEmptyDirectory ∧ right.kind = .deleteOwnedEmptyDirectory then
    right.depth < left.depth
  else left.depth < right.depth

instance : DecidableRel depthBefore := fun _ _ => inferInstanceAs (Decidable (ite _ _ _))

/-- The action order: priority, then depth, then path. -/
def actionLe (left right : ReceiveOnlyConvergenceAction) : Prop :=
  actionPriority left.kind < actionPriority right.kind ∨
    (actionPriority left.kind = actionPriority right.kind ∧
      (depthBefore left right ∨
        (left.depth = right.depth ∧ left.relativePath ≤ right.relativePath)))

instance : DecidableRel actionLe := fun _ _ => inferInstanceAs (Decidable (_ ∨ _))

/-- The action of a draft. -/
def ActionDraft.toAction (draft : ActionDraft) : ReceiveOnlyConvergenceAction :=
  ⟨draft.kind, draft.remoteId, draft.relativePath, pathDepth draft.relativePath⟩

/-- `drafts.into_values()`: the drafts in path order. -/
def intoValues (drafts : ActionMap) : List ActionDraft :=
  (drafts.entries.map Sigma.snd).insertionSort fun left right =>
    left.relativePath ≤ right.relativePath

/-! ## The planner -/

/-- The loop that indexes the receipts by id and by path. -/
def indexReceipts (byRemoteId byPath : AList fun _ : Text => ReceiveOnlyOwnershipReceipt) :
    List ReceiveOnlyOwnershipReceipt → Except ReceiveOnlyConvergencePlanError
      ((AList fun _ : Text => ReceiveOnlyOwnershipReceipt) ×
        (AList fun _ : Text => ReceiveOnlyOwnershipReceipt))
  | [] => .ok (byRemoteId, byPath)
  | receipt :: rest =>
      if receipt.remoteId ∈ byRemoteId then .error .duplicateReceiptRemoteId
      else if receipt.relativePath ∈ byPath then .error .duplicateReceiptPath
      else indexReceipts (byRemoteId.insert receipt.remoteId receipt)
        (byPath.insert receipt.relativePath receipt) rest

/-- `?` on a materialization error inside the convergence planner. -/
def fromMaterialization {α : Type} :
    Except ReceiveOnlyMaterializationPlanError α → Except ReceiveOnlyConvergencePlanError α
  | .ok a => .ok a
  | .error e => .error (.materialization e)

/-- The candidates of the three passes, in the order they are recorded. -/
def candidateDrafts (index : ConvergenceIndex) (expectedPaths : List RemoteExpectedPath)
    (localEntries : List LocalTreeEntry) (receipts : List ReceiveOnlyOwnershipReceipt) :
    List ActionDraft :=
  expectedPaths.filterMap (expectedDraft index)
    ++ localEntries.filterMap (localDraft index localEntries)
    ++ receipts.filterMap (receiptDraft index)

/-- The plan of a finished draft map; the counters are the loop after the sort. -/
def assemblePlan (remoteItems : List RemoteItem) (localEntries : List LocalTreeEntry)
    (receipts : List ReceiveOnlyOwnershipReceipt) (outcomes : List ExpectedOutcome)
    (drafts : ActionMap) : ReceiveOnlyConvergencePlan :=
  let actions := ((intoValues drafts).map ActionDraft.toAction).insertionSort actionLe
  let count (kind : ReceiveOnlyConvergenceActionKind) : ℕ := actions.countP (·.kind == kind)
  { actions := actions
    remoteItems := remoteItems.length
    localEntries := localEntries.length
    receiptCount := receipts.length
    createDirectories := count .createDirectory
    materializeMissingFiles := count .materializeMissingFile
    verifyExistingFiles := count .verifyExistingFile
    revalidateStaleFileReplacements := count .revalidateStaleFileReplacement
    revalidateStaleFileDeletions := count .revalidateStaleFileDeletion
    deleteOwnedEmptyDirectories := count .deleteOwnedEmptyDirectory
    blockedActions := count .blocked
    currentOwnedFiles := outcomes.count .currentOwnedFile
    currentOwnedDirectories := outcomes.count .currentOwnedDirectory
    unownedMatchingDirectories := outcomes.count .unownedMatchingDirectory }

/-- `plan_receive_only_convergence`. The source scans the local entries for a repeated path a second
    time; the entries' own path check makes the two loops the same. -/
def planReceiveOnlyConvergence (remoteItems : List RemoteItem) (localEntries : List LocalTreeEntry)
    (receipts : List ReceiveOnlyOwnershipReceipt) (maxActions : ℕ) :
    Except ReceiveOnlyConvergencePlanError ReceiveOnlyConvergencePlan := do
  if maxActions = 0 then .error .invalidMaxActions
  else do
    let _ ← fromMaterialization (planReceiveOnlyMaterialization remoteItems localEntries)
    let expectedPaths ← fromMaterialization (buildRemoteExpectedPaths remoteItems)
    let localByPath ← fromMaterialization (indexLocalEntries ∅ localEntries)
    let (receiptByRemoteId, receiptByPath) ← indexReceipts ∅ ∅ receipts
    let index : ConvergenceIndex := {
      localByPath := localByPath
      receiptByRemoteId := receiptByRemoteId
      receiptByPath := receiptByPath
      expectedByRemoteId := indexBy RemoteExpectedPath.remoteId
        (fun e => (e.relativePath, e.kind)) ∅ expectedPaths
      expectedPathNames := expectedPaths.map RemoteExpectedPath.relativePath }
    let drafts ← setActions maxActions ∅
      (candidateDrafts index expectedPaths localEntries receipts)
    .ok (assemblePlan remoteItems localEntries receipts
      (expectedPaths.map (classifyExpected index)) drafts)

end NubiSync
