import NubiSync.Daemon.SettlementPlans
import NubiSync.Daemon.SourceEvents

set_option autoImplicit false

/-! # The residual events of a settlement

A settlement changes the baseline at one path and replaces the journal. Away from that path the diff
does not change, so the residual events are the old diff there; at the path they say what happened to
the created item since; and the journal they leave is the diff of the tree against the new baseline. -/

namespace NubiSync

open Checks

/-! ## Lists of entries -/

/-- The entries at a path. -/
def entriesAt (entries : List SelectedRootLocalDiffEntry) (path : Text) :
    List SelectedRootLocalDiffEntry :=
  entries.filter (·.relativePath == path)

/-- The entries of the diff of two lists. -/
def diffEntries (baseline current : List LocalItemSnapshot) : List SelectedRootLocalDiffEntry :=
  (unionPaths baseline current).filterMap (diffEntry baseline current)

section Diff

variable {baseline current : List LocalItemSnapshot} {path : Text}

theorem entriesAt_diffEntries :
    entriesAt (diffEntries baseline current) path = (diffEntry baseline current path).toList := by
  have hmem : ∀ entry, entry ∈ entriesAt (diffEntries baseline current) path ↔
      diffEntry baseline current path = some entry := by
    intro entry
    rw [entriesAt, List.mem_filter, beq_iff_eq, diffEntries, mem_diffEntries]
    constructor
    · intro ⟨hentry, hpath⟩
      rwa [← hpath]
    · intro hentry
      have hpath := relativePath_diffEntry hentry
      exact ⟨by rwa [hpath], hpath⟩
  have hnodup : (entriesAt (diffEntries baseline current) path).Nodup :=
    (List.Nodup.of_map _ nodup_diffPaths).filter _
  cases hentry : diffEntry baseline current path with
  | none =>
      refine List.eq_nil_iff_forall_not_mem.mpr fun entry hin => ?_
      have := (hmem entry).mp hin
      rw [hentry] at this
      cases this
  | some entry =>
      refine List.perm_singleton.mp ((List.perm_ext_iff_of_nodup hnodup (List.nodup_singleton _)).mpr
        fun other => ?_)
      rw [hmem, hentry, List.mem_singleton, Option.some.injEq, eq_comm]

theorem find?_diffEntries :
    (diffEntries baseline current).find? (·.relativePath == path) = diffEntry baseline current path := by
  rw [← List.head?_filter, show List.filter _ _ = _ from entriesAt_diffEntries]
  cases diffEntry baseline current path <;> rfl

theorem diffEntry_congr {other : List LocalItemSnapshot}
    (h : snapshotAt baseline path = snapshotAt other path) :
    diffEntry baseline current path = diffEntry other current path := by
  rw [diffEntry, diffEntry, h]

theorem pairwise_diffEntries :
    (diffEntries baseline current).Pairwise (·.relativePath ≤ ·.relativePath) := by
  refine List.pairwise_filterMap.mpr ((List.pairwise_insertionSort _ _).imp ?_)
  intro left right hle leftEntry hleft rightEntry hright
  rwa [relativePath_diffEntry hleft, relativePath_diffEntry hright]

end Diff

/-! ## The proposed baseline -/

section Proposed

variable {baseline current : List LocalItemSnapshot} {promoted : LocalItemSnapshot} {path : Text}

theorem mem_proposedBaseline {item : LocalItemSnapshot} :
    item ∈ proposedBaseline baseline promoted ↔ item ∈ baseline ∨ item = promoted := by
  rw [proposedBaseline, List.mem_insertionSort, List.mem_append, List.mem_singleton]

theorem snapshotAt_proposedBaseline
    (hnodup : ((proposedBaseline baseline promoted).map LocalItemSnapshot.relativePath).Nodup) :
    snapshotAt (proposedBaseline baseline promoted) path
      = if path = promoted.relativePath then some promoted else snapshotAt baseline path := by
  have hparts : ((baseline ++ [promoted]).map LocalItemSnapshot.relativePath).Nodup :=
    ((List.perm_insertionSort _ _).map _).nodup_iff.mp hnodup
  rw [List.map_append] at hparts
  refine Option.ext fun item => ?_
  rw [snapshotAt_eq_some_iff hnodup, mem_proposedBaseline]
  split
  · next hpath =>
      rw [Option.some.injEq]
      constructor
      · intro ⟨hitem, hitemPath⟩
        obtain hitem | rfl := hitem
        · -- the promoted path is new to the baseline
          refine absurd ?_ (List.disjoint_of_nodup_append hparts (List.mem_map.mpr ⟨item, hitem, rfl⟩))
          rw [hitemPath.trans hpath]
          exact List.mem_singleton.mpr rfl
        · rfl
      · intro hsame
        subst hsame
        exact ⟨.inr rfl, hpath.symm⟩
  · next hpath =>
      rw [snapshotAt_eq_some_iff (List.Nodup.of_append_left hparts)]
      constructor
      · intro ⟨hitem, hitemPath⟩
        obtain hitem | rfl := hitem
        · exact ⟨hitem, hitemPath⟩
        · exact absurd hitemPath.symm hpath
      · intro ⟨hitem, hitemPath⟩
        exact ⟨.inl hitem, hitemPath⟩

end Proposed

/-! ## What has become of a created item -/

/-- How a file that is no longer as it was has changed, by what its path holds now. -/
def changeKind : Option LocalItemSnapshot → LocalChangeEventKind
  | none => .deleted
  | some item => if item.kind = .file then .modified else .typeChanged

section Created

variable {baseline current : List LocalItemSnapshot} {file : LocalItemSnapshot} {path : Text}

/-- A file of the baseline has no entry while it is as it was. -/
theorem diffEntry_file_eq_none_iff (hfile : snapshotAt baseline path = some file)
    (hkind : file.kind = .file) :
    diffEntry baseline current path = none ↔
      ∃ item, snapshotAt current path = some item ∧ item.kind = .file ∧
        item.sizeBytes = file.sizeBytes ∧ item.modifiedUnixNs = file.modifiedUnixNs ∧
        item.deviceId = file.deviceId ∧ item.inode = file.inode := by
  rw [diffEntry, hfile]
  cases hitem : snapshotAt current path with
  | none => simp
  | some item =>
      have hchanged : localSnapshotMetadataChanged file item = false ↔
          item.sizeBytes = file.sizeBytes ∧ item.modifiedUnixNs = file.modifiedUnixNs ∧
            item.deviceId = file.deviceId ∧ item.inode = file.inode := by
        simp only [localSnapshotMetadataChanged, hkind, Bool.or_eq_false_iff, bne_eq_false_iff_eq,
          and_assoc]
        rw [eq_comm, @eq_comm _ file.modifiedUnixNs, @eq_comm _ file.deviceId, @eq_comm _ file.inode]
      simp only [hkind, Option.some.injEq, exists_eq_left', ← hchanged]
      cases item.kind with
      | file => simp
      | directory => simp

theorem kind_diffEntry_file (hfile : snapshotAt baseline path = some file)
    (hkind : file.kind = .file) {entry : SelectedRootLocalDiffEntry}
    (hentry : diffEntry baseline current path = some entry) :
    entry.kind = changeKind (snapshotAt current path) := by
  rw [diffEntry, hfile] at hentry
  cases hitem : snapshotAt current path with
  | none =>
      rw [hitem] at hentry
      rw [← Option.some.inj hentry]
      rfl
  | some item =>
      simp only [hitem, hkind] at hentry
      rw [changeKind]
      split at hentry
      · next hother =>
          rw [if_neg (Ne.symm hother), ← Option.some.inj hentry]
      · next hsame =>
          rw [if_pos (not_not.mp hsame).symm]
          split at hentry
          · rw [← Option.some.inj hentry]
          · cases hentry

end Created

/-! ## The planned residual -/

/-- The residual entries of a settlement at a path. -/
def RemoteWriteCreateSettlementFields.residualAt (fields : RemoteWriteCreateSettlementFields)
    (path : Text) : List SelectedRootLocalDiffEntry :=
  entriesAt (fields.residualEvents.map LocalChangeEventInput.entry) path

/-- A settlement is planned on a tree: its residual events are the diff of the tree against the
    proposed baseline. -/
structure RootStore.SettlementPlanned (store : RootStore) (current : List LocalItemSnapshot)
    (fields : RemoteWriteCreateSettlementFields) : Prop where
  residual : fields.residualEvents.map LocalChangeEventInput.entry
    = diffEntries (proposedBaseline store.listLocalItems fields.promoted) current
  baselineNodup : ((proposedBaseline store.listLocalItems fields.promoted).map
    LocalItemSnapshot.relativePath).Nodup
  currentNodup : (current.map LocalItemSnapshot.relativePath).Nodup

theorem ensures_residualDiff (state : LocalInventoryState)
    (baseline current : List LocalItemSnapshot) (promoted : LocalItemSnapshot) (settledAt : Int) :
    Ensures (residualDiff state baseline current promoted settledAt) fun diff =>
      diff.entries = diffEntries (proposedBaseline baseline promoted) current ∧
        ((proposedBaseline baseline promoted).map LocalItemSnapshot.relativePath).Nodup ∧
        (current.map LocalItemSnapshot.relativePath).Nodup := by
  refine .check fun _ => (ensures_buildDiff _ _ _ _).mono fun diff h => ?_
  exact ⟨congrArg SelectedRootLocalInventoryDiff.entries h.1, h.2⟩

theorem ensures_residualEvents (entries : List SelectedRootLocalDiffEntry) :
    Ensures (residualEvents entries) fun events =>
      events.map LocalChangeEventInput.entry = entries :=
  ensures_fromStorage (ensures_eventInputs entries)

theorem ensures_settlementBaseline (store : RootStore) (generation : ℕ) (path : Text)
    (mismatch : SelectedRootExecutorError) :
    Ensures (store.settlementBaseline generation path mismatch) fun r =>
      r.1.generation = generation ∧ r.2 = store.listLocalItems := by
  refine .check fun hstate => .check fun _ => .ok ⟨?_, rfl⟩
  simpa using (Bool.or_eq_false_iff.mp hstate).2

theorem ensures_newFileInput (fields : RemoteWriteCreateSettlementFields) (sha256Hex : Text)
    (version : ℕ) :
    Ensures (RemoteWriteFileCreateSettlementInput.new fields sha256Hex version) fun input =>
      input.toRemoteWriteCreateSettlementFields = fields := by
  unfold RemoteWriteFileCreateSettlementInput.new
  split
  · exact .ok rfl
  · exact .error

theorem ensures_newFolderInput (fields : RemoteWriteCreateSettlementFields) :
    Ensures (RemoteWriteFolderCreateSettlementInput.new fields) fun input =>
      input.toRemoteWriteCreateSettlementFields = fields := by
  unfold RemoteWriteFolderCreateSettlementInput.new
  split
  · exact .ok rfl
  · exact .error

theorem ensures_filePlanned (store : RootStore) (candidate : RemoteWriteFileCreateCandidate)
    (settledAt : Int) (current second : List LocalItemSnapshot)
    (source : Except SelectedRootExecutorError SelectedRootFileCreateStreamResult) :
    Ensures (planSelectedRootConfirmedFileCreateSettlement store candidate settledAt current second
        source) fun input =>
      store.SettlementPlanned current input.toRemoteWriteCreateSettlementFields ∧
        some input.promoted = candidate.uploaded ∧
        input.expectedFromGeneration = candidate.baselineGeneration := by
  refine .check fun _ => .check fun _ => .after fun found => .present fun evidence _ => ?_
  refine .present fun version _ => .check fun _ => ?_
  refine (ensures_settlementBaseline _ _ _ _).bind ?_
  intro ⟨state, baseline⟩ ⟨hgeneration, hbaseline⟩
  refine .present fun event _ => .check fun _ => .check fun _ => ?_
  refine .present fun promoted hpromoted => .after fun _ => .after fun _ => ?_
  refine (ensures_residualDiff _ _ _ _ _).bind fun diff ⟨hentries, hnodup, hcurrent⟩ => ?_
  refine (ensures_residualEvents _).bind fun events hevents => ?_
  refine (ensures_fromStorage (ensures_newFileInput _ _ _)).mono fun input hinput => ?_
  rw [hinput]
  subst hbaseline
  exact ⟨⟨hevents.trans hentries, hnodup, hcurrent⟩, hpromoted.symm, hgeneration⟩

theorem ensures_folderPlanned (store : RootStore) (candidate : RemoteWriteFolderCreateCandidate)
    (settledAt : Int) (current second : List LocalItemSnapshot) :
    Ensures (planSelectedRootConfirmedFolderCreateSettlement store candidate settledAt current
        second) fun input =>
      store.SettlementPlanned current input.toRemoteWriteCreateSettlementFields ∧
        input.promoted.relativePath = candidate.relativePath ∧
        input.residualAt candidate.relativePath = [] ∧
        input.expectedFromGeneration = candidate.baselineGeneration := by
  refine .check fun _ => .check fun _ => (ensures_settlementBaseline _ _ _ _).bind ?_
  intro ⟨state, baseline⟩ ⟨hgeneration, hbaseline⟩
  refine .check fun _ => .present fun item hitem => .check fun _ => .after fun oldDiff => ?_
  refine .present fun entry _ => .check fun _ => .after fun _ => ?_
  refine (ensures_residualDiff _ _ _ _ _).bind fun diff ⟨hentries, hnodup, hcurrent⟩ => ?_
  refine .check fun hnone => (ensures_residualEvents _).bind fun events hevents => ?_
  refine (ensures_fromStorage (ensures_newFolderInput _)).mono fun input hinput => ?_
  have hresidual : entriesAt diff.entries candidate.relativePath = [] :=
    List.filter_eq_nil_iff.mpr (List.any_eq_false.mp hnone)
  rw [RemoteWriteCreateSettlementFields.residualAt, hinput]
  subst hbaseline
  refine ⟨⟨hevents.trans hentries, hnodup, hcurrent⟩, by simpa using List.find?_some hitem, ?_,
    hgeneration⟩
  rw [hevents]
  exact hresidual

/-! ## The committed journal -/

/-- The diff entry of a journal row. -/
def LocalChangeEventRow.entry (row : LocalChangeEventRow) : SelectedRootLocalDiffEntry :=
  ⟨row.relativePath, row.eventKind, row.baselineKind, row.currentKind⟩

/-- The pending journal is the diff of a tree against the baseline, at the generation the baseline
    has. -/
def RootStore.JournalMatches (store : RootStore) (current : List LocalItemSnapshot)
    (generation : ℕ) : Prop :=
  ∃ completedAt diff, (∃ state, store.completeBaseline? = some state ∧
      state.generation = generation ∧ state.snapshotCompletedAtUnixMs = completedAt) ∧
    buildSelectedRootLocalInventoryDiff store.listLocalItems current generation completedAt
      = .ok diff ∧
    (store.listPendingLocalChangeEvents generation).map LocalChangeEventRow.entry = diff.entries

theorem buildDiff_eq_ok {baseline current : List LocalItemSnapshot} (generation : ℕ)
    (completedAt : Option Int) (hbaseline : (baseline.map LocalItemSnapshot.relativePath).Nodup)
    (hcurrent : (current.map LocalItemSnapshot.relativePath).Nodup) :
    buildSelectedRootLocalInventoryDiff baseline current generation completedAt
      = .ok ⟨baseline.length, generation, completedAt, current.length,
          diffEntries baseline current⟩ := by
  have hunique : (hasDuplicatePath baseline || hasDuplicatePath current) = false := by
    simp [hasDuplicatePath, hbaseline, hcurrent]
  rw [buildSelectedRootLocalInventoryDiff, hunique]
  rfl

/-- The store lists pending rows in the order of their paths, which is the order of the diff. -/
theorem listPending_eq_diffEntries {store : RootStore} {generation : ℕ}
    {baseline current : List LocalItemSnapshot}
    (hperm : ((store.localEvents.rows.filter (·.isPending generation)).map
      LocalChangeEventRow.entry).Perm (diffEntries baseline current)) :
    (store.listPendingLocalChangeEvents generation).map LocalChangeEventRow.entry =
      diffEntries baseline current := by
  have hpending := ((List.perm_insertionSort (fun left right : LocalChangeEventRow =>
    left.relativePath ≤ right.relativePath) _).map LocalChangeEventRow.entry).trans hperm
  -- both lists ascend, and no path comes twice
  refine List.Perm.eq_of_pairwise (fun left right hleft hright hle hge => ?_)
    (List.pairwise_map.mpr (List.pairwise_insertionSort _ _)) pairwise_diffEntries hpending
  exact List.inj_on_of_nodup_map nodup_diffPaths (hpending.mem_iff.mp hleft) hright
    (le_antisymm hle hge)

theorem entry_residualRows (generation id : ℕ) (events : List LocalChangeEventInput) :
    (residualRows generation id events).map LocalChangeEventRow.entry
      = events.map LocalChangeEventInput.entry := by
  induction events generalizing id with
  | nil => rfl
  | cons event rest ih =>
      rw [residualRows, List.map_cons, List.map_cons, ih]
      rfl

section Committed

variable {store next : RootStore} {current : List LocalItemSnapshot}
  {fields : RemoteWriteCreateSettlementFields}

/-- The pending events after a settlement are the residual ones. -/
theorem RootStore.SettlementWritten.pending_rows (h : store.SettlementWritten fields next) :
    next.localEvents.rows.filter (·.isPending (fields.expectedFromGeneration + 1))
      = residualRows (fields.expectedFromGeneration + 1) store.nextEventId fields.residualEvents := by
  have hresidual : (residualRows (fields.expectedFromGeneration + 1) store.nextEventId
      fields.residualEvents).filter (·.isPending (fields.expectedFromGeneration + 1))
      = residualRows (fields.expectedFromGeneration + 1) store.nextEventId fields.residualEvents := by
    refine List.filter_eq_self.mpr fun row hrow => ?_
    obtain ⟨hgeneration, hstatus, -⟩ := mem_residualRows hrow
    simp [LocalChangeEventRow.isPending, hgeneration, hstatus]
  -- the count of the commit leaves no room for a pending event among the old ones
  have hpending := h.pending
  rw [h.events, List.countP_append, List.countP_eq_length_filter (l := residualRows ..), hresidual,
    length_residualRows] at hpending
  have hold := List.countP_eq_zero.mp (Nat.add_right_cancel (hpending.trans (Nat.zero_add _).symm))
  rw [h.events, List.filter_append, hresidual, List.filter_eq_nil_iff.mpr hold, List.nil_append]

/-- **The journal of a settlement is the diff of the tree.** -/
theorem RootStore.SettlementPlanned.journalMatches (hplanned : store.SettlementPlanned current fields)
    (h : store.SettlementWritten fields next) :
    next.JournalMatches current (fields.expectedFromGeneration + 1) := by
  have hnodup : (next.listLocalItems.map LocalItemSnapshot.relativePath).Nodup :=
    ((List.perm_insertionSort _ _).map _).nodup_iff.mpr next.localItems.nodup_keys
  have hsame : ∀ path, diffEntry next.listLocalItems current path
      = diffEntry (proposedBaseline store.listLocalItems fields.promoted) current path := by
    intro path
    refine diffEntry_congr ?_
    rw [snapshotAt_proposedBaseline hplanned.baselineNodup, snapshotAt_listLocalItems,
      snapshotAt_listLocalItems, h.localItems, Table.find?_upsert]
    simp only [eq_comm]
  refine ⟨some fields.settledAtUnixMs, _, ⟨⟨true, fields.expectedItemCount + 1,
    some fields.settledAtUnixMs, fields.expectedFromGeneration + 1, true⟩, ?_, rfl, rfl⟩,
    buildDiff_eq_ok _ _ hnodup hplanned.currentNodup, ?_⟩
  · rw [RootStore.completeBaseline?, h.localState]
    rfl
  · refine listPending_eq_diffEntries ?_
    have hdiff : (diffEntries (proposedBaseline store.listLocalItems fields.promoted) current).Perm
        (diffEntries next.listLocalItems current) := by
      refine (List.perm_ext_iff_of_nodup (List.Nodup.of_map _ nodup_diffPaths)
        (List.Nodup.of_map _ nodup_diffPaths)).mpr fun entry => ?_
      exact (mem_diffEntries.trans (by rw [hsame])).trans mem_diffEntries.symm
    rw [h.pending_rows, entry_residualRows, hplanned.residual]
    exact hdiff

end Committed

/-! ## The residual events -/

/-- Away from the promoted path the residual is the old diff. -/
theorem RootStore.SettlementPlanned.residual_elsewhere {store : RootStore}
    {current : List LocalItemSnapshot} {fields : RemoteWriteCreateSettlementFields}
    (h : store.SettlementPlanned current fields) {path : Text}
    (hpath : path ≠ fields.promoted.relativePath) :
    fields.residualAt path = (diffEntry store.listLocalItems current path).toList := by
  rw [RemoteWriteCreateSettlementFields.residualAt, h.residual, entriesAt_diffEntries]
  refine congrArg Option.toList (diffEntry_congr ?_)
  rw [snapshotAt_proposedBaseline h.baselineNodup, if_neg hpath]

/-- **A settlement neither loses nor invents a local change.** Of every plan on a tree: away from the
    promoted path the residual events are the diff of the old baseline there; at it a folder has none,
    and a file has none exactly when the path still holds the uploaded file, else the one event that
    says what it holds; and once the settlement is committed the pending journal is the diff of the
    same tree against the new baseline. -/
theorem settlement_residual_exact (store : RootStore) (settledAt : Int)
    (current second : List LocalItemSnapshot) :
    (∀ candidate source input,
      planSelectedRootConfirmedFileCreateSettlement store candidate settledAt current second source
        = .ok input →
      (∀ path, path ≠ candidate.relativePath →
        input.residualAt path = (diffEntry store.listLocalItems current path).toList) ∧
      (input.residualAt candidate.relativePath = [] ↔
        ∃ item, snapshotAt current candidate.relativePath = some item ∧ item.kind = .file ∧
          item.sizeBytes = some candidate.localSizeBytes ∧
          item.modifiedUnixNs = candidate.localModifiedUnixNs ∧
          item.deviceId = candidate.localDeviceId ∧ item.inode = candidate.localInode) ∧
      (input.residualAt candidate.relativePath ≠ [] →
        ∃ entry, input.residualAt candidate.relativePath = [entry] ∧
          entry.kind = changeKind (snapshotAt current candidate.relativePath)) ∧
      ∀ next result, store.settleConfirmedFileCreate input = .ok (next, result) →
        next.JournalMatches current (candidate.baselineGeneration + 1)) ∧
    ∀ candidate input,
      planSelectedRootConfirmedFolderCreateSettlement store candidate settledAt current second
        = .ok input →
      (∀ path, path ≠ candidate.relativePath →
        input.residualAt path = (diffEntry store.listLocalItems current path).toList) ∧
      input.residualAt candidate.relativePath = [] ∧
      ∀ next result, store.settleConfirmedFolderCreate input = .ok (next, result) →
        next.JournalMatches current (candidate.baselineGeneration + 1) := by
  constructor
  · intro candidate source input hinput
    obtain ⟨hplanned, hpromoted, hgeneration⟩ := ensures_filePlanned _ _ _ _ _ _ input hinput
    obtain ⟨hsafe, hfile⟩ := Option.dite_none_right_eq_some.mp hpromoted.symm
    have hpath : input.promoted.relativePath = candidate.relativePath := by
      rw [← Option.some.inj hfile]
    have hsnapshot : snapshotAt (proposedBaseline store.listLocalItems input.promoted)
        candidate.relativePath = some input.promoted := by
      rw [snapshotAt_proposedBaseline hplanned.baselineNodup, if_pos hpath.symm]
    have hkind : input.promoted.kind = .file := by rw [← Option.some.inj hfile]
    have hresidual : input.residualAt candidate.relativePath
        = (diffEntry (proposedBaseline store.listLocalItems input.promoted) current
            candidate.relativePath).toList := by
      rw [RemoteWriteCreateSettlementFields.residualAt, hplanned.residual, entriesAt_diffEntries]
    refine ⟨fun path hother => hplanned.residual_elsewhere (hpath ▸ hother), ?_, ?_, ?_⟩
    · rw [hresidual, Option.toList_eq_nil_iff, diffEntry_file_eq_none_iff hsnapshot hkind,
        ← Option.some.inj hfile]
    · intro hchanged
      rw [hresidual] at hchanged ⊢
      obtain ⟨entry, hentry⟩ := Option.ne_none_iff_exists'.mp
        (mt Option.toList_eq_nil_iff.mpr hchanged)
      exact ⟨entry, by rw [hentry]; rfl, kind_diffEntry_file hsnapshot hkind hentry⟩
    · intro next result hnext
      obtain ⟨-, hwritten, -⟩ := ensures_fileSettled store input _ hnext
      exact hgeneration ▸ hplanned.journalMatches hwritten
  · intro candidate input hinput
    obtain ⟨hplanned, hpath, hnone, hgeneration⟩ := ensures_folderPlanned _ _ _ _ _ input hinput
    refine ⟨fun path hother => hplanned.residual_elsewhere (hpath ▸ hother), hnone, ?_⟩
    intro next result hnext
    obtain ⟨-, hwritten, -⟩ := ensures_folderSettled store input _ hnext
    exact hgeneration ▸ hplanned.journalMatches hwritten

/-- The tree at the settlement of the sample file `a`: `a` has changed since its upload, and `b` is
    still to be created. -/
def sampleTree : List LocalItemSnapshot :=
  [sampleChanged, ⟨['b'], .file, some 3, 1, 1, 1, .refl true, .refl true⟩]

/-- A file that was changed after its upload is settled with its modification pending. -/
theorem settlement_residual_exact_changed :
    ∃ (next : RootStore) (candidate : RemoteWriteFileCreateCandidate)
      (input : RemoteWriteFileCreateSettlementInput),
      (∃ entry, input.residualAt candidate.relativePath = [entry] ∧ entry.kind = .modified) ∧
        next.JournalMatches sampleTree (candidate.baselineGeneration + 1) := by
  have hends : ∃ store ∈ ((sampleOperations ++ sampleUpload ++ sampleConfirmation).foldlM
      RootStore.apply (RootStore.new .twoWay)).toOption,
      ∃ candidates ∈ (store.listFileCreateCandidates .confirmed).toOption,
      ∃ candidate ∈ candidates, candidate.relativePath = ['a'] ∧
      ∃ input ∈ (planSelectedRootConfirmedFileCreateSettlement store candidate 5 sampleTree sampleTree
        (.error .localDiffScanRace)).toOption,
      input.residualAt candidate.relativePath ≠ [] ∧
      ∃ settled ∈ (store.settleConfirmedFileCreate input).toOption, True := by
    decide +kernel
  obtain ⟨store, -, _, -, candidate, -, hpath, input, hinput, hchanged, settled, hsettled, -⟩ := hends
  obtain ⟨-, -, hentry, hjournal⟩ := (settlement_residual_exact store 5 sampleTree sampleTree).1
    candidate _ input (toOption_eq_some_iff.mp hinput)
  refine ⟨settled.1, candidate, input, ?_,
    hjournal settled.1 settled.2 (toOption_eq_some_iff.mp hsettled)⟩
  obtain ⟨entry, hentries, hkind⟩ := hentry hchanged
  refine ⟨entry, hentries, hkind.trans ?_⟩
  rw [hpath]
  rfl

end NubiSync
