import NubiSync.Daemon.RemoteWritePlan
import NubiSync.Daemon.ResidualEvents

set_option autoImplicit false

/-! # The diff and the journal agree

A local change is held twice: as an entry of the diff, which is computed, and as a pending row of the
journal, which was stored. `LocalChangeOf` says what a change is without either. The diff lists the
changes, sorted by path; the journal pass writes them down over whatever was journaled before; and what
the store then lists as pending is the diff again, entry by entry, which is what the remote write plan
compares. -/

namespace NubiSync

open Checks

/-! ## The changes of a tree -/

/-- The tracked metadata of an item has changed: all of it for a file, its identity for a directory. -/
def MetadataDiffers (old new : LocalItemSnapshot) : Prop :=
  match old.kind with
  | .file => old.sizeBytes ≠ new.sizeBytes ∨ old.modifiedUnixNs ≠ new.modifiedUnixNs ∨
      old.deviceId ≠ new.deviceId ∨ old.inode ≠ new.inode
  | .directory => old.deviceId ≠ new.deviceId ∨ old.inode ≠ new.inode

/-- The change of one path between a baseline and a tree. -/
inductive LocalChangeOf (baseline current : List LocalItemSnapshot) :
    SelectedRootLocalDiffEntry → Prop where
  | created {new : LocalItemSnapshot} : new ∈ current →
      (∀ old ∈ baseline, old.relativePath ≠ new.relativePath) →
      LocalChangeOf baseline current ⟨new.relativePath, .created, none, some new.kind⟩
  | deleted {old : LocalItemSnapshot} : old ∈ baseline →
      (∀ new ∈ current, new.relativePath ≠ old.relativePath) →
      LocalChangeOf baseline current ⟨old.relativePath, .deleted, some old.kind, none⟩
  | typeChanged {old new : LocalItemSnapshot} : old ∈ baseline → new ∈ current →
      old.relativePath = new.relativePath → old.kind ≠ new.kind →
      LocalChangeOf baseline current
        ⟨new.relativePath, .typeChanged, some old.kind, some new.kind⟩
  | modified {old new : LocalItemSnapshot} : old ∈ baseline → new ∈ current →
      old.relativePath = new.relativePath → old.kind = new.kind → MetadataDiffers old new →
      LocalChangeOf baseline current ⟨new.relativePath, .modified, some old.kind, some new.kind⟩

theorem localSnapshotMetadataChanged_iff (old new : LocalItemSnapshot) :
    localSnapshotMetadataChanged old new = true ↔ MetadataDiffers old new := by
  unfold localSnapshotMetadataChanged MetadataDiffers
  cases old.kind <;> simp [or_assoc]

section Changes

variable {baseline current : List LocalItemSnapshot}

theorem LocalChangeOf.of_diffEntry
    (hbaseline : (baseline.map LocalItemSnapshot.relativePath).Nodup)
    (hcurrent : (current.map LocalItemSnapshot.relativePath).Nodup) {path : Text}
    {entry : SelectedRootLocalDiffEntry} (h : diffEntry baseline current path = some entry) :
    LocalChangeOf baseline current entry := by
  unfold diffEntry at h
  split at h
  · next new hold hnew =>
      obtain ⟨hmem, rfl⟩ := (snapshotAt_eq_some_iff hcurrent).mp hnew
      exact Option.some.inj h ▸ .created hmem (snapshotAt_eq_none_iff.mp hold)
  · next old hold hnew =>
      obtain ⟨hmem, rfl⟩ := (snapshotAt_eq_some_iff hbaseline).mp hold
      exact Option.some.inj h ▸ .deleted hmem (snapshotAt_eq_none_iff.mp hnew)
  · next old new hold hnew =>
      obtain ⟨hmemOld, hpath⟩ := (snapshotAt_eq_some_iff hbaseline).mp hold
      obtain ⟨hmemNew, rfl⟩ := (snapshotAt_eq_some_iff hcurrent).mp hnew
      split at h
      · next hkind => exact Option.some.inj h ▸ .typeChanged hmemOld hmemNew hpath hkind
      next hkind =>
      split at h
      · next hchanged =>
          exact Option.some.inj h ▸ .modified hmemOld hmemNew hpath (not_not.mp hkind)
            ((localSnapshotMetadataChanged_iff old new).mp hchanged)
      · cases h
  · cases h

theorem LocalChangeOf.diffEntry (hbaseline : (baseline.map LocalItemSnapshot.relativePath).Nodup)
    (hcurrent : (current.map LocalItemSnapshot.relativePath).Nodup)
    {entry : SelectedRootLocalDiffEntry} (h : LocalChangeOf baseline current entry) :
    diffEntry baseline current entry.relativePath = some entry := by
  have hold : ∀ {old : LocalItemSnapshot}, old ∈ baseline →
      snapshotAt baseline old.relativePath = some old := fun hmem =>
    (snapshotAt_eq_some_iff hbaseline).mpr ⟨hmem, rfl⟩
  have hnew : ∀ {new : LocalItemSnapshot}, new ∈ current →
      snapshotAt current new.relativePath = some new := fun hmem =>
    (snapshotAt_eq_some_iff hcurrent).mpr ⟨hmem, rfl⟩
  cases h with
  | created hmem habsent => rw [NubiSync.diffEntry, snapshotAt_eq_none_iff.mpr habsent, hnew hmem]
  | deleted hmem habsent => rw [NubiSync.diffEntry, snapshotAt_eq_none_iff.mpr habsent, hold hmem]
  | typeChanged hmemOld hmemNew hpath hkind =>
      rw [NubiSync.diffEntry, hnew hmemNew, ← hpath, hold hmemOld]
      simp [hkind]
  | modified hmemOld hmemNew hpath hkind hdiffers =>
      rw [NubiSync.diffEntry, hnew hmemNew, ← hpath, hold hmemOld]
      simp only
      rw [if_neg (not_not.mpr hkind), if_pos ((localSnapshotMetadataChanged_iff _ _).mpr hdiffers)]

/-- **The entries of the diff are the changes.** -/
theorem mem_diffEntries_iff (hbaseline : (baseline.map LocalItemSnapshot.relativePath).Nodup)
    (hcurrent : (current.map LocalItemSnapshot.relativePath).Nodup)
    (entry : SelectedRootLocalDiffEntry) :
    entry ∈ diffEntries baseline current ↔ LocalChangeOf baseline current entry :=
  mem_diffEntries.trans ⟨.of_diffEntry hbaseline hcurrent, fun h => h.diffEntry hbaseline hcurrent⟩

theorem sorted_diffEntries :
    (diffEntries baseline current).Pairwise (·.relativePath < ·.relativePath) := by
  have hapart : (diffEntries baseline current).Pairwise (·.relativePath ≠ ·.relativePath) :=
    List.pairwise_map.mp nodup_diffPaths
  refine (pairwise_diffEntries.and hapart).imp ?_
  exact fun ⟨hle, hne⟩ => lt_of_le_of_ne hle hne

theorem LocalChangeOf.accepted {entry : SelectedRootLocalDiffEntry}
    (h : LocalChangeOf baseline current entry) :
    ∃ event, entry.eventInput = .ok event ∧ event.entry = entry := by
  have hnew : ∀ (new : LocalItemSnapshot) (kind : LocalChangeEventKind)
      (baselineKind currentKind : Option LocalItemKind),
      isLocalChangeShape kind baselineKind currentKind = true →
      ∃ event, (SelectedRootLocalDiffEntry.mk new.relativePath kind baselineKind
        currentKind).eventInput = .ok event ∧
        event.entry = ⟨new.relativePath, kind, baselineKind, currentKind⟩ := by
    intro new kind baselineKind currentKind hshape
    refine ⟨⟨new.relativePath, kind, baselineKind, currentKind, new.safe, hshape⟩, ?_, rfl⟩
    simp only [SelectedRootLocalDiffEntry.eventInput, LocalChangeEventInput.new, new.safe, hshape,
      dite_true]
  cases h with
  | @created new _ _ => exact hnew new _ _ _ rfl
  | @deleted old _ _ => exact hnew old _ _ _ rfl
  | @typeChanged old new _ _ _ hkind =>
      exact hnew new _ _ _ (by simpa [isLocalChangeShape] using hkind)
  | @modified old new _ _ _ hkind _ =>
      exact hnew new _ _ _ (by simpa [isLocalChangeShape] using hkind)

end Changes

/-- Inputs that are accepted one by one are accepted as a list. -/
theorem exists_eventInputs {entries : List SelectedRootLocalDiffEntry}
    (h : ∀ entry ∈ entries, ∃ event, entry.eventInput = .ok event ∧ event.entry = entry) :
    ∃ events, entries.mapM SelectedRootLocalDiffEntry.eventInput = .ok events ∧
      events.map LocalChangeEventInput.entry = entries := by
  obtain ⟨events, hevents, -⟩ := exists_mapM_eq_ok fun entry hentry =>
    (h entry hentry).imp fun _ hevent => hevent.1
  exact ⟨events, hevents, ensures_eventInputs entries events hevents⟩

/-- The four counts are the entries. -/
theorem SelectedRootLocalInventoryDiff.counts_sum (diff : SelectedRootLocalInventoryDiff) :
    diff.created + diff.deleted + diff.modified + diff.typeChanged = diff.entries.length := by
  simp only [created, deleted, modified, typeChanged, count]
  induction diff.entries with
  | nil => rfl
  | cons entry rest ih =>
      rw [List.length_cons, ← ih]
      cases hkind : entry.kind <;> simp [hkind] <;> omega

/-! ## The journal after a reconciliation -/

section Reconciled

variable {generation : ℕ} {events : List LocalChangeEventInput}

/-- The journal a reconciliation leaves. -/
def RootStore.reconciled (store : RootStore) (generation : ℕ) (events : List LocalChangeEventInput) :
    RootStore :=
  events.foldl (RootStore.recordLocalChange generation)
    (store.setEventStatus (·.isPending generation) .superseded)

/-- A pending row of the generation answers one of the events. -/
theorem pending_reconciled (store : RootStore)
    (hnodup : (events.map LocalChangeEventInput.relativePath).Nodup) {row : LocalChangeEventRow}
    (hrow : row ∈ (store.reconciled generation events).localEvents.rows)
    (hpending : row.isPending generation = true) :
    row.entry ∈ events.map LocalChangeEventInput.entry := by
  simp only [LocalChangeEventRow.isPending, Bool.and_eq_true, beq_iff_eq] at hpending
  have hkey : row.journalKey = (generation, row.relativePath) :=
    Prod.ext hpending.1 rfl
  have hfound := Table.find?_eq_some_iff.mpr ⟨hrow, hkey⟩
  by_cases hevent : ∃ event ∈ events, event.relativePath = row.relativePath
  · obtain ⟨event, hmem, hpath⟩ := hevent
    obtain ⟨answer, hanswer, hanswers, -⟩ := find?_foldl_record
      (store.setEventStatus (·.isPending generation) .superseded) generation hnodup hmem
    rw [hpath] at hanswer
    obtain rfl := Option.some.inj (hanswer.symm.trans hfound)
    obtain ⟨hkind, hbaseline, hcurrent, -⟩ := hanswers
    refine List.mem_map.mpr ⟨event, hmem, ?_⟩
    rw [LocalChangeEventRow.entry, hkind, hbaseline, hcurrent, ← hpath]
    rfl
  · -- a row that is not recorded again was superseded, or was not pending
    exfalso
    push Not at hevent
    have hother : ∀ event ∈ events, (generation, row.relativePath) ≠ (generation, event.relativePath) :=
      fun event hmem hsame => hevent event hmem (Prod.mk.inj hsame).2.symm
    rw [RootStore.reconciled, find?_foldl_record_other hother, find?_setEventStatus,
      Option.map_eq_some_iff] at hfound
    obtain ⟨old, hold, rfl⟩ := hfound
    have hgeneration : old.baselineGeneration = generation :=
      congrArg Prod.fst (Table.find?_eq_some_iff.mp hold).2
    by_cases hwas : old.isPending generation = true
    · simp [hwas] at hpending
    · simp only [hwas, Bool.false_eq_true, if_false] at hpending
      exact hwas (by simp [LocalChangeEventRow.isPending, hpending])

/-- Every event has its pending row. -/
theorem exists_pending_reconciled (generation : ℕ) (store : RootStore)
    (hnodup : (events.map LocalChangeEventInput.relativePath).Nodup) {event : LocalChangeEventInput}
    (hevent : event ∈ events) :
    ∃ row ∈ (store.reconciled generation events).localEvents.rows,
      row.isPending generation = true ∧ row.entry = event.entry := by
  obtain ⟨row, hrow, ⟨hkind, hbaseline, hcurrent, hstatus⟩, -⟩ := find?_foldl_record
    (store.setEventStatus (·.isPending generation) .superseded) generation hnodup hevent
  obtain ⟨hmem, hkey⟩ := Table.find?_eq_some_iff.mp hrow
  obtain ⟨hgeneration, hpath⟩ := Prod.mk.inj hkey
  refine ⟨row, hmem, by simp [LocalChangeEventRow.isPending, hgeneration, hstatus], ?_⟩
  rw [LocalChangeEventRow.entry, hkind, hbaseline, hcurrent, hpath]
  rfl

/-- **The pending rows are the events**, in the order the table holds them. -/
theorem pending_rows_reconciled (generation : ℕ) (store : RootStore)
    (hnodup : (events.map LocalChangeEventInput.relativePath).Nodup) :
    (((store.reconciled generation events).localEvents.rows.filter
      (·.isPending generation)).map LocalChangeEventRow.entry).Perm
        (events.map LocalChangeEventInput.entry) := by
  have hevents : (events.map LocalChangeEventInput.entry).Nodup :=
    List.Nodup.of_map SelectedRootLocalDiffEntry.relativePath (by rwa [List.map_map])
  have hrows : (((store.reconciled generation events).localEvents.rows.filter
      (·.isPending generation)).map LocalChangeEventRow.entry).Nodup := by
    refine List.Nodup.map_on (fun row hrow other hother hsame => ?_)
      (List.Nodup.of_map _ (store.reconciled generation events).localEvents.nodup_keys |>.filter _)
    obtain ⟨hmem, hpending⟩ := List.mem_filter.mp hrow
    obtain ⟨hmem', hpending'⟩ := List.mem_filter.mp hother
    simp only [LocalChangeEventRow.isPending, Bool.and_eq_true, beq_iff_eq] at hpending hpending'
    refine Table.eq_of_key _ hmem hmem' (Prod.ext (hpending.1.trans hpending'.1.symm) ?_)
    exact congrArg SelectedRootLocalDiffEntry.relativePath hsame
  refine (List.perm_ext_iff_of_nodup hrows hevents).mpr fun entry => ?_
  constructor
  · intro hentry
    obtain ⟨row, hrow, rfl⟩ := List.mem_map.mp hentry
    obtain ⟨hmem, hpending⟩ := List.mem_filter.mp hrow
    exact pending_reconciled store hnodup hmem hpending
  · intro hentry
    obtain ⟨event, hevent, rfl⟩ := List.mem_map.mp hentry
    obtain ⟨row, hmem, hpending, heq⟩ := exists_pending_reconciled generation store hnodup hevent
    exact List.mem_map.mpr ⟨row, List.mem_filter.mpr ⟨hmem, hpending⟩, heq⟩

/-- A reconciliation at the state of a valid baseline goes through. -/
theorem RootStore.succeeds_reconcile (store : RootStore) {state : LocalInventoryState}
    (hstate : store.localState = some state) (hcomplete : state.snapshotComplete = true)
    (hvalid : state.observationValid = true) (hgeneration : state.generation < 2 ^ 63)
    (hcount : state.itemCount < 2 ^ 63)
    (hnodup : (events.map LocalChangeEventInput.relativePath).Nodup) :
    Succeeds (store.reconcileLocalChangeJournal state.generation state.itemCount
      state.snapshotCompletedAtUnixMs events) := by
  refine .bind (if_pos hgeneration) (.bind (if_pos hcount) (.present hstate (.check ?_ (.check ?_
    (.ok _)))))
  · simp [hcomplete, hvalid]
  · have hpending := (pending_rows_reconciled state.generation store hnodup).length_eq
    rw [List.length_map, List.length_map, ← List.countP_eq_length_filter] at hpending
    rw [bne_eq_false_iff_eq]
    exact hpending

end Reconciled

/-! ## The comparison of the plan -/

/-- The pending journal of a store is a diff. -/
theorem journalMatches_iff (events : List LocalChangeEventRow)
    (entries : List SelectedRootLocalDiffEntry) :
    journalMatches events entries = true ↔ events.map LocalChangeEventRow.entry = entries := by
  rw [journalMatches, beq_iff_eq]
  rfl

theorem refuses_fromStorage {α : Type} {P : SelectedRootExecutorError → Prop}
    (h : ∀ e, P (.storage e)) (x : Except StorageError α) : Refuses (fromStorage x) P := by
  cases x with
  | error e => exact .error (h e)
  | ok a => exact .ok

theorem RootStore.refuses_checkRemoteWritePlan (store : RootStore) (remoteRootId : Text) :
    Refuses (store.checkRemoteWritePlan remoteRootId) fun e =>
      e ≠ .remoteWritePlanLocalJournalMismatch ∧ e ≠ .remoteWritePlanOwnershipAmbiguous := by
  refine .present (by simp) fun _ _ => .check (by simp) fun _ => .check (by simp) fun _ => ?_
  refine .present (by simp) fun _ _ => .check (by simp) fun _ => .present (by simp) fun _ _ => ?_
  refine .check (by simp) fun _ => .check (by simp) fun _ => ?_
  unfold refuseIf
  split
  · exact .error (by simp)
  · exact .ok

theorem RemoteWritePlanInputs.refuses_deriveEntries (inputs : RemoteWritePlanInputs) :
    Refuses inputs.deriveEntries (· ≠ .remoteWritePlanLocalJournalMismatch) :=
  .check (by simp) fun _ => .check (by simp) fun _ => .check (by simp) fun _ => .check (by simp)
    fun _ => .ok

/-- **The plan has no quarrel with a journal that is the diff of the tree.** -/
theorem RootStore.plan_accepts_journal (store : RootStore) (remoteRootId : Option Text)
    (current second : List LocalItemSnapshot) (credential : Bool)
    (h : ∀ state, store.completeBaseline? = some state →
      (store.listPendingLocalChangeEvents state.generation).map LocalChangeEventRow.entry =
        diffEntries store.listLocalItems current) :
    planSelectedRootRemoteWriteIntents store remoteRootId current second credential ≠
      .error .remoteWritePlanLocalJournalMismatch := by
  have hrefuses : Refuses (planSelectedRootRemoteWriteIntents store remoteRootId current second
      credential) (· ≠ .remoteWritePlanLocalJournalMismatch) := by
    refine .present (by simp) fun state hstate => .check (by simp) fun _ => ?_
    refine .check (by simp) fun _ => .check (by simp) fun _ => .bind ?_ fun diff hdiff => ?_
    · exact .check (by simp) fun _ => .ok
    obtain ⟨rfl, -, -⟩ := ensures_buildDiff _ _ _ _ diff hdiff
    refine .check (fun hmismatch => ?_) fun _ => ?_
    · have hmatches := (journalMatches_iff _ _).mpr (h state hstate)
      rw [diffEntries] at hmatches
      rw [hmatches] at hmismatch
      exact absurd hmismatch (by simp)
    refine .present (by simp) fun root _ => .bind ?_ fun _ _ => ?_
    · exact fun e he => (store.refuses_checkRemoteWritePlan root e he).1
    refine .bind (refuses_fromStorage (by simp) _) fun _ _ => ?_
    refine .bind (refuses_fromStorage (by simp) _) fun _ _ => ?_
    exact .bind (RemoteWritePlanInputs.refuses_deriveEntries _) fun _ _ => .ok
  exact fun herror => hrefuses _ herror rfl

/-! ## Diff and journal -/

/-- What a reconciliation with a diff of `baseline` and `current` leaves in a root, whatever was in its
    journal. -/
structure JournaledDiff (baseline current : List LocalItemSnapshot) (generation : ℕ)
    (entries : List SelectedRootLocalDiffEntry) (store next : RootStore) : Prop where
  /-- The store lists the entries of the diff, in their order. -/
  listed : (next.listPendingLocalChangeEvents generation).map LocalChangeEventRow.entry = entries
  /-- On an unchanged tree the plan does not find a mismatch. -/
  comparison : store.listLocalItems = baseline → ∀ remoteRootId second credential,
    planSelectedRootRemoteWriteIntents next remoteRootId current second credential ≠
      .error .remoteWritePlanLocalJournalMismatch

theorem RootStore.journaledDiff (store : RootStore) {baseline current : List LocalItemSnapshot}
    {generation itemCount : ℕ} {completedAt : Option Int} {events : List LocalChangeEventInput}
    (hevents : events.map LocalChangeEventInput.entry = diffEntries baseline current)
    {next : RootStore} {commit : LocalChangeJournalCommit}
    (h : store.reconcileLocalChangeJournal generation itemCount completedAt events
      = .ok (next, commit)) :
    JournaledDiff baseline current generation (diffEntries baseline current) store next := by
  obtain ⟨⟨state, hstate, -, -, hgeneration⟩, hnext, -⟩ := ensures_reconcile store _ _ _ _ _ h
  have hnodup : (events.map LocalChangeEventInput.relativePath).Nodup := by
    have hpaths : ((diffEntries baseline current).map _).Nodup := nodup_diffPaths
    rwa [← hevents, List.map_map] at hpaths
  have hlisted : (next.listPendingLocalChangeEvents generation).map LocalChangeEventRow.entry =
      diffEntries baseline current := by
    refine listPending_eq_diffEntries ?_
    rw [← hevents, show next = store.reconciled generation events from hnext]
    exact pending_rows_reconciled _ store hnodup
  -- the journal is all that has changed
  have hframe : next.localItems = store.localItems ∧ next.localState = store.localState := by
    obtain ⟨localEvents, nextEventId, hfold⟩ := foldl_recordLocalChange_eq generation events
      (store.setEventStatus (·.isPending generation) .superseded)
    rw [show next = _ from hnext, hfold]
    exact ⟨rfl, rfl⟩
  refine ⟨hlisted, fun hbaseline remoteRootId second credential => ?_⟩
  refine next.plan_accepts_journal remoteRootId current second credential fun state' hstate' => ?_
  have hsame : state' = state := by
    have hfound := (Option.filter_eq_some_iff.mp hstate').1
    rw [hframe.2, hstate] at hfound
    exact (Option.some.inj hfound).symm
  have hitems : next.listLocalItems = baseline := by
    rw [← hbaseline, RootStore.listLocalItems, RootStore.listLocalItems, hframe.1]
  rw [hsame, hgeneration, hlisted, hitems]

/-- **Diff and journal agree.** -/
theorem diff_and_journal_agree (baseline current : List LocalItemSnapshot) (generation : ℕ)
    (completedAt : Option Int) (hbaseline : (baseline.map LocalItemSnapshot.relativePath).Nodup)
    (hcurrent : (current.map LocalItemSnapshot.relativePath).Nodup) :
    ∃ diff, buildSelectedRootLocalInventoryDiff baseline current generation completedAt = .ok diff ∧
      (∀ entry, entry ∈ diff.entries ↔ LocalChangeOf baseline current entry) ∧
      diff.entries.Pairwise (·.relativePath < ·.relativePath) ∧
      diff.created + diff.deleted + diff.modified + diff.typeChanged = diff.entries.length ∧
      ∃ events, diff.entries.mapM SelectedRootLocalDiffEntry.eventInput = .ok events ∧
        ∀ store : RootStore,
          (∀ next commit, store.reconcileLocalChangeJournal diff.baselineGeneration diff.baselineItems
              diff.baselineSnapshotCompletedAtUnixMs events = .ok (next, commit) →
            JournaledDiff baseline current diff.baselineGeneration diff.entries store next) ∧
          (store.localState = some ⟨true, baseline.length, completedAt, generation, true⟩ →
            generation < 2 ^ 63 → baseline.length < 2 ^ 63 →
            Succeeds (store.reconcileLocalChangeJournal diff.baselineGeneration diff.baselineItems
              diff.baselineSnapshotCompletedAtUnixMs events)) := by
  have haccepted : ∀ entry ∈ diffEntries baseline current,
      ∃ event, entry.eventInput = .ok event ∧ event.entry = entry := fun entry hentry =>
    ((mem_diffEntries_iff hbaseline hcurrent entry).mp hentry).accepted
  obtain ⟨events, hevents, hentries⟩ := exists_eventInputs haccepted
  refine ⟨_, buildDiff_eq_ok generation completedAt hbaseline hcurrent,
    mem_diffEntries_iff hbaseline hcurrent, sorted_diffEntries,
    SelectedRootLocalInventoryDiff.counts_sum _, events, hevents, fun store => ⟨?_, ?_⟩⟩
  · exact fun next commit h => store.journaledDiff hentries h
  · intro hstate hgeneration hcount
    refine store.succeeds_reconcile hstate rfl rfl hgeneration hcount ?_
    have hpaths : ((diffEntries baseline current).map _).Nodup := nodup_diffPaths
    rwa [← hentries, List.map_map] at hpaths

/-! A file that has grown, one that is gone, and a new directory. -/

def touchedBaseline : List LocalItemSnapshot :=
  [⟨"a".toList, .file, some 1, 1, 1, 1, rfl, rfl⟩, ⟨"b".toList, .file, some 1, 1, 1, 2, rfl, rfl⟩]

def touchedTree : List LocalItemSnapshot :=
  [⟨"c".toList, .directory, none, 1, 1, 3, .refl true, .refl false⟩,
    ⟨"a".toList, .file, some 2, 2, 1, 1, .refl true, .refl true⟩]

theorem diff_and_journal_agree_touched :
    ∃ diff, buildSelectedRootLocalInventoryDiff touchedBaseline touchedTree 1 (some 5) = .ok diff ∧
      diff.entries.map SelectedRootLocalDiffEntry.kind = [.modified, .deleted, .created] ∧
      diff.entries.Pairwise (·.relativePath < ·.relativePath) := by
  obtain ⟨diff, hdiff, -, hsorted, -⟩ := diff_and_journal_agree touchedBaseline touchedTree 1 (some 5)
    (by decide) (by decide)
  refine ⟨diff, hdiff, ?_, hsorted⟩
  obtain rfl := Except.ok.inj (hdiff.symm.trans (buildDiff_eq_ok 1 (some 5) (by decide) (by decide)))
  decide

end NubiSync
