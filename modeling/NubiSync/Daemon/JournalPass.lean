import Mathlib.Data.List.Sort
import NubiSync.Daemon.LocalDiff
import NubiSync.Storage.RootHistory

set_option autoImplicit false

/-! # The journal pass

What the diff holds at each path, and the journal a pass leaves: at each path of the current
generation the event of the diff is pending, and where the diff has none nothing is. -/

namespace NubiSync

open Checks

/-! ## The diff, path by path -/

section Diff

variable {baseline current : List LocalItemSnapshot}

theorem relativePath_diffEntry {path : Text} {entry : SelectedRootLocalDiffEntry}
    (h : diffEntry baseline current path = some entry) : entry.relativePath = path := by
  unfold diffEntry at h
  split at h
  · rw [← Option.some.inj h]
  · rw [← Option.some.inj h]
  · split at h
    · rw [← Option.some.inj h]
    · split at h
      · rw [← Option.some.inj h]
      · cases h
  · cases h

theorem mem_unionPaths {path : Text} :
    path ∈ unionPaths baseline current ↔
      ∃ item ∈ baseline ++ current, item.relativePath = path := by
  rw [unionPaths, List.mem_insertionSort, List.mem_dedup, List.mem_map]

theorem snapshotAt_eq_none_iff {items : List LocalItemSnapshot} {path : Text} :
    snapshotAt items path = none ↔ ∀ item ∈ items, item.relativePath ≠ path := by
  simp [snapshotAt]

/-- A lookup where no two items share a path. -/
theorem snapshotAt_eq_some_iff {items : List LocalItemSnapshot} {item : LocalItemSnapshot} {path : Text}
    (hnodup : (items.map LocalItemSnapshot.relativePath).Nodup) :
    snapshotAt items path = some item ↔ item ∈ items ∧ item.relativePath = path := by
  have h := @Indexing.find?_key_map_eq_some _ _ _ _ _ id _ hnodup path item
  simpa [snapshotAt, beq_eq_decide, and_comm] using h

theorem mem_diffEntries {entry : SelectedRootLocalDiffEntry} :
    entry ∈ (unionPaths baseline current).filterMap (diffEntry baseline current) ↔
      diffEntry baseline current entry.relativePath = some entry := by
  rw [List.mem_filterMap]
  constructor
  · intro ⟨path, _, hentry⟩
    rwa [relativePath_diffEntry hentry]
  · intro hentry
    refine ⟨entry.relativePath, ?_, hentry⟩
    -- a path in neither list has no entry
    by_contra hpath
    have habsent : ∀ item ∈ baseline ++ current, item.relativePath ≠ entry.relativePath :=
      fun item hitem hsame => hpath (mem_unionPaths.mpr ⟨item, hitem, hsame⟩)
    have hbaseline : snapshotAt baseline entry.relativePath = none :=
      snapshotAt_eq_none_iff.mpr fun item hitem => habsent item (List.mem_append_left _ hitem)
    have hcurrent : snapshotAt current entry.relativePath = none :=
      snapshotAt_eq_none_iff.mpr fun item hitem => habsent item (List.mem_append_right _ hitem)
    rw [diffEntry, hbaseline, hcurrent] at hentry
    cases hentry

theorem nodup_diffPaths :
    (((unionPaths baseline current).filterMap (diffEntry baseline current)).map
      SelectedRootLocalDiffEntry.relativePath).Nodup := by
  have hnodup : (unionPaths baseline current).Nodup :=
    (List.perm_insertionSort _ _).nodup_iff.mpr (List.nodup_dedup _)
  refine hnodup.sublist ?_
  -- the paths of the entries are some of the paths, in their order
  induction unionPaths baseline current with
  | nil => exact List.Sublist.refl _
  | cons path rest ih =>
      rw [List.filterMap_cons]
      split
      · exact ih.cons path
      · next entry hentry =>
          rw [List.map_cons, relativePath_diffEntry hentry]
          exact ih.cons_cons path

theorem ensures_buildDiff (baseline current : List LocalItemSnapshot) (generation : ℕ)
    (completedAt : Option Int) :
    Ensures (buildSelectedRootLocalInventoryDiff baseline current generation completedAt)
      fun diff => diff = ⟨baseline.length, generation, completedAt, current.length,
          (unionPaths baseline current).filterMap (diffEntry baseline current)⟩ ∧
        (baseline.map LocalItemSnapshot.relativePath).Nodup ∧
        (current.map LocalItemSnapshot.relativePath).Nodup := by
  refine .check fun hduplicates => .ok ⟨rfl, ?_⟩
  simpa [hasDuplicatePath] using hduplicates

/-- A new file: nothing in the baseline, a file in the tree. -/
theorem diffEntry_created_file {path : Text} :
    (∃ entry, diffEntry baseline current path = some entry ∧ entry.kind = .created ∧
        entry.baselineKind = none ∧ entry.currentKind = some .file) ↔
      snapshotAt baseline path = none ∧ ∃ item, snapshotAt current path = some item ∧
        item.kind = .file := by
  unfold diffEntry
  cases snapshotAt baseline path with
  | none => cases snapshotAt current path <;> simp
  | some baselineItem =>
      cases snapshotAt current path with
      | none => simp
      | some currentItem =>
          simp only [reduceCtorEq, false_and, iff_false, not_exists, not_and]
          intro entry hentry hkind
          split at hentry
          · rw [← Option.some.inj hentry] at hkind
            cases hkind
          · split at hentry
            · rw [← Option.some.inj hentry] at hkind
              cases hkind
            · cases hentry

end Diff

/-! ## The inputs of the journal -/

/-- The diff entry of an event input. -/
def LocalChangeEventInput.entry (event : LocalChangeEventInput) : SelectedRootLocalDiffEntry :=
  ⟨event.relativePath, event.kind, event.baselineKind, event.currentKind⟩

/-- `LocalChangeEventInput::new` on a diff entry. -/
def SelectedRootLocalDiffEntry.eventInput (entry : SelectedRootLocalDiffEntry) :
    Except StorageError LocalChangeEventInput :=
  LocalChangeEventInput.new entry.relativePath entry.kind entry.baselineKind entry.currentKind

theorem ensures_eventInput (entry : SelectedRootLocalDiffEntry) :
    Ensures entry.eventInput fun event => event.entry = entry := by
  unfold SelectedRootLocalDiffEntry.eventInput LocalChangeEventInput.new
  split
  · split
    · exact .ok rfl
    · exact .error
  · exact .error

theorem ensures_eventInputs (entries : List SelectedRootLocalDiffEntry) :
    Ensures (entries.mapM SelectedRootLocalDiffEntry.eventInput) fun events =>
      events.map LocalChangeEventInput.entry = entries := by
  intro events h
  have hentries := @Ensures.mapM _ _ _ _ _ LocalChangeEventInput.entry id ensures_eventInput entries
  rw [hentries events h, List.map_id]

theorem ensures_fromStorage {α : Type} {result : Except StorageError α} {P : α → Prop}
    (h : Ensures result P) : Ensures (fromStorage result) P := by
  intro a ha
  cases result with
  | error e => cases ha
  | ok b =>
      obtain rfl := Except.ok.inj ha
      exact h b rfl

/-! ## What a pass leaves at a path -/

/-- The row of the journal that answers an entry of the diff. -/
def LocalChangeEventRow.Answers (row : LocalChangeEventRow) (entry : SelectedRootLocalDiffEntry) :
    Prop :=
  row.eventKind = entry.kind ∧ row.baselineKind = entry.baselineKind ∧
    row.currentKind = entry.currentKind ∧ row.status = .pending

section Record

variable {store : RootStore} {generation : ℕ}

theorem find?_recordLocalChange_other {event : LocalChangeEventInput} {key : ℕ × Text}
    (hkey : key ≠ (generation, event.relativePath)) :
    (store.recordLocalChange generation event).localEvents.find? key
      = store.localEvents.find? key := by
  unfold RootStore.recordLocalChange
  split
  · next row hrow =>
      have hrowKey := (Table.find?_eq_some_iff.mp hrow).2
      show (store.localEvents.upsert _).find? key = _
      rw [Table.find?_upsert, if_neg]
      exact fun hsame => hkey (hsame.symm.trans hrowKey)
  · show (store.localEvents.upsert _).find? key = _
    rw [Table.find?_upsert, if_neg]
    exact fun hsame => hkey hsame.symm

theorem find?_recordLocalChange (event : LocalChangeEventInput) :
    ∃ row, (store.recordLocalChange generation event).localEvents.find?
        (generation, event.relativePath) = some row ∧ row.Answers event.entry ∧
      ∀ old, store.localEvents.find? (generation, event.relativePath) = some old →
        row.id = old.id := by
  unfold RootStore.recordLocalChange
  split
  · next row hrow =>
      have hrowKey := (Table.find?_eq_some_iff.mp hrow).2
      refine ⟨{ row with
        eventKind := event.kind
        baselineKind := event.baselineKind
        currentKind := event.currentKind
        status := .pending }, ?_, ⟨rfl, rfl, rfl, rfl⟩, fun old hold => ?_⟩
      · show (store.localEvents.upsert _).find? _ = _
        rw [Table.find?_upsert, if_pos]
        exact hrowKey
      · rw [hrow] at hold
        rw [Option.some.inj hold]
  · next hrow =>
      refine ⟨⟨store.nextEventId, generation, event.kind, event.relativePath, event.baselineKind,
        event.currentKind, .pending⟩, ?_, ⟨rfl, rfl, rfl, rfl⟩, fun old hold => ?_⟩
      · show (store.localEvents.upsert _).find? _ = _
        rw [Table.find?_upsert]
        exact if_pos rfl
      · rw [hrow] at hold
        cases hold

theorem find?_foldl_record_other {events : List LocalChangeEventInput} {key : ℕ × Text}
    (hkey : ∀ event ∈ events, key ≠ (generation, event.relativePath)) :
    (events.foldl (RootStore.recordLocalChange generation) store).localEvents.find? key
      = store.localEvents.find? key := by
  induction events generalizing store with
  | nil => rfl
  | cons event rest ih =>
      obtain ⟨hevent, hrest⟩ := List.forall_mem_cons.mp hkey
      rw [List.foldl_cons, ih hrest, find?_recordLocalChange_other hevent]

theorem find?_foldl_record (store : RootStore) (generation : ℕ) {events : List LocalChangeEventInput}
    (hnodup : (events.map LocalChangeEventInput.relativePath).Nodup) {event : LocalChangeEventInput}
    (hevent : event ∈ events) :
    ∃ row, (events.foldl (RootStore.recordLocalChange generation) store).localEvents.find?
        (generation, event.relativePath) = some row ∧ row.Answers event.entry ∧
      ∀ old, store.localEvents.find? (generation, event.relativePath) = some old →
        row.id = old.id := by
  induction events generalizing store with
  | nil => cases hevent
  | cons first rest ih =>
      obtain ⟨hfirst, hrest⟩ := List.nodup_cons.mp hnodup
      rw [List.foldl_cons]
      obtain rfl | hmem := List.mem_cons.mp hevent
      · rw [find?_foldl_record_other]
        · exact find?_recordLocalChange event
        · intro other hother hsame
          exact hfirst (List.mem_map.mpr ⟨other, hother, (Prod.mk.inj hsame).2.symm⟩)
      · obtain ⟨row, hrow, hanswers, hid⟩ := ih (store.recordLocalChange generation first)
          hrest hmem
        refine ⟨row, hrow, hanswers, fun old hold => hid old ?_⟩
        rw [find?_recordLocalChange_other fun hsame => hfirst (List.mem_map.mpr
          ⟨event, hmem, (Prod.mk.inj hsame).2⟩)]
        exact hold

theorem find?_setEventStatus (selected : LocalChangeEventRow → Bool)
    (status : LocalChangeEventStatus) (key : ℕ × Text) :
    (store.setEventStatus selected status).localEvents.find? key
      = (store.localEvents.find? key).map fun event =>
          if selected event = true then { event with status := status } else event := by
  refine Option.ext fun row => ?_
  rw [Option.map_eq_some_iff, Table.find?_eq_some_iff]
  constructor
  · intro ⟨hrow, hkey⟩
    obtain ⟨old, hold, hsame⟩ := List.mem_map.mp hrow
    refine ⟨old, Table.find?_eq_some_iff.mpr ⟨hold, ?_⟩, hsame⟩
    rw [← hkey, ← hsame]
    split <;> rfl
  · intro ⟨old, hold, hsame⟩
    obtain ⟨hold, hkey⟩ := Table.find?_eq_some_iff.mp hold
    refine ⟨List.mem_map.mpr ⟨old, hold, hsame⟩, ?_⟩
    rw [← hkey, ← hsame]
    split <;> rfl

end Record

/-- A journal pass on a scan of the tree: the reconciliation it commits, and what it leaves at each
    path of the current generation. -/
structure JournalPassed (store : RootStore) (current : List LocalItemSnapshot) (next : RootStore) :
    Prop where
  step : ∃ generation itemCount completedAt events, store.generation? = some generation ∧
    store.Step (.localItems (.reconcileJournal generation itemCount completedAt events)) next
  recorded : ∀ generation path entry, store.generation? = some generation →
    diffEntry store.listLocalItems current path = some entry →
    ∃ row, next.localEvents.find? (generation, path) = some row ∧ row.Answers entry ∧
      ∀ old, store.localEvents.find? (generation, path) = some old → row.id = old.id
  dropped : ∀ generation path, store.generation? = some generation →
    diffEntry store.listLocalItems current path = none →
    ∀ row, next.localEvents.find? (generation, path) = some row → row.status ≠ .pending

/-- **The journal pass leaves the diff.** -/
theorem ensures_journalPass (store : RootStore) (first second : List LocalItemSnapshot) :
    Ensures (journalSelectedRootTwoWayLocalInventoryDiff store first second)
      fun r => JournalPassed store first r.1 := by
  refine .check fun _ => .present fun state hstate => .check fun _ => .check fun _ => ?_
  refine .check fun _ => (ensures_buildDiff _ _ _ _).bind fun diff hdiff => ?_
  obtain ⟨rfl, -, -⟩ := hdiff
  refine (ensures_fromStorage (ensures_eventInputs ((unionPaths store.listLocalItems first).filterMap
    (diffEntry store.listLocalItems first)))).bind fun events hevents => ?_
  refine ensures_fromStorage fun r hr => ?_
  have hr : store.reconcileLocalChangeJournal state.generation store.listLocalItems.length
    state.snapshotCompletedAtUnixMs events = .ok r := hr
  have hgeneration : store.generation? = some state.generation := by
    rw [RootStore.generation?, (Option.filter_eq_some_iff.mp hstate).1, Option.map_some]
  obtain ⟨-, hnext, -⟩ := ensures_reconcile store _ _ _ events r hr
  have hpaths : events.map LocalChangeEventInput.relativePath
      = ((unionPaths store.listLocalItems first).filterMap
          (diffEntry store.listLocalItems first)).map SelectedRootLocalDiffEntry.relativePath := by
    rw [← hevents, List.map_map]
    rfl
  have hstep : store.Step (.localItems (.reconcileJournal state.generation
      store.listLocalItems.length state.snapshotCompletedAtUnixMs events)) r.1 := by
    show stateOf (store.reconcileLocalChangeJournal _ _ _ events) = _
    rw [hr]
    rfl
  refine ⟨⟨_, _, _, events, hgeneration, hstep⟩, ?_, ?_⟩
  · intro generation path entry hgeneration' hentry
    obtain rfl := Option.some.inj (hgeneration.symm.trans hgeneration')
    have hpath := relativePath_diffEntry hentry
    obtain ⟨event, hevent, hentryEq⟩ : ∃ event ∈ events, event.entry = entry := by
      rw [← List.mem_map, hevents]
      exact mem_diffEntries.mpr (hpath ▸ hentry)
    have hpath : event.relativePath = path := by rw [← hpath, ← hentryEq]; rfl
    obtain ⟨row, hrow, hanswers, hid⟩ := find?_foldl_record
      (store.setEventStatus (·.isPending state.generation) .superseded) state.generation
      (hpaths ▸ nodup_diffPaths) hevent
    rw [hpath] at hrow hid
    refine ⟨row, by rw [hnext]; exact hrow, hentryEq ▸ hanswers, fun old hold => ?_⟩
    rw [find?_setEventStatus, hold] at hid
    refine (hid _ rfl).trans ?_
    dsimp only
    split <;> rfl
  · intro generation path hgeneration' hnone row hrow
    obtain rfl := Option.some.inj (hgeneration.symm.trans hgeneration')
    rw [hnext, find?_foldl_record_other, find?_setEventStatus] at hrow
    · obtain ⟨old, hold, rfl⟩ := Option.map_eq_some_iff.mp hrow
      obtain ⟨-, hkey⟩ := Table.find?_eq_some_iff.mp hold
      split
      · rintro ⟨⟩
      · next hnot =>
          intro hpending
          refine hnot ?_
          simp [LocalChangeEventRow.isPending, hpending,
            show old.baselineGeneration = state.generation from congrArg Prod.fst hkey]
    · intro event hevent hsame
      have hmem : event.entry ∈ events.map LocalChangeEventInput.entry :=
        List.mem_map.mpr ⟨event, hevent, rfl⟩
      rw [hevents, mem_diffEntries] at hmem
      rw [(Prod.mk.inj hsame).2] at hnone
      cases hmem.symm.trans hnone

end NubiSync
