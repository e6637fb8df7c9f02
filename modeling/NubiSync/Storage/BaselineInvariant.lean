import NubiSync.Storage.SettlementHistory

set_option autoImplicit false

/-! # The journal and its baseline

Four operations write to the journal, each in its own way: a snapshot supersedes all that is pending, a
journal pass supersedes what is pending at its generation and opens rows anew, and a settlement applies
one event, supersedes the others and inserts at the next generation. What ties the journal to the
baseline over all of them: an event is pending only at the generation of the baseline, and applied only
at an earlier one. -/

namespace NubiSync

open Checks

/-! ## The invariant -/

/-- What an event says of its path. -/
structure LocalChange where
  relativePath : Text
  kind : LocalChangeEventKind
  baselineKind : Option LocalItemKind
  currentKind : Option LocalItemKind
  deriving DecidableEq

/-- What a row of the journal says. -/
def LocalChangeEventRow.change (event : LocalChangeEventRow) : LocalChange :=
  ⟨event.relativePath, event.eventKind, event.baselineKind, event.currentKind⟩

/-- What an input of the journal says. -/
def LocalChangeEventInput.change (event : LocalChangeEventInput) : LocalChange :=
  ⟨event.relativePath, event.kind, event.baselineKind, event.currentKind⟩

/-- The pending changes of a root, at whatever generation. -/
def RootStore.pendingChanges (store : RootStore) : List LocalChange :=
  (store.localEvents.rows.filter (·.status == .pending)).map LocalChangeEventRow.change

/-- The generation of the baseline, 0 before the first snapshot. -/
def RootStore.baselineGeneration (store : RootStore) : ℕ := store.generation?.getD 0

/-- The item count of the baseline, 0 before the first snapshot. -/
def RootStore.baselineItemCount (store : RootStore) : ℕ :=
  (store.localState.map LocalInventoryState.itemCount).getD 0

/-- The journal is that of its baseline. -/
structure RootStore.BaselineSound (store : RootStore) : Prop where
  pending : ∀ event ∈ store.localEvents.rows, event.status = .pending →
    store.generation? = some event.baselineGeneration
  applied : ∀ event ∈ store.localEvents.rows, event.status = .applied →
    event.baselineGeneration < store.baselineGeneration
  counted : store.baselineItemCount = store.localItems.rows.length

variable {store next later : RootStore} {op : RootOperation}

theorem baselineSound_new (mode : SyncMode) : (RootStore.new mode).BaselineSound where
  pending := nofun
  applied := nofun
  counted := rfl

theorem nextGeneration_eq (store : RootStore) :
    store.nextGeneration = store.baselineGeneration + 1 := by
  unfold RootStore.nextGeneration RootStore.baselineGeneration RootStore.generation?
  cases store.localState with
  | none => rfl
  | some state => rfl

/-- **The generation rises by one with each new baseline, and only then.** -/
theorem RootStore.Step.baselineGeneration_eq (h : store.Step op next) :
    next.baselineGeneration = store.baselineGeneration + 1 ∨
      next.baselineGeneration = store.baselineGeneration ∧ next.localItems = store.localItems := by
  cases hmoves : op.movesBaseline with
  | true =>
      left
      rw [← nextGeneration_eq, RootStore.baselineGeneration, h.generation_of_moves hmoves]
      rfl
  | false =>
      obtain ⟨hitems, hgeneration⟩ := h.baseline_frame hmoves
      exact Or.inr ⟨congrArg (Option.getD · 0) hgeneration, hitems⟩

/-! ## One step -/

/-- The count of the baseline, where the baseline stands. -/
theorem RootStore.Step.itemCount_frame (h : store.Step op next) (hop : op.movesBaseline = false) :
    next.baselineItemCount = store.baselineItemCount := by
  have hof : ∀ {state : Option LocalInventoryState}, next.localState = state →
      store.localState.map LocalInventoryState.itemCount
        = state.map LocalInventoryState.itemCount →
      next.baselineItemCount = store.baselineItemCount := by
    intro state hstate hcount
    rw [RootStore.baselineItemCount, RootStore.baselineItemCount, hstate, hcount]
  cases hside : op.isCatalogSide with
  | true => exact hof (congrArg LocalSide.localState (h.localSide hside)) rfl
  | false =>
      cases op with
      | updateMode expected mode =>
          obtain rfl | rfl := h.updateMode_eq
          · rfl
          · rfl
      | skipIds events intents =>
          obtain rfl := Except.ok.inj h
          rfl
      | intents op => exact hof h.intents_frame.2.1 rfl
      | localItems op =>
          cases op with
          | beginStaging =>
              obtain rfl := Except.ok.inj h
              rfl
          | stageItems items =>
              exact ensures_stateOf
                (P := fun next => next.baselineItemCount = store.baselineItemCount)
                (.after fun _ => .ok rfl) next h
          | commitSnapshot completedAt => cases hop
          | invalidateBaseline =>
              obtain rfl := Except.ok.inj h
              unfold RootStore.invalidateLocalObservationBaseline RootStore.baselineItemCount
              split
              · next state hstate => split <;> simp [hstate]
              · rfl
          | reconcileJournal generation itemCount completedAt events =>
              obtain ⟨r, hr, hreturn⟩ := bind_eq_ok.mp h
              obtain rfl := Except.ok.inj hreturn
              obtain ⟨-, hjournal, -⟩ := ensures_reconcile _ _ _ _ _ r hr
              obtain ⟨localEvents, nextEventId, hfold⟩ := foldl_recordLocalChange_eq generation events
                (store.setEventStatus (·.isPending generation) .superseded)
              rw [hjournal, hfold]
              rfl
      | settle op => cases hop
      | _ => cases hside

/-- An event that a status change leaves pending was pending, and was not selected. -/
theorem mem_setEventStatus {selected : LocalChangeEventRow → Bool} {status : LocalChangeEventStatus}
    {event : LocalChangeEventRow} (h : event ∈ (store.setEventStatus selected status).localEvents.rows) :
    (event ∈ store.localEvents.rows ∧ selected event = false) ∨ event.status = status := by
  obtain ⟨old, hold, rfl⟩ := List.mem_map.mp h
  cases hselected : selected old with
  | true => exact Or.inr (by simp)
  | false => exact Or.inl (by simp [hold, hselected])

/-- After a recorded change an event is as it was, or it is pending and says what was recorded. -/
theorem mem_recordLocalChange {generation : ℕ} {input : LocalChangeEventInput}
    {event : LocalChangeEventRow}
    (h : event ∈ (store.recordLocalChange generation input).localEvents.rows) :
    event ∈ store.localEvents.rows ∨ event.status = .pending ∧
      event.baselineGeneration = generation ∧ event.change = input.change := by
  unfold RootStore.recordLocalChange at h
  split at h
  · next row hrow =>
      obtain ⟨-, hkey⟩ := Table.find?_eq_some_iff.mp hrow
      obtain ⟨hold, -⟩ | rfl := Table.mem_upsert.mp h
      · exact Or.inl hold
      · obtain ⟨hgeneration, hpath⟩ := Prod.mk.inj hkey
        refine Or.inr ⟨rfl, hgeneration, ?_⟩
        show LocalChange.mk row.relativePath _ _ _ = _
        rw [hpath]
        rfl
  · obtain ⟨hold, -⟩ | rfl := Table.mem_upsert.mp h
    · exact Or.inl hold
    · exact Or.inr ⟨rfl, rfl, rfl⟩

theorem mem_foldl_record {generation : ℕ} {events : List LocalChangeEventInput}
    {event : LocalChangeEventRow}
    (h : event ∈ (events.foldl (RootStore.recordLocalChange generation) store).localEvents.rows) :
    event ∈ store.localEvents.rows ∨ event.status = .pending ∧
      event.baselineGeneration = generation ∧ ∃ input ∈ events, event.change = input.change := by
  induction events generalizing store with
  | nil => exact Or.inl h
  | cons input rest ih =>
      rcases ih h with hold | ⟨hstatus, hgeneration, other, hother, hchange⟩
      · rcases mem_recordLocalChange hold with hold | ⟨hstatus, hgeneration, hchange⟩
        · exact Or.inl hold
        · exact Or.inr ⟨hstatus, hgeneration, input, List.mem_cons_self, hchange⟩
      · exact Or.inr ⟨hstatus, hgeneration, other, List.mem_cons_of_mem _ hother, hchange⟩

/-- A journal pass: what it leaves pending it was given, and what it leaves applied was applied. -/
theorem mem_reconciled {generation : ℕ} {events : List LocalChangeEventInput}
    (hsound : store.BaselineSound) (hgeneration : store.generation? = some generation)
    {event : LocalChangeEventRow}
    (h : event ∈ (events.foldl (RootStore.recordLocalChange generation)
      (store.setEventStatus (·.isPending generation) .superseded)).localEvents.rows) :
    (event ∈ store.localEvents.rows ∧ event.status ≠ .pending) ∨ event.status = .superseded ∨
      event.status = .pending ∧ event.baselineGeneration = generation ∧
        ∃ input ∈ events, event.change = input.change := by
  rcases mem_foldl_record h with hold | hnew
  · rcases mem_setEventStatus hold with ⟨hmem, hselected⟩ | hsuperseded
    · refine Or.inl ⟨hmem, fun hpending => ?_⟩
      -- all that is pending is at the generation of the baseline, and was selected
      have hsame := Option.some.inj ((hsound.pending event hmem hpending).symm.trans hgeneration)
      simp [LocalChangeEventRow.isPending, hsame, hpending] at hselected
    · exact Or.inr (Or.inl hsuperseded)
  · exact Or.inr (Or.inr hnew)

theorem RootStore.BaselineSound.snapshot (hsound : store.BaselineSound) {completedAt : Int}
    (h : store.Step (.localItems (.commitSnapshot completedAt)) next) : next.BaselineSound := by
  obtain ⟨r, hr, hreturn⟩ := bind_eq_ok.mp h
  obtain rfl := Except.ok.inj hreturn
  obtain ⟨itemCount, hcount, hr⟩ := bind_eq_ok.mp hr
  obtain rfl := ensures_toI64 _ _ hcount
  obtain rfl := Except.ok.inj hr
  -- a snapshot supersedes every pending event and starts a generation above all that were applied
  refine ⟨fun event hevent hpending => ?_, fun event hevent happlied => ?_, rfl⟩
  · change event ∈ (store.setEventStatus _ _).localEvents.rows at hevent
    rcases mem_setEventStatus hevent with ⟨-, hselected⟩ | hsuperseded
    · rw [hpending] at hselected
      cases hselected
    · rw [hsuperseded] at hpending
      cases hpending
  · change event ∈ (store.setEventStatus _ _).localEvents.rows at hevent
    rcases mem_setEventStatus hevent with ⟨hmem, -⟩ | hsuperseded
    · exact (hsound.applied event hmem happlied).trans (by
        show store.baselineGeneration < store.nextGeneration
        rw [nextGeneration_eq]
        exact Nat.lt_succ_self _)
    · rw [hsuperseded] at happlied
      cases happlied

theorem RootStore.BaselineSound.reconciled (hsound : store.BaselineSound) {generation itemCount : ℕ}
    {completedAt : Option Int} {events : List LocalChangeEventInput}
    (h : store.Step (.localItems (.reconcileJournal generation itemCount completedAt events)) next) :
    next.BaselineSound := by
  obtain ⟨hitems, hkept⟩ := h.baseline_frame rfl
  have hcount := h.itemCount_frame rfl
  obtain ⟨r, hr, hreturn⟩ := bind_eq_ok.mp h
  obtain rfl := Except.ok.inj hreturn
  obtain ⟨⟨state, hstate, -, -, hstateGeneration⟩, hjournal, -⟩ := ensures_reconcile _ _ _ _ _ r hr
  have hgeneration : store.generation? = some generation := by
    rw [RootStore.generation?, hstate, Option.map_some, hstateGeneration]
  refine ⟨fun event hevent hpending => ?_, fun event hevent happlied => ?_, ?_⟩
  · rw [hjournal] at hevent
    -- an event is an old one that is not pending, one that the pass superseded, or one that it recorded
    rcases mem_reconciled hsound hgeneration hevent with ⟨-, hnot⟩ | hsuperseded | ⟨-, hat, -⟩
    · exact absurd hpending hnot
    · rw [hsuperseded] at hpending
      cases hpending
    · rw [hkept, hgeneration, hat]
  · rw [hjournal] at hevent
    rw [RootStore.baselineGeneration, hkept]
    rcases mem_reconciled hsound hgeneration hevent with ⟨hmem, -⟩ | hsuperseded | ⟨hpending, -⟩
    · exact hsound.applied event hmem happlied
    · rw [hsuperseded] at happlied
      cases happlied
    · rw [hpending] at happlied
      cases happlied
  · rw [hcount, hitems]
    exact hsound.counted

theorem RootStore.BaselineSound.settled (hsound : store.BaselineSound) {sop : SettlementOperation}
    (h : store.Step (.settle sop) next) : next.BaselineSound := by
  obtain ⟨hready, hwritten⟩ := sop.ensures_settled store next h
  obtain ⟨state, hstate, -, hgeneration, -⟩ := hready.baseline
  have hfrom : store.generation? = some sop.fields.expectedFromGeneration := by
    rw [RootStore.generation?, hstate, Option.map_some, hgeneration]
  have hto : next.generation? = some (sop.fields.expectedFromGeneration + 1) := by
    rw [RootStore.generation?, hwritten.localState]
    rfl
  have hfromNumber : store.baselineGeneration = sop.fields.expectedFromGeneration := by
    rw [RootStore.baselineGeneration, hfrom]
    rfl
  have htoNumber : next.baselineGeneration = sop.fields.expectedFromGeneration + 1 := by
    rw [RootStore.baselineGeneration, hto]
    rfl
  -- an old event is as it was and not pending, or it was of the old generation
  have hevents : ∀ event ∈ next.localEvents.rows,
      (event ∈ store.localEvents.rows ∧ event.status ≠ .pending) ∨
        (event.baselineGeneration = sop.fields.expectedFromGeneration ∧ event.status ≠ .pending) ∨
        event.baselineGeneration = sop.fields.expectedFromGeneration + 1 ∧
          event.status = .pending := by
    intro event hevent
    rw [hwritten.events, List.mem_append] at hevent
    rcases hevent with hold | hresidual
    · obtain ⟨old, hmem, rfl⟩ := List.mem_map.mp hold
      unfold settleEvent
      split
      · next hsource => exact Or.inr (Or.inl ⟨(pending_of_isPending hsource.2).1, by simp⟩)
      · split
        · next hpending => exact Or.inr (Or.inl ⟨(pending_of_isPending hpending).1, by simp⟩)
        · next hnot =>
            refine Or.inl ⟨hmem, fun hpending => hnot ?_⟩
            have hsame := Option.some.inj ((hsound.pending old hmem hpending).symm.trans hfrom)
            simp [LocalChangeEventRow.isPending, hsame, hpending]
    · obtain ⟨hat, hpending, -⟩ := mem_residualRows hresidual
      exact Or.inr (Or.inr ⟨hat, hpending⟩)
  refine ⟨fun event hevent hpending => ?_, fun event hevent happlied => ?_, ?_⟩
  · rcases hevents event hevent with ⟨-, hnot⟩ | ⟨-, hnot⟩ | ⟨hat, -⟩
    · exact absurd hpending hnot
    · exact absurd hpending hnot
    · rw [hto, hat]
  · rw [htoNumber]
    rcases hevents event hevent with ⟨hmem, -⟩ | ⟨hat, -⟩ | ⟨-, hpending⟩
    · have := hsound.applied event hmem happlied
      omega
    · omega
    · rw [hpending] at happlied
      cases happlied
  · rw [hwritten.itemCount, RootStore.baselineItemCount, hwritten.localState]
    rfl

/-- **Every step keeps the journal that of its baseline.** -/
theorem RootStore.Step.baselineSound (h : store.Step op next) (hsound : store.BaselineSound) :
    next.BaselineSound := by
  cases hwrites : op.writesJournal with
  | false =>
      obtain ⟨hevents, hmoves⟩ := h.localEvents_frame hwrites
      obtain ⟨hitems, hgeneration⟩ := h.baseline_frame hmoves
      refine ⟨fun event hevent hpending => ?_, fun event hevent happlied => ?_, ?_⟩
      · rw [hgeneration]
        exact hsound.pending event (hevents ▸ hevent) hpending
      · rw [RootStore.baselineGeneration, hgeneration]
        exact hsound.applied event (hevents ▸ hevent) happlied
      · rw [h.itemCount_frame hmoves, hitems]
        exact hsound.counted
  | true =>
      cases op with
      | localItems op =>
          cases op with
          | commitSnapshot completedAt => exact hsound.snapshot h
          | reconcileJournal generation itemCount completedAt events => exact hsound.reconciled h
          | _ => cases hwrites
      | settle sop => exact hsound.settled h
      | _ => cases hwrites

/-! ## Journal passes -/

/-- The pending events of one generation have different paths. -/
theorem nodup_pendingChanges (hsound : store.BaselineSound) : store.pendingChanges.Nodup := by
  have hpaths : ((store.localEvents.rows.filter (·.status == .pending)).map
      LocalChangeEventRow.journalKey).Nodup :=
    store.localEvents.nodup_keys.sublist (List.filter_sublist.map _)
  refine List.Nodup.map_on (fun event hevent other hother hsame => ?_) (List.Nodup.of_map _ hpaths)
  obtain ⟨hmem, hpending⟩ := List.mem_filter.mp hevent
  obtain ⟨hmem', hpending'⟩ := List.mem_filter.mp hother
  have hgeneration := hsound.pending event hmem (by simpa using hpending)
  have hgeneration' := hsound.pending other hmem' (by simpa using hpending')
  refine store.localEvents.eq_of_key hmem hmem' (Prod.ext ?_ ?_)
  · exact Option.some.inj (hgeneration.symm.trans hgeneration')
  · exact congrArg LocalChange.relativePath hsame

/-- **A journal pass that succeeds leaves pending just the events it was given.** -/
theorem reconcile_pendingChanges (hsound : store.BaselineSound) {generation itemCount : ℕ}
    {completedAt : Option Int} {events : List LocalChangeEventInput}
    (h : store.Step (.localItems (.reconcileJournal generation itemCount completedAt events)) next) :
    next.pendingChanges.Perm (events.map LocalChangeEventInput.change) := by
  have hnext := hsound.reconciled h
  have hkept := (h.baseline_frame rfl).2
  obtain ⟨r, hr, hreturn⟩ := bind_eq_ok.mp h
  obtain rfl := Except.ok.inj hreturn
  obtain ⟨⟨state, hstate, -, -, hstateGeneration⟩, hjournal, hcount⟩ :=
    ensures_reconcile _ _ _ _ _ r hr
  have hgeneration : store.generation? = some generation := by
    rw [RootStore.generation?, hstate, Option.map_some, hstateGeneration]
  have hsubset : r.1.pendingChanges ⊆ events.map LocalChangeEventInput.change := by
    intro change hchange
    obtain ⟨event, hevent, rfl⟩ := List.mem_map.mp hchange
    obtain ⟨hmem, hpending⟩ := List.mem_filter.mp hevent
    have hpending : event.status = .pending := by simpa using hpending
    rw [hjournal] at hmem
    rcases mem_reconciled hsound hgeneration hmem with
      ⟨-, hnot⟩ | hsuperseded | ⟨-, -, input, hinput, hsame⟩
    · exact absurd hpending hnot
    · rw [hsuperseded] at hpending
      cases hpending
    · exact List.mem_map.mpr ⟨input, hinput, hsame.symm⟩
  -- nothing is pending but at the generation of the pass, so the count it checks is that of all
  have hall : r.1.pendingChanges.length = events.length := by
    rw [← hcount, RootStore.pendingChanges, List.length_map, ← List.countP_eq_length_filter]
    refine List.countP_congr fun event hevent => ?_
    constructor
    · intro hpending
      have hpending : event.status = .pending := by simpa using hpending
      have hat := hnext.pending event hevent hpending
      rw [hkept, hgeneration] at hat
      simp [LocalChangeEventRow.isPending, hpending, Option.some.inj hat]
    · intro hpending
      simpa using (pending_of_isPending hpending).2
  refine List.Subperm.perm_of_length_le ((nodup_pendingChanges hnext).subperm hsubset) ?_
  rw [List.length_map, hall]

/-! ## Runs -/

theorem RootStore.Reaches.baselineSound {mode : SyncMode}
    (h : (RootStore.new mode).Reaches store) : store.BaselineSound :=
  Machine.Run.invariant h (baselineSound_new mode) fun _ _ _ hsound _ hstep =>
    hstep.baselineSound hsound

theorem applied_kept (hsound : store.BaselineSound) (h : store.Reaches later)
    {event : LocalChangeEventRow} (hevent : event ∈ store.localEvents.rows)
    (happlied : event.status = .applied) : event ∈ later.localEvents.rows := by
  have hkept : later.BaselineSound ∧ event ∈ later.localEvents.rows := by
    refine Machine.Run.invariant (P := fun s : RootStore => s.BaselineSound ∧
      event ∈ s.localEvents.rows) h ⟨hsound, hevent⟩ ?_
    intro s op s' ⟨hs, hmem⟩ _ hstep
    refine ⟨hstep.baselineSound hs, hstep.journal.kept hmem (by rw [happlied]; nofun) fun hat => ?_⟩
    have hearlier := hs.applied event hmem happlied
    rw [RootStore.baselineGeneration, hat] at hearlier
    exact Nat.lt_irrefl _ hearlier
  exact hkept.2

/-- The journal and the baseline of a root, with what the next step and all later ones do to them. -/
structure RootStore.JournalConsistent (store : RootStore) : Prop where
  pending_current : ∀ event ∈ store.localEvents.rows, event.status = .pending →
    store.generation? = some event.baselineGeneration
  one_a_path : ∀ event ∈ store.localEvents.rows, ∀ other ∈ store.localEvents.rows,
    event.baselineGeneration = other.baselineGeneration → event.relativePath = other.relativePath →
    event = other
  counted : ∀ state, store.localState = some state →
    state.itemCount = store.localItems.rows.length
  generation : ∀ op next, store.Step op next →
    store.baselineGeneration ≤ next.baselineGeneration ∧
    (next.localItems.rows ≠ store.localItems.rows →
      next.baselineGeneration = store.baselineGeneration + 1)
  reconciled : ∀ generation itemCount completedAt events next commit,
    store.reconcileLocalChangeJournal generation itemCount completedAt events = .ok (next, commit) →
    next.pendingChanges.Perm (events.map LocalChangeEventInput.change)
  applied_final : ∀ later, store.Reaches later → ∀ event ∈ store.localEvents.rows,
    event.status = .applied → ∀ row ∈ later.localEvents.rows,
      row.id = event.id ∨ row.journalKey = event.journalKey → row.status ≠ .pending

/-- **The journal and the baseline**, in every state that any operations reach: a pending event is at the
    generation of the baseline, no two events share a generation and a path, and the item count is the
    number of baseline rows; no step lowers the generation, and one that changes the baseline rows moves
    it on by one; a journal pass leaves pending just the events it was given; and no later state has an
    applied event pending. -/
theorem journal_consistent {mode : SyncMode} (h : (RootStore.new mode).Reaches store) :
    store.JournalConsistent := by
  have hsound := h.baselineSound
  refine ⟨hsound.pending, ?_, ?_, ?_, ?_, ?_⟩
  · intro event hevent other hother hgeneration hpath
    exact store.localEvents.eq_of_key hevent hother (Prod.ext hgeneration hpath)
  · intro state hstate
    have hcounted := hsound.counted
    rwa [RootStore.baselineItemCount, hstate] at hcounted
  · intro op next hstep
    rcases hstep.baselineGeneration_eq with hrises | ⟨hkept, hitems⟩
    · exact ⟨by omega, fun _ => hrises⟩
    · exact ⟨hkept.ge, fun hchanged => absurd (congrArg Table.rows hitems) hchanged⟩
  · intro generation itemCount completedAt events next commit hpass
    have hstep : store.Step
        (.localItems (.reconcileJournal generation itemCount completedAt events)) next :=
      bind_eq_ok.mpr ⟨_, hpass, rfl⟩
    exact reconcile_pendingChanges hsound hstep
  · -- an applied event stays in the journal, and neither its id nor its key is used again
    intro later hlater event hevent happlied row hrow hsame
    have hkept := applied_kept hsound hlater hevent happlied
    obtain rfl : row = event := by
      rcases hsame with hid | hkey
      · exact (RootStore.Reaches.idsUnique (h.trans hlater)).events.unique row hrow event hkept hid
      · exact later.localEvents.eq_of_key hrow hkept hkey
    rw [happlied]
    nofun

/-- After the settlement of the first of two new files. -/
theorem journal_consistent_settled :
    ∃ store : RootStore, (∃ event ∈ store.localEvents.rows, event.status = .applied) ∧
      store.JournalConsistent := by
  have hends : ∃ store ∈ ((sampleOperations ++ sampleUpload ++ sampleConfirmation
      ++ [RootOperation.settle (.fileCreate (sampleSettlement rfl))]).foldlM RootStore.apply
      (RootStore.new .twoWay)).toOption, ∃ event ∈ store.localEvents.rows,
      event.status = .applied := by
    decide +kernel
  obtain ⟨store, hstore, happlied⟩ := hends
  have hrun : (RootStore.new .twoWay).Reaches store :=
    Machine.Run.of_foldlM (fun _ _ _ => trivial) (toOption_eq_some_iff.mp hstore)
  exact ⟨store, happlied, journal_consistent hrun⟩

/-! ## The columns of the journal -/

/-- What the columns of the journal admit: an id from 1 on that no other row has, and a generation that
    is positive and fits its integer. -/
structure RootStore.JournalStored (store : RootStore) : Prop where
  unique : ∀ event ∈ store.localEvents.rows, ∀ other ∈ store.localEvents.rows,
    event.id = other.id → event = other
  positive : ∀ event ∈ store.localEvents.rows, 0 < event.id
  generation : ∀ event ∈ store.localEvents.rows,
    0 < event.baselineGeneration ∧ event.baselineGeneration < 2 ^ 63

/-- Ids are counted from 1 on. -/
def Journal.CountsFromOne (journal : Journal) : Prop :=
  0 < journal.nextId ∧ ∀ event ∈ journal.events.rows, 0 < event.id

theorem JournalWrite.countsFromOne {generation? : Option ℕ} {journal journal' : Journal}
    (h : JournalWrite generation? journal journal') (hcounts : journal.CountsFromOne) :
    journal'.CountsFromOne := by
  obtain ⟨hnext, hpositive⟩ := hcounts
  cases h with
  | setStatus f hkey hid hshape hpending =>
      refine ⟨hnext, fun event hevent => ?_⟩
      obtain ⟨old, hold, rfl⟩ := List.mem_map.mp hevent
      rw [hid]
      exact hpositive old hold
  | rewrite row new hrow hid hkey hshape hgeneration =>
      refine ⟨hnext, fun event hevent => ?_⟩
      obtain ⟨hold, -⟩ | rfl := Table.mem_upsert.mp hevent
      · exact hpositive event hold
      · rw [hid]
        exact hpositive row hrow
  | append row hid hkey hshape =>
      refine ⟨Nat.succ_pos _, fun event hevent => ?_⟩
      obtain ⟨hold, -⟩ | rfl := Table.mem_upsert.mp hevent
      · exact hpositive event hold
      · rw [hid]
        exact hnext
  | skip ids => exact ⟨Nat.add_pos_left hnext ids, hpositive⟩

theorem JournalWrites.countsFromOne {generation? : Option ℕ} {journal journal' : Journal}
    (h : JournalWrites generation? journal journal') (hcounts : journal.CountsFromOne) :
    journal'.CountsFromOne := by
  induction h with
  | refl => exact hcounts
  | tail _ hlast ih => exact hlast.countsFromOne ih

/-- The generations that the journal names fit their column and are not beyond the baseline, which starts
    at 1. -/
structure RootStore.GenerationsStored (store : RootStore) : Prop where
  baseline : ∀ generation, store.generation? = some generation → 0 < generation
  events : ∀ event ∈ store.localEvents.rows,
    0 < event.baselineGeneration ∧ event.baselineGeneration < 2 ^ 63
  known : ∀ event ∈ store.localEvents.rows, event.baselineGeneration ≤ store.baselineGeneration

theorem mem_setEventStatus_generation {selected : LocalChangeEventRow → Bool}
    {status : LocalChangeEventStatus} {event : LocalChangeEventRow}
    (h : event ∈ (store.setEventStatus selected status).localEvents.rows) :
    ∃ old ∈ store.localEvents.rows, old.baselineGeneration = event.baselineGeneration := by
  obtain ⟨old, hold, rfl⟩ := List.mem_map.mp h
  refine ⟨old, hold, ?_⟩
  split <;> rfl

theorem settleEvent_generation (sourceId generation : ℕ) (event : LocalChangeEventRow) :
    (settleEvent sourceId generation event).baselineGeneration = event.baselineGeneration := by
  unfold settleEvent
  split
  · rfl
  · split <;> rfl

/-- A journal pass names only generations that fit their column. -/
theorem ensures_reconcile_fits (store : RootStore) (generation itemCount : ℕ)
    (completedAt : Option Int) (events : List LocalChangeEventInput) :
    Ensures (store.reconcileLocalChangeJournal generation itemCount completedAt events)
      fun _ => generation < 2 ^ 63 :=
  (ensures_toI64_fits generation).bind fun _ hfits _ _ => hfits

/-- A settlement moves on to a generation that fits its column. -/
theorem SettlementOperation.ensures_fits (store : RootStore) (op : SettlementOperation) :
    Ensures (op.apply store) fun _ => op.fields.expectedFromGeneration + 1 < 2 ^ 63 := by
  cases op with
  | fileCreate input =>
      refine ensures_stateOf ((ensures_toI64 _).bind fun generation hgeneration => ?_)
      refine .after fun _itemCount => .after fun _execution => .present fun size _ => ?_
      refine .after fun _promotedSize => ?_
      subst hgeneration
      exact (ensures_toI64_fits _).bind fun _ hfits _ _ => hfits
  | folderCreate input =>
      refine ensures_stateOf ((ensures_toI64 _).bind fun generation hgeneration => ?_)
      refine .after fun _itemCount => .after fun _execution => ?_
      subst hgeneration
      exact (ensures_toI64_fits _).bind fun _ hfits _ _ => hfits

/-- An event after a step is at the generation of an earlier one, or at that of the baseline. -/
theorem RootStore.Step.event_generation (h : store.Step op next) {event : LocalChangeEventRow}
    (hevent : event ∈ next.localEvents.rows) :
    (∃ old ∈ store.localEvents.rows, old.baselineGeneration = event.baselineGeneration) ∨
      next.generation? = some event.baselineGeneration ∧ event.baselineGeneration < 2 ^ 63 := by
  cases hwrites : op.writesJournal with
  | false => exact .inl ⟨event, (h.localEvents_frame hwrites).1 ▸ hevent, rfl⟩
  | true =>
      cases op with
      | localItems op =>
          cases op with
          | commitSnapshot completedAt =>
              obtain ⟨r, hr, hreturn⟩ := bind_eq_ok.mp h
              obtain rfl := Except.ok.inj hreturn
              obtain ⟨itemCount, -, hr⟩ := bind_eq_ok.mp hr
              obtain rfl := Except.ok.inj hr
              change event ∈ (store.setEventStatus _ _).localEvents.rows at hevent
              exact .inl (mem_setEventStatus_generation hevent)
          | reconcileJournal generation itemCount completedAt events =>
              have hbaseline := (h.baseline_frame rfl).2
              obtain ⟨r, hr, hreturn⟩ := bind_eq_ok.mp h
              obtain rfl := Except.ok.inj hreturn
              obtain ⟨⟨state, hstate, -, -, hgeneration⟩, hjournal, -⟩ := ensures_reconcile _ _ _ _ _ r hr
              rw [hjournal] at hevent
              rcases mem_foldl_record hevent with hold | ⟨-, hat, -⟩
              · exact .inl (mem_setEventStatus_generation hold)
              · refine .inr ⟨?_, hat ▸ ensures_reconcile_fits _ _ _ _ _ r hr⟩
                rw [hbaseline, RootStore.generation?, hstate, Option.map_some, hgeneration, hat]
          | _ => cases hwrites
      | settle sop =>
          have hwritten := (sop.ensures_settled store next h).2
          rw [hwritten.events, List.mem_append] at hevent
          rcases hevent with hold | hresidual
          · obtain ⟨old, hmem, rfl⟩ := List.mem_map.mp hold
            exact .inl ⟨old, hmem, (settleEvent_generation _ _ old).symm⟩
          · right
            rw [(mem_residualRows hresidual).1, RootStore.generation?, hwritten.localState]
            exact ⟨rfl, sop.ensures_fits store next h⟩
      | _ => cases hwrites

theorem RootStore.Step.generationsStored (h : store.Step op next) (hstored : store.GenerationsStored) :
    next.GenerationsStored := by
  have hbaseline : ∀ generation, next.generation? = some generation → 0 < generation := by
    intro generation hgeneration
    cases hmoves : op.movesBaseline with
    | true =>
        rw [h.generation_of_moves hmoves, nextGeneration_eq] at hgeneration
        exact Option.some.inj hgeneration ▸ Nat.succ_pos _
    | false => exact hstored.baseline generation ((h.baseline_frame hmoves).2 ▸ hgeneration)
  refine ⟨hbaseline, fun event hevent => ?_, fun event hevent => ?_⟩
  · rcases h.event_generation hevent with ⟨old, hold, hsame⟩ | ⟨hcurrent, hfits⟩
    · exact hsame ▸ hstored.events old hold
    · exact ⟨hbaseline _ hcurrent, hfits⟩
  · rcases h.event_generation hevent with ⟨old, hold, hsame⟩ | ⟨hcurrent, -⟩
    · have hknown := hstored.known old hold
      rcases h.baselineGeneration_eq with hrises | ⟨hkept, -⟩
      · omega
      · omega
    · rw [RootStore.baselineGeneration, hcurrent]
      exact le_rfl

theorem RootStore.Reaches.generationsStored {mode : SyncMode}
    (h : (RootStore.new mode).Reaches store) : store.GenerationsStored := by
  refine Machine.Run.invariant (P := RootStore.GenerationsStored) h ⟨nofun, nofun, nofun⟩ ?_
  exact fun _ _ _ hstored _ hstep => hstep.generationsStored hstored

theorem RootStore.Reaches.journalStored {mode : SyncMode}
    (h : (RootStore.new mode).Reaches store) : store.JournalStored := by
  have hcounts : store.journal.CountsFromOne := by
    refine Machine.Run.invariant (P := fun s : RootStore => s.journal.CountsFromOne) h ?_ ?_
    · exact ⟨Nat.one_pos, nofun⟩
    · exact fun _ _ _ hcounts _ hstep => hstep.journal.countsFromOne hcounts
  exact ⟨h.idsUnique.events.unique, hcounts.2, h.generationsStored.events⟩

end NubiSync
