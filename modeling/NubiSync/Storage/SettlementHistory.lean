import NubiSync.Storage.StrandedIntents

set_option autoImplicit false

/-! # Settled once and for ever

What one settlement does to each of the tables it touches, and that nothing takes it back: in every
later state the intent is confirmed, its event applied and its record there, so a second settlement of
the intent, of the event or of the remote id is refused. -/

namespace NubiSync

open Checks

/-! ## Unique remote ids -/

/-- No two intents create the same remote item. -/
def RootStore.UniqueRemoteIds (store : RootStore) : Prop :=
  ∀ intent ∈ store.intents.rows, ∀ other ∈ store.intents.rows, ∀ remoteId,
    intent.predeterminedRemoteId = some remoteId → other.predeterminedRemoteId = some remoteId →
    intent = other

variable {store next later : RootStore} {op : RootOperation}

theorem IntentInsert.uniqueRemoteIds (h : IntentInsert store next)
    (hunique : store.UniqueRemoteIds) : next.UniqueRemoteIds := by
  obtain ⟨input, haccepts⟩ := h
  have hother : ∀ intent ∈ store.intents.rows, ∀ remoteId,
      intent.predeterminedRemoteId = some remoteId →
      input.predeterminedRemoteId ≠ some remoteId := by
    intro intent hintent remoteId hid hinput
    have := List.any_eq_false.mp haccepts.unused intent hintent
    simp [hid, hinput] at this
  intro intent hintent other hother' remoteId hid hid'
  obtain ⟨hold, -⟩ | rfl := Table.mem_upsert.mp hintent
  · obtain ⟨hold', -⟩ | rfl := Table.mem_upsert.mp hother'
    · exact hunique intent hold other hold' remoteId hid hid'
    · exact absurd hid' (hother intent hold remoteId hid)
  · obtain ⟨hold', -⟩ | rfl := Table.mem_upsert.mp hother'
    · exact absurd hid (hother other hold' remoteId hid')
    · rfl

theorem RootStore.Step.uniqueRemoteIds (h : store.Step op next) (hunique : store.UniqueRemoteIds) :
    next.UniqueRemoteIds := by
  cases h.intentEffect with
  | none _ _ _ hintents =>
      intro intent hintent other hother
      rw [hintents] at hintent hother
      exact hunique intent hintent other hother
  | inserted iop _ _ hinserted =>
      clear h
      induction hinserted with
      | refl => exact hunique
      | tail _ hlast ih => exact hlast.uniqueRemoteIds ih
  | moved iop _ hmoved =>
      obtain ⟨named, hnamed, moved, hmove, rfl⟩ := hmoved
      have hplan : moved.predeterminedRemoteId = named.predeterminedRemoteId :=
        (congrArg RemoteWriteIntentFields.predeterminedRemoteId hmove.plan_eq :)
      intro intent hintent other hother remoteId hid hid'
      obtain ⟨hold, hne⟩ | rfl := Table.mem_upsert.mp hintent
      · obtain ⟨hold', -⟩ | rfl := Table.mem_upsert.mp hother
        · exact hunique intent hold other hold' remoteId hid hid'
        · obtain rfl := hunique intent hold named hnamed remoteId hid (hplan ▸ hid')
          exact absurd hmove.id_eq.symm hne
      · obtain ⟨hold', hne⟩ | rfl := Table.mem_upsert.mp hother
        · obtain rfl := hunique other hold' named hnamed remoteId hid' (hplan ▸ hid)
          exact absurd hmove.id_eq.symm hne
        · rfl

/-- What holds of the ids in every state of a root. -/
structure RootStore.IdsUnique (store : RootStore) : Prop where
  intents : store.FreshIntentIds
  remoteIds : store.UniqueRemoteIds
  events : store.journal.FreshIds

theorem RootStore.Step.idsUnique (h : store.Step op next) (hids : store.IdsUnique) :
    next.IdsUnique where
  intents := h.freshIntentIds hids.intents
  remoteIds := h.uniqueRemoteIds hids.remoteIds
  events := h.journal.freshIds hids.events

theorem RootStore.Reaches.idsUnique {mode : SyncMode}
    (hrun : (RootStore.new mode).Reaches store) : store.IdsUnique := by
  refine Machine.Run.invariant (P := RootStore.IdsUnique) hrun ?_ ?_
  · refine ⟨fun intent hintent => ?_, fun intent hintent => ?_, fun event hevent => ?_,
      fun event hevent => ?_⟩
    · cases hintent
    · cases hintent
    · cases hevent
    · cases hevent
  · intro _ _ _ hids _ hstep
    exact hstep.idsUnique hids

/-! ## The settlement itself -/

/-- The one receipt a settlement creates: current, of the predetermined id, at the promoted path. -/
def SettlementOperation.CreatesReceipt (op : SettlementOperation) (catalog next : CatalogStore) :
    Prop :=
  match op with
  | .fileCreate input => ∃ receipt, receipt.remoteId = input.predeterminedRemoteId ∧
      receipt.relativePath = input.promoted.relativePath ∧
      catalog.FileReceiptCreated receipt next
  | .folderCreate input => ∃ receipt, receipt.remoteId = input.predeterminedRemoteId ∧
      receipt.relativePath = input.promoted.relativePath ∧
      catalog.DirectoryReceiptCreated receipt next

/-- What a settlement does. -/
structure SettledOnce (op : SettlementOperation) (store next : RootStore) : Prop where
  baseline : store.localItems.find? op.fields.promoted.relativePath = none ∧
    ∀ item, item ∈ next.localItems.rows ↔ item ∈ store.localItems.rows ∨ item = op.fields.promoted
  state : ∃ before after, store.localState = some before ∧ next.localState = some after ∧
    before.generation = op.fields.expectedFromGeneration ∧
    after.generation = before.generation + 1 ∧ after.itemCount = before.itemCount + 1
  source : ∃ event ∈ store.localEvents.rows, event.id = op.fields.sourceLocalEventId ∧
    event.isPending op.fields.expectedFromGeneration = true ∧
    { event with status := .applied } ∈ next.localEvents.rows ∧
    ∀ other ∈ next.localEvents.rows, other.status = .applied →
      other = { event with status := .applied } ∨ other ∈ store.localEvents.rows
  noneLeft : ∀ event ∈ next.localEvents.rows,
    event.isPending op.fields.expectedFromGeneration = false
  receipt : op.CreatesReceipt store.catalog next.catalog
  record : store.settlements.find? op.fields.intentId = none ∧ ∀ settlement,
    settlement ∈ next.settlements.rows ↔ settlement ∈ store.settlements.rows ∨
      settlement = ⟨op.fields.intentId, op.fields.sourceLocalEventId,
        op.fields.expectedFromGeneration, op.fields.expectedFromGeneration + 1⟩

/-- A row with a key of its own joins the rows there were. -/
theorem Table.mem_upsert_of_absent {ρ κ : Type} {key : ρ → κ} [DecidableEq κ] {t : Table key}
    {row : ρ} (h : t.find? (key row) = none) (r : ρ) :
    r ∈ (t.upsert row).rows ↔ r ∈ t.rows ∨ r = row := by
  rw [Table.rows_upsert_of_absent h, List.mem_append, List.mem_singleton]

theorem isPending_settleEvent (sourceId generation : ℕ) (event : LocalChangeEventRow) :
    (settleEvent sourceId generation event).isPending generation = false := by
  unfold settleEvent
  split
  · simp [LocalChangeEventRow.isPending]
  · split
    · simp [LocalChangeEventRow.isPending]
    · next hnot => simpa using hnot

theorem settledOnce_source {fields : RemoteWriteCreateSettlementFields}
    (hfresh : store.journal.FreshIds) {event : LocalChangeEventRow}
    (hevent : event ∈ store.localEvents.rows) (hid : event.id = fields.sourceLocalEventId)
    (hpending : event.isPending fields.expectedFromGeneration = true)
    (hwritten : store.SettlementWritten fields next) :
    { event with status := .applied } ∈ next.localEvents.rows ∧
      ∀ other ∈ next.localEvents.rows, other.status = .applied →
        other = { event with status := .applied } ∨ other ∈ store.localEvents.rows := by
  rw [hwritten.events]
  refine ⟨List.mem_append_left _ (List.mem_map.mpr ⟨event, hevent, ?_⟩), ?_⟩
  · rw [settleEvent, if_pos ⟨hid, hpending⟩]
  · intro other hother happlied
    obtain hold | hnew := List.mem_append.mp hother
    · obtain ⟨old, hrow, rfl⟩ := List.mem_map.mp hold
      unfold settleEvent at happlied ⊢
      split
      · next hsource =>
          -- only the source event has its id
          rw [hfresh.unique old hrow event hevent (hsource.1.trans hid.symm)]
          exact Or.inl rfl
      · next hsource =>
          rw [if_neg hsource] at happlied
          split
          · next hsuperseded =>
              rw [if_pos hsuperseded] at happlied
              cases happlied
          · exact Or.inr hrow
    · rw [(mem_residualRows hnew).2.1] at happlied
      cases happlied

theorem SettlementOperation.ensures_createsReceipt (store : RootStore) (op : SettlementOperation) :
    Ensures (op.apply store) fun next => op.CreatesReceipt store.catalog next.catalog := by
  cases op with
  | fileCreate input =>
      refine ensures_stateOf ((ensures_fileSettled store input).mono ?_)
      intro r ⟨_, _, size, _, hreceipt, _⟩
      exact ⟨_, rfl, rfl, hreceipt⟩
  | folderCreate input =>
      refine ensures_stateOf ((ensures_folderSettled store input).mono ?_)
      intro r ⟨_, _, hreceipt, _⟩
      exact ⟨_, rfl, rfl, hreceipt⟩

theorem SettlementOperation.ensures_settledOnce (store : RootStore) (op : SettlementOperation)
    (hids : store.IdsUnique) : Ensures (op.apply store) (SettledOnce op store) := by
  intro next h
  obtain ⟨hready, hwritten⟩ := op.ensures_settled store next h
  obtain ⟨state, hstate, -, hgeneration, hcount⟩ := hready.baseline
  obtain ⟨event, hevent, hid, hpending, -⟩ := hready.source
  refine ⟨⟨hready.newPath, ?_⟩, ⟨state, _, hstate, hwritten.localState, hgeneration, ?_, ?_⟩,
    ⟨event, hevent, hid, hpending, settledOnce_source hids.events hevent hid hpending hwritten⟩, ?_,
    ?_, ⟨hready.unsettled, ?_⟩⟩
  · rw [hwritten.localItems]
    exact Table.mem_upsert_of_absent hready.newPath
  · rw [hgeneration]
  · rw [hcount]
  · intro other hother
    rw [hwritten.events] at hother
    obtain hold | hnew := List.mem_append.mp hother
    · obtain ⟨old, -, rfl⟩ := List.mem_map.mp hold
      exact isPending_settleEvent _ _ old
    · have hgeneration := (mem_residualRows hnew).1
      simp [LocalChangeEventRow.isPending, hgeneration]
  · exact op.ensures_createsReceipt store next h
  · rw [hwritten.settlements]
    exact Table.mem_upsert_of_absent hready.unsettled

/-! ## Every later state -/

theorem RootStore.Step.generation_le (h : store.Step op next) {generation : ℕ}
    (hstore : store.generation? = some generation) :
    ∃ nextGeneration, next.generation? = some nextGeneration ∧ generation ≤ nextGeneration := by
  cases hmoves : op.movesBaseline with
  | false => exact ⟨generation, (h.baseline_frame hmoves).2.trans hstore, le_rfl⟩
  | true =>
      refine ⟨store.nextGeneration, h.generation_of_moves hmoves, ?_⟩
      obtain ⟨state, hstate, rfl⟩ := Option.map_eq_some_iff.mp hstore
      rw [RootStore.nextGeneration, hstate]
      exact Nat.le_succ _

theorem RootStore.Step.settlement_kept (h : store.Step op next)
    {settlement : RemoteWriteSettlementRow} (hsettlement : settlement ∈ store.settlements.rows) :
    settlement ∈ next.settlements.rows := by
  by_cases hsettle : ∃ sop, op = .settle sop
  · obtain ⟨sop, rfl⟩ := hsettle
    obtain ⟨hready, hwritten⟩ := sop.ensures_settled store next h
    rw [hwritten.settlements]
    exact (Table.mem_upsert_of_absent hready.unsettled _).mpr (Or.inl hsettlement)
  · rw [h.settlements fun sop hop => hsettle ⟨sop, hop⟩]
    exact hsettlement

/-- What stays of a settlement. -/
structure StaysSettled (fields : RemoteWriteCreateSettlementFields) (later : RootStore) : Prop where
  ids : later.IdsUnique
  intent : ∃ intent ∈ later.intents.rows, intent.id = fields.intentId ∧
    intent.status = .confirmed ∧ intent.predeterminedRemoteId = some fields.predeterminedRemoteId
  event : ∃ event ∈ later.localEvents.rows, event.id = fields.sourceLocalEventId ∧
    event.status = .applied ∧ event.baselineGeneration = fields.expectedFromGeneration
  generation : ∃ generation, later.generation? = some generation ∧
    fields.expectedFromGeneration < generation
  record : ∃ settlement ∈ later.settlements.rows, settlement.intentId = fields.intentId ∧
    settlement.sourceLocalEventId = fields.sourceLocalEventId

theorem staysSettled_start {sop : SettlementOperation} (h : store.Step (.settle sop) next)
    (hids : store.IdsUnique) : StaysSettled sop.fields next := by
  obtain ⟨hready, hwritten⟩ := sop.ensures_settled store next h
  obtain ⟨intent, hintent, -, -, -, hstatus, -, hremote⟩ := hready.intent
  obtain ⟨hintent, hid⟩ := Table.find?_eq_some_iff.mp hintent
  obtain ⟨event, hevent, heventId, hpending, -⟩ := hready.source
  refine ⟨h.idsUnique hids, ⟨intent, hwritten.intents ▸ hintent, hid, hstatus, hremote⟩,
    ⟨_, (settledOnce_source hids.events hevent heventId hpending hwritten).1, heventId, rfl,
      (pending_of_isPending hpending).1⟩, ⟨_, ?_, Nat.lt_succ_self _⟩,
    ⟨⟨sop.fields.intentId, sop.fields.sourceLocalEventId, sop.fields.expectedFromGeneration,
      sop.fields.expectedFromGeneration + 1⟩, ?_, rfl, rfl⟩⟩
  · rw [RootStore.generation?, hwritten.localState]
    rfl
  · rw [hwritten.settlements]
    exact (Table.mem_upsert_of_absent hready.unsettled _).mpr (Or.inr rfl)

theorem RootStore.Step.staysSettled {fields : RemoteWriteCreateSettlementFields}
    (h : store.Step op next) (hstays : StaysSettled fields store) : StaysSettled fields next := by
  obtain ⟨hids, ⟨intent, hintent, hid, hstatus, hremote⟩, ⟨event, hevent, heventId, happlied, hgen⟩,
    ⟨generation, hgeneration, hlt⟩, ⟨settlement, hsettlement, hrecord⟩⟩ := hstays
  refine ⟨h.idsUnique hids, ?_, ⟨event, ?_, heventId, happlied, hgen⟩, ?_,
    ⟨settlement, h.settlement_kept hsettlement, hrecord⟩⟩
  · obtain ⟨later, hlater, hevolves⟩ := h.intent_later hids.intents hintent
    cases hevolves with
    | same => exact ⟨intent, hlater, hid, hstatus, hremote⟩
    | moved iop _ _ hmove => exact absurd hstatus hmove.not_confirmed
  · -- the baseline has moved on from the generation of the event
    refine h.journal.kept hevent (by rw [happlied]; nofun) ?_
    rw [hgeneration, hgen]
    intro hsame
    have := Option.some.inj hsame
    omega
  · obtain ⟨nextGeneration, hnext, hle⟩ := h.generation_le hgeneration
    exact ⟨nextGeneration, hnext, by omega⟩

/-- A settlement that shares the intent, the event or the remote id of an earlier one is refused. -/
theorem StaysSettled.refuses {fields : RemoteWriteCreateSettlementFields}
    (hstays : StaysSettled fields later) (sop : SettlementOperation) (last : RootStore)
    (hshared : sop.fields.intentId = fields.intentId ∨
      sop.fields.sourceLocalEventId = fields.sourceLocalEventId ∨
      sop.fields.predeterminedRemoteId = fields.predeterminedRemoteId) :
    ¬ later.Step (.settle sop) last := by
  intro hstep
  obtain ⟨hids, ⟨intent, hintent, hid, -, hremote⟩, -, -, ⟨settlement, hsettlement, hsame, hevent⟩⟩ :=
    hstays
  have hready := (sop.ensures_settled later last hstep).1
  have hrefused : sop.fields.intentId ≠ fields.intentId := by
    intro hintentId
    have := Table.find?_eq_none_iff.mp hready.unsettled settlement hsettlement
    exact this (hsame.trans hintentId.symm)
  obtain hshared | hshared | hshared := hshared
  · exact hrefused hshared
  · exact hready.unsettledSource settlement hsettlement (hevent.trans hshared.symm)
  · obtain ⟨other, hother, -, -, -, -, -, hotherRemote⟩ := hready.intent
    obtain ⟨hother, hotherId⟩ := Table.find?_eq_some_iff.mp hother
    obtain rfl := hids.remoteIds intent hintent other hother _ hremote (hshared ▸ hotherRemote)
    exact hrefused (hotherId.symm.trans hid)

/-- **Settled exactly once.** A settlement in a reachable state adds the promoted item to the
    baseline and nothing else, takes the generation and the count up by one, applies the source event
    and leaves no other event of its generation pending, creates the one receipt and records itself;
    and in every later state its intent is still confirmed, its event still applied, and no
    settlement shares its intent, its event or its remote id. -/
theorem settled_exactly_once (mode : SyncMode) (store : RootStore)
    (hrun : (RootStore.new mode).Reaches store) (sop : SettlementOperation) (next : RootStore)
    (hstep : store.Step (.settle sop) next) :
    SettledOnce sop store next ∧ ∀ later, next.Reaches later →
      (∃ intent, later.intents.find? sop.fields.intentId = some intent ∧
        intent.status = .confirmed) ∧
      (∃ event ∈ later.localEvents.rows, event.id = sop.fields.sourceLocalEventId ∧
        event.status = .applied ∧ ∀ other ∈ later.localEvents.rows, other.id = event.id →
          other = event) ∧
      ∀ (sop' : SettlementOperation) (last : RootStore),
        sop'.fields.intentId = sop.fields.intentId ∨
          sop'.fields.sourceLocalEventId = sop.fields.sourceLocalEventId ∨
          sop'.fields.predeterminedRemoteId = sop.fields.predeterminedRemoteId →
        ¬ later.Step (.settle sop') last := by
  have hids := RootStore.Reaches.idsUnique hrun
  refine ⟨sop.ensures_settledOnce store hids next hstep, fun later hlater => ?_⟩
  have hstays : StaysSettled sop.fields later :=
    Machine.Run.invariant (P := StaysSettled sop.fields) hlater (staysSettled_start hstep hids)
      fun _ _ _ hstays _ hstep => hstep.staysSettled hstays
  obtain ⟨intent, hintent, hid, hstatus, -⟩ := hstays.intent
  obtain ⟨event, hevent, heventId, happlied, -⟩ := hstays.event
  exact ⟨⟨intent, Table.find?_eq_some_iff.mpr ⟨hintent, hid⟩, hstatus⟩,
    ⟨event, hevent, heventId, happlied, fun other hother hid =>
      hstays.ids.events.unique other hother event hevent hid⟩,
    fun sop' last => hstays.refuses sop' last⟩

/-- The settlement of the first of two new files. -/
theorem settled_exactly_once_file :
    ∃ store next, (RootStore.new .twoWay).Reaches store ∧
      store.Step (.settle (.fileCreate (sampleSettlement rfl))) next ∧
      SettledOnce (.fileCreate (sampleSettlement rfl)) store next := by
  have hends : ∃ store ∈ ((sampleOperations ++ sampleUpload ++ sampleConfirmation).foldlM
      RootStore.apply (RootStore.new .twoWay)).toOption,
      (store.apply (.settle (.fileCreate (sampleSettlement rfl)))).toOption.isSome = true := by
    decide +kernel
  obtain ⟨store, hstore, hsettles⟩ := hends
  obtain ⟨next, hnext⟩ := Option.isSome_iff_exists.mp hsettles
  have hrun : (RootStore.new .twoWay).Reaches store :=
    Machine.Run.of_foldlM (fun _ _ _ => trivial) (toOption_eq_some_iff.mp hstore)
  have hstep : store.Step _ next := toOption_eq_some_iff.mp hnext
  exact ⟨store, next, hrun, hstep, (settled_exactly_once .twoWay store hrun _ next hstep).1⟩

end NubiSync
