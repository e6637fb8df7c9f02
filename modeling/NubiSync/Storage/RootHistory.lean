import NubiSync.Storage.CatalogWrites

set_option autoImplicit false

/-! # What a root never undoes

The effect of any operation on the intents, the journal, the baseline generation and the settlements,
and what follows over whole runs: an intent keeps its plan and its execution generation never falls,
the baseline generation never falls, an event that is no longer pending is final once the baseline has
moved on, and a settlement is for ever. -/

namespace NubiSync

open Checks Relation

/-- A later state of a root. -/
abbrev RootStore.Reaches (store later : RootStore) : Prop :=
  Machine.Run RootStore.Step (fun _ _ => True) store later

/-! ## The effect of a step -/

variable {store next : RootStore} {op : RootOperation}

/-- What an operation does to the intents. -/
inductive IntentEffect (store : RootStore) : RootOperation → RootStore → Prop where
  | none (op : RootOperation) (next : RootStore) (hop : ∀ iop, op ≠ .intents iop)
      (hintents : next.intents = store.intents) (hid : store.nextIntentId ≤ next.nextIntentId) :
      IntentEffect store op next
  | inserted (op : IntentOperation) (next : RootStore) (hop : op.target? = Option.none)
      (hinserted : ReflTransGen IntentInsert store next) : IntentEffect store (.intents op) next
  | moved (op : IntentOperation) (next : RootStore) (hmoved : IntentMoved store op next) :
      IntentEffect store (.intents op) next

/-- The operations that leave the local side alone. -/
def RootOperation.isCatalogSide : RootOperation → Bool
  | .inventory _ | .receipts _ | .authority _ => true
  | _ => false

theorem RootStore.Step.localSide (h : store.Step op next) (hop : op.isCatalogSide = true) :
    next.localSide = store.localSide := by
  cases op with
  | inventory op => exact op.ensures_localSide store next h
  | receipts op => exact op.ensures_localSide store next h
  | authority op => exact op.ensures_localSide store next h
  | _ => cases hop

theorem RootStore.Step.updateMode_eq {expected mode : SyncMode}
    (h : store.Step (.updateMode expected mode) next) :
    next = { store with mode := mode } ∨ next = store := by
  obtain rfl := Except.ok.inj h
  unfold RootStore.updateMode
  split
  · exact Or.inl rfl
  · exact Or.inr rfl

/-- The operations that leave the remote side alone. -/
def RootOperation.isLocalSide : RootOperation → Bool
  | .inventory _ | .authority _ => false
  | _ => true

theorem RootStore.Step.remoteSide (h : store.Step op next) (hop : op.isLocalSide = true) :
    next.remoteSide = store.remoteSide := by
  cases op with
  | updateMode expected mode =>
      obtain rfl | rfl := h.updateMode_eq
      · rfl
      · rfl
  | skipIds events intents =>
      obtain rfl := Except.ok.inj h
      rfl
  | receipts op => exact op.ensures_remoteSide store next h
  | localItems op => exact op.ensures_remoteSide store next h
  | settle op => exact op.ensures_remoteSide store next h
  | intents op => exact op.ensures_remoteSide store next h
  | _ => cases hop

/-- **Every step has one of the effects on the cursors.** -/
theorem RootStore.Step.cursorEffect (h : store.Step op next) : CursorEffect store op next := by
  cases hside : op.isLocalSide with
  | true =>
      refine .kept op next ?_ ?_
      · cases op <;> first | rfl | cases hside
      · have hsame := h.remoteSide hside
        exact Prod.ext (congrArg RemoteSide.remoteState hsame)
          (Prod.ext (congrArg RemoteSide.windowState hsame) (congrArg RemoteSide.windowEvents hsame))
  | false =>
      cases op with
      | inventory iop => exact InventoryOperation.cursorEffect h
      | authority aop =>
          obtain ⟨_, _, rfl⟩ := aop.ensures_frame store next h
          exact .kept _ _ rfl rfl
      | _ => cases hside

theorem RootStore.Step.intentEffect (h : store.Step op next) : IntentEffect store op next := by
  cases hside : op.isCatalogSide with
  | true =>
      have hside' := h.localSide hside
      refine .none _ _ (fun iop hiop => ?_) (congrArg LocalSide.intents hside')
        (congrArg LocalSide.nextIntentId hside').ge
      rw [hiop] at hside
      cases hside
  | false =>
      cases op with
      | updateMode expected mode =>
          obtain rfl | rfl := h.updateMode_eq
          · exact .none _ _ (fun _ => by simp) rfl le_rfl
          · exact .none _ _ (fun _ => by simp) rfl le_rfl
      | skipIds events intents =>
          obtain rfl := Except.ok.inj h
          exact .none _ _ (fun _ => by simp) rfl (Nat.le_add_right _ _)
      | localItems op =>
          have hwrite := (op.ensures_journal store next h).2
          exact .none _ _ (fun _ => by simp) (congrArg WriteSide.intents hwrite)
            (congrArg WriteSide.nextIntentId hwrite).ge
      | intents op =>
          cases hop : op.target? with
          | none => exact .inserted op next hop (op.ensures_inserted store hop next h)
          | some target => exact .moved op next (op.ensures_moved store (by rw [hop]; rfl) next h)
      | settle op =>
          have hwritten := (op.ensures_settled store next h).2
          exact .none _ _ (fun _ => by simp) hwritten.intents hwritten.nextIntentId.ge
      | _ => cases hside

/-- An intent operation leaves the rest of the root alone. -/
theorem RootStore.Step.intents_frame {iop : IntentOperation} (h : store.Step (.intents iop) next) :
    next.journal = store.journal ∧ next.localState = store.localState ∧
      next.localItems = store.localItems ∧ next.settlements = store.settlements := by
  obtain ⟨_, _, rfl⟩ := iop.ensures_frame store next h
  exact ⟨rfl, rfl, rfl, rfl⟩

theorem JournalWrites.of_none {generation? : Option ℕ} {journal next : Journal}
    (h : JournalWrites none journal next) : JournalWrites generation? journal next := by
  induction h with
  | refl => exact .refl
  | tail _ hlast ih =>
      refine ih.tail ?_
      cases hlast with
      | setStatus f hkey hid hshape hpending => exact .setStatus f hkey hid hshape hpending
      | rewrite row new hrow hid hkey hshape hgeneration => cases hgeneration
      | append row hid hkey hshape => exact .append row hid hkey hshape
      | skip ids => exact .skip ids

/-- **Every operation writes to the journal at the generation of the baseline.** -/
theorem RootStore.Step.journal (h : store.Step op next) :
    JournalWrites store.generation? store.journal next.journal := by
  cases hside : op.isCatalogSide with
  | true =>
      have hjournal : next.journal = store.journal :=
        congrArg (fun side : LocalSide => Journal.mk side.localEvents side.nextEventId)
          (h.localSide hside)
      rw [hjournal]
  | false =>
      cases op with
      | updateMode expected mode =>
          obtain rfl | rfl := h.updateMode_eq
          · exact .refl
          · exact .refl
      | skipIds events intents =>
          obtain rfl := Except.ok.inj h
          exact .single (.skip events)
      | localItems op => exact (op.ensures_journal store next h).1
      | intents op => rw [h.intents_frame.1]
      | settle op => exact (op.ensures_settled store next h).2.journal.of_none
      | _ => cases hside

/-- The operations that move the local baseline on. -/
def RootOperation.movesBaseline : RootOperation → Bool
  | .localItems op => op.replacesBaseline
  | .settle _ => true
  | _ => false

/-- An operation that does not move the baseline on. -/
theorem RootStore.Step.baseline_frame (h : store.Step op next) (hop : op.movesBaseline = false) :
    next.localItems = store.localItems ∧ next.generation? = store.generation? := by
  cases hside : op.isCatalogSide with
  | true =>
      have hside' := h.localSide hside
      exact ⟨congrArg LocalSide.localItems hside',
        congrArg (fun side : LocalSide => side.localState.map LocalInventoryState.generation) hside'⟩
  | false =>
      cases op with
      | updateMode expected mode =>
          obtain rfl | rfl := h.updateMode_eq
          · exact ⟨rfl, rfl⟩
          · exact ⟨rfl, rfl⟩
      | skipIds events intents =>
          obtain rfl := Except.ok.inj h
          exact ⟨rfl, rfl⟩
      | localItems op => exact op.ensures_baseline store hop next h
      | intents op =>
          obtain ⟨-, hstate, hitems, -⟩ := h.intents_frame
          exact ⟨hitems, congrArg (Option.map LocalInventoryState.generation) hstate⟩
      | settle op => cases hop
      | _ => cases hside

/-- The operations that write to the journal or the baseline. -/
def RootOperation.writesJournal : RootOperation → Bool
  | .localItems (.commitSnapshot _) | .localItems (.reconcileJournal ..) | .settle _ => true
  | _ => false

theorem RootStore.Step.localEvents_frame (h : store.Step op next)
    (hop : op.writesJournal = false) :
    next.localEvents = store.localEvents ∧ op.movesBaseline = false := by
  cases hside : op.isCatalogSide with
  | true =>
      refine ⟨congrArg LocalSide.localEvents (h.localSide hside), ?_⟩
      cases op <;> first | rfl | cases hside
  | false =>
      cases op with
      | updateMode expected mode =>
          obtain rfl | rfl := h.updateMode_eq
          · exact ⟨rfl, rfl⟩
          · exact ⟨rfl, rfl⟩
      | skipIds events intents =>
          obtain rfl := Except.ok.inj h
          exact ⟨rfl, rfl⟩
      | localItems op =>
          cases op with
          | beginStaging =>
              obtain rfl := Except.ok.inj h
              exact ⟨rfl, rfl⟩
          | stageItems items =>
              refine ⟨?_, rfl⟩
              exact ensures_stateOf (P := fun next => next.localEvents = store.localEvents)
                (.after fun _ => .ok rfl) next h
          | invalidateBaseline =>
              obtain rfl := Except.ok.inj h
              refine ⟨?_, rfl⟩
              unfold RootStore.invalidateLocalObservationBaseline
              split
              · split <;> rfl
              · rfl
          | _ => cases hop
      | intents op => exact ⟨congrArg Journal.events h.intents_frame.1, rfl⟩
      | settle op => cases hop
      | _ => cases hside

/-- An operation that moves the baseline on moves it to the next generation. -/
theorem RootStore.Step.generation_of_moves (h : store.Step op next) (hop : op.movesBaseline = true) :
    next.generation? = some store.nextGeneration := by
  cases op with
  | localItems op =>
      cases op with
      | commitSnapshot completedAt =>
          exact ensures_stateOf (P := fun next => next.generation? = some store.nextGeneration)
            (.after fun itemCount => .ok rfl) next h
      | _ => cases hop
  | settle op =>
      obtain ⟨hready, hwritten⟩ := op.ensures_settled store next h
      obtain ⟨state, hstate, -, hgeneration, -⟩ := hready.baseline
      rw [RootStore.generation?, hwritten.localState, RootStore.nextGeneration, hstate, ← hgeneration]
      rfl
  | _ => cases hop

theorem RootStore.Step.settlements (h : store.Step op next) (hop : ∀ sop, op ≠ .settle sop) :
    next.settlements = store.settlements := by
  cases hside : op.isCatalogSide with
  | true => exact congrArg LocalSide.settlements (h.localSide hside)
  | false =>
      cases op with
      | updateMode expected mode =>
          obtain rfl | rfl := h.updateMode_eq
          · rfl
          · rfl
      | skipIds events intents =>
          obtain rfl := Except.ok.inj h
          rfl
      | localItems op => exact congrArg WriteSide.settlements (op.ensures_journal store next h).2
      | intents op => exact h.intents_frame.2.2.2
      | settle sop => exact absurd rfl (hop sop)
      | _ => cases hside

/-! ## Intents -/

/-- The ids of the intents are below the counter. -/
def RootStore.FreshIntentIds (store : RootStore) : Prop :=
  ∀ intent ∈ store.intents.rows, intent.id < store.nextIntentId

/-- An intent after a step: as it was, or moved by the operation that names it. -/
inductive IntentEvolves (store : RootStore) (op : RootOperation) (intent : RemoteWriteIntentRow) :
    RemoteWriteIntentRow → Prop where
  | same : IntentEvolves store op intent intent
  | moved (iop : IntentOperation) (hop : op = .intents iop) (moved : RemoteWriteIntentRow)
      (hmove : IntentMove store intent iop moved) : IntentEvolves store op intent moved

variable {iop : IntentOperation} {intent moved : RemoteWriteIntentRow}

theorem IntentMove.id_eq (h : IntentMove store intent iop moved) : moved.id = intent.id := by
  cases h <;> rfl

/-- The part of an intent that no operation changes: all that its plan decides, without what is recorded of
    an upload. -/
def RemoteWriteIntentFields.plan (fields : RemoteWriteIntentFields) : RemoteWriteIntentFields :=
  { fields with
    expectedRemoteKind := none
    expectedRemoteVersion := none
    expectedRemoteSizeBytes := none
    expectedChecksumAlgorithm := none
    expectedContentChecksum := none }

theorem IntentMove.plan_eq (h : IntentMove store intent iop moved) : moved.plan = intent.plan := by
  cases h <;> rfl

theorem IntentMove.not_confirmed (h : IntentMove store intent iop moved) :
    intent.status ≠ .confirmed := by
  intro hconfirmed
  cases h with
  | transitionFileCreate new at_ hkind hnew =>
      rw [hconfirmed] at hnew
      cases hnew
  | transitionFolderCreate new at_ hkind hnew =>
      rw [hconfirmed] at hnew
      cases hnew
  | beginFileCreate _ _ _ hstatus | beginFolderCreate _ _ _ hstatus
  | restartFileCreate _ _ _ hstatus | recordFingerprint _ _ _ hstatus
  | completeUpload _ _ _ hstatus | recoverConflict _ _ hstatus =>
      rw [hconfirmed] at hstatus
      cases hstatus

/-- Inserts keep the intents there are, and the counter above them. -/
theorem intents_kept_of_inserts (hinserts : ReflTransGen IntentInsert store next)
    (hfresh : store.FreshIntentIds) :
    next.FreshIntentIds ∧ ∀ intent ∈ store.intents.rows, intent ∈ next.intents.rows := by
  induction hinserts with
  | refl => exact ⟨hfresh, fun _ hintent => hintent⟩
  | tail _ hlast ih =>
      obtain ⟨hbelow, hkept⟩ := ih
      cases hlast with
      | planned input =>
          refine ⟨fun row hrow => ?_, fun intent hintent => Table.mem_upsert.mpr (Or.inl ?_)⟩
          · obtain ⟨hold, -⟩ | rfl := Table.mem_upsert.mp hrow
            · exact (hbelow row hold).trans (Nat.lt_succ_self _)
            · exact Nat.lt_succ_self _
          · have hmem := hkept intent hintent
            exact ⟨hmem, (hbelow intent hmem).ne⟩

/-- Every intent has a later self. -/
theorem RootStore.Step.intent_later (h : store.Step op next) (hfresh : store.FreshIntentIds)
    (hintent : intent ∈ store.intents.rows) :
    ∃ later ∈ next.intents.rows, IntentEvolves store op intent later := by
  cases h.intentEffect with
  | none _ _ _ hintents => exact ⟨intent, by rwa [hintents], .same⟩
  | inserted iop _ _ hinserted =>
      exact ⟨intent, (intents_kept_of_inserts hinserted hfresh).2 intent hintent, .same⟩
  | moved iop _ hmoved =>
      obtain ⟨named, hnamed, moved, hmove, rfl⟩ := hmoved
      by_cases hsame : intent.id = named.id
      · obtain rfl := store.intents.eq_of_key hintent hnamed hsame
        exact ⟨moved, Table.mem_upsert.mpr (Or.inr rfl), .moved iop rfl moved hmove⟩
      · refine ⟨intent, Table.mem_upsert.mpr (Or.inl ⟨hintent, ?_⟩), .same⟩
        rwa [hmove.id_eq]

/-- Every intent has an earlier self, or has just been planned on an event of the journal. -/
theorem RootStore.Step.intent_earlier (h : store.Step op next) {later : RemoteWriteIntentRow}
    (hlater : later ∈ next.intents.rows) :
    (∃ intent ∈ store.intents.rows, IntentEvolves store op intent later) ∨
      op.movesBaseline = false ∧ ∃ (input : RemoteWriteIntentInput) (id : ℕ),
        later = input.plannedRow id ∧ store.generation? = some input.baselineGeneration ∧
        ∃ event ∈ store.localEvents.rows, event.id = input.sourceLocalEventId ∧
          event.journalKey = (input.baselineGeneration, input.relativePath) := by
  cases h.intentEffect with
  | none _ _ _ hintents => exact Or.inl ⟨later, by rwa [← hintents], .same⟩
  | inserted iop _ _ hinserted =>
      -- a batch inserts its intents one by one, each over the same baseline and journal
      suffices hstep : ∀ middle, ReflTransGen IntentInsert store middle →
          (middle.generation? = store.generation? ∧ middle.localEvents = store.localEvents) ∧
          ∀ later ∈ middle.intents.rows, later ∈ store.intents.rows ∨
            ∃ (input : RemoteWriteIntentInput) (id : ℕ), later = input.plannedRow id ∧
              store.generation? = some input.baselineGeneration ∧
              ∃ event ∈ store.localEvents.rows, event.id = input.sourceLocalEventId ∧
                event.journalKey = (input.baselineGeneration, input.relativePath) by
        refine ((hstep next hinserted).2 later hlater).imp (fun hold => ?_) fun hnew => ⟨rfl, hnew⟩
        exact ⟨later, hold, .same⟩
      intro middle hmiddle
      induction hmiddle with
      | refl => exact ⟨⟨rfl, rfl⟩, fun later hlater => Or.inl hlater⟩
      | tail _ hlast ih =>
          obtain ⟨⟨hgeneration?, hevents⟩, hrows⟩ := ih
          cases hlast with
          | planned input haccepts =>
              obtain ⟨state, hstate, hgeneration, -⟩ := haccepts.baseline
              obtain ⟨event, hevent, hpending, hpath, -⟩ := haccepts.event
              refine ⟨⟨hgeneration?, hevents⟩, fun row hrow => ?_⟩
              obtain ⟨hold, -⟩ | rfl := Table.mem_upsert.mp hrow
              · exact hrows row hold
              · refine Or.inr ⟨input, _, rfl, ?_, event, ?_, ?_, ?_⟩
                · rw [← hgeneration?, RootStore.generation?,
                    (Option.filter_eq_some_iff.mp hstate).1, Option.map_some, hgeneration]
                · rw [← hevents]
                  exact List.mem_of_find?_eq_some hevent
                · simpa using List.find?_some hevent
                · exact Prod.ext (pending_of_isPending hpending).1 hpath
  | moved iop _ hmoved =>
      obtain ⟨named, hnamed, moved, hmove, rfl⟩ := hmoved
      obtain ⟨hold, -⟩ | rfl := Table.mem_upsert.mp hlater
      · exact Or.inl ⟨later, hold, .same⟩
      · exact Or.inl ⟨named, hnamed, .moved iop rfl _ hmove⟩

theorem RootStore.Step.freshIntentIds (h : store.Step op next) (hfresh : store.FreshIntentIds) :
    next.FreshIntentIds := by
  cases h.intentEffect with
  | none _ _ _ hintents hid =>
      intro intent hintent
      rw [hintents] at hintent
      exact (hfresh intent hintent).trans_le hid
  | inserted iop _ _ hinserted => exact (intents_kept_of_inserts hinserted hfresh).1
  | moved iop _ hmoved =>
      obtain ⟨named, hnamed, moved, hmove, rfl⟩ := hmoved
      intro row hrow
      obtain ⟨hold, -⟩ | rfl := Table.mem_upsert.mp hrow
      · exact hfresh row hold
      · rw [hmove.id_eq]
        exact hfresh named hnamed

/-! ## Sources -/

/-- Every intent has its event in the journal, at its generation and its path. -/
def RootStore.SourcesKnown (store : RootStore) : Prop :=
  ∀ intent ∈ store.intents.rows, ∃ event ∈ store.localEvents.rows,
    event.id = intent.sourceLocalEventId ∧
      event.journalKey = (intent.baselineGeneration, intent.relativePath)

theorem RootStore.Step.sourcesKnown (h : store.Step op next) (hknown : store.SourcesKnown) :
    next.SourcesKnown := by
  intro later hlater
  obtain ⟨event, hevent, hid, hkey⟩ : ∃ event ∈ store.localEvents.rows,
      event.id = later.sourceLocalEventId ∧
        event.journalKey = (later.baselineGeneration, later.relativePath) := by
    obtain ⟨intent, hintent, hevolves⟩ | ⟨-, input, id, rfl, -, hevent⟩ := h.intent_earlier hlater
    · obtain ⟨event, hevent, hid, hkey⟩ := hknown intent hintent
      cases hevolves with
      | same => exact ⟨event, hevent, hid, hkey⟩
      | moved iop _ _ hmove =>
          have hsource : later.sourceLocalEventId = intent.sourceLocalEventId :=
            (congrArg RemoteWriteIntentFields.sourceLocalEventId hmove.plan_eq :)
          have hplace : (later.baselineGeneration, later.relativePath)
              = (intent.baselineGeneration, intent.relativePath) :=
            (congrArg (fun plan => (plan.baselineGeneration, plan.relativePath)) hmove.plan_eq :)
          exact ⟨event, hevent, hid.trans hsource.symm, hkey.trans hplace.symm⟩
    · exact hevent
  obtain ⟨event', hevent', hid', hkey'⟩ := h.journal.event_later hevent
  exact ⟨event', hevent', hid'.trans hid, hkey'.trans hkey⟩

end NubiSync
