import NubiSync.Storage.OperationFrames

set_option autoImplicit false

/-! # What an operation does to the journal

The change journal of a root is only ever written in three ways: the status of pending events is set,
an event of the current generation is written anew under its id, and an event is appended under a
fresh id. So an event that is no longer pending stays as it is once the baseline has moved on from its
generation. -/

namespace NubiSync

open Checks Relation

/-! ## Writes to the journal -/

/-- The journal with the counter of its ids. -/
structure Journal where
  events : Table LocalChangeEventRow.journalKey
  nextId : ℕ

/-- The journal of a root. -/
def RootStore.journal (store : RootStore) : Journal := ⟨store.localEvents, store.nextEventId⟩

/-- The generation of the local baseline. -/
def RootStore.generation? (store : RootStore) : Option ℕ :=
  store.localState.map LocalInventoryState.generation

/-- The shape that the inputs of the journal are checked for. -/
def LocalChangeEventRow.IsShaped (event : LocalChangeEventRow) : Prop :=
  isLocalChangeShape event.eventKind event.baselineKind event.currentKind = true

theorem LocalChangeEventRow.IsShaped.baselineKind_of_created {event : LocalChangeEventRow}
    (h : event.IsShaped) (hcreated : event.eventKind = .created) : event.baselineKind = none := by
  rw [LocalChangeEventRow.IsShaped, hcreated] at h
  simpa using (Bool.and_eq_true_iff.mp h).1

/-- One write to the journal, at the generation of the baseline. -/
inductive JournalWrite (generation? : Option ℕ) (journal : Journal) : Journal → Prop where
  | setStatus (f : LocalChangeEventRow → LocalChangeEventRow)
      (hkey : ∀ event, (f event).journalKey = event.journalKey)
      (hid : ∀ event, (f event).id = event.id)
      (hshape : ∀ event : LocalChangeEventRow, event.IsShaped → (f event).IsShaped)
      (hpending : ∀ event, event.status ≠ .pending → f event = event) :
      JournalWrite generation? journal { journal with events := journal.events.update f hkey }
  | rewrite (row new : LocalChangeEventRow) (hrow : row ∈ journal.events.rows)
      (hid : new.id = row.id) (hkey : new.journalKey = row.journalKey) (hshape : new.IsShaped)
      (hgeneration : generation? = some row.baselineGeneration) :
      JournalWrite generation? journal { journal with events := journal.events.upsert new }
  | append (row : LocalChangeEventRow) (hid : row.id = journal.nextId)
      (hkey : journal.events.find? row.journalKey = none) (hshape : row.IsShaped) :
      JournalWrite generation? journal ⟨journal.events.upsert row, journal.nextId + 1⟩
  | skip (ids : ℕ) : JournalWrite generation? journal { journal with nextId := journal.nextId + ids }

/-- A sequence of writes to the journal. -/
abbrev JournalWrites (generation? : Option ℕ) : Journal → Journal → Prop :=
  ReflTransGen (JournalWrite generation?)

variable {generation? : Option ℕ} {journal next : Journal}

/-- An event that is not pending stays while the baseline is at another generation. -/
theorem JournalWrite.kept (h : JournalWrite generation? journal next) {event : LocalChangeEventRow}
    (hevent : event ∈ journal.events.rows) (hstatus : event.status ≠ .pending)
    (hgeneration : generation? ≠ some event.baselineGeneration) : event ∈ next.events.rows := by
  cases h with
  | setStatus f hkey hid hshape hpending =>
      show event ∈ journal.events.rows.map f
      exact List.mem_map.mpr ⟨event, hevent, hpending event hstatus⟩
  | rewrite row new hrow hid hkey hshape hrowGeneration =>
      refine Table.mem_upsert.mpr (Or.inl ⟨hevent, fun hsame => hgeneration ?_⟩)
      have hrows : event.journalKey = row.journalKey := hsame.trans hkey
      rw [hrowGeneration, show event.baselineGeneration = row.baselineGeneration from
        congrArg Prod.fst hrows]
  | append row hid hkey hshape =>
      exact Table.mem_upsert.mpr (Or.inl ⟨hevent, Table.find?_eq_none_iff.mp hkey event hevent⟩)
  | skip ids => exact hevent

theorem JournalWrites.kept (h : JournalWrites generation? journal next) {event : LocalChangeEventRow}
    (hevent : event ∈ journal.events.rows) (hstatus : event.status ≠ .pending)
    (hgeneration : generation? ≠ some event.baselineGeneration) : event ∈ next.events.rows := by
  induction h with
  | refl => exact hevent
  | tail _ hlast ih => exact hlast.kept ih hstatus hgeneration

/-- The ids of the journal are below the counter, and no two events share one. -/
structure Journal.FreshIds (journal : Journal) : Prop where
  below : ∀ event ∈ journal.events.rows, event.id < journal.nextId
  unique : ∀ event ∈ journal.events.rows, ∀ other ∈ journal.events.rows,
    event.id = other.id → event = other

/-- The rows after an upsert of a row whose id belongs to its key alone. -/
theorem Journal.FreshIds.upsert {row : LocalChangeEventRow} {nextId : ℕ}
    (hfresh : journal.FreshIds) (hnext : journal.nextId ≤ nextId) (hid : row.id < nextId)
    (howner : ∀ event ∈ journal.events.rows, event.id = row.id → event.journalKey = row.journalKey) :
    (Journal.mk (journal.events.upsert row) nextId).FreshIds := by
  refine ⟨fun event hevent => ?_, fun event hevent other hother hsame => ?_⟩
  · obtain ⟨hold, -⟩ | rfl := Table.mem_upsert.mp hevent
    · exact (hfresh.below event hold).trans_le hnext
    · exact hid
  · obtain ⟨hold, hkey⟩ | rfl := Table.mem_upsert.mp hevent
    · obtain ⟨hold', -⟩ | rfl := Table.mem_upsert.mp hother
      · exact hfresh.unique event hold other hold' hsame
      · exact absurd (howner event hold hsame) hkey
    · obtain ⟨hold', hkey'⟩ | rfl := Table.mem_upsert.mp hother
      · exact absurd (howner other hold' hsame.symm) hkey'
      · rfl

theorem JournalWrite.freshIds (h : JournalWrite generation? journal next)
    (hfresh : journal.FreshIds) : next.FreshIds := by
  cases h with
  | setStatus f hkey hid hshape hpending =>
      refine ⟨fun event hevent => ?_, fun event hevent other hother hsame => ?_⟩
      · obtain ⟨old, hold, rfl⟩ := List.mem_map.mp hevent
        rw [hid]
        exact hfresh.below old hold
      · obtain ⟨old, hold, rfl⟩ := List.mem_map.mp hevent
        obtain ⟨old', hold', rfl⟩ := List.mem_map.mp hother
        rw [hid, hid] at hsame
        rw [hfresh.unique old hold old' hold' hsame]
  | rewrite row new hrow hid hkey hshape hgeneration =>
      refine hfresh.upsert le_rfl (hid ▸ hfresh.below row hrow) fun event hevent hsame => ?_
      rw [hfresh.unique event hevent row hrow (hsame.trans hid), hkey]
  | append row hid hkey hshape =>
      refine hfresh.upsert (Nat.le_succ _) (by omega) fun event hevent hsame => ?_
      have := hfresh.below event hevent
      omega
  | skip ids =>
      exact ⟨fun event hevent => Nat.lt_add_right ids (hfresh.below event hevent), hfresh.unique⟩

theorem JournalWrites.freshIds (h : JournalWrites generation? journal next)
    (hfresh : journal.FreshIds) : next.FreshIds := by
  induction h with
  | refl => exact hfresh
  | tail _ hlast ih => exact hlast.freshIds ih

/-- The events of the journal are well shaped. -/
def Journal.Shaped (journal : Journal) : Prop := ∀ event ∈ journal.events.rows, event.IsShaped

theorem JournalWrite.shaped (h : JournalWrite generation? journal next) (hshaped : journal.Shaped) :
    next.Shaped := by
  cases h with
  | setStatus f hkey hid hshape hpending =>
      intro event hevent
      obtain ⟨old, hold, rfl⟩ := List.mem_map.mp hevent
      exact hshape old (hshaped old hold)
  | rewrite row new hrow hid hkey hshape hgeneration =>
      intro event hevent
      obtain ⟨hold, -⟩ | rfl := Table.mem_upsert.mp hevent
      · exact hshaped event hold
      · exact hshape
  | append row hid hkey hshape =>
      intro event hevent
      obtain ⟨hold, -⟩ | rfl := Table.mem_upsert.mp hevent
      · exact hshaped event hold
      · exact hshape
  | skip ids => exact hshaped

theorem JournalWrites.shaped (h : JournalWrites generation? journal next)
    (hshaped : journal.Shaped) : next.Shaped := by
  induction h with
  | refl => exact hshaped
  | tail _ hlast ih => exact hlast.shaped ih

/-- An event keeps its id at its generation and path. -/
theorem JournalWrite.event_later (h : JournalWrite generation? journal next)
    {event : LocalChangeEventRow} (hevent : event ∈ journal.events.rows) :
    ∃ later ∈ next.events.rows, later.id = event.id ∧ later.journalKey = event.journalKey := by
  cases h with
  | setStatus f hkey hid hshape hpending =>
      exact ⟨f event, List.mem_map.mpr ⟨event, hevent, rfl⟩, hid event, hkey event⟩
  | rewrite row new hrow hid hkey hshape hgeneration =>
      by_cases hsame : event.journalKey = new.journalKey
      · obtain rfl := journal.events.eq_of_key hevent hrow (hsame.trans hkey)
        exact ⟨new, Table.mem_upsert.mpr (Or.inr rfl), hid, hkey⟩
      · exact ⟨event, Table.mem_upsert.mpr (Or.inl ⟨hevent, hsame⟩), rfl, rfl⟩
  | append row hid hkey hshape =>
      refine ⟨event, Table.mem_upsert.mpr (Or.inl ⟨hevent, ?_⟩), rfl, rfl⟩
      exact Table.find?_eq_none_iff.mp hkey event hevent
  | skip ids => exact ⟨event, hevent, rfl, rfl⟩

theorem JournalWrites.event_later (h : JournalWrites generation? journal next)
    {event : LocalChangeEventRow} (hevent : event ∈ journal.events.rows) :
    ∃ later ∈ next.events.rows, later.id = event.id ∧ later.journalKey = event.journalKey := by
  induction h with
  | refl => exact ⟨event, hevent, rfl, rfl⟩
  | tail _ hlast ih =>
      obtain ⟨middle, hmiddle, hid, hkey⟩ := ih
      obtain ⟨later, hlater, hid', hkey'⟩ := hlast.event_later hmiddle
      exact ⟨later, hlater, hid'.trans hid, hkey'.trans hkey⟩

theorem localEvent?_eq_some_iff {store : RootStore} (hunique : ∀ event ∈ store.localEvents.rows,
      ∀ other ∈ store.localEvents.rows, event.id = other.id → event = other)
    {id : ℕ} {event : LocalChangeEventRow} :
    store.localEvent? id = some event ↔ event ∈ store.localEvents.rows ∧ event.id = id := by
  constructor
  · intro h
    exact ⟨List.mem_of_find?_eq_some h, by simpa using List.find?_some h⟩
  · intro ⟨hevent, hid⟩
    obtain ⟨found, hfound⟩ : ∃ found, store.localEvent? id = some found :=
      Option.isSome_iff_exists.mp (List.find?_isSome.mpr ⟨event, hevent, by simpa using hid⟩)
    have hfoundId : found.id = id := by simpa using List.find?_some hfound
    rw [hfound, hunique found (List.mem_of_find?_eq_some hfound) event hevent
      (hfoundId.trans hid.symm)]

/-! ## Local operations -/

/-- The intents of a root, with its mode and its settlements. -/
structure WriteSide where
  mode : SyncMode
  intents : Table RemoteWriteIntentRow.id
  nextIntentId : ℕ
  settlements : Table RemoteWriteSettlementRow.intentId

/-- The write side of a root. -/
def RootStore.writeSide (store : RootStore) : WriteSide :=
  ⟨store.mode, store.intents, store.nextIntentId, store.settlements⟩

variable {store : RootStore}

theorem journalWrite_setEventStatus (selected : LocalChangeEventRow → Bool)
    (status : LocalChangeEventStatus)
    (hselected : ∀ event : LocalChangeEventRow, selected event = true → event.status = .pending) :
    JournalWrite generation? store.journal (store.setEventStatus selected status).journal := by
  refine .setStatus _ (fun event => ?_) (fun event => ?_) (fun event hevent => ?_)
    fun event hstatus => ?_
  · split <;> rfl
  · split <;> rfl
  · split <;> exact hevent
  · rw [if_neg fun hevent => hstatus (hselected event hevent)]

theorem pending_of_isPending {event : LocalChangeEventRow} {generation : ℕ}
    (h : event.isPending generation = true) :
    event.baselineGeneration = generation ∧ event.status = .pending := by
  simpa [LocalChangeEventRow.isPending] using h

theorem journalWrite_recordLocalChange (generation : ℕ) (event : LocalChangeEventInput) :
    JournalWrite (some generation) store.journal
      (store.recordLocalChange generation event).journal := by
  unfold RootStore.recordLocalChange
  split
  · next row hrow =>
      obtain ⟨hmem, hkey⟩ := Table.find?_eq_some_iff.mp hrow
      refine .rewrite row _ hmem rfl rfl event.shape ?_
      rw [show row.baselineGeneration = generation from congrArg Prod.fst hkey]
  · next hrow => exact .append _ rfl hrow event.shape

theorem journalWrites_foldl_record (generation : ℕ) (events : List LocalChangeEventInput) :
    ∀ store : RootStore, JournalWrites (some generation) store.journal
      (events.foldl (RootStore.recordLocalChange generation) store).journal := by
  induction events with
  | nil => exact fun _ => .refl
  | cons event rest ih =>
      intro store
      exact .head (journalWrite_recordLocalChange generation event) (ih _)

/-- What a journal pass checks, and the state it leaves. -/
theorem ensures_reconcile (store : RootStore) (generation itemCount : ℕ) (completedAt : Option Int)
    (events : List LocalChangeEventInput) :
    Ensures (store.reconcileLocalChangeJournal generation itemCount completedAt events) fun r =>
      (∃ state, store.localState = some state ∧ state.snapshotComplete = true ∧
        state.observationValid = true ∧ state.generation = generation) ∧
      r.1 = events.foldl (RootStore.recordLocalChange generation)
        (store.setEventStatus (·.isPending generation) .superseded) ∧
      r.1.localEvents.rows.countP (·.isPending generation) = events.length := by
  refine (ensures_toI64 generation).bind fun _ hgeneration => ?_
  subst hgeneration
  refine .after fun _ => .present fun state hstate => .check fun hguard => .check fun hcount => ?_
  simp only [Bool.or_eq_false_iff, bne_eq_false_iff_eq, Bool.not_eq_false'] at hguard hcount
  obtain ⟨⟨⟨⟨hcomplete, hvalid⟩, hgeneration⟩, -⟩, -⟩ := hguard
  exact .ok ⟨⟨state, hstate, hcomplete, hvalid, hgeneration⟩, rfl, hcount⟩

/-- The local operations that put a new baseline in place of the old one. -/
def LocalOperation.replacesBaseline : LocalOperation → Bool
  | .commitSnapshot _ => true
  | _ => false

/-- **A local operation writes to the journal at the generation of the baseline**, and leaves the
    intents and the settlements alone. -/
theorem LocalOperation.ensures_journal (store : RootStore) (op : LocalOperation) :
    Ensures (op.apply store) fun next =>
      JournalWrites store.generation? store.journal next.journal ∧
        next.writeSide = store.writeSide := by
  cases op with
  | beginStaging => exact .ok ⟨.refl, rfl⟩
  | stageItems items => exact ensures_stateOf (.after fun _ => .ok ⟨.refl, rfl⟩)
  | commitSnapshot completedAt =>
      refine ensures_stateOf (.after fun itemCount => .ok ⟨.single ?_, rfl⟩)
      exact journalWrite_setEventStatus (·.status == .pending) .superseded
        fun event hevent => by simpa using hevent
  | invalidateBaseline =>
      refine .ok ?_
      unfold RootStore.invalidateLocalObservationBaseline
      split
      · split <;> exact ⟨.refl, rfl⟩
      · exact ⟨.refl, rfl⟩
  | reconcileJournal generation itemCount completedAt events =>
      refine ensures_stateOf ((ensures_reconcile store generation itemCount completedAt events).mono ?_)
      intro r ⟨⟨state, hstate, _, _, hgeneration⟩, hr, _⟩
      -- a pass first supersedes the pending events of the generation, then records its own
      have hgeneration? : store.generation? = some generation := by
        rw [RootStore.generation?, hstate, Option.map_some, hgeneration]
      rw [hr, hgeneration?]
      refine ⟨.head ?_ (journalWrites_foldl_record generation events _), ?_⟩
      · exact journalWrite_setEventStatus _ _ fun event hevent => (pending_of_isPending hevent).2
      · obtain ⟨localEvents, nextEventId, h⟩ := foldl_recordLocalChange_eq generation events
          (store.setEventStatus (·.isPending generation) .superseded)
        rw [h]
        rfl

/-- No local operation but a snapshot moves the baseline. -/
theorem LocalOperation.ensures_baseline (store : RootStore) (op : LocalOperation)
    (hop : op.replacesBaseline = false) :
    Ensures (op.apply store) fun next =>
      next.localItems = store.localItems ∧ next.generation? = store.generation? := by
  cases op with
  | beginStaging => exact .ok ⟨rfl, rfl⟩
  | stageItems items => exact ensures_stateOf (.after fun _ => .ok ⟨rfl, rfl⟩)
  | commitSnapshot completedAt => cases hop
  | invalidateBaseline =>
      refine .ok ?_
      unfold RootStore.invalidateLocalObservationBaseline RootStore.generation?
      split
      · next state hstate => split <;> simp [hstate]
      · exact ⟨rfl, rfl⟩
  | reconcileJournal generation itemCount completedAt events =>
      refine ensures_stateOf ((ensures_reconcile store generation itemCount completedAt events).mono ?_)
      intro r ⟨_, hr, _⟩
      obtain ⟨localEvents, nextEventId, h⟩ := foldl_recordLocalChange_eq generation events
        (store.setEventStatus (·.isPending generation) .superseded)
      rw [hr, h]
      exact ⟨rfl, rfl⟩

end NubiSync
