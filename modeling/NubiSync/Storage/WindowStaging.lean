import Mathlib.Data.List.Chain
import NubiSync.Storage.WindowTables

set_option autoImplicit false

/-! # Staging is exact

Whoever stages pages, in whatever order and however often, the open window holds the changes of the
pages that were accepted since it was opened, numbered without gaps and each as it was but for
`modified_unix_ms`; the accepted pages form one chain of continuations that ends at the checkpoint
(`staging_exact`). `stagePage_represents` is the refinement: the tables stage what `RootStore` stages. -/

namespace NubiSync

open Checks

/-! ## Rows and changes -/

/-- A change without its modification time. -/
def RemoteChange.erased : RemoteChange → RemoteChange
  | .delete remoteId => .delete remoteId
  | .upsert item => .upsert { item with modifiedUnixMs := none }

/-- The row of a change under a number. -/
def eventRow (sequence : ℕ) : RemoteChange → WindowEventRow
  | .delete remoteId => ⟨sequence, .delete, remoteId, none, none, none, none, false⟩
  | .upsert item => ⟨sequence, .upsert, item.remoteId, item.parentRemoteId, some item.name,
      some item.kind, item.sizeBytes, item.trashed⟩

@[simp] theorem eventRow_sequence (sequence : ℕ) (change : RemoteChange) :
    (eventRow sequence change).sequence = sequence := by
  cases change <;> rfl

/-- A row is read back as its change, without the modification time. -/
@[simp] theorem eventRow_change (sequence : ℕ) (change : RemoteChange) :
    (eventRow sequence change).change = .ok change.erased := by
  cases change <;> rfl

/-- What the window keeps of a change is the change without its modification time. -/
theorem windowEvent_eq_ok {change event : RemoteChange} (h : change.windowEvent = .ok event) :
    event = change.erased := by
  cases change with
  | delete remoteId =>
      obtain ⟨-, h⟩ := (refuseIf_bind_eq_ok _ _ _ _).mp h
      exact (Except.ok.inj h).symm
  | upsert item =>
      obtain ⟨-, h⟩ := (refuseIf_bind_eq_ok _ _ _ _).mp h
      obtain ⟨size, hsize, h⟩ := bind_eq_ok.mp h
      obtain rfl := (toI64?_eq_ok_iff.mp hsize).2
      exact (Except.ok.inj h).symm

theorem windowEventRow_eq (sequence : ℕ) (change : RemoteChange) :
    windowEventRow sequence change = change.windowEvent.map fun _ => eventRow sequence change := by
  cases change with
  | delete remoteId =>
      rw [windowEventRow, RemoteChange.windowEvent]
      cases remoteId.isBlank <;> rfl
  | upsert item =>
      rw [windowEventRow, RemoteChange.windowEvent]
      cases hblank : (item.remoteId.isBlank || item.name.isEmpty) with
      | true => rfl
      | false =>
          cases hsize : toI64? item.sizeBytes with
          | error error => rfl
          | ok size =>
              obtain rfl := (toI64?_eq_ok_iff.mp hsize).2
              rfl

theorem erased_of_mapM {changes events : List RemoteChange}
    (h : changes.mapM RemoteChange.windowEvent = .ok events) :
    events = changes.map RemoteChange.erased := by
  induction changes generalizing events with
  | nil => exact (Except.ok.inj h).symm
  | cons change rest ih =>
      rw [List.mapM_cons] at h
      obtain ⟨event, hevent, h⟩ := bind_eq_ok.mp h
      obtain ⟨others, hothers, h⟩ := bind_eq_ok.mp h
      obtain rfl := Except.ok.inj h
      rw [List.map_cons, windowEvent_eq_ok hevent, ih hothers]

/-! ## Numbered rows -/

/-- The rows of consecutive changes, from a number on. -/
def numberedRows (first : ℕ) (changes : List RemoteChange) : List WindowEventRow :=
  (changes.zipIdx first).map fun numbered => eventRow numbered.2 numbered.1

@[simp] theorem numberedRows_nil (first : ℕ) : numberedRows first [] = [] := rfl

@[simp] theorem numberedRows_cons (first : ℕ) (change : RemoteChange) (rest : List RemoteChange) :
    numberedRows first (change :: rest) = eventRow first change :: numberedRows (first + 1) rest := rfl

theorem numberedRows_append (first : ℕ) (changes more : List RemoteChange) :
    numberedRows first (changes ++ more)
      = numberedRows first changes ++ numberedRows (first + changes.length) more := by
  simp [numberedRows, List.zipIdx_append]

@[simp] theorem length_numberedRows (first : ℕ) (changes : List RemoteChange) :
    (numberedRows first changes).length = changes.length := by
  simp [numberedRows]

theorem lt_of_mem_numberedRows {first : ℕ} {changes : List RemoteChange} {row : WindowEventRow}
    (h : row ∈ numberedRows first changes) :
    first ≤ row.sequence ∧ row.sequence < first + changes.length := by
  induction changes generalizing first with
  | nil => simp at h
  | cons change rest ih =>
      rw [numberedRows_cons, List.mem_cons] at h
      rw [List.length_cons]
      rcases h with rfl | h
      · rw [eventRow_sequence]
        omega
      · have hbounds := ih h
        omega

theorem pairwise_numberedRows (first : ℕ) (changes : List RemoteChange) :
    (numberedRows first changes).Pairwise fun left right => left.sequence ≤ right.sequence := by
  induction changes generalizing first with
  | nil => exact List.Pairwise.nil
  | cons change rest ih =>
      refine List.Pairwise.cons (fun row hrow => ?_) (ih _)
      have hbounds := lt_of_mem_numberedRows hrow
      rw [eventRow_sequence]
      omega

/-- Numbered rows are read back as the changes they were made of. -/
theorem mapM_change_numberedRows (first : ℕ) (changes : List RemoteChange) :
    (numberedRows first changes).mapM WindowEventRow.change
      = .ok (changes.map RemoteChange.erased) := by
  induction changes generalizing first with
  | nil => rfl
  | cons change rest ih =>
      rw [numberedRows_cons, List.mapM_cons, eventRow_change, ok_bind, ih]
      rfl

/-! ## Inserting a page -/

namespace WindowTables

/-- The rows of the window are those of its changes, numbered from zero. -/
def Holds (tables : WindowTables) (held : List RemoteChange) : Prop :=
  tables.events.rows = numberedRows 0 held

theorem Holds.changes_eq {tables : WindowTables} {held : List RemoteChange} (h : tables.Holds held) :
    tables.changes = .ok (held.map RemoteChange.erased) := by
  rw [changes, h, (pairwise_numberedRows 0 held).insertionSort_eq, mapM_change_numberedRows]

theorem absent_of_numbered {held : List RemoteChange} {events : Table WindowEventRow.sequence}
    (hrows : events.rows = numberedRows 0 held) (change : RemoteChange) :
    events.find? (eventRow held.length change).sequence = none := by
  rw [Table.find?_eq_none_iff, hrows, eventRow_sequence]
  intro row hrow
  have hbounds := lt_of_mem_numberedRows hrow
  omega

theorem rows_upsert_next {held : List RemoteChange} {events : Table WindowEventRow.sequence}
    (hrows : events.rows = numberedRows 0 held) (change : RemoteChange) :
    (events.upsert (eventRow held.length change)).rows = numberedRows 0 (held ++ [change]) := by
  rw [Table.rows_upsert_of_absent (absent_of_numbered hrows change), hrows, numberedRows_append,
    Nat.zero_add]
  rfl

/-- One change is inserted under the next number, or refused as the window refuses it. -/
theorem insertEvent_eq {held : List RemoteChange} {events : Table WindowEventRow.sequence}
    (hrows : events.rows = numberedRows 0 held) {changeCount offset : ℕ}
    (hcount : held.length = changeCount + offset) (hfits : changeCount + offset < 2 ^ 63)
    (change : RemoteChange) :
    insertEvent changeCount events (change, offset)
      = change.windowEvent.map fun _ => events.upsert (eventRow held.length change) := by
  rw [insertEvent, toI64_of_lt (by omega), ok_bind, checkedAdd, toI64_of_lt hfits, ok_bind, ← hcount,
    windowEventRow_eq]
  cases change.windowEvent with
  | error error => rfl
  | ok event => exact insertNew_eq_ok_iff.mpr ⟨absent_of_numbered hrows change, rfl⟩

/-- **The loop over a page**: it appends the changes under the next numbers, or fails as the checks of
    the changes fail. -/
theorem insertEvents_eq {changeCount : ℕ} (page : List RemoteChange) (offset : ℕ)
    {held : List RemoteChange} {events : Table WindowEventRow.sequence}
    (hrows : events.rows = numberedRows 0 held) (hcount : held.length = changeCount + offset)
    (hfits : changeCount + offset + page.length < 2 ^ 63) :
    (∀ checked, page.mapM RemoteChange.windowEvent = .ok checked →
      ∃ inserted, (page.zipIdx offset).foldlM (insertEvent changeCount) events = .ok inserted ∧
        inserted.rows = numberedRows 0 (held ++ page)) ∧
    (∀ error, page.mapM RemoteChange.windowEvent = .error error →
      (page.zipIdx offset).foldlM (insertEvent changeCount) events = .error error) := by
  induction page generalizing offset held events with
  | nil =>
      refine ⟨fun _ _ => ⟨events, rfl, by rw [List.append_nil, hrows]⟩, fun _ h => ?_⟩
      cases h
  | cons change rest ih =>
      rw [List.length_cons] at hfits
      have hinsert := insertEvent_eq hrows hcount (by omega) change
      rw [List.zipIdx_cons, List.foldlM_cons, List.mapM_cons, hinsert]
      cases hevent : change.windowEvent with
      | error error =>
          refine ⟨fun _ h => ?_, fun _ h => ?_⟩
          · cases h
          · obtain rfl := Except.error.inj h
            rfl
      | ok event =>
          have hrest := ih (offset + 1) (rows_upsert_next hrows change)
            (by rw [List.length_append, List.length_singleton]; omega) (by omega)
          rw [List.append_assoc, List.singleton_append] at hrest
          constructor
          · intro checked hchecked
            obtain ⟨_, hevents, hchecked⟩ := bind_eq_ok.mp hchecked
            obtain ⟨others, hothers, -⟩ := bind_eq_ok.mp hchecked
            exact hrest.1 others hothers
          · -- the event itself passed, so the error is that of a later one
            intro error herror
            cases hothers : rest.mapM RemoteChange.windowEvent with
            | error other =>
                rw [hothers] at herror
                obtain rfl := Except.error.inj herror
                exact hrest.2 _ hothers
            | ok others =>
                rw [hothers] at herror
                cases herror

/-! ## An accepted page -/

/-- The counts the open window has come to. -/
def counted (tables : WindowTables) : ℕ × ℕ :=
  tables.windowState.elim (0, 0) fun window => (window.pageCount, window.changeCount)

/-- What accepting a page says of the page, and what it leaves. -/
structure Accepted (tables : WindowTables) (held : List RemoteChange) (baseCursor : ChangeCursor)
    (requested : Option ContinuationToken) (page : ChangePage) (staged : WindowTables)
    (window : SyncRootChangeWindowState) : Prop where
  boundary : page.continuation.isSome ≠ page.checkpoint.isSome
  open_window : ∀ stored, tables.windowState = some stored →
    stored.checkpoint = none ∧ stored.baseCursor = baseCursor ∧ stored.continuation = requested
  first_page : tables.windowState = none → requested = none
  fresh_token : ∀ token, page.continuation = some token → token ∉ tables.tokens
  window_eq : window = ⟨baseCursor, page.continuation, page.checkpoint, tables.counted.1 + 1,
    tables.counted.2 + page.changes.length⟩
  state_eq : staged.windowState = some window
  remote_eq : staged.remoteState = tables.remoteState
  tokens_eq : staged.tokens = tables.tokens ++ page.continuation.toList
  holds : staged.Holds (held ++ page.changes)

theorem counts_eq_ok {tables : WindowTables} {baseCursor : ChangeCursor}
    {requested : Option ContinuationToken} {counts : ℕ × ℕ}
    (h : tables.counts baseCursor requested = .ok counts) :
    counts = tables.counted ∧
      (∀ stored, tables.windowState = some stored → stored.checkpoint = none ∧
        stored.baseCursor = baseCursor ∧ stored.continuation = requested) ∧
      (tables.windowState = none → requested = none) := by
  unfold WindowTables.counts at h
  unfold counted
  cases hwindow : tables.windowState with
  | none =>
      rw [hwindow] at h
      obtain ⟨hrequested, h⟩ := (refuseIf_bind_eq_ok _ _ _ _).mp h
      refine ⟨(Except.ok.inj h).symm, fun stored hstored => ?_, fun _ => by simpa using hrequested⟩
      cases hstored
  | some stored =>
      rw [hwindow] at h
      obtain ⟨hcheckpoint, h⟩ := (refuseIf_bind_eq_ok _ _ _ _).mp h
      obtain ⟨hbase, h⟩ := (refuseIf_bind_eq_ok _ _ _ _).mp h
      obtain ⟨hcontinuation, h⟩ := (refuseIf_bind_eq_ok _ _ _ _).mp h
      refine ⟨(Except.ok.inj h).symm, fun other hother => ?_, fun hnone => ?_⟩
      · obtain rfl := Option.some.inj hother
        exact ⟨by simpa using hcheckpoint, by simpa using hbase, by simpa using hcontinuation⟩
      · cases hnone

theorem insertToken_eq_ok {tables : WindowTables} {continuation : Option ContinuationToken}
    {tokens : List ContinuationToken} (h : tables.insertToken continuation = .ok tokens) :
    (∀ token, continuation = some token → token ∉ tables.tokens) ∧
      tokens = tables.tokens ++ continuation.toList := by
  cases continuation with
  | none => exact ⟨fun _ hsome => (by cases hsome), by simpa using (Except.ok.inj h).symm⟩
  | some token =>
      obtain ⟨hfresh, h⟩ := (refuseIf_bind_eq_ok _ _ _ _).mp h
      refine ⟨fun other hother => ?_, (Except.ok.inj h).symm⟩
      obtain rfl := Option.some.inj hother
      simpa using hfresh

/-- What a page that is accepted does. -/
theorem stagePage_eq_ok {tables staged : WindowTables} {held : List RemoteChange}
    {baseCursor : ChangeCursor} {requested : Option ContinuationToken} {page : ChangePage}
    {window : SyncRootChangeWindowState} (hheld : tables.Holds held)
    (hcount : tables.counted.2 = held.length)
    (h : tables.stagePage baseCursor requested page = .ok (staged, window)) :
    Accepted tables held baseCursor requested page staged window := by
  unfold stagePage at h
  obtain ⟨hboundary, h⟩ := (refuseIf_bind_eq_ok _ _ _ _).mp h
  obtain ⟨-, -, h⟩ := bind_eq_ok.mp h
  obtain ⟨⟨pageCount, changeCount⟩, hcounts, h⟩ := bind_eq_ok.mp h
  obtain ⟨hcounted, hopen, hfirst⟩ := counts_eq_ok hcounts
  obtain ⟨nextPageCount, hpages, h⟩ := bind_eq_ok.mp h
  obtain ⟨-, h⟩ := (refuseIf_bind_eq_ok _ _ _ _).mp h
  obtain ⟨pageChangeCount, hlength, h⟩ := bind_eq_ok.mp h
  obtain ⟨nextChangeCount, hchanges, h⟩ := bind_eq_ok.mp h
  obtain ⟨hlimit, h⟩ := (refuseIf_bind_eq_ok _ _ _ _).mp h
  obtain ⟨events, hevents, h⟩ := bind_eq_ok.mp h
  obtain ⟨tokens, htokens, h⟩ := bind_eq_ok.mp h
  obtain ⟨hfresh, htokens⟩ := insertToken_eq_ok htokens
  obtain ⟨rfl, rfl⟩ := Prod.mk.inj (Except.ok.inj h)
  obtain rfl := (toI64_eq_ok_iff.mp hpages).2
  obtain rfl := (toI64_eq_ok_iff.mp hlength).2
  obtain ⟨hfits, rfl⟩ := toI64_eq_ok_iff.mp hchanges
  rw [← hcounted] at hcount
  have hloop := insertEvents_eq page.changes 0 hheld hcount.symm
    (by simpa using hfits)
  have hrows : events.rows = numberedRows 0 (held ++ page.changes) := by
    cases hchecked : page.changes.mapM RemoteChange.windowEvent with
    | error error =>
        have hfailed := hloop.2 error hchecked
        rw [hevents] at hfailed
        cases hfailed
    | ok checked =>
        obtain ⟨inserted, hinserted, hrows⟩ := hloop.1 checked hchecked
        rw [hevents] at hinserted
        obtain rfl := Except.ok.inj hinserted
        exact hrows
  refine ⟨by simpa using hboundary, hopen, hfirst, hfresh, ?_, ?_, rfl, htokens, hrows⟩
  · rw [← hcounted]
  · -- an open window has the base cursor of the page
    show some (tables.upsertState _) = _
    unfold upsertState
    cases hwindow : tables.windowState with
    | none => rfl
    | some stored =>
        obtain rfl := (hopen stored hwindow).2.1
        rfl

end WindowTables

/-! ## Histories of a window -/

/-- A page, with the base cursor and the continuation it was staged with. -/
structure StagedPage where
  baseCursor : ChangeCursor
  requested : Option ContinuationToken
  page : ChangePage

/-- What happens to a window: a page is staged by some client; the window is cleared by a discard, a
    window commit or a rebaseline; the inventory state is changed by a snapshot or a commit. -/
inductive WindowCall where
  | stagePage (baseCursor : ChangeCursor) (requested : Option ContinuationToken) (page : ChangePage)
  | clear
  | setRemoteState (remoteState : Option RemoteInventoryStateRow)

/-- The tables, with the pages accepted since the window was opened. -/
structure WindowHistory where
  tables : WindowTables
  accepted : List StagedPage

namespace WindowHistory

/-- A root without an open window. -/
def start (remoteState : Option RemoteInventoryStateRow) : WindowHistory :=
  ⟨⟨remoteState, none, ∅, []⟩, []⟩

/-- The history after a call; a page that is rejected changes nothing. -/
def after (history : WindowHistory) : WindowCall → WindowHistory
  | .stagePage baseCursor requested page =>
      match history.tables.stagePage baseCursor requested page with
      | .ok (tables, _) => ⟨tables, history.accepted ++ [⟨baseCursor, requested, page⟩]⟩
      | .error _ => history
  | .clear => ⟨history.tables.clear, []⟩
  | .setRemoteState remoteState =>
      { history with tables := { history.tables with remoteState := remoteState } }

/-- The changes of the accepted pages, in order. -/
def acceptedChanges (history : WindowHistory) : List RemoteChange :=
  history.accepted.flatMap (·.page.changes)

/-- The tokens of the accepted pages, in order. -/
def acceptedTokens (history : WindowHistory) : List ContinuationToken :=
  history.accepted.filterMap (·.page.continuation)

/-- A page follows another: it was requested with the continuation of the other, which was not the last
    one. -/
def Follows (earlier later : StagedPage) : Prop :=
  later.requested = earlier.page.continuation ∧ earlier.page.checkpoint = none ∧
    later.baseCursor = earlier.baseCursor

/-- The tables are in step with the accepted pages. -/
structure InStep (history : WindowHistory) : Prop where
  holds : history.tables.Holds history.acceptedChanges
  tokens_eq : history.tables.tokens = history.acceptedTokens
  tokens_nodup : history.acceptedTokens.Nodup
  first : ∀ staged ∈ history.accepted.head?, staged.requested = none
  chain : history.accepted.IsChain Follows
  window_eq : history.tables.windowState = history.accepted.getLast?.map fun staged =>
    ⟨staged.baseCursor, staged.page.continuation, staged.page.checkpoint, history.accepted.length,
      history.acceptedChanges.length⟩

theorem InStep.start (remoteState : Option RemoteInventoryStateRow) :
    (WindowHistory.start remoteState).InStep where
  holds := rfl
  tokens_eq := rfl
  tokens_nodup := List.nodup_nil
  first := fun _ h => by cases h
  chain := List.IsChain.nil
  window_eq := rfl

theorem InStep.counted_eq {history : WindowHistory} (h : history.InStep) :
    history.tables.counted = (history.accepted.length, history.acceptedChanges.length) := by
  rw [WindowTables.counted, h.window_eq]
  cases hlast : history.accepted.getLast? with
  | none =>
      have hnil := List.getLast?_eq_none_iff.mp hlast
      simp [acceptedChanges, hnil]
  | some last => rfl

theorem InStep.accept {history : WindowHistory} (h : history.InStep) {baseCursor : ChangeCursor}
    {requested : Option ContinuationToken} {page : ChangePage} {staged : WindowTables}
    {window : SyncRootChangeWindowState}
    (hstage : history.tables.stagePage baseCursor requested page = .ok (staged, window)) :
    InStep ⟨staged, history.accepted ++ [⟨baseCursor, requested, page⟩]⟩ := by
  have haccepted := WindowTables.stagePage_eq_ok h.holds (by rw [h.counted_eq]) hstage
  have hchanges : acceptedChanges ⟨staged, history.accepted ++ [⟨baseCursor, requested, page⟩]⟩
      = history.acceptedChanges ++ page.changes := by
    simp [acceptedChanges]
  have htokens : acceptedTokens ⟨staged, history.accepted ++ [⟨baseCursor, requested, page⟩]⟩
      = history.acceptedTokens ++ page.continuation.toList := by
    cases hcontinuation : page.continuation <;> simp [acceptedTokens, hcontinuation]
  constructor
  case holds => rw [hchanges]; exact haccepted.holds
  case tokens_eq => rw [htokens, haccepted.tokens_eq, h.tokens_eq]
  case tokens_nodup =>
    rw [htokens, List.nodup_append]
    refine ⟨h.tokens_nodup, ?_, ?_⟩
    · cases page.continuation <;> simp
    · intro token htoken other hother heq
      obtain rfl := heq
      exact haccepted.fresh_token token (by simpa using hother) (h.tokens_eq ▸ htoken)
  case first =>
    intro first hfirst
    cases haccepts : history.accepted with
    | nil =>
        simp only [haccepts, List.nil_append, List.head?_cons, Option.mem_some_iff] at hfirst
        subst hfirst
        refine haccepted.first_page ?_
        rw [h.window_eq, haccepts]
        rfl
    | cons earlier rest =>
        refine h.first first ?_
        simpa [haccepts] using hfirst
  case chain =>
    refine h.chain.append (List.isChain_singleton _) fun last hlast next hnext => ?_
    obtain rfl : _ = next := by simpa using hnext
    have hwindow := h.window_eq
    rw [Option.mem_def.mp hlast] at hwindow
    obtain ⟨hcheckpoint, hbase, hcontinuation⟩ := haccepted.open_window _ hwindow
    exact ⟨hcontinuation.symm, hcheckpoint, hbase.symm⟩
  case window_eq =>
    rw [haccepted.state_eq, haccepted.window_eq, h.counted_eq, hchanges]
    simp

theorem InStep.after {history : WindowHistory} (h : history.InStep) (call : WindowCall) :
    (history.after call).InStep := by
  cases call with
  | stagePage baseCursor requested page =>
      rw [WindowHistory.after]
      split
      · next staged window hstage => exact h.accept hstage
      · exact h
  | clear => exact InStep.start history.tables.remoteState
  | setRemoteState remoteState =>
      exact ⟨h.holds, h.tokens_eq, h.tokens_nodup, h.first, h.chain, h.window_eq⟩

theorem InStep.run {history : WindowHistory} (h : history.InStep) (calls : List WindowCall) :
    (calls.foldl WindowHistory.after history).InStep := by
  induction calls generalizing history with
  | nil => exact h
  | cons call rest ih => exact ih (h.after call)

/-! ## Exactness -/

/-- What a window and its history have to do with each other. -/
structure Exact (history : WindowHistory) : Prop where
  /-- What is read back is what was accepted, without the modification times. -/
  read_back : history.tables.changes = .ok (history.acceptedChanges.map RemoteChange.erased)
  /-- The counters count the accepted changes and pages. -/
  counters : ∀ window, history.tables.windowState = some window →
    window.changeCount = history.acceptedChanges.length ∧
      window.pageCount = history.accepted.length
  closed_iff : history.tables.windowState = none ↔ history.accepted = []
  /-- Every accepted page was requested with the continuation of the one before it, the first with
      none. -/
  first : ∀ staged ∈ history.accepted.head?, staged.requested = none
  chain : history.accepted.IsChain Follows
  /-- No token is accepted twice. -/
  tokens : history.acceptedTokens.Nodup
  /-- Only the last accepted page can be a checkpoint, and none is accepted after it. -/
  before_checkpoint : ∀ staged ∈ history.accepted.dropLast, staged.page.checkpoint = none
  after_checkpoint : ∀ last ∈ history.accepted.getLast?, last.page.checkpoint.isSome = true →
    ∀ baseCursor requested page, ∃ error,
      history.tables.stagePage baseCursor requested page = .error error
  /-- A rejected page leaves everything as it was. -/
  rejected : ∀ baseCursor requested page error,
    history.tables.stagePage baseCursor requested page = .error error →
      history.after (.stagePage baseCursor requested page) = history

theorem checkpoint_of_chain {staged : List StagedPage} (h : staged.IsChain Follows) :
    ∀ earlier ∈ staged.dropLast, earlier.page.checkpoint = none := by
  induction staged with
  | nil => simp
  | cons first rest ih =>
      cases rest with
      | nil => simp
      | cons second rest =>
          obtain ⟨hfollows, hrest⟩ := List.isChain_cons_cons.mp h
          rw [List.dropLast_cons_cons]
          intro earlier hearlier
          rcases List.mem_cons.mp hearlier with rfl | hearlier
          · exact hfollows.2.1
          · exact ih hrest earlier hearlier

theorem InStep.exact {history : WindowHistory} (h : history.InStep) : history.Exact where
  read_back := h.holds.changes_eq
  counters window hwindow := by
    rw [h.window_eq, Option.map_eq_some_iff] at hwindow
    obtain ⟨last, -, rfl⟩ := hwindow
    exact ⟨rfl, rfl⟩
  closed_iff := by
    rw [h.window_eq, Option.map_eq_none_iff, List.getLast?_eq_none_iff]
  first := h.first
  chain := h.chain
  tokens := h.tokens_nodup
  before_checkpoint := checkpoint_of_chain h.chain
  after_checkpoint last hlast hcheckpoint baseCursor requested page := by
    cases hstage : history.tables.stagePage baseCursor requested page with
    | error error => exact ⟨error, rfl⟩
    | ok result =>
        have haccepted := WindowTables.stagePage_eq_ok h.holds (by rw [h.counted_eq]) hstage
        have hwindow := h.window_eq
        rw [Option.mem_def.mp hlast] at hwindow
        have hnone : last.page.checkpoint = none := (haccepted.open_window _ hwindow).1
        rw [hnone] at hcheckpoint
        cases hcheckpoint
  rejected baseCursor requested page error herror := by
    rw [WindowHistory.after, herror]

end WindowHistory

/-- **Staging is exact**: after any sequence of calls by any clients, on a root that started without an
    open window. -/
theorem staging_exact (remoteState : Option RemoteInventoryStateRow) (calls : List WindowCall) :
    (calls.foldl WindowHistory.after (WindowHistory.start remoteState)).Exact :=
  ((WindowHistory.InStep.start remoteState).run calls).exact

/-! A file appears on a first page and is gone on a second; between them another client asks for the first
page again. -/

def fileCameAndWent : List WindowCall :=
  [.stagePage (.ofChar '0') none
      ⟨[.upsert ⟨['a'], some ['r'], ['a'], .file, some 1, some 5, false⟩], some (.ofChar 't'), none⟩,
    .stagePage (.ofChar '0') none ⟨[.delete ['b']], none, some (.ofChar '1')⟩,
    .stagePage (.ofChar '0') (some (.ofChar 't')) ⟨[.delete ['a']], none, some (.ofChar '1')⟩]

def cameAndWentHistory : WindowHistory :=
  fileCameAndWent.foldl WindowHistory.after
    (.start (some ⟨true, true, some (.ofChar '0'), some (.ofChar '0')⟩))

/-- The window holds the changes of the two pages that were accepted, and takes no page more. -/
theorem staging_exact_two_pages :
    cameAndWentHistory.tables.changes =
        .ok [.upsert ⟨['a'], some ['r'], ['a'], .file, some 1, none, false⟩, .delete ['a']]
      ∧ (∃ window, cameAndWentHistory.tables.windowState = some window ∧
        window.changeCount = 2 ∧ window.pageCount = 2)
      ∧ (∀ baseCursor requested page, ∃ error,
        cameAndWentHistory.tables.stagePage baseCursor requested page = .error error ∧
          cameAndWentHistory.after (.stagePage baseCursor requested page) = cameAndWentHistory) := by
  have hexact : cameAndWentHistory.Exact := staging_exact _ fileCameAndWent
  have hopen : ∃ window, cameAndWentHistory.tables.windowState = some window :=
    Option.isSome_iff_exists.mp (by decide +kernel)
  obtain ⟨window, hwindow⟩ := hopen
  refine ⟨hexact.read_back, ⟨window, hwindow, hexact.counters window hwindow⟩,
    fun baseCursor requested page => ?_⟩
  obtain ⟨error, herror⟩ := hexact.after_checkpoint ⟨.ofChar '0', some (.ofChar 't'),
    ⟨[.delete ['a']], none, some (.ofChar '1')⟩⟩ rfl rfl baseCursor requested page
  exact ⟨error, herror, hexact.rejected _ _ _ _ herror⟩

/-! ## What `RootStore` keeps of the tables -/

/-- A store stands for the tables: the same rows, with the events as the list they are read back as. -/
structure WindowTables.Represents (tables : WindowTables) (held : List RemoteChange)
    (store : RootStore) : Prop where
  remote_eq : store.remoteState = tables.remoteState
  window_eq : store.windowState = tables.windowState
  tokens_eq : store.windowTokens = tables.tokens
  holds : tables.Holds held
  events_eq : store.windowEvents = held.map RemoteChange.erased
  count_eq : tables.counted.2 = held.length

theorem WindowTables.Represents.read_back {tables : WindowTables} {held : List RemoteChange}
    {store : RootStore} (h : tables.Represents held store) :
    tables.changes = .ok store.windowEvents := by
  rw [h.holds.changes_eq, h.events_eq]

/-- Both levels make the same checks of the base cursor. -/
theorem WindowTables.Represents.checkBaseCursor_eq {tables : WindowTables} {held : List RemoteChange}
    {store : RootStore} (h : tables.Represents held store) (baseCursor : ChangeCursor) :
    tables.checkBaseCursor baseCursor = (do
      let state ← store.snapshotState
      let durableCursor ← state.durableCursor
      refuseIf (durableCursor != baseCursor) .syncRootChangeWindowBaseCursorMismatch) := by
  rw [WindowTables.checkBaseCursor, RootStore.snapshotState, h.remote_eq]
  cases tables.remoteState with
  | none => rfl
  | some state =>
      cases hcomplete : state.snapshotComplete <;> simp [orRefuse, refuseIf, hcomplete]

theorem WindowTables.Represents.counts_eq {tables : WindowTables} {held : List RemoteChange}
    {store : RootStore} (h : tables.Represents held store) (baseCursor : ChangeCursor)
    (requested : Option ContinuationToken) :
    store.windowCounts baseCursor requested = tables.counts baseCursor requested := by
  cases hwindow : tables.windowState with
  | none => simp only [RootStore.windowCounts, WindowTables.counts, h.window_eq, hwindow]
  | some window => simp only [RootStore.windowCounts, WindowTables.counts, h.window_eq, hwindow]

theorem WindowTables.Represents.recordToken_eq {tables : WindowTables} {held : List RemoteChange}
    {store : RootStore} (h : tables.Represents held store) (continuation : Option ContinuationToken) :
    store.recordWindowToken continuation = tables.insertToken continuation := by
  cases continuation with
  | none => rw [RootStore.recordWindowToken, WindowTables.insertToken, h.tokens_eq]
  | some token => rw [RootStore.recordWindowToken, WindowTables.insertToken, h.tokens_eq]

theorem checkedAdd_toI64 {α : Type} (a b : ℕ) (next : ℕ → Except StorageError α) :
    (checkedAdd a b >>= next) = (do
      let b ← toI64 b
      let sum ← checkedAdd a b
      next sum) := by
  by_cases hb : b < 2 ^ 63
  · rw [toI64_of_lt hb, ok_bind]
  · have hsum : ¬ a + b < 2 ^ 63 := by omega
    rw [checkedAdd, toI64, toI64, if_neg hb, if_neg hsum]
    rfl

/-- The store after a page that the tables have accepted. -/
def RootStore.withPage (store : RootStore) (page : ChangePage) (staged : WindowTables)
    (window : SyncRootChangeWindowState) : RootStore :=
  { store with
    windowState := some window
    windowEvents := store.windowEvents ++ page.changes.map RemoteChange.erased
    windowTokens := staged.tokens }

theorem WindowTables.Represents.stage_eq {tables : WindowTables} {held : List RemoteChange}
    {store : RootStore} (h : tables.Represents held store) (baseCursor : ChangeCursor)
    (requested : Option ContinuationToken) (page : ChangePage) :
    store.stageChangeWindowPage baseCursor requested page
      = (tables.stagePage baseCursor requested page).map fun result =>
          (store.withPage page result.1 result.2, result.2) := by
  rw [RootStore.stageChangeWindowPage, WindowTables.stagePage, h.checkBaseCursor_eq]
  simp only [bind_assoc, h.counts_eq, h.recordToken_eq]
  refine bind_eq_map_bind fun _ _ => bind_eq_map_bind fun _ _ => bind_eq_map_bind fun _ _ => ?_
  refine bind_eq_map_bind fun _ _ => bind_eq_map_bind fun counts hcounts => ?_
  obtain ⟨pageCount, changeCount⟩ := counts
  refine bind_eq_map_bind fun nextPageCount _ => bind_eq_map_bind fun _ _ => ?_
  rw [← checkedAdd_toI64]
  refine bind_eq_map_bind fun nextChangeCount htotal => bind_eq_map_bind fun _ _ => ?_
  -- the loop over the changes: checked apart here, checked and inserted there
  have hcount : held.length = changeCount + 0 := by
    have hcounted := (WindowTables.counts_eq_ok hcounts).1
    rw [← h.count_eq, ← hcounted]
    rfl
  have hloop := WindowTables.insertEvents_eq page.changes 0 h.holds hcount
    (by simpa using (toI64_eq_ok_iff.mp htotal).1)
  cases hchecked : page.changes.mapM RemoteChange.windowEvent with
  | error error =>
      rw [hloop.2 error hchecked]
      rfl
  | ok events =>
      obtain ⟨inserted, hinserted, -⟩ := hloop.1 events hchecked
      obtain rfl := erased_of_mapM hchecked
      rw [hinserted, ok_bind, ok_bind]
      exact bind_eq_map_bind fun tokens _ => rfl

/-- **Refinement**: the tables accept a page exactly when the store does, with the same window, and go
    on standing for it; they reject a page with the same error. -/
theorem WindowTables.Represents.stagePage {tables : WindowTables} {held : List RemoteChange}
    {store : RootStore} (h : tables.Represents held store) (baseCursor : ChangeCursor)
    (requested : Option ContinuationToken) (page : ChangePage) :
    (∀ staged window, tables.stagePage baseCursor requested page = .ok (staged, window) →
      ∃ next, store.stageChangeWindowPage baseCursor requested page = .ok (next, window) ∧
        staged.Represents (held ++ page.changes) next) ∧
    (∀ error, tables.stagePage baseCursor requested page = .error error →
      store.stageChangeWindowPage baseCursor requested page = .error error) := by
  rw [h.stage_eq]
  constructor
  · intro staged window hstage
    have haccepted := WindowTables.stagePage_eq_ok h.holds h.count_eq hstage
    refine ⟨store.withPage page staged window, by rw [hstage]; rfl, ?_⟩
    constructor
    case remote_eq => exact h.remote_eq.trans haccepted.remote_eq.symm
    case window_eq => exact haccepted.state_eq.symm
    case tokens_eq => rfl
    case holds => exact haccepted.holds
    case events_eq =>
      rw [List.map_append, ← h.events_eq]
      rfl
    case count_eq =>
      rw [WindowTables.counted, haccepted.state_eq, haccepted.window_eq, List.length_append,
        ← h.count_eq]
      rfl
  · intro error herror
    rw [herror]
    rfl

theorem WindowTables.Represents.clear {tables : WindowTables} {held : List RemoteChange}
    {store : RootStore} (h : tables.Represents held store) :
    tables.clear.Represents [] store.clearChangeWindow :=
  ⟨h.remote_eq, rfl, rfl, rfl, rfl, rfl⟩

end NubiSync
