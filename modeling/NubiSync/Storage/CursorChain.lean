import NubiSync.Storage.RootHistory

set_option autoImplicit false

/-! # The chain of cursors

A run is recorded: which operation last put a cursor in place, which pages the open window was staged
from, and each window commit with what it followed. The recorder only looks at the operations and at
what a commit reads, so what the store must have kept to is said by the record: every window was
committed once, whole, and at the cursor that the commit or the snapshot before it had left. -/

namespace NubiSync

open Checks

/-! ## The record -/

/-- What last put a cursor in place. -/
inductive CursorMark where
  | fence (cursor : ChangeCursor)
  | commit (cursor : ChangeCursor)
  deriving DecidableEq

/-- A window, from its first page on. -/
structure StagedWindow where
  number : ℕ
  baseCursor : ChangeCursor
  checkpoint : Option ChangeCursor
  changes : List RemoteChange
  deriving DecidableEq

/-- A window commit: the window that was open, what the commit was called with, the events it read,
    whether the initial catch-up was complete, and what had last put a cursor in place. -/
structure CommittedWindow where
  window : Option StagedWindow
  baseCursor : ChangeCursor
  checkpoint : ChangeCursor
  changeCount : ℕ
  events : List RemoteChange
  catchupComplete : Bool
  follows : Option CursorMark
  deriving DecidableEq

/-- The record of a run. -/
structure CursorLog where
  mark : Option CursorMark
  opened : ℕ
  window : Option StagedWindow
  committed : List CommittedWindow
  deriving DecidableEq

namespace CursorLog

/-- The record of a run that has not started. -/
def empty : CursorLog := ⟨none, 0, none, []⟩

/-- A page that is accepted opens a window, or extends the open one. -/
def stage (log : CursorLog) (baseCursor : ChangeCursor) (page : ChangePage) : CursorLog :=
  match log.window with
  | none =>
      { log with
        opened := log.opened + 1
        window := some ⟨log.opened, baseCursor, page.checkpoint, page.changes⟩ }
  | some window =>
      { log with
        window := some { window with
          checkpoint := page.checkpoint
          changes := window.changes ++ page.changes } }

/-- A window commit. -/
def commitWindow (log : CursorLog) (store : RootStore) (baseCursor checkpoint : ChangeCursor)
    (changeCount : ℕ) : CursorLog :=
  { log with
    mark := some (.commit checkpoint)
    window := none
    committed := log.committed ++ [⟨log.window, baseCursor, checkpoint, changeCount,
      store.windowEvents, store.remoteState.any (·.catchupComplete), log.mark⟩] }

/-- The record after an operation that `store` accepted. -/
def record (log : CursorLog) (store : RootStore) : RootOperation → CursorLog
  | .inventory (.commitSnapshot fence) => { log with mark := some (.fence fence) }
  | .inventory (.commitRebaseline _ _ _ _ _ fence _) =>
      { log with mark := some (.fence fence), window := none }
  | .inventory (.stageWindowPage baseCursor _ page) => log.stage baseCursor page
  | .inventory (.discardWindow _) => { log with window := none }
  | .inventory (.commitBatch _ _ cursor) => { log with mark := some (.commit cursor) }
  | .inventory (.commitWindow baseCursor checkpoint changeCount _) =>
      log.commitWindow store baseCursor checkpoint changeCount
  | _ => log

end CursorLog

/-- One transaction on a root, recorded. -/
def applyRecorded (recorded : RootStore × CursorLog) (op : RootOperation) :
    Except StorageError (RootStore × CursorLog) := do
  let next ← recorded.1.apply op
  .ok (next, recorded.2.record recorded.1 op)

/-- A step, recorded. -/
def RecordedStep (recorded : RootStore × CursorLog) (op : RootOperation)
    (next : RootStore × CursorLog) : Prop :=
  applyRecorded recorded op = .ok next

theorem recordedStep_iff {recorded next : RootStore × CursorLog} {op : RootOperation} :
    RecordedStep recorded op next ↔
      recorded.1.Step op next.1 ∧ next.2 = recorded.2.record recorded.1 op :=
  bind_beside_eq_ok

/-- A run from a new root, recorded. -/
abbrev RecordedRun (mode : SyncMode) (store : RootStore) (log : CursorLog) : Prop :=
  Machine.Run RecordedStep (fun _ _ => True) (RootStore.new mode, CursorLog.empty) (store, log)

/-- Every run can be recorded. -/
theorem RootStore.Reaches.recorded {mode : SyncMode} {store : RootStore}
    (h : (RootStore.new mode).Reaches store) : ∃ log, RecordedRun mode store log := by
  induction h with
  | refl => exact ⟨_, .refl⟩
  | tail op _ _ hstep ih =>
      obtain ⟨log, hrun⟩ := ih
      exact ⟨_, hrun.tail op trivial (recordedStep_iff.mpr ⟨hstep, rfl⟩)⟩

/-! ## What the record says -/

/-- The cursor row that a mark leaves. -/
def CursorMark.Leaves : CursorMark → RemoteInventoryStateRow → Prop
  | .fence cursor, state => state = ⟨true, false, some cursor, none⟩
  | .commit cursor, state =>
      state.snapshotComplete = true ∧ state.catchupComplete = true ∧ state.changeCursor = some cursor

/-- A commit follows what last put a cursor in place, and commits all that was staged. -/
structure CommittedWindow.Chained (commit : CommittedWindow) : Prop where
  follows : commit.follows = some (if commit.catchupComplete then .commit commit.baseCursor
    else .fence commit.baseCursor)
  staged : ∃ window, commit.window = some window ∧ window.baseCursor = commit.baseCursor ∧
    window.checkpoint = some commit.checkpoint ∧ commit.changeCount = window.changes.length ∧
    commit.events = window.changes.map RemoteChange.erased

/-- The numbers of the windows that were committed. -/
def CursorLog.committedNumbers (log : CursorLog) : List ℕ :=
  log.committed.filterMap fun commit => commit.window.map StagedWindow.number

/-- How a step may change the stored change cursor. -/
inductive CursorMove (store : RootStore) : RootOperation → RootStore → Prop where
  | same (op : RootOperation) (next : RootStore) (hsame : next.changeCursor = store.changeCursor) :
      CursorMove store op next
  | clearedBySnapshot (fence : ChangeCursor) (next : RootStore) (hcleared : next.changeCursor = none) :
      CursorMove store (.inventory (.commitSnapshot fence)) next
  | clearedByRebaseline (base : ChangeCursor) (pages changes generation staged : ℕ)
      (fence : ChangeCursor) (completedAt : Int) (next : RootStore)
      (hcleared : next.changeCursor = none) :
      CursorMove store
        (.inventory (.commitRebaseline base pages changes generation staged fence completedAt)) next
  | byBatch (expected cursor : ChangeCursor) (mutations : List SyncRootCatalogMutation)
      (next : RootStore) (hcursor : next.changeCursor = some cursor)
      (hcatalog : store.Mutates mutations next.catalog) :
      CursorMove store (.inventory (.commitBatch expected mutations cursor)) next
  | byWindow (base checkpoint : ChangeCursor) (changes : ℕ)
      (mutations : List SyncRootCatalogMutation) (next : RootStore)
      (hcursor : next.changeCursor = some checkpoint)
      (hcatalog : store.Mutates mutations next.catalog) :
      CursorMove store (.inventory (.commitWindow base checkpoint changes mutations)) next

/-! ## The invariant -/

/-- The store is what its record says. -/
structure CursorLog.Tracks (log : CursorLog) (store : RootStore) : Prop where
  fresh : store.remoteState = none → log.mark = none
  state : ∀ state, store.remoteState = some state → ∃ mark, log.mark = some mark ∧ mark.Leaves state
  closed : log.window = none → store.windowState = none ∧ store.windowEvents = []
  opened : ∀ window, log.window = some window → window.number < log.opened ∧
    store.windowEvents = window.changes.map RemoteChange.erased ∧
    ∃ state, store.windowState = some state ∧ state.baseCursor = window.baseCursor ∧
      state.checkpoint = window.checkpoint ∧ state.changeCount = window.changes.length
  earlier : ∀ number ∈ log.committedNumbers, number < log.opened ∧
    ∀ window, log.window = some window → number < window.number
  ordered : log.committedNumbers.Pairwise (· < ·)
  chained : ∀ commit ∈ log.committed, commit.Chained

variable {store next : RootStore} {op : RootOperation} {log : CursorLog}

theorem tracks_new (mode : SyncMode) : CursorLog.empty.Tracks (RootStore.new mode) where
  fresh := fun _ => rfl
  state := nofun
  closed := fun _ => ⟨rfl, rfl⟩
  opened := nofun
  earlier := nofun
  ordered := List.Pairwise.nil
  chained := nofun

/-- The durable cursor is the one that the mark put in place. -/
theorem CursorMark.Leaves.durableCursor {mark : CursorMark} {state : RemoteInventoryStateRow}
    {cursor : ChangeCursor} (h : mark.Leaves state) (hcursor : state.durableCursor = .ok cursor) :
    mark = if state.catchupComplete then .commit cursor else .fence cursor := by
  cases mark with
  | fence fence =>
      obtain rfl : state = _ := h
      obtain rfl := Except.ok.inj hcursor
      rfl
  | commit committed =>
      obtain ⟨-, hcomplete, hcommitted⟩ := h
      rw [RemoteInventoryStateRow.durableCursor, hcomplete, if_pos rfl, hcommitted] at hcursor
      obtain rfl := Except.ok.inj hcursor
      rw [hcomplete]
      rfl

/-- The mark a commit or a page starts from. -/
theorem CursorLog.Tracks.mark_eq (h : log.Tracks store) {state : RemoteInventoryStateRow}
    {cursor : ChangeCursor} (hcursor : store.AtCursor state cursor) :
    log.mark = some (if state.catchupComplete then .commit cursor else .fence cursor) := by
  obtain ⟨mark, hmark, hleaves⟩ := h.state state hcursor.state_eq
  rw [hmark, hleaves.durableCursor hcursor.cursor_eq]

theorem CursorLog.Tracks.exists_open (h : log.Tracks store) {window : SyncRootChangeWindowState}
    (hwindow : store.windowState = some window) :
    ∃ open_, log.window = some open_ ∧
      store.windowEvents = open_.changes.map RemoteChange.erased ∧
      window.baseCursor = open_.baseCursor ∧ window.checkpoint = open_.checkpoint ∧
      window.changeCount = open_.changes.length := by
  cases hopen : log.window with
  | none =>
      rw [(h.closed hopen).1] at hwindow
      cases hwindow
  | some open_ =>
      obtain ⟨-, hheld, found, hfound, hbase, hcheckpoint, hcount⟩ := h.opened open_ hopen
      obtain rfl := Option.some.inj (hwindow.symm.trans hfound)
      exact ⟨open_, rfl, hheld, hbase, hcheckpoint, hcount⟩

/-! ## One step -/

/-- A cursor is put in place, and the window is left alone. -/
theorem CursorLog.Tracks.marked (h : log.Tracks store) (mark : CursorMark)
    {state : RemoteInventoryStateRow} (hstate : next.remoteState = some state)
    (hleaves : mark.Leaves state) (hwindow : next.windowState = store.windowState)
    (hevents : next.windowEvents = store.windowEvents) :
    { log with mark := some mark : CursorLog }.Tracks next where
  fresh := fun hnone => by rw [hstate] at hnone; cases hnone
  state := fun other hother => by
    rw [hstate] at hother
    exact ⟨mark, rfl, Option.some.inj hother ▸ hleaves⟩
  closed := fun hnone => by rw [hwindow, hevents]; exact h.closed hnone
  opened := fun window hopen => by rw [hwindow, hevents]; exact h.opened window hopen
  earlier := h.earlier
  ordered := h.ordered
  chained := h.chained

theorem CursorLog.Tracks.cleared (h : log.Tracks store) (hstate : next.remoteState = store.remoteState)
    (hwindow : next.windowState = none) (hevents : next.windowEvents = []) :
    { log with window := none : CursorLog }.Tracks next where
  fresh := fun hnone => h.fresh (hstate ▸ hnone)
  state := fun state hsome => h.state state (hstate ▸ hsome)
  closed := fun _ => ⟨hwindow, hevents⟩
  opened := nofun
  earlier := fun number hnumber => ⟨(h.earlier number hnumber).1, nofun⟩
  ordered := h.ordered
  chained := h.chained

theorem windowCounts_eq_ok {base : ChangeCursor} {requested : Option ContinuationToken}
    {pages changes : ℕ} (h : store.windowCounts base requested = .ok (pages, changes)) :
    (store.windowState = none ∧ changes = 0) ∨
      ∃ window, store.windowState = some window ∧ window.baseCursor = base ∧
        window.checkpoint = none ∧ window.changeCount = changes := by
  unfold RootStore.windowCounts at h
  cases hwindow : store.windowState with
  | none =>
      rw [hwindow] at h
      obtain ⟨-, h⟩ := (refuseIf_bind_eq_ok _ _ _ _).mp h
      obtain ⟨-, rfl⟩ := Prod.mk.inj (Except.ok.inj h)
      exact Or.inl ⟨rfl, rfl⟩
  | some window =>
      rw [hwindow] at h
      obtain ⟨hcheckpoint, h⟩ := (refuseIf_bind_eq_ok _ _ _ _).mp h
      obtain ⟨hbase, h⟩ := (refuseIf_bind_eq_ok _ _ _ _).mp h
      obtain ⟨-, h⟩ := (refuseIf_bind_eq_ok _ _ _ _).mp h
      obtain ⟨-, rfl⟩ := Prod.mk.inj (Except.ok.inj h)
      exact Or.inr ⟨window, rfl, by simpa using hbase, by simpa using hcheckpoint, rfl⟩

/-- A page that is accepted is recorded in the window it went to. -/
theorem CursorLog.Tracks.staged (h : log.Tracks store) {base : ChangeCursor}
    {requested : Option ContinuationToken} {page : ChangePage} {pages changes : ℕ}
    (hcounts : store.windowCounts base requested = .ok (pages, changes))
    (hstate : next.remoteState = store.remoteState)
    (hwindow : next.windowState = some ⟨base, page.continuation, page.checkpoint, pages + 1,
      changes + page.changes.length⟩)
    (hevents : next.windowEvents = store.windowEvents ++ page.changes.map RemoteChange.erased) :
    (log.stage base page).Tracks next := by
  unfold CursorLog.stage
  cases hopen : log.window with
  | none =>
      -- the first page of a window, under a number of its own
      obtain ⟨hnone, hempty⟩ := h.closed hopen
      obtain ⟨-, rfl⟩ | ⟨window, hsome, -⟩ := windowCounts_eq_ok hcounts
      · refine ⟨fun hnone => h.fresh (hstate ▸ hnone),
          fun state hsome => h.state state (hstate ▸ hsome), nofun, fun window hsome => ?_,
          fun number hnumber => ?_, h.ordered, h.chained⟩
        · obtain rfl := Option.some.inj hsome
          refine ⟨Nat.lt_succ_self _, by rw [hevents, hempty]; rfl, _, hwindow, rfl, rfl, ?_⟩
          exact Nat.zero_add _
        · obtain ⟨hbefore, -⟩ := h.earlier number hnumber
          refine ⟨hbefore.trans (Nat.lt_succ_self _), fun window hsome => ?_⟩
          obtain rfl := Option.some.inj hsome
          exact hbefore
      · rw [hnone] at hsome
        cases hsome
  | some open_ =>
      -- a further page: `windowCounts` has checked that it continues the window that is open
      obtain ⟨hnumber, hheld, state, hsome, hbase, hcheckpoint, hcount⟩ := h.opened open_ hopen
      obtain ⟨hnone, -⟩ | ⟨window, hsome', hbase', -, hchanges⟩ := windowCounts_eq_ok hcounts
      · rw [hnone] at hsome
        cases hsome
      · obtain rfl := Option.some.inj (hsome.symm.trans hsome')
        refine ⟨fun hnone => h.fresh (hstate ▸ hnone),
          fun state hsome => h.state state (hstate ▸ hsome), nofun, fun window hsome => ?_,
          fun number hbefore => ?_, h.ordered, h.chained⟩
        · obtain rfl := Option.some.inj hsome
          refine ⟨hnumber, ?_, _, hwindow, hbase'.symm.trans hbase, rfl, ?_⟩
          · rw [hevents, hheld, List.map_append]
          · show changes + _ = _
            rw [List.length_append, ← hchanges, hcount]
        · obtain ⟨hlt, hwindows⟩ := h.earlier number hbefore
          refine ⟨hlt, fun window hsome => ?_⟩
          obtain rfl := Option.some.inj hsome
          exact hwindows open_ hopen

theorem CursorLog.Tracks.commit_chained (h : log.Tracks store) {base checkpoint : ChangeCursor}
    {changes : ℕ} {window : SyncRootChangeWindowState} {state : RemoteInventoryStateRow}
    (hwindow : store.windowState = some window) (hbase : window.baseCursor = base)
    (hcheckpoint : window.checkpoint = some checkpoint) (hchanges : window.changeCount = changes)
    (hcursor : store.AtCursor state base) :
    CommittedWindow.Chained ⟨log.window, base, checkpoint, changes, store.windowEvents,
      store.remoteState.any (·.catchupComplete), log.mark⟩ := by
  refine ⟨?_, ?_⟩
  · rw [h.mark_eq hcursor, hcursor.state_eq]
    rfl
  · obtain ⟨open_, hopen, hheld, hsame, hend, hcount⟩ := h.exists_open hwindow
    exact ⟨open_, hopen, hsame.symm.trans hbase, hend.symm.trans hcheckpoint,
      hchanges.symm.trans hcount, hheld⟩

theorem CursorLog.Tracks.committed (h : log.Tracks store) {base checkpoint : ChangeCursor}
    {changes : ℕ}
    (hchained : CommittedWindow.Chained ⟨log.window, base, checkpoint, changes, store.windowEvents,
      store.remoteState.any (·.catchupComplete), log.mark⟩)
    {state : RemoteInventoryStateRow} (hstate : next.remoteState = some state)
    (hleaves : (CursorMark.commit checkpoint).Leaves state) (hwindow : next.windowState = none)
    (hevents : next.windowEvents = []) :
    (log.commitWindow store base checkpoint changes).Tracks next := by
  obtain ⟨window, hopen, -⟩ := hchained.staged
  have hnumbers : (log.commitWindow store base checkpoint changes).committedNumbers
      = log.committedNumbers ++ [window.number] := by
    simp only at hopen
    simp [CursorLog.committedNumbers, CursorLog.commitWindow, hopen]
  refine ⟨fun hnone => ?_, fun other hother => ?_, fun _ => ⟨hwindow, hevents⟩, nofun, ?_, ?_, ?_⟩
  · rw [hstate] at hnone
    cases hnone
  · rw [hstate] at hother
    exact ⟨.commit checkpoint, rfl, Option.some.inj hother ▸ hleaves⟩
  · rw [hnumbers]
    intro number hnumber
    refine ⟨?_, nofun⟩
    rcases List.mem_append.mp hnumber with hold | hnew
    · exact (h.earlier number hold).1
    · rw [List.mem_singleton.mp hnew]
      exact (h.opened window hopen).1
  · -- the numbers committed so far lie below that of the window that was open
    rw [hnumbers, List.pairwise_append]
    refine ⟨h.ordered, List.pairwise_singleton _ _, fun number hnumber last hlast => ?_⟩
    rw [List.mem_singleton.mp hlast]
    exact (h.earlier number hnumber).2 window hopen
  · intro commit hcommit
    rcases List.mem_append.mp hcommit with hold | hnew
    · exact h.chained commit hold
    · rw [List.mem_singleton.mp hnew]
      exact hchained

theorem RemoteInventoryStateRow.leaves_advanced {state : RemoteInventoryStateRow}
    (hcomplete : state.snapshotComplete = true) (cursor : ChangeCursor) :
    (CursorMark.commit cursor).Leaves (state.advanced cursor) := ⟨hcomplete, rfl, rfl⟩

/-- **A step keeps the record true.** -/
theorem CursorLog.Tracks.step (h : log.Tracks store) (hstep : store.Step op next) :
    (log.record store op).Tracks next := by
  cases hstep.cursorEffect with
  | kept _ _ hop hsame =>
      obtain ⟨hstate, hwindow⟩ := Prod.mk.inj hsame
      obtain ⟨hwindow, hevents⟩ := Prod.mk.inj hwindow
      have hlog : log.record store op = log := by
        unfold CursorLog.record
        split
        all_goals first | rfl | cases hop
      rw [hlog]
      exact ⟨fun hnone => h.fresh (hstate ▸ hnone),
        fun state hsome => h.state state (hstate ▸ hsome),
        fun hnone => hwindow ▸ hevents ▸ h.closed hnone,
        fun window hopen => hwindow ▸ hevents ▸ h.opened window hopen,
        h.earlier, h.ordered, h.chained⟩
  | snapshot fence itemCount => exact h.marked (.fence fence) rfl rfl rfl rfl
  | rebaseline base pages changes generation staged fence completedAt itemCount =>
      have hmarked : { log with mark := some (.fence fence) : CursorLog }.Tracks
          { store with remoteState := some ⟨true, false, some fence, none⟩ } :=
        h.marked (.fence fence) rfl rfl rfl rfl
      exact hmarked.cleared rfl rfl rfl
  | staged base requested page state hcursor boundary pages changes hcounts hlimit tokens =>
      exact h.staged hcounts rfl rfl rfl
  | nothingToDiscard base hwindow =>
      have hopen : log.window = none := by
        cases hopen : log.window with
        | none => rfl
        | some window =>
            obtain ⟨-, -, state, hsome, -⟩ := h.opened window hopen
            rw [hwindow] at hsome
            cases hsome
      exact h.cleared rfl hwindow (h.closed hopen).2
  | discarded base window hwindow hbase state hcursor => exact h.cleared rfl rfl rfl
  | batch expected mutations cursor state hcursor catalog hcatalog =>
      exact h.marked (.commit cursor) rfl
        (state.leaves_advanced hcursor.complete cursor) rfl rfl
  | window base checkpoint changes mutations window hwindow hbase hcontinuation hcheckpoint hchanges
      hevents state hcursor catalog hcatalog =>
      exact h.committed (h.commit_chained hwindow hbase hcheckpoint hchanges hcursor) rfl
        (state.leaves_advanced hcursor.complete checkpoint) rfl rfl

/-- **Over a run the record is true.** -/
theorem RecordedRun.tracks {mode : SyncMode} (h : RecordedRun mode store log) : log.Tracks store := by
  refine Machine.Run.invariant (P := fun recorded => recorded.2.Tracks recorded.1) h
    (tracks_new mode) ?_
  intro recorded op next htracks _ hrecorded
  obtain ⟨hstep, hrecord⟩ := recordedStep_iff.mp hrecorded
  rw [hrecord]
  exact htracks.step hstep

/-- How a step moves the stored cursor. -/
theorem RootStore.Step.cursorMove (h : store.Step op next) : CursorMove store op next := by
  cases h.cursorEffect with
  | kept _ _ _ hsame =>
      refine .same _ _ ?_
      rw [RootStore.changeCursor, (Prod.mk.inj hsame).1]
      rfl
  | snapshot fence => exact .clearedBySnapshot fence _ rfl
  | rebaseline => exact .clearedByRebaseline _ _ _ _ _ _ _ _ rfl
  | staged => exact .same _ _ rfl
  | nothingToDiscard => exact .same _ _ rfl
  | discarded => exact .same _ _ rfl
  | batch expected mutations cursor _ _ _ hcatalog => exact .byBatch _ _ _ _ rfl hcatalog
  | window _ _ _ _ _ _ _ _ _ _ _ _ _ _ hcatalog => exact .byWindow _ _ _ _ _ rfl hcatalog

/-! ## The chain -/

/-- **The chain of cursors.** In every state of every run: each committed window started at the cursor
    that the commit before it had left, or at the fence of the last snapshot while the initial catch-up
    was incomplete, and was committed complete with just the staged events; no window was committed
    twice; the next step moves the stored change cursor only with the mutations of its own commit, and
    else only clears it, as a snapshot or a rebaseline; and the catch-up is incomplete just when the
    last of these operations was a snapshot or a rebaseline, with no change cursor stored. -/
theorem cursor_chain {mode : SyncMode} {store : RootStore} {log : CursorLog}
    (h : RecordedRun mode store log) :
    (∀ commit ∈ log.committed, commit.Chained) ∧ log.committedNumbers.Nodup ∧
      (∀ op next, store.Step op next → CursorMove store op next) ∧
      ∀ state, store.remoteState = some state →
        (state.catchupComplete = false ↔ ∃ fence, log.mark = some (.fence fence)) ∧
        (state.catchupComplete = false → store.changeCursor = none) := by
  have htracks := h.tracks
  refine ⟨htracks.chained, ?_, fun op next hstep => hstep.cursorMove, fun state hstate => ?_⟩
  · exact htracks.ordered.imp fun hlt => hlt.ne
  · obtain ⟨mark, hmark, hleaves⟩ := htracks.state state hstate
    cases mark with
    | fence fence =>
        obtain rfl : state = _ := hleaves
        refine ⟨⟨fun _ => ⟨fence, hmark⟩, fun _ => rfl⟩, fun _ => ?_⟩
        rw [RootStore.changeCursor, hstate]
        rfl
    | commit cursor =>
        obtain ⟨-, hcomplete, -⟩ := hleaves
        rw [hcomplete, hmark]
        exact ⟨⟨nofun, fun ⟨fence, hfence⟩ => (by cases hfence)⟩, nofun⟩

/-- A window of two pages is committed, and then a window of one page that starts where it ended. -/
def sampleWindows : List RootOperation :=
  [.inventory (.commitSnapshot (.ofChar '0')),
    .inventory (.stageWindowPage (.ofChar '0') none
      ⟨[.delete ['x']], some (.ofChar 't'), none⟩),
    .inventory (.stageWindowPage (.ofChar '0') (some (.ofChar 't'))
      ⟨[.delete ['y']], none, some (.ofChar '1')⟩),
    .inventory (.commitWindow (.ofChar '0') (.ofChar '1') 2 [.deleteSubtree ['x']]),
    .inventory (.stageWindowPage (.ofChar '1') none ⟨[], none, some (.ofChar '2')⟩),
    .inventory (.commitWindow (.ofChar '1') (.ofChar '2') 0 [])]

theorem cursor_chain_sample :
    ∃ (store : RootStore) (log : CursorLog), log.committedNumbers = [0, 1] ∧
      (∀ commit ∈ log.committed, commit.Chained) ∧
      log.committedNumbers.Nodup ∧ (∀ op next, store.Step op next → CursorMove store op next) ∧
      ∀ state, store.remoteState = some state →
        (state.catchupComplete = false ↔ ∃ fence, log.mark = some (.fence fence)) ∧
        (state.catchupComplete = false → store.changeCursor = none) := by
  have hends : ∃ recorded ∈ (sampleWindows.foldlM applyRecorded
      (RootStore.new .receiveOnly, CursorLog.empty)).toOption,
      recorded.2.committedNumbers = [0, 1] := by
    decide +kernel
  obtain ⟨⟨store, log⟩, hrun, hnumbers⟩ := hends
  have hrecorded : RecordedRun .receiveOnly store log :=
    Machine.Run.of_foldlM (fun _ _ _ => trivial) (toOption_eq_some_iff.mp hrun)
  exact ⟨store, log, hnumbers, cursor_chain hrecorded⟩

end NubiSync
