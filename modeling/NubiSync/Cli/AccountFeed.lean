import NubiSync.Cli.AccountCommands
import NubiSync.Library.Runs

set_option autoImplicit false

/-! # The catalog of an account and the feed of its provider

The provider's changes are a feed, the cursors its places. Whatever commands are run, in whatever order
and however far each gets, the items that are caught up are the provider's at the cursor, once the
pending events are applied to them — but for one step: a login saves the cursor of the provider as it is
by then, and a change between the cursor it replaces and the one it saves is recorded by no command. -/

namespace NubiSync

open Checks Feeds Transactions

/-! ## The provider -/

/-- The feed of a provider: its items before the first change, and the cursor of every place. -/
structure ChangeFeed where
  base : Text → Option CatalogRow
  cursorAt : ℕ → ChangeCursor
  injective : Function.Injective cursorAt

/-- What the changes assign, one by one. -/
def assignments (changes : List RemoteChange) : List (Text × Option CatalogRow) :=
  changes.map RemoteChange.assignment

/-- A listing shows of an id what there is. -/
def Shows (items : List RemoteItem) (id : Text) (row : Option CatalogRow) : Prop :=
  (∀ item ∈ items, item.remoteId = id → row = some item.storedRow) ∧
    ((∀ item ∈ items, item.remoteId ≠ id) → row = none)

namespace ChangeFeed

variable (feed : ChangeFeed)

/-- The provider's items at a place of the feed. -/
def itemsAt (changes : List RemoteChange) (place : ℕ) : Text → Option CatalogRow :=
  replay feed.base ((assignments changes).take place)

/-- A session with a provider whose feed grows from `before` to `after` meanwhile. A cursor is a place of
    the feed; a change stream goes on from its cursor to a place that is not before its beginning; and a
    full listing shows of every id that has no change after the fence what there was at the fence. -/
structure Serves (session : DriveSession) (before after : List RemoteChange) : Prop where
  probe : ∀ cursor, session.probe = .ok cursor → ∃ place ≤ after.length, cursor = feed.cursorAt place
  stream : ∀ place ≤ before.length, ∀ changes checkpoint,
    ChangePages session (feed.cursorAt place) none changes checkpoint →
    ∃ last, before.length ≤ last ∧ last ≤ after.length ∧ checkpoint = feed.cursorAt last ∧
      changes = (after.take last).drop place
  listing : ∀ fence items, session.currentChangeCursor = .ok fence → ListingPages session none items →
    ∃ place ≤ after.length, fence = feed.cursorAt place ∧
      ∀ id, Untouched ((assignments after).drop place) id → Shows items id (feed.itemsAt after place id)

end ChangeFeed

/-! ## Worlds -/

/-- A command of an account. -/
inductive AccountCommand where
  | googleLogin
  | driveChanges
  | driveInventory (maxItems : Option ℕ)
  | driveCatalogCatchup

/-- What a command leaves that is stopped after a number of its transactions. -/
def AccountCommand.leaves (session : DriveSession) (transactions : ℕ) (store : AccountStore) :
    AccountCommand → AccountStore
  | .googleLogin => (NubiSync.googleLogin session store).stoppedAfter transactions store
  | .driveChanges => (NubiSync.driveChanges session store).stoppedAfter transactions store
  | .driveInventory maxItems =>
      (NubiSync.driveInventory session maxItems store).stoppedAfter transactions store
  | .driveCatalogCatchup =>
      (NubiSync.driveCatalogCatchup session store).stoppedAfter transactions store

/-- The rows of the account, and the changes of the provider so far. -/
structure AccountWorld where
  account : AccountStore
  changes : List RemoteChange

/-- What happens: the provider changes, or a command is run, with changes of the provider meanwhile. -/
inductive AccountEvent where
  | change (change : RemoteChange)
  | run (command : AccountCommand) (session : DriveSession) (transactions : ℕ)
      (meanwhile : List RemoteChange)

/-- The world after an event. -/
def AccountWorld.after (world : AccountWorld) : AccountEvent → AccountWorld
  | .change change => ⟨world.account, world.changes ++ [change]⟩
  | .run command session transactions meanwhile =>
      ⟨command.leaves session transactions world.account, world.changes ++ meanwhile⟩

/-- The steps of a world: the sessions of its commands are served by the provider. -/
def AccountStep (feed : ChangeFeed) (world : AccountWorld) (event : AccountEvent)
    (next : AccountWorld) : Prop :=
  next = world.after event ∧ ∀ command session transactions meanwhile,
    event = .run command session transactions meanwhile →
    feed.Serves session world.changes (world.changes ++ meanwhile)

/-! ## The invariant -/

variable {feed : ChangeFeed} {world next : AccountWorld}

/-- The items with the pending events applied are the provider's at the cursor, if the account is ready. -/
def AccountWorld.Exact (feed : ChangeFeed) (world : AccountWorld) : Prop :=
  world.account.readyForReconciliation = true →
    ∃ place ≤ world.changes.length, world.account.cursor = some (feed.cursorAt place) ∧
      ∃ items, world.account.pendingApplied = .ok items ∧
        items.find? = feed.itemsAt world.changes place

/-- The items are right, from the fence on, about the ids that have no change after it. -/
def AccountWorld.Fenced (feed : ChangeFeed) (world : AccountWorld) (fence : Option ChangeCursor) : Prop :=
  ∃ place ≤ world.changes.length, fence = some (feed.cursorAt place) ∧
    ∀ id, Untouched ((assignments world.changes).drop place) id →
      world.account.items.find? id = feed.itemsAt world.changes place id

/-- Every event can be applied, the cursor is a place of the feed, and a snapshot that is not caught up
    is right from its fence on. -/
structure AccountWorld.Placed (feed : ChangeFeed) (world : AccountWorld) : Prop where
  eventsFit : world.account.EventsFit
  cursor : ∀ cursor ∈ world.account.cursor, ∃ place ≤ world.changes.length, cursor = feed.cursorAt place
  fenced : ∀ row ∈ world.account.inventory, row.snapshotComplete = true → row.catchupComplete = false →
    world.Fenced feed row.catchupFromCursor

/-! ## The feed grows -/

theorem length_assignments (changes : List RemoteChange) :
    (assignments changes).length = changes.length :=
  List.length_map _

theorem assignments_append (changes more : List RemoteChange) :
    assignments (changes ++ more) = assignments changes ++ assignments more :=
  List.map_append

theorem itemsAt_append {changes : List RemoteChange} {place : ℕ} (hplace : place ≤ changes.length)
    (more : List RemoteChange) : feed.itemsAt (changes ++ more) place = feed.itemsAt changes place := by
  rw [← length_assignments] at hplace
  rw [ChangeFeed.itemsAt, assignments_append, List.take_append_of_le_length hplace]
  rfl

theorem AccountWorld.Exact.grow (h : world.Exact feed) (more : List RemoteChange) :
    AccountWorld.Exact feed ⟨world.account, world.changes ++ more⟩ := by
  intro hready
  obtain ⟨place, hplace, hcursor, items, happlied, hitems⟩ := h hready
  refine ⟨place, ?_, hcursor, items, happlied, hitems.trans (itemsAt_append hplace more).symm⟩
  rw [List.length_append]
  exact Nat.le_add_right_of_le hplace

theorem AccountWorld.Placed.grow (h : world.Placed feed) (more : List RemoteChange) :
    AccountWorld.Placed feed ⟨world.account, world.changes ++ more⟩ := by
  have hlength : world.changes.length ≤ (world.changes ++ more).length := by
    rw [List.length_append]
    exact Nat.le_add_right _ _
  refine ⟨h.eventsFit, fun cursor hcursor => ?_, fun row hrow hsnapshot hcatchup => ?_⟩
  · obtain ⟨place, hplace, hat⟩ := h.cursor cursor hcursor
    exact ⟨place, hplace.trans hlength, hat⟩
  · obtain ⟨place, hplace, hfence, hitems⟩ := h.fenced row hrow hsnapshot hcatchup
    refine ⟨place, hplace.trans hlength, hfence, fun id hid => ?_⟩
    rw [itemsAt_append hplace]
    refine hitems id (hid.of_subset ?_)
    rw [assignments_append, List.drop_append_of_le_length (length_assignments _ ▸ hplace)]
    exact List.subset_append_left _ _

theorem exact_iff (world : AccountWorld) (hfit : world.account.EventsFit) :
    world.Exact feed ↔ (world.account.readyForReconciliation = true →
      ∃ place ≤ world.changes.length, world.account.cursor = some (feed.cursorAt place) ∧
        replay world.account.items.find? (assignments world.account.pendingChanges)
          = feed.itemsAt world.changes place) := by
  obtain ⟨items, happlied, hitems⟩ := AccountStore.pendingApplied_spec hfit
  refine imp_congr_right fun _ => exists_congr fun place => and_congr_right fun _ =>
    and_congr_right fun _ => ?_
  constructor
  · rintro ⟨applied, hsame, happly⟩
    obtain rfl := Except.ok.inj (happlied.symm.trans hsame)
    exact hitems.symm.trans happly
  · intro hreplay
    exact ⟨items, happlied, hitems.trans hreplay⟩

/-! ## The commands -/

/-- The invariant is kept, and so is the exactness of the items. -/
structure Keeps (feed : ChangeFeed) (world next : AccountWorld) : Prop where
  placed : next.Placed feed
  exact : world.Exact feed → next.Exact feed

variable {session : DriveSession} {left : AccountStore} {meanwhile : List RemoteChange}

/-- The part of the feed that a change stream lists. -/
theorem assignments_stream (changes : List RemoteChange) (last place : ℕ) :
    assignments ((changes.take last).drop place) = ((assignments changes).take last).drop place := by
  rw [assignments, List.map_drop, List.map_take]
  rfl

/-- A command that writes nothing, or only its staging. -/
theorem keeps_of_sameButStaging (hplaced : world.Placed feed)
    (hsame : SameButStaging world.account left) :
    Keeps feed world ⟨left, world.changes ++ meanwhile⟩ := by
  obtain ⟨heventsFit, hcursor, hfenced⟩ := hplaced.grow meanwhile
  rw [hsame]
  exact ⟨⟨heventsFit, hcursor, hfenced⟩, fun hexact => hexact.grow meanwhile⟩

/-- **Polling.** The changes between the cursor and the checkpoint are recorded as the cursor moves. -/
theorem keeps_driveChanges (hplaced : world.Placed feed)
    (hserves : feed.Serves session world.changes (world.changes ++ meanwhile))
    (hleft : left ∈ (driveChanges session world.account).stores) :
    Keeps feed world ⟨left, world.changes ++ meanwhile⟩ := by
  obtain ⟨cursor, changes, checkpoint, persisted, hcursor, hpages, hcommit⟩ :=
    (driveChanges_leaves session world.account).stores left hleft
  obtain ⟨place, hplace, rfl⟩ := hplaced.cursor cursor hcursor
  obtain ⟨last, hlater, hlast, rfl, rfl⟩ := hserves.stream place hplace changes checkpoint hpages
  obtain ⟨hleft, hfit, hpending⟩ := AccountStore.commitRemoteChanges_spec hplaced.eventsFit hcommit
  have hitems : left.items = world.account.items := by rw [hleft]
  have hinventory : left.inventory = world.account.inventory := by rw [hleft]
  constructor
  · refine ⟨hfit, fun cursor hcursor => ⟨last, hlast, ?_⟩, fun row hrow hsnapshot hcatchup => ?_⟩
    · rw [hleft] at hcursor
      exact (Option.some.inj hcursor).symm
    · rw [hinventory] at hrow
      obtain ⟨fence, hfence, hat, hright⟩ := (hplaced.grow meanwhile).fenced row hrow hsnapshot hcatchup
      refine ⟨fence, hfence, hat, fun id hid => ?_⟩
      rw [hitems]
      exact hright id hid
  · intro hexact
    rw [exact_iff _ hplaced.eventsFit] at hexact
    rw [exact_iff _ hfit]
    intro hready
    rw [hleft] at hready
    obtain ⟨place', -, hcursor', hreplay⟩ := hexact hready
    obtain rfl := feed.injective (Option.some.inj (hcursor.symm.trans hcursor'))
    refine ⟨last, hlast, by rw [hleft], ?_⟩
    calc replay left.items.find? (assignments left.pendingChanges)
        = replay (replay world.account.items.find? (assignments world.account.pendingChanges))
            (assignments (((world.changes ++ meanwhile).take last).drop place)) := by
          rw [hitems, assignments, hpending, replay_append]
          rfl
      _ = replay (feed.itemsAt (world.changes ++ meanwhile) place)
            (((assignments (world.changes ++ meanwhile)).take last).drop place) := by
          rw [hreplay, itemsAt_append hplace, assignments_stream]
      _ = feed.itemsAt (world.changes ++ meanwhile) last :=
          replay_take_drop (hplace.trans hlater) feed.base

/-- **The catch-up.** Whatever the items were that have changed since the fence, they are replayed. -/
theorem keeps_driveCatalogCatchup (hplaced : world.Placed feed)
    (hserves : feed.Serves session world.changes (world.changes ++ meanwhile))
    (hleft : left ∈ (driveCatalogCatchup session world.account).stores) :
    Keeps feed world ⟨left, world.changes ++ meanwhile⟩ := by
  obtain ⟨fromCursor, changes, checkpoint, commit, hpages, hcommit⟩ :=
    (driveCatalogCatchup_leaves session world.account).stores left hleft
  obtain ⟨⟨row, hrow, hsnapshot, hcatchup, hfrom⟩, hcaught⟩ :=
    AccountStore.commitRemoteCatalogCatchup_spec hplaced.eventsFit hcommit
  obtain ⟨place, hplace, hat, hright⟩ := hplaced.fenced row hrow hsnapshot hcatchup
  obtain rfl := Option.some.inj (hfrom.symm.trans hat)
  obtain ⟨last, hlater, hlast, rfl, rfl⟩ := hserves.stream place hplace changes checkpoint hpages
  have hitems : left.items.find? = feed.itemsAt (world.changes ++ meanwhile) last := by
    refine hcaught.items.trans ?_
    rw [← assignments, assignments_stream]
    refine replay_drop (hplace.trans hlater) fun id hid => ?_
    rw [← ChangeFeed.itemsAt, itemsAt_append hplace]
    refine hright id (hid.of_subset ?_)
    -- the stream goes on at least to the end of what the fence is right about
    rw [← length_assignments] at hlater hplace
    rw [assignments_append, List.take_append, List.take_of_length_le hlater,
      List.drop_append_of_le_length hplace]
    exact List.subset_append_left _ _
  constructor
  · refine ⟨hcaught.eventsFit, fun cursor hcursor => ⟨last, hlast, ?_⟩, fun row hrow _ hcatchup => ?_⟩
    · rw [hcaught.cursor] at hcursor
      exact (Option.some.inj hcursor).symm
    · have hready := hcaught.ready
      rw [AccountStore.readyForReconciliation, AccountStore.remoteInventoryState, hrow] at hready
      simp [hcatchup] at hready
  · intro _
    rw [exact_iff _ hcaught.eventsFit]
    intro _
    refine ⟨last, hlast, hcaught.cursor, ?_⟩
    rw [hcaught.pending]
    exact hitems

/-- **The inventory.** The listing is right, from the fence on, about the ids that have no change after
    it. -/
theorem keeps_driveInventory (hplaced : world.Placed feed)
    (hserves : feed.Serves session world.changes (world.changes ++ meanwhile)) {maxItems : Option ℕ}
    (hleft : left ∈ (driveInventory session maxItems world.account).stores) :
    Keeps feed world ⟨left, world.changes ++ meanwhile⟩ := by
  obtain hsame | ⟨fence, items, staged, itemCount, hfence, hitems, hframe, hstaged, hcommit⟩ :=
    (driveInventory_leaves session maxItems world.account).stores left hleft
  · exact keeps_of_sameButStaging hplaced hsame
  · obtain ⟨place, hplace, rfl, hshows⟩ := hserves.listing fence items hfence hitems
    obtain ⟨_, -, hcommit⟩ := bind_eq_ok.mp hcommit
    obtain ⟨rfl, -⟩ := Prod.mk.inj (Except.ok.inj hcommit)
    constructor
    · have hgrown := hplaced.grow meanwhile
      rw [hframe]
      refine ⟨hgrown.eventsFit, hgrown.cursor, fun row hrow _ _ => ?_⟩
      obtain rfl := Option.some.inj hrow
      refine ⟨place, hplace, rfl, fun id hid => ?_⟩
      obtain ⟨hlisted, habsent⟩ := hshows id hid
      refine (congrFun (ensures_insertInventoryItems items ∅ _ hstaged) id).trans ?_
      refine replay_eq_of_forall (fun assignment hassignment hkey => ?_) fun huntouched => ?_
      · obtain ⟨item, hitem, rfl⟩ := List.mem_map.mp hassignment
        exact (hlisted item hitem hkey).symm
      · refine (habsent fun item hitem => ?_).symm
        exact huntouched item.listing (List.mem_map_of_mem hitem)
    · intro _ hready
      cases hready

/-- A command that is not a login keeps the items exact, however far it gets. -/
theorem keeps_leaves (hplaced : world.Placed feed)
    (hserves : feed.Serves session world.changes (world.changes ++ meanwhile)) {command : AccountCommand}
    (hcommand : command ≠ .googleLogin) (transactions : ℕ) :
    Keeps feed world ⟨command.leaves session transactions world.account,
      world.changes ++ meanwhile⟩ := by
  have hnothing : Keeps feed world ⟨world.account, world.changes ++ meanwhile⟩ :=
    keeps_of_sameButStaging hplaced rfl
  cases command with
  | googleLogin => exact absurd rfl hcommand
  | driveChanges =>
      obtain hsame | hleft := (driveChanges session world.account).stoppedAfter_mem transactions
        world.account
      · rwa [AccountCommand.leaves, hsame]
      · exact keeps_driveChanges hplaced hserves hleft
  | driveInventory maxItems =>
      obtain hsame | hleft := (driveInventory session maxItems world.account).stoppedAfter_mem
        transactions world.account
      · rwa [AccountCommand.leaves, hsame]
      · exact keeps_driveInventory hplaced hserves hleft
  | driveCatalogCatchup =>
      obtain hsame | hleft := (driveCatalogCatchup session world.account).stoppedAfter_mem transactions
        world.account
      · rwa [AccountCommand.leaves, hsame]
      · exact keeps_driveCatalogCatchup hplaced hserves hleft

/-! ## The login -/

/-- A login on an account that is ready saves a cursor at which the items are those at the old one. -/
def ChangeFeed.KeepsPlace (feed : ChangeFeed) (world : AccountWorld) : AccountEvent → Prop
  | .run .googleLogin session transactions meanwhile =>
      world.account.readyForReconciliation = true →
      ∀ place fresh, world.account.cursor = some (feed.cursorAt place) →
        LoginSaves session transactions (feed.cursorAt fresh) →
        feed.itemsAt (world.changes ++ meanwhile) fresh = feed.itemsAt (world.changes ++ meanwhile) place
  | _ => True

/-- The login keeps the invariant, and keeps the items exact if it keeps the place in the feed. -/
theorem googleLogin_exact_iff (hplaced : world.Placed feed)
    (hserves : feed.Serves session world.changes (world.changes ++ meanwhile)) (transactions : ℕ)
    (hleft : left = AccountCommand.googleLogin.leaves session transactions world.account) :
    AccountWorld.Placed feed ⟨left, world.changes ++ meanwhile⟩ ∧
      (world.Exact feed → (AccountWorld.Exact feed ⟨left, world.changes ++ meanwhile⟩ ↔
        feed.KeepsPlace world (.run .googleLogin session transactions meanwhile))) := by
  obtain ⟨cursor, hsaves, hsaved⟩ | ⟨hnever, hsame⟩ :=
    googleLogin_cases session transactions world.account
  · obtain ⟨fresh, hfresh, rfl⟩ := hserves.probe cursor hsaves.2.2.1
    obtain rfl := hleft.trans hsaved
    have hgrown := hplaced.grow meanwhile
    have hfit : (world.account.upsertAccount.saveCursor (feed.cursorAt fresh)).EventsFit :=
      hgrown.eventsFit
    refine ⟨⟨hfit, fun cursor hcursor => ?_, hgrown.fenced⟩, fun hexact => ?_⟩
    · obtain rfl := Option.some.inj hcursor
      exact ⟨fresh, hfresh, rfl⟩
    · have hexact := hexact.grow meanwhile
      rw [exact_iff ⟨world.account, _⟩ hgrown.eventsFit] at hexact
      refine (exact_iff ⟨world.account.upsertAccount.saveCursor (feed.cursorAt fresh), _⟩ hfit).trans ?_
      constructor
      · intro hnext hready place fresh' hcursor hsaves'
        obtain rfl := feed.injective (Except.ok.inj (hsaves.2.2.1.symm.trans hsaves'.2.2.1))
        obtain ⟨place', -, hcursor', hreplay⟩ := hexact hready
        obtain rfl := feed.injective (Option.some.inj (hcursor.symm.trans hcursor'))
        obtain ⟨fresh', -, hcursor', hreplay'⟩ := hnext hready
        obtain rfl := feed.injective (Option.some.inj hcursor')
        exact hreplay'.symm.trans hreplay
      · intro hkeeps hready
        obtain ⟨place, -, hcursor, hreplay⟩ := hexact hready
        exact ⟨fresh, hfresh, rfl, hreplay.trans (hkeeps hready place fresh hcursor hsaves).symm⟩
  · have hkeeps : Keeps feed world ⟨left, world.changes ++ meanwhile⟩ := by
      obtain hsame | hsame := hsame
      · obtain rfl := hleft.trans hsame
        exact keeps_of_sameButStaging hplaced rfl
      · obtain rfl := hleft.trans hsame
        have hgrown := hplaced.grow meanwhile
        exact ⟨⟨hgrown.eventsFit, hgrown.cursor, hgrown.fenced⟩, fun hexact => hexact.grow meanwhile⟩
    refine ⟨hkeeps.placed, fun hexact => iff_of_true (hkeeps.exact hexact) ?_⟩
    exact fun _ _ _ _ hsaves => absurd hsaves (hnever _)

/-! ## Runs -/

/-- **One step.** -/
theorem AccountStep.exact_iff {event : AccountEvent} (hplaced : world.Placed feed)
    (hstep : AccountStep feed world event next) :
    next.Placed feed ∧ (world.Exact feed → (next.Exact feed ↔ feed.KeepsPlace world event)) := by
  obtain ⟨rfl, hserved⟩ := hstep
  cases event with
  | change change =>
      exact ⟨hplaced.grow [change], fun hexact => iff_of_true (hexact.grow [change]) trivial⟩
  | run command session transactions meanwhile =>
      have hserves := hserved command session transactions meanwhile rfl
      by_cases hlogin : command = .googleLogin
      · subst hlogin
        exact googleLogin_exact_iff hplaced hserves transactions rfl
      · have hkeeps := keeps_leaves hplaced hserves hlogin transactions
        refine ⟨hkeeps.placed, fun hexact => iff_of_true (hkeeps.exact hexact) ?_⟩
        cases command with
        | googleLogin => exact absurd rfl hlogin
        | driveChanges | driveInventory maxItems | driveCatalogCatchup => exact trivial

/-- **The catalog of an account.** Where every login on an account that is ready kept the place in the
    feed, an account that is ready has the provider's items at its cursor, once the pending events are
    applied; and exactly the steps of that kind keep it so. -/
theorem account_catalog_exact {changes : List RemoteChange}
    (h : Machine.Run (AccountStep feed) feed.KeepsPlace ⟨.empty, changes⟩ world) :
    world.Exact feed ∧
      ∀ event next, AccountStep feed world event next → (next.Exact feed ↔ feed.KeepsPlace world event) := by
  have hinvariant : world.Placed feed ∧ world.Exact feed := by
    refine h.invariant (P := fun world => world.Placed feed ∧ world.Exact feed)
      ⟨⟨nofun, nofun, nofun⟩, nofun⟩ ?_
    intro s event s' ⟨hplaced, hexact⟩ hkeeps hstep
    obtain ⟨hplaced', hiff⟩ := hstep.exact_iff hplaced
    exact ⟨hplaced', (hiff hexact).mpr hkeeps⟩
  obtain ⟨hplaced, hexact⟩ := hinvariant
  exact ⟨hexact, fun event next hstep => (hstep.exact_iff hplaced).2 hexact⟩

/-! ## A provider -/

/-- What a listing shows after one more change. -/
def listedAfter (items : List RemoteItem) : RemoteChange → List RemoteItem
  | .delete remoteId => items.filter (·.remoteId != remoteId)
  | .upsert item => items.filter (·.remoteId != item.remoteId) ++ if item.trashed then [] else [item]

theorem Shows.listedAfter {items : List RemoteItem} {id : Text} {row : Option CatalogRow}
    (h : Shows items id row) (change : RemoteChange) :
    Shows (NubiSync.listedAfter items change) id
      (if id = change.assignment.1 then change.assignment.2 else row) := by
  cases change with
  | delete remoteId =>
      simp only [Shows, NubiSync.listedAfter, RemoteChange.assignment] at h ⊢
      grind
  | upsert item =>
      simp only [Shows, NubiSync.listedAfter, RemoteChange.assignment] at h ⊢
      grind

/-- A provider without items before the first change. -/
def sampleFeed : ChangeFeed where
  base _ := none
  cursorAt place := ⟨List.replicate (place + 1) '0', nofun⟩
  injective := by
    intro place place' h
    have hlength := congrArg (List.length ∘ ChangeCursor.asStr) h
    simpa using hlength

/-- A session that lists everything there is, in one page. -/
def sampleSession (changes : List RemoteChange) : DriveSession where
  ensureKeyringAvailable := .ok ()
  authorize := .ok ()
  probe := .ok (sampleFeed.cursorAt changes.length)
  currentChangeCursor := .ok (sampleFeed.cursorAt changes.length)
  listChangesPage cursor _ := .ok
    ⟨changes.drop (cursor.asStr.length - 1), none, some (sampleFeed.cursorAt changes.length)⟩
  listInventoryPage _ _ := .ok ⟨changes.foldl listedAfter [], none, 0, 0, 0, 0⟩

theorem shows_foldl_listedAfter (changes : List RemoteChange) (id : Text) :
    Shows (changes.foldl listedAfter []) id (replay (fun _ => none) (assignments changes) id) := by
  induction changes using List.reverseRecOn with
  | nil => exact ⟨nofun, fun _ => rfl⟩
  | append_singleton changes change ih =>
      have h := ih.listedAfter change
      rw [List.foldl_append, assignments_append, replay_append]
      rw [← Function.update_apply] at h
      exact h

theorem sampleFeed_serves {before after : List RemoteChange} (h : before.length ≤ after.length) :
    sampleFeed.Serves (sampleSession after) before after where
  probe cursor hprobe := ⟨after.length, le_rfl, (Except.ok.inj hprobe).symm⟩
  stream place hplace changes checkpoint hpages := by
    refine ⟨after.length, h, le_rfl, ?_⟩
    cases hpages with
    | last page _ hpage _ hcheckpoint =>
        obtain rfl := Except.ok.inj hpage
        refine ⟨(Option.some.inj hcheckpoint).symm, ?_⟩
        simp [sampleFeed]
    | more page next hpage hnext _ _ =>
        obtain rfl := Except.ok.inj hpage
        cases hnext
  listing fence items hfence hpages := by
    refine ⟨after.length, le_rfl, (Except.ok.inj hfence).symm, fun id _ => ?_⟩
    have hwhole : (assignments after).take after.length = assignments after :=
      List.take_of_length_le (length_assignments after).le
    rw [ChangeFeed.itemsAt, hwhole]
    cases hpages with
    | last page hpage _ =>
        obtain rfl := Except.ok.inj hpage
        exact shows_foldl_listedAfter after id
    | more page next hpage hnext _ =>
        obtain rfl := Except.ok.inj hpage
        cases hnext

/-- A command that is run to its end while the provider changes, in a session that lists everything. -/
def sampleEvent (world : AccountWorld) (command : AccountCommand) (meanwhile : List RemoteChange) :
    AccountEvent :=
  .run command (sampleSession (world.changes ++ meanwhile)) 3 meanwhile

/-- The world after it. -/
def sampleAfter (world : AccountWorld) (command : AccountCommand) (meanwhile : List RemoteChange) :
    AccountWorld :=
  world.after (sampleEvent world command meanwhile)

theorem sampleEvent_step (world : AccountWorld) (command : AccountCommand)
    (meanwhile : List RemoteChange) :
    AccountStep sampleFeed world (sampleEvent world command meanwhile)
      (sampleAfter world command meanwhile) := by
  refine ⟨rfl, ?_⟩
  rintro _ _ _ _ ⟨⟩
  refine sampleFeed_serves ?_
  rw [List.length_append]
  exact Nat.le_add_right _ _

/-- A file that comes to be. -/
def addedFile : RemoteChange := .upsert ⟨['x'], some ['r'], ['n'], .file, some 1, none, false⟩

/-- A login, a full inventory and its catch-up, of an empty drive. -/
def sampleReady : AccountWorld :=
  sampleAfter (sampleAfter (sampleAfter ⟨.empty, []⟩ .googleLogin []) (.driveInventory none) [])
    .driveCatalogCatchup []

theorem sampleReady_run :
    Machine.Run (AccountStep sampleFeed) sampleFeed.KeepsPlace ⟨.empty, []⟩ sampleReady := by
  have hunready : sampleFeed.KeepsPlace ⟨.empty, []⟩ (sampleEvent ⟨.empty, []⟩ .googleLogin []) :=
    fun hready => (nomatch hready)
  have hlogin : Machine.Run (AccountStep sampleFeed) sampleFeed.KeepsPlace ⟨.empty, []⟩
      (sampleAfter ⟨.empty, []⟩ .googleLogin []) :=
    Machine.Run.refl.tail _ hunready (sampleEvent_step _ _ _)
  have hinventory := hlogin.tail (sampleEvent _ (.driveInventory none) []) trivial
    (sampleEvent_step _ _ _)
  exact hinventory.tail (sampleEvent _ .driveCatalogCatchup []) trivial (sampleEvent_step _ _ _)

theorem account_catalog_exact_polled :
    (sampleAfter sampleReady .driveChanges [addedFile]).account.readyForReconciliation = true ∧
      (sampleAfter sampleReady .driveChanges [addedFile]).Exact sampleFeed ∧
      ∀ event next, AccountStep sampleFeed (sampleAfter sampleReady .driveChanges [addedFile]) event next →
        (next.Exact sampleFeed ↔
          sampleFeed.KeepsPlace (sampleAfter sampleReady .driveChanges [addedFile]) event) :=
  ⟨by decide +kernel, account_catalog_exact (sampleReady_run.tail
    (sampleEvent sampleReady .driveChanges [addedFile]) trivial (sampleEvent_step _ _ _))⟩

/-- A second login skips the file: it is neither in the items nor pending, and the cursor is past it. -/
theorem login_skips_change :
    Machine.Run (AccountStep sampleFeed) (fun _ _ => True) ⟨.empty, []⟩
        (sampleAfter sampleReady .googleLogin [addedFile]) ∧
      (sampleAfter sampleReady .googleLogin [addedFile]).account.readyForReconciliation = true ∧
      ¬ (sampleAfter sampleReady .googleLogin [addedFile]).Exact sampleFeed := by
  have hready : (sampleAfter sampleReady .googleLogin [addedFile]).account.readyForReconciliation
      = true := by
    decide +kernel
  have hcursor : (sampleAfter sampleReady .googleLogin [addedFile]).account.cursor
      = some (sampleFeed.cursorAt 1) := by
    decide +kernel
  have hmissing : ∀ items ∈
      (sampleAfter sampleReady .googleLogin [addedFile]).account.pendingApplied.toOption,
      items.find? ['x'] = none := by
    decide +kernel
  have hthere : sampleFeed.itemsAt [addedFile] 1 ['x'] ≠ none := by
    decide +kernel
  refine ⟨(sampleReady_run.mono fun _ _ _ => trivial).tail
    (sampleEvent sampleReady .googleLogin [addedFile]) trivial (sampleEvent_step _ _ _), hready,
    fun hexact => ?_⟩
  obtain ⟨place, -, hplace, items, happlied, hitems⟩ := hexact hready
  obtain rfl := sampleFeed.injective (Option.some.inj (hcursor.symm.trans hplace))
  refine hthere ((congrFun hitems ['x']).symm.trans ?_)
  exact hmissing items (toOption_eq_some_iff.mpr happlied)

end NubiSync
