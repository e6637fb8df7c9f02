import NubiSync.Daemon.JournalPass
import NubiSync.Storage.SettlementHistory

set_option autoImplicit false

/-! # The source event of an upload

A confirmed file create is settled against its source event, which has to be the pending creation of a
file still. A journal pass rewrites the events of the generation from the latest scan without looking
at the creates under way, so what the user does to the file after the upload decides whether the event
is there. The passes that keep it are found exactly. -/

namespace NubiSync

open Checks

/-! ## Runs over one baseline -/

/-- A step over a baseline that stands: a journal pass on two scans, or an operation that leaves the
    journal and the baseline alone. -/
inductive BaselineStep where
  | journalPass (first second : List LocalItemSnapshot)
  | other (op : RootOperation)

/-- The steps of a root over its baseline. -/
def RootStore.BaselineSteps (store : RootStore) : BaselineStep → RootStore → Prop
  | .journalPass first second, next => ∃ commit,
      journalSelectedRootTwoWayLocalInventoryDiff store first second = .ok (next, commit)
  | .other op, next => op.writesJournal = false ∧ store.Step op next

/-- What the settlement of a file create asks of its source event. -/
def RootStore.SourceReady (store : RootStore) (intent : RemoteWriteIntentRow) : Prop :=
  ∃ event, store.localEvent? intent.sourceLocalEventId = some event ∧
    event.isPending intent.baselineGeneration = true ∧ event.relativePath = intent.relativePath ∧
    event.eventKind = .created ∧ event.baselineKind = none ∧ event.currentKind = some .file

/-- The condition on a step: a journal pass finds a file at the path of the intent, where the baseline
    has nothing. -/
def FileStays (intent : RemoteWriteIntentRow) (store : RootStore) : BaselineStep → Prop
  | .journalPass first _ => store.localItems.find? intent.relativePath = none ∧
      ∃ item, snapshotAt first intent.relativePath = some item ∧ item.kind = .file
  | .other _ => True

/-! ## Events and ids -/

variable {store next : RootStore} {intent : RemoteWriteIntentRow}

/-- What holds of the journal in every state of a root. -/
structure RootStore.JournalSound (store : RootStore) : Prop where
  ids : store.IdsUnique
  shaped : store.journal.Shaped
  sources : store.SourcesKnown

theorem RootStore.Step.journalSound {op : RootOperation} (h : store.Step op next)
    (hsound : store.JournalSound) : next.JournalSound where
  ids := h.idsUnique hsound.ids
  shaped := h.journal.shaped hsound.shaped
  sources := h.sourcesKnown hsound.sources

theorem RootStore.Reaches.journalSound {mode : SyncMode}
    (hrun : (RootStore.new mode).Reaches store) : store.JournalSound := by
  refine Machine.Run.invariant (P := RootStore.JournalSound) hrun ?_ ?_
  · refine ⟨RootStore.Reaches.idsUnique .refl, fun event hevent => ?_, fun intent hintent => ?_⟩
    · cases hevent
    · cases hintent
  · intro _ _ _ hsound _ hstep
    exact hstep.journalSound hsound

theorem snapshotAt_listLocalItems (store : RootStore) (path : Text) :
    snapshotAt store.listLocalItems path = store.localItems.find? path := by
  have hperm : store.listLocalItems.Perm store.localItems.rows := List.perm_insertionSort _ _
  refine Option.ext fun item => ?_
  rw [snapshotAt_eq_some_iff ((hperm.map _).nodup_iff.mpr store.localItems.nodup_keys), hperm.mem_iff,
    Table.find?_eq_some_iff]

/-! ## One step -/

/-- What a run over one baseline keeps beside the source event: the intent's event is in the journal,
    at the generation of the baseline. -/
structure RootStore.SourceTracked (store : RootStore) (intent : RemoteWriteIntentRow) : Prop where
  sound : store.JournalSound
  generation : store.generation? = some intent.baselineGeneration
  event : ∃ event ∈ store.localEvents.rows, event.id = intent.sourceLocalEventId ∧
    event.journalKey = (intent.baselineGeneration, intent.relativePath)

theorem RootStore.Step.sourceTracked {op : RootOperation} (h : store.Step op next)
    (hop : op.movesBaseline = false) (htracked : store.SourceTracked intent) :
    next.SourceTracked intent := by
  obtain ⟨event, hevent, hid, hkey⟩ := htracked.event
  obtain ⟨later, hlater, hid', hkey'⟩ := h.journal.event_later hevent
  exact ⟨h.journalSound htracked.sound, (h.baseline_frame hop).2.trans htracked.generation,
    later, hlater, hid'.trans hid, hkey'.trans hkey⟩

/-- The source event, read off its row. -/
theorem sourceReady_iff (hids : store.IdsUnique) {event : LocalChangeEventRow}
    (hevent : event ∈ store.localEvents.rows) (hid : event.id = intent.sourceLocalEventId)
    (hkey : event.journalKey = (intent.baselineGeneration, intent.relativePath)) :
    store.SourceReady intent ↔ event.status = .pending ∧ event.eventKind = .created ∧
      event.baselineKind = none ∧ event.currentKind = some .file := by
  constructor
  · intro ⟨other, hother, hpending, _, hkinds⟩
    obtain ⟨hmem, hotherId⟩ := (localEvent?_eq_some_iff hids.events.unique).mp hother
    obtain rfl := hids.events.unique other hmem event hevent (hotherId.trans hid.symm)
    exact ⟨(pending_of_isPending hpending).2, hkinds⟩
  · intro ⟨hstatus, hkinds⟩
    refine ⟨event, (localEvent?_eq_some_iff hids.events.unique).mpr ⟨hevent, hid⟩, ?_,
      congrArg Prod.snd hkey, hkinds⟩
    have hgeneration : event.baselineGeneration = intent.baselineGeneration :=
      congrArg Prod.fst hkey
    simp [LocalChangeEventRow.isPending, hstatus, hgeneration]

/-- **A journal pass keeps the source event just when it finds the file.** -/
theorem journalPass_sourceReady_iff {first second : List LocalItemSnapshot}
    {commit : LocalChangeJournalCommit} (htracked : store.SourceTracked intent)
    (h : journalSelectedRootTwoWayLocalInventoryDiff store first second = .ok (next, commit)) :
    next.SourceTracked intent ∧
      (next.SourceReady intent ↔ FileStays intent store (.journalPass first second)) := by
  have hpassed : JournalPassed store first next := ensures_journalPass store first second _ h
  obtain ⟨generation, itemCount, completedAt, events, -, hstep⟩ := hpassed.step
  have hnext := hstep.sourceTracked rfl htracked
  refine ⟨hnext, ?_⟩
  obtain ⟨event, hevent, hid, hkey⟩ := hnext.event
  have hfound : next.localEvents.find? (intent.baselineGeneration, intent.relativePath) = some event :=
    Table.find?_eq_some_iff.mpr ⟨hevent, hkey⟩
  have hready := sourceReady_iff hnext.sound.ids hevent hid hkey
  have hstays : FileStays intent store (.journalPass first second) ↔
      ∃ entry, diffEntry store.listLocalItems first intent.relativePath = some entry ∧
        entry.kind = .created ∧ entry.baselineKind = none ∧ entry.currentKind = some .file := by
    rw [diffEntry_created_file, snapshotAt_listLocalItems]
    rfl
  -- the pass rewrites the event of a path from its diff entry, and supersedes it where there is none
  rw [hready, hstays]
  cases hentry : diffEntry store.listLocalItems first intent.relativePath with
  | none =>
      refine ⟨fun hpending => absurd hpending.1 ?_, fun ⟨_, hnone, _⟩ => nomatch hnone⟩
      exact hpassed.dropped _ _ htracked.generation hentry event hfound
  | some entry =>
      obtain ⟨row, hrow, ⟨hkind, hbaseline, hcurrent, hstatus⟩, -⟩ :=
        hpassed.recorded _ _ entry htracked.generation hentry
      obtain rfl := Option.some.inj (hrow.symm.trans hfound)
      rw [hkind, hbaseline, hcurrent]
      constructor
      · intro ⟨_, hkinds⟩
        exact ⟨entry, rfl, hkinds⟩
      · intro ⟨_, hsame, hkinds⟩
        obtain rfl := Option.some.inj hsame
        exact ⟨hstatus, hkinds⟩

theorem RootStore.BaselineSteps.sourceTracked {step : BaselineStep}
    (h : store.BaselineSteps step next) (htracked : store.SourceTracked intent) :
    next.SourceTracked intent := by
  cases step with
  | journalPass first second =>
      obtain ⟨commit, h⟩ := h
      exact (journalPass_sourceReady_iff htracked h).1
  | other op =>
      obtain ⟨hop, hstep⟩ := h
      exact hstep.sourceTracked (hstep.localEvents_frame hop).2 htracked

/-- A file create that has just been submitted has its source event. -/
theorem submitted_sourceReady {generation : ℕ} {cursor : ChangeCursor} {at_ : Int}
    (hsound : store.JournalSound) (hintent : intent ∈ store.intents.rows)
    (hstep : store.Step (.intents (.beginFileCreate intent.id generation cursor at_)) next) :
    next.SourceTracked intent ∧ next.SourceReady intent := by
  obtain ⟨found, moved, hfound, -, hmove, -⟩ := hstep.execution rfl
  obtain ⟨hfound, hfoundId⟩ := Table.find?_eq_some_iff.mp hfound
  obtain rfl := store.intents.eq_of_key hfound hintent hfoundId
  cases hmove with
  -- the submission has checked the baseline and the source event of the intent
  | beginFileCreate _ _ hkind hstatus hbaseline hsource =>
      obtain ⟨state, hstate, hgeneration⟩ := hbaseline
      have htracked : store.SourceTracked found := by
        refine ⟨hsound, ?_, hsound.sources found hintent⟩
        rw [RootStore.generation?, (Option.filter_eq_some_iff.mp hstate).1, Option.map_some,
          hgeneration]
      refine ⟨hstep.sourceTracked rfl htracked, ?_⟩
      obtain ⟨event, hevent, hid, hpending, hcreated, hcurrent⟩ := hsource
      obtain ⟨tracked, htracked, htrackedId, hkey⟩ := hsound.sources found hintent
      obtain rfl := hsound.ids.events.unique tracked htracked event hevent
        (htrackedId.trans hid.symm)
      have hnone := (hsound.shaped tracked htracked).baselineKind_of_created hcreated
      have hevents : next.localEvents = store.localEvents :=
        congrArg Journal.events hstep.intents_frame.1
      refine (sourceReady_iff (hstep.idsUnique hsound.ids) (hevents ▸ hevent) hid hkey).mpr ?_
      exact ⟨(pending_of_isPending hpending).2, hcreated, hnone, hcurrent⟩

/-! ## Runs -/

/-- **The source event outlives the passes that find the file, and no other.** After the submission of
    a file create, in every run over its baseline whose journal passes find a file at its path the
    source event is there to settle against; and after any run at all, a journal pass leaves it there
    just when it finds the file. -/
theorem source_ready_iff (mode : SyncMode) (store : RootStore)
    (hrun : (RootStore.new mode).Reaches store) (intent : RemoteWriteIntentRow)
    (hintent : intent ∈ store.intents.rows) (generation : ℕ) (cursor : ChangeCursor) (at_ : Int)
    (submitted : RootStore)
    (hstep : store.Step (.intents (.beginFileCreate intent.id generation cursor at_)) submitted) :
    (∀ last, Machine.Run RootStore.BaselineSteps (FileStays intent) submitted last →
      last.SourceReady intent) ∧
    ∀ last first second after commit,
      Machine.Run RootStore.BaselineSteps (fun _ _ => True) submitted last →
      journalSelectedRootTwoWayLocalInventoryDiff last first second = .ok (after, commit) →
      (after.SourceReady intent ↔ FileStays intent last (.journalPass first second)) := by
  obtain ⟨htracked, hready⟩ :=
    submitted_sourceReady (RootStore.Reaches.journalSound hrun) hintent hstep
  constructor
  · intro last hlast
    have hkept : last.SourceTracked intent ∧ last.SourceReady intent := by
      refine hlast.invariant (P := fun s => s.SourceTracked intent ∧ s.SourceReady intent)
        ⟨htracked, hready⟩ ?_
      intro s step s' ⟨hs, hsReady⟩ hstays hstep
      refine ⟨hstep.sourceTracked hs, ?_⟩
      cases step with
      | journalPass first second =>
          obtain ⟨commit, hpass⟩ := hstep
          exact (journalPass_sourceReady_iff hs hpass).2.mpr hstays
      -- any other step of the baseline leaves the journal alone
      | other op =>
          obtain ⟨event, hevent, hrest⟩ := hsReady
          refine ⟨event, ?_, hrest⟩
          rwa [RootStore.localEvent?, (hstep.2.localEvents_frame hstep.1).1]
    exact hkept.2
  · intro last first second after commit hlast hpass
    have hlastTracked : last.SourceTracked intent :=
      hlast.invariant (P := fun s => s.SourceTracked intent) htracked
        fun _ _ _ hs _ hstep => hstep.sourceTracked hs
    exact (journalPass_sourceReady_iff hlastTracked hpass).2

/-- The first file `a` of the sample root, changed after its upload. -/
def sampleChanged : LocalItemSnapshot := ⟨['a'], .file, some 9, 5, 1, 1, .refl true, .refl true⟩

/-- The source event of a file that is changed after its submission. -/
theorem source_ready_iff_changed :
    ∃ (last : RootStore) (intent : RemoteWriteIntentRow), intent.id = 1 ∧
      last.SourceReady intent := by
  have hends : ∃ store ∈ (sampleOperations.foldlM RootStore.apply (RootStore.new .twoWay)).toOption,
      ∃ intent ∈ store.intents.rows, intent.id = 1 ∧
        ∃ submitted ∈ (store.apply
          (.intents (.beginFileCreate intent.id 0 (.ofChar '1') 2))).toOption,
        (submitted.localItems.find? intent.relativePath = none ∧
          snapshotAt [sampleChanged] intent.relativePath = some sampleChanged) ∧
        ∃ after ∈ (journalSelectedRootTwoWayLocalInventoryDiff submitted [sampleChanged]
          [sampleChanged]).toOption, True := by
    decide +kernel
  obtain ⟨store, hstore, intent, hintent, hid, submitted, hsubmitted, ⟨hnew, hfile⟩, after, hafter,
    -⟩ := hends
  have hrun : (RootStore.new .twoWay).Reaches store :=
    Machine.Run.of_foldlM (fun _ _ _ => trivial) (toOption_eq_some_iff.mp hstore)
  have hready := (source_ready_iff .twoWay store hrun intent hintent 0 _ 2 submitted
    (toOption_eq_some_iff.mp hsubmitted)).1 after.1
    (Machine.Run.refl.tail (.journalPass [sampleChanged] [sampleChanged])
      ⟨hnew, sampleChanged, hfile, rfl⟩ ⟨after.2, toOption_eq_some_iff.mp hafter⟩)
  exact ⟨after.1, intent, hid, hready⟩

/-- The source event of a file that is deleted after its upload is superseded by the next journal
    pass. -/
theorem source_lost_after_deletion :
    ∃ (store uploaded : RootStore) (intent : RemoteWriteIntentRow) (commit : LocalChangeJournalCommit)
      (after : RootStore), (RootStore.new .twoWay).Reaches store ∧ intent ∈ store.intents.rows ∧
      (∃ submitted, store.Step (.intents (.beginFileCreate intent.id 0 ⟨['1'], nofun⟩ 2)) submitted ∧
        Machine.Run RootStore.BaselineSteps (fun _ _ => True) submitted uploaded) ∧
      journalSelectedRootTwoWayLocalInventoryDiff uploaded [] [] = .ok (after, commit) ∧
      ¬ after.SourceReady intent := by
  have hends : ∃ store ∈ (sampleOperations.foldlM RootStore.apply (RootStore.new .twoWay)).toOption,
      ∃ intent ∈ store.intents.rows, intent.id = 1 ∧
        ∃ submitted ∈ (store.apply
          (.intents (.beginFileCreate intent.id 0 ⟨['1'], nofun⟩ 2))).toOption,
        ∃ recorded ∈ (submitted.apply
          (.intents (.recordFingerprint 1 1 3 (List.replicate 64 '0')))).toOption,
        ∃ uploaded ∈ (recorded.apply (.intents (.completeUpload 1 1 7 3))).toOption,
        ∃ after ∈ (journalSelectedRootTwoWayLocalInventoryDiff uploaded [] []).toOption,
          ¬ ∃ event ∈ after.1.localEvent? intent.sourceLocalEventId, event.status = .pending := by
    decide +kernel
  obtain ⟨store, hstore, intent, hintent, -, submitted, hsubmitted, recorded, hrecorded, uploaded,
    huploaded, after, hafter, hlost⟩ := hends
  have hupload : Machine.Run RootStore.BaselineSteps (fun _ _ => True) submitted uploaded :=
    (Machine.Run.refl.tail (.other _) trivial ⟨rfl, toOption_eq_some_iff.mp hrecorded⟩).tail
      (.other _) trivial ⟨rfl, toOption_eq_some_iff.mp huploaded⟩
  refine ⟨store, uploaded, intent, after.2, after.1,
    Machine.Run.of_foldlM (fun _ _ _ => trivial) (toOption_eq_some_iff.mp hstore), hintent,
    ⟨submitted, toOption_eq_some_iff.mp hsubmitted, hupload⟩, toOption_eq_some_iff.mp hafter, ?_⟩
  intro ⟨event, hevent, hpending, _⟩
  exact hlost ⟨event, hevent, (pending_of_isPending hpending).2⟩

end NubiSync
