import NubiSync.Daemon.RemoteWritePlan
import NubiSync.Daemon.SourceEvents

set_option autoImplicit false

/-! # The names of created items

A catalog with two live siblings of one name has no local paths: `build_remote_expected_paths` refuses
it with `DuplicateSiblingName`, and every later plan of the root with it. The plan of the remote writes,
the insert of an intent and its submission look at the parent of a create and never at the names under
it, so a create can be submitted for a name that the catalog already has. The steps that let this happen
are found here: an intent that is planned where the name is taken, and a catalog commit that brings in
an item at the place of a planned create. -/

namespace NubiSync

open Checks Relation

/-! ## Places -/

/-- A create of a file or a folder. -/
def RemoteWriteIntentFields.isCreate (fields : RemoteWriteIntentFields) : Bool :=
  fields.operation == .createFile || fields.operation == .createFolder

/-- Where a create puts its item: under its parent, by the last component of its path. -/
def RemoteWriteIntentFields.place (fields : RemoteWriteIntentFields) : Option Text × Text :=
  (fields.expectedParentRemoteId, fields.relativePath.basename)

/-- A live row at a place. -/
def CatalogRow.isAt (row : CatalogRow) (place : Option Text × Text) : Bool :=
  !row.trashed && (row.parentRemoteId, row.name) == place

/-- The catalog has a live item at a place. -/
def CatalogStore.isTaken (catalog : CatalogStore) (place : Option Text × Text) : Bool :=
  catalog.items.rows.any (·.isAt place)

/-- The intents an operation plans. -/
def RootOperation.plans : RootOperation → List RemoteWriteIntentInput
  | .intents (.create input) => [input]
  | .intents (.createBatch inputs) => inputs
  | _ => []

/-- The place of a mutation that brings in a live item. -/
def SyncRootCatalogMutation.place? : SyncRootCatalogMutation → Option (Option Text × Text)
  | .upsert item => if item.trashed then none else some (item.parentRemoteId, item.name)
  | .deleteSubtree _ => none

/-- The places at which an operation brings live items into the catalog. -/
def RootOperation.fills (store : RootStore) : RootOperation → List (Option Text × Text)
  | .inventory (.commitBatch _ mutations _) | .inventory (.commitWindow _ _ _ mutations) =>
      mutations.filterMap SyncRootCatalogMutation.place?
  | .inventory (.upsertItem item) => [item].filterMap fun item =>
      (SyncRootCatalogMutation.upsert item).place?
  | .inventory (.commitSnapshot _) | .inventory (.commitRebaseline ..) =>
      (store.remoteStaging.rows.filter (!·.trashed)).map fun row => (row.parentRemoteId, row.name)
  | _ => []

/-- The condition on a step: a create is planned where the catalog has no live item of the name, and no
    item is brought in at the place of a planned create. -/
def KeepsPlacesFree (store : RootStore) (op : RootOperation) : Prop :=
  (∀ input ∈ op.plans, input.isCreate = true → store.catalog.isTaken input.place = false) ∧
    ∀ intent ∈ store.intents.rows, intent.isCreate = true → intent.status = .planned →
      intent.place ∉ op.fills store

instance (store : RootStore) (op : RootOperation) : Decidable (KeepsPlacesFree store op) :=
  inferInstanceAs (Decidable (_ ∧ _))

/-- No planned create has its place taken. -/
def RootStore.PlacesFree (store : RootStore) : Prop :=
  ∀ intent ∈ store.intents.rows, intent.isCreate = true → intent.status = .planned →
    store.catalog.isTaken intent.place = false

/-! ## What a step does to a place -/

variable {store next : RootStore} {op : RootOperation} {place : Option Text × Text}

theorem isTaken_iff {catalog : CatalogStore} :
    catalog.isTaken place = true ↔ ∃ row ∈ catalog.items.rows, row.trashed = false ∧
      (row.parentRemoteId, row.name) = place := by
  simp [CatalogStore.isTaken, CatalogRow.isAt]

/-- One write takes a place only by an upsert there. -/
theorem taken_before_write {upserts : RemoteItem → Prop} {catalog next : CatalogStore}
    (hwrite : CatalogWrite upserts catalog next) (htaken : next.isTaken place = true) :
    catalog.isTaken place = true ∨ ∃ item, upserts item ∧ item.trashed = false ∧
      (item.parentRemoteId, item.name) = place := by
  obtain ⟨row, hrow, hlive, hplace⟩ := isTaken_iff.mp htaken
  cases hwrite with
  | upsert item hitem hitemLive =>
      obtain ⟨hold, -⟩ | rfl := Table.mem_upsert.mp hrow
      · rw [items_invalidateForUpsert] at hold
        exact Or.inl (isTaken_iff.mpr ⟨row, hold, hlive, hplace⟩)
      · exact Or.inr ⟨item, hitem, hitemLive, hplace⟩
  | deleteSubtree remoteId =>
      exact Or.inl (isTaken_iff.mpr ⟨row, (Table.mem_deleteWhere.mp hrow).1, hlive, hplace⟩)
  | _ => exact Or.inl htaken

theorem taken_before_writes {upserts : RemoteItem → Prop} {catalog next : CatalogStore}
    (hwrites : CatalogWrites upserts catalog next) (htaken : next.isTaken place = true) :
    catalog.isTaken place = true ∨ ∃ item, upserts item ∧ item.trashed = false ∧
      (item.parentRemoteId, item.name) = place := by
  induction hwrites with
  | refl => exact Or.inl htaken
  | tail _ hlast ih =>
      obtain hmiddle | hitem := taken_before_write hlast htaken
      · exact ih hmiddle
      · exact Or.inr hitem

theorem mem_fills_of_upsert {mutations : List SyncRootCatalogMutation} {item : RemoteItem}
    (hitem : .upsert item ∈ mutations) (hlive : item.trashed = false) :
    (item.parentRemoteId, item.name) ∈ mutations.filterMap SyncRootCatalogMutation.place? := by
  refine List.mem_filterMap.mpr ⟨_, hitem, ?_⟩
  simp [SyncRootCatalogMutation.place?, hlive]

theorem mem_fills {item : RemoteItem} (hitem : op.Upserts item) (hlive : item.trashed = false) :
    (item.parentRemoteId, item.name) ∈ op.fills store := by
  cases op with
  | inventory iop =>
      cases iop with
      | commitBatch expected mutations cursor => exact mem_fills_of_upsert hitem hlive
      | commitWindow base checkpoint changes mutations => exact mem_fills_of_upsert hitem hlive
      | upsertItem reported =>
          obtain rfl : item = reported := hitem
          simp [RootOperation.fills, SyncRootCatalogMutation.place?, hlive]
      | _ => cases hitem
  | _ => cases hitem

/-- **A place is taken by a step that brings an item there.** -/
theorem RootStore.Step.taken_before (h : store.Step op next)
    (htaken : next.catalog.isTaken place = true) :
    store.catalog.isTaken place = true ∨ place ∈ op.fills store := by
  cases hreplaces : op.replacesCatalog with
  | false =>
      obtain htaken | ⟨item, hitem, hlive, rfl⟩ := taken_before_writes (h.writes hreplaces) htaken
      · exact Or.inl htaken
      · exact Or.inr (mem_fills hitem hlive)
  | true =>
      obtain ⟨itemCount, hcatalog⟩ := h.replaced hreplaces
      rw [hcatalog] at htaken
      obtain ⟨row, hrow, hlive, hplace⟩ := isTaken_iff.mp htaken
      have hstaged : place ∈ (store.remoteStaging.rows.filter (!·.trashed)).map
          fun row => (row.parentRemoteId, row.name) :=
        List.mem_map.mpr ⟨row, List.mem_filter.mpr ⟨hrow, by simp [hlive]⟩, hplace⟩
      cases op with
      | inventory iop =>
          cases iop with
          | commitSnapshot fence => exact Or.inr hstaged
          | commitRebaseline => exact Or.inr hstaged
          | _ => cases hreplaces
      | _ => cases hreplaces

/-! ## What a step does to the planned creates -/

/-- The rows of a batch are those there were and those of its inputs. -/
theorem ensures_plannedFrom (store : RootStore) (inputs : List RemoteWriteIntentInput) :
    Ensures (store.createRemoteWriteIntentsBatch inputs) fun r => ∀ intent ∈ r.1.intents.rows,
      intent ∈ store.intents.rows ∨ ∃ input ∈ inputs, ∃ id, intent = input.plannedRow id := by
  refine .check fun _ => fun r h => ?_
  refine foldlM_invariant (P := fun acc : RootStore × List ℕ => ∀ intent ∈ acc.1.intents.rows,
      intent ∈ store.intents.rows ∨ ∃ input ∈ inputs, ∃ id, intent = input.plannedRow id)
    ?_ h fun intent hintent => Or.inl hintent
  intro input hinput acc next hnext hacc
  obtain ⟨inserted, hinserted, hreturn⟩ := bind_eq_ok.mp hnext
  obtain rfl := Except.ok.inj hreturn
  obtain ⟨-, rfl⟩ := insertRemoteWriteIntent_eq_ok_iff.mp hinserted
  intro intent hintent
  obtain ⟨hold, -⟩ | rfl := Table.mem_upsert.mp hintent
  · exact hacc intent hold
  · exact Or.inr ⟨input, hinput, _, rfl⟩

/-- **A planned create is one there was, or one the step plans.** -/
theorem RootStore.Step.planned_before (h : store.Step op next) {intent : RemoteWriteIntentRow}
    (hintent : intent ∈ next.intents.rows) (hplanned : intent.status = .planned) :
    intent ∈ store.intents.rows ∨ ∃ input ∈ op.plans, ∃ id, intent = input.plannedRow id := by
  cases h.intentEffect with
  | none _ _ _ hintents => exact Or.inl (hintents ▸ hintent)
  | inserted iop _ hop =>
      cases iop with
      | create input =>
          obtain ⟨r, hr, hreturn⟩ := bind_eq_ok.mp h
          obtain rfl := Except.ok.inj hreturn
          obtain ⟨-, rfl⟩ := insertRemoteWriteIntent_eq_ok_iff.mp hr
          obtain ⟨hold, -⟩ | rfl := Table.mem_upsert.mp hintent
          · exact Or.inl hold
          · exact Or.inr ⟨input, List.mem_singleton_self _, _, rfl⟩
      | createBatch inputs =>
          obtain ⟨r, hr, hreturn⟩ := bind_eq_ok.mp h
          obtain rfl := Except.ok.inj hreturn
          exact ensures_plannedFrom store inputs r hr intent hintent
      | _ => cases hop
  -- no move leads back to planned
  | moved iop _ hmoved =>
      obtain ⟨named, hnamed, moved, hmove, rfl⟩ := hmoved
      obtain ⟨hold, -⟩ | rfl := Table.mem_upsert.mp hintent
      · exact Or.inl hold
      · exact absurd hplanned hmove.not_planned

/-- Only a catalog operation brings items in, and none of these plans an intent. -/
theorem fills_of_plans {input : RemoteWriteIntentInput} (hinput : input ∈ op.plans) :
    op.fills store = [] := by
  cases op with
  | intents iop => rfl
  | _ => cases hinput

theorem RootStore.Step.placesFree (h : store.Step op next) (hfree : store.PlacesFree)
    (hkeeps : KeepsPlacesFree store op) : next.PlacesFree := by
  intro intent hintent hcreate hplanned
  rw [Bool.eq_false_iff]
  intro htaken
  obtain hbefore | hfills := h.taken_before htaken
  · obtain hold | ⟨input, hinput, id, rfl⟩ := h.planned_before hintent hplanned
    · rw [hfree intent hold hcreate hplanned] at hbefore
      cases hbefore
    · have hunplanned := hkeeps.1 input hinput hcreate
      rw [show input.place = (input.plannedRow id).place from rfl, hbefore] at hunplanned
      cases hunplanned
  · obtain hold | ⟨input, hinput, -⟩ := h.planned_before hintent hplanned
    · exact hkeeps.2 intent hold hcreate hplanned hfills
    · rw [fills_of_plans hinput] at hfills
      cases hfills

/-! ## Runs -/

theorem placesFree_of_run {mode : SyncMode}
    (hrun : Machine.Run RootStore.Step KeepsPlacesFree (RootStore.new mode) store) :
    store.PlacesFree := by
  refine hrun.invariant (P := RootStore.PlacesFree) (fun intent hintent => ?_) ?_
  · cases hintent
  · intro s op next hs hkeeps hstep
    exact hstep.placesFree hs hkeeps

/-- A submission finds its intent planned. -/
theorem planned_of_begin {id generation : ℕ} {cursor : ChangeCursor} {at_ : Int}
    {r : RootStore × RemoteWriteIntentExecutionState}
    (h : store.beginFileCreateSubmission id generation cursor at_ = .ok r ∨
      store.beginFolderCreateSubmission id generation cursor at_ = .ok r) :
    ∃ intent, store.intents.find? id = some intent ∧ intent.isCreate = true ∧
      intent.status = .planned := by
  have hfound : ∀ operation createdKind, (operation = .createFile ∨ operation = .createFolder) →
      Ensures (store.beginCreateSubmission operation createdKind id generation cursor at_) fun _ =>
        ∃ intent, store.intents.find? id = some intent ∧ intent.isCreate = true ∧
          intent.status = .planned := by
    intro operation createdKind hoperation
    refine .check fun _ => .after fun _ => .check fun _ => .present fun intent hintent => ?_
    refine .check fun hguard => fun _ _ => ⟨intent, hintent, ?_⟩
    simp only [Bool.or_eq_false_iff, bne_eq_false_iff_eq] at hguard
    obtain ⟨⟨⟨⟨⟨hkind, hstatus⟩, -⟩, -⟩, -⟩, -⟩ := hguard
    obtain rfl | rfl := hoperation
    · exact ⟨by simp [RemoteWriteIntentFields.isCreate, hkind], hstatus⟩
    · exact ⟨by simp [RemoteWriteIntentFields.isCreate, hkind], hstatus⟩
  obtain h | h := h
  · exact hfound .createFile .file (Or.inl rfl) r h
  · exact hfound .createFolder .directory (Or.inr rfl) r h

/-- **A create is never submitted for a name that is taken**, in every run whose steps meet the
    condition. -/
theorem submitted_name_free (mode : SyncMode) (store : RootStore)
    (hrun : Machine.Run RootStore.Step KeepsPlacesFree (RootStore.new mode) store)
    (id generation : ℕ) (cursor : ChangeCursor) (at_ : Int)
    (r : RootStore × RemoteWriteIntentExecutionState)
    (h : store.beginFileCreateSubmission id generation cursor at_ = .ok r ∨
      store.beginFolderCreateSubmission id generation cursor at_ = .ok r) :
    ∃ intent, store.intents.find? id = some intent ∧
      ∀ row ∈ store.catalog.items.rows, row.trashed = false →
        ¬ (row.parentRemoteId = intent.expectedParentRemoteId ∧
          row.name = intent.relativePath.basename) := by
  obtain ⟨intent, hintent, hcreate, hplanned⟩ := planned_of_begin h
  refine ⟨intent, hintent, fun row hrow hlive => ?_⟩
  rintro ⟨hparent, hname⟩
  have hfree := placesFree_of_run hrun intent (Table.find?_eq_some_iff.mp hintent).1 hcreate hplanned
  rw [isTaken_iff.mpr ⟨row, hrow, hlive, Prod.ext hparent hname⟩] at hfree
  cases hfree

/-- A file is created below a folder, into which another client puts a file between the plan and the
    submission. -/
theorem submitted_name_free_file :
    ∃ (store : RootStore) (r : RootStore × RemoteWriteIntentExecutionState)
      (intent : RemoteWriteIntentRow),
      store.catalog.items.rows.map (·.name) = [['d'], ['c']] ∧
        store.beginFileCreateSubmission 1 0 ⟨['2'], nofun⟩ 3 = .ok r ∧
        store.intents.find? 1 = some intent ∧
        ∀ row ∈ store.catalog.items.rows, row.trashed = false →
          ¬ (row.parentRemoteId = intent.expectedParentRemoteId ∧
            row.name = intent.relativePath.basename) := by
  have hends : ∃ store ∈ (sampleBelowFolder.foldlM (fun s op => do
        refuseIf (!decide (KeepsPlacesFree s op)) StorageError.sqlite
        RootStore.apply s op) (RootStore.new .twoWay)).toOption,
      store.catalog.items.rows.map (·.name) = [['d'], ['c']] ∧
      ∃ r ∈ (store.beginFileCreateSubmission 1 0 ⟨['2'], nofun⟩ 3).toOption, True := by
    decide +kernel
  obtain ⟨store, hstore, hnames, r, hr, -⟩ := hends
  have hrun : Machine.Run RootStore.Step KeepsPlacesFree (RootStore.new .twoWay) store :=
    Machine.Run.of_guarded (toOption_eq_some_iff.mp hstore)
  have hbegin := toOption_eq_some_iff.mp hr
  obtain ⟨intent, hintent, hfree⟩ :=
    submitted_name_free .twoWay store hrun 1 0 _ 3 r (Or.inl hbegin)
  exact ⟨store, r, intent, hnames, hbegin, hintent, hfree⟩

/-- A two-way root with an empty local baseline, to which another client has uploaded a file `a` before
    a local file of that name is observed. -/
def sampleTaken : List RootOperation :=
  [.inventory (.commitSnapshot (.ofChar '0')),
    .inventory (.stageWindowPage (.ofChar '0') none
      ⟨[.upsert ⟨['A'], some ['0'], ['a'], .file, some 3, none, false⟩], none, some (.ofChar '1')⟩),
    .inventory (.commitWindow (.ofChar '0') (.ofChar '1') 1
      [.upsert ⟨['A'], some ['0'], ['a'], .file, some 3, none, false⟩]),
    .localItems (.commitSnapshot 1),
    .authority (.commitSnapshot (.ofChar '1') [sampleAuthority,
      ⟨['A'], 1, none, none, true, true, true, 1, rfl⟩] 1)]

set_option synthInstance.maxSize 512 in
/-- The journal pass, the plan and the submission go through for the name that is taken. -/
theorem taken_name_submitted :
    ∃ (store : RootStore) (journalled : RootStore × LocalChangeJournalCommit)
      (plan : SelectedRootRemoteWriteIntentPlan) (entry : SelectedRootRemoteWritePlanEntry)
      (input : RemoteWriteIntentInput) (planned : RootStore)
      (r : RootStore × RemoteWriteIntentExecutionState) (intent : RemoteWriteIntentRow),
      (RootStore.new .twoWay).Reaches store ∧
      journalSelectedRootTwoWayLocalInventoryDiff store [sampleChanged] [sampleChanged]
        = .ok journalled ∧
      planSelectedRootRemoteWriteIntents journalled.1 (some ['0']) [sampleChanged] [sampleChanged] true
        = .ok plan ∧
      entry ∈ plan.entries ∧ entry.createIntentInput plan.baselineGeneration ['B'] = .ok input ∧
      journalled.1.Step (.intents (.createBatch [input])) planned ∧
      planned.beginFileCreateSubmission 1 0 ⟨['1'], nofun⟩ 2 = .ok r ∧
      planned.intents.find? 1 = some intent ∧
      ∃ row ∈ planned.catalog.items.rows, row.trashed = false ∧
        row.parentRemoteId = intent.expectedParentRemoteId ∧
        row.name = intent.relativePath.basename := by
  have hends : ∃ store ∈ (sampleTaken.foldlM RootStore.apply (RootStore.new .twoWay)).toOption,
      ∃ journalled ∈ (journalSelectedRootTwoWayLocalInventoryDiff store [sampleChanged]
        [sampleChanged]).toOption,
      ∃ plan ∈ (planSelectedRootRemoteWriteIntents journalled.1 (some ['0']) [sampleChanged]
        [sampleChanged] true).toOption,
      ∃ entry ∈ plan.entries,
      ∃ input ∈ (entry.createIntentInput plan.baselineGeneration ['B']).toOption,
      ∃ planned ∈ (journalled.1.apply (.intents (.createBatch [input]))).toOption,
      ∃ r ∈ (planned.beginFileCreateSubmission 1 0 ⟨['1'], nofun⟩ 2).toOption,
      ∃ intent ∈ planned.intents.find? 1, ∃ row ∈ planned.catalog.items.rows, row.trashed = false ∧
        row.parentRemoteId = intent.expectedParentRemoteId ∧
        row.name = intent.relativePath.basename := by
    decide +kernel
  obtain ⟨store, hstore, journalled, hjournalled, plan, hplan, entry, hentry, input, hinput, planned,
    hplanned, r, hr, intent, hintent, htaken⟩ := hends
  have hrun : (RootStore.new .twoWay).Reaches store :=
    Machine.Run.of_foldlM (fun _ _ _ => trivial) (toOption_eq_some_iff.mp hstore)
  exact ⟨store, journalled, plan, entry, input, planned, r, intent, hrun,
    toOption_eq_some_iff.mp hjournalled, toOption_eq_some_iff.mp hplan, hentry,
    toOption_eq_some_iff.mp hinput, toOption_eq_some_iff.mp hplanned, toOption_eq_some_iff.mp hr,
    hintent, htaken⟩

end NubiSync
