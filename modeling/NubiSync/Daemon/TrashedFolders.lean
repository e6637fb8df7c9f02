import NubiSync.Library.Search
import NubiSync.Daemon.PlanSafety

set_option autoImplicit false

/-! # What goes with a trashed folder

Trashing a remote folder takes everything catalogued below it. The planner judges the deletion of a
directory by its own receipt, its item, its parent and its authority, and never looks at the items below
the folder: one that was never materialized here, or was moved in from elsewhere, goes with it.
`trashesOnlyDeleted_iff` says exactly when nothing goes that the user did not delete: no link of the
catalog leads from the folder, or from an accounted-for item below it, to an item that is not accounted
for. -/

namespace NubiSync

namespace RemoteWritePlanInputs

/-- The parent link of a catalogued item, between remote ids. -/
def ParentLink (inputs : RemoteWritePlanInputs) (parent remoteId : Text) : Prop :=
  ∃ item ∈ inputs.remoteItems, item.parentRemoteId = some parent ∧ item.remoteId = remoteId

/-- The user deleted the item below a directory: a current receipt gives the item a path below the
    directory, and that path is the path of a deletion. -/
def AccountedBelow (inputs : RemoteWritePlanInputs) (directory remoteId : Text) : Prop :=
  ∃ kind, ∃ path ∈ inputs.deletedPaths,
    inputs.Receipted path remoteId kind ∧ directory.IsBelow path

/-- Every `Ready` entry of a deleted directory targets a folder below which everything catalogued was
    deleted by the user. -/
def TrashesOnlyDeleted (inputs : RemoteWritePlanInputs)
    (entries : List SelectedRootRemoteWritePlanEntry) : Prop :=
  ∀ event entry, (event, entry) ∈ inputs.events.zip entries →
    event.eventKind = .deleted → event.baselineKind = some .directory →
    entry.disposition = .ready → entry.operation = some .trashItem →
    ∀ folder, entry.targetRemoteId = some folder →
      ∀ remoteId, Relation.TransGen inputs.ParentLink folder remoteId →
        inputs.AccountedBelow event.relativePath remoteId

/-- For every deletion of a directory that nothing stands against, no link leads from its folder, or
    from an item that is reached from it through accounted-for items, to an item that is not accounted
    for. -/
def LosesNothing (inputs : RemoteWritePlanInputs) : Prop :=
  ∀ event ∈ inputs.events, event.eventKind = .deleted →
    ∀ parent folder authority, inputs.Changeable event .directory parent folder authority →
      ∀ above remoteId,
        Worklist.Through inputs.ParentLink (inputs.AccountedBelow event.relativePath)
          folder.remoteId above →
        inputs.ParentLink above remoteId → inputs.AccountedBelow event.relativePath remoteId

theorem mem_zip_planEntry {inputs : RemoteWritePlanInputs} {event : LocalChangeEventRow}
    {entry : SelectedRootRemoteWritePlanEntry} :
    (event, entry) ∈ inputs.events.zip (inputs.events.map inputs.planEntry) ↔
      event ∈ inputs.events ∧ inputs.planEntry event = entry := by
  have hzip : inputs.events.zip (inputs.events.map inputs.planEntry)
      = inputs.events.map fun event => (event, inputs.planEntry event) := by
    simpa using List.zip_map' (f := id) (g := inputs.planEntry) (l := inputs.events)
  rw [hzip, List.mem_map]
  constructor
  · intro ⟨event', hevent, heq⟩
    obtain ⟨rfl, hentry⟩ := Prod.mk.inj heq
    exact ⟨hevent, hentry⟩
  · intro ⟨hevent, hentry⟩
    exact ⟨event, hevent, Prod.ext rfl hentry⟩

/-- **What a planned folder deletion takes along**: every folder it targets holds only what the user
    deleted, exactly when no folder that passes the planner's own checks leads to an item that is not
    accounted for. -/
theorem trashesOnlyDeleted_iff (inputs : RemoteWritePlanInputs)
    (entries : List SelectedRootRemoteWritePlanEntry) (h : inputs.deriveEntries = .ok entries) :
    inputs.TrashesOnlyDeleted entries ↔ inputs.LosesNothing := by
  obtain ⟨hkeys, rfl⟩ := deriveEntries_eq_ok h
  constructor
  · intro htrashes event hevent hdeleted parent folder authority hchangeable
    obtain ⟨hready, htarget, -, -⟩ := hkeys.planEntry_of_changeable hchangeable
    have hdirectory : event.baselineKind = some .directory := hchangeable.baseline_of_deleted hdeleted
    have htrash : (inputs.planEntry event).operation = some .trashItem := by
      rw [(planEntry_tellsEvent event).operation_eq, planOperation, hdeleted]
    exact Worklist.forall_transGen_iff_through.mp
      (htrashes event _ (mem_zip_planEntry.mpr ⟨hevent, rfl⟩) hdeleted hdirectory hready htrash
        folder.remoteId htarget)
  · intro hloses event entry hmem hdeleted hdirectory hready htrash folder htarget
    obtain ⟨hevent, rfl⟩ := mem_zip_planEntry.mp hmem
    obtain ⟨kind, parent, item, authority, hchangeable, hitem, -, -⟩ :=
      hkeys.planEntry_ready_records hready
    obtain rfl := Option.some.inj ((hchangeable.baseline_of_deleted hdeleted).symm.trans hdirectory)
    obtain rfl := Option.some.inj (hitem.symm.trans htarget)
    exact Worklist.forall_transGen_iff_through.mpr
      (hloses event hevent hdeleted parent item authority hchangeable)

/-- A converged root whose folder `docs` was deleted here, while `x` below it was never materialized:
    the folder is ready to be trashed, and `x` goes with it. -/
def unmaterializedChild : RemoteWritePlanInputs where
  remoteRootId := "r".toList
  events := [⟨1, 1, .deleted, "docs".toList, some .directory, none, .pending⟩]
  baseline := [⟨"docs".toList, .directory, none, 10, 8, 100, .refl true, .refl false⟩]
  current := []
  remoteItems := [⟨"d".toList, some "r".toList, "docs".toList, .folder, none, none, false⟩,
    ⟨"x".toList, some "d".toList, "new".toList, .file, some 4, none, false⟩]
  fileReceipts := []
  directoryReceipts := [⟨"d".toList, "docs".toList, .current⟩]
  authorities := sampleFolderAuthorities ++ [⟨"x".toList, 7, none, none, true, true, false, 30, rfl⟩]

/-- A directory trash can take what the user never deleted. -/
theorem not_trashesOnlyDeleted : ¬ ∀ (inputs : RemoteWritePlanInputs)
    (entries : List SelectedRootRemoteWritePlanEntry), inputs.deriveEntries = .ok entries →
      inputs.TrashesOnlyDeleted entries := by
  intro h
  have htrashes := h unmaterializedChild _ rfl
  have hlink : unmaterializedChild.ParentLink "d".toList "x".toList :=
    ⟨⟨"x".toList, some "d".toList, "new".toList, .file, some 4, none, false⟩, by decide, rfl, rfl⟩
  obtain ⟨kind, path, hpath, hreceipt, -⟩ :=
    htrashes _ _ List.mem_cons_self rfl rfl (by decide) rfl "d".toList (by decide) "x".toList
      (.single hlink)
  cases kind <;> simp [Receipted, unmaterializedChild] at hreceipt

/-- The same root once all of `docs` was here: the folder was deleted with the file in it. -/
def deletedChild : RemoteWritePlanInputs where
  remoteRootId := "r".toList
  events := [⟨1, 1, .deleted, "docs".toList, some .directory, none, .pending⟩,
    ⟨2, 1, .deleted, "docs/new".toList, some .file, none, .pending⟩]
  baseline := [⟨"docs".toList, .directory, none, 10, 8, 100, .refl true, .refl false⟩,
    ⟨"docs/new".toList, .file, some 4, 10, 8, 101, .refl true, .refl true⟩]
  current := []
  remoteItems := unmaterializedChild.remoteItems
  fileReceipts := [⟨"x".toList, "docs/new".toList, 4, List.replicate 64 'a', .current⟩]
  directoryReceipts := unmaterializedChild.directoryReceipts
  authorities := unmaterializedChild.authorities

theorem losesNothing_deletedChild : deletedChild.LosesNothing := by
  have haccounted : deletedChild.AccountedBelow "docs".toList "x".toList :=
    ⟨.file, "docs/new".toList, by decide, ⟨_, List.mem_cons_self, rfl, rfl⟩, "new".toList, rfl⟩
  -- the only link from the folder, or from what is deleted with it, leads to the deleted file
  have hlinks : ∀ {parent remoteId}, deletedChild.ParentLink parent remoteId →
      parent = "r".toList ∨ remoteId = "x".toList := by
    rintro parent remoteId ⟨item, hitem, hparent, rfl⟩
    simp only [deletedChild, unmaterializedChild, List.mem_cons, List.not_mem_nil, or_false] at hitem
    rcases hitem with rfl | rfl
    · exact .inl (Option.some.inj hparent).symm
    · exact .inr rfl
  intro event hevent hdeleted parent folder authority hchangeable above remoteId hreached hlink
  have hfolder : event.relativePath = "docs".toList ∧ folder.remoteId = "d".toList := by
    have hbaseline := hchangeable.baseline_of_deleted hdeleted
    obtain ⟨receipt, hreceipt, hpath, hid⟩ := hchangeable.owned.receipted
    simp only [deletedChild, unmaterializedChild, List.mem_cons, List.not_mem_nil, or_false]
      at hevent hreceipt
    subst hreceipt
    rcases hevent with rfl | rfl
    · exact ⟨rfl, hid.symm⟩
    · cases hbaseline
  rw [hfolder.1]
  rcases hlinks hlink with habove | rfl
  · -- the root is not reached
    rw [hfolder.1, hfolder.2] at hreached
    subst habove
    cases hreached with
    | next hbefore hstep hgood =>
        obtain ⟨kind, path, -, hreceipt, -⟩ := hgood
        cases kind <;> simp [Receipted, deletedChild, unmaterializedChild] at hreceipt
  · exact haccounted

/-- The folder is ready to be trashed, and takes along what was deleted. -/
theorem trashesOnlyDeleted_iff_sample :
    (∃ entry ∈ deletedChild.events.map deletedChild.planEntry, entry.disposition = .ready ∧
      entry.operation = some .trashItem ∧ entry.targetRemoteId = some "d".toList) ∧
    deletedChild.ParentLink "d".toList "x".toList ∧
    deletedChild.TrashesOnlyDeleted (deletedChild.events.map deletedChild.planEntry) :=
  ⟨⟨_, List.mem_cons_self, by decide, rfl, by decide⟩,
    ⟨⟨"x".toList, some "d".toList, "new".toList, .file, some 4, none, false⟩, by decide, rfl, rfl⟩,
    (trashesOnlyDeleted_iff deletedChild _ rfl).mpr losesNothing_deletedChild⟩

end RemoteWritePlanInputs

end NubiSync
