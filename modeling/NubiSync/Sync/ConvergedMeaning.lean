import NubiSync.Sync.UnblockedCounts

set_option autoImplicit false

/-! # What a converged root is

A plan without actions reports the root as converged, and the local baseline and the journal run on
that. `Converged` says what the report means without the planner: the tree is the catalog, path by
path and kind by kind, and the receipts own it. -/

namespace NubiSync

open Indexing

/-- The map from local path to local kind. -/
def localKindAt (localEntries : List LocalTreeEntry) (path : Text) : Option LocalTreeEntryKind :=
  (localEntries.find? (·.relativePath = path)).map LocalTreeEntry.kind

/-- The map from expected path to the local kind of its item. -/
def expectedKindAt (expectedPaths : List RemoteExpectedPath) (path : Text) :
    Option LocalTreeEntryKind :=
  (expectedPaths.find? (·.relativePath = path)).map fun e => localKindForRemote e.kind

/-- The tree and the receipts are those of the catalog. -/
structure Converged (expectedPaths : List RemoteExpectedPath) (localEntries : List LocalTreeEntry)
    (receipts : List ReceiveOnlyOwnershipReceipt) : Prop where
  same_tree : ∀ path, localKindAt localEntries path = expectedKindAt expectedPaths path
  files_owned : ∀ e ∈ expectedPaths, e.kind = .file → ∃ r ∈ receipts, r.remoteId = e.remoteId ∧
    r.relativePath = e.relativePath ∧ r.kind = .file ∧ r.state = .current
  receipts_match : ∀ r ∈ receipts, r.state = .current ∧ ∃ e ∈ expectedPaths,
    e.remoteId = r.remoteId ∧ e.relativePath = r.relativePath ∧ localKindForRemote e.kind = r.kind

section

variable {expectedPaths : List RemoteExpectedPath} {localEntries : List LocalTreeEntry}
  {receipts : List ReceiveOnlyOwnershipReceipt}
variable (hd : DistinctInputs expectedPaths localEntries receipts)

include hd

theorem DistinctInputs.localKindAt_eq_some (path : Text) (kind : LocalTreeEntryKind) :
    localKindAt localEntries path = some kind ↔
      ∃ l ∈ localEntries, l.relativePath = path ∧ l.kind = kind :=
  find?_key_map_eq_some hd.local_paths path kind

theorem DistinctInputs.expectedKindAt_eq_some (path : Text) (kind : LocalTreeEntryKind) :
    expectedKindAt expectedPaths path = some kind ↔
      ∃ e ∈ expectedPaths, e.relativePath = path ∧ localKindForRemote e.kind = kind :=
  find?_key_map_eq_some hd.expected_paths path kind

theorem DistinctInputs.same_tree_iff :
    (∀ path, localKindAt localEntries path = expectedKindAt expectedPaths path) ↔
      (∀ l ∈ localEntries, ∃ e ∈ expectedPaths, e.relativePath = l.relativePath ∧
        localKindForRemote e.kind = l.kind) ∧
      ∀ e ∈ expectedPaths, ∃ l ∈ localEntries, l.relativePath = e.relativePath ∧
        l.kind = localKindForRemote e.kind := by
  constructor
  · intro hsame
    constructor
    · intro l hl
      rw [← hd.expectedKindAt_eq_some, ← hsame, hd.localKindAt_eq_some]
      exact ⟨l, hl, rfl, rfl⟩
    · intro e he
      rw [← hd.localKindAt_eq_some, hsame, hd.expectedKindAt_eq_some]
      exact ⟨e, he, rfl, rfl⟩
  · intro ⟨hlocal, hexpected⟩ path
    refine Option.ext fun kind => ?_
    rw [hd.localKindAt_eq_some, hd.expectedKindAt_eq_some]
    constructor
    · intro ⟨l, hl, hpath, hkind⟩
      obtain ⟨e, he, hepath, hekind⟩ := hlocal l hl
      exact ⟨e, he, hepath.trans hpath, hekind.trans hkind⟩
    · intro ⟨e, he, hpath, hkind⟩
      obtain ⟨l, hl, hlpath, hlkind⟩ := hexpected e he
      exact ⟨l, hl, hlpath.trans hpath, hlkind.trans hkind⟩

end

/-- The outcomes of the first pass that are no action. -/
theorem presenceOutcome_quiet_iff (kind : RemoteItemKind) (present : Bool)
    (state : Option ReceiveOnlyReceiptState) :
    (∀ action, presenceOutcome kind present state ≠ .act action) ↔
      present = true ∧ (state = some .current ∨ kind = .folder ∧ state = none) := by
  cases kind <;> cases present <;> rcases state with _ | _ | _ <;>
    simp [presenceOutcome, matchLocalEntry, localKindForRemote]

section

variable {expectedPaths : List RemoteExpectedPath} {localEntries : List LocalTreeEntry}
  {receipts : List ReceiveOnlyOwnershipReceipt}

/-- No candidate: what each pass has seen. -/
theorem DistinctInputs.converged (hd : DistinctInputs expectedPaths localEntries receipts)
    (h : planDrafts expectedPaths localEntries receipts = []) :
    Converged expectedPaths localEntries receipts := by
  have hno : ∀ draft, draft ∉ planDrafts expectedPaths localEntries receipts := by simp [h]
  have hu : UnblockedInputs expectedPaths localEntries receipts :=
    hd.unblockedInputs fun draft hdraft => absurd hdraft (hno draft)
  -- the first pass: every expected path is there and owned
  have hexpected : ∀ e ∈ expectedPaths, isPresent localEntries e = true ∧
      (receiptState receipts e = some .current ∨
        e.kind = .folder ∧ receiptState receipts e = none) := by
    intro e he
    refine (presenceOutcome_quiet_iff _ _ _).mp fun action haction => ?_
    rw [← hu.classify hd he] at haction
    exact hno _ ((mem_planDrafts _ _ _ _).mpr
      (Or.inl ⟨e, he, expectedDraft_eq_some.mpr ⟨action, haction, rfl⟩⟩))
  -- the second pass: nothing local lies elsewhere
  have hlocal : ∀ l ∈ localEntries, isLocalOnly expectedPaths l = false := by
    intro l hl
    by_contra hother
    rw [Bool.not_eq_false] at hother
    obtain ⟨⟨receipt, howned⟩, -⟩ := hu.local_only l hl hother
    exact hno _ ((mem_planDrafts _ _ _ _).mpr (Or.inr (Or.inl ⟨l, hl,
      hd.localDraft_of_staleOwned ((isLocalOnly_iff _ _).mp hother) howned⟩)))
  refine ⟨hd.same_tree_iff.mpr ⟨fun l hl => ?_, fun e he => ?_⟩, fun e he hfile => ?_,
    fun r hr => ?_⟩
  · have hnot : ¬ isLocalOnly expectedPaths l = true := by simp [hlocal l hl]
    rw [isLocalOnly_iff] at hnot
    push Not at hnot
    obtain ⟨e, he, hpath⟩ := hnot
    exact ⟨e, he, hpath, (hu.local_kind e he l hl hpath.symm).symm⟩
  · obtain ⟨l, hl, hpath⟩ := (isPresent_iff _ _).mp (hexpected e he).1
    exact ⟨l, hl, hpath, hu.local_kind e he l hl hpath⟩
  · obtain hcurrent | hfolder := (hexpected e he).2
    · obtain ⟨r, hr, hid, hstate⟩ := (receiptState_eq_some_iff hd.receipt_ids e .current).mp hcurrent
      obtain ⟨hpath, hkind⟩ := hu.own_receipt he hr hid
      exact ⟨r, hr, hid, hpath, by rw [hkind, hfile]; rfl, hstate⟩
    · rw [hfile] at hfolder
      cases hfolder.1
  · obtain ⟨e, he, hid, hpath, hkind⟩ | ⟨l, hl, hother, -⟩ := hu.receipt_cases hd hr
    · refine ⟨?_, e, he, hid, hpath, hkind⟩
      have hstate : receiptState receipts e = some r.state :=
        (receiptState_eq_some_iff hd.receipt_ids e r.state).mpr ⟨r, hr, hid.symm, rfl⟩
      obtain hcurrent | hnone := (hexpected e he).2
      · exact Option.some.inj (hstate.symm.trans hcurrent)
      · exact absurd (hstate.symm.trans hnone.2) nofun
    · exact absurd hother (by simp [hlocal l hl])

theorem Converged.planDrafts_eq_nil (h : Converged expectedPaths localEntries receipts)
    (hd : DistinctInputs expectedPaths localEntries receipts) :
    planDrafts expectedPaths localEntries receipts = [] := by
  obtain ⟨hlocal, hexpected⟩ := hd.same_tree_iff.mp h.same_tree
  -- a receipt belongs to one expected path, whichever of its two keys finds it
  have hconflict : ∀ e ∈ expectedPaths, ¬ ReceiptConflict receipts e := by
    rintro e he (⟨r, hr, hid, hdiff⟩ | ⟨r, hr, hpath, hdiff⟩)
    · obtain ⟨-, e', he', hid', hpath', hkind'⟩ := h.receipts_match r hr
      obtain rfl := List.inj_on_of_nodup_map hd.expected_ids he' he (hid'.trans hid)
      exact hdiff.elim (fun hne => hne hpath'.symm) (fun hne => hne hkind'.symm)
    · obtain ⟨-, e', he', hid', hpath', -⟩ := h.receipts_match r hr
      obtain rfl := List.inj_on_of_nodup_map hd.expected_paths he' he (hpath'.trans hpath)
      exact hdiff hid'.symm
  have hkind : ∀ e ∈ expectedPaths, ∀ l ∈ localEntries, l.relativePath = e.relativePath →
      l.kind = localKindForRemote e.kind := by
    intro e he l hl hpath
    obtain ⟨l', hl', hpath', hkind'⟩ := hexpected e he
    obtain rfl := List.inj_on_of_nodup_map hd.local_paths hl' hl (hpath'.trans hpath.symm)
    exact hkind'
  refine List.eq_nil_iff_forall_not_mem.mpr fun draft hdraft => ?_
  obtain ⟨e, he, hea⟩ | ⟨l, hl, hla⟩ | ⟨r, hr, hra⟩ := (mem_planDrafts _ _ _ draft).mp hdraft
  · obtain ⟨action, haction, -⟩ := expectedDraft_eq_some.mp hea
    rw [hd.classify_presence (hconflict e he) (hkind e he)] at haction
    refine (presenceOutcome_quiet_iff _ _ _).mpr ⟨?_, ?_⟩ action haction
    · obtain ⟨l, hl, hpath, -⟩ := hexpected e he
      exact (isPresent_iff _ _).mpr ⟨l, hl, hpath⟩
    · cases hstate : receiptState receipts e with
      | some state =>
          obtain ⟨r, hr, -, hrstate⟩ := (receiptState_eq_some_iff hd.receipt_ids e state).mp hstate
          rw [← hrstate, (h.receipts_match r hr).1]
          exact Or.inl rfl
      | none =>
          refine Or.inr ⟨?_, rfl⟩
          cases hfile : e.kind with
          | folder => rfl
          | file =>
              obtain ⟨r, hr, hid, -⟩ := h.files_owned e he hfile
              have := (receiptState_eq_some_iff hd.receipt_ids e r.state).mpr ⟨r, hr, hid, rfl⟩
              exact absurd (hstate.symm.trans this) nofun
  · obtain ⟨e, he, hpath, -⟩ := hlocal l hl
    rw [localDraft_of_expected ⟨e, he, hpath⟩] at hla
    cases hla
  · obtain ⟨-, htarget⟩ := h.receipts_match r hr
    rw [(hd.receiptDraft_eq r).mpr (Or.inr htarget)] at hra
    cases hra

end

theorem PlannedFrom.actions_eq_nil_iff {remoteItems : List RemoteItem}
    {localEntries : List LocalTreeEntry} {receipts : List ReceiveOnlyOwnershipReceipt}
    {maxActions : ℕ} {expectedPaths : List RemoteExpectedPath} {drafts : ActionMap}
    {plan : ReceiveOnlyConvergencePlan}
    (h : PlannedFrom remoteItems localEntries receipts maxActions expectedPaths drafts plan) :
    plan.actions = [] ↔ planDrafts expectedPaths localEntries receipts = [] := by
  constructor
  · intro hempty
    refine List.eq_nil_iff_forall_not_mem.mpr fun draft hdraft => ?_
    obtain ⟨action, haction, -⟩ := (h.exists_action_iff draft.relativePath draft.kind).mpr
      ⟨draft, hdraft, rfl, rfl⟩
    rw [hempty] at haction
    cases haction
  · intro hempty
    refine List.eq_nil_iff_forall_not_mem.mpr fun action haction => ?_
    obtain ⟨draft, hdraft, -⟩ := (h.exists_action_iff action.relativePath action.kind).mp
      ⟨action, haction, rfl, rfl⟩
    rw [hempty] at hdraft
    cases hdraft

/-- **The meaning of converged.** Whenever there is a plan, it has no action exactly when the tree is
    the catalog, every file is owned by a current receipt, and every receipt is the current one of a
    catalogued item, at its path and of its kind. -/
theorem plan_empty_iff_converged (remoteItems : List RemoteItem) (localEntries : List LocalTreeEntry)
    (receipts : List ReceiveOnlyOwnershipReceipt) (maxActions : ℕ)
    (plan : ReceiveOnlyConvergencePlan)
    (h : planReceiveOnlyConvergence remoteItems localEntries receipts maxActions = .ok plan) :
    ∃ expectedPaths, buildRemoteExpectedPaths remoteItems = .ok expectedPaths ∧
      (plan.actionCount = 0 ↔ Converged expectedPaths localEntries receipts) := by
  obtain ⟨expectedPaths, drafts, hplan⟩ := planReceiveOnlyConvergence_ok h
  refine ⟨expectedPaths, hplan.build, ?_⟩
  rw [ReceiveOnlyConvergencePlan.actionCount, List.length_eq_zero_iff, hplan.actions_eq_nil_iff]
  exact ⟨hplan.distinct.converged, fun hconverged => hconverged.planDrafts_eq_nil hplan.distinct⟩

/-- One file, materialized and owned. -/
theorem plan_empty_iff_converged_file :
    ∃ expectedPaths, buildRemoteExpectedPaths editAndDropItems = .ok expectedPaths ∧
      Converged expectedPaths [⟨['a'], .file, rfl⟩] [⟨['f'], ['a'], .file, .current, rfl, rfl⟩] := by
  obtain ⟨plan, hplan, hempty⟩ : ∃ plan, planReceiveOnlyConvergence editAndDropItems
      [⟨['a'], .file, rfl⟩] [⟨['f'], ['a'], .file, .current, rfl, rfl⟩] 10 = .ok plan ∧
      plan.actionCount = 0 := ⟨_, rfl, rfl⟩
  obtain ⟨expectedPaths, hbuild, hiff⟩ := plan_empty_iff_converged _ _ _ 10 plan hplan
  exact ⟨expectedPaths, hbuild, hiff.mp hempty⟩

end NubiSync
