import Mathlib.Algebra.GroupWithZero.Nat
import NubiSync.Sync.ConvergenceSafety

set_option autoImplicit false

/-! # Unblocked plans

A plan without a blocked action is dispatched without asking the user, so everything the executors do
rests on what "unblocked" means for the inputs. `UnblockedInputs` says it without the planner:
receipts sit at their own expected paths or at removable leftovers, and nothing local is of the wrong
kind or unaccounted for. `PlannedFrom.unblocked_iff` proves that this is exactly what the planner
checks, and the counters of an unblocked plan are then plain counts over the catalog and the scan. -/

namespace NubiSync

/-- A local entry stands at the expected path. -/
def isPresent (localEntries : List LocalTreeEntry) (e : RemoteExpectedPath) : Bool :=
  localEntries.any (·.relativePath == e.relativePath)

/-- The state of the receipt of an expected item. -/
def receiptState (receipts : List ReceiveOnlyOwnershipReceipt) (e : RemoteExpectedPath) :
    Option ReceiveOnlyReceiptState :=
  (receipts.find? (·.remoteId = e.remoteId)).map ReceiveOnlyOwnershipReceipt.state

/-- No item is expected where the local entry stands. -/
def isLocalOnly (expectedPaths : List RemoteExpectedPath) (entry : LocalTreeEntry) : Bool :=
  !expectedPaths.any (·.relativePath == entry.relativePath)

theorem isPresent_iff (localEntries : List LocalTreeEntry) (e : RemoteExpectedPath) :
    isPresent localEntries e = true ↔ ∃ l ∈ localEntries, l.relativePath = e.relativePath := by
  simp [isPresent]

theorem isLocalOnly_iff (expectedPaths : List RemoteExpectedPath) (entry : LocalTreeEntry) :
    isLocalOnly expectedPaths entry = true ↔
      ∀ e ∈ expectedPaths, e.relativePath ≠ entry.relativePath := by
  simp [isLocalOnly]

/-- The inputs of an unblocked plan. -/
structure UnblockedInputs (expectedPaths : List RemoteExpectedPath)
    (localEntries : List LocalTreeEntry) (receipts : List ReceiveOnlyOwnershipReceipt) : Prop where
  no_conflict : ∀ e ∈ expectedPaths, ¬ ReceiptConflict receipts e
  local_kind : ∀ e ∈ expectedPaths, ∀ l ∈ localEntries, l.relativePath = e.relativePath →
    l.kind = localKindForRemote e.kind
  current_directory : ∀ e ∈ expectedPaths, e.kind = .folder → isPresent localEntries e = true →
    receiptState receipts e ≠ some .stale
  local_only : ∀ l ∈ localEntries, isLocalOnly expectedPaths l = true →
    (∃ receipt, StaleOwned expectedPaths receipts l receipt) ∧
      (l.kind = .directory → localDirectoryIsEmpty l.relativePath localEntries = true)
  receipt_target : ∀ r ∈ receipts, (∃ l ∈ localEntries, l.relativePath = r.relativePath) ∨
    ∃ e ∈ expectedPaths, e.remoteId = r.remoteId ∧ e.relativePath = r.relativePath ∧
      localKindForRemote e.kind = r.kind

section

variable {expectedPaths : List RemoteExpectedPath} {localEntries : List LocalTreeEntry}
  {receipts : List ReceiveOnlyOwnershipReceipt}

/-! ## Reading the classifier through presence and receipt state -/

theorem DistinctInputs.lookup_id_eq (hd : DistinctInputs expectedPaths localEntries receipts)
    (e : RemoteExpectedPath) :
    ((convergenceIndex expectedPaths localEntries receipts).receiptByRemoteId.lookup
      e.remoteId).map ReceiveOnlyOwnershipReceipt.state = receiptState receipts e := by
  rw [convergenceIndex, Indexing.lookup_indexBy ∅ hd.receipt_ids]
  simp [receiptState]

/-- The outcome of an expected path whose local entry, if any, is of the right kind. -/
def presenceOutcome (kind : RemoteItemKind) (present : Bool)
    (state : Option ReceiveOnlyReceiptState) : ExpectedOutcome :=
  matchLocalEntry kind (if present then some (localKindForRemote kind) else none) state

/-- At an expected path whose local entry, if any, is of the right kind, presence is all there is. -/
theorem DistinctInputs.lookup_presence (hd : DistinctInputs expectedPaths localEntries receipts)
    {e : RemoteExpectedPath} (hkind : ∀ l ∈ localEntries, l.relativePath = e.relativePath →
      l.kind = localKindForRemote e.kind) :
    (convergenceIndex expectedPaths localEntries receipts).localByPath.lookup e.relativePath =
      if isPresent localEntries e then some (localKindForRemote e.kind) else none := by
  split
  · next hpresent =>
      obtain ⟨l, hl, hpath⟩ := (isPresent_iff localEntries e).mp hpresent
      exact (hd.lookup_local _ _).mpr ⟨l, hl, hpath, hkind l hl hpath⟩
  · next habsent =>
      refine (hd.lookup_local_none _).mpr fun l hl hpath => habsent ?_
      exact (isPresent_iff localEntries e).mpr ⟨l, hl, hpath⟩

theorem DistinctInputs.classify_presence (hd : DistinctInputs expectedPaths localEntries receipts)
    {e : RemoteExpectedPath} (hconflict : ¬ ReceiptConflict receipts e)
    (hkind : ∀ l ∈ localEntries, l.relativePath = e.relativePath →
      l.kind = localKindForRemote e.kind) :
    classifyExpected (convergenceIndex expectedPaths localEntries receipts) e =
      presenceOutcome e.kind (isPresent localEntries e) (receiptState receipts e) := by
  rw [hd.classify_of_no_conflict hconflict, hd.lookup_id_eq, hd.lookup_presence hkind,
    presenceOutcome]

theorem UnblockedInputs.classify (hu : UnblockedInputs expectedPaths localEntries receipts)
    (hd : DistinctInputs expectedPaths localEntries receipts) {e : RemoteExpectedPath}
    (he : e ∈ expectedPaths) :
    classifyExpected (convergenceIndex expectedPaths localEntries receipts) e =
      presenceOutcome e.kind (isPresent localEntries e) (receiptState receipts e) :=
  hd.classify_presence (hu.no_conflict e he) (hu.local_kind e he)

/-! ## Unblocked means unblocked -/

theorem UnblockedInputs.no_blocked_draft
    (hu : UnblockedInputs expectedPaths localEntries receipts)
    (hd : DistinctInputs expectedPaths localEntries receipts) {draft : ActionDraft}
    (h : draft ∈ planDrafts expectedPaths localEntries receipts) : draft.kind ≠ .blocked := by
  rcases (mem_planDrafts _ _ _ draft).mp h with ⟨e, he, hea⟩ | ⟨l, hl, hla⟩ | ⟨r, hr, hra⟩
  · obtain ⟨kind, hclass, rfl⟩ := expectedDraft_eq_some.mp hea
    rintro rfl
    rw [hu.classify hd he] at hclass
    have hfresh := hu.current_directory e he
    -- an expected path is blocked in the table of outcomes only, and the table is finite
    revert hclass hfresh
    cases e.kind <;> cases isPresent localEntries e <;>
      rcases receiptState receipts e with _ | _ | _ <;>
      simp [presenceOutcome, matchLocalEntry, localKindForRemote]
  · have hlocal : ∀ e ∈ expectedPaths, e.relativePath ≠ l.relativePath := by
      simpa [convergenceIndex] using (localDraft_path hla).2
    obtain ⟨⟨receipt, howned⟩, hempty⟩ :=
      hu.local_only l hl ((isLocalOnly_iff expectedPaths l).mpr hlocal)
    rw [hd.localDraft_of_staleOwned hlocal howned] at hla
    obtain rfl := Option.some.inj hla
    simp only [staleRemovalKind]
    cases hk : l.kind with
    | file => simp
    | directory => simp [hempty hk]
  · have hnone := (hd.receiptDraft_eq r).mpr (hu.receipt_target r hr)
    rw [hnone] at hra
    exact absurd hra (by simp)

theorem DistinctInputs.unblockedInputs (hd : DistinctInputs expectedPaths localEntries receipts)
    (h : ∀ draft ∈ planDrafts expectedPaths localEntries receipts, draft.kind ≠ .blocked) :
    UnblockedInputs expectedPaths localEntries receipts := by
  have hexpected : ∀ e ∈ expectedPaths,
      classifyExpected (convergenceIndex expectedPaths localEntries receipts) e ≠ .act .blocked :=
    fun e he hclass => h _ ((mem_planDrafts _ _ _ _).mpr
      (Or.inl ⟨e, he, expectedDraft_eq_some.mpr ⟨_, hclass, rfl⟩⟩)) rfl
  have hconflict : ∀ e ∈ expectedPaths, ¬ ReceiptConflict receipts e := fun e he hc =>
    hexpected e he (hd.classify_of_conflict hc)
  have hkind : ∀ e ∈ expectedPaths, ∀ l ∈ localEntries, l.relativePath = e.relativePath →
      l.kind = localKindForRemote e.kind := by
    intro e he l hl hpath
    by_contra hdiff
    refine hexpected e he ?_
    rw [hd.classify_of_no_conflict (hconflict e he),
      (hd.lookup_local _ _).mpr ⟨l, hl, hpath, rfl⟩]
    simp [matchLocalEntry, hdiff]
  -- each condition that fails would give a blocked draft, and there is none
  refine ⟨hconflict, hkind, ?_, ?_, ?_⟩
  · intro e he hfolder hpresent hstale
    refine hexpected e he ?_
    rw [hd.classify_presence (hconflict e he) (hkind e he), hfolder, hpresent, hstale]
    rfl
  · intro l hl hlocalOnly
    have hlocal := (isLocalOnly_iff expectedPaths l).mp hlocalOnly
    by_cases howned : ∃ receipt, StaleOwned expectedPaths receipts l receipt
    · refine ⟨howned, fun hdirectory => ?_⟩
      obtain ⟨receipt, hreceipt⟩ := howned
      by_contra hfull
      refine h _ ((mem_planDrafts _ _ _ _).mpr (Or.inr (Or.inl ⟨l, hl,
        hd.localDraft_of_staleOwned hlocal hreceipt⟩))) ?_
      simp [staleRemovalKind, hdirectory, hfull]
    · obtain ⟨remoteId, hdraft⟩ := hd.localDraft_of_not_staleOwned hlocal howned
      exact absurd rfl (h _ ((mem_planDrafts _ _ _ _).mpr (Or.inr (Or.inl ⟨l, hl, hdraft⟩))))
  · intro r hr
    refine (hd.receiptDraft_eq r).mp ?_
    cases hdraft : receiptDraft (convergenceIndex expectedPaths localEntries receipts) r with
    | none => rfl
    | some draft =>
        have hblocked := h draft ((mem_planDrafts _ _ _ _).mpr (Or.inr (Or.inr ⟨r, hr, hdraft⟩)))
        rw [(receiptDraft_eq_some hdraft).1] at hblocked
        exact absurd rfl hblocked

end

/-- **A plan is unblocked exactly on unblocked inputs.** -/
theorem PlannedFrom.unblocked_iff {remoteItems : List RemoteItem}
    {localEntries : List LocalTreeEntry} {receipts : List ReceiveOnlyOwnershipReceipt}
    {maxActions : ℕ} {expectedPaths : List RemoteExpectedPath} {drafts : ActionMap}
    {plan : ReceiveOnlyConvergencePlan}
    (h : PlannedFrom remoteItems localEntries receipts maxActions expectedPaths drafts plan) :
    plan.blocked = false ↔ UnblockedInputs expectedPaths localEntries receipts := by
  rw [← Bool.not_eq_true, h.blocked_iff]
  constructor
  · intro hno
    exact h.distinct.unblockedInputs fun draft hdraft hkind => hno ⟨draft, hdraft, hkind⟩
  · rintro hu ⟨draft, hdraft, hkind⟩
    exact hu.no_blocked_draft h.distinct hdraft hkind

/-! ## The counters of an unblocked plan -/

/-- The number of expected paths with an outcome. -/
def outcomeCount (outcome : ExpectedOutcome) (expectedPaths : List RemoteExpectedPath)
    (localEntries : List LocalTreeEntry) (receipts : List ReceiveOnlyOwnershipReceipt) : ℕ :=
  expectedPaths.countP fun e =>
    presenceOutcome e.kind (isPresent localEntries e) (receiptState receipts e) == outcome

/-- The number of local-only entries of a kind. -/
def localOnlyCount (kind : LocalTreeEntryKind) (expectedPaths : List RemoteExpectedPath)
    (localEntries : List LocalTreeEntry) : ℕ :=
  localEntries.countP fun l => isLocalOnly expectedPaths l && l.kind == kind

/-- The number of actions of a kind in an unblocked plan. -/
def classCount (kind : ReceiveOnlyConvergenceActionKind) (expectedPaths : List RemoteExpectedPath)
    (localEntries : List LocalTreeEntry) (receipts : List ReceiveOnlyOwnershipReceipt) : ℕ :=
  match kind with
  | .blocked => 0
  | .revalidateStaleFileDeletion => localOnlyCount .file expectedPaths localEntries
  | .deleteOwnedEmptyDirectory => localOnlyCount .directory expectedPaths localEntries
  | kind => outcomeCount (.act kind) expectedPaths localEntries receipts

/-- The action that removes a local-only entry of a kind. -/
def removalKind : LocalTreeEntryKind → ReceiveOnlyConvergenceActionKind
  | .file => .revalidateStaleFileDeletion
  | .directory => .deleteOwnedEmptyDirectory

theorem isRemoval_removalKind (kind : LocalTreeEntryKind) : IsRemoval (removalKind kind) := by
  cases kind <;> simp [IsRemoval, removalKind]

theorem staleRemovalKind_eq_iff {localEntries : List LocalTreeEntry} {l : LocalTreeEntry}
    (hempty : l.kind = .directory → localDirectoryIsEmpty l.relativePath localEntries = true)
    (kind : LocalTreeEntryKind) :
    staleRemovalKind localEntries l = removalKind kind ↔ l.kind = kind := by
  unfold staleRemovalKind removalKind
  cases hl : l.kind with
  | file => cases kind <;> simp
  | directory => cases kind <;> simp [hempty hl]

section Counters

variable {expectedPaths : List RemoteExpectedPath} {localEntries : List LocalTreeEntry}
  {receipts : List ReceiveOnlyOwnershipReceipt} {drafts : ActionMap}
variable (hu : UnblockedInputs expectedPaths localEntries receipts)
variable (hd : DistinctInputs expectedPaths localEntries receipts)
variable (hh : HoldsFirst drafts (planDrafts expectedPaths localEntries receipts))

include hu hd

include hh in
theorem UnblockedInputs.countP_expectedWork {kind : ReceiveOnlyConvergenceActionKind}
    (hkind : IsExpectedWork kind) :
    (actionsOf drafts).countP (·.kind == kind) =
      outcomeCount (.act kind) expectedPaths localEntries receipts := by
  set wanted : RemoteExpectedPath → Bool := fun e =>
    presenceOutcome e.kind (isPresent localEntries e) (receiptState receipts e) == .act kind
    with hwanted
  have hnodup : ((expectedPaths.filter wanted).map RemoteExpectedPath.relativePath).Nodup :=
    hd.expected_paths.sublist ((List.filter_sublist).map _)
  rw [hh.countP_kind hd.kindsAgree kind hnodup, List.length_map,
    ← List.countP_eq_length_filter, outcomeCount]
  intro path
  rw [hd.exists_expectedWork_iff hkind, List.mem_map]
  constructor
  · rintro ⟨e, he, hpath⟩
    obtain ⟨hmem, houtcome⟩ := List.mem_filter.mp he
    refine ⟨e, hmem, hpath, ?_⟩
    rw [hu.classify hd hmem]
    simpa [hwanted] using houtcome
  · rintro ⟨e, hmem, hpath, hclass⟩
    refine ⟨e, List.mem_filter.mpr ⟨hmem, ?_⟩, hpath⟩
    rw [hu.classify hd hmem] at hclass
    simpa [hwanted] using hclass

include hh in
theorem UnblockedInputs.countP_removal (kind : LocalTreeEntryKind) :
    (actionsOf drafts).countP (·.kind == removalKind kind) =
      localOnlyCount kind expectedPaths localEntries := by
  set wanted : LocalTreeEntry → Bool := fun l => isLocalOnly expectedPaths l && l.kind == kind
    with hwanted
  have hnodup : ((localEntries.filter wanted).map LocalTreeEntry.relativePath).Nodup :=
    hd.local_paths.sublist ((List.filter_sublist).map _)
  rw [hh.countP_kind hd.kindsAgree _ hnodup, List.length_map,
    ← List.countP_eq_length_filter, localOnlyCount]
  intro path
  rw [hd.exists_removal_iff (isRemoval_removalKind kind), List.mem_map]
  constructor
  · rintro ⟨l, hl, rfl⟩
    obtain ⟨hmem, hw⟩ := List.mem_filter.mp hl
    simp only [hwanted, Bool.and_eq_true, beq_iff_eq] at hw
    obtain ⟨howned, hempty⟩ := hu.local_only l hmem hw.1
    exact ⟨l, hmem, rfl, (isLocalOnly_iff expectedPaths l).mp hw.1, howned,
      (staleRemovalKind_eq_iff hempty kind).mpr hw.2⟩
  · rintro ⟨l, hmem, rfl, hlocal, howned, hkind⟩
    have hlocalOnly := (isLocalOnly_iff expectedPaths l).mpr hlocal
    have hempty := (hu.local_only l hmem hlocalOnly).2
    refine ⟨l, List.mem_filter.mpr ⟨hmem, ?_⟩, rfl⟩
    simp only [hwanted, Bool.and_eq_true, beq_iff_eq]
    exact ⟨hlocalOnly, (staleRemovalKind_eq_iff hempty kind).mp hkind⟩

include hh in
/-- **The counters of an unblocked plan**, class by class. -/
theorem UnblockedInputs.countP_class (kind : ReceiveOnlyConvergenceActionKind) :
    (actionsOf drafts).countP (·.kind == kind) =
      classCount kind expectedPaths localEntries receipts := by
  cases kind with
  | blocked =>
      rw [classCount, List.countP_eq_zero]
      intro action haction hkind
      obtain ⟨draft, hdraft, -, hblocked⟩ := (hh.exists_action_iff hd.kindsAgree
        action.relativePath .blocked).mp ⟨action, haction, rfl, by simpa using hkind⟩
      exact hu.no_blocked_draft hd hdraft hblocked
  | revalidateStaleFileDeletion => exact hu.countP_removal hd hh .file
  | deleteOwnedEmptyDirectory => exact hu.countP_removal hd hh .directory
  | createDirectory => exact hu.countP_expectedWork hd hh (by simp [IsExpectedWork, IsRemoval])
  | materializeMissingFile => exact hu.countP_expectedWork hd hh (by simp [IsExpectedWork, IsRemoval])
  | verifyExistingFile => exact hu.countP_expectedWork hd hh (by simp [IsExpectedWork, IsRemoval])
  | revalidateStaleFileReplacement =>
      exact hu.countP_expectedWork hd hh (by simp [IsExpectedWork, IsRemoval])

theorem UnblockedInputs.count_outcomes (outcome : ExpectedOutcome) :
    (expectedPaths.map
      (classifyExpected (convergenceIndex expectedPaths localEntries receipts))).count outcome =
      outcomeCount outcome expectedPaths localEntries receipts := by
  rw [List.count, List.countP_map, outcomeCount]
  refine List.countP_congr fun e he => ?_
  simp only [Function.comp_apply, hu.classify hd he]

end Counters

/-! ## The actions of an unblocked plan -/

/-- The items an action kind of the first pass works on. -/
def isPlanned (kind : ReceiveOnlyConvergenceActionKind) (localEntries : List LocalTreeEntry)
    (receipts : List ReceiveOnlyOwnershipReceipt) (e : RemoteExpectedPath) : Bool :=
  presenceOutcome e.kind (isPresent localEntries e) (receiptState receipts e) == .act kind

section Actions

variable {remoteItems : List RemoteItem} {localEntries : List LocalTreeEntry}
  {receipts : List ReceiveOnlyOwnershipReceipt} {maxActions : ℕ}
  {expectedPaths : List RemoteExpectedPath} {drafts : ActionMap} {plan : ReceiveOnlyConvergencePlan}
variable (h : PlannedFrom remoteItems localEntries receipts maxActions expectedPaths drafts plan)
variable (hu : UnblockedInputs expectedPaths localEntries receipts)

include h hu

/-- The actions of a kind of expected work are the planned items, each with its id and its path. -/
theorem PlannedFrom.mem_work_iff {kind : ReceiveOnlyConvergenceActionKind}
    (hkind : IsExpectedWork kind) (action : ReceiveOnlyConvergenceAction) :
    action ∈ plan.actions.filter (·.kind == kind) ↔
      ∃ e ∈ expectedPaths, isPlanned kind localEntries receipts e = true ∧
        action = ⟨kind, some e.remoteId, e.relativePath, pathDepth e.relativePath⟩ := by
  have hforward : ∀ action ∈ plan.actions, action.kind = kind →
      ∃ e ∈ expectedPaths, isPlanned kind localEntries receipts e = true ∧
        action = ⟨kind, some e.remoteId, e.relativePath, pathDepth e.relativePath⟩ := by
    rintro action haction rfl
    rw [h.actions_eq] at haction
    obtain ⟨draft, hfind, rfl⟩ := (h.holds.mem_actionsOf action).mp haction
    rcases (mem_planDrafts _ _ _ draft).mp (List.mem_of_find?_eq_some hfind) with
      ⟨e, he, hea⟩ | ⟨l, hl, hla⟩ | ⟨r, hr, hra⟩
    · obtain ⟨kind, hclass, rfl⟩ := expectedDraft_eq_some.mp hea
      rw [hu.classify h.distinct he] at hclass
      exact ⟨e, he, by simpa [isPlanned, ActionDraft.toAction] using hclass, rfl⟩
    · exact absurd hkind (h.distinct.localDraft_not_expectedWork hla)
    · rw [(receiptDraft_eq_some hra).1] at hkind
      exact absurd rfl hkind.1
  rw [List.mem_filter, beq_iff_eq]
  constructor
  · exact fun ⟨haction, hk⟩ => hforward action haction hk
  · -- the action at the path is the item's own, since no other expected item has that path
    rintro ⟨e, he, hplanned, rfl⟩
    refine ⟨?_, rfl⟩
    obtain ⟨action, haction, hpath, hk⟩ := (h.exists_action_iff e.relativePath kind).mpr
      ((h.distinct.exists_expectedWork_iff hkind _).mpr ⟨e, he, rfl, by
        rw [hu.classify h.distinct he]
        simpa [isPlanned] using hplanned⟩)
    obtain ⟨e', he', -, rfl⟩ := hforward action haction hk
    obtain rfl := List.inj_on_of_nodup_map h.distinct.expected_paths he he' hpath.symm
    exact haction

/-- The actions of a removal kind stand at the paths of the leftovers of that kind. -/
theorem PlannedFrom.exists_removal_at (kind : LocalTreeEntryKind) (path : Text) :
    (∃ action ∈ plan.actions.filter (·.kind == removalKind kind), action.relativePath = path) ↔
      ∃ l ∈ localEntries, isLocalOnly expectedPaths l = true ∧ l.kind = kind ∧
        l.relativePath = path := by
  have hfilter : (∃ action ∈ plan.actions.filter (·.kind == removalKind kind),
      action.relativePath = path) ↔ ∃ action ∈ plan.actions, action.relativePath = path ∧
        action.kind = removalKind kind := by
    simp only [List.mem_filter, beq_iff_eq, and_assoc]
    exact exists_congr fun action => and_congr_right' And.comm
  rw [hfilter, h.exists_action_iff,
    h.distinct.exists_removal_iff (isRemoval_removalKind kind)]
  constructor
  · rintro ⟨l, hl, rfl, houtside, -, hremoval⟩
    have hlocal := (isLocalOnly_iff expectedPaths l).mpr houtside
    exact ⟨l, hl, hlocal, (staleRemovalKind_eq_iff (hu.local_only l hl hlocal).2 kind).mp hremoval,
      rfl⟩
  · rintro ⟨l, hl, hlocal, hkind, rfl⟩
    obtain ⟨howned, hempty⟩ := hu.local_only l hl hlocal
    exact ⟨l, hl, rfl, (isLocalOnly_iff expectedPaths l).mp hlocal, howned,
      (staleRemovalKind_eq_iff hempty kind).mpr hkind⟩

end Actions

/-! ## The action limit -/

/-- All kinds of actions. -/
def allActionKinds : List ReceiveOnlyConvergenceActionKind :=
  [.createDirectory, .materializeMissingFile, .verifyExistingFile, .revalidateStaleFileReplacement,
    .revalidateStaleFileDeletion, .deleteOwnedEmptyDirectory, .blocked]

theorem length_eq_sum_countP (actions : List ReceiveOnlyConvergenceAction) :
    actions.length = (allActionKinds.map fun kind => actions.countP (·.kind == kind)).sum := by
  induction actions with
  | nil => rfl
  | cons action rest ih =>
      rw [List.length_cons, ih]
      simp only [List.countP_cons, allActionKinds, List.map_cons, List.map_nil, List.sum_cons,
        List.sum_nil]
      cases action.kind <;> simp <;> omega

theorem HoldsFirst.length_actionsOf {drafts : ActionMap} {candidates : List ActionDraft}
    (h : HoldsFirst drafts candidates) : (actionsOf drafts).length = pathCount candidates := by
  rw [← h.keys_length, actionsOf, List.length_insertionSort, List.length_map, intoValues,
    List.length_insertionSort, List.length_map, AList.keys, List.keys, List.length_map]

/-- An unblocked plan names as many paths as its classes count. -/
theorem UnblockedInputs.pathCount_eq {expectedPaths : List RemoteExpectedPath}
    {localEntries : List LocalTreeEntry} {receipts : List ReceiveOnlyOwnershipReceipt}
    (hu : UnblockedInputs expectedPaths localEntries receipts)
    (hd : DistinctInputs expectedPaths localEntries receipts) :
    pathCount (planDrafts expectedPaths localEntries receipts) =
      (allActionKinds.map fun kind =>
        classCount kind expectedPaths localEntries receipts).sum := by
  obtain ⟨drafts, -, hh⟩ := setActions_empty hd.kindsAgree le_rfl
  rw [← hh.length_actionsOf, length_eq_sum_countP]
  congr 1
  exact List.map_congr_left fun kind _ => hu.countP_class hd hh kind

end NubiSync
