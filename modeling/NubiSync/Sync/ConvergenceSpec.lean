import NubiSync.Sync.DraftMap

set_option autoImplicit false

/-! # What a convergence plan contains

`planReceiveOnlyConvergence_ok_iff` peels the checks off the planner: it returns a plan exactly when
the catalog is a tree, local paths, receipt ids and receipt paths are distinct, and the candidates of
the three passes fit the action limit. `kindsAgree_candidateDrafts` is the invariant of the shared map:
no two passes ever disagree at a path, so every candidate kind reaches the plan. -/

namespace NubiSync

open Indexing

/-! ## The checks of the planner -/

theorem planReceiveOnlyMaterialization_isOk_iff (remoteItems : List RemoteItem)
    (localEntries : List LocalTreeEntry) :
    (∃ plan, planReceiveOnlyMaterialization remoteItems localEntries = .ok plan) ↔
      (∃ expected, buildRemoteExpectedPaths remoteItems = .ok expected) ∧
        (localEntries.map LocalTreeEntry.relativePath).Nodup := by
  unfold planReceiveOnlyMaterialization
  cases hbuild : buildRemoteExpectedPaths remoteItems with
  | error e => simp [bind, Except.bind]
  | ok expected =>
      cases hlocal : indexLocalEntries ∅ localEntries with
      | error e =>
          simp only [bind, Except.bind, reduceCtorEq, exists_false, Except.ok.injEq, exists_eq',
            true_and, false_iff]
          intro hnodup
          have := (indexLocalEntries_ok_iff localEntries ∅ _).mpr
            ⟨hnodup, fun _ _ => AList.notMem_empty _, rfl⟩
          rw [hlocal] at this
          exact absurd this (by simp)
      | ok localByPath =>
          have := ((indexLocalEntries_ok_iff localEntries ∅ _).mp hlocal).1
          simp [bind, Except.bind, this]

theorem indexReceipts_ok_iff (receipts : List ReceiveOnlyOwnershipReceipt)
    (byId byPath : AList fun _ : Text => ReceiveOnlyOwnershipReceipt)
    (result : (AList fun _ : Text => ReceiveOnlyOwnershipReceipt) ×
      (AList fun _ : Text => ReceiveOnlyOwnershipReceipt)) :
    indexReceipts byId byPath receipts = .ok result ↔
      ((receipts.map ReceiveOnlyOwnershipReceipt.remoteId).Nodup ∧
        ∀ r ∈ receipts, r.remoteId ∉ byId) ∧
      ((receipts.map ReceiveOnlyOwnershipReceipt.relativePath).Nodup ∧
        ∀ r ∈ receipts, r.relativePath ∉ byPath) ∧
      result = (indexBy ReceiveOnlyOwnershipReceipt.remoteId id byId receipts,
        indexBy ReceiveOnlyOwnershipReceipt.relativePath id byPath receipts) := by
  induction receipts generalizing byId byPath with
  | nil => simp [indexReceipts, indexBy, eq_comm]
  | cons receipt rest ih =>
      simp only [indexReceipts]
      split
      · next hdup =>
          exact ⟨fun h => by simp at h, fun h => absurd hdup (h.1.2 receipt List.mem_cons_self)⟩
      next hid =>
      split
      · next hdup =>
          exact ⟨fun h => by simp at h, fun h => absurd hdup (h.2.1.2 receipt List.mem_cons_self)⟩
      next hpath =>
      rw [ih]
      simp only [List.forall_mem_cons, List.map_cons, List.nodup_cons, indexBy, List.foldl_cons,
        AList.mem_insert, not_or, List.mem_map, not_exists, not_and]
      constructor
      · rintro ⟨⟨hids, hfreshIds⟩, ⟨hpaths, hfreshPaths⟩, rfl⟩
        exact ⟨⟨⟨fun r hr => (hfreshIds r hr).1, hids⟩, hid, fun r hr => (hfreshIds r hr).2⟩,
          ⟨⟨fun r hr => (hfreshPaths r hr).1, hpaths⟩, hpath, fun r hr => (hfreshPaths r hr).2⟩, rfl⟩
      · rintro ⟨⟨⟨hheadId, hids⟩, -, hfreshIds⟩, ⟨⟨hheadPath, hpaths⟩, -, hfreshPaths⟩, rfl⟩
        exact ⟨⟨hids, fun r hr => ⟨hheadId r hr, hfreshIds r hr⟩⟩,
          ⟨hpaths, fun r hr => ⟨hheadPath r hr, hfreshPaths r hr⟩⟩, rfl⟩

/-- The maps the passes read, once the loops that build them have succeeded. -/
def convergenceIndex (expectedPaths : List RemoteExpectedPath) (localEntries : List LocalTreeEntry)
    (receipts : List ReceiveOnlyOwnershipReceipt) : ConvergenceIndex where
  localByPath := localMap ∅ localEntries
  receiptByRemoteId := indexBy ReceiveOnlyOwnershipReceipt.remoteId id ∅ receipts
  receiptByPath := indexBy ReceiveOnlyOwnershipReceipt.relativePath id ∅ receipts
  expectedByRemoteId :=
    indexBy RemoteExpectedPath.remoteId (fun e => (e.relativePath, e.kind)) ∅ expectedPaths
  expectedPathNames := expectedPaths.map RemoteExpectedPath.relativePath

/-- The lists the passes run over name no id and no path twice. -/
structure DistinctInputs (expectedPaths : List RemoteExpectedPath)
    (localEntries : List LocalTreeEntry) (receipts : List ReceiveOnlyOwnershipReceipt) : Prop where
  expected_ids : (expectedPaths.map RemoteExpectedPath.remoteId).Nodup
  expected_paths : (expectedPaths.map RemoteExpectedPath.relativePath).Nodup
  local_paths : (localEntries.map LocalTreeEntry.relativePath).Nodup
  receipt_ids : (receipts.map ReceiveOnlyOwnershipReceipt.remoteId).Nodup
  receipt_paths : (receipts.map ReceiveOnlyOwnershipReceipt.relativePath).Nodup

/-- The candidates of a plan. -/
def planDrafts (expectedPaths : List RemoteExpectedPath) (localEntries : List LocalTreeEntry)
    (receipts : List ReceiveOnlyOwnershipReceipt) : List ActionDraft :=
  candidateDrafts (convergenceIndex expectedPaths localEntries receipts) expectedPaths localEntries
    receipts

/-! ## Lookups -/

section Lookups

variable {expectedPaths : List RemoteExpectedPath} {localEntries : List LocalTreeEntry}
  {receipts : List ReceiveOnlyOwnershipReceipt}
variable (hd : DistinctInputs expectedPaths localEntries receipts)

include hd

theorem DistinctInputs.lookup_local (path : Text) (kind : LocalTreeEntryKind) :
    (convergenceIndex expectedPaths localEntries receipts).localByPath.lookup path = some kind ↔
      ∃ entry ∈ localEntries, entry.relativePath = path ∧ entry.kind = kind :=
  lookup_indexBy_eq_some hd.local_paths path kind

theorem DistinctInputs.lookup_local_none (path : Text) :
    (convergenceIndex expectedPaths localEntries receipts).localByPath.lookup path = none ↔
      ∀ entry ∈ localEntries, entry.relativePath ≠ path :=
  lookup_indexBy_eq_none hd.local_paths path

theorem DistinctInputs.lookup_id (remoteId : Text) (receipt : ReceiveOnlyOwnershipReceipt) :
    (convergenceIndex expectedPaths localEntries receipts).receiptByRemoteId.lookup remoteId =
      some receipt ↔ receipt ∈ receipts ∧ receipt.remoteId = remoteId := by
  rw [convergenceIndex, lookup_indexBy_eq_some hd.receipt_ids]
  exact ⟨fun ⟨r, hr, hid, hrr⟩ => ⟨hrr ▸ hr, hrr ▸ hid⟩, fun ⟨hr, hid⟩ => ⟨receipt, hr, hid, rfl⟩⟩

theorem DistinctInputs.lookup_path (path : Text) (receipt : ReceiveOnlyOwnershipReceipt) :
    (convergenceIndex expectedPaths localEntries receipts).receiptByPath.lookup path =
      some receipt ↔ receipt ∈ receipts ∧ receipt.relativePath = path := by
  rw [convergenceIndex, lookup_indexBy_eq_some hd.receipt_paths]
  exact ⟨fun ⟨r, hr, hid, hrr⟩ => ⟨hrr ▸ hr, hrr ▸ hid⟩, fun ⟨hr, hid⟩ => ⟨receipt, hr, hid, rfl⟩⟩

theorem DistinctInputs.lookup_expected (remoteId : Text) (target : Text × RemoteItemKind) :
    (convergenceIndex expectedPaths localEntries receipts).expectedByRemoteId.lookup remoteId =
      some target ↔
      ∃ e ∈ expectedPaths, e.remoteId = remoteId ∧ (e.relativePath, e.kind) = target :=
  lookup_indexBy_eq_some hd.expected_ids remoteId target

end Lookups

/-! ## The classifiers, read on the lists -/

/-- A receipt contradicts an expected path: the item's own receipt names another path or kind, or
    the path is held by the receipt of another item. -/
def ReceiptConflict (receipts : List ReceiveOnlyOwnershipReceipt) (e : RemoteExpectedPath) : Prop :=
  (∃ r ∈ receipts, r.remoteId = e.remoteId ∧
    (r.relativePath ≠ e.relativePath ∨ r.kind ≠ localKindForRemote e.kind)) ∨
  ∃ r ∈ receipts, r.relativePath = e.relativePath ∧ r.remoteId ≠ e.remoteId

/-- The receipt that lets a local entry outside the catalog be removed. -/
structure StaleOwned (expectedPaths : List RemoteExpectedPath)
    (receipts : List ReceiveOnlyOwnershipReceipt) (entry : LocalTreeEntry)
    (receipt : ReceiveOnlyOwnershipReceipt) : Prop where
  mem : receipt ∈ receipts
  path : receipt.relativePath = entry.relativePath
  stale : receipt.state = .stale
  kind : receipt.kind = entry.kind
  absent : ∀ e ∈ expectedPaths, e.remoteId ≠ receipt.remoteId

theorem localDirectoryIsEmpty_iff (path : Text) (localEntries : List LocalTreeEntry) :
    localDirectoryIsEmpty path localEntries = true ↔
      ∀ entry ∈ localEntries, ¬ Text.IsBelow path entry.relativePath := by
  simp [localDirectoryIsEmpty, Text.IsBelow, List.isPrefixOf_iff_prefix]

section Classifiers

variable {expectedPaths : List RemoteExpectedPath} {localEntries : List LocalTreeEntry}
  {receipts : List ReceiveOnlyOwnershipReceipt}
variable (hd : DistinctInputs expectedPaths localEntries receipts)

include hd

theorem DistinctInputs.classify_of_conflict {e : RemoteExpectedPath}
    (h : ReceiptConflict receipts e) :
    classifyExpected (convergenceIndex expectedPaths localEntries receipts) e = .act .blocked := by
  unfold classifyExpected
  refine if_pos ?_
  rw [Bool.or_eq_true]
  rcases h with ⟨r, hr, hid, hdiff⟩ | ⟨r, hr, hpath, hdiff⟩
  · left
    rw [(hd.lookup_id e.remoteId r).mpr ⟨hr, hid⟩]
    simpa using hdiff
  · right
    rw [(hd.lookup_path e.relativePath r).mpr ⟨hr, hpath⟩]
    simpa using hdiff

theorem DistinctInputs.classify_of_no_conflict {e : RemoteExpectedPath}
    (h : ¬ ReceiptConflict receipts e) :
    classifyExpected (convergenceIndex expectedPaths localEntries receipts) e =
      matchLocalEntry e.kind
        ((convergenceIndex expectedPaths localEntries receipts).localByPath.lookup e.relativePath)
        (((convergenceIndex expectedPaths localEntries receipts).receiptByRemoteId.lookup
          e.remoteId).map ReceiveOnlyOwnershipReceipt.state) := by
  unfold classifyExpected
  refine if_neg ?_
  rw [Bool.or_eq_true, Option.any_eq_true, Option.any_eq_true]
  rintro (⟨r, hr, hdiff⟩ | ⟨r, hr, hdiff⟩)
  · obtain ⟨hmem, hid⟩ := (hd.lookup_id _ _).mp hr
    exact h (Or.inl ⟨r, hmem, hid, by simpa using hdiff⟩)
  · obtain ⟨hmem, hpath⟩ := (hd.lookup_path _ _).mp hr
    exact h (Or.inr ⟨r, hmem, hpath, by simpa using hdiff⟩)

omit hd in
theorem localDraft_of_expected {entry : LocalTreeEntry}
    (h : ∃ e ∈ expectedPaths, e.relativePath = entry.relativePath) :
    localDraft (convergenceIndex expectedPaths localEntries receipts) localEntries entry = none := by
  unfold localDraft
  exact if_pos (by simpa [convergenceIndex] using h)

/-- The second pass on a local-only entry with a stale receipt of a vanished item. -/
theorem DistinctInputs.localDraft_of_staleOwned {entry : LocalTreeEntry}
    (hlocal : ∀ e ∈ expectedPaths, e.relativePath ≠ entry.relativePath)
    {receipt : ReceiveOnlyOwnershipReceipt}
    (h : StaleOwned expectedPaths receipts entry receipt) :
    localDraft (convergenceIndex expectedPaths localEntries receipts) localEntries entry =
      some ⟨staleRemovalKind localEntries entry, some receipt.remoteId, entry.relativePath⟩ := by
  have habsent : (convergenceIndex expectedPaths localEntries receipts).expectedByRemoteId.lookup
      receipt.remoteId = none := by
    rw [Option.eq_none_iff_forall_ne_some]
    intro target htarget
    obtain ⟨e, he, hid, -⟩ := (hd.lookup_expected _ _).mp htarget
    exact h.absent e he hid
  unfold localDraft
  simp only [(hd.lookup_path _ _).mpr ⟨h.mem, h.path⟩, habsent, h.stale, h.kind]
  rw [if_neg (by simpa [convergenceIndex] using hlocal), if_neg (by simp)]

/-- The second pass on a local-only entry without such a receipt. -/
theorem DistinctInputs.localDraft_of_not_staleOwned {entry : LocalTreeEntry}
    (hlocal : ∀ e ∈ expectedPaths, e.relativePath ≠ entry.relativePath)
    (h : ¬ ∃ receipt, StaleOwned expectedPaths receipts entry receipt) :
    ∃ remoteId, localDraft (convergenceIndex expectedPaths localEntries receipts) localEntries entry =
      some ⟨.blocked, remoteId, entry.relativePath⟩ := by
  unfold localDraft
  simp only
  rw [if_neg (by simpa [convergenceIndex] using hlocal)]
  split
  · exact ⟨none, rfl⟩
  next receipt hreceipt =>
  obtain ⟨hmem, hpath⟩ := (hd.lookup_path _ _).mp hreceipt
  refine ⟨some receipt.remoteId, if_pos ?_⟩
  by_contra hgood
  simp only [Bool.or_eq_true, bne_iff_ne, ne_eq, not_or, not_not, Option.not_isSome_iff_eq_none]
    at hgood
  refine h ⟨receipt, hmem, hpath, hgood.1.1, hgood.1.2, fun e he hid => ?_⟩
  exact absurd ((hd.lookup_expected _ _).mpr ⟨e, he, hid, rfl⟩) (by simp [hgood.2])

/-- The third pass keeps quiet on receipts of local entries and of catalogued items at their expected
    path, and blocks on the others. -/
theorem DistinctInputs.receiptDraft_eq (receipt : ReceiveOnlyOwnershipReceipt) :
    receiptDraft (convergenceIndex expectedPaths localEntries receipts) receipt = none ↔
      (∃ entry ∈ localEntries, entry.relativePath = receipt.relativePath) ∨
      ∃ e ∈ expectedPaths, e.remoteId = receipt.remoteId ∧
        e.relativePath = receipt.relativePath ∧ localKindForRemote e.kind = receipt.kind := by
  unfold receiptDraft
  split
  · next hpresent =>
      obtain ⟨kind, hkind⟩ := Option.isSome_iff_exists.mp hpresent
      obtain ⟨entry, hentry, hpath, -⟩ := (hd.lookup_local _ _).mp hkind
      exact ⟨fun _ => Or.inl ⟨entry, hentry, hpath⟩, fun _ => rfl⟩
  next habsent =>
  have hnone := (hd.lookup_local_none _).mp (by simpa using habsent)
  split
  · next htarget =>
      obtain ⟨target, hlookup, hmatch⟩ := (Option.any_eq_true _ _).mp htarget
      obtain ⟨e, he, hid, rfl⟩ := (hd.lookup_expected _ _).mp hlookup
      simp only [Bool.and_eq_true, beq_iff_eq] at hmatch
      exact ⟨fun _ => Or.inr ⟨e, he, hid, hmatch.1, hmatch.2⟩, fun _ => rfl⟩
  · next hno =>
      refine ⟨fun h => absurd h (by simp), ?_⟩
      rintro (⟨entry, hentry, hpath⟩ | ⟨e, he, hid, hpath, hkind⟩)
      · exact absurd hpath (hnone entry hentry)
      · refine absurd ((Option.any_eq_true _ _).mpr ⟨_, (hd.lookup_expected _ _).mpr ⟨e, he, hid, rfl⟩, ?_⟩)
          hno
        simp [hpath, hkind]

end Classifiers

/-! ## The candidates agree -/

theorem mem_planDrafts (expectedPaths : List RemoteExpectedPath)
    (localEntries : List LocalTreeEntry) (receipts : List ReceiveOnlyOwnershipReceipt)
    (draft : ActionDraft) :
    draft ∈ planDrafts expectedPaths localEntries receipts ↔
      (∃ e ∈ expectedPaths, expectedDraft (convergenceIndex expectedPaths localEntries receipts) e =
        some draft) ∨
      (∃ entry ∈ localEntries,
        localDraft (convergenceIndex expectedPaths localEntries receipts) localEntries entry =
          some draft) ∨
      ∃ r ∈ receipts, receiptDraft (convergenceIndex expectedPaths localEntries receipts) r =
        some draft := by
  simp only [planDrafts, candidateDrafts, List.mem_append, List.mem_filterMap, or_assoc]

theorem expectedDraft_eq_some {index : ConvergenceIndex} {e : RemoteExpectedPath}
    {draft : ActionDraft} :
    expectedDraft index e = some draft ↔
      ∃ kind, classifyExpected index e = .act kind ∧
        draft = ⟨kind, some e.remoteId, e.relativePath⟩ := by
  unfold expectedDraft
  cases classifyExpected index e <;> simp [eq_comm]

theorem localDraft_path {index : ConvergenceIndex} {localEntries : List LocalTreeEntry}
    {entry : LocalTreeEntry} {draft : ActionDraft}
    (h : localDraft index localEntries entry = some draft) :
    draft.relativePath = entry.relativePath ∧ entry.relativePath ∉ index.expectedPathNames := by
  unfold localDraft at h
  simp only at h
  split at h
  · exact absurd h (by simp)
  next houtside =>
  refine ⟨?_, by simpa using houtside⟩
  split at h
  · obtain rfl := Option.some.inj h
    rfl
  · split at h <;> obtain rfl := Option.some.inj h <;> rfl

theorem receiptDraft_eq_some {index : ConvergenceIndex} {receipt : ReceiveOnlyOwnershipReceipt}
    {draft : ActionDraft} (h : receiptDraft index receipt = some draft) :
    draft = ⟨.blocked, some receipt.remoteId, receipt.relativePath⟩ ∧
      index.localByPath.lookup receipt.relativePath = none := by
  unfold receiptDraft at h
  split at h
  · exact absurd h (by simp)
  next habsent =>
  split at h
  · exact absurd h (by simp)
  · exact ⟨(Option.some.inj h).symm, by simpa using habsent⟩

section Agree

variable {expectedPaths : List RemoteExpectedPath} {localEntries : List LocalTreeEntry}
  {receipts : List ReceiveOnlyOwnershipReceipt}
variable (hd : DistinctInputs expectedPaths localEntries receipts)

include hd

/-- A receipt the third pass blocks at an expected path conflicts with that path, so the first pass
    has blocked it already. -/
theorem DistinctInputs.expected_blocked_of_receipt {e : RemoteExpectedPath}
    (he : e ∈ expectedPaths) {receipt : ReceiveOnlyOwnershipReceipt} (hr : receipt ∈ receipts)
    (hpath : receipt.relativePath = e.relativePath)
    (hblocked : receiptDraft (convergenceIndex expectedPaths localEntries receipts) receipt ≠ none) :
    classifyExpected (convergenceIndex expectedPaths localEntries receipts) e = .act .blocked := by
  apply hd.classify_of_conflict
  by_cases hid : receipt.remoteId = e.remoteId
  · refine Or.inl ⟨receipt, hr, hid, Or.inr fun hkind => hblocked ?_⟩
    exact (hd.receiptDraft_eq receipt).mpr (Or.inr ⟨e, he, hid.symm, hpath.symm, hkind.symm⟩)
  · exact Or.inr ⟨receipt, hr, hpath, hid⟩

/-- **The three passes agree at every path**, so `set_action` never merges. -/
theorem DistinctInputs.kindsAgree :
    KindsAgree (planDrafts expectedPaths localEntries receipts) := by
  -- it is enough to compare each pass with itself and with the later ones
  have hsymm : ∀ a b : ActionDraft, (a.relativePath = b.relativePath → a.kind = b.kind) →
      b.relativePath = a.relativePath → b.kind = a.kind := fun a b h hab => (h hab.symm).symm
  have hexpLocal : ∀ e ∈ expectedPaths, ∀ entry ∈ localEntries, ∀ a b : ActionDraft,
      expectedDraft (convergenceIndex expectedPaths localEntries receipts) e = some a →
      localDraft (convergenceIndex expectedPaths localEntries receipts) localEntries entry = some b →
      a.relativePath = b.relativePath → a.kind = b.kind := by
    intro e he entry _ a b ha hb hab
    obtain ⟨kind, -, rfl⟩ := expectedDraft_eq_some.mp ha
    obtain ⟨hbpath, houtside⟩ := localDraft_path hb
    refine absurd (List.mem_map.mpr ⟨e, he, ?_⟩) houtside
    exact hab.trans hbpath
  have hexpReceipt : ∀ e ∈ expectedPaths, ∀ r ∈ receipts, ∀ a b : ActionDraft,
      expectedDraft (convergenceIndex expectedPaths localEntries receipts) e = some a →
      receiptDraft (convergenceIndex expectedPaths localEntries receipts) r = some b →
      a.relativePath = b.relativePath → a.kind = b.kind := by
    intro e he r hr a b ha hb hab
    obtain ⟨rfl, -⟩ := receiptDraft_eq_some hb
    obtain ⟨kind, hkind, rfl⟩ := expectedDraft_eq_some.mp ha
    rw [hd.expected_blocked_of_receipt he hr hab.symm (by rw [hb]; simp)] at hkind
    exact (ExpectedOutcome.act.inj hkind).symm
  have hlocalReceipt : ∀ entry ∈ localEntries, ∀ r ∈ receipts, ∀ a b : ActionDraft,
      localDraft (convergenceIndex expectedPaths localEntries receipts) localEntries entry = some a →
      receiptDraft (convergenceIndex expectedPaths localEntries receipts) r = some b →
      a.relativePath = b.relativePath → a.kind = b.kind := by
    intro entry hentry r hr a b ha hb hab
    obtain ⟨rfl, habsent⟩ := receiptDraft_eq_some hb
    have hpath := (localDraft_path ha).1
    exact absurd (hpath.symm.trans hab) ((hd.lookup_local_none _).mp habsent entry hentry)
  intro a ha b hb
  rcases (mem_planDrafts _ _ _ a).mp ha with ⟨e, he, hea⟩ | ⟨l, hl, hla⟩ | ⟨r, hr, hra⟩
  · rcases (mem_planDrafts _ _ _ b).mp hb with ⟨e', he', heb⟩ | ⟨l', hl', hlb⟩ | ⟨r', hr', hrb⟩
    · intro hab
      obtain ⟨kind, hkind, rfl⟩ := expectedDraft_eq_some.mp hea
      obtain ⟨kind', hkind', rfl⟩ := expectedDraft_eq_some.mp heb
      obtain rfl := List.inj_on_of_nodup_map hd.expected_paths he he' hab
      exact ExpectedOutcome.act.inj (hkind.symm.trans hkind')
    · exact hexpLocal e he l' hl' a b hea hlb
    · exact hexpReceipt e he r' hr' a b hea hrb
  · rcases (mem_planDrafts _ _ _ b).mp hb with ⟨e', he', heb⟩ | ⟨l', hl', hlb⟩ | ⟨r', hr', hrb⟩
    · exact hsymm b a (hexpLocal e' he' l hl b a heb hla)
    · intro hab
      have hsame : l.relativePath = l'.relativePath := by
        rw [← (localDraft_path hla).1, ← (localDraft_path hlb).1, hab]
      obtain rfl := List.inj_on_of_nodup_map hd.local_paths hl hl' hsame
      rw [Option.some.inj (hla.symm.trans hlb)]
    · exact hlocalReceipt l hl r' hr' a b hla hrb
  · rcases (mem_planDrafts _ _ _ b).mp hb with ⟨e', he', heb⟩ | ⟨l', hl', hlb⟩ | ⟨r', hr', hrb⟩
    · exact hsymm b a (hexpReceipt e' he' r hr b a heb hra)
    · exact hsymm b a (hlocalReceipt l' hl' r hr b a hlb hra)
    · intro _
      rw [(receiptDraft_eq_some hra).1, (receiptDraft_eq_some hrb).1]

end Agree

/-! ## The planner succeeds exactly when -/

/-- A plan together with the expected paths and the draft map it was assembled from. -/
structure PlannedFrom (remoteItems : List RemoteItem) (localEntries : List LocalTreeEntry)
    (receipts : List ReceiveOnlyOwnershipReceipt) (maxActions : ℕ)
    (expectedPaths : List RemoteExpectedPath) (drafts : ActionMap)
    (plan : ReceiveOnlyConvergencePlan) : Prop where
  max_pos : maxActions ≠ 0
  build : buildRemoteExpectedPaths remoteItems = .ok expectedPaths
  distinct : DistinctInputs expectedPaths localEntries receipts
  limit : pathCount (planDrafts expectedPaths localEntries receipts) ≤ maxActions
  holds : HoldsFirst drafts (planDrafts expectedPaths localEntries receipts)
  plan_eq : plan = assemblePlan remoteItems localEntries receipts
    (expectedPaths.map
      (classifyExpected (convergenceIndex expectedPaths localEntries receipts))) drafts

/-- **The planner's plans**, with every check of the source turned into a condition on the inputs. -/
theorem planReceiveOnlyConvergence_ok {remoteItems : List RemoteItem}
    {localEntries : List LocalTreeEntry} {receipts : List ReceiveOnlyOwnershipReceipt}
    {maxActions : ℕ} {plan : ReceiveOnlyConvergencePlan}
    (h : planReceiveOnlyConvergence remoteItems localEntries receipts maxActions = .ok plan) :
    ∃ expectedPaths drafts,
      PlannedFrom remoteItems localEntries receipts maxActions expectedPaths drafts plan := by
  unfold planReceiveOnlyConvergence at h
  split at h
  · simp at h
  next hmax =>
  cases hmaterialization : planReceiveOnlyMaterialization remoteItems localEntries with
  | error e => simp [hmaterialization, fromMaterialization, bind, Except.bind] at h
  | ok materialization =>
  obtain ⟨⟨expected, hbuild⟩, hlocal⟩ :=
    (planReceiveOnlyMaterialization_isOk_iff _ _).mp ⟨_, hmaterialization⟩
  have hindex := (indexLocalEntries_ok_iff localEntries ∅ _).mpr
    ⟨hlocal, fun _ _ => AList.notMem_empty _, rfl⟩
  cases hreceipts : indexReceipts ∅ ∅ receipts with
  | error e =>
      simp [hmaterialization, hbuild, hindex, hreceipts, fromMaterialization, bind,
        Except.bind] at h
  | ok maps =>
  obtain ⟨⟨hids, -⟩, ⟨hpaths, -⟩, rfl⟩ := (indexReceipts_ok_iff _ _ _ _).mp hreceipts
  obtain ⟨root, hspec⟩ := buildRemoteExpectedPaths_sound hbuild
  have hd : DistinctInputs expected localEntries receipts :=
    ⟨hspec.nodup_ids, hspec.nodup_paths, hlocal, hids, hpaths⟩
  simp only [hmaterialization, hbuild, hindex, hreceipts, fromMaterialization, bind,
    Except.bind] at h
  split at h
  · simp at h
  next drafts hdrafts =>
  obtain ⟨hlimit, hholds⟩ := setActions_empty_ok hd.kindsAgree hdrafts
  exact ⟨expected, drafts, hmax, hbuild, hd, hlimit, hholds, (Except.ok.inj h).symm⟩

/-- Conversely, the planner returns a plan on every input that meets the conditions. -/
theorem planReceiveOnlyConvergence_isOk {remoteItems : List RemoteItem}
    {localEntries : List LocalTreeEntry} {receipts : List ReceiveOnlyOwnershipReceipt}
    {maxActions : ℕ} {expected : List RemoteExpectedPath} (hmax : maxActions ≠ 0)
    (hbuild : buildRemoteExpectedPaths remoteItems = .ok expected)
    (hd : DistinctInputs expected localEntries receipts)
    (hlimit : pathCount (planDrafts expected localEntries receipts) ≤ maxActions) :
    ∃ drafts plan,
      planReceiveOnlyConvergence remoteItems localEntries receipts maxActions = .ok plan ∧
      PlannedFrom remoteItems localEntries receipts maxActions expected drafts plan := by
  obtain ⟨materialization, hmaterialization⟩ :=
    (planReceiveOnlyMaterialization_isOk_iff _ _).mpr ⟨⟨expected, hbuild⟩, hd.local_paths⟩
  have hindex := (indexLocalEntries_ok_iff localEntries ∅ _).mpr
    ⟨hd.local_paths, fun _ _ => AList.notMem_empty _, rfl⟩
  have hreceipts := (indexReceipts_ok_iff receipts ∅ ∅ _).mpr
    ⟨⟨hd.receipt_ids, fun _ _ => AList.notMem_empty _⟩,
      ⟨hd.receipt_paths, fun _ _ => AList.notMem_empty _⟩, rfl⟩
  obtain ⟨drafts, hdrafts, hholds⟩ := setActions_empty hd.kindsAgree hlimit
  refine ⟨drafts, _, ?_, hmax, hbuild, hd, hlimit, hholds, rfl⟩
  unfold planReceiveOnlyConvergence
  rw [if_neg hmax]
  simp only [hmaterialization, hbuild, hindex, hreceipts, fromMaterialization, bind, Except.bind]
  unfold planDrafts convergenceIndex at hdrafts
  rw [hdrafts]
  rfl

end NubiSync
