import NubiSync.Library.Checks
import NubiSync.Sync.UnblockedCounts

set_option autoImplicit false

/-! # What the planned actions do to the inputs

An executor that succeeds changes the local tree and the receipts the next plan is made from. This
module writes the intended change down for every kind of action and proves that it only touches its
own class: expected work makes its items owned (`WorkEffect`), a removal takes its leftovers away
(`RemovalEffect`), and either way the inputs stay unblocked and every other class keeps its count. -/

namespace NubiSync

open Checks Counting Indexing

/-! ## The effects -/

/-- The local entries a set of actions creates. -/
def createdEntries (kind : LocalTreeEntryKind) (actions : List ReceiveOnlyConvergenceAction) :
    List LocalTreeEntry :=
  actions.filterMap fun action => (LocalTreeEntry.new action.relativePath kind).toOption

/-- The current receipts a set of actions records. -/
def currentReceipts (kind : LocalTreeEntryKind) (actions : List ReceiveOnlyConvergenceAction) :
    List ReceiveOnlyOwnershipReceipt :=
  actions.filterMap fun action => action.remoteId.bind fun remoteId =>
    (ReceiveOnlyOwnershipReceipt.new remoteId action.relativePath kind .current).toOption

/-- Receipts are kept by remote id, so a recorded receipt replaces the item's older one. -/
def recordReceipts (recorded receipts : List ReceiveOnlyOwnershipReceipt) :
    List ReceiveOnlyOwnershipReceipt :=
  receipts.filter (fun r => !recorded.any (·.remoteId == r.remoteId)) ++ recorded

/-- The entries that stand at none of the paths of a set of actions. -/
def removeEntries (actions : List ReceiveOnlyConvergenceAction) (entries : List LocalTreeEntry) :
    List LocalTreeEntry :=
  entries.filter fun l => !actions.any (·.relativePath == l.relativePath)

/-- The receipts that name none of the paths of a set of actions. -/
def removeReceipts (actions : List ReceiveOnlyConvergenceAction)
    (receipts : List ReceiveOnlyOwnershipReceipt) : List ReceiveOnlyOwnershipReceipt :=
  receipts.filter fun r => !actions.any (·.relativePath == r.relativePath)

theorem mem_createdEntries {kind : LocalTreeEntryKind}
    {actions : List ReceiveOnlyConvergenceAction} {l : LocalTreeEntry} :
    l ∈ createdEntries kind actions ↔
      ∃ action ∈ actions, l.relativePath = action.relativePath ∧ l.kind = kind := by
  simp only [createdEntries, List.mem_filterMap, toOption_eq_some_iff,
    LocalTreeEntry.new_eq_ok_iff]

theorem mem_currentReceipts {kind : LocalTreeEntryKind}
    {actions : List ReceiveOnlyConvergenceAction} {r : ReceiveOnlyOwnershipReceipt} :
    r ∈ currentReceipts kind actions ↔
      ∃ action ∈ actions, action.remoteId = some r.remoteId ∧
        r.relativePath = action.relativePath ∧ r.kind = kind ∧ r.state = .current := by
  simp only [currentReceipts, List.mem_filterMap, Option.bind_eq_some_iff,
    toOption_eq_some_iff, ReceiveOnlyOwnershipReceipt.new_eq_ok_iff]
  refine exists_congr fun action => and_congr_right fun _ => ?_
  constructor
  · rintro ⟨remoteId, hid, rfl, hrest⟩
    exact ⟨hid, hrest⟩
  · rintro ⟨hid, hrest⟩
    exact ⟨r.remoteId, hid, rfl, hrest⟩

theorem mem_recordReceipts {recorded receipts : List ReceiveOnlyOwnershipReceipt}
    {r : ReceiveOnlyOwnershipReceipt} :
    r ∈ recordReceipts recorded receipts ↔
      (r ∈ receipts ∧ ∀ r' ∈ recorded, r'.remoteId ≠ r.remoteId) ∨ r ∈ recorded := by
  simp [recordReceipts]

theorem mem_removeEntries {actions : List ReceiveOnlyConvergenceAction}
    {entries : List LocalTreeEntry} {l : LocalTreeEntry} :
    l ∈ removeEntries actions entries ↔
      l ∈ entries ∧ ¬ ∃ action ∈ actions, action.relativePath = l.relativePath := by
  simp [removeEntries]

theorem mem_removeReceipts {actions : List ReceiveOnlyConvergenceAction}
    {receipts : List ReceiveOnlyOwnershipReceipt} {r : ReceiveOnlyOwnershipReceipt} :
    r ∈ removeReceipts actions receipts ↔
      r ∈ receipts ∧ ¬ ∃ action ∈ actions, action.relativePath = r.relativePath := by
  simp [removeReceipts]

/-- Actions at distinct paths create entries at distinct paths. -/
theorem nodup_createdEntries (kind : LocalTreeEntryKind)
    {actions : List ReceiveOnlyConvergenceAction}
    (h : (actions.map ReceiveOnlyConvergenceAction.relativePath).Nodup) :
    ((createdEntries kind actions).map LocalTreeEntry.relativePath).Nodup := by
  rw [List.Nodup, List.pairwise_map] at h
  rw [List.Nodup, List.pairwise_map, createdEntries, List.pairwise_filterMap]
  refine h.imp fun {a b} hab l hl l' hl' hpath => hab ?_
  rw [toOption_eq_some_iff, LocalTreeEntry.new_eq_ok_iff] at hl hl'
  rw [← hl.1, ← hl'.1, hpath]

/-- Actions at distinct paths record receipts at distinct paths. -/
theorem nodup_currentReceipts (kind : LocalTreeEntryKind)
    {actions : List ReceiveOnlyConvergenceAction}
    (h : (actions.map ReceiveOnlyConvergenceAction.relativePath).Nodup) :
    ((currentReceipts kind actions).map ReceiveOnlyOwnershipReceipt.relativePath).Nodup := by
  rw [List.Nodup, List.pairwise_map] at h
  rw [List.Nodup, List.pairwise_map, currentReceipts, List.pairwise_filterMap]
  refine h.imp fun {a b} hab r hr r' hr' hpath => hab ?_
  simp only [Option.bind_eq_some_iff, toOption_eq_some_iff,
    ReceiveOnlyOwnershipReceipt.new_eq_ok_iff] at hr hr'
  obtain ⟨-, -, -, hpa, -⟩ := hr
  obtain ⟨-, -, -, hpb, -⟩ := hr'
  rw [← hpa, ← hpb, hpath]

/-- A recorded receipt replaces that of its item, so the items of the receipts stay distinct. -/
theorem nodup_recordReceipts_ids {recorded receipts : List ReceiveOnlyOwnershipReceipt}
    (h : (receipts.map ReceiveOnlyOwnershipReceipt.remoteId).Nodup)
    (hrecorded : (recorded.map ReceiveOnlyOwnershipReceipt.remoteId).Nodup) :
    ((recordReceipts recorded receipts).map ReceiveOnlyOwnershipReceipt.remoteId).Nodup := by
  refine nodup_map_append (h.sublist (List.filter_sublist.map _)) hrecorded ?_
  intro r hr r' hr' hsame
  have hkept := (List.mem_filter.mp hr).2
  simp only [Bool.not_eq_true', List.any_eq_false, beq_iff_eq] at hkept
  exact hkept r' hr' hsame.symm

/-- The paths stay distinct when only the receipt that it replaces can be at the path of a recorded
    one. -/
theorem nodup_recordReceipts_paths {recorded receipts : List ReceiveOnlyOwnershipReceipt}
    (h : (receipts.map ReceiveOnlyOwnershipReceipt.relativePath).Nodup)
    (hrecorded : (recorded.map ReceiveOnlyOwnershipReceipt.relativePath).Nodup)
    (hown : ∀ r ∈ receipts, ∀ r' ∈ recorded, r.relativePath = r'.relativePath →
      r'.remoteId = r.remoteId) :
    ((recordReceipts recorded receipts).map ReceiveOnlyOwnershipReceipt.relativePath).Nodup := by
  refine nodup_map_append (h.sublist (List.filter_sublist.map _)) hrecorded ?_
  intro r hr r' hr' hsame
  obtain ⟨hmem, hkept⟩ := List.mem_filter.mp hr
  simp only [Bool.not_eq_true', List.any_eq_false, beq_iff_eq] at hkept
  exact hkept r' hr' (hown r hmem r' hr' hsame)

/-! ## Finding receipts -/

section Receipts

variable {expectedPaths : List RemoteExpectedPath} {receipts receipts' : List ReceiveOnlyOwnershipReceipt}

/-- The state of an item's receipt depends on the receipts of that item only. -/
theorem receiptState_congr (hnodup : (receipts.map ReceiveOnlyOwnershipReceipt.remoteId).Nodup)
    (hnodup' : (receipts'.map ReceiveOnlyOwnershipReceipt.remoteId).Nodup) {e : RemoteExpectedPath}
    (h : ∀ r : ReceiveOnlyOwnershipReceipt, r.remoteId = e.remoteId →
      (r ∈ receipts ↔ r ∈ receipts')) :
    receiptState receipts e = receiptState receipts' e := by
  refine Option.ext fun state => ?_
  rw [receiptState_eq_some_iff hnodup, receiptState_eq_some_iff hnodup']
  constructor
  · rintro ⟨r, hr, hid, hstate⟩
    exact ⟨r, (h r hid).mp hr, hid, hstate⟩
  · rintro ⟨r, hr, hid, hstate⟩
    exact ⟨r, (h r hid).mpr hr, hid, hstate⟩

end Receipts

/-! ## Expected work -/

/-- The items `done` have become present and owned, and nothing else has changed. -/
structure WorkEffect (expectedPaths : List RemoteExpectedPath) (done : RemoteExpectedPath → Bool)
    (localEntries localEntries' : List LocalTreeEntry)
    (receipts receipts' : List ReceiveOnlyOwnershipReceipt) : Prop where
  local_keep : ∀ l ∈ localEntries, l ∈ localEntries'
  local_new : ∀ l ∈ localEntries', l ∈ localEntries ∨ ∃ e ∈ expectedPaths, done e = true ∧
    l.relativePath = e.relativePath ∧ l.kind = localKindForRemote e.kind
  done_present : ∀ e ∈ expectedPaths, done e = true → isPresent localEntries' e = true
  receipt_keep : ∀ r ∈ receipts, (∀ e ∈ expectedPaths, done e = true → r.remoteId ≠ e.remoteId) →
    r ∈ receipts'
  receipt_new : ∀ r ∈ receipts',
    (r ∈ receipts ∧ ∀ e ∈ expectedPaths, done e = true → r.remoteId ≠ e.remoteId) ∨
    ∃ e ∈ expectedPaths, done e = true ∧ r.remoteId = e.remoteId ∧
      r.relativePath = e.relativePath ∧ r.kind = localKindForRemote e.kind ∧ r.state = .current
  done_receipt : ∀ e ∈ expectedPaths, done e = true →
    ∃ r ∈ receipts', r.remoteId = e.remoteId ∧ r.state = .current
  distinct : DistinctInputs expectedPaths localEntries' receipts'

/-- Above an expected path stand only expected paths. -/
def ExpectedAbove (expectedPaths : List RemoteExpectedPath) : Prop :=
  ∀ e ∈ expectedPaths, ∀ above : Text, above.IsBelow e.relativePath →
    ∃ parent ∈ expectedPaths, parent.relativePath = above

/-- An expected path is safe, and its item has an id. -/
theorem ExpectedPathsOf.safe_of_mem {items : List RemoteItem} {root : Text}
    {expected : List RemoteExpectedPath} (h : ExpectedPathsOf items root expected)
    {e : RemoteExpectedPath} (he : e ∈ expected) :
    isSafeRelativePath e.relativePath = true ∧ e.remoteId.isBlank = false := by
  obtain ⟨item, path, hpath, rfl⟩ := (h.mem_iff e).mp he
  exact ⟨hpath.safe h.tree, (h.tree.valid item hpath.mem).id_not_blank⟩

theorem ExpectedPathsOf.expectedAbove {items : List RemoteItem} {root : Text}
    {expected : List RemoteExpectedPath} (h : ExpectedPathsOf items root expected) :
    ExpectedAbove expected := by
  intro e he above habove
  obtain ⟨item, path, hpath, rfl⟩ := (h.mem_iff e).mp he
  obtain ⟨folder, hfolder, -⟩ := hpath.exists_above h.tree habove
  exact ⟨folder.expectedAt above, (h.mem_iff _).mpr ⟨folder, above, hfolder, rfl⟩, rfl⟩

section Work

variable {expectedPaths : List RemoteExpectedPath} {done : RemoteExpectedPath → Bool}
  {localEntries localEntries' : List LocalTreeEntry}
  {receipts receipts' : List ReceiveOnlyOwnershipReceipt}
variable (hd : DistinctInputs expectedPaths localEntries receipts)
variable (hu : UnblockedInputs expectedPaths localEntries receipts)
variable (hw : WorkEffect expectedPaths done localEntries localEntries' receipts receipts')

include hd

theorem DistinctInputs.eq_of_id {e e' : RemoteExpectedPath} (he : e ∈ expectedPaths)
    (he' : e' ∈ expectedPaths) (h : e.remoteId = e'.remoteId) : e = e' :=
  List.inj_on_of_nodup_map hd.expected_ids he he' h

theorem DistinctInputs.eq_of_path {e e' : RemoteExpectedPath} (he : e ∈ expectedPaths)
    (he' : e' ∈ expectedPaths) (h : e.relativePath = e'.relativePath) : e = e' :=
  List.inj_on_of_nodup_map hd.expected_paths he he' h

include hw

omit hd in
theorem WorkEffect.isLocalOnly_mem {l : LocalTreeEntry}
    (hlocal : isLocalOnly expectedPaths l = true) : l ∈ localEntries' ↔ l ∈ localEntries := by
  refine ⟨fun hl => ?_, hw.local_keep l⟩
  rcases hw.local_new l hl with hold | ⟨e, he, -, hpath, -⟩
  · exact hold
  · exact absurd hpath.symm ((isLocalOnly_iff _ _).mp hlocal e he)

theorem WorkEffect.isPresent_eq {e : RemoteExpectedPath} (he : e ∈ expectedPaths) :
    isPresent localEntries' e = (done e || isPresent localEntries e) := by
  rw [Bool.eq_iff_iff, Bool.or_eq_true]
  constructor
  · intro h
    obtain ⟨l, hl, hpath⟩ := (isPresent_iff _ _).mp h
    rcases hw.local_new l hl with hold | ⟨e', he', hdone, hpath', -⟩
    · exact Or.inr ((isPresent_iff _ _).mpr ⟨l, hold, hpath⟩)
    · obtain rfl := hd.eq_of_path he' he (hpath'.symm.trans hpath)
      exact Or.inl hdone
  · rintro (hdone | h)
    · exact hw.done_present e he hdone
    · obtain ⟨l, hl, hpath⟩ := (isPresent_iff _ _).mp h
      exact (isPresent_iff _ _).mpr ⟨l, hw.local_keep l hl, hpath⟩

theorem WorkEffect.receiptState_eq {e : RemoteExpectedPath} (he : e ∈ expectedPaths) :
    receiptState receipts' e =
      if done e then some .current else receiptState receipts e := by
  split
  · next hdone =>
      obtain ⟨r, hr, hid, hstate⟩ := hw.done_receipt e he hdone
      exact (receiptState_eq_some_iff hw.distinct.receipt_ids e .current).mpr ⟨r, hr, hid, hstate⟩
  · next hdone =>
      have hother : ∀ e' ∈ expectedPaths, done e' = true → e.remoteId ≠ e'.remoteId := by
        intro e' he' hdone' hid
        exact hdone (hd.eq_of_id he he' hid ▸ hdone')
      refine receiptState_congr hw.distinct.receipt_ids hd.receipt_ids fun r hid => ⟨fun hr => ?_,
        fun hr => hw.receipt_keep r hr fun e' he' hdone' => hid ▸ hother e' he' hdone'⟩
      rcases hw.receipt_new r hr with ⟨hold, -⟩ | ⟨e', he', hdone', hid', -⟩
      · exact hold
      · exact absurd (hid.symm.trans hid') (hother e' he' hdone')

/-- What is done is owned, and nothing else changes its outcome. -/
theorem WorkEffect.presenceOutcome_eq {e : RemoteExpectedPath} (he : e ∈ expectedPaths) :
    presenceOutcome e.kind (isPresent localEntries' e) (receiptState receipts' e) =
      if done e then presenceOutcome e.kind true (some .current)
      else presenceOutcome e.kind (isPresent localEntries e) (receiptState receipts e) := by
  rw [hw.isPresent_eq hd he, hw.receiptState_eq hd he]
  cases done e <;> rfl

theorem WorkEffect.localOnlyCount_eq (kind : LocalTreeEntryKind) :
    localOnlyCount kind expectedPaths localEntries' = localOnlyCount kind expectedPaths localEntries := by
  refine countP_eq_of_mem_iff (List.Nodup.of_map _ hw.distinct.local_paths)
    (List.Nodup.of_map _ hd.local_paths) fun l hl => ?_
  exact hw.isLocalOnly_mem (Bool.and_eq_true_iff.mp hl).1

include hu

/-- Unblocked inputs stay unblocked under expected work. -/
theorem WorkEffect.unblocked (habove : ExpectedAbove expectedPaths) :
    UnblockedInputs expectedPaths localEntries' receipts' := by
  refine ⟨?_, ?_, ?_, ?_, ?_⟩
  · intro e he hconflict
    rcases hconflict with ⟨r, hr, hid, hdiff⟩ | ⟨r, hr, hpath, hdiff⟩
    · rcases hw.receipt_new r hr with ⟨hold, -⟩ | ⟨e', he', -, hid', hpath', hkind', -⟩
      · exact hu.no_conflict e he (Or.inl ⟨r, hold, hid, hdiff⟩)
      · obtain rfl := hd.eq_of_id he he' (hid.symm.trans hid')
        exact hdiff.elim (· hpath') (· hkind')
    · rcases hw.receipt_new r hr with ⟨hold, -⟩ | ⟨e', he', -, hid', hpath', -⟩
      · exact hu.no_conflict e he (Or.inr ⟨r, hold, hpath, hdiff⟩)
      · obtain rfl := hd.eq_of_path he he' (hpath.symm.trans hpath')
        exact hdiff hid'
  · intro e he l hl hpath
    rcases hw.local_new l hl with hold | ⟨e', he', -, hpath', hkind⟩
    · exact hu.local_kind e he l hold hpath
    · obtain rfl := hd.eq_of_path he he' (hpath.symm.trans hpath')
      exact hkind
  · intro e he hfolder hpresent
    rw [hw.receiptState_eq hd he]
    rw [hw.isPresent_eq hd he] at hpresent
    cases hdone : done e with
    | true => simp
    | false => exact hu.current_directory e he hfolder (by simpa [hdone] using hpresent)
  · intro l hl hlocal
    have hold := (hw.isLocalOnly_mem hlocal).mp hl
    obtain ⟨⟨r, howned⟩, hempty⟩ := hu.local_only l hold hlocal
    refine ⟨⟨r, ?_, howned.path, howned.stale, howned.kind, howned.absent⟩, fun hdirectory => ?_⟩
    · exact hw.receipt_keep r howned.mem fun e he _ hid => howned.absent e he hid.symm
    · -- a new entry is expected, and so is everything above it
      rw [localDirectoryIsEmpty_iff]
      intro l' hl' hbelow
      rcases hw.local_new l' hl' with hold' | ⟨e, he, -, hpath, -⟩
      · exact (localDirectoryIsEmpty_iff _ _).mp (hempty hdirectory) l' hold' hbelow
      · obtain ⟨parent, hparent, hpath'⟩ := habove e he l.relativePath (hpath ▸ hbelow)
        exact (isLocalOnly_iff _ _).mp hlocal parent hparent hpath'
  · intro r hr
    rcases hw.receipt_new r hr with ⟨hold, -⟩ | ⟨e, he, -, hid, hpath, hkind, -⟩
    · rcases hu.receipt_target r hold with ⟨l, hl, hpath⟩ | htarget
      · exact Or.inl ⟨l, hw.local_keep l hl, hpath⟩
      · exact Or.inr htarget
    · exact Or.inr ⟨e, he, hid.symm, hpath.symm, hkind.symm⟩

end Work

/-- **Expected work finishes its outcome** among the expected items and leaves the other kinds of work. -/
theorem WorkEffect.outcomeCount_eq {expectedPaths : List RemoteExpectedPath}
    {localEntries localEntries' : List LocalTreeEntry}
    {receipts receipts' : List ReceiveOnlyOwnershipReceipt} {kind : ReceiveOnlyConvergenceActionKind}
    (hd : DistinctInputs expectedPaths localEntries receipts)
    (hw : WorkEffect expectedPaths (isPlanned kind localEntries receipts) localEntries localEntries'
      receipts receipts') (work : ReceiveOnlyConvergenceActionKind) :
    outcomeCount (.act work) expectedPaths localEntries' receipts' =
      if work = kind then 0 else outcomeCount (.act work) expectedPaths localEntries receipts := by
  -- an item that is present and has its current receipt asks for no work
  have howned : ∀ remoteKind, presenceOutcome remoteKind true (some .current) ≠ .act work := by
    intro remoteKind
    cases remoteKind <;> simp [presenceOutcome, matchLocalEntry, localKindForRemote]
  split
  · next hsame =>
      subst hsame
      refine List.countP_eq_zero.mpr fun e he => ?_
      rw [hw.presenceOutcome_eq hd he, beq_iff_eq]
      split
      · exact howned e.kind
      · next hno => simpa [isPlanned] using hno
  · next hdiff =>
      refine List.countP_congr fun e he => ?_
      rw [hw.presenceOutcome_eq hd he, beq_iff_eq, beq_iff_eq]
      split
      · next hdone =>
          have hdone : presenceOutcome e.kind (isPresent localEntries e)
              (receiptState receipts e) = .act kind := by simpa [isPlanned] using hdone
          rw [hdone]
          exact ⟨fun h => absurd h (howned e.kind),
            fun h => absurd (ExpectedOutcome.act.inj h).symm hdiff⟩
      · rfl

/-- **Expected work finishes its class** and leaves the counts of the others. -/
theorem WorkEffect.classCount_eq {expectedPaths : List RemoteExpectedPath}
    {localEntries localEntries' : List LocalTreeEntry}
    {receipts receipts' : List ReceiveOnlyOwnershipReceipt} {kind : ReceiveOnlyConvergenceActionKind}
    (hd : DistinctInputs expectedPaths localEntries receipts)
    (hw : WorkEffect expectedPaths (isPlanned kind localEntries receipts) localEntries localEntries'
      receipts receipts') (hkind : IsExpectedWork kind) (other : ReceiveOnlyConvergenceActionKind) :
    classCount other expectedPaths localEntries' receipts' =
      if other = kind then 0 else classCount other expectedPaths localEntries receipts := by
  obtain ⟨hblocked, hremoval⟩ := hkind
  cases other with
  | blocked => simp [classCount]
  | revalidateStaleFileDeletion =>
      rw [if_neg fun h => hremoval (Or.inl h.symm)]
      exact hw.localOnlyCount_eq hd .file
  | deleteOwnedEmptyDirectory =>
      rw [if_neg fun h => hremoval (Or.inr h.symm)]
      exact hw.localOnlyCount_eq hd .directory
  | createDirectory => exact hw.outcomeCount_eq hd .createDirectory
  | materializeMissingFile => exact hw.outcomeCount_eq hd .materializeMissingFile
  | verifyExistingFile => exact hw.outcomeCount_eq hd .verifyExistingFile
  | revalidateStaleFileReplacement => exact hw.outcomeCount_eq hd .revalidateStaleFileReplacement

/-! ## Removals -/

/-- The leftovers of a kind and their receipts are gone, and nothing else has changed. -/
structure RemovalEffect (expectedPaths : List RemoteExpectedPath) (kind : LocalTreeEntryKind)
    (localEntries localEntries' : List LocalTreeEntry)
    (receipts receipts' : List ReceiveOnlyOwnershipReceipt) : Prop where
  local_mem : ∀ l, l ∈ localEntries' ↔
    l ∈ localEntries ∧ ¬ (isLocalOnly expectedPaths l = true ∧ l.kind = kind)
  receipt_mem : ∀ r, r ∈ receipts' ↔ r ∈ receipts ∧
    ¬ ∃ l ∈ localEntries, isLocalOnly expectedPaths l = true ∧ l.kind = kind ∧
      l.relativePath = r.relativePath
  distinct : DistinctInputs expectedPaths localEntries' receipts'

section Removal

variable {expectedPaths : List RemoteExpectedPath} {kind : LocalTreeEntryKind}
  {localEntries localEntries' : List LocalTreeEntry}
  {receipts receipts' : List ReceiveOnlyOwnershipReceipt}
variable (hd : DistinctInputs expectedPaths localEntries receipts)
variable (hu : UnblockedInputs expectedPaths localEntries receipts)
variable (hr : RemovalEffect expectedPaths kind localEntries localEntries' receipts receipts')

include hr

theorem RemovalEffect.isPresent_eq {e : RemoteExpectedPath} (he : e ∈ expectedPaths) :
    isPresent localEntries' e = isPresent localEntries e := by
  rw [Bool.eq_iff_iff, isPresent_iff, isPresent_iff]
  constructor
  · rintro ⟨l, hl, hpath⟩
    exact ⟨l, ((hr.local_mem l).mp hl).1, hpath⟩
  · rintro ⟨l, hl, hpath⟩
    refine ⟨l, (hr.local_mem l).mpr ⟨hl, fun hgone => ?_⟩, hpath⟩
    exact (isLocalOnly_iff _ _).mp hgone.1 e he hpath.symm

include hd hu in
theorem RemovalEffect.receiptState_eq {e : RemoteExpectedPath} (he : e ∈ expectedPaths) :
    receiptState receipts' e = receiptState receipts e := by
  refine receiptState_congr hr.distinct.receipt_ids hd.receipt_ids fun r hid => ?_
  rw [hr.receipt_mem]
  refine ⟨And.left, fun hold => ⟨hold, ?_⟩⟩
  rintro ⟨l, hl, hlocal, -, hpath⟩
  exact (isLocalOnly_iff _ _).mp hlocal e he
    ((hu.own_receipt he hold hid).1.symm.trans hpath.symm)

include hd hu in
/-- Unblocked inputs stay unblocked under a removal. -/
theorem RemovalEffect.unblocked : UnblockedInputs expectedPaths localEntries' receipts' := by
  have hlocal : ∀ l ∈ localEntries', l ∈ localEntries := fun l hl => ((hr.local_mem l).mp hl).1
  have hreceipt : ∀ r ∈ receipts', r ∈ receipts := fun r h => ((hr.receipt_mem r).mp h).1
  refine ⟨?_, ?_, ?_, ?_, ?_⟩
  · rintro e he (⟨r, h, hid, hdiff⟩ | ⟨r, h, hpath, hdiff⟩)
    · exact hu.no_conflict e he (Or.inl ⟨r, hreceipt r h, hid, hdiff⟩)
    · exact hu.no_conflict e he (Or.inr ⟨r, hreceipt r h, hpath, hdiff⟩)
  · exact fun e he l hl hpath => hu.local_kind e he l (hlocal l hl) hpath
  · intro e he hfolder hpresent
    rw [hr.receiptState_eq hd hu he]
    exact hu.current_directory e he hfolder (hr.isPresent_eq he ▸ hpresent)
  · intro l hl hl'
    obtain ⟨hold, hkept⟩ := (hr.local_mem l).mp hl
    obtain ⟨⟨r, howned⟩, hempty⟩ := hu.local_only l hold hl'
    refine ⟨⟨r, (hr.receipt_mem r).mpr ⟨howned.mem, ?_⟩, howned.path, howned.stale, howned.kind,
      howned.absent⟩, fun hdirectory => ?_⟩
    · rintro ⟨other, hother, hgone, hkind, hpath⟩
      have hsame : other = l :=
        List.inj_on_of_nodup_map hd.local_paths hother hold (hpath.trans howned.path)
      exact hkept ⟨hsame ▸ hgone, hsame ▸ hkind⟩
    · exact (localDirectoryIsEmpty_iff _ _).mpr fun l' h' =>
        (localDirectoryIsEmpty_iff _ _).mp (hempty hdirectory) l' (hlocal l' h')
  · intro r h
    obtain ⟨hold, hkept⟩ := (hr.receipt_mem r).mp h
    rcases hu.receipt_target r hold with ⟨l, hl, hpath⟩ | htarget
    · refine Or.inl ⟨l, (hr.local_mem l).mpr ⟨hl, fun hgone => ?_⟩, hpath⟩
      exact hkept ⟨l, hl, hgone.1, hgone.2, hpath⟩
    · exact Or.inr htarget

theorem RemovalEffect.localOnlyCount_eq
    (hd : DistinctInputs expectedPaths localEntries receipts) (other : LocalTreeEntryKind) :
    localOnlyCount other expectedPaths localEntries' =
      if other = kind then 0 else localOnlyCount other expectedPaths localEntries := by
  split
  · next hsame =>
      refine List.countP_eq_zero.mpr fun l hl => ?_
      have hkept := ((hr.local_mem l).mp hl).2
      simpa [hsame] using hkept
  · next hdiff =>
      refine countP_eq_of_mem_iff (List.Nodup.of_map _ hr.distinct.local_paths)
        (List.Nodup.of_map _ hd.local_paths) fun l hl => ?_
      rw [Bool.and_eq_true_iff, beq_iff_eq] at hl
      rw [hr.local_mem]
      exact ⟨And.left, fun hold => ⟨hold, fun hgone => hdiff (hl.2.symm.trans hgone.2)⟩⟩

include hd hu in
/-- **A removal finishes its class** and leaves the counts of the others. -/
theorem RemovalEffect.classCount_eq (other : ReceiveOnlyConvergenceActionKind) :
    classCount other expectedPaths localEntries' receipts' =
      if other = removalKind kind then 0
      else classCount other expectedPaths localEntries receipts := by
  have houtcome : ∀ outcome, outcomeCount outcome expectedPaths localEntries' receipts' =
      outcomeCount outcome expectedPaths localEntries receipts := by
    intro outcome
    refine List.countP_congr fun e he => ?_
    rw [hr.isPresent_eq he, hr.receiptState_eq hd hu he]
  have hfiles := hr.localOnlyCount_eq hd .file
  have hdirectories := hr.localOnlyCount_eq hd .directory
  cases other <;> cases kind <;>
    simp_all [classCount, removalKind]

end Removal

/-! ## The effects of a plan -/

section Plan

variable {remoteItems : List RemoteItem} {root : Text} {localEntries : List LocalTreeEntry}
  {receipts : List ReceiveOnlyOwnershipReceipt} {maxActions : ℕ}
  {expectedPaths : List RemoteExpectedPath} {drafts : ActionMap} {plan : ReceiveOnlyConvergencePlan}
variable (h : PlannedFrom remoteItems localEntries receipts maxActions expectedPaths drafts plan)
variable (hu : UnblockedInputs expectedPaths localEntries receipts)

include h

theorem PlannedFrom.nodup_actions (p : ReceiveOnlyConvergenceAction → Bool) :
    ((plan.actions.filter p).map ReceiveOnlyConvergenceAction.relativePath).Nodup := by
  rw [h.actions_eq]
  exact h.holds.nodup_paths.sublist (List.filter_sublist.map _)

include hu

/-- The receipts recorded for the actions of a kind of expected work are those of its items. -/
theorem PlannedFrom.mem_recorded_iff {kind : ReceiveOnlyConvergenceActionKind}
    (hkind : IsExpectedWork kind) (localKind : LocalTreeEntryKind)
    (r : ReceiveOnlyOwnershipReceipt) :
    r ∈ currentReceipts localKind (plan.actions.filter (·.kind == kind)) ↔
      ∃ e ∈ expectedPaths, isPlanned kind localEntries receipts e = true ∧
        r.remoteId = e.remoteId ∧ r.relativePath = e.relativePath ∧ r.kind = localKind ∧
        r.state = .current := by
  rw [mem_currentReceipts]
  constructor
  · rintro ⟨action, haction, hid, hpath, hrest⟩
    obtain ⟨e, he, hplanned, rfl⟩ := (h.mem_work_iff hu hkind action).mp haction
    exact ⟨e, he, hplanned, (Option.some.inj hid).symm, hpath, hrest⟩
  · rintro ⟨e, he, hplanned, hid, hpath, hrest⟩
    exact ⟨_, (h.mem_work_iff hu hkind _).mpr ⟨e, he, hplanned, rfl⟩, congrArg some hid.symm, hpath,
      hrest⟩

theorem PlannedFrom.nodup_recorded_ids {kind : ReceiveOnlyConvergenceActionKind}
    (hkind : IsExpectedWork kind) (localKind : LocalTreeEntryKind) :
    ((currentReceipts localKind (plan.actions.filter (·.kind == kind))).map
      ReceiveOnlyOwnershipReceipt.remoteId).Nodup := by
  have hactions := h.nodup_actions (·.kind == kind)
  rw [List.Nodup, List.pairwise_map] at hactions
  rw [List.Nodup, List.pairwise_map, currentReceipts, List.pairwise_filterMap]
  refine hactions.imp_of_mem fun {a b} ha hb hab r hr r' hr' hid => hab ?_
  obtain ⟨e, he, -, rfl⟩ := (h.mem_work_iff hu hkind a).mp ha
  obtain ⟨e', he', -, rfl⟩ := (h.mem_work_iff hu hkind b).mp hb
  simp only [Option.bind_some, toOption_eq_some_iff,
    ReceiveOnlyOwnershipReceipt.new_eq_ok_iff] at hr hr'
  rw [h.distinct.eq_of_id he he' (hr.1.symm.trans (hid.trans hr'.1))]

theorem PlannedFrom.exists_recorded (hspec : ExpectedPathsOf remoteItems root expectedPaths)
    {kind : ReceiveOnlyConvergenceActionKind} (hkind : IsExpectedWork kind)
    (localKind : LocalTreeEntryKind) {e : RemoteExpectedPath} (he : e ∈ expectedPaths)
    (hplanned : isPlanned kind localEntries receipts e = true) :
    ∃ r ∈ currentReceipts localKind (plan.actions.filter (·.kind == kind)),
      r.remoteId = e.remoteId ∧ r.state = .current := by
  obtain ⟨hsafe, hblank⟩ := hspec.safe_of_mem he
  exact ⟨⟨e.remoteId, e.relativePath, localKind, .current, hblank, hsafe⟩,
    (h.mem_recorded_iff hu hkind localKind _).mpr ⟨e, he, hplanned, rfl, rfl, rfl, rfl⟩, rfl, rfl⟩

/-- A receipt survives the recording exactly when it belongs to none of the planned items. -/
theorem PlannedFrom.recorded_apart_iff (hspec : ExpectedPathsOf remoteItems root expectedPaths)
    {kind : ReceiveOnlyConvergenceActionKind} (hkind : IsExpectedWork kind)
    (localKind : LocalTreeEntryKind) (r : ReceiveOnlyOwnershipReceipt) :
    (∀ r' ∈ currentReceipts localKind (plan.actions.filter (·.kind == kind)),
      r'.remoteId ≠ r.remoteId) ↔
    ∀ e ∈ expectedPaths, isPlanned kind localEntries receipts e = true →
      r.remoteId ≠ e.remoteId := by
  constructor
  · intro hno e he hplanned hid
    obtain ⟨r', hr', hid', -⟩ := h.exists_recorded hu hspec hkind localKind he hplanned
    exact hno r' hr' (hid'.trans hid.symm)
  · intro hno r' hr' hid
    obtain ⟨e, he, hplanned, hid', -⟩ := (h.mem_recorded_iff hu hkind localKind r').mp hr'
    exact hno e he hplanned (hid.symm.trans hid')

/-- The created entries and the recorded receipts keep paths and items distinct. -/
theorem PlannedFrom.distinct_recorded {kind : ReceiveOnlyConvergenceActionKind}
    (hkind : IsExpectedWork kind) {localKind : LocalTreeEntryKind} {created : List LocalTreeEntry}
    (hnodup : (created.map LocalTreeEntry.relativePath).Nodup)
    (hcreated : ∀ l ∈ created, ∃ e ∈ expectedPaths,
      isPresent localEntries e = false ∧ l.relativePath = e.relativePath) :
    DistinctInputs expectedPaths (localEntries ++ created)
      (recordReceipts (currentReceipts localKind (plan.actions.filter (·.kind == kind)))
        receipts) := by
  have hd := h.distinct
  refine ⟨hd.expected_ids, hd.expected_paths, ?_, ?_, ?_⟩
  · refine nodup_map_append hd.local_paths hnodup ?_
    intro l hl l' hl' hsame
    obtain ⟨e, -, habsent, hpath⟩ := hcreated l' hl'
    rw [(isPresent_iff _ _).mpr ⟨l, hl, hsame.trans hpath⟩] at habsent
    cases habsent
  · exact nodup_recordReceipts_ids hd.receipt_ids (h.nodup_recorded_ids hu hkind localKind)
  · refine nodup_recordReceipts_paths hd.receipt_paths
      (nodup_currentReceipts localKind (h.nodup_actions (·.kind == kind))) ?_
    intro r hr r' hr' hsame
    obtain ⟨e, he, -, hid, hpath, -⟩ := (h.mem_recorded_iff hu hkind localKind r').mp hr'
    -- a receipt at the path of a planned item is the item's own
    by_contra hother
    refine hu.no_conflict e he (Or.inr ⟨r, hr, hsame.trans hpath, fun hown => ?_⟩)
    exact hother (hid.trans hown.symm)

/-- **The nominal effect of expected work.** The created entries are those of the planned items that
    are absent. -/
theorem PlannedFrom.workEffect (hspec : ExpectedPathsOf remoteItems root expectedPaths)
    {kind : ReceiveOnlyConvergenceActionKind} (hkind : IsExpectedWork kind)
    {localKind : LocalTreeEntryKind}
    (hlocalKind : ∀ e, isPlanned kind localEntries receipts e = true →
      localKindForRemote e.kind = localKind)
    {created : List LocalTreeEntry} (hnodup : (created.map LocalTreeEntry.relativePath).Nodup)
    (hcreated : ∀ l, l ∈ created ↔ ∃ e ∈ expectedPaths,
      isPlanned kind localEntries receipts e = true ∧ isPresent localEntries e = false ∧
        l.relativePath = e.relativePath ∧ l.kind = localKind) :
    WorkEffect expectedPaths (isPlanned kind localEntries receipts) localEntries
      (localEntries ++ created) receipts
      (recordReceipts (currentReceipts localKind (plan.actions.filter (·.kind == kind)))
        receipts) := by
  have hkept := h.recorded_apart_iff hu hspec hkind localKind
  have hfresh : ∀ l ∈ created, ∃ e ∈ expectedPaths,
      isPresent localEntries e = false ∧ l.relativePath = e.relativePath := by
    intro l hl
    obtain ⟨e, he, -, habsent, hpath, -⟩ := (hcreated l).mp hl
    exact ⟨e, he, habsent, hpath⟩
  refine
    { local_keep := fun l hl => List.mem_append_left _ hl
      local_new := fun l hl => ?_
      done_present := fun e he hplanned => ?_
      receipt_keep := fun r hr hno => mem_recordReceipts.mpr (Or.inl ⟨hr, (hkept r).mpr hno⟩)
      receipt_new := fun r hr => ?_
      done_receipt := fun e he hplanned => ?_
      distinct := h.distinct_recorded hu hkind hnodup hfresh }
  · refine (List.mem_append.mp hl).imp_right fun hnew => ?_
    obtain ⟨e, he, hplanned, -, hpath, hk⟩ := (hcreated l).mp hnew
    exact ⟨e, he, hplanned, hpath, hk.trans (hlocalKind e hplanned).symm⟩
  · cases hpresent : isPresent localEntries e with
    | true =>
        obtain ⟨l, hl, hpath⟩ := (isPresent_iff _ _).mp hpresent
        exact (isPresent_iff _ _).mpr ⟨l, List.mem_append_left _ hl, hpath⟩
    | false =>
        have hsafe := (hspec.safe_of_mem he).1
        refine (isPresent_iff _ _).mpr ⟨⟨e.relativePath, localKind, hsafe⟩,
          List.mem_append_right _ ?_, rfl⟩
        exact (hcreated _).mpr ⟨e, he, hplanned, hpresent, rfl, rfl⟩
  · refine (mem_recordReceipts.mp hr).imp (fun ⟨hold, hno⟩ => ⟨hold, (hkept r).mp hno⟩)
      fun hnew => ?_
    obtain ⟨e, he, hplanned, hid, hpath, hk, hstate⟩ :=
      (h.mem_recorded_iff hu hkind localKind r).mp hnew
    exact ⟨e, he, hplanned, hid, hpath, hk.trans (hlocalKind e hplanned).symm, hstate⟩
  · obtain ⟨r, hr, hid, hstate⟩ := h.exists_recorded hu hspec hkind localKind he hplanned
    exact ⟨r, mem_recordReceipts.mpr (Or.inr hr), hid, hstate⟩

/-- **The nominal effect of a removal.** -/
theorem PlannedFrom.removalEffect (kind : LocalTreeEntryKind) :
    RemovalEffect expectedPaths kind localEntries
      (removeEntries (plan.actions.filter (·.kind == removalKind kind)) localEntries) receipts
      (removeReceipts (plan.actions.filter (·.kind == removalKind kind)) receipts) where
  local_mem l := by
    rw [mem_removeEntries, h.exists_removal_at hu]
    refine and_congr_right fun hl => not_congr ⟨?_, fun hgone => ⟨l, hl, hgone.1, hgone.2, rfl⟩⟩
    rintro ⟨other, hother, hlocal, hkind, hpath⟩
    obtain rfl := List.inj_on_of_nodup_map h.distinct.local_paths hother hl hpath
    exact ⟨hlocal, hkind⟩
  receipt_mem r := by rw [mem_removeReceipts, h.exists_removal_at hu]
  distinct :=
    { h.distinct with
      local_paths := h.distinct.local_paths.sublist (List.filter_sublist.map _)
      receipt_ids := h.distinct.receipt_ids.sublist (List.filter_sublist.map _)
      receipt_paths := h.distinct.receipt_paths.sublist (List.filter_sublist.map _) }

end Plan

end NubiSync
