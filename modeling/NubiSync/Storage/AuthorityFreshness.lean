import NubiSync.Storage.IntentExecution

set_option autoImplicit false

/-! # Fresh authority

The authority rows are not keyed to the catalog, and no window, batch or snapshot deletes them. They
carry the cursor at which they were observed, and a submission compares it with the cursor of the
catalog. So they are fresh when they are used because no commit puts in place a cursor that an earlier
commit had put in place. -/

namespace NubiSync

open Checks

/-! ## Runs that note their cursors -/

/-- The ids the stored authority is of. -/
def RootStore.authorityIds (store : RootStore) : List Text :=
  store.authority.rows.map RemoteWriteAuthoritySnapshot.remoteId

/-- The ids of the catalog. -/
def RootStore.catalogIds (store : RootStore) : List Text :=
  store.catalog.items.rows.map CatalogRow.remoteId

/-- The stored authority is that of the root and of the items of the catalog. -/
def RootStore.AuthorityFresh (store : RootStore) (rootId : Text) : Prop :=
  ∀ id, id ∈ store.authorityIds ↔ id ∈ rootId :: store.catalogIds

/-- The change cursor that a commit of mutations puts in place. -/
def RootOperation.nextCursor? : RootOperation → Option ChangeCursor
  | .inventory (.commitBatch _ _ cursor) => some cursor
  | .inventory (.commitWindow _ checkpoint _ _) => some checkpoint
  | _ => none

/-- One transaction on a root, with the change cursors that commits have put in place. -/
def applyNoting (noted : RootStore × List ChangeCursor) (op : RootOperation) :
    Except StorageError (RootStore × List ChangeCursor) := do
  let next ← noted.1.apply op
  .ok (next, op.nextCursor?.toList ++ noted.2)

/-- A step with its cursor noted. -/
def NotingStep (noted : RootStore × List ChangeCursor) (op : RootOperation)
    (next : RootStore × List ChangeCursor) : Prop :=
  applyNoting noted op = .ok next

/-- The ids an authority snapshot is given. -/
def givenIds (authorities : List RemoteWriteAuthoritySnapshot) : List Text :=
  authorities.map RemoteWriteAuthoritySnapshot.remoteId

/-- What is assumed of the callers: a commit of mutations puts in place a cursor that no earlier one has
    put in place, an authority snapshot is given just the root and the items of the catalog, and the
    catalog and the authority are written in no other way than by commits. -/
def CallersKeep (rootId : Text) (noted : RootStore × List ChangeCursor) : RootOperation → Prop
  | .inventory (.commitBatch _ _ cursor) => cursor ∉ noted.2
  | .inventory (.commitWindow _ checkpoint _ _) => checkpoint ∉ noted.2
  | .inventory (.upsertItem _) | .inventory (.deleteSubtree _) => False
  | .authority (.commitSnapshot _ authorities _) =>
      givenIds authorities ⊆ rootId :: noted.1.catalogIds ∧
        rootId :: noted.1.catalogIds ⊆ givenIds authorities
  | .authority _ => False
  | _ => True

instance (rootId : Text) (noted : RootStore × List ChangeCursor) (op : RootOperation) :
    Decidable (CallersKeep rootId noted op) := by
  unfold CallersKeep
  split <;> infer_instance

/-- A run from a new root under these assumptions. -/
abbrev AuthorityRun (mode : SyncMode) (rootId : Text) (store : RootStore)
    (cursors : List ChangeCursor) : Prop :=
  Machine.Run NotingStep (CallersKeep rootId) (RootStore.new mode, []) (store, cursors)

/-- The intent that an operation submits. -/
def RootOperation.submits? : RootOperation → Option ℕ
  | .intents (.beginFileCreate id _ _ _) | .intents (.beginFolderCreate id _ _ _)
  | .intents (.restartFileCreate id _ _ _ _) => some id
  | _ => none

/-! ## The invariant -/

variable {store next : RootStore} {op : RootOperation} {rootId : Text} {cursors : List ChangeCursor}

/-- Both cursors have been noted, and where they agree the authority is fresh. -/
structure AuthorityStamped (rootId : Text) (store : RootStore) (cursors : List ChangeCursor) :
    Prop where
  catalog : ∀ cursor, store.changeCursor = some cursor → cursor ∈ cursors
  authority : ∀ state, store.authorityState = some state → state.changeCursor ∈ cursors
  fresh : ∀ state, store.authorityState = some state →
    store.changeCursor = some state.changeCursor → store.AuthorityFresh rootId

theorem notingStep_iff {noted next : RootStore × List ChangeCursor} :
    NotingStep noted op next ↔
      noted.1.Step op next.1 ∧ next.2 = op.nextCursor?.toList ++ noted.2 :=
  bind_beside_eq_ok

/-- What the freshness of the authority depends on. -/
def RootStore.stamp (store : RootStore) : Table CatalogRow.remoteId × Option ChangeCursor
    × Table RemoteWriteAuthoritySnapshot.remoteId × Option RemoteWriteAuthorityState :=
  (store.catalog.items, store.changeCursor, store.authority, store.authorityState)

theorem AuthorityStamped.of_same (h : AuthorityStamped rootId store cursors)
    (hsame : next.stamp = store.stamp) : AuthorityStamped rootId next cursors := by
  obtain ⟨hitems, hsame⟩ := Prod.mk.inj hsame
  obtain ⟨hcursor, hsame⟩ := Prod.mk.inj hsame
  obtain ⟨hauthority, hstate⟩ := Prod.mk.inj hsame
  refine ⟨fun cursor hsome => h.catalog cursor (hcursor ▸ hsome),
    fun state hsome => h.authority state (hstate ▸ hsome), fun state hsome hagree id => ?_⟩
  have hfresh := h.fresh state (hstate ▸ hsome) (hcursor ▸ hagree) id
  rwa [RootStore.authorityIds, RootStore.catalogIds, hauthority, hitems]

/-- A cursor that was not put in place before is not the one the authority was observed at. -/
theorem AuthorityStamped.advanced (h : AuthorityStamped rootId store cursors) {cursor : ChangeCursor}
    (hnew : cursor ∉ cursors) (hcursor : next.changeCursor = some cursor)
    (hstate : next.authorityState = store.authorityState) :
    AuthorityStamped rootId next (cursor :: cursors) := by
  refine ⟨fun other hother => ?_, fun state hsome => ?_, fun state hsome hagree => ?_⟩
  · rw [hcursor] at hother
    exact List.mem_cons.mpr (Or.inl (Option.some.inj hother).symm)
  · exact List.mem_cons_of_mem _ (h.authority state (hstate ▸ hsome))
  · rw [hcursor] at hagree
    obtain rfl := Option.some.inj hagree
    exact absurd (h.authority state (hstate ▸ hsome)) hnew

/-- A plain `INSERT` of each row into an empty table leaves just these rows. -/
theorem ensures_foldlM_insertNew {ρ κ : Type} [DecidableEq κ] {key : ρ → κ} (rows : List ρ) :
    ∀ t : Table key, Ensures (rows.foldlM insertNew t) fun next => next.rows = t.rows ++ rows := by
  induction rows with
  | nil => exact fun t => .ok (List.append_nil _).symm
  | cons row rest ih =>
      intro t
      rw [List.foldlM_cons]
      refine (ensures_insertNew t row).bind fun middle ⟨habsent, hmiddle⟩ => ?_
      subst hmiddle
      refine (ih _).mono fun next hnext => ?_
      rw [hnext, Table.rows_upsert_of_absent habsent, List.append_assoc]
      rfl

theorem ensures_commitAuthority (store : RootStore) (cursor : ChangeCursor)
    (authorities : List RemoteWriteAuthoritySnapshot) (observedAt : Int) :
    Ensures (store.commitRemoteWriteAuthoritySnapshot cursor authorities observedAt) fun r =>
      store.changeCursor = some cursor ∧ r.1.changeCursor = store.changeCursor ∧
        r.1.catalog = store.catalog ∧ r.1.authority.rows = authorities ∧
        ∃ itemCount, r.1.authorityState = some ⟨cursor, itemCount⟩ := by
  refine .present fun state hstate => .check fun _ => .check fun hcursor => .check fun _ => ?_
  refine .after fun _ => .after fun count => .check fun _ => .check fun _ => ?_
  refine (ensures_foldlM_insertNew authorities ∅).bind fun authority hrows => .ok ?_
  refine ⟨?_, rfl, rfl, by simpa using hrows, count, rfl⟩
  rw [RootStore.changeCursor, hstate]
  simpa using hcursor

theorem AuthorityStamped.observed (h : AuthorityStamped rootId store cursors) {cursor : ChangeCursor}
    {authorities : List RemoteWriteAuthoritySnapshot} {observedAt : Int}
    (hgiven : CallersKeep rootId (store, cursors)
      (.authority (.commitSnapshot cursor authorities observedAt)))
    (hstep : store.Step (.authority (.commitSnapshot cursor authorities observedAt)) next) :
    AuthorityStamped rootId next cursors := by
  obtain ⟨hcursor, hkept, hcatalog, hrows, itemCount, hstate⟩ :=
    ensures_stateOf (P := fun next => store.changeCursor = some cursor ∧
      next.changeCursor = store.changeCursor ∧ next.catalog = store.catalog ∧
      next.authority.rows = authorities ∧ ∃ itemCount, next.authorityState = some ⟨cursor, itemCount⟩)
      (ensures_commitAuthority store cursor authorities observedAt) next hstep
  refine ⟨fun other hother => h.catalog other (hkept ▸ hother), fun state hsome => ?_,
    fun state hsome hagree id => ?_⟩
  · obtain rfl := Option.some.inj (hstate.symm.trans hsome)
    exact h.catalog cursor hcursor
  · rw [RootStore.authorityIds, RootStore.catalogIds, hrows, hcatalog]
    exact ⟨fun hid => hgiven.1 hid, fun hid => hgiven.2 hid⟩

/-- **A step of the callers keeps the stamp.** -/
theorem AuthorityStamped.step (h : AuthorityStamped rootId store cursors)
    (hkeeps : CallersKeep rootId (store, cursors) op) (hstep : store.Step op next) :
    AuthorityStamped rootId next (op.nextCursor?.toList ++ cursors) := by
  cases hside : op.isLocalSide with
  -- neither cursor, catalog nor authority is written to
  | true =>
      have hnone : op.nextCursor? = none := by
        cases op <;> first | rfl | cases hside
      have hsame := hstep.remoteSide hside
      rw [hnone]
      refine h.of_same (Prod.ext (congrArg RemoteSide.items hsame) (Prod.ext ?_
        (Prod.ext (congrArg RemoteSide.authority hsame)
          (congrArg RemoteSide.authorityState hsame))))
      exact congrArg (fun side : RemoteSide => side.remoteState.bind (·.changeCursor)) hsame
  | false =>
      cases op with
      | authority aop =>
          cases aop with
          | commitSnapshot cursor authorities observedAt => exact h.observed hkeeps hstep
          | _ => exact hkeeps.elim
      | inventory iop =>
          cases hstep.cursorEffect with
          | kept _ _ hop hsame =>
              cases iop with
              | clearStaging =>
                  obtain rfl := Except.ok.inj hstep
                  exact h.of_same rfl
              | stageItems items =>
                  have hkept : Ensures (InventoryOperation.apply store (.stageItems items))
                      fun next => next.stamp = store.stamp :=
                    ensures_stateOf (.after fun _ => .ok rfl)
                  exact h.of_same (hkept next hstep)
              | upsertItem item => exact hkeeps.elim
              | deleteSubtree remoteId => exact hkeeps.elim
              | _ => cases hop
          -- a snapshot clears the change cursor, so no authority agrees with it until the next commit
          | snapshot fence itemCount =>
              exact ⟨nofun, fun state hsome => h.authority state hsome, fun state _ hagree => (by
                cases hagree)⟩
          -- a rebaseline drops the authority
          | rebaseline => exact ⟨nofun, nofun, nofun⟩
          | staged => exact h.of_same rfl
          | nothingToDiscard => exact h
          | discarded => exact h.of_same rfl
          | batch expected mutations cursor => exact h.advanced hkeeps rfl rfl
          | window base checkpoint => exact h.advanced hkeeps rfl rfl
      | _ => cases hside

/-- **Over a run the authority is stamped.** -/
theorem AuthorityRun.stamped {mode : SyncMode} (h : AuthorityRun mode rootId store cursors) :
    AuthorityStamped rootId store cursors := by
  refine Machine.Run.invariant (P := fun noted => AuthorityStamped rootId noted.1 noted.2) h
    ⟨nofun, nofun, nofun⟩ ?_
  intro noted op next hstamped hkeeps hnoting
  obtain ⟨hstep, hcursors⟩ := notingStep_iff.mp hnoting
  rw [hcursors]
  exact hstamped.step hkeeps hstep

/-! ## Submissions -/

/-- What a submission had compared: the cursors, and the row of the parent. -/
structure RootStore.SubmissionChecked (store : RootStore) (id : ℕ) : Prop where
  stamp : ∃ state, store.authorityState = some state ∧
    store.changeCursor = some state.changeCursor
  parent : ∃ intent ∈ store.intents.rows, intent.id = id ∧
    ∃ parent, intent.expectedParentRemoteId = some parent ∧ parent ∈ store.authorityIds

theorem ensures_checkSubmissionCatalog (store : RootStore) (cursor : ChangeCursor) :
    Ensures (store.checkSubmissionCatalog cursor) fun _ => store.changeCursor = some cursor := by
  refine .present fun state hstate => .check fun hguard => ?_
  intro _ _
  simp only [Bool.or_eq_false_iff, bne_eq_false_iff_eq] at hguard
  rw [RootStore.changeCursor, hstate]
  exact hguard.2

theorem ensures_checkSubmissionParent (store : RootStore) (parent : Text) :
    Ensures (store.checkSubmissionParent parent) fun _ => parent ∈ store.authorityIds := by
  intro _ h
  cases hfind : store.authority.find? parent with
  | none => simp [RootStore.checkSubmissionParent, hfind] at h
  | some row =>
      obtain ⟨hrow, hid⟩ := Table.find?_eq_some_iff.mp hfind
      exact List.mem_map.mpr ⟨row, hrow, hid⟩

theorem ensures_beginChecked (store : RootStore) (operation : RemoteWriteIntentOperation)
    (createdKind : LocalItemKind) (id generation : ℕ) (cursor : ChangeCursor) (at_ : Int) :
    Ensures (store.beginCreateSubmission operation createdKind id generation cursor at_)
      fun _ => store.SubmissionChecked id := by
  refine .check fun _arguments => .after fun _executionGeneration => .check fun _mode => ?_
  refine .present fun intent hintent => .check fun _columns => .after fun _baseline => ?_
  refine .check fun _source => ?_
  refine (ensures_checkSubmissionCatalog store cursor).bind fun _ hcatalog => .check fun hstamp => ?_
  refine .present fun parent hparent => ?_
  refine (ensures_checkSubmissionParent store parent).bind fun _ hauthority => .ok ⟨?_, ?_⟩
  · simp only [Bool.not_eq_false', Option.any_eq_true, beq_iff_eq] at hstamp
    obtain ⟨state, hstate, hcursor⟩ := hstamp
    exact ⟨state, hstate, by rw [hcatalog, hcursor]⟩
  · obtain ⟨hmem, hid⟩ := Table.find?_eq_some_iff.mp hintent
    exact ⟨intent, hmem, hid, parent, hparent, hauthority⟩

theorem ensures_checkRestartAuthority (store : RootStore) (cursor : ChangeCursor) :
    Ensures (store.checkRestartAuthority cursor) fun _ =>
      ∃ state, store.authorityState = some state ∧ state.changeCursor = cursor := by
  refine .present fun state hstate => .after fun _ => ?_
  intro _ h
  simp only [refuseIf_eq_ok, Bool.or_eq_false_iff, bne_eq_false_iff_eq] at h
  exact ⟨state, hstate, h.1.1⟩

theorem ensures_restartChecked (store : RootStore) (id generation attempts : ℕ)
    (cursor : ChangeCursor) (at_ : Int) :
    Ensures (store.restartFileCreateSubmission id generation attempts cursor at_)
      fun _ => store.SubmissionChecked id := by
  refine .check fun _arguments => .after fun _executionGeneration => .after fun _attemptCount => ?_
  refine .after fun _nextGeneration => .after fun _nextAttempt => .check fun _mode => ?_
  refine .present fun intent hintent => .check fun _columns => .present fun _predetermined _ => ?_
  refine .present fun parent hparent => .after fun _evidence => .after fun _predetermined => ?_
  refine .after fun _parent => .after fun _baseline => .check fun _kind => .check fun _source => ?_
  refine (ensures_checkSubmissionCatalog store cursor).bind fun _ hcatalog => ?_
  refine (ensures_checkRestartAuthority store cursor).bind fun _ ⟨state, hstate, hcursor⟩ => ?_
  refine (ensures_checkSubmissionParent store parent).bind fun _ hauthority => .check fun _ => ?_
  obtain ⟨hmem, hid⟩ := Table.find?_eq_some_iff.mp hintent
  exact .ok ⟨⟨state, hstate, by rw [hcatalog, hcursor]⟩,
    intent, hmem, hid, parent, hparent, hauthority⟩

theorem RootStore.Step.submissionChecked {id : ℕ} (h : store.Step op next)
    (hsubmits : op.submits? = some id) : store.SubmissionChecked id := by
  cases op with
  | intents iop =>
      cases iop with
      | beginFileCreate intentId generation cursor at_ =>
          obtain rfl := Option.some.inj hsubmits
          obtain ⟨r, hr, -⟩ := bind_eq_ok.mp h
          exact ensures_beginChecked _ _ _ _ _ _ _ r hr
      | beginFolderCreate intentId generation cursor at_ =>
          obtain rfl := Option.some.inj hsubmits
          obtain ⟨r, hr, -⟩ := bind_eq_ok.mp h
          exact ensures_beginChecked _ _ _ _ _ _ _ r hr
      | restartFileCreate intentId generation attempts cursor at_ =>
          obtain rfl := Option.some.inj hsubmits
          obtain ⟨r, hr, -⟩ := bind_eq_ok.mp h
          exact ensures_restartChecked _ _ _ _ _ _ r hr
      | _ => cases hsubmits
  | _ => cases hsubmits

/-- **The authority is fresh when it is used.** Whenever a submission or a restart succeeds, the stored
    authority is that of the root and of the items of the catalog, and the parent it expects is one of
    these. -/
theorem authority_fresh_at_submission {mode : SyncMode} (h : AuthorityRun mode rootId store cursors)
    {id : ℕ} (hsubmits : op.submits? = some id) (hstep : store.Step op next) :
    store.AuthorityFresh rootId ∧ ∃ intent ∈ store.intents.rows, intent.id = id ∧
      ∃ parent, intent.expectedParentRemoteId = some parent ∧ parent ∈ rootId :: store.catalogIds := by
  -- the submission compares cursors only; that equal cursors mean a fresh authority is the invariant
  have hchecked := hstep.submissionChecked hsubmits
  obtain ⟨state, hstate, hcursor⟩ := hchecked.stamp
  obtain ⟨intent, hintent, hid, parent, hparent, hauthority⟩ := hchecked.parent
  have hfresh := h.stamped.fresh state hstate hcursor
  exact ⟨hfresh, intent, hintent, hid, parent, hparent, (hfresh parent).mp hauthority⟩

/-- The create below a folder that is submitted after the catalog has moved on: its parent is
    catalogued. -/
theorem authority_fresh_at_submission_sample :
    ∃ store : RootStore, store.catalogIds = [['D'], ['C']] ∧ store.AuthorityFresh ['0'] ∧
      ∃ intent ∈ store.intents.rows, intent.id = 1 ∧
        ∃ parent, intent.expectedParentRemoteId = some parent ∧
          parent ∈ ['0'] :: store.catalogIds := by
  have hends : ∃ noted ∈ (sampleBelowFolder.foldlM (fun s op => do
      refuseIf (!decide (CallersKeep ['0'] s op)) StorageError.sqlite
      applyNoting s op) (RootStore.new .twoWay, [])).toOption, noted.1.catalogIds = [['D'], ['C']] ∧
      (noted.1.apply (.intents (.beginFileCreate 1 0 (.ofChar '2') 3))).toOption.isSome = true := by
    decide +kernel
  obtain ⟨⟨store, cursors⟩, hnoted, hids, hnext⟩ := hends
  obtain ⟨next, hnext⟩ := Option.isSome_iff_exists.mp hnext
  have hrun : AuthorityRun .twoWay ['0'] store cursors :=
    Machine.Run.of_guarded (toOption_eq_some_iff.mp hnoted)
  exact ⟨store, hids, authority_fresh_at_submission hrun rfl (toOption_eq_some_iff.mp hnext)⟩

end NubiSync
