import NubiSync.Storage.IntentExecution

set_option autoImplicit false

/-! # Stranded intents

A create intent is bound to the local generation it was planned at: it can be submitted and settled
only while the baseline is at that generation. But a settlement and a local snapshot move the baseline
on, whatever other creates are under way, and no operation supersedes or rebinds these. The steps that
strand an intent are found exactly. -/

namespace NubiSync

open Checks

/-! ## Creates under way -/

/-- A status that still has its settlement before it. -/
def RemoteWriteIntentStatus.isUnderWay : RemoteWriteIntentStatus → Bool
  | .planned | .submitted | .awaitingConfirmation | .confirmed => true
  | .conflict | .failed | .superseded => false

/-- An unsettled create that is planned, submitted, awaiting its confirmation or confirmed. -/
def RootStore.isUnderWay (store : RootStore) (intent : RemoteWriteIntentRow) : Bool :=
  (intent.operation == .createFile || intent.operation == .createFolder)
    && intent.status.isUnderWay && (store.settlements.find? intent.id).isNone

/-- Every create under way is bound to the generation of the baseline. -/
def RootStore.NoneStranded (store : RootStore) : Prop :=
  ∀ intent ∈ store.intents.rows, store.isUnderWay intent = true →
    store.generation? = some intent.baselineGeneration

/-- The intent an operation settles. -/
def RootOperation.settles? : RootOperation → Option ℕ
  | .settle op => some op.fields.intentId
  | _ => none

/-- The intent an operation recovers from a conflict. -/
def RootOperation.recovers? : RootOperation → Option ℕ
  | .intents (.recoverConflict id _ _ _) => some id
  | _ => none

/-- The condition on a step: one that moves the baseline on finds no create under way but the one it
    settles, and a conflict is recovered at the generation of its intent. -/
def KeepsBound (store : RootStore) (op : RootOperation) : Prop :=
  ∀ intent ∈ store.intents.rows,
    (op.movesBaseline = true → store.isUnderWay intent = true → op.settles? = some intent.id) ∧
    (op.recovers? = some intent.id → store.generation? = some intent.baselineGeneration)

instance (store : RootStore) (op : RootOperation) : Decidable (KeepsBound store op) :=
  inferInstanceAs (Decidable (∀ intent ∈ _, _))

/-! ## One step -/

variable {store next : RootStore} {op : RootOperation} {intent later : RemoteWriteIntentRow}

theorem isUnderWay_iff (store : RootStore) (intent : RemoteWriteIntentRow) :
    store.isUnderWay intent = true ↔
      (intent.operation = .createFile ∨ intent.operation = .createFolder) ∧
        intent.status.isUnderWay = true ∧ store.settlements.find? intent.id = none := by
  simp [RootStore.isUnderWay, and_assoc]

/-- A create that gets under way comes out of a conflict. -/
theorem underWay_before (hmoves : StatusMoves store op intent later)
    (hlater : later.status.isUnderWay = true) :
    intent.status.isUnderWay = true ∨ RecoversConflict store op intent := by
  obtain hsame | ⟨hedge, hconflict⟩ := hmoves
  · exact Or.inl (hsame ▸ hlater)
  · cases hstatus : intent.status with
    | conflict => exact Or.inr (hconflict hstatus)
    | failed =>
        rw [hstatus] at hedge
        cases hedge
    | superseded =>
        rw [hstatus] at hedge
        cases hedge
    | _ => exact Or.inl rfl

theorem settlements_find?_of_step (h : store.Step op next) {id : ℕ}
    (hid : next.settlements.find? id = none) :
    store.settlements.find? id = none ∧ op.settles? ≠ some id := by
  by_cases hsettle : ∃ sop, op = .settle sop
  · obtain ⟨sop, rfl⟩ := hsettle
    have hwritten := (sop.ensures_settled store next h).2
    rw [hwritten.settlements, Table.find?_upsert] at hid
    split at hid
    · cases hid
    · next hne => exact ⟨hid, fun hsettles => hne (Option.some.inj hsettles)⟩
  · have hother : ∀ sop, op ≠ .settle sop := fun sop hop => hsettle ⟨sop, hop⟩
    refine ⟨h.settlements hother ▸ hid, ?_⟩
    cases op with
    | settle sop => exact absurd rfl (hother sop)
    | _ => simp [RootOperation.settles?]

theorem settlements_find?_after (h : store.Step op next) {id : ℕ}
    (hid : store.settlements.find? id = none) (hop : op.settles? ≠ some id) :
    next.settlements.find? id = none := by
  by_cases hsettle : ∃ sop, op = .settle sop
  · obtain ⟨sop, rfl⟩ := hsettle
    have hwritten := (sop.ensures_settled store next h).2
    rw [hwritten.settlements, Table.find?_upsert, if_neg fun hsame => hop (congrArg some hsame)]
    exact hid
  · rw [h.settlements fun sop hop => hsettle ⟨sop, hop⟩]
    exact hid

theorem recovers?_of_conflict (h : RecoversConflict store op intent) :
    op.recovers? = some intent.id := by
  obtain ⟨-, -, attempts, at_, rfl⟩ := h
  rfl

theorem RootStore.Step.noneStranded (h : store.Step op next) (hnone : store.NoneStranded)
    (hkeeps : KeepsBound store op) : next.NoneStranded := by
  intro later hlater hunder
  obtain ⟨hcreate, hstatus, hunsettled⟩ := (isUnderWay_iff _ _).mp hunder
  obtain ⟨intent, hintent, hevolves⟩ | ⟨hfixed, input, id, rfl, hgeneration, -⟩ := h.intent_earlier hlater
  · obtain ⟨hid, hplan⟩ : later.id = intent.id ∧
        later.baselineGeneration = intent.baselineGeneration ∧
          later.operation = intent.operation := by
      cases hevolves with
      | same => exact ⟨rfl, rfl, rfl⟩
      | moved iop _ _ hmove =>
          exact ⟨hmove.id_eq, (congrArg RemoteWriteIntentFields.baselineGeneration hmove.plan_eq :),
            (congrArg RemoteWriteIntentFields.operation hmove.plan_eq :)⟩
    rw [hid] at hunsettled
    rw [hplan.2] at hcreate
    rw [hplan.1]
    obtain ⟨hunsettled, hother⟩ := settlements_find?_of_step h hunsettled
    have hfixed : op.movesBaseline = false := by
      cases hmoves : op.movesBaseline with
      | false => rfl
      | true =>
          -- a step that moves the baseline on leaves the status as it was
          have hbefore : intent.status.isUnderWay = true := by
            cases hevolves with
            | same => exact hstatus
            | moved iop hop =>
                subst hop
                cases hmoves
          refine absurd ((hkeeps intent hintent).1 hmoves ?_) hother
          exact (isUnderWay_iff _ _).mpr ⟨hcreate, hbefore, hunsettled⟩
    rw [(h.baseline_frame hfixed).2]
    obtain hbefore | hrecovers := underWay_before hevolves.statusMoves hstatus
    · exact hnone intent hintent ((isUnderWay_iff _ _).mpr ⟨hcreate, hbefore, hunsettled⟩)
    · exact (hkeeps intent hintent).2 (recovers?_of_conflict hrecovers)
  · rw [(h.baseline_frame hfixed).2]
    exact hgeneration

/-- A step that moves the baseline on strands every other create under way. -/
theorem RootStore.Step.keepsBound (h : store.Step op next) (hnone : store.NoneStranded)
    (hnext : next.NoneStranded) : KeepsBound store op := by
  intro intent hintent
  refine ⟨fun hmoves hunder => ?_, fun hrecovers => ?_⟩
  · obtain ⟨hcreate, hstatus, hunsettled⟩ := (isUnderWay_iff _ _).mp hunder
    by_contra hother
    -- the intent is still under way, and bound to the generation before
    have hsame : intent ∈ next.intents.rows := by
      cases h.intentEffect with
      | none _ _ _ hintents => rwa [hintents]
      | inserted iop => cases hmoves
      | moved iop => cases hmoves
    have hafter := hnext intent hsame ((isUnderWay_iff _ _).mpr
      ⟨hcreate, hstatus, settlements_find?_after h hunsettled hother⟩)
    have hbefore := hnone intent hintent hunder
    rw [h.generation_of_moves hmoves] at hafter
    have hnextGeneration : store.nextGeneration = intent.baselineGeneration + 1 := by
      unfold RootStore.nextGeneration
      cases hstate : store.localState with
      | none => rw [RootStore.generation?, hstate] at hbefore; cases hbefore
      | some state =>
          rw [RootStore.generation?, hstate] at hbefore
          rw [← Option.some.inj hbefore]
    have := Option.some.inj hafter
    omega
  · cases op with
    | intents iop =>
        cases iop with
        | recoverConflict id generation attempts at_ =>
            obtain rfl := Option.some.inj hrecovers
            obtain ⟨found, moved, hfound, -, hmove, hmoved, -⟩ := h.execution rfl
            obtain ⟨hfound, hid⟩ := Table.find?_eq_some_iff.mp hfound
            obtain rfl := store.intents.eq_of_key hfound hintent hid
            cases hmove with
            | recoverConflict _ hkind hstatus hversion hunsettled =>
                have hunsettled' := settlements_find?_after h hunsettled
                  (by simp [RootOperation.settles?])
                have hbound := hnext _ (Table.find?_eq_some_iff.mp hmoved).1
                  ((isUnderWay_iff _ _).mpr ⟨Or.inl hkind, rfl, hunsettled'⟩)
                rwa [(h.baseline_frame rfl).2] at hbound
        | _ => cases hrecovers
    | _ => cases hrecovers

/-! ## Runs -/

/-- **No create is stranded, under the condition and only under it.** In every run whose steps meet
    the condition, each create under way stays bound to the generation of the baseline; and a next
    step that does not meet it strands one. -/
theorem none_stranded_iff (mode : SyncMode) (store : RootStore)
    (hrun : Machine.Run RootStore.Step KeepsBound (RootStore.new mode) store) :
    store.NoneStranded ∧
      ∀ op next, store.Step op next → (next.NoneStranded ↔ KeepsBound store op) := by
  have hnone : store.NoneStranded := by
    refine hrun.invariant (P := RootStore.NoneStranded) (fun intent hintent => ?_) ?_
    · cases hintent
    · intro s op next hs hkeeps hstep
      exact hstep.noneStranded hs hkeeps
  refine ⟨hnone, fun op next hstep => ⟨fun hnext => ?_, hstep.noneStranded hnone⟩⟩
  exact hstep.keepsBound hnone hnext

/-- A file create that is confirmed and settled. -/
def sampleSettlement (h : (RemoteWriteCreateSettlementFields.mk 1 1 3 1 0 (some 1)
      ⟨['a'], .file, some 3, 1, 1, 1, .refl true, .refl true⟩
      [⟨['b'], .created, none, some .file, .refl true, .refl true⟩] ['A'] ['0'] 5).checkFile
        (List.replicate 64 '0') 7 = .ok ()) :
    RemoteWriteFileCreateSettlementInput := ⟨_, _, _, h⟩

/-- The confirmation of the first file: its item in the catalog, and the transition. -/
def sampleConfirmation : List RootOperation :=
  [.inventory (.stageWindowPage (.ofChar '1') none
      ⟨[.upsert ⟨['A'], some ['0'], ['a'], .file, some 3, none, false⟩], none, some (.ofChar '2')⟩),
    .inventory (.commitWindow (.ofChar '1') (.ofChar '2') 1
      [.upsert ⟨['A'], some ['0'], ['a'], .file, some 3, none, false⟩]),
    .intents (.transitionFileCreate 1 .awaitingConfirmation 2 .confirmed 4)]

/-- The first file confirmed beside the second one. -/
theorem none_stranded_iff_confirmed :
    ∃ store, Machine.Run RootStore.Step KeepsBound (RootStore.new .twoWay) store ∧
      (∃ intent ∈ store.intents.rows, intent.status = .confirmed ∧ intent.id = 1) ∧
      store.NoneStranded := by
  have hends : ∃ store ∈ ((sampleOperations ++ sampleUpload ++ sampleConfirmation).foldlM
      (fun s op => do
        refuseIf (!decide (KeepsBound s op)) StorageError.sqlite
        RootStore.apply s op) (RootStore.new .twoWay)).toOption,
      ∃ intent ∈ store.intents.rows, intent.status = .confirmed ∧ intent.id = 1 := by
    decide +kernel
  obtain ⟨store, hstore, hconfirmed⟩ := hends
  have hrun : Machine.Run RootStore.Step KeepsBound (RootStore.new .twoWay) store :=
    Machine.Run.of_guarded (toOption_eq_some_iff.mp hstore)
  exact ⟨store, hrun, hconfirmed, (none_stranded_iff .twoWay store hrun).1⟩

/-- The settlement of the first file strands the second, which was planned in the same batch. -/
theorem settlement_strands_create :
    ∃ store, (RootStore.new .twoWay).Reaches store ∧ ¬ store.NoneStranded := by
  have hends : ∃ store ∈ ((sampleOperations ++ sampleUpload ++ sampleConfirmation
      ++ [RootOperation.settle (.fileCreate (sampleSettlement rfl))]).foldlM RootStore.apply
      (RootStore.new .twoWay)).toOption,
      ∃ intent ∈ store.intents.rows, store.isUnderWay intent = true ∧
        store.generation? ≠ some intent.baselineGeneration := by
    decide +kernel
  obtain ⟨store, hstore, intent, hintent, hunder, hother⟩ := hends
  exact ⟨store, Machine.Run.of_foldlM (fun _ _ _ => trivial) (toOption_eq_some_iff.mp hstore),
    fun hnone => hother (hnone intent hintent hunder)⟩

end NubiSync
