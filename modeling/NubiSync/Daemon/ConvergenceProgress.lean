import Mathlib.Algebra.Order.Group.Nat
import Mathlib.Algebra.Order.BigOperators.Group.List
import NubiSync.Daemon.DispatchAdmission
import NubiSync.Sync.NominalEffects

set_option autoImplicit false

/-! # Dispatched phases make progress

`RootInputs.applyPhase` is what a phase is meant to do to the local tree and the receipts. On a
dispatch the next plan exists, is unblocked, has finished the phase's class and counts every other
class as before, so the number of active classes drops with every dispatch and repeated invocations
end after at most one dispatch per class. -/

namespace NubiSync

/-! ## The nominal effect of a phase -/

/-- The actions of a phase. -/
def ReceiveOnlyConvergencePlan.phaseActions (plan : ReceiveOnlyConvergencePlan)
    (phase : SelectedRootUnifiedConvergencePhase) : List ReceiveOnlyConvergenceAction :=
  plan.actions.filter (·.kind == phase.actionKind)

/-- Bring the targets of the actions into being and own them. -/
def RootInputs.materialize (inputs : RootInputs) (kind : LocalTreeEntryKind)
    (actions : List ReceiveOnlyConvergenceAction) : RootInputs :=
  { inputs with
    localEntries := inputs.localEntries ++ createdEntries kind actions
    receipts := recordReceipts (currentReceipts kind actions) inputs.receipts }

/-- Own the files the actions name. -/
def RootInputs.ownFiles (inputs : RootInputs) (actions : List ReceiveOnlyConvergenceAction) :
    RootInputs :=
  { inputs with receipts := recordReceipts (currentReceipts .file actions) inputs.receipts }

/-- Remove the entries the actions name, with their receipts. -/
def RootInputs.remove (inputs : RootInputs) (actions : List ReceiveOnlyConvergenceAction) :
    RootInputs :=
  { inputs with
    localEntries := removeEntries actions inputs.localEntries
    receipts := removeReceipts actions inputs.receipts }

/-- The inputs after a phase has done what its actions ask for. -/
def RootInputs.applyPhase (inputs : RootInputs) (plan : ReceiveOnlyConvergencePlan)
    (phase : SelectedRootUnifiedConvergencePhase) : RootInputs :=
  match phase with
  | .createDirectories => inputs.materialize .directory (plan.phaseActions phase)
  | .materializeMissingFiles => inputs.materialize .file (plan.phaseActions phase)
  | .verifyExistingFiles | .replaceStaleFiles => inputs.ownFiles (plan.phaseActions phase)
  | .deleteStaleFiles | .deleteStaleDirectories => inputs.remove (plan.phaseActions phase)

/-- `plan_receive_only_convergence` on the inputs, under an action limit. -/
def RootInputs.planWithin (inputs : RootInputs) (maxActions : ℕ) :
    Except ReceiveOnlyConvergencePlanError ReceiveOnlyConvergencePlan :=
  planReceiveOnlyConvergence inputs.remoteItems inputs.localEntries inputs.receipts maxActions

/-- Repeated invocations, each letting the dispatched phase take its nominal effect: the phases
    dispatched within a number of steps, and the decision the run stops on. -/
def runConvergence (maxActions : ℕ) : ℕ → RootInputs → Except SelectedRootExecutorError
    (List SelectedRootUnifiedConvergencePhase × SelectedRootUnifiedConvergenceDecision)
  | steps, inputs =>
      match inputs.planWithin maxActions with
      | .error e => .error (.convergencePlan e)
      | .ok plan =>
          match decideSelectedRootUnifiedConvergenceStep plan, steps with
          | .error e, _ => .error e
          | .ok (.dispatch phase _), steps + 1 => do
              let (phases, last) ← runConvergence maxActions steps (inputs.applyPhase plan phase)
              .ok (phase :: phases, last)
          | .ok decision, _ => .ok ([], decision)

/-! ## One step -/

section Step

variable {inputs : RootInputs} {maxActions : ℕ} {expectedPaths : List RemoteExpectedPath}
  {drafts : ActionMap} {plan : ReceiveOnlyConvergencePlan}
variable (h : PlannedFrom inputs.remoteItems inputs.localEntries inputs.receipts maxActions
  expectedPaths drafts plan)

include h

theorem PlannedFrom.phaseCount_eq_countP (phase : SelectedRootUnifiedConvergencePhase) :
    plan.phaseCount phase = plan.actions.countP (·.kind == phase.actionKind) := by
  rw [h.plan_eq]
  cases phase <;> rfl

theorem PlannedFrom.phaseCount_eq (hblocked : plan.blocked = false)
    (phase : SelectedRootUnifiedConvergencePhase) :
    plan.phaseCount phase =
      classCount phase.actionKind expectedPaths inputs.localEntries inputs.receipts := by
  rw [h.phaseCount_eq_countP, h.actions_eq]
  exact (h.unblocked_iff.mp hblocked).countP_class h.distinct h.holds phase.actionKind

end Step

/-- The inputs after a phase: still unblocked, the phase's class done, the other classes as before. -/
structure PhaseDone (expectedPaths : List RemoteExpectedPath)
    (phase : SelectedRootUnifiedConvergencePhase) (inputs inputs' : RootInputs) : Prop where
  remoteItems : inputs'.remoteItems = inputs.remoteItems
  distinct : DistinctInputs expectedPaths inputs'.localEntries inputs'.receipts
  unblocked : UnblockedInputs expectedPaths inputs'.localEntries inputs'.receipts
  classCount : ∀ kind, classCount kind expectedPaths inputs'.localEntries inputs'.receipts =
    if kind = phase.actionKind then 0
    else NubiSync.classCount kind expectedPaths inputs.localEntries inputs.receipts

section Effects

variable {inputs : RootInputs} {maxActions : ℕ} {expectedPaths : List RemoteExpectedPath}
  {drafts : ActionMap} {plan : ReceiveOnlyConvergencePlan}
variable (h : PlannedFrom inputs.remoteItems inputs.localEntries inputs.receipts maxActions
  expectedPaths drafts plan)
variable (hu : UnblockedInputs expectedPaths inputs.localEntries inputs.receipts)

include h hu

/-- Work on absent items creates an entry for each of them. -/
theorem PlannedFrom.mem_created_iff {kind : ReceiveOnlyConvergenceActionKind}
    (hkind : IsExpectedWork kind) (localKind : LocalTreeEntryKind)
    (habsent : ∀ e, isPlanned kind inputs.localEntries inputs.receipts e = true →
      isPresent inputs.localEntries e = false) (l : LocalTreeEntry) :
    l ∈ createdEntries localKind (plan.actions.filter (·.kind == kind)) ↔
      ∃ e ∈ expectedPaths, isPlanned kind inputs.localEntries inputs.receipts e = true ∧
        isPresent inputs.localEntries e = false ∧ l.relativePath = e.relativePath ∧
        l.kind = localKind := by
  rw [mem_createdEntries]
  constructor
  · rintro ⟨action, haction, hpath, hk⟩
    obtain ⟨e, he, hplanned, rfl⟩ := (h.mem_work_iff hu hkind action).mp haction
    exact ⟨e, he, hplanned, habsent e hplanned, hpath, hk⟩
  · rintro ⟨e, he, hplanned, -, hpath, hk⟩
    exact ⟨_, (h.mem_work_iff hu hkind _).mpr ⟨e, he, hplanned, rfl⟩, hpath, hk⟩

theorem PlannedFrom.materialize_done {phase : SelectedRootUnifiedConvergencePhase}
    (hkind : IsExpectedWork phase.actionKind) {localKind : LocalTreeEntryKind}
    (hplanned : ∀ e, isPlanned phase.actionKind inputs.localEntries inputs.receipts e = true →
      localKindForRemote e.kind = localKind ∧ isPresent inputs.localEntries e = false) :
    PhaseDone expectedPaths phase inputs (inputs.materialize localKind (plan.phaseActions phase)) := by
  obtain ⟨root, hspec⟩ := buildRemoteExpectedPaths_sound h.build
  have hw := h.workEffect hu hspec hkind (fun e he => (hplanned e he).1)
    (nodup_createdEntries localKind (h.nodup_actions (·.kind == phase.actionKind)))
    (h.mem_created_iff hu hkind localKind fun e he => (hplanned e he).2)
  exact ⟨rfl, hw.distinct, hw.unblocked h.distinct hu hspec.expectedAbove,
    hw.classCount_eq h.distinct hkind⟩

theorem PlannedFrom.ownFiles_done {phase : SelectedRootUnifiedConvergencePhase}
    (hkind : IsExpectedWork phase.actionKind)
    (hplanned : ∀ e, isPlanned phase.actionKind inputs.localEntries inputs.receipts e = true →
      e.kind = .file ∧ isPresent inputs.localEntries e = true) :
    PhaseDone expectedPaths phase inputs (inputs.ownFiles (plan.phaseActions phase)) := by
  obtain ⟨root, hspec⟩ := buildRemoteExpectedPaths_sound h.build
  have hcreated : ∀ l : LocalTreeEntry, l ∈ [] ↔ ∃ e ∈ expectedPaths,
      isPlanned phase.actionKind inputs.localEntries inputs.receipts e = true ∧
        isPresent inputs.localEntries e = false ∧ l.relativePath = e.relativePath ∧
        l.kind = .file := by
    intro l
    refine iff_of_false (by simp) ?_
    rintro ⟨e, -, he, habsent, -⟩
    rw [(hplanned e he).2] at habsent
    exact absurd habsent (by simp)
  have hw := h.workEffect hu hspec hkind (fun e he => by rw [(hplanned e he).1]; rfl) (by simp)
    hcreated
  rw [List.append_nil] at hw
  exact ⟨rfl, hw.distinct, hw.unblocked h.distinct hu hspec.expectedAbove,
    hw.classCount_eq h.distinct hkind⟩

theorem PlannedFrom.remove_done {phase : SelectedRootUnifiedConvergencePhase}
    (kind : LocalTreeEntryKind) (hkind : phase.actionKind = removalKind kind) :
    PhaseDone expectedPaths phase inputs (inputs.remove (plan.phaseActions phase)) := by
  have hr := h.removalEffect hu kind
  rw [← hkind] at hr
  exact ⟨rfl, hr.distinct, hr.unblocked h.distinct hu, hkind ▸ hr.classCount_eq h.distinct hu⟩

/-- **Every phase finishes its class** and touches no other. -/
theorem PlannedFrom.applyPhase_done (phase : SelectedRootUnifiedConvergencePhase) :
    PhaseDone expectedPaths phase inputs (inputs.applyPhase plan phase) := by
  cases phase with
  | createDirectories =>
      refine h.materialize_done hu (by simp [IsExpectedWork, IsRemoval,
        SelectedRootUnifiedConvergencePhase.actionKind]) fun e he => ?_
      rw [SelectedRootUnifiedConvergencePhase.actionKind, isPlanned, presenceOutcome_create,
        Bool.and_eq_true, beq_iff_eq] at he
      exact ⟨by rw [he.1]; rfl, by simpa using he.2⟩
  | materializeMissingFiles =>
      refine h.materialize_done hu (by simp [IsExpectedWork, IsRemoval,
        SelectedRootUnifiedConvergencePhase.actionKind]) fun e he => ?_
      rw [SelectedRootUnifiedConvergencePhase.actionKind, isPlanned, presenceOutcome_materialize,
        Bool.and_eq_true, beq_iff_eq] at he
      exact ⟨by rw [he.1]; rfl, by simpa using he.2⟩
  | verifyExistingFiles =>
      refine h.ownFiles_done hu (by simp [IsExpectedWork, IsRemoval,
        SelectedRootUnifiedConvergencePhase.actionKind]) fun e he => ?_
      rw [SelectedRootUnifiedConvergencePhase.actionKind, isPlanned, presenceOutcome_verify,
        Bool.and_eq_true, Bool.and_eq_true, beq_iff_eq] at he
      exact he.1
  | replaceStaleFiles =>
      refine h.ownFiles_done hu (by simp [IsExpectedWork, IsRemoval,
        SelectedRootUnifiedConvergencePhase.actionKind]) fun e he => ?_
      rw [SelectedRootUnifiedConvergencePhase.actionKind, isPlanned, presenceOutcome_replace,
        Bool.and_eq_true, Bool.and_eq_true, beq_iff_eq] at he
      exact he.1
  | deleteStaleFiles => exact h.remove_done hu .file rfl
  | deleteStaleDirectories => exact h.remove_done hu .directory rfl

end Effects

/-- What a phase leaves for the next plan. -/
structure NextPlan (maxActions : ℕ) (inputs' : RootInputs) (plan : ReceiveOnlyConvergencePlan)
    (phase : SelectedRootUnifiedConvergencePhase) (next : ReceiveOnlyConvergencePlan) : Prop where
  planned : inputs'.planWithin maxActions = .ok next
  not_blocked : next.blocked = false
  no_action : ∀ action ∈ next.actions, action.kind ≠ phase.actionKind
  others : ∀ other, other ≠ phase → next.phaseCount other = plan.phaseCount other

theorem actionKind_injective :
    Function.Injective SelectedRootUnifiedConvergencePhase.actionKind := by
  intro a b
  cases a <;> cases b <;> simp [SelectedRootUnifiedConvergencePhase.actionKind]

/-- The step lemma: an unblocked plan stays a plan under any of its phases. -/
theorem exists_nextPlan {inputs : RootInputs} {maxActions : ℕ} {plan : ReceiveOnlyConvergencePlan}
    (hplan : inputs.planWithin maxActions = .ok plan) (hblocked : plan.blocked = false)
    (phase : SelectedRootUnifiedConvergencePhase) :
    ∃ next, NextPlan maxActions (inputs.applyPhase plan phase) plan phase next := by
  obtain ⟨expectedPaths, drafts, h⟩ := planReceiveOnlyConvergence_ok hplan
  have hu := h.unblocked_iff.mp hblocked
  have hdone := h.applyPhase_done hu phase
  -- no class grows, so the action limit still holds
  have hlimit : pathCount (planDrafts expectedPaths (inputs.applyPhase plan phase).localEntries
      (inputs.applyPhase plan phase).receipts) ≤ maxActions := by
    refine le_trans ?_ h.limit
    rw [hdone.unblocked.pathCount_eq hdone.distinct, hu.pathCount_eq h.distinct]
    refine List.sum_le_sum fun kind _ => ?_
    rw [hdone.classCount]
    split
    · exact Nat.zero_le _
    · exact le_rfl
  have hbuild : buildRemoteExpectedPaths (inputs.applyPhase plan phase).remoteItems =
      .ok expectedPaths := by rw [hdone.remoteItems, h.build]
  obtain ⟨drafts', next, hnext, h'⟩ :=
    planReceiveOnlyConvergence_isOk h.max_pos hbuild hdone.distinct hlimit
  have hnot := h'.unblocked_iff.mpr hdone.unblocked
  refine ⟨next, hnext, hnot, fun action haction hkind => ?_, fun other hother => ?_⟩
  · have hzero : next.actions.countP (·.kind == phase.actionKind) = 0 := by
      rw [← h'.phaseCount_eq_countP, h'.phaseCount_eq hnot, hdone.classCount, if_pos rfl]
    exact List.countP_eq_zero.mp hzero action haction (by simpa using hkind)
  · rw [h'.phaseCount_eq hnot, hdone.classCount, if_neg fun hsame => hother
      (actionKind_injective hsame), ← h.phaseCount_eq hblocked]

/-! ## The run -/

/-- The phases, one for each action class. -/
def allPhases : List SelectedRootUnifiedConvergencePhase :=
  [.createDirectories, .materializeMissingFiles, .verifyExistingFiles, .replaceStaleFiles,
    .deleteStaleFiles, .deleteStaleDirectories]

/-- The number of phases that still have work. -/
def ReceiveOnlyConvergencePlan.activePhases (plan : ReceiveOnlyConvergencePlan) : ℕ :=
  allPhases.countP (plan.phaseCount · != 0)

theorem NextPlan.phaseCount_eq_zero {maxActions : ℕ} {inputs' : RootInputs}
    {plan next : ReceiveOnlyConvergencePlan} {phase : SelectedRootUnifiedConvergencePhase}
    (h : NextPlan maxActions inputs' plan phase next) : next.phaseCount phase = 0 := by
  obtain ⟨expectedPaths, drafts, hplanned⟩ := planReceiveOnlyConvergence_ok h.planned
  rw [hplanned.phaseCount_eq_countP, List.countP_eq_zero]
  exact fun action haction => by simpa using h.no_action action haction

/-- A dispatch leaves one active class fewer. -/
theorem NextPlan.activePhases_lt {maxActions : ℕ} {inputs' : RootInputs}
    {plan next : ReceiveOnlyConvergencePlan} {phase : SelectedRootUnifiedConvergencePhase}
    (h : NextPlan maxActions inputs' plan phase next) (hactive : plan.phaseCount phase ≠ 0) :
    next.activePhases < plan.activePhases := by
  have hsplit : plan.activePhases = next.activePhases + allPhases.countP (· == phase) := by
    refine Counting.countP_eq_add allPhases fun other _ => ?_
    by_cases hother : other = phase
    · subst hother
      simp [h.phaseCount_eq_zero, hactive]
    · simp [h.others other hother, hother]
  have hone : allPhases.countP (· == phase) = 1 := by cases phase <;> rfl
  omega

theorem decide_isOk {plan : ReceiveOnlyConvergencePlan} (hblocked : plan.blocked = false) :
    ∃ decision, decideSelectedRootUnifiedConvergenceStep plan = .ok decision := by
  unfold decideSelectedRootUnifiedConvergenceStep
  rw [hblocked]
  simp only [Bool.false_eq_true, if_false]
  split_ifs <;> exact ⟨_, rfl⟩

/-- The decisions a run ends on. -/
def SelectedRootUnifiedConvergenceDecision.IsFinal :
    SelectedRootUnifiedConvergenceDecision → Prop
  | .converged | .safeStop _ => True
  | .dispatch _ _ => False

/-- A run ends where the decision is final. -/
theorem runConvergence_final {maxActions : ℕ} (steps : ℕ) {inputs : RootInputs}
    {plan : ReceiveOnlyConvergencePlan} {decision : SelectedRootUnifiedConvergenceDecision}
    (hplan : inputs.planWithin maxActions = .ok plan)
    (hdecision : decideSelectedRootUnifiedConvergenceStep plan = .ok decision)
    (hfinal : decision.IsFinal) : runConvergence maxActions steps inputs = .ok ([], decision) := by
  cases decision with
  | converged => cases steps <;> simp [runConvergence, hplan, hdecision]
  | safeStop reason => cases steps <;> simp [runConvergence, hplan, hdecision]
  | dispatch phase plannedActions => exact hfinal.elim

/-- The run lemma, by recursion on the steps: as many as there are active classes are enough. -/
theorem runConvergence_ends {maxActions : ℕ} (steps : ℕ) {inputs : RootInputs}
    {plan : ReceiveOnlyConvergencePlan} (hplan : inputs.planWithin maxActions = .ok plan)
    (hblocked : plan.blocked = false) (hsteps : plan.activePhases ≤ steps) :
    ∃ phases last, runConvergence maxActions steps inputs = .ok (phases, last) ∧
      phases.length ≤ plan.activePhases ∧ last.IsFinal := by
  obtain ⟨decision, hdecision⟩ := decide_isOk hblocked
  by_cases hfinal : decision.IsFinal
  · exact ⟨[], decision, runConvergence_final steps hplan hdecision hfinal, Nat.zero_le _, hfinal⟩
  cases decision with
  | converged => exact absurd trivial hfinal
  | safeStop reason => exact absurd trivial hfinal
  | dispatch phase plannedActions =>
      obtain ⟨-, -, hactive, -⟩ := decide_dispatch hdecision
      obtain ⟨next, hnext⟩ := exists_nextPlan hplan hblocked phase
      have hlt := hnext.activePhases_lt hactive
      cases steps with
      | zero => omega
      | succ steps =>
          obtain ⟨phases, last, hrun, hlength, hlast⟩ :=
            runConvergence_ends steps hnext.planned hnext.not_blocked (by omega)
          refine ⟨phase :: phases, last, ?_, by simp; omega, hlast⟩
          simp [runConvergence, hplan, hdecision, hrun, bind, Except.bind]

/-- **Convergence makes progress.** Whenever a phase is dispatched, its nominal effect leaves inputs
    with an unblocked plan that has no action of the phase's class and the old count for every other
    class; and repeated invocations end, converged or in a safe stop, after at most one dispatch per
    class. -/
theorem dispatch_progress (inputs : RootInputs) (maxActions : ℕ) (plan : ReceiveOnlyConvergencePlan)
    (phase : SelectedRootUnifiedConvergencePhase) (plannedActions : ℕ)
    (hplan : inputs.planWithin maxActions = .ok plan)
    (hdispatch : decideSelectedRootUnifiedConvergenceStep plan =
      .ok (.dispatch phase plannedActions)) :
    (∃ next, NextPlan maxActions (inputs.applyPhase plan phase) plan phase next) ∧
      ∃ phases last, runConvergence maxActions allPhases.length inputs = .ok (phases, last) ∧
        phases.length ≤ allPhases.length ∧ last.IsFinal := by
  have hblocked := (decide_dispatch hdispatch).1
  refine ⟨exists_nextPlan hplan hblocked phase, ?_⟩
  have hactive : plan.activePhases ≤ allPhases.length := List.countP_le_length
  obtain ⟨phases, last, hrun, hlength, hfinal⟩ :=
    runConvergence_ends allPhases.length hplan hblocked hactive
  exact ⟨phases, last, hrun, hlength.trans hactive, hfinal⟩

/-- The plan for the missing folder `d`. -/
def missingFolderPlan : ReceiveOnlyConvergencePlan where
  actions := [⟨.createDirectory, some ['d'], ['d'], 1⟩]
  remoteItems := 1
  localEntries := 0
  receiptCount := 0
  createDirectories := 1
  materializeMissingFiles := 0
  verifyExistingFiles := 0
  revalidateStaleFileReplacements := 0
  revalidateStaleFileDeletions := 0
  deleteOwnedEmptyDirectories := 0
  blockedActions := 0
  currentOwnedFiles := 0
  currentOwnedDirectories := 0
  unownedMatchingDirectories := 0

theorem dispatch_progress_missing_folder :
    (∃ next, NextPlan 10 ((missingFolderInputs false).applyPhase missingFolderPlan
      .createDirectories) missingFolderPlan .createDirectories next) ∧
      ∃ phases last, runConvergence 10 allPhases.length (missingFolderInputs false) =
        .ok (phases, last) ∧ phases.length ≤ allPhases.length ∧ last.IsFinal :=
  dispatch_progress (missingFolderInputs false) 10 missingFolderPlan .createDirectories 1 (by rfl)
    (by rfl)

end NubiSync
