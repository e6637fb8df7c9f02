import NubiSync.Daemon.ReceiveOnlyRun
import NubiSync.Storage.RootOperations

set_option autoImplicit false

/-! # What a receive-only run reports

A run reports the rounds it executed: their number and kinds, and the sum of what they did. It calls a
root idle only after a window has been executed in that run and the plan of the state it leaves is empty.
And it observes the remote side only once local convergence lets it: when the plan it starts from can be
made and is empty, or when rounds of convergence alone bring it there within the budget. -/

namespace NubiSync

open Checks

/-! ## Counting -/

/-- The sum of two counts of work. -/
def ConvergenceTotals.add (a b : ConvergenceTotals) : ConvergenceTotals where
  directoriesCreated := a.directoriesCreated + b.directoriesCreated
  filesMaterialized := a.filesMaterialized + b.filesMaterialized
  filesVerified := a.filesVerified + b.filesVerified
  filesReplaced := a.filesReplaced + b.filesReplaced
  filesDeleted := a.filesDeleted + b.filesDeleted
  directoriesDeleted := a.directoriesDeleted + b.directoriesDeleted
  bytesDownloaded := a.bytesDownloaded + b.bytesDownloaded
  bytesVerified := a.bytesVerified + b.bytesVerified
  receiptsRecorded := a.receiptsRecorded + b.receiptsRecorded
  receiptsDeleted := a.receiptsDeleted + b.receiptsDeleted

/-- Every count fits 64 bits. -/
def ConvergenceTotals.Fits (a : ConvergenceTotals) : Prop :=
  ∀ count ∈ [a.directoriesCreated, a.filesMaterialized, a.filesVerified, a.filesReplaced,
    a.filesDeleted, a.directoriesDeleted, a.bytesDownloaded, a.bytesVerified, a.receiptsRecorded,
    a.receiptsDeleted], count < 2 ^ 64

instance (a : ConvergenceTotals) : Decidable a.Fits := inferInstanceAs (Decidable (∀ count ∈ _, _))

theorem ConvergenceTotals.checkedAdd_eq_ok_iff {run round sum : ConvergenceTotals} :
    run.checkedAdd round = .ok sum ↔ (run.add round).Fits ∧ sum = run.add round := by
  simp only [ConvergenceTotals.checkedAdd, bind_eq_ok, checkedCount_eq_ok_iff,
    ConvergenceTotals.Fits, ConvergenceTotals.add, List.forall_mem_cons]
  constructor
  · rintro ⟨_, ⟨h₁, rfl⟩, _, ⟨h₂, rfl⟩, _, ⟨h₃, rfl⟩, _, ⟨h₄, rfl⟩, _, ⟨h₅, rfl⟩, _, ⟨h₆, rfl⟩, _,
      ⟨h₇, rfl⟩, _, ⟨h₈, rfl⟩, _, ⟨h₉, rfl⟩, _, ⟨h₁₀, rfl⟩, h⟩
    exact ⟨⟨h₁, h₂, h₃, h₄, h₅, h₆, h₇, h₈, h₉, h₁₀, nofun⟩, (Except.ok.inj h).symm⟩
  · rintro ⟨⟨h₁, h₂, h₃, h₄, h₅, h₆, h₇, h₈, h₉, h₁₀, -⟩, rfl⟩
    exact ⟨_, ⟨h₁, rfl⟩, _, ⟨h₂, rfl⟩, _, ⟨h₃, rfl⟩, _, ⟨h₄, rfl⟩, _, ⟨h₅, rfl⟩, _, ⟨h₆, rfl⟩, _,
      ⟨h₇, rfl⟩, _, ⟨h₈, rfl⟩, _, ⟨h₉, rfl⟩, _, ⟨h₁₀, rfl⟩, rfl⟩

/-! ## Rounds -/

/-- The work of a round. -/
def ReceiveOnlyRound.totals : ReceiveOnlyRound → ConvergenceTotals
  | .metadata cycle => cycle.toConvergenceTotals
  | .convergence execution => execution.toConvergenceTotals

/-- The phase of convergence a round executed. -/
def ReceiveOnlyRound.phase : ReceiveOnlyRound → Option SelectedRootUnifiedConvergencePhase
  | .metadata cycle => cycle.convergencePhase
  | .convergence execution => execution.phaseExecuted

/-- The metadata phase a round executed. -/
def ReceiveOnlyRound.metadataPhase :
    ReceiveOnlyRound → Option SelectedRootReceiveOnlyCycleMetadataPhase
  | .metadata cycle => some cycle.metadataPhase
  | .convergence _ => none

/-- A run has counted rounds between two reports. -/
structure RoundsCounted (before after : SelectedRootReceiveOnlyRunExecution)
    (rounds : List ReceiveOnlyRound) : Prop where
  maxRounds : after.maxRounds = before.maxRounds
  executed : after.roundsExecuted = before.roundsExecuted + rounds.length
  metadata : after.metadataRounds =
    before.metadataRounds + rounds.countP (·.metadataPhase.isSome)
  convergenceOnly : after.convergenceOnlyRounds =
    before.convergenceOnlyRounds + rounds.countP (·.metadataPhase.isNone)
  bootstrap : after.bootstrapRounds =
    before.bootstrapRounds + rounds.countP (·.metadataPhase == some .bootstrap)
  collect : after.collectChangePageRounds =
    before.collectChangePageRounds + rounds.countP (·.metadataPhase == some .collectChangePage)
  execute : after.executeWindowRounds =
    before.executeWindowRounds + rounds.countP (·.metadataPhase == some .executeWindow)
  phases : after.convergencePhasesExecuted =
    before.convergencePhasesExecuted + rounds.countP (·.phase.isSome)
  totals : after.toConvergenceTotals =
    (rounds.map ReceiveOnlyRound.totals).foldl ConvergenceTotals.add before.toConvergenceTotals

/-- A report that differs in its verdict alone. -/
theorem RoundsCounted.concluded (run : SelectedRootReceiveOnlyRunExecution) :
    RoundsCounted run run.intervened [] ∧ RoundsCounted run run.idle [] ∧
      RoundsCounted run run.exhausted [] :=
  ⟨⟨rfl, rfl, rfl, rfl, rfl, rfl, rfl, rfl, rfl⟩, ⟨rfl, rfl, rfl, rfl, rfl, rfl, rfl, rfl, rfl⟩,
    ⟨rfl, rfl, rfl, rfl, rfl, rfl, rfl, rfl, rfl⟩⟩

theorem RoundsCounted.append {before middle after : SelectedRootReceiveOnlyRunExecution}
    {rounds rounds' : List ReceiveOnlyRound} (h : RoundsCounted before middle rounds)
    (h' : RoundsCounted middle after rounds') : RoundsCounted before after (rounds ++ rounds') where
  maxRounds := h'.maxRounds.trans h.maxRounds
  executed := by rw [h'.executed, h.executed, List.length_append, Nat.add_assoc]
  metadata := by rw [h'.metadata, h.metadata, List.countP_append, Nat.add_assoc]
  convergenceOnly := by
    rw [h'.convergenceOnly, h.convergenceOnly, List.countP_append, Nat.add_assoc]
  bootstrap := by rw [h'.bootstrap, h.bootstrap, List.countP_append, Nat.add_assoc]
  collect := by rw [h'.collect, h.collect, List.countP_append, Nat.add_assoc]
  execute := by rw [h'.execute, h.execute, List.countP_append, Nat.add_assoc]
  phases := by rw [h'.phases, h.phases, List.countP_append, Nat.add_assoc]
  totals := by rw [h'.totals, h.totals, List.map_append, List.foldl_append]

theorem countP_metadataPhase (cycle : SelectedRootReceiveOnlyCycleExecution)
    (phase : SelectedRootReceiveOnlyCycleMetadataPhase) :
    [ReceiveOnlyRound.metadata cycle].countP (·.metadataPhase == some phase)
      = if cycle.metadataPhase = phase then 1 else 0 := by
  simp [ReceiveOnlyRound.metadataPhase, List.countP_cons]

theorem countP_phase (round : ReceiveOnlyRound) :
    [round].countP (·.phase.isSome) = if round.phase.isSome then 1 else 0 := by
  simp [List.countP_cons]

/-- Every round is one of metadata or of convergence alone. -/
theorem countP_metadata_add (rounds : List ReceiveOnlyRound) :
    rounds.countP (·.metadataPhase.isSome) + rounds.countP (·.metadataPhase.isNone)
      = rounds.length := by
  induction rounds with
  | nil => rfl
  | cons round rest ih =>
      rw [List.length_cons, ← ih]
      cases hphase : round.metadataPhase <;> simp [hphase] <;> omega

/-- Every metadata round is one of three. -/
theorem countP_metadataPhases (rounds : List ReceiveOnlyRound) :
    rounds.countP (·.metadataPhase.isSome) = rounds.countP (·.metadataPhase == some .bootstrap)
      + rounds.countP (·.metadataPhase == some .collectChangePage)
      + rounds.countP (·.metadataPhase == some .executeWindow) := by
  induction rounds with
  | nil => rfl
  | cons round rest ih =>
      rw [List.countP_cons, ih]
      cases hphase : round.metadataPhase with
      | none => simp [hphase]
      | some phase => cases phase <;> simp [hphase] <;> omega

section Steps

variable {σ : Type} {env : ReceiveOnlyEnvironment σ} {s s' : σ}

/-- A state whose plan has been made and is empty. -/
def ReceiveOnlyEnvironment.PlanEmpty (env : ReceiveOnlyEnvironment σ) (s : σ) : Prop :=
  ∃ plan, env.planConvergence s = .ok plan ∧ plan.actionCount = 0

/-! ## A step of convergence -/

theorem decide_converged {plan : ReceiveOnlyConvergencePlan}
    (h : decideSelectedRootUnifiedConvergenceStep plan = .ok .converged) : plan.actionCount = 0 := by
  unfold decideSelectedRootUnifiedConvergenceStep at h
  split at h
  · cases h
  split at h
  · assumption
  split at h
  · cases h
  split at h
  · cases h
  dsimp only at h
  split at h <;> cases h

/-- What a step that returns has found. -/
structure StepFindings (env : ReceiveOnlyEnvironment σ) (s : σ)
    (execution : SelectedRootUnifiedConvergenceExecution) : Prop where
  empty : execution.converged = true → env.PlanEmpty s ∧ execution.finalActions = 0
  one : execution.converged = true → execution.manualInterventionRequired = false

theorem ensures_conclude (execution : SelectedRootUnifiedConvergenceExecution)
    (hconverged : execution.converged = false)
    (hmanual : execution.manualInterventionRequired = false) (finalPlan : ReceiveOnlyConvergencePlan) :
    Ensures (execution.conclude finalPlan) fun r => r.converged = true →
      finalPlan.actionCount = 0 ∧ r.finalActions = 0 ∧ r.manualInterventionRequired = false := by
  unfold SelectedRootUnifiedConvergenceExecution.conclude
  dsimp only
  split
  · exact .ok fun h => absurd (hconverged.symm.trans h) (by simp)
  intro r h
  obtain ⟨decision, hdecision, h⟩ := bind_eq_ok.mp h
  cases decision with
  | converged =>
      obtain rfl := Except.ok.inj h
      have hempty := decide_converged hdecision
      exact fun _ => ⟨hempty, hempty, hmanual⟩
  | dispatch phase plannedActions =>
      obtain rfl := Except.ok.inj h
      exact fun h => absurd (hconverged.symm.trans h) (by simp)
  | safeStop reason =>
      obtain rfl := Except.ok.inj h
      exact fun h => absurd (hconverged.symm.trans h) (by simp)

/-- **A step that calls the root converged has planned its last state, and found nothing to do.** -/
theorem stepFindings {hasProvider : Bool} {execution : SelectedRootUnifiedConvergenceExecution}
    (h : executeSelectedRootUnifiedConvergenceStep env hasProvider s = .ok (s', execution)) :
    StepFindings env s' execution := by
  obtain ⟨initialPlan, hinitial, h⟩ := bind_eq_ok.mp h
  obtain ⟨decision, hdecision, h⟩ := bind_eq_ok.mp h
  cases decision with
  | converged =>
      obtain ⟨rfl, rfl⟩ := Prod.mk.inj (Except.ok.inj h)
      exact ⟨fun _ => ⟨⟨initialPlan, hinitial, decide_converged hdecision⟩, rfl⟩, fun _ => rfl⟩
  | safeStop reason =>
      obtain ⟨rfl, rfl⟩ := Prod.mk.inj (Except.ok.inj h)
      exact ⟨nofun, nofun⟩
  | dispatch phase plannedActions =>
      obtain ⟨-, h⟩ := (refuseIf_bind_eq_ok _ _ _ _).mp h
      obtain ⟨⟨after, result⟩, -, h⟩ := bind_eq_ok.mp h
      obtain ⟨-, h⟩ := (refuseIf_bind_eq_ok _ _ _ _).mp h
      obtain ⟨finalPlan, hfinal, h⟩ := bind_eq_ok.mp h
      obtain ⟨concluded, hconclude, h⟩ := bind_eq_ok.mp h
      obtain ⟨rfl, rfl⟩ := Prod.mk.inj (Except.ok.inj h)
      have hfindings := ensures_conclude _ rfl rfl finalPlan _ hconclude
      refine ⟨fun hconverged => ?_, fun hconverged => (hfindings hconverged).2.2⟩
      obtain ⟨hempty, hactions, -⟩ := hfindings hconverged
      exact ⟨⟨finalPlan, hfinal, hempty⟩, hactions⟩

/-! ## A cycle -/

theorem executeMetadataPhase_keeps {execution after : SelectedRootReceiveOnlyCycleExecution}
    (h : executeMetadataPhase env s execution = .ok (s', after)) :
    after.metadataPhase = execution.metadataPhase ∧
      after.convergenceExecuted = execution.convergenceExecuted ∧
      after.converged = execution.converged ∧
      after.manualInterventionRequired = execution.manualInterventionRequired := by
  unfold executeMetadataPhase at h
  split at h
  all_goals
    obtain ⟨_, -, h⟩ := bind_eq_ok.mp h
    obtain ⟨rfl, rfl⟩ := Prod.mk.inj (Except.ok.inj h)
    exact ⟨rfl, rfl, rfl, rfl⟩

/-- What a cycle that returns has done: its metadata phase only, or the execution of a window and a
    step of convergence after it. -/
inductive CycleDone (env : ReceiveOnlyEnvironment σ) :
    σ → SelectedRootReceiveOnlyCycleExecution → Prop where
  | metadata {s : σ} {cycle : SelectedRootReceiveOnlyCycleExecution}
      (hexecuted : cycle.convergenceExecuted = false) (hconverged : cycle.converged = false)
      (hmanual : cycle.manualInterventionRequired = false) : CycleDone env s cycle
  | converged {s : σ} {cycle : SelectedRootReceiveOnlyCycleExecution}
      {execution : SelectedRootUnifiedConvergenceExecution}
      (hphase : cycle.metadataPhase = .executeWindow) (hfindings : StepFindings env s execution) :
      CycleDone env s (cycle.converge execution)

theorem cycleDone {cycle : SelectedRootReceiveOnlyCycleExecution}
    (h : executeSelectedRootReceiveOnlyCycle env s = .ok (s', cycle)) : CycleDone env s' cycle := by
  obtain ⟨metadataPhase, -, h⟩ := bind_eq_ok.mp h
  obtain ⟨⟨middle, execution⟩, hmetadata, h⟩ := bind_eq_ok.mp h
  obtain ⟨hphase, hexecuted, hconverged, hmanual⟩ := executeMetadataPhase_keeps hmetadata
  dsimp only at h
  split at h
  · obtain ⟨rfl, rfl⟩ := Prod.mk.inj (Except.ok.inj h)
    exact .metadata hexecuted hconverged hmanual
  · next hstable =>
      obtain ⟨⟨last, convergence⟩, hstep, h⟩ := bind_eq_ok.mp h
      obtain ⟨rfl, rfl⟩ := Prod.mk.inj (Except.ok.inj h)
      refine .converged (hphase.trans ?_) (stepFindings hstep)
      by_contra hother
      exact hstable (Or.inl hother)

/-! ## A round -/

/-- Two reports with the same verdict. -/
structure SameVerdict (before after : SelectedRootReceiveOnlyRunExecution) : Prop where
  converged : after.converged = before.converged
  manual : after.manualInterventionRequired = before.manualInterventionRequired
  another : after.requiresAnotherInvocation = before.requiresAnotherInvocation

theorem accumulateReceiveOnlyCycle_spec {run after : SelectedRootReceiveOnlyRunExecution}
    {cycle : SelectedRootReceiveOnlyCycleExecution}
    (h : accumulateReceiveOnlyCycle { run with roundsExecuted := run.roundsExecuted + 1 } cycle
      = .ok after) :
    RoundsCounted run after [.metadata cycle] ∧ SameVerdict run after ∧
      (cycle.convergenceExecuted = true → after.finalActions = cycle.finalActions) := by
  obtain ⟨_, hmetadata, h⟩ := bind_eq_ok.mp h
  obtain ⟨_, hbootstrap, h⟩ := bind_eq_ok.mp h
  obtain ⟨_, hcollect, h⟩ := bind_eq_ok.mp h
  obtain ⟨_, hexecute, h⟩ := bind_eq_ok.mp h
  obtain ⟨_, hphases, h⟩ := bind_eq_ok.mp h
  obtain ⟨_, htotals, h⟩ := bind_eq_ok.mp h
  obtain ⟨-, rfl⟩ := checkedCount_eq_ok_iff.mp hmetadata
  obtain ⟨-, rfl⟩ := checkedCount_eq_ok_iff.mp hbootstrap
  obtain ⟨-, rfl⟩ := checkedCount_eq_ok_iff.mp hcollect
  obtain ⟨-, rfl⟩ := checkedCount_eq_ok_iff.mp hexecute
  obtain ⟨-, rfl⟩ := checkedCount_eq_ok_iff.mp hphases
  obtain ⟨-, rfl⟩ := ConvergenceTotals.checkedAdd_eq_ok_iff.mp htotals
  dsimp only at h
  split at h
  next hexecuted =>
    obtain rfl := Except.ok.inj h
    refine ⟨⟨rfl, rfl, rfl, rfl, ?_, ?_, ?_, ?_, rfl⟩, ⟨rfl, rfl, rfl⟩, fun _ => rfl⟩
    · rw [countP_metadataPhase]
    · rw [countP_metadataPhase]
    · rw [countP_metadataPhase]
    · rw [countP_phase]
      rfl
  next hexecuted =>
    obtain rfl := Except.ok.inj h
    refine ⟨⟨rfl, rfl, rfl, rfl, ?_, ?_, ?_, ?_, rfl⟩, ⟨rfl, rfl, rfl⟩, (absurd · hexecuted)⟩
    · rw [countP_metadataPhase]
    · rw [countP_metadataPhase]
    · rw [countP_metadataPhase]
    · rw [countP_phase]
      rfl

theorem accumulateReceiveOnlyConvergence_eq_ok_iff
    {run after : SelectedRootReceiveOnlyRunExecution}
    {execution : SelectedRootUnifiedConvergenceExecution} :
    accumulateReceiveOnlyConvergence run execution = .ok after ↔
      run.convergenceOnlyRounds + 1 < 2 ^ 64 ∧
      run.convergencePhasesExecuted + (if execution.phaseExecuted.isSome then 1 else 0) < 2 ^ 64 ∧
      (run.toConvergenceTotals.add execution.toConvergenceTotals).Fits ∧
      after = { run with
        toConvergenceTotals := run.toConvergenceTotals.add execution.toConvergenceTotals
        convergenceOnlyRounds := run.convergenceOnlyRounds + 1
        convergencePhasesExecuted :=
          run.convergencePhasesExecuted + (if execution.phaseExecuted.isSome then 1 else 0)
        finalConvergenceKnown := true
        finalActions := execution.finalActions
        finalBlockedActions := execution.finalBlockedActions
        nextConvergencePhase := execution.nextPhase } := by
  simp only [accumulateReceiveOnlyConvergence, bind_eq_ok, checkedCount_eq_ok_iff,
    ConvergenceTotals.checkedAdd_eq_ok_iff]
  constructor
  · rintro ⟨_, ⟨hrounds, rfl⟩, _, ⟨hphases, rfl⟩, _, ⟨hfits, rfl⟩, h⟩
    exact ⟨hrounds, hphases, hfits, (Except.ok.inj h).symm⟩
  · rintro ⟨hrounds, hphases, hfits, rfl⟩
    exact ⟨_, ⟨hrounds, rfl⟩, _, ⟨hphases, rfl⟩, _, ⟨hfits, rfl⟩, rfl⟩

theorem accumulateReceiveOnlyConvergence_spec {run after : SelectedRootReceiveOnlyRunExecution}
    {execution : SelectedRootUnifiedConvergenceExecution}
    (h : accumulateReceiveOnlyConvergence { run with roundsExecuted := run.roundsExecuted + 1 }
      execution = .ok after) :
    RoundsCounted run after [.convergence execution] ∧ SameVerdict run after ∧
      after.finalActions = execution.finalActions := by
  obtain ⟨-, -, -, rfl⟩ := accumulateReceiveOnlyConvergence_eq_ok_iff.mp h
  refine ⟨⟨rfl, rfl, rfl, rfl, rfl, rfl, rfl, ?_, rfl⟩, ⟨rfl, rfl, rfl⟩, rfl⟩
  rw [countP_phase]
  rfl

/-- A window has been executed: in the round, or before it. -/
def WindowExecuted (st : ReceiveOnlyRunState σ) (round : ReceiveOnlyRound) : Prop :=
  round.metadataPhase = some .executeWindow ∨
    st.mode = .convergence ∧ st.metadataObservationStarted = true

/-- What a round of a run comes to. -/
inductive RoundDone (env : ReceiveOnlyEnvironment σ) (st : ReceiveOnlyRunState σ) :
    ReceiveOnlyRound → RoundOutcome σ → Prop where
  | intervened {round : ReceiveOnlyRound} {s : σ} {run : SelectedRootReceiveOnlyRunExecution}
      (hcounted : RoundsCounted st.run run [round]) (hverdict : SameVerdict st.run run) :
      RoundDone env st round (.returned s run.intervened)
  | idle {round : ReceiveOnlyRound} {s : σ} {run : SelectedRootReceiveOnlyRunExecution}
      (hcounted : RoundsCounted st.run run [round]) (hverdict : SameVerdict st.run run)
      (hempty : env.PlanEmpty s) (hactions : run.finalActions = 0)
      (hwindow : WindowExecuted st round) : RoundDone env st round (.returned s run.idle)
  | next {round : ReceiveOnlyRound} {st' : ReceiveOnlyRunState σ}
      (hcounted : RoundsCounted st.run st'.run [round]) (hverdict : SameVerdict st.run st'.run)
      (hwindow : st'.mode = .convergence → st'.metadataObservationStarted = true →
        WindowExecuted st round) : RoundDone env st round (.next st')

theorem roundDone {st : ReceiveOnlyRunState σ} {round : ReceiveOnlyRound}
    {outcome : RoundOutcome σ} (h : executeRound env st = .ok (round, outcome)) :
    RoundDone env st round outcome := by
  obtain ⟨_, hrounds, h⟩ := bind_eq_ok.mp h
  obtain ⟨-, rfl⟩ := checkedCount_eq_ok_iff.mp hrounds
  dsimp only at h
  cases hmode : st.mode with
  | metadata =>
      rw [hmode] at h
      obtain ⟨⟨s, cycle⟩, hcycle, h⟩ := bind_eq_ok.mp h
      obtain ⟨run, hrun, h⟩ := bind_eq_ok.mp h
      obtain ⟨hcounted, hverdict, hactions⟩ := accumulateReceiveOnlyCycle_spec hrun
      have hdone := cycleDone hcycle
      split at h
      · obtain ⟨rfl, rfl⟩ := Prod.mk.inj (Except.ok.inj h)
        exact .intervened hcounted hverdict
      split at h
      · next hconverged =>
          obtain ⟨rfl, rfl⟩ := Prod.mk.inj (Except.ok.inj h)
          cases hdone with
          | metadata _ hnot _ => exact absurd (hnot.symm.trans hconverged) (by simp)
          | converged hphase hfindings =>
              obtain ⟨hempty, hzero⟩ := hfindings.empty hconverged
              exact .idle hcounted hverdict hempty ((hactions rfl).trans hzero)
                (Or.inl (congrArg some hphase))
      split at h
      · next hexecuted =>
          obtain ⟨rfl, rfl⟩ := Prod.mk.inj (Except.ok.inj h)
          cases hdone with
          | metadata hnot _ _ => exact absurd (hnot.symm.trans hexecuted) (by simp)
          | converged hphase hfindings =>
              exact .next hcounted hverdict fun _ _ => Or.inl (congrArg some hphase)
      · obtain ⟨rfl, rfl⟩ := Prod.mk.inj (Except.ok.inj h)
        exact .next hcounted hverdict nofun
  | convergence =>
      rw [hmode] at h
      obtain ⟨⟨s, execution⟩, hstep, h⟩ := bind_eq_ok.mp h
      obtain ⟨run, hrun, h⟩ := bind_eq_ok.mp h
      obtain ⟨hcounted, hverdict, hactions⟩ := accumulateReceiveOnlyConvergence_spec hrun
      have hfindings := stepFindings hstep
      split at h
      · obtain ⟨rfl, rfl⟩ := Prod.mk.inj (Except.ok.inj h)
        exact .intervened hcounted hverdict
      split at h
      · next hconverged =>
          split at h
          · next hobserved =>
              obtain ⟨rfl, rfl⟩ := Prod.mk.inj (Except.ok.inj h)
              obtain ⟨hempty, hzero⟩ := hfindings.empty hconverged
              exact .idle hcounted hverdict hempty (hactions.trans hzero) (Or.inr ⟨hmode, hobserved⟩)
          · -- the first rounds of convergence end where the observation of metadata starts
            obtain ⟨nextMetadataPhase, -, h⟩ := bind_eq_ok.mp h
            obtain ⟨rfl, rfl⟩ := Prod.mk.inj (Except.ok.inj h)
            exact .next ⟨hcounted.maxRounds, hcounted.executed, hcounted.metadata,
              hcounted.convergenceOnly, hcounted.bootstrap, hcounted.collect, hcounted.execute,
              hcounted.phases, hcounted.totals⟩ ⟨hverdict.converged, hverdict.manual,
              hverdict.another⟩ nofun
      · obtain ⟨rfl, rfl⟩ := Prod.mk.inj (Except.ok.inj h)
        exact .next hcounted hverdict fun _ hobserved => Or.inr ⟨hmode, hobserved⟩

/-! ## The rounds of a run -/

/-- The rounds a run executes from a state on, until it returns. -/
inductive RunRounds (env : ReceiveOnlyEnvironment σ) :
    ReceiveOnlyRunState σ → List ReceiveOnlyRound → σ → SelectedRootReceiveOnlyRunExecution → Prop
    where
  | exhausted {st : ReceiveOnlyRunState σ} : RunRounds env st [] st.state st.run.exhausted
  | returned {st : ReceiveOnlyRunState σ} {round : ReceiveOnlyRound} {s : σ}
      {run : SelectedRootReceiveOnlyRunExecution}
      (hround : executeRound env st = .ok (round, .returned s run)) : RunRounds env st [round] s run
  | next {st st' : ReceiveOnlyRunState σ} {round : ReceiveOnlyRound}
      {rounds : List ReceiveOnlyRound} {s : σ} {run : SelectedRootReceiveOnlyRunExecution}
      (hround : executeRound env st = .ok (round, .next st'))
      (hrounds : RunRounds env st' rounds s run) : RunRounds env st (round :: rounds) s run

theorem exists_runRounds {budget : ℕ} {st : ReceiveOnlyRunState σ} {s : σ}
    {run : SelectedRootReceiveOnlyRunExecution} (h : executeRounds env budget st = .ok (s, run)) :
    ∃ rounds, RunRounds env st rounds s run ∧ rounds.length ≤ budget := by
  induction budget generalizing st with
  | zero =>
      obtain ⟨rfl, rfl⟩ := Prod.mk.inj (Except.ok.inj h)
      exact ⟨[], .exhausted, le_rfl⟩
  | succ budget ih =>
      obtain ⟨⟨round, outcome⟩, hround, h⟩ := bind_eq_ok.mp h
      cases outcome with
      | returned s' run' =>
          obtain ⟨rfl, rfl⟩ := Prod.mk.inj (Except.ok.inj h)
          exact ⟨[round], .returned hround, Nat.succ_le_succ (Nat.zero_le _)⟩
      | next st' =>
          obtain ⟨rounds, hrounds, hlength⟩ := ih h
          exact ⟨round :: rounds, .next hround hrounds, Nat.succ_le_succ hlength⟩

/-- The verdict of a run: it is idle, or needs the owner, or has to be invoked again, and only one of
    these. -/
def SelectedRootReceiveOnlyRunExecution.OneVerdict (run : SelectedRootReceiveOnlyRunExecution) :
    Prop :=
  [run.converged, run.manualInterventionRequired, run.requiresAnotherInvocation].count true = 1

/-- What a run reports of the rounds from a state on. -/
structure RunReport (env : ReceiveOnlyEnvironment σ) (st : ReceiveOnlyRunState σ)
    (rounds : List ReceiveOnlyRound) (s : σ) (run : SelectedRootReceiveOnlyRunExecution) : Prop where
  counted : RoundsCounted st.run run rounds
  verdict : run.OneVerdict
  empty : run.converged = true → env.PlanEmpty s ∧ run.finalActions = 0
  window : run.converged = true →
    (∃ round ∈ rounds, round.metadataPhase = some .executeWindow) ∨
      st.mode = .convergence ∧ st.metadataObservationStarted = true

theorem RunRounds.report {st : ReceiveOnlyRunState σ} {rounds : List ReceiveOnlyRound} {s : σ}
    {run : SelectedRootReceiveOnlyRunExecution} (h : RunRounds env st rounds s run)
    (hconverged : st.run.converged = false) (hmanual : st.run.manualInterventionRequired = false) :
    RunReport env st rounds s run := by
  induction h with
  | @exhausted st =>
      refine ⟨(RoundsCounted.concluded st.run).2.2, ?_, fun h => ?_, fun h => ?_⟩
      · simp [SelectedRootReceiveOnlyRunExecution.OneVerdict,
          SelectedRootReceiveOnlyRunExecution.exhausted, hconverged, hmanual]
      · exact absurd (hconverged.symm.trans h) (by simp)
      · exact absurd (hconverged.symm.trans h) (by simp)
  | returned hround =>
      cases roundDone hround with
      | intervened hcounted hverdict =>
          have hnot := hverdict.converged.trans hconverged
          refine ⟨hcounted.append (RoundsCounted.concluded _).1, ?_, fun h => ?_, fun h => ?_⟩
          · simp [SelectedRootReceiveOnlyRunExecution.OneVerdict,
              SelectedRootReceiveOnlyRunExecution.intervened, hnot]
          · exact absurd (hnot.symm.trans h) (by simp)
          · exact absurd (hnot.symm.trans h) (by simp)
      | idle hcounted hverdict hempty hactions hwindow =>
          refine ⟨hcounted.append (RoundsCounted.concluded _).2.1, ?_, fun _ => ⟨hempty, hactions⟩,
            fun _ => ?_⟩
          · simp [SelectedRootReceiveOnlyRunExecution.OneVerdict,
              SelectedRootReceiveOnlyRunExecution.idle, hverdict.manual.trans hmanual]
          · exact hwindow.imp_left fun hphase => ⟨_, List.mem_singleton_self _, hphase⟩
  | @next st st' round rounds s run hround _ ih =>
      cases roundDone hround with
      | next hcounted hverdict hwindow =>
          have hreport := ih (hverdict.converged.trans hconverged) (hverdict.manual.trans hmanual)
          refine ⟨hcounted.append hreport.counted, hreport.verdict, hreport.empty, fun h => ?_⟩
          rcases hreport.window h with ⟨later, hlater, hphase⟩ | ⟨hmode, hobserved⟩
          · exact Or.inl ⟨later, List.mem_cons_of_mem _ hlater, hphase⟩
          · exact (hwindow hmode hobserved).imp_left fun hphase => ⟨round, List.mem_cons_self, hphase⟩

/-- A run before its first round: nothing is counted, and convergence alone has observed nothing. -/
theorem ensures_startRun (env : ReceiveOnlyEnvironment σ) (s : σ) :
    Ensures (startRun env s) fun st => st.state = s ∧ st.run.maxRounds = supervisedReceiveOnlyRunMaxRounds ∧
      st.run.roundsExecuted = 0 ∧ st.run.metadataRounds = 0 ∧ st.run.convergenceOnlyRounds = 0 ∧
      st.run.bootstrapRounds = 0 ∧ st.run.collectChangePageRounds = 0 ∧
      st.run.executeWindowRounds = 0 ∧ st.run.convergencePhasesExecuted = 0 ∧
      st.run.toConvergenceTotals = .zero ∧ st.run.converged = false ∧
      st.run.manualInterventionRequired = false ∧
      ¬ (st.mode = .convergence ∧ st.metadataObservationStarted = true) := by
  refine .check fun _mode => .after fun _actions => .after fun _nextPhase => .ok ?_
  refine ⟨rfl, rfl, rfl, rfl, rfl, rfl, rfl, rfl, rfl, rfl, rfl, rfl, fun ⟨hmode, hobserved⟩ => ?_⟩
  have hmetadata := of_decide_eq_true hobserved
  dsimp only at hmode hmetadata
  rw [hmode] at hmetadata
  cases hmetadata

/-- What a run reports of the rounds it executed and the state it leaves. -/
structure RunAccount (env : ReceiveOnlyEnvironment σ) (rounds : List ReceiveOnlyRound) (s : σ)
    (run : SelectedRootReceiveOnlyRunExecution) : Prop where
  executed : run.roundsExecuted = rounds.length
  budget : run.roundsExecuted ≤ run.maxRounds
  kinds : run.roundsExecuted = run.metadataRounds + run.convergenceOnlyRounds
  metadataKinds : run.metadataRounds =
    run.bootstrapRounds + run.collectChangePageRounds + run.executeWindowRounds
  bootstrap : run.bootstrapRounds = rounds.countP (·.metadataPhase == some .bootstrap)
  collect : run.collectChangePageRounds =
    rounds.countP (·.metadataPhase == some .collectChangePage)
  execute : run.executeWindowRounds = rounds.countP (·.metadataPhase == some .executeWindow)
  phases : run.convergencePhasesExecuted = rounds.countP (·.phase.isSome)
  totals : run.toConvergenceTotals =
    (rounds.map ReceiveOnlyRound.totals).foldl ConvergenceTotals.add .zero
  converged : run.converged = true →
    (∃ round ∈ rounds, round.metadataPhase = some .executeWindow) ∧ env.PlanEmpty s ∧
      run.finalActions = 0
  verdict : run.OneVerdict

/-- **What a receive-only run may report**, whatever its rounds come to: it executes at most its budget of
    rounds and counts them by kind; its totals are the sums over the rounds; it calls the root converged
    only if a window was executed in one of its rounds and the plan of the state it leaves is empty; and it
    has one verdict. -/
theorem run_report (env : ReceiveOnlyEnvironment σ) (s s' : σ)
    (run : SelectedRootReceiveOnlyRunExecution)
    (h : executeSelectedRootReceiveOnlyRunToIdle env s = .ok (s', run)) :
    ∃ st rounds, startRun env s = .ok st ∧ RunRounds env st rounds s' run ∧
      RunAccount env rounds s' run := by
  obtain ⟨st, hst, h⟩ := bind_eq_ok.mp h
  obtain ⟨-, hmax, hrounds, hmetadata, honly, hbootstrap, hcollect, hexecute, hphases, htotals,
    hconverged, hmanual, hstart⟩ := ensures_startRun env s st hst
  obtain ⟨rounds, hrun, hlength⟩ := exists_runRounds h
  have hreport := hrun.report hconverged hmanual
  have hcounted := hreport.counted
  have hexecuted : run.roundsExecuted = rounds.length := by
    rw [hcounted.executed, hrounds, Nat.zero_add]
  have hmetadataRounds : run.metadataRounds = rounds.countP (·.metadataPhase.isSome) := by
    rw [hcounted.metadata, hmetadata, Nat.zero_add]
  have honlyRounds : run.convergenceOnlyRounds = rounds.countP (·.metadataPhase.isNone) := by
    rw [hcounted.convergenceOnly, honly, Nat.zero_add]
  have hbootstrapRounds := hcounted.bootstrap
  have hcollectRounds := hcounted.collect
  have hexecuteRounds := hcounted.execute
  rw [hbootstrap, Nat.zero_add] at hbootstrapRounds
  rw [hcollect, Nat.zero_add] at hcollectRounds
  rw [hexecute, Nat.zero_add] at hexecuteRounds
  refine ⟨st, rounds, hst, hrun, hexecuted, ?_, ?_, ?_, hbootstrapRounds, hcollectRounds,
    hexecuteRounds, ?_, ?_, fun hidle => ?_, hreport.verdict⟩
  · rw [hexecuted, hcounted.maxRounds]
    exact hlength
  · rw [hexecuted, hmetadataRounds, honlyRounds, countP_metadata_add]
  · rw [hmetadataRounds, hbootstrapRounds, hcollectRounds, hexecuteRounds, countP_metadataPhases]
  · rw [hcounted.phases, hphases, Nat.zero_add]
  · rw [hcounted.totals, htotals]
  · obtain ⟨hempty, hactions⟩ := hreport.empty hidle
    exact ⟨(hreport.window hidle).resolve_right hstart, hempty, hactions⟩

/-! ## The first observation of metadata -/

/-- A run whose rounds, as many as are left of its budget, come to one of metadata. -/
inductive StartsMetadata (env : ReceiveOnlyEnvironment σ) : ℕ → ReceiveOnlyRunState σ → Prop where
  | now {budget : ℕ} {st : ReceiveOnlyRunState σ} (hmode : st.mode = .metadata) :
      StartsMetadata env (budget + 1) st
  | later {budget : ℕ} {st st' : ReceiveOnlyRunState σ} {round : ReceiveOnlyRound}
      (hround : executeRound env st = .ok (round, .next st')) (h : StartsMetadata env budget st') :
      StartsMetadata env (budget + 1) st

/-- A run that executes a round of metadata before it returns. -/
def ObservesMetadata (env : ReceiveOnlyEnvironment σ) (s : σ) : Prop :=
  ∃ st, startRun env s = .ok st ∧ StartsMetadata env st.run.maxRounds st

/-- Steps of convergence that leave the root converged, none of them in need of the owner. -/
inductive ConvergesBy (env : ReceiveOnlyEnvironment σ) :
    σ → List SelectedRootUnifiedConvergenceExecution → Prop where
  | last {s s' : σ} {execution : SelectedRootUnifiedConvergenceExecution}
      (hstep : executeSelectedRootUnifiedConvergenceStep env true s = .ok (s', execution))
      (hconverged : execution.converged = true) : ConvergesBy env s [execution]
  | more {s s' : σ} {execution : SelectedRootUnifiedConvergenceExecution}
      {rest : List SelectedRootUnifiedConvergenceExecution}
      (hstep : executeSelectedRootUnifiedConvergenceStep env true s = .ok (s', execution))
      (hmanual : execution.manualInterventionRequired = false)
      (hconverged : execution.converged = false) (hrest : ConvergesBy env s' rest) :
      ConvergesBy env s (execution :: rest)

/-- The counters of a run have room for more rounds. -/
structure HasRoom (run : SelectedRootReceiveOnlyRunExecution) (rounds : ℕ) : Prop where
  executed : run.roundsExecuted + rounds < 2 ^ 64
  convergenceOnly : run.convergenceOnlyRounds + rounds < 2 ^ 64
  phases : run.convergencePhasesExecuted + rounds < 2 ^ 64

theorem HasRoom.one {run : SelectedRootReceiveOnlyRunExecution} {rounds : ℕ}
    (h : HasRoom run (rounds + 1)) : HasRoom run 1 := by
  obtain ⟨hexecuted, honly, hphases⟩ := h
  constructor <;> omega

theorem ConvergenceTotals.Fits.of_add {a b : ConvergenceTotals} (h : (a.add b).Fits) : a.Fits := by
  simp only [ConvergenceTotals.Fits, ConvergenceTotals.add, List.forall_mem_cons, List.not_mem_nil,
    IsEmpty.forall_iff, implies_true, and_true] at h ⊢
  omega

theorem ConvergenceTotals.Fits.of_foldl {rounds : List ConvergenceTotals} {a : ConvergenceTotals}
    (h : (rounds.foldl ConvergenceTotals.add a).Fits) : a.Fits := by
  induction rounds generalizing a with
  | nil => exact h
  | cons round rest ih => exact (ih h).of_add

/-- A round of convergence alone, before any metadata has been observed. -/
structure FirstConvergence (env : ReceiveOnlyEnvironment σ) (st st' : ReceiveOnlyRunState σ)
    (execution : SelectedRootUnifiedConvergenceExecution) : Prop where
  step : executeSelectedRootUnifiedConvergenceStep env true st.state = .ok (st'.state, execution)
  manual : execution.manualInterventionRequired = false
  totals : st'.run.toConvergenceTotals
    = st.run.toConvergenceTotals.add execution.toConvergenceTotals
  fits : st'.run.toConvergenceTotals.Fits
  room : ∀ rounds, HasRoom st.run (rounds + 1) → HasRoom st'.run rounds
  onward : execution.converged = true ∧ st'.mode = .metadata ∨ execution.converged = false ∧
    st'.mode = .convergence ∧ st'.metadataObservationStarted = false

theorem firstConvergence {st st' : ReceiveOnlyRunState σ} (hmode : st.mode = .convergence)
    (hobserved : st.metadataObservationStarted = false) {round : ReceiveOnlyRound}
    (h : executeRound env st = .ok (round, .next st')) :
    ∃ execution, FirstConvergence env st st' execution := by
  obtain ⟨_, hrounds, h⟩ := bind_eq_ok.mp h
  obtain ⟨-, rfl⟩ := checkedCount_eq_ok_iff.mp hrounds
  rw [hmode] at h
  obtain ⟨⟨s, execution⟩, hstep, h⟩ := bind_eq_ok.mp h
  obtain ⟨run, hrun, h⟩ := bind_eq_ok.mp h
  obtain ⟨-, -, hfits, rfl⟩ := accumulateReceiveOnlyConvergence_eq_ok_iff.mp hrun
  have hroom : ∀ rounds, HasRoom st.run (rounds + 1) →
      st.run.roundsExecuted + 1 + rounds < 2 ^ 64 ∧ st.run.convergenceOnlyRounds + 1 + rounds < 2 ^ 64 ∧
      st.run.convergencePhasesExecuted + (if execution.phaseExecuted.isSome = true then 1 else 0)
        + rounds < 2 ^ 64 := by
    intro rounds ⟨hexecuted, honly, hphases⟩
    split <;> omega
  split at h
  · cases (Prod.mk.inj (Except.ok.inj h)).2
  next hmanual =>
  split at h
  · next hconverged =>
      rw [hobserved] at h
      obtain ⟨nextMetadataPhase, -, h⟩ := bind_eq_ok.mp h
      obtain rfl := RoundOutcome.next.inj (Prod.mk.inj (Except.ok.inj h)).2
      exact ⟨execution, hstep, by simpa using hmanual, rfl, hfits,
        fun rounds hr => ⟨(hroom rounds hr).1, (hroom rounds hr).2.1, (hroom rounds hr).2.2⟩,
        Or.inl ⟨hconverged, rfl⟩⟩
  · next hconverged =>
      obtain rfl := RoundOutcome.next.inj (Prod.mk.inj (Except.ok.inj h)).2
      exact ⟨execution, hstep, by simpa using hmanual, rfl, hfits,
        fun rounds hr => ⟨(hroom rounds hr).1, (hroom rounds hr).2.1, (hroom rounds hr).2.2⟩,
        Or.inr ⟨by simpa using hconverged, rfl, hobserved⟩⟩

theorem exists_firstConvergence (henv : env.mode = .receiveOnly) {st : ReceiveOnlyRunState σ}
    (hmode : st.mode = .convergence) (hobserved : st.metadataObservationStarted = false)
    (hroom : HasRoom st.run 1) {execution : SelectedRootUnifiedConvergenceExecution}
    (hstep : executeSelectedRootUnifiedConvergenceStep env true st.state = .ok (s', execution))
    (hmanual : execution.manualInterventionRequired = false)
    (hfits : (st.run.toConvergenceTotals.add execution.toConvergenceTotals).Fits) :
    ∃ st' round, executeRound env st = .ok (round, .next st') ∧ st'.state = s' := by
  obtain ⟨hexecuted, honly, hphases⟩ := hroom
  have hphases' : st.run.convergencePhasesExecuted
      + (if execution.phaseExecuted.isSome = true then 1 else 0) < 2 ^ 64 := by
    split <;> omega
  have hrun : accumulateReceiveOnlyConvergence
      { st.run with roundsExecuted := st.run.roundsExecuted + 1 } execution = .ok _ :=
    accumulateReceiveOnlyConvergence_eq_ok_iff.mpr ⟨honly, hphases', hfits, rfl⟩
  unfold executeRound
  rw [checkedCount_eq_ok_iff.mpr ⟨hexecuted, rfl⟩, ok_bind, hmode]
  dsimp only
  rw [hstep, ok_bind]
  dsimp only
  rw [hrun, ok_bind, if_neg (by simp [hmanual])]
  cases hconverged : execution.converged with
  | true =>
      have hphase : planSelectedRootReceiveOnlyCycleMetadataPhase env s' = .ok (env.metadataPhase s') :=
        (refuseIf_bind_eq_ok _ _ _ _).mpr ⟨by simp [henv], rfl⟩
      rw [if_pos rfl, hobserved, if_neg (by simp), hphase, ok_bind]
      exact ⟨_, _, rfl, rfl⟩
  | false =>
      rw [if_neg (by simp)]
      exact ⟨_, _, rfl, rfl⟩

/-- The round that a step of convergence gives, when its counts fit. -/
theorem FirstConvergence.of_step (henv : env.mode = .receiveOnly) {st : ReceiveOnlyRunState σ}
    (hmode : st.mode = .convergence) (hobserved : st.metadataObservationStarted = false)
    (hroom : HasRoom st.run 1) {execution : SelectedRootUnifiedConvergenceExecution}
    (hstep : executeSelectedRootUnifiedConvergenceStep env true st.state = .ok (s', execution))
    (hmanual : execution.manualInterventionRequired = false)
    (hfits : (st.run.toConvergenceTotals.add execution.toConvergenceTotals).Fits) :
    ∃ st' round, executeRound env st = .ok (round, .next st') ∧ st'.state = s' ∧
      FirstConvergence env st st' execution := by
  obtain ⟨st', round, hround, hstate⟩ :=
    exists_firstConvergence henv hmode hobserved hroom hstep hmanual hfits
  obtain ⟨execution', hfirst⟩ := firstConvergence hmode hobserved hround
  obtain ⟨-, rfl⟩ := Prod.mk.inj (Except.ok.inj (hfirst.step.symm.trans hstep))
  exact ⟨st', round, hround, hstate, hfirst⟩

/-- Convergence alone comes to a round of metadata when its steps leave the root converged with a round
    to spare. -/
theorem startsMetadata_iff (henv : env.mode = .receiveOnly) {budget : ℕ} {st : ReceiveOnlyRunState σ}
    (hmode : st.mode = .convergence) (hobserved : st.metadataObservationStarted = false)
    (hroom : HasRoom st.run budget) :
    StartsMetadata env budget st ↔ ∃ executions, ConvergesBy env st.state executions ∧
      executions.length < budget ∧
      ((executions.map SelectedRootUnifiedConvergenceExecution.toConvergenceTotals).foldl
        ConvergenceTotals.add st.run.toConvergenceTotals).Fits := by
  induction budget generalizing st with
  | zero => exact ⟨nofun, fun ⟨_, _, hlength, _⟩ => absurd hlength (Nat.not_lt_zero _)⟩
  | succ budget ih =>
      constructor
      · intro h
        cases h with
        | now hmetadata => exact absurd (hmode.symm.trans hmetadata) (by simp)
        | later hround hlater =>
            obtain ⟨execution, hfirst⟩ := firstConvergence hmode hobserved hround
            rcases hfirst.onward with ⟨hconverged, hmetadata⟩ | ⟨hconverged, hmode', hobserved'⟩
            · have hfits := hfirst.fits
              rw [hfirst.totals] at hfits
              refine ⟨[execution], .last hfirst.step hconverged, ?_, hfits⟩
              cases hlater <;> simp
            · obtain ⟨executions, hrest, hlength, hfits⟩ :=
                (ih hmode' hobserved' (hfirst.room _ hroom)).mp hlater
              refine ⟨execution :: executions, .more hfirst.step hfirst.manual hconverged hrest,
                Nat.succ_lt_succ hlength, ?_⟩
              rwa [hfirst.totals] at hfits
      · intro ⟨executions, hconverges, hlength, hfits⟩
        cases hconverges with
        | last hstep hconverged =>
            obtain ⟨st', round, hround, -, hfirst⟩ := FirstConvergence.of_step henv hmode hobserved
              hroom.one hstep ((stepFindings hstep).one hconverged) hfits
            refine .later hround ?_
            rcases hfirst.onward with ⟨-, hmetadata⟩ | ⟨hnot, -⟩
            · cases budget with
              | zero => exact absurd hlength (by simp)
              | succ left => exact .now hmetadata
            · exact absurd (hnot.symm.trans hconverged) (by simp)
        | @more _ _ execution rest hstep hmanual hconverged hrest =>
            have hsum : ((rest.map SelectedRootUnifiedConvergenceExecution.toConvergenceTotals).foldl
                ConvergenceTotals.add
                (st.run.toConvergenceTotals.add execution.toConvergenceTotals)).Fits := hfits
            obtain ⟨st', round, hround, hstate, hfirst⟩ := FirstConvergence.of_step henv hmode hobserved
              hroom.one hstep hmanual hsum.of_foldl
            refine .later hround ?_
            rcases hfirst.onward with ⟨hidle, -⟩ | ⟨-, hmode', hobserved'⟩
            · exact absurd (hconverged.symm.trans hidle) (by simp)
            · refine (ih hmode' hobserved' (hfirst.room _ hroom)).mpr ⟨_, hstate ▸ hrest,
                Nat.lt_of_succ_lt_succ hlength, ?_⟩
              rwa [hfirst.totals]

theorem startRun_stable (henv : env.mode = .receiveOnly) (hstable : env.metadataStable s = true)
    {plan : ReceiveOnlyConvergencePlan} (hplan : env.planConvergence s = .ok plan) :
    ∃ st, startRun env s = .ok st ∧ st.state = s ∧
      st.run.maxRounds = supervisedReceiveOnlyRunMaxRounds ∧ HasRoom st.run 8 ∧
      st.run.toConvergenceTotals = .zero ∧
      (plan.actionCount = 0 ∧ st.mode = .metadata ∨ plan.actionCount ≠ 0 ∧ st.mode = .convergence ∧
        st.metadataObservationStarted = false) := by
  have hactions : startActions env s = .ok plan.actionCount := by
    rw [startActions, if_pos hstable, hplan]
    rfl
  obtain ⟨⟨hsnapshot, hcatchup⟩, hwindow⟩ := by
    simpa [ReceiveOnlyEnvironment.metadataStable] using hstable
  have hmode : classifySelectedRootReceiveOnlyRunStart
      (env.store s).remoteInventoryState.snapshotComplete
      (env.store s).remoteInventoryState.catchupComplete (env.windowComplete s).isSome
      plan.actionCount = if plan.actionCount = 0 then .metadata else .convergence := by
    rw [classifySelectedRootReceiveOnlyRunStart, hsnapshot, hcatchup, hwindow]
    by_cases hzero : plan.actionCount = 0 <;> simp [hzero]
  have hphase : planSelectedRootReceiveOnlyCycleMetadataPhase env s = .ok (env.metadataPhase s) :=
    (refuseIf_bind_eq_ok _ _ _ _).mpr ⟨by simp [henv], rfl⟩
  have hallowed : refuseIf (env.mode != .receiveOnly)
      SelectedRootExecutorError.receiveOnlyCycleModeUnsupported = .ok () :=
    (refuseIf_eq_ok _ _ _).mpr (by simp [henv])
  unfold startRun
  rw [hallowed, ok_bind, hactions, ok_bind]
  dsimp only
  rw [hmode, hphase, ok_bind]
  refine ⟨_, rfl, rfl, rfl, ⟨by simp, by simp, by simp⟩, rfl, ?_⟩
  by_cases hzero : plan.actionCount = 0
  · exact Or.inl ⟨hzero, if_pos hzero⟩
  · exact Or.inr ⟨hzero, if_neg hzero, by simp [hzero]⟩

theorem startRun_of_error (henv : env.mode = .receiveOnly) (hstable : env.metadataStable s = true)
    {error : SelectedRootExecutorError} (hplan : env.planConvergence s = .error error) :
    startRun env s = .error error := by
  have hallowed : refuseIf (env.mode != .receiveOnly)
      SelectedRootExecutorError.receiveOnlyCycleModeUnsupported = .ok () :=
    (refuseIf_eq_ok _ _ _).mpr (by simp [henv])
  have hactions : startActions env s = .error error := by
    rw [startActions, if_pos hstable, hplan]
    rfl
  unfold startRun
  rw [hallowed, ok_bind, hactions]
  rfl

theorem metadataPhase_stable (hstable : env.metadataStable s = true) :
    env.metadataPhase s = .collectChangePage := by
  obtain ⟨⟨hsnapshot, -⟩, hwindow⟩ := by
    simpa [ReceiveOnlyEnvironment.metadataStable] using hstable
  rw [ReceiveOnlyEnvironment.metadataPhase, hsnapshot, hwindow]
  rfl

/-- A round of convergence alone ends the run on a plan that is blocked. -/
theorem executeRounds_blocked {st : ReceiveOnlyRunState σ} (hmode : st.mode = .convergence)
    (hroom : HasRoom st.run 1) {plan : ReceiveOnlyConvergencePlan}
    (hplan : env.planConvergence st.state = .ok plan) (hblocked : plan.blocked = true) (budget : ℕ) :
    executeRounds env (budget + 1) st = .error .unifiedConvergenceBlocked := by
  have hstep : executeSelectedRootUnifiedConvergenceStep env true st.state
      = .error .unifiedConvergenceBlocked := by
    rw [executeSelectedRootUnifiedConvergenceStep, hplan, ok_bind,
      decideSelectedRootUnifiedConvergenceStep, if_pos hblocked]
    rfl
  have hround : executeRound env st = .error .unifiedConvergenceBlocked := by
    rw [executeRound, checkedCount_eq_ok_iff.mpr ⟨hroom.executed, rfl⟩, ok_bind, hmode]
    dsimp only
    rw [hstep]
    rfl
  rw [executeRounds, hround]
  rfl

/-- **When a run observes metadata.** A run on a stable root executes a round of metadata just when the
    plan it starts from can be made, and is empty or carried out by rounds of convergence with one to spare.
    A planner that refuses the root ends the run with its error, and so does a plan that is blocked. -/
theorem metadata_observed_iff (env : ReceiveOnlyEnvironment σ) (s : σ)
    (henv : env.mode = .receiveOnly) (hstable : env.metadataStable s = true) :
    (ObservesMetadata env s ↔ ∃ plan, env.planConvergence s = .ok plan ∧
      (plan.actionCount = 0 ∧ env.metadataPhase s = .collectChangePage ∨
        ∃ executions, ConvergesBy env s executions ∧
          executions.length < supervisedReceiveOnlyRunMaxRounds ∧
          ((executions.map SelectedRootUnifiedConvergenceExecution.toConvergenceTotals).foldl
            ConvergenceTotals.add .zero).Fits)) ∧
      (∀ error, env.planConvergence s = .error error →
        executeSelectedRootReceiveOnlyRunToIdle env s = .error error) ∧
      ∀ plan, env.planConvergence s = .ok plan → plan.blocked = true → plan.actionCount ≠ 0 →
        executeSelectedRootReceiveOnlyRunToIdle env s = .error .unifiedConvergenceBlocked := by
  refine ⟨⟨fun ⟨st, hst, hstarts⟩ => ?_, fun ⟨plan, hplan, hway⟩ => ?_⟩, fun error hplan => ?_,
    fun plan hplan hblocked hactions => ?_⟩
  · cases hplan : env.planConvergence s with
    | error error => cases (startRun_of_error henv hstable hplan).symm.trans hst
    | ok plan =>
        obtain ⟨st', hst', rfl, hmax, hroom, hzero, hcase⟩ := startRun_stable henv hstable hplan
        obtain rfl := Except.ok.inj (hst'.symm.trans hst)
        refine ⟨plan, rfl, ?_⟩
        rcases hcase with ⟨hempty, -⟩ | ⟨-, hmode, hobserved⟩
        · exact Or.inl ⟨hempty, metadataPhase_stable hstable⟩
        · rw [hmax] at hstarts
          rw [← hzero]
          exact Or.inr ((startsMetadata_iff henv hmode hobserved hroom).mp hstarts)
  · obtain ⟨st, hst, rfl, hmax, hroom, hzero, hcase⟩ := startRun_stable henv hstable hplan
    refine ⟨st, hst, ?_⟩
    rw [hmax]
    rcases hcase with ⟨-, hmode⟩ | ⟨hactions, hmode, hobserved⟩
    · exact .now hmode
    · rw [← hzero] at hway
      exact (startsMetadata_iff henv hmode hobserved hroom).mpr
        (hway.resolve_left fun hempty => hactions hempty.1)
  · rw [executeSelectedRootReceiveOnlyRunToIdle, startRun_of_error henv hstable hplan]
    rfl
  · obtain ⟨st, hst, rfl, hmax, hroom, -, hcase⟩ := startRun_stable henv hstable hplan
    have hmode := hcase.resolve_left fun hempty => hactions hempty.1
    rw [executeSelectedRootReceiveOnlyRunToIdle, hst, ok_bind, hmax]
    exact executeRounds_blocked hmode.2.1 hroom.one hplan hblocked _

end Steps

/-! A root whose catalog and tree are empty, and a provider with one page without changes. -/

/-- A root with a snapshot of the items and a catch-up of no changes. -/
def caughtUp (items : List RemoteItem) : List RootOperation :=
  [.inventory (.stageItems items), .inventory (.commitSnapshot (.ofChar '0')),
    .inventory (.stageWindowPage (.ofChar '0') none ⟨[], none, some (.ofChar '1')⟩),
    .inventory (.commitWindow (.ofChar '0') (.ofChar '1') 0 [])]

/-- The environment of a root whose provider has one more page without changes, and whose tree is
    empty. -/
def quietEnvironment : ReceiveOnlyEnvironment RootStore where
  mode := .receiveOnly
  store s := s
  scanSelectedRootLocalTree _ := .ok []
  bootstrapSnapshot _ := .error .drive
  collectChangeWindowPage s := do
    let (s, window) ← fromStorage (s.stageChangeWindowPage (.ofChar '1') none
      ⟨[], none, some (.ofChar '2')⟩)
    .ok (s, window.collection)
  executeCompletedChangeWindow s := do
    let (s, _) ← fromStorage (s.commitCatalogChangeWindow (.ofChar '1') (.ofChar '2') 0 [])
    .ok (s, ⟨0, 0, 0, 0, 0, false⟩)
  executePhase _ _ := .error .drive

/-- The run collects the page, executes the window and finds the root idle. -/
theorem run_report_quiet :
    ∃ (s s' : RootStore) (run : SelectedRootReceiveOnlyRunExecution)
      (rounds : List ReceiveOnlyRound),
      executeSelectedRootReceiveOnlyRunToIdle quietEnvironment s = .ok (s', run) ∧
      run.converged = true ∧ run.roundsExecuted = 2 ∧
      RunAccount quietEnvironment rounds s' run := by
  have hends : ∃ s ∈ ((caughtUp []).foldlM RootStore.apply (RootStore.new .receiveOnly)).toOption,
      ∃ r ∈ (executeSelectedRootReceiveOnlyRunToIdle quietEnvironment s).toOption,
        r.2.converged = true ∧ r.2.roundsExecuted = 2 := by
    decide +kernel
  obtain ⟨s, -, ⟨s', run⟩, hr, hconverged, hrounds⟩ := hends
  have hrun := toOption_eq_some_iff.mp hr
  obtain ⟨-, rounds, -, -, haccount⟩ := run_report quietEnvironment s s' run hrun
  exact ⟨s, s', run, rounds, hrun, hconverged, hrounds, haccount⟩

/-- The environment of a root that is still to be filled, whose executors do what is planned for a folder
    `d` with a file `f`. -/
def fillingEnvironment : ReceiveOnlyEnvironment (RootStore × List LocalTreeEntry) where
  mode := .receiveOnly
  store := Prod.fst
  scanSelectedRootLocalTree s := .ok s.2
  bootstrapSnapshot _ := .error .drive
  collectChangeWindowPage _ := .error .drive
  executeCompletedChangeWindow _ := .error .drive
  executePhase
    | .createDirectories, s => do
        let (store, recorded) ← fromStorage (s.1.recordDirectoryMaterializations [⟨['D'], ['d']⟩])
        .ok ((store, ⟨['d'], .directory, .refl true⟩ :: s.2), ⟨1, 0, recorded⟩)
    | .materializeMissingFiles, s => do
        let (store, recorded) ← fromStorage
          (s.1.recordFileMaterializations [⟨['F'], ['d', '/', 'f'], 3, List.replicate 64 '0'⟩])
        .ok ((store, ⟨['d', '/', 'f'], .file, .refl true⟩ :: s.2), ⟨1, 3, recorded⟩)
    | _, _ => .error .drive

/-- A root that lacks a folder and the file in it comes to a round of metadata after two rounds of
    convergence. -/
theorem metadata_observed_filled :
    ∃ (s : RootStore × List LocalTreeEntry) (plan : ReceiveOnlyConvergencePlan),
      fillingEnvironment.metadataStable s = true ∧
      fillingEnvironment.planConvergence s = .ok plan ∧ plan.actionCount = 2 ∧
      ObservesMetadata fillingEnvironment s := by
  have hfills : ∃ store ∈ ((caughtUp [⟨['D'], some ['0'], ['d'], .folder, none, none, false⟩,
        ⟨['F'], some ['D'], ['f'], .file, some 3, none, false⟩]).foldlM RootStore.apply
          (RootStore.new .receiveOnly)).toOption,
      fillingEnvironment.metadataStable (store, []) = true ∧
      ∃ plan ∈ (fillingEnvironment.planConvergence (store, [])).toOption, plan.actionCount = 2 ∧
      ∃ first ∈ (executeSelectedRootUnifiedConvergenceStep fillingEnvironment true (store, [])).toOption,
        first.2.manualInterventionRequired = false ∧ first.2.converged = false ∧
      ∃ second ∈ (executeSelectedRootUnifiedConvergenceStep fillingEnvironment true first.1).toOption,
        second.2.converged = true ∧
        ((ConvergenceTotals.zero.add first.2.toConvergenceTotals).add
          second.2.toConvergenceTotals).Fits := by
    decide +kernel
  obtain ⟨store, -, hstable, plan, hplan, hactions, ⟨s₁, first⟩, hfirst, hmanual, hmore, ⟨s₂, second⟩,
    hsecond, hconverged, hfits⟩ := hfills
  have hplanned := toOption_eq_some_iff.mp hplan
  refine ⟨(store, []), plan, hstable, hplanned, hactions,
    (metadata_observed_iff fillingEnvironment (store, []) rfl hstable).1.mpr ⟨plan, hplanned, .inr ?_⟩⟩
  have hlast := ConvergesBy.last (toOption_eq_some_iff.mp hsecond) hconverged
  exact ⟨[first, second], .more (toOption_eq_some_iff.mp hfirst) hmanual hmore hlast,
    by simp [supervisedReceiveOnlyRunMaxRounds], hfits⟩

/-- Two files of one name in the folder of the root. -/
def twinItems : List RemoteItem :=
  [⟨['2'], some ['0'], ['a'], .file, some 1, none, false⟩,
    ⟨['3'], some ['0'], ['a'], .file, some 1, none, false⟩]

/-- With two siblings of one name in the catalog, and an empty tree, no run comes to a round of metadata:
    the planner's error ends it, whatever the provider has to say. -/
theorem twin_siblings_never_observed :
    ∃ store : RootStore, (caughtUp twinItems).foldlM RootStore.apply (RootStore.new .receiveOnly)
        = .ok store ∧
      ∀ (σ : Type) (env : ReceiveOnlyEnvironment σ) (s : σ), env.mode = .receiveOnly →
        env.store s = store → env.scanSelectedRootLocalTree s = .ok [] →
        env.metadataStable s = true ∧ ¬ ObservesMetadata env s ∧
          executeSelectedRootReceiveOnlyRunToIdle env s
            = .error (.convergencePlan (.materialization .duplicateSiblingName)) := by
  have hends : ∃ store ∈
      ((caughtUp twinItems).foldlM RootStore.apply (RootStore.new .receiveOnly)).toOption,
      (store.remoteInventoryState = ⟨true, true⟩ ∧ store.windowState.isNone = true) ∧
        planSelectedRootReceiveOnlyConvergence store .receiveOnly (.ok [])
          = .error (.convergencePlan (.materialization .duplicateSiblingName)) := by
    decide +kernel
  obtain ⟨store, hstore, ⟨hinventory, hwindow⟩, hrefused⟩ := hends
  refine ⟨store, toOption_eq_some_iff.mp hstore, fun σ env s henv hs hscan => ?_⟩
  have hstable : env.metadataStable s = true := by
    rw [ReceiveOnlyEnvironment.metadataStable, ReceiveOnlyEnvironment.windowComplete, hs, hinventory]
    simpa using hwindow
  have hplan : env.planConvergence s =
      .error (.convergencePlan (.materialization .duplicateSiblingName)) := by
    rw [ReceiveOnlyEnvironment.planConvergence, henv, hs, hscan]
    exact hrefused
  have hstart := startRun_of_error henv hstable hplan
  refine ⟨hstable, fun ⟨st, hst, _⟩ => ?_, ?_⟩
  · cases hstart.symm.trans hst
  · rw [executeSelectedRootReceiveOnlyRunToIdle, hstart]
    rfl

end NubiSync
