import NubiSync.Library.Checks

set_option autoImplicit false

/-! # Runs of a guarded machine

A machine is a partial step function on states and labels. A run takes steps whose labels are
`allowed` in the state they are taken in; `Run.invariant` packages the induction every safety result
uses: what holds at the start and is kept by every allowed step holds in every state of the run. -/

namespace Machine

variable {σ α : Type}

/-- The states a run from `start` reaches by allowed steps. -/
inductive Run (step : σ → α → σ → Prop) (allowed : σ → α → Prop) (start : σ) : σ → Prop where
  | refl : Run step allowed start start
  | tail {middle last : σ} (label : α) : Run step allowed start middle → allowed middle label →
      step middle label last → Run step allowed start last

variable {step : σ → α → σ → Prop} {allowed : σ → α → Prop} {start last : σ}

/-- **The invariant rule.** -/
theorem Run.invariant {P : σ → Prop} (h : Run step allowed start last) (hstart : P start)
    (hstep : ∀ s label s', P s → allowed s label → step s label s' → P s') : P last := by
  induction h with
  | refl => exact hstart
  | tail label _ hallowed hlast ih => exact hstep _ label _ ih hallowed hlast

/-- A run under a guard is a run under a weaker one. -/
theorem Run.mono {weaker : σ → α → Prop} (hweaker : ∀ s label, allowed s label → weaker s label)
    (h : Run step allowed start last) : Run step weaker start last := by
  induction h with
  | refl => exact .refl
  | tail label _ hallowed hlast ih => exact ih.tail label (hweaker _ label hallowed) hlast

theorem Run.trans {middle : σ} (h : Run step allowed start middle)
    (h' : Run step allowed middle last) : Run step allowed start last := by
  induction h' with
  | refl => exact h
  | tail label _ hallowed hlast ih => exact ih.tail label hallowed hlast

/-- A loop that succeeds is a run, if each round of it that succeeds is an allowed step. -/
theorem Run.of_rounds {ε : Type} {f : σ → α → Except ε σ} {labels : List α}
    (hround : ∀ label ∈ labels, ∀ s s', f s label = .ok s' → allowed s label ∧ step s label s')
    (h : labels.foldlM f start = .ok last) : Run step allowed start last := by
  induction labels generalizing start with
  | nil =>
      obtain rfl := Except.ok.inj h
      exact .refl
  | cons label rest ih =>
      rw [List.foldlM_cons, Checks.bind_eq_ok] at h
      obtain ⟨middle, hfirst, hrest⟩ := h
      obtain ⟨hlabel, hothers⟩ := List.forall_mem_cons.mp hround
      obtain ⟨hallowed, hstep⟩ := hlabel start middle hfirst
      exact Run.trans (Run.refl.tail label hallowed hstep) (ih hothers hrest)

/-- A loop that succeeds is a run, if each label of it is allowed in every state. -/
theorem Run.of_foldlM {ε : Type} {f : σ → α → Except ε σ} {labels : List α}
    (hallowed : ∀ label ∈ labels, ∀ s, allowed s label)
    (h : labels.foldlM f start = .ok last) :
    Run (fun s label s' => f s label = .ok s') allowed start last :=
  Run.of_rounds (fun label hlabel s _ hstep => ⟨hallowed label hlabel s, hstep⟩) h

/-- A loop that also checks its guard is a run under the guard. -/
theorem Run.of_guarded {ε : Type} [∀ s label, Decidable (allowed s label)] {f : σ → α → Except ε σ}
    {e : ε} {labels : List α}
    (h : labels.foldlM (fun s label => do
      Checks.refuseIf (!decide (allowed s label)) e
      f s label) start = .ok last) :
    Run (fun s label s' => f s label = .ok s') allowed start last := by
  refine Run.of_rounds (fun label _ s s' hround => ?_) h
  obtain ⟨hallowed, hstep⟩ := (Checks.refuseIf_bind_eq_ok _ _ _ _).mp hround
  exact ⟨by simpa using hallowed, hstep⟩

end Machine
