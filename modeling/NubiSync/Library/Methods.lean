import NubiSync.Library.Checks
import NubiSync.Library.Transactions

set_option autoImplicit false

/-! # Methods that keep their state when they throw

A method on an object changes it step by step, and what it has changed stays changed when a later step
fails: an `EStateM`. The steps of a method are evaluated one after the other (`bind_of_ok` and the
lemmas beside it), or what it ensures is derived from what they ensure (`Meets`), of the state it returns
with as well as of the one it throws with. A loop that may never end runs on fuel (`untilDone`); it ends
when each round uses up something there is a bound on. -/

namespace Methods

open Checks Transactions

variable {ε σ α β : Type}

/-! ## Evaluating -/

theorem bind_of_ok {first : EStateM ε σ α} {next : α → EStateM ε σ β} {before after : σ} {a : α}
    (h : first before = .ok a after) : (first >>= next) before = next a after := by
  simp [bind, EStateM.bind, h]

theorem bind_of_error {first : EStateM ε σ α} {next : α → EStateM ε σ β} {before after : σ}
    {error : ε} (h : first before = .error error after) :
    (first >>= next) before = .error error after := by
  simp [bind, EStateM.bind, h]

theorem get_bind_apply (next : σ → EStateM ε σ β) (state : σ) :
    ((get : EStateM ε σ σ) >>= next) state = next state state := rfl

theorem set_bind_apply (after state : σ) (next : PUnit → EStateM ε σ β) :
    ((set after : EStateM ε σ PUnit) >>= next) state = next ⟨⟩ after := rfl

theorem modify_bind_apply (f : σ → σ) (next : PUnit → EStateM ε σ β) (state : σ) :
    ((modify f : EStateM ε σ PUnit) >>= next) state = next ⟨⟩ (f state) := rfl

theorem ofExcept_bind_of_ok {x : Except ε α} {a : α} (h : x = .ok a) (next : α → EStateM ε σ β)
    (state : σ) : ((ofExcept x : EStateM ε σ α) >>= next) state = next a state := by
  rw [h]
  rfl

theorem ofExcept_bind_of_error {x : Except ε α} {error : ε} (h : x = .error error)
    (next : α → EStateM ε σ β) (state : σ) :
    ((ofExcept x : EStateM ε σ α) >>= next) state = .error error state := by
  rw [h]
  rfl

theorem check_bind_apply {refused : Bool} (h : refused = false) (error : ε)
    (next : Unit → EStateM ε σ β) (state : σ) :
    ((ofExcept (refuseIf refused error) : EStateM ε σ Unit) >>= next) state = next () state :=
  ofExcept_bind_of_ok (by rw [h]; rfl) next state

theorem present_bind_apply {found : Option α} {a : α} (h : found = some a) (error : ε)
    (next : α → EStateM ε σ β) (state : σ) :
    ((ofExcept (orRefuse found error) : EStateM ε σ α) >>= next) state = next a state :=
  ofExcept_bind_of_ok (by rw [h]; rfl) next state

theorem pure_apply (a : α) (state : σ) : (pure a : EStateM ε σ α) state = .ok a state := rfl

/-! ## What stays as it was -/

/-- The state a method leaves, whether it returns or throws. -/
def stateAfter (method : EStateM ε σ α) (state : σ) : σ :=
  match method state with
  | .ok _ after => after
  | .error _ after => after

/-- A method leaves a view of its state as it was, also when it throws. -/
def Leaves {τ : Type} (view : σ → τ) (method : EStateM ε σ α) : Prop :=
  ∀ state, view (stateAfter method state) = view state

section Leaves

variable {τ : Type} {view : σ → τ}

theorem Leaves.bind {first : EStateM ε σ α} {next : α → EStateM ε σ β} (hfirst : Leaves view first)
    (hnext : ∀ a, Leaves view (next a)) : Leaves view (first >>= next) := by
  intro state
  have hstate := hfirst state
  cases hresult : first state with
  | ok a after =>
      have hafter := hnext a after
      simp only [stateAfter, hresult] at hstate hafter ⊢
      rw [bind_of_ok hresult, hafter, hstate]
  | error error after =>
      simp only [stateAfter, hresult] at hstate ⊢
      rw [bind_of_error hresult, hstate]

theorem Leaves.get : Leaves view (MonadState.get : EStateM ε σ σ) := fun _ => rfl

theorem Leaves.modify {f : σ → σ} (hf : ∀ state, view (f state) = view state) :
    Leaves view (modify f : EStateM ε σ PUnit) := hf

theorem Leaves.ofExcept (x : Except ε α) : Leaves view (ofExcept x : EStateM ε σ α) := by
  intro state
  cases x <;> rfl

end Leaves

/-! ## What a method ensures -/

/-- From a state on, a method returns as `Q` says or throws as `E` says. -/
def Meets (method : EStateM ε σ α) (state : σ) (Q : α → σ → Prop) (E : ε → σ → Prop) : Prop :=
  match method state with
  | .ok a after => Q a after
  | .error error after => E error after

section Meets

variable {state : σ} {Q : α → σ → Prop} {R : β → σ → Prop} {E : ε → σ → Prop}

theorem Meets.mono {method : EStateM ε σ α} {Q' : α → σ → Prop} {E' : ε → σ → Prop}
    (h : Meets method state Q E) (hQ : ∀ a after, Q a after → Q' a after)
    (hE : ∀ error after, E error after → E' error after) : Meets method state Q' E' := by
  unfold Meets at h ⊢
  split at h
  · exact hQ _ _ h
  · exact hE _ _ h

theorem Meets.bind {first : EStateM ε σ α} {next : α → EStateM ε σ β}
    (h : Meets first state (fun a after => Meets (next a) after R E) E) :
    Meets (first >>= next) state R E := by
  cases hfirst : first state with
  | ok a after =>
      rw [Meets, hfirst] at h
      rwa [Meets, bind_of_ok hfirst]
  | error error after =>
      rw [Meets, hfirst] at h
      rwa [Meets, bind_of_error hfirst]

/-- One step after another that is known to meet its part. -/
theorem Meets.andThen {first : EStateM ε σ α} {next : α → EStateM ε σ β} (h : Meets first state Q E)
    (hnext : ∀ a after, Q a after → Meets (next a) after R E) : Meets (first >>= next) state R E :=
  .bind (h.mono hnext fun _ _ herror => herror)

theorem Meets.pure {a : α} (h : Q a state) : Meets (pure a) state Q E := h

theorem Meets.throw {error : ε} (h : E error state) :
    Meets (throw error : EStateM ε σ α) state Q E := h

theorem Meets.get {Q : σ → σ → Prop} (h : Q state state) : Meets MonadState.get state Q E := h

theorem Meets.modify {f : σ → σ} {Q : PUnit → σ → Prop} (h : Q ⟨⟩ (f state)) :
    Meets (modify f) state Q E := h

theorem Meets.ofExcept {x : Except ε α} (hok : ∀ a, x = .ok a → Q a state)
    (herror : ∀ error, x = .error error → E error state) : Meets (ofExcept x) state Q E := by
  cases x with
  | ok a => exact hok a rfl
  | error error => exact herror error rfl

end Meets

-- what a method returns from a given state can be evaluated
instance decidableReturns (method : EStateM ε σ α) (state : σ) (Q : α → σ → Prop)
    [∀ a after, Decidable (Q a after)] : Decidable (∃ a after, method state = .ok a after ∧ Q a after) :=
  match h : method state with
  | .ok a after => decidable_of_iff (Q a after) (by simp)
  | .error _ _ => isFalse (by simp)

instance decidableThrows (method : EStateM ε σ α) (state : σ) (E : ε → σ → Prop)
    [∀ error after, Decidable (E error after)] :
    Decidable (∃ error after, method state = .error error after ∧ E error after) :=
  match h : method state with
  | .ok _ _ => isFalse (by simp)
  | .error error after => decidable_of_iff (E error after) (by simp)

/-! ## Loops -/

/-- `while !done { body }`, of at most so many rounds. -/
def untilDone (done : σ → Bool) (body : EStateM (Halt ε) σ Unit) : ℕ → EStateM (Halt ε) σ Unit
  | 0 => throw .unending
  | fuel + 1 => do
      if done (← get) then pure ()
      else
        body
        untilDone done body fuel

/-- **A loop ends** whose rounds keep an invariant and use up something that the invariant bounds. -/
theorem Meets.untilDone {done : σ → Bool} {body : EStateM (Halt ε) σ Unit} {I : σ → Prop}
    {E : Halt ε → σ → Prop} {spent : σ → ℕ} {bound : ℕ} (hbound : ∀ state, I state → spent state ≤ bound)
    (hbody : ∀ state, I state → done state = false →
      Meets body state (fun _ after => I after ∧ spent state < spent after) E)
    {fuel : ℕ} {state : σ} (hstate : I state) (hfuel : bound < fuel + spent state) :
    Meets (Methods.untilDone done body fuel) state (fun _ after => I after ∧ done after = true) E := by
  induction fuel generalizing state with
  | zero =>
      have := hbound state hstate
      omega
  | succ fuel ih =>
      refine .bind (.get ?_)
      by_cases hdone : done state = true
      · rw [if_pos hdone]
        exact .pure ⟨hstate, hdone⟩
      · rw [if_neg hdone]
        refine .bind ((hbody state hstate (by simpa using hdone)).mono ?_ fun _ _ h => h)
        rintro ⟨⟩ after ⟨hafter, hspent⟩
        exact ih hafter (by omega)

end Methods
