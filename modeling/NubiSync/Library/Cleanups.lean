import Mathlib.Data.List.Induction
import NubiSync.Library.Methods

set_option autoImplicit false

/-! # Methods that clean up

A method that has changed something and then fails undoes the change before it throws (`orCleanUp`); when
the undoing fails as well, that error is thrown and the change stays. `Triple` says what a method does of
a view of its state. A batch undoes what it has completed, the last first (`undoAll`), and a failure
leaves what was there before or is among the few that do not (`Fails`). -/

namespace Methods

open Checks

variable {ε σ τ α β γ : Type}

/-! ## Triples -/

/-- From every state whose view is as `P` says, a method returns as `Q` says or throws as `E` says, of
    the view it leaves. -/
def Triple (view : σ → τ) (P : τ → Prop) (method : EStateM ε σ α) (Q : α → τ → Prop)
    (E : ε → τ → Prop) : Prop :=
  ∀ state, P (view state) →
    Meets method state (fun a after => Q a (view after)) fun error after => E error (view after)

section Triple

variable {view : σ → τ} {P P' : τ → Prop} {Q Q' : α → τ → Prop} {R : β → τ → Prop}
  {E E' : ε → τ → Prop}

theorem Triple.bind {first : EStateM ε σ α} {next : α → EStateM ε σ β}
    (hfirst : Triple view P first Q E) (hnext : ∀ a, Triple view (Q a) (next a) R E) :
    Triple view P (first >>= next) R E :=
  fun state h => (hfirst state h).andThen fun a after ha => hnext a after ha

theorem Triple.of_bind_pure {method : EStateM ε σ α} (h : Triple view P (method >>= Pure.pure) Q E) :
    Triple view P method Q E := by
  rwa [bind_pure] at h

theorem Triple.mono {method : EStateM ε σ α} (h : Triple view P method Q E) (hP : ∀ s, P' s → P s)
    (hQ : ∀ a s, Q a s → Q' a s) (hE : ∀ error s, E error s → E' error s) :
    Triple view P' method Q' E' :=
  fun state hstate => (h state (hP _ hstate)).mono (fun a _ => hQ a _) fun error _ => hE error _

theorem Triple.of_ok {method : EStateM ε σ α} {state after : σ} {a : α} (h : Triple view P method Q E)
    (hstate : P (view state)) (hresult : method state = .ok a after) : Q a (view after) := by
  have hmeets := h state hstate
  rwa [Meets, hresult] at hmeets

theorem Triple.of_error {method : EStateM ε σ α} {state after : σ} {error : ε}
    (h : Triple view P method Q E) (hstate : P (view state))
    (hresult : method state = .error error after) : E error (view after) := by
  have hmeets := h state hstate
  rwa [Meets, hresult] at hmeets

theorem Triple.pure {a : α} (h : ∀ s, P s → Q a s) : Triple view P (Pure.pure a) Q E :=
  fun _ hstate => h _ hstate

theorem Triple.throw {error : ε} (h : ∀ s, P s → E error s) :
    Triple view P (MonadExcept.throw error) Q E :=
  fun _ hstate => h _ hstate

theorem Triple.computed_bind {x : Except ε α} {next : α → EStateM ε σ β}
    (hnext : ∀ a, x = .ok a → Triple view P (next a) R E)
    (herror : ∀ error, x = .error error → ∀ s, P s → E error s) :
    Triple view P ((ofExcept x : EStateM ε σ α) >>= next) R E := by
  intro state hstate
  cases x with
  | ok a => exact hnext a rfl state hstate
  | error error => exact herror error rfl _ hstate

theorem Triple.check_bind {refused : Bool} {error : ε} {next : Unit → EStateM ε σ β}
    (hnext : refused = false → Triple view P (next ()) R E)
    (hrefused : refused = true → ∀ s, P s → E error s) :
    Triple view P ((ofExcept (refuseIf refused error) : EStateM ε σ Unit) >>= next) R E := by
  intro state hstate
  cases refused with
  | false => exact hnext rfl state hstate
  | true => exact hrefused rfl _ hstate

theorem Triple.present_bind {found : Option α} {error : ε} {next : α → EStateM ε σ β}
    (hnext : ∀ a, found = some a → Triple view P (next a) R E)
    (hmissing : found = none → ∀ s, P s → E error s) :
    Triple view P ((ofExcept (orRefuse found error) : EStateM ε σ α) >>= next) R E := by
  intro state hstate
  cases found with
  | some a => exact hnext a rfl state hstate
  | none => exact hmissing rfl _ hstate

theorem Triple.exists {ι : Sort*} {P : ι → τ → Prop} {method : EStateM ε σ α}
    (h : ∀ i, Triple view (P i) method Q E) : Triple view (fun s => ∃ i, P i s) method Q E := by
  rintro state ⟨i, hstate⟩
  exact h i state hstate

theorem Triple.or {method : EStateM ε σ α} (h : Triple view P method Q E)
    (h' : Triple view P' method Q E) : Triple view (fun s => P s ∨ P' s) method Q E := by
  rintro state (hstate | hstate)
  · exact h state hstate
  · exact h' state hstate

theorem Triple.fact {p : Prop} {method : EStateM ε σ α} (h : p → Triple view P method Q E) :
    Triple view (fun s => p ∧ P s) method Q E :=
  fun state hstate => h hstate.1 state hstate.2

end Triple

/-! ## Cleaning up -/

/-- `match body { Ok(value) => value, Err(error) => { cleanup?; return Err(error) } }`. -/
def orCleanUp (body : EStateM ε σ α) (cleanup : EStateM ε σ Unit) : EStateM ε σ α :=
  tryCatch body fun error => do
    cleanup
    throw error

/-- `if refused { cleanup?; return Err(error) }`. -/
def refuseAfter (refused : Bool) (cleanup : EStateM ε σ Unit) (error : ε) : EStateM ε σ Unit :=
  if refused then do
    cleanup
    throw error
  else pure ()

/-- `body.map_err(|_| error)?`. -/
def orFail (body : EStateM ε σ α) (error : ε) : EStateM ε σ α :=
  tryCatch body fun _ => throw error

/-- `let _ = body;`. -/
def ignoreError (body : EStateM ε σ Unit) : EStateM ε σ Unit :=
  tryCatch body fun _ => pure ()

theorem orCleanUp_of_ok {body : EStateM ε σ α} {cleanup : EStateM ε σ Unit} {before after : σ} {a : α}
    (h : body before = .ok a after) : orCleanUp body cleanup before = .ok a after := by
  simp [orCleanUp, tryCatch, tryCatchThe, MonadExceptOf.tryCatch, EStateM.tryCatch, h]

theorem orCleanUp_of_error {body : EStateM ε σ α} {cleanup : EStateM ε σ Unit} {before after : σ}
    {error : ε} (h : body before = .error error after) :
    orCleanUp body cleanup before = (cleanup >>= fun _ => MonadExcept.throw error) after := by
  simp only [orCleanUp, tryCatch, tryCatchThe, MonadExceptOf.tryCatch, EStateM.tryCatch, h]
  rfl

section Cleanup

variable {view : σ → τ} {P : τ → Prop} {Q : α → τ → Prop} {R : β → τ → Prop} {E F : ε → τ → Prop}

/-- What the body throws is thrown again, from what the cleanup leaves. -/
theorem Triple.orCleanUp {body : EStateM ε σ α} {cleanup : EStateM ε σ Unit}
    (hbody : Triple view P body Q F)
    (hcleanup : ∀ error, Triple view (F error) cleanup (fun _ => E error) E) :
    Triple view P (orCleanUp body cleanup) Q E := by
  intro state hstate
  have hmeets := hbody state hstate
  cases hrun : body state with
  | ok a after =>
      rw [Meets, hrun] at hmeets
      rw [Meets, orCleanUp_of_ok hrun]
      exact hmeets
  | error error after =>
      rw [Meets, hrun] at hmeets
      have hthrow : Triple view (F error) (cleanup >>= fun _ => MonadExcept.throw error) Q E :=
        (hcleanup error).bind fun _ => .throw fun _ h => h
      rw [Meets, orCleanUp_of_error hrun]
      exact hthrow after hmeets

/-- Whatever the body throws, another error is thrown in its place. -/
theorem Triple.orFail {body : EStateM ε σ α} {error : ε} (hbody : Triple view P body Q F)
    (herror : ∀ thrown s, F thrown s → E error s) : Triple view P (orFail body error) Q E := by
  intro state hstate
  have hmeets := hbody state hstate
  unfold Meets at hmeets ⊢
  simp only [Methods.orFail, tryCatch, tryCatchThe, MonadExceptOf.tryCatch, EStateM.tryCatch]
  cases hrun : body state with
  | ok a after =>
      rw [hrun] at hmeets
      exact hmeets
  | error thrown after =>
      rw [hrun] at hmeets
      exact herror thrown _ hmeets

/-- Whether the body throws or not, the method goes on. -/
theorem Triple.ignoreError {body : EStateM ε σ Unit} {S : τ → Prop}
    (hbody : Triple view P body (fun _ => S) fun _ => S) :
    Triple view P (ignoreError body) (fun _ => S) E := by
  intro state hstate
  have hmeets := hbody state hstate
  unfold Meets at hmeets ⊢
  simp only [Methods.ignoreError, tryCatch, tryCatchThe, MonadExceptOf.tryCatch, EStateM.tryCatch]
  cases hrun : body state with
  | ok a after =>
      rw [hrun] at hmeets
      exact hmeets
  | error thrown after =>
      rw [hrun] at hmeets
      exact hmeets

theorem Triple.refuseAfter_bind {refused : Bool} {cleanup : EStateM ε σ Unit} {error : ε}
    {next : Unit → EStateM ε σ β} (hnext : refused = false → Triple view P (next ()) R E)
    (hcleanup : refused = true → Triple view P cleanup (fun _ => E error) E) :
    Triple view P (refuseAfter refused cleanup error >>= next) R E := by
  cases refused with
  | false => exact hnext rfl
  | true =>
      refine Triple.bind (Q := fun _ _ => False) ?_ fun _ _ h => h.elim
      exact (hcleanup rfl).bind fun _ => .throw fun _ h => h

end Cleanup

/-! ## Undoing a batch -/

/-- Undo what was completed, the last first. -/
def undoAll (undo : β → EStateM ε σ Unit) (completed : List β) : EStateM ε σ Unit :=
  completed.reverse.forM undo

section Batch

variable {view : σ → τ} {E : ε → τ → Prop}

/-- **Undoing a batch**, by recursion on what is still to be undone: where every item can be undone that
    was completed last, nothing of the batch is left. -/
theorem Triple.undoAll {undo : β → EStateM ε σ Unit} {I : List β → τ → Prop} {completed : List β}
    (hundo : ∀ before item after, completed = before ++ item :: after →
      Triple view (I (before ++ [item])) (undo item) (fun _ => I before) E) :
    Triple view (I completed) (undoAll undo completed) (fun _ => I []) E := by
  unfold Methods.undoAll
  induction completed using List.reverseRecOn with
  | nil => exact .pure fun _ h => h
  | append_singleton before item ih =>
      rw [List.reverse_append, List.reverse_singleton, List.singleton_append]
      change Triple view _ (undo item >>= fun _ => before.reverse.forM undo) _ _
      refine (hundo before item [] rfl).bind fun _ => ih fun front other back heq => ?_
      exact hundo front other (back ++ [item]) (by rw [heq]; simp)

/-- Changes of something, one after the other. -/
inductive Changes {ν : Type} (change : β → ν → ν → Prop) (start : ν) : List β → ν → Prop
  | nil : Changes change start [] start
  | concat {completed : List β} {s t : ν} {item : β} :
      Changes change start completed s → change item s t → Changes change start (completed ++ [item]) t

section Changes

variable {ν : Type} {change : β → ν → ν → Prop} {start now : ν} {completed : List β} {item : β}

theorem Changes.nil_iff : Changes change start [] now ↔ now = start := by
  constructor
  · generalize hnil : ([] : List β) = completed
    intro h
    cases h with
    | nil => rfl
    | concat => simp at hnil
  · rintro rfl
    exact .nil

theorem Changes.concat_iff :
    Changes change start (completed ++ [item]) now ↔
      ∃ s, Changes change start completed s ∧ change item s now := by
  constructor
  · generalize hconcat : completed ++ [item] = all
    intro h
    cases h with
    | nil => simp at hconcat
    | @concat completed' s t item' hbefore hchange =>
        obtain ⟨rfl, hitem⟩ := List.append_inj' hconcat rfl
        obtain rfl : item = item' := by simpa using hitem
        exact ⟨_, hbefore, hchange⟩
  · rintro ⟨s, hbefore, hchange⟩
    exact hbefore.concat hchange

theorem Changes.cons {first : ν} (hitem : change item start first)
    (h : Changes change first completed now) : Changes change start (item :: completed) now := by
  induction h with
  | nil => exact Changes.concat .nil hitem
  | concat _ hchange ih => exact ih.concat hchange

theorem Changes.cons_iff :
    Changes change start (item :: completed) now ↔
      ∃ first, change item start first ∧ Changes change first completed now := by
  constructor
  · intro h
    induction completed using List.reverseRecOn generalizing now with
    | nil =>
        rw [← List.nil_append [item]] at h
        obtain ⟨s, hnil, hchange⟩ := Changes.concat_iff.mp h
        rw [Changes.nil_iff.mp hnil] at hchange
        exact ⟨now, hchange, .nil⟩
    | append_singleton before last ih =>
        rw [← List.cons_append] at h
        obtain ⟨s, hbefore, hchange⟩ := Changes.concat_iff.mp h
        obtain ⟨first, hfirst, hrest⟩ := ih hbefore
        exact ⟨first, hfirst, hrest.concat hchange⟩
  · rintro ⟨first, hfirst, hrest⟩
    exact .cons hfirst hrest

/-- What comes last and can be swapped with every change may as well come first. -/
theorem Changes.swap {own : ν → ν → Prop} {last : ν} (h : Changes change start completed now)
    (hswap : ∀ item ∈ completed, ∀ s t u, change item s t → own t u → ∃ t', own s t' ∧ change item t' u)
    (hown : own now last) : ∃ first, own start first ∧ Changes change first completed last := by
  induction h generalizing last with
  | nil => exact ⟨last, hown, .nil⟩
  | @concat before s t item _ hitem ih =>
      obtain ⟨t', hown, hitem⟩ := hswap item (by simp) s t last hitem hown
      obtain ⟨first, hfirst, hbefore⟩ :=
        ih (fun other hother => hswap other (List.mem_append_left _ hother)) hown
      exact ⟨first, hfirst, hbefore.concat hitem⟩

/-- Changes of a state that is seen through `f`. -/
theorem Changes.frame {f : ν → ν} {I : ν → Prop} (h : Changes change start completed now)
    (hstart : I start)
    (hstep : ∀ item ∈ completed, ∀ s t, I s → change item s t → I t ∧ change item (f s) (f t)) :
    I now ∧ Changes change (f start) completed (f now) := by
  induction h with
  | nil => exact ⟨hstart, .nil⟩
  | @concat before s t item _ hchange ih =>
      obtain ⟨hs, hbefore⟩ := ih fun other hother => hstep other (List.mem_append_left _ hother)
      obtain ⟨ht, hchange⟩ := hstep item (by simp) s t hs hchange
      exact ⟨ht, hbefore.concat hchange⟩

/-- What every change keeps, by recursion on the changes. -/
theorem Changes.keeps {I : ν → Prop} (h : Changes change start completed now) (hstart : I start)
    (hstep : ∀ item ∈ completed, ∀ s t, I s → change item s t → I t) : I now := by
  induction h with
  | nil => exact hstart
  | concat _ hchange ih =>
      refine hstep _ (by simp) _ _ (ih fun other hother => ?_) hchange
      exact hstep other (List.mem_append_left _ hother)

/-- **Undoing changes**: where each can be undone that was made last, all of them can. -/
theorem Triple.undoChanges {undo : β → EStateM ε σ Unit} {at_ : ν → τ → Prop}
    (hundo : ∀ before item s t, (∃ after, completed = before ++ item :: after) →
      Changes change start before s → change item s t →
      Triple view (at_ t) (undo item) (fun _ => at_ s) E) :
    Triple view (fun v => ∃ s, Changes change start completed s ∧ at_ s v)
      (Methods.undoAll undo completed) (fun _ => at_ start) E := by
  refine (Triple.undoAll (I := fun done v => ∃ s, Changes change start done s ∧ at_ s v)
    fun before item after hsplit => ?_).mono (fun _ h => h) (fun _ v h => ?_) fun _ _ h => h
  · refine .exists fun t => .fact fun hchanges => ?_
    obtain ⟨s, hbefore, hchange⟩ := Changes.concat_iff.mp hchanges
    exact (hundo before item s t ⟨after, hsplit⟩ hbefore hchange).mono (fun _ h => h)
      (fun _ v h => ⟨s, hbefore, h⟩) fun _ _ h => h
  · obtain ⟨s, hnil, hv⟩ := h
    rwa [← Changes.nil_iff.mp hnil]

end Changes

end Batch

/-! ## Failing -/

/-- A failure leaves what is clean, or its error is a leak and it leaves what is dirty. -/
def Fails (clean : τ → Prop) (leak : ε → Prop) (dirty : τ → Prop) (error : ε) (s : τ) : Prop :=
  clean s ∨ leak error ∧ dirty s

section Fails

variable {clean clean' dirty dirty' : τ → Prop} {leak leak' : ε → Prop} {error : ε} {s : τ}

theorem Fails.of_clean (h : clean s) : Fails clean leak dirty error s := .inl h

theorem Fails.of_dirty (hleak : leak error) (h : dirty s) : Fails clean leak dirty error s :=
  .inr ⟨hleak, h⟩

theorem Fails.mono (h : Fails clean leak dirty error s) (hclean : clean s → clean' s)
    (hleak : leak error → leak' error) (hdirty : dirty s → dirty' s) :
    Fails clean' leak' dirty' error s :=
  h.imp hclean fun hleaked => ⟨hleak hleaked.1, hdirty hleaked.2⟩

end Fails

end Methods
