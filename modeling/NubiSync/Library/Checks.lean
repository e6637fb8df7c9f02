import Mathlib.Logic.Basic

set_option autoImplicit false

/-! # Checked computations

Functions that return early on a failed check, written in `Except`. A success is read back as the
conjunction of its checks: `bind_eq_ok` takes one step off a computation, and the equations below
turn the steps into conditions. -/

namespace Checks

variable {ε α β : Type}

/-- `if refused { return Err(error) }`. -/
def refuseIf (refused : Bool) (error : ε) : Except ε Unit :=
  if refused then .error error else .ok ()

/-- `let Some(a) = a else { return Err(error) }`. -/
def orRefuse (a : Option α) (error : ε) : Except ε α :=
  match a with
  | some a => .ok a
  | none => .error error

theorem bind_eq_ok {x : Except ε α} {next : α → Except ε β} {b : β} :
    x >>= next = .ok b ↔ ∃ a, x = .ok a ∧ next a = .ok b := by
  cases x <;> simp [bind, Except.bind]

theorem toOption_eq_some_iff {x : Except ε α} {a : α} : x.toOption = some a ↔ x = .ok a := by
  cases x <;> simp [Except.toOption]

@[simp] theorem mapError_ok {ε' : Type} (f : ε → ε') (a : α) :
    (Except.ok a : Except ε α).mapError f = .ok a := rfl

@[simp] theorem mapError_error {ε' : Type} (f : ε → ε') (e : ε) :
    (Except.error e : Except ε α).mapError f = .error (f e) := rfl

@[simp] theorem mapError_eq_ok {ε' : Type} {f : ε → ε'} {x : Except ε α} {a : α} :
    x.mapError f = .ok a ↔ x = .ok a := by
  cases x <;> simp

@[simp] theorem ok_bind (a : α) (next : α → Except ε β) :
    ((Except.ok a : Except ε α) >>= next) = next a := rfl

/-- A result passed on with a value beside it. -/
theorem bind_beside_eq_ok {x : Except ε α} {b : β} {r : α × β} :
    (x >>= fun a => .ok (a, b)) = .ok r ↔ x = .ok r.1 ∧ r.2 = b := by
  cases x with
  | error e => simp [bind, Except.bind]
  | ok a => simp [Prod.ext_iff, eq_comm]

/-- Two programs that share their first step agree, up to a map of the results, when what follows it
    does. -/
theorem bind_eq_map_bind {γ : Type} {x : Except ε α} {f : α → Except ε γ} {g : α → Except ε β}
    {m : β → γ} (h : ∀ a, x = .ok a → f a = (g a).map m) : (x >>= f) = (x >>= g).map m := by
  cases x with
  | error e => rfl
  | ok a => exact h a rfl

@[simp] theorem refuseIf_eq_ok (refused : Bool) (error : ε) (u : Unit) :
    refuseIf refused error = .ok u ↔ refused = false := by
  cases refused <;> simp [refuseIf]

@[simp] theorem refuseIf_bind_eq_ok (refused : Bool) (error : ε) (next : Unit → Except ε α) (a : α) :
    (refuseIf refused error >>= next) = .ok a ↔ refused = false ∧ next () = .ok a := by
  cases refused <;> simp [refuseIf, bind, Except.bind]

@[simp] theorem orRefuse_eq_ok (a : Option α) (error : ε) (b : α) :
    orRefuse a error = .ok b ↔ a = some b := by
  cases a <;> simp [orRefuse]

@[simp] theorem orRefuse_bind_eq_ok (a : Option α) (error : ε) (next : α → Except ε β) (b : β) :
    (orRefuse a error >>= next) = .ok b ↔ ∃ x, a = some x ∧ next x = .ok b := by
  cases a <;> simp [orRefuse, bind, Except.bind]

/-! ## Postconditions -/

/-- What holds of the result whenever there is one. -/
def Ensures (x : Except ε α) (P : α → Prop) : Prop := ∀ a, x = .ok a → P a

theorem Ensures.ok {P : α → Prop} {a : α} (h : P a) : Ensures (Except.ok a : Except ε α) P := by
  intro b hb
  cases hb
  exact h

theorem Ensures.error {P : α → Prop} {e : ε} : Ensures (Except.error e) P := nofun

theorem Ensures.bind {P : α → Prop} {Q : β → Prop} {x : Except ε α} {next : α → Except ε β}
    (hx : Ensures x P) (hnext : ∀ a, P a → Ensures (next a) Q) : Ensures (x >>= next) Q := by
  intro b hb
  obtain ⟨a, ha, hb⟩ := bind_eq_ok.mp hb
  exact hnext a (hx a ha) b hb

/-- The sequencing rule for a step with its result. -/
theorem Ensures.step {Q : β → Prop} {x : Except ε α} {next : α → Except ε β}
    (hnext : ∀ a, x = .ok a → Ensures (next a) Q) : Ensures (x >>= next) Q :=
  .bind (P := (x = .ok ·)) (fun _ h => h) hnext

/-- The sequencing rule for a step whose result does not matter. -/
theorem Ensures.after {Q : β → Prop} {x : Except ε α} {next : α → Except ε β}
    (hnext : ∀ a, Ensures (next a) Q) : Ensures (x >>= next) Q :=
  fun _ hb => (bind_eq_ok.mp hb).elim fun a h => hnext a _ h.2

theorem Ensures.check {Q : α → Prop} {refused : Bool} {e : ε} {next : Unit → Except ε α}
    (hnext : refused = false → Ensures (next ()) Q) : Ensures (refuseIf refused e >>= next) Q :=
  fun _ h => hnext ((refuseIf_bind_eq_ok _ _ _ _).mp h).1 _ ((refuseIf_bind_eq_ok _ _ _ _).mp h).2

theorem Ensures.present {Q : β → Prop} {a : Option α} {e : ε} {next : α → Except ε β}
    (hnext : ∀ x, a = some x → Ensures (next x) Q) : Ensures (orRefuse a e >>= next) Q :=
  fun _ h => ((orRefuse_bind_eq_ok _ _ _ _).mp h).elim fun x hx => hnext x hx.1 _ hx.2

theorem Ensures.mono {P Q : α → Prop} {x : Except ε α} (hx : Ensures x P)
    (himp : ∀ a, P a → Q a) : Ensures x Q := fun a ha => himp a (hx a ha)

/-! ## Successes -/

/-- A computation that gives a result. -/
def Succeeds (x : Except ε α) : Prop := ∃ a, x = .ok a

theorem Succeeds.ok (a : α) : Succeeds (Except.ok a : Except ε α) := ⟨a, rfl⟩

theorem Succeeds.bind {x : Except ε α} {a : α} (hx : x = .ok a) {next : α → Except ε β}
    (hnext : Succeeds (next a)) : Succeeds (x >>= next) := by
  rw [hx]
  exact hnext

theorem Succeeds.check {refused : Bool} (hpasses : refused = false) {e : ε}
    {next : Unit → Except ε α} (hnext : Succeeds (next ())) :
    Succeeds (refuseIf refused e >>= next) := by
  rw [hpasses]
  exact hnext

theorem Succeeds.present {a : Option α} {x : α} (hx : a = some x) {e : ε} {next : α → Except ε β}
    (hnext : Succeeds (next x)) : Succeeds (orRefuse a e >>= next) := by
  rw [hx]
  exact hnext

/-! ## Refusals -/

/-- What holds of the error whenever there is one. -/
def Refuses (x : Except ε α) (P : ε → Prop) : Prop := ∀ e, x = .error e → P e

theorem Refuses.ok {P : ε → Prop} {a : α} : Refuses (Except.ok a) P := nofun

theorem Refuses.error {P : ε → Prop} {e : ε} (h : P e) : Refuses (Except.error e : Except ε α) P := by
  intro e' he
  cases he
  exact h

/-- The error of a sequence is that of one of its steps. -/
theorem Refuses.bind {P : ε → Prop} {x : Except ε α} {next : α → Except ε β} (hx : Refuses x P)
    (hnext : ∀ a, x = .ok a → Refuses (next a) P) : Refuses (x >>= next) P := by
  cases x with
  | error e => exact fun e' he => hx e' (congrArg Except.error (Except.error.inj he))
  | ok a => exact hnext a rfl

/-- A check that passes, or refuses with an error that is in order. -/
theorem Refuses.check {P : ε → Prop} {refused : Bool} {e : ε} {next : Unit → Except ε α}
    (he : refused = true → P e) (hnext : refused = false → Refuses (next ()) P) :
    Refuses (refuseIf refused e >>= next) P := by
  cases refused with
  | true => exact .error (he rfl)
  | false => exact hnext rfl

/-- A value that is there, or a refusal that is in order. -/
theorem Refuses.present {P : ε → Prop} {a : Option α} {e : ε} {next : α → Except ε β}
    (he : a = none → P e) (hnext : ∀ x, a = some x → Refuses (next x) P) :
    Refuses (orRefuse a e >>= next) P := by
  cases a with
  | none => exact .error (he rfl)
  | some x => exact hnext x rfl

/-! ## Loops -/

/-- A loop whose body keeps a property keeps it. -/
theorem foldlM_invariant {σ : Type} {f : σ → α → Except ε σ} {P : σ → Prop} {items : List α}
    (hstep : ∀ a ∈ items, ∀ s s', f s a = .ok s' → P s → P s') {s s' : σ}
    (h : items.foldlM f s = .ok s') (hs : P s) : P s' := by
  induction items generalizing s with
  | nil =>
      obtain rfl := Except.ok.inj h
      exact hs
  | cons item rest ih =>
      rw [List.foldlM_cons, bind_eq_ok] at h
      obtain ⟨middle, hfirst, hrest⟩ := h
      obtain ⟨hitem, hothers⟩ := List.forall_mem_cons.mp hstep
      exact ih hothers hrest (hitem s middle hfirst hs)

/-- What a loop ensures of the items it has been through. -/
theorem Ensures.foldlM {σ : Type} {step : σ → α → Except ε σ} {P : List α → σ → Prop}
    (hstep : ∀ done a s, P done s → Ensures (step s a) (P (done ++ [a]))) {items done : List α} {s : σ}
    (h : P done s) : Ensures (items.foldlM step s) (P (done ++ items)) := by
  induction items generalizing done s with
  | nil =>
      rw [List.append_nil]
      exact .ok h
  | cons item rest ih =>
      rw [List.foldlM_cons]
      refine .bind (hstep done item s h) fun middle hmiddle => ?_
      have hrest := ih hmiddle
      rwa [List.append_assoc, List.singleton_append] at hrest

theorem of_forM_eq_ok {check : α → Except ε Unit} {items : List α} (h : items.forM check = .ok ())
    {a : α} (ha : a ∈ items) : check a = .ok () := by
  induction items with
  | nil => cases ha
  | cons item rest ih =>
      obtain ⟨_, hfirst, hrest⟩ := bind_eq_ok.mp h
      rcases List.mem_cons.mp ha with rfl | ha
      · exact hfirst
      · exact ih hrest ha

theorem forM_eq_ok_iff {check : α → Except ε Unit} {items : List α} :
    items.forM check = .ok () ↔ ∀ a ∈ items, check a = .ok () := by
  refine ⟨fun h a ha => of_forM_eq_ok h ha, fun h => ?_⟩
  induction items with
  | nil => rfl
  | cons item rest ih =>
      rw [List.forall_mem_cons] at h
      exact bind_eq_ok.mpr ⟨(), h.1, ih h.2⟩

theorem mem_of_mapM_eq_ok {f : α → Except ε β} {items : List α} {results : List β}
    (h : items.mapM f = .ok results) {b : β} (hb : b ∈ results) : ∃ a ∈ items, f a = .ok b := by
  induction items generalizing results with
  | nil =>
      obtain rfl := Except.ok.inj h
      cases hb
  | cons item rest ih =>
      rw [List.mapM_cons, bind_eq_ok] at h
      obtain ⟨first, hfirst, h⟩ := h
      obtain ⟨others, hothers, h⟩ := bind_eq_ok.mp h
      obtain rfl := Except.ok.inj h
      rcases List.mem_cons.mp hb with rfl | hb
      · exact ⟨item, List.mem_cons_self, hfirst⟩
      · obtain ⟨a, ha, hfa⟩ := ih hothers hb
        exact ⟨a, List.mem_cons_of_mem _ ha, hfa⟩

/-- A loop over items that are all accepted has a result for each. -/
theorem exists_mapM_eq_ok {f : α → Except ε β} {items : List α} (h : ∀ a ∈ items, Succeeds (f a)) :
    ∃ results, items.mapM f = .ok results ∧ ∀ a ∈ items, ∀ b, f a = .ok b → b ∈ results := by
  induction items with
  | nil => exact ⟨[], rfl, fun a ha => by cases ha⟩
  | cons item rest ih =>
      obtain ⟨⟨first, hfirst⟩, hrest⟩ := List.forall_mem_cons.mp h
      obtain ⟨others, hothers, hmem⟩ := ih hrest
      refine ⟨first :: others, ?_, fun a ha b hb => ?_⟩
      · rw [List.mapM_cons, hfirst, ok_bind, hothers]
        rfl
      · rcases List.mem_cons.mp ha with rfl | ha
        · obtain rfl := Except.ok.inj (hfirst.symm.trans hb)
          exact List.mem_cons_self
        · exact List.mem_cons_of_mem _ (hmem a ha b hb)

/-- A loop that reads each item in the same way reads them all in that way. -/
theorem Ensures.mapM {γ : Type} {f : α → Except ε β} {look : β → γ} {look' : α → γ}
    (hf : ∀ a, Ensures (f a) (look · = look' a)) (items : List α) :
    Ensures (items.mapM f) (List.map look · = items.map look') := by
  induction items with
  | nil => exact .ok rfl
  | cons item rest ih =>
      rw [List.mapM_cons]
      refine (hf item).bind fun result hresult => ih.bind fun results hresults => .ok ?_
      rw [List.map_cons, List.map_cons, hresult, hresults]

/-- The error of a loop is that of one of its steps. -/
theorem Refuses.mapM {P : ε → Prop} {f : α → Except ε β} (hf : ∀ a, Refuses (f a) P)
    (items : List α) : Refuses (items.mapM f) P := by
  induction items with
  | nil => exact .ok
  | cons item rest ih =>
      rw [List.mapM_cons]
      exact (hf item).bind fun _ _ => ih.bind fun _ _ => .ok

/-! ## Two programs side by side -/

/-- Two programs whose results look alike go on alike when what follows them does. -/
theorem map_bind_congr {α' β' γ δ : Type} {look : α → γ} {look' : α' → γ} {see : β → δ}
    {see' : β' → δ} {x : Except ε α} {y : Except ε α'} (hxy : x.map look = y.map look')
    {next : α → Except ε β} {next' : α' → Except ε β'}
    (hnext : ∀ a a', x = .ok a → y = .ok a' → look a = look' a' →
      (next a).map see = (next' a').map see') :
    (x >>= next).map see = (y >>= next').map see' := by
  cases x with
  | error e =>
      cases y with
      | error e' =>
          obtain rfl := Except.error.inj hxy
          rfl
      | ok a' => cases hxy
  | ok a =>
      cases y with
      | error e' => cases hxy
      | ok a' => exact hnext a a' rfl rfl (Except.ok.inj hxy)

/-- Two programs with one first step. -/
theorem map_bind_congr_right {β' δ : Type} {see : β → δ} {see' : β' → δ} {x : Except ε α}
    {next : α → Except ε β} {next' : α → Except ε β'}
    (hnext : ∀ a, x = .ok a → (next a).map see = (next' a).map see') :
    (x >>= next).map see = (x >>= next').map see' := by
  cases x with
  | error e => rfl
  | ok a => exact hnext a rfl

/-- Two loops whose steps keep states that look alike. -/
theorem map_foldlM_congr {σ τ : Type} {look : σ → τ} {step : σ → α → Except ε σ}
    {step' : σ → β → Except ε σ} {f : α → β} {xs : List α} {s s' : σ} (hs : look s = look s')
    (hstep : ∀ s s' x, look s = look s' → (step s x).map look = (step' s' (f x)).map look) :
    (xs.foldlM step s).map look = ((xs.map f).foldlM step' s').map look := by
  induction xs generalizing s s' with
  | nil => exact congrArg Except.ok hs
  | cons x rest ih =>
      rw [List.map_cons, List.foldlM_cons, List.foldlM_cons]
      exact map_bind_congr (hstep s s' x hs) fun _ _ _ _ halike => ih halike

/-! ## Loops that fail -/

/-- The steps of a loop that are taken, each with the state it is taken in. -/
inductive Visits {σ : Type} (step : σ → α → Except ε σ) : σ → List α → σ → α → Prop
  | head {s : σ} {x : α} {rest : List α} : Visits step s (x :: rest) s x
  | tail {s next s' : σ} {first x : α} {rest : List α} (hfirst : step s first = .ok next)
      (hrest : Visits step next rest s' x) : Visits step s (first :: rest) s' x

/-- What the states of a loop have in common. -/
theorem Visits.invariant {σ : Type} {step : σ → α → Except ε σ} {P : σ → Prop} {s s' : σ}
    {xs : List α} {x : α} (h : Visits step s xs s' x) (hs : P s)
    (hstep : ∀ s x, P s → Ensures (step s x) P) : P s' := by
  induction h with
  | head => exact hs
  | tail hfirst _ ih => exact ih (hstep _ _ hs _ hfirst)

/-- A loop fails as the first of its steps that fails. -/
theorem foldlM_eq_error_iff {σ : Type} {step : σ → α → Except ε σ} {s : σ} {xs : List α} {e : ε} :
    xs.foldlM step s = .error e ↔ ∃ s' x, Visits step s xs s' x ∧ step s' x = .error e := by
  induction xs generalizing s with
  | nil => exact ⟨nofun, fun ⟨_, _, hvisit, _⟩ => nomatch hvisit⟩
  | cons x rest ih =>
      rw [List.foldlM_cons]
      constructor
      · intro h
        cases hx : step s x with
        | error e' =>
            rw [hx] at h
            exact ⟨s, x, .head, hx.trans h⟩
        | ok next =>
            rw [hx] at h
            obtain ⟨s', y, hvisit, hfails⟩ := ih.mp h
            exact ⟨s', y, .tail hx hvisit, hfails⟩
      · rintro ⟨s', y, hvisit, hfails⟩
        cases hvisit with
        | head =>
            rw [hfails]
            rfl
        | tail hfirst hrest =>
            rw [hfirst]
            exact ih.mpr ⟨s', y, hrest, hfails⟩

theorem Refuses.foldlM {σ : Type} {P : ε → Prop} {step : σ → α → Except ε σ}
    (hstep : ∀ s x, Refuses (step s x) P) (s : σ) (xs : List α) : Refuses (xs.foldlM step s) P := by
  intro e he
  obtain ⟨s', x, -, hfails⟩ := foldlM_eq_error_iff.mp he
  exact hstep s' x e hfails

end Checks
