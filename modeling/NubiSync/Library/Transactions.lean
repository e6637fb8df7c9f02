import Mathlib.Data.List.Basic

set_option autoImplicit false

/-! # Traces of transactions

A program on a store changes it only by transactions, and between two of them it may be cut off. So
what a program does is recorded with the stores its transactions leave, in order: `Trace.CutAt` says
which stores a cut can leave behind, and `Trace.last` is the store the whole program ends with. -/

namespace Transactions

/-- Why a program gives no result: it returns an error, or it never returns. -/
inductive Halt (ε : Type) where
  | failed (error : ε)
  | unending
  deriving DecidableEq, Repr

/-- Change the error of a program that returns one. -/
def Halt.map {ε ε' : Type} (f : ε → ε') : Halt ε → Halt ε'
  | .failed error => .failed (f error)
  | .unending => .unending

/-- What a program did: the stores its transactions left, and what it returns. -/
structure Trace (σ ε α : Type) where
  stores : List σ
  result : Except ε α

namespace Trace

variable {σ ε ε' α β : Type}

/-- A computation that opens no transaction. -/
def read (result : Except ε α) : Trace σ ε α := ⟨[], result⟩

/-- One transaction; one that fails leaves the store as it was. -/
def commit : Except ε (σ × α) → Trace σ ε (σ × α)
  | .ok (store, value) => ⟨[store], .ok (store, value)⟩
  | .error error => ⟨[], .error error⟩

/-- One program after the other, unless the first gives no result. -/
def bind (trace : Trace σ ε α) (next : α → Trace σ ε β) : Trace σ ε β :=
  match trace.result with
  | .ok value => ⟨trace.stores ++ (next value).stores, (next value).result⟩
  | .error error => ⟨trace.stores, .error error⟩

instance : Monad (Trace σ ε) where
  pure value := ⟨[], .ok value⟩
  bind := bind

/-- The same transactions, with another error. -/
def mapError (f : ε → ε') (trace : Trace σ ε α) : Trace σ ε' α :=
  ⟨trace.stores, trace.result.mapError f⟩

/-- The store a program ends with. -/
def last (trace : Trace σ ε α) (start : σ) : σ := trace.stores.getLastD start

/-- The store a program leaves that is stopped after a number of its transactions. -/
def stoppedAfter (trace : Trace σ ε α) (transactions : ℕ) (start : σ) : σ :=
  (trace.stores.take transactions).getLastD start

/-- A store that a cut between two transactions of the program leaves. -/
def CutAt (trace : Trace σ ε α) (store : σ) : Prop :=
  ∃ before after, trace.stores = before ++ store :: after ∧ after ≠ []

/-! ## Sequencing -/

section

variable {trace : Trace σ ε α} {next : α → Trace σ ε β}

@[simp] theorem stores_read (result : Except ε α) :
    (read result : Trace σ ε α).stores = [] := rfl

@[simp] theorem result_read (result : Except ε α) :
    (read result : Trace σ ε α).result = result := rfl

@[simp] theorem stores_pure (value : α) : (pure value : Trace σ ε α).stores = [] := rfl

@[simp] theorem result_pure (value : α) : (pure value : Trace σ ε α).result = .ok value := rfl

@[simp] theorem commit_ok (store : σ) (value : α) :
    commit (.ok (store, value) : Except ε (σ × α)) = ⟨[store], .ok (store, value)⟩ := rfl

@[simp] theorem commit_error (error : ε) :
    commit (.error error : Except ε (σ × α)) = ⟨[], .error error⟩ := rfl

@[simp] theorem stores_mapError (f : ε → ε') : (trace.mapError f).stores = trace.stores := rfl

@[simp] theorem result_mapError (f : ε → ε') :
    (trace.mapError f).result = trace.result.mapError f := rfl

theorem bind_of_ok {value : α} (h : trace.result = .ok value) :
    trace >>= next = ⟨trace.stores ++ (next value).stores, (next value).result⟩ := by
  change trace.bind next = _
  simp [bind, h]

theorem bind_of_error {error : ε} (h : trace.result = .error error) :
    trace >>= next = ⟨trace.stores, .error error⟩ := by
  change trace.bind next = _
  simp [bind, h]

@[simp] theorem read_ok_bind (value : α) (next : α → Trace σ ε β) :
    (read (.ok value) >>= next) = next value := by
  rw [bind_of_ok (result_read _)]
  simp

@[simp] theorem read_error_bind (error : ε) (next : α → Trace σ ε β) :
    (read (.error error) >>= next) = ⟨[], .error error⟩ :=
  bind_of_error (result_read _)

theorem stores_bind_of_nil (h : ∀ a, (next a).stores = []) :
    (trace >>= next).stores = trace.stores := by
  cases hresult : trace.result with
  | ok a => simp [bind_of_ok hresult, h]
  | error error => simp [bind_of_error hresult]

theorem result_bind : (trace >>= next).result = trace.result >>= fun a => (next a).result := by
  cases h : trace.result with
  | ok a => rw [bind_of_ok h]; rfl
  | error error => rw [bind_of_error h]; rfl

/-- A program that returns has done all of its parts. -/
theorem bind_result_eq_ok {value : β} :
    (trace >>= next).result = .ok value ↔
      ∃ a, trace.result = .ok a ∧ (next a).result = .ok value := by
  cases h : trace.result with
  | ok a => simp [bind_of_ok h]
  | error error => simp [bind_of_error h]

theorem mem_stores_bind {store : σ} :
    store ∈ (trace >>= next).stores ↔
      store ∈ trace.stores ∨ ∃ a, trace.result = .ok a ∧ store ∈ (next a).stores := by
  cases h : trace.result with
  | ok a => simp [bind_of_ok h]
  | error error => simp [bind_of_error h]

end

/-! ## What a program leaves -/

/-- Whatever store a program leaves is as `P` says, and what it returns as `Q` says. -/
structure Leaves (trace : Trace σ ε α) (P : σ → Prop) (Q : α → Prop) : Prop where
  stores : ∀ store ∈ trace.stores, P store
  result : ∀ a, trace.result = .ok a → Q a

section

variable {P : σ → Prop} {Q : β → Prop} {next : α → Trace σ ε β}

theorem Leaves.pure {value : β} (h : Q value) : (Pure.pure value : Trace σ ε β).Leaves P Q :=
  ⟨nofun, fun _ ha => Except.ok.inj ha ▸ h⟩

theorem Leaves.error {e : ε} : (⟨[], .error e⟩ : Trace σ ε β).Leaves P Q :=
  ⟨fun _ h => (nomatch h), fun _ h => (nomatch h)⟩

theorem Leaves.bind {trace : Trace σ ε α} {R : α → Prop} (htrace : trace.Leaves P R)
    (hnext : ∀ a, R a → (next a).Leaves P Q) : (trace >>= next).Leaves P Q := by
  constructor
  · intro store hstore
    obtain hfirst | ⟨a, ha, hsecond⟩ := mem_stores_bind.mp hstore
    · exact htrace.stores store hfirst
    · exact (hnext a (htrace.result a ha)).stores store hsecond
  · intro b hb
    obtain ⟨a, ha, hb⟩ := bind_result_eq_ok.mp hb
    exact (hnext a (htrace.result a ha)).result b hb

theorem Leaves.mono {trace : Trace σ ε β} {P' : σ → Prop} {Q' : β → Prop} (h : trace.Leaves P Q)
    (hP : ∀ store, P store → P' store) (hQ : ∀ b, Q b → Q' b) : trace.Leaves P' Q' :=
  ⟨fun store hstore => hP store (h.stores store hstore), fun b hb => hQ b (h.result b hb)⟩

theorem Leaves.read {x : Except ε α} {R : α → Prop} (h : ∀ a, x = .ok a → R a) :
    (Trace.read x : Trace σ ε α).Leaves P R :=
  ⟨nofun, h⟩

theorem Leaves.read_bind {x : Except ε α} (hnext : ∀ a, x = .ok a → (next a).Leaves P Q) :
    (Trace.read x >>= next).Leaves P Q :=
  .bind (.read fun _ => id) hnext

theorem Leaves.commit {written : Except ε (σ × α)} {R : σ × α → Prop}
    (h : ∀ store a, written = .ok (store, a) → P store ∧ R (store, a)) :
    (Trace.commit written).Leaves P R := by
  cases written with
  | error error => exact ⟨nofun, nofun⟩
  | ok both =>
      obtain ⟨store, a⟩ := both
      obtain ⟨hstore, ha⟩ := h store a rfl
      refine ⟨fun last hlast => ?_, fun last hlast => Except.ok.inj hlast ▸ ha⟩
      rwa [List.mem_singleton.mp hlast]

theorem Leaves.commit_bind {written : Except ε (σ × α)} {next : σ × α → Trace σ ε β}
    (hnext : ∀ store a, written = .ok (store, a) → P store ∧ (next (store, a)).Leaves P Q) :
    (Trace.commit written >>= next).Leaves P Q :=
  .bind (.commit fun store a h => ⟨(hnext store a h).1, h⟩) fun both h => (hnext both.1 both.2 h).2

end

/-! ## Ends and cuts -/

theorem last_mem (trace : Trace σ ε α) (start : σ) :
    trace.last start = start ∨ trace.last start ∈ trace.stores := by
  unfold last
  cases h : trace.stores with
  | nil => exact Or.inl rfl
  | cons store rest =>
      right
      rw [List.getLastD_cons]
      exact List.getLastD_mem_cons

theorem stoppedAfter_mem (trace : Trace σ ε α) (transactions : ℕ) (start : σ) :
    trace.stoppedAfter transactions start = start ∨
      trace.stoppedAfter transactions start ∈ trace.stores := by
  unfold stoppedAfter
  cases h : trace.stores.take transactions with
  | nil => exact Or.inl rfl
  | cons store rest =>
      right
      rw [List.getLastD_cons]
      refine List.mem_of_mem_take (i := transactions) ?_
      rw [h]
      exact List.getLastD_mem_cons

/-- What holds of every store a program leaves holds of the last one, if it held at the start. -/
theorem Leaves.last {trace : Trace σ ε α} {P : σ → Prop} {Q : α → Prop} (h : trace.Leaves P Q)
    {start : σ} (hstart : P start) : P (trace.last start) := by
  obtain hsame | hmem := trace.last_mem start
  · rwa [hsame]
  · exact h.stores _ hmem

@[simp] theorem last_of_nil {trace : Trace σ ε α} (h : trace.stores = []) (start : σ) :
    trace.last start = start := by
  rw [last, h]
  rfl

/-- A program leaves the store it returns, and when it returns none, the one it started from. -/
structure LeavesReturned (trace : Trace σ ε (σ × α)) (start : σ) : Prop where
  returned : ∀ store a, trace.result = .ok (store, a) → trace.last start = store
  failed : ∀ error, trace.result = .error error → trace.last start = start

theorem LeavesReturned.read_bind {x : Except ε α} {next : α → Trace σ ε (σ × β)} {start : σ}
    (hnext : ∀ a, (next a).LeavesReturned start) : (read x >>= next).LeavesReturned start := by
  cases x with
  | error error => exact ⟨fun _ _ h => (nomatch h), fun _ _ => rfl⟩
  | ok a =>
      rw [read_ok_bind]
      exact hnext a

/-- A program whose one transaction is its last step. -/
theorem LeavesReturned.commit_bind {written : Except ε (σ × α)} {next : σ × α → Trace σ ε (σ × β)}
    {start : σ} (hnext : ∀ store a, ∃ b, next (store, a) = pure (store, b)) :
    (commit written >>= next).LeavesReturned start := by
  cases written with
  | error error => exact ⟨fun _ _ h => (nomatch h), fun _ _ => rfl⟩
  | ok both =>
      obtain ⟨store, a⟩ := both
      obtain ⟨b, hb⟩ := hnext store a
      have htrace : (commit (.ok (store, a)) >>= next : Trace σ ε (σ × β))
          = ⟨[store], .ok (store, b)⟩ := by
        rw [commit_ok, bind_of_ok rfl, hb]
        rfl
      rw [htrace]
      exact ⟨fun _ _ h => (Prod.mk.inj (Except.ok.inj h)).1, fun _ h => (nomatch h)⟩

theorem CutAt.mem {trace : Trace σ ε α} {store : σ} (h : trace.CutAt store) :
    store ∈ trace.stores := by
  obtain ⟨before, after, hstores, -⟩ := h
  rw [hstores]
  simp

/-- A cut of two programs in sequence is at a store of the first, or in the second. -/
theorem CutAt.of_append {trace : Trace σ ε α} {store : σ} {first second : List σ}
    (h : trace.CutAt store) (hstores : trace.stores = first ++ second) :
    store ∈ first ∨ ∃ before after, second = before ++ store :: after ∧ after ≠ [] := by
  obtain ⟨before, after, hcut, hafter⟩ := h
  rw [hstores] at hcut
  obtain ⟨middle, rfl, hsecond⟩ | ⟨middle, hfirst, hsecond⟩ := List.append_eq_append_iff.mp hcut
  · right
    exact ⟨middle, after, hsecond, hafter⟩
  · cases middle with
    | nil =>
        right
        exact ⟨[], after, by simpa using hsecond.symm, hafter⟩
    | cons head rest =>
        left
        obtain ⟨rfl, -⟩ := List.cons.inj hsecond
        rw [hfirst]
        simp

end Trace

end Transactions
