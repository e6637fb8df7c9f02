import NubiSync.Daemon.ReceiveOnlyRun

set_option autoImplicit false

/-! # The periodic schedule

The receive-only loop of a root keeps a small state beside the clock: when the next run is due, how many
runs failed in a row, and whether it is paused or shut down. Clocks are `i64` values of any size, so every
sum of the source saturates. -/

namespace NubiSync

/-! ## Machine words -/

/-- `i64`. -/
abbrev I64 := { n : ℤ // -2 ^ 63 ≤ n ∧ n < 2 ^ 63 }

/-- `u32`. -/
abbrev U32 := { n : ℕ // n < 2 ^ 32 }

-- `i64` values are compared as the integers they are
instance (a b : I64) : Decidable (a ≤ b) := Int.decLe a.val b.val

/-- The nearest `i64`. -/
def I64.saturate (n : ℤ) : I64 := ⟨max (-2 ^ 63) (min n (2 ^ 63 - 1)), by omega⟩

def I64.saturatingAdd (a b : I64) : I64 := saturate (a.val + b.val)

def I64.saturatingSub (a b : I64) : I64 := saturate (a.val - b.val)

def I64.saturatingMul (a b : I64) : I64 := saturate (a.val * b.val)

def U32.saturatingAdd (a b : U32) : U32 := ⟨min (a.val + b.val) (2 ^ 32 - 1), by omega⟩

def U32.saturatingSub (a b : U32) : U32 := ⟨a.val - b.val, by have := a.property; omega⟩

theorem I64.val_min (a b : I64) : (min a b).val = min a.val b.val :=
  (Subtype.mono_coe fun n : ℤ => -2 ^ 63 ≤ n ∧ n < 2 ^ 63).map_min

theorem U32.val_min (a b : U32) : (min a b).val = min a.val b.val :=
  (Subtype.mono_coe fun n : ℕ => n < 2 ^ 32).map_min

theorem I64.val_saturatingAdd (a : I64) {b : I64} (hb : 0 ≤ b.val) :
    (a.saturatingAdd b).val = min (a.val + b.val) (2 ^ 63 - 1) := by
  have ha := a.property
  simp only [saturatingAdd, saturate]
  omega

theorem I64.le_saturatingAdd (a : I64) {b : I64} (hb : 0 ≤ b.val) : a ≤ a.saturatingAdd b := by
  have ha := a.property
  refine Subtype.coe_le_coe.mp ?_
  rw [val_saturatingAdd a hb]
  omega

/-! ## The state -/

def receiveOnlyPeriodicPollIntervalMs : I64 := ⟨30000, by decide⟩

def receiveOnlyPeriodicBusyRetryMs : I64 := ⟨5000, by decide⟩

def receiveOnlyPeriodicErrorBackoffInitialMs : I64 := ⟨5000, by decide⟩

def receiveOnlyPeriodicErrorBackoffMaxMs : I64 := ⟨300000, by decide⟩

inductive SelectedRootReceiveOnlyPeriodicDecision where
  | due
  | waiting (delayMs : I64)
  | pausedForManualIntervention
  | shutdown
  deriving DecidableEq

structure SelectedRootReceiveOnlyPeriodicState where
  nextDueUnixMs : I64
  consecutiveFailures : U32
  pausedForManualIntervention : Bool
  shutdownRequested : Bool
  deriving DecidableEq

namespace SelectedRootReceiveOnlyPeriodicState

def newImmediate (nowUnixMs : I64) : SelectedRootReceiveOnlyPeriodicState where
  nextDueUnixMs := nowUnixMs
  consecutiveFailures := ⟨0, by decide⟩
  pausedForManualIntervention := false
  shutdownRequested := false

def decision (state : SelectedRootReceiveOnlyPeriodicState) (nowUnixMs : I64) :
    SelectedRootReceiveOnlyPeriodicDecision :=
  if state.shutdownRequested then .shutdown
  else if state.pausedForManualIntervention then .pausedForManualIntervention
  else if state.nextDueUnixMs ≤ nowUnixMs then .due
  else .waiting (state.nextDueUnixMs.saturatingSub nowUnixMs)

/-- One turn of the loop of `error_backoff_ms`. -/
def doubledDelay (delay : I64) : I64 :=
  min (delay.saturatingMul ⟨2, by decide⟩) receiveOnlyPeriodicErrorBackoffMaxMs

def errorBackoffMs (state : SelectedRootReceiveOnlyPeriodicState) : I64 :=
  let doublings := min (state.consecutiveFailures.saturatingSub ⟨1, by decide⟩) ⟨16, by decide⟩
  min (doubledDelay^[doublings.val] receiveOnlyPeriodicErrorBackoffInitialMs)
    receiveOnlyPeriodicErrorBackoffMaxMs

def scheduleSuccess (state : SelectedRootReceiveOnlyPeriodicState) (nowUnixMs : I64) :
    SelectedRootReceiveOnlyPeriodicState :=
  { state with
    consecutiveFailures := ⟨0, by decide⟩
    nextDueUnixMs := nowUnixMs.saturatingAdd receiveOnlyPeriodicPollIntervalMs }

def scheduleBusyRetry (state : SelectedRootReceiveOnlyPeriodicState) (nowUnixMs : I64) :
    SelectedRootReceiveOnlyPeriodicState :=
  { state with nextDueUnixMs := nowUnixMs.saturatingAdd receiveOnlyPeriodicBusyRetryMs }

def scheduleFailure (state : SelectedRootReceiveOnlyPeriodicState) (nowUnixMs : I64) :
    SelectedRootReceiveOnlyPeriodicState :=
  let state := { state with
    consecutiveFailures := state.consecutiveFailures.saturatingAdd ⟨1, by decide⟩ }
  { state with nextDueUnixMs := nowUnixMs.saturatingAdd state.errorBackoffMs }

def pauseForManualIntervention (state : SelectedRootReceiveOnlyPeriodicState) :
    SelectedRootReceiveOnlyPeriodicState :=
  { state with consecutiveFailures := ⟨0, by decide⟩, pausedForManualIntervention := true }

def requestShutdown (state : SelectedRootReceiveOnlyPeriodicState) :
    SelectedRootReceiveOnlyPeriodicState :=
  { state with shutdownRequested := true }

def recordExternalFailure (state : SelectedRootReceiveOnlyPeriodicState) (nowUnixMs : I64) :
    SelectedRootReceiveOnlyPeriodicState :=
  if !state.shutdownRequested && !state.pausedForManualIntervention then
    state.scheduleFailure nowUnixMs
  else state

def resumeAfterManualIntervention (state : SelectedRootReceiveOnlyPeriodicState) (nowUnixMs : I64) :
    SelectedRootReceiveOnlyPeriodicState :=
  if !state.shutdownRequested then
    { state with
      pausedForManualIntervention := false
      consecutiveFailures := ⟨0, by decide⟩
      nextDueUnixMs := nowUnixMs }
  else state

end SelectedRootReceiveOnlyPeriodicState

open SelectedRootReceiveOnlyPeriodicState (newImmediate)

/-! ## A tick -/

structure SelectedRootLocalJournalResult where
  changesTotal : ℕ
  created : ℕ
  deleted : ℕ
  modified : ℕ
  typeChanged : ℕ
  baselineGeneration : ℕ
  pendingEvents : ℕ
  supersededEvents : ℕ

inductive SelectedRootPeriodicLocalObservation where
  | journaled (result : SelectedRootLocalJournalResult)
  | baselineMissing
  | baselineInvalidated
  | deferredUntilReceiveOnlyConverged

/-- `SelectedRootCrossProcessExecutionLock`, without the guard, which only lives until the tick ends. -/
inductive SelectedRootCrossProcessExecutionLock where
  | acquired
  | busy

inductive SelectedRootReceiveOnlyPeriodicSingleFlightResult where
  | busy
  | executed (execution : SelectedRootReceiveOnlyRunExecution)
      (localObservation : SelectedRootPeriodicLocalObservation)

inductive SelectedRootExecutionBusyScope where
  | crossProcess
  | inProcess

inductive SelectedRootReceiveOnlyPeriodicTick where
  | waiting (delayMs : I64)
  | pausedForManualIntervention
  | shutdown
  | busy (retryAfterMs : I64) (scope : SelectedRootExecutionBusyScope)
  | executed (execution : SelectedRootReceiveOnlyRunExecution)
      (localObservation : SelectedRootPeriodicLocalObservation) (nextDelayMs : Option I64)

/-- `execute_selected_root_receive_only_periodic_tick`, given what the attempt to take the execution lock
    and the single flight come to: its result, and the state that it leaves. -/
def executeSelectedRootReceiveOnlyPeriodicTick (state : SelectedRootReceiveOnlyPeriodicState)
    (nowUnixMs : I64)
    (lock : Except SelectedRootExecutorError SelectedRootCrossProcessExecutionLock)
    (singleFlight :
      Except SelectedRootExecutorError SelectedRootReceiveOnlyPeriodicSingleFlightResult) :
    Except SelectedRootExecutorError SelectedRootReceiveOnlyPeriodicTick ×
      SelectedRootReceiveOnlyPeriodicState :=
  match state.decision nowUnixMs with
  | .waiting delayMs => (.ok (.waiting delayMs), state)
  | .pausedForManualIntervention => (.ok .pausedForManualIntervention, state)
  | .shutdown => (.ok .shutdown, state)
  | .due =>
      match lock with
      | .ok .busy =>
          (.ok (.busy receiveOnlyPeriodicBusyRetryMs .crossProcess), state.scheduleBusyRetry nowUnixMs)
      | .error error => (.error error, state.scheduleFailure nowUnixMs)
      | .ok .acquired =>
          match singleFlight with
          | .error error => (.error error, state.scheduleFailure nowUnixMs)
          | .ok .busy =>
              (.ok (.busy receiveOnlyPeriodicBusyRetryMs .inProcess),
                state.scheduleBusyRetry nowUnixMs)
          | .ok (.executed execution localObservation) =>
              if execution.manualInterventionRequired then
                (.ok (.executed execution localObservation none), state.pauseForManualIntervention)
              else
                (.ok (.executed execution localObservation (some receiveOnlyPeriodicPollIntervalMs)),
                  state.scheduleSuccess nowUnixMs)

/-! ## Any sequence of operations -/

/-- The operations of the loop that owns the state. -/
inductive PeriodicOperation where
  | requestShutdown
  | recordExternalFailure (nowUnixMs : I64)
  | resumeAfterManualIntervention (nowUnixMs : I64)
  | tick (nowUnixMs : I64)
      (lock : Except SelectedRootExecutorError SelectedRootCrossProcessExecutionLock)
      (singleFlight :
        Except SelectedRootExecutorError SelectedRootReceiveOnlyPeriodicSingleFlightResult)

namespace PeriodicOperation

/-- The state that an operation leaves. -/
def apply (state : SelectedRootReceiveOnlyPeriodicState) :
    PeriodicOperation → SelectedRootReceiveOnlyPeriodicState
  | requestShutdown => state.requestShutdown
  | recordExternalFailure nowUnixMs => state.recordExternalFailure nowUnixMs
  | resumeAfterManualIntervention nowUnixMs => state.resumeAfterManualIntervention nowUnixMs
  | tick nowUnixMs lock singleFlight =>
      (executeSelectedRootReceiveOnlyPeriodicTick state nowUnixMs lock singleFlight).2

/-- The state after a sequence of operations. -/
def run (state : SelectedRootReceiveOnlyPeriodicState) (operations : List PeriodicOperation) :
    SelectedRootReceiveOnlyPeriodicState :=
  operations.foldl apply state

end PeriodicOperation

/-! ## What an operation means for the schedule -/

/-- What happened to a run of the loop, as far as the schedule is concerned. -/
inductive PeriodicEvent where
  | failed (nowUnixMs : I64)
  | succeeded
  | busy
  | paused
  | resumed

namespace PeriodicEvent

/-- What a tick came to once it was due. -/
def ofDueTick (nowUnixMs : I64) :
    Except SelectedRootExecutorError SelectedRootCrossProcessExecutionLock →
    Except SelectedRootExecutorError SelectedRootReceiveOnlyPeriodicSingleFlightResult →
    PeriodicEvent
  | .error _, _ => failed nowUnixMs
  | .ok .busy, _ => busy
  | .ok .acquired, .error _ => failed nowUnixMs
  | .ok .acquired, .ok .busy => busy
  | .ok .acquired, .ok (.executed execution _) =>
      if execution.manualInterventionRequired then paused else succeeded

/-- What an operation comes to: nothing after a shutdown, and no failure and no run while the schedule is
    paused. -/
def of (state : SelectedRootReceiveOnlyPeriodicState) : PeriodicOperation → Option PeriodicEvent
  | .requestShutdown => none
  | .recordExternalFailure nowUnixMs =>
      if state.shutdownRequested || state.pausedForManualIntervention then none
      else some (failed nowUnixMs)
  | .resumeAfterManualIntervention _ => if state.shutdownRequested then none else some resumed
  | .tick nowUnixMs lock singleFlight =>
      if state.decision nowUnixMs = .due then some (ofDueTick nowUnixMs lock singleFlight) else none

/-- The failures in a row after an event, where `failures` went before it. -/
def failuresAfter (failures : ℕ) : PeriodicEvent → ℕ
  | failed _ => failures + 1
  | busy => failures
  | succeeded | paused | resumed => 0

/-- The events of a sequence of operations. -/
def history (state : SelectedRootReceiveOnlyPeriodicState) :
    List PeriodicOperation → List PeriodicEvent
  | [] => []
  | operation :: rest => (of state operation).toList ++ history (operation.apply state) rest

/-- The failures since the last success, pause or resume. -/
def consecutiveFailures (events : List PeriodicEvent) : ℕ := events.foldl failuresAfter 0

end PeriodicEvent

open PeriodicEvent (failuresAfter history consecutiveFailures)
open PeriodicOperation (run)

/-! ## The delay after a failure -/

namespace SelectedRootReceiveOnlyPeriodicState

theorem doubledDelay_iterate (n : ℕ) :
    (doubledDelay^[n] receiveOnlyPeriodicErrorBackoffInitialMs).val = min (5000 * 2 ^ n) 300000 := by
  induction n with
  | zero => rfl
  | succ n ih =>
      rw [Function.iterate_succ_apply', doubledDelay, I64.val_min]
      simp only [I64.saturatingMul, I64.saturate, ih, receiveOnlyPeriodicErrorBackoffMaxMs,
        Int.pow_succ]
      have hpos : (0 : ℤ) < 2 ^ n := Int.pow_pos (by decide)
      omega

theorem errorBackoffMs_nonneg (state : SelectedRootReceiveOnlyPeriodicState) :
    0 ≤ state.errorBackoffMs.val := by
  rw [errorBackoffMs, I64.val_min, doubledDelay_iterate]
  have hpos : (0 : ℤ) < 2 ^ (min (state.consecutiveFailures.saturatingSub ⟨1, by decide⟩)
    ⟨16, by decide⟩ : U32).val := Int.pow_pos (by decide)
  exact le_min (le_min (by omega) (by decide)) (by decide)

theorem le_delay_of_six_le {n : ℕ} (h : 6 ≤ n) : (300000 : ℤ) ≤ 5000 * 2 ^ n := by
  have hpow : (2 : ℤ) ^ 6 ≤ 2 ^ n := by exact_mod_cast Nat.pow_le_pow_right Nat.two_pos h
  omega

/-- The loop of at most sixteen doublings has the closed form of an unbounded one, also where the counter
    of a `u32` saturated. -/
theorem errorBackoffMs_eq {state : SelectedRootReceiveOnlyPeriodicState} {failures : ℕ}
    (hcount : state.consecutiveFailures.val = min failures (2 ^ 32 - 1)) :
    state.errorBackoffMs.val = min (5000 * 2 ^ (failures - 1)) 300000 := by
  have hdoublings : (min (state.consecutiveFailures.saturatingSub ⟨1, by decide⟩)
      ⟨16, by decide⟩ : U32).val = min (min failures (2 ^ 32 - 1) - 1) 16 := by
    simp only [U32.val_min, U32.saturatingSub, hcount]
  rw [errorBackoffMs, I64.val_min, doubledDelay_iterate, hdoublings]
  simp only [receiveOnlyPeriodicErrorBackoffMaxMs]
  rcases Nat.lt_or_ge (failures - 1) 6 with hfew | hmany
  · have hexponent : min (min failures (2 ^ 32 - 1) - 1) 16 = failures - 1 := by omega
    rw [hexponent]
    omega
  · have hcapped := le_delay_of_six_le hmany
    have hlooped : (300000 : ℤ) ≤ 5000 * 2 ^ min (min failures (2 ^ 32 - 1) - 1) 16 :=
      le_delay_of_six_le (by omega)
    omega

end SelectedRootReceiveOnlyPeriodicState

/-! ## One operation -/

/-- What an operation does to the state, by what it comes to. -/
theorem PeriodicOperation.apply_cases (state : SelectedRootReceiveOnlyPeriodicState)
    (operation : PeriodicOperation) :
    match PeriodicEvent.of state operation with
    | none => operation.apply state = state ∨ operation.apply state = state.requestShutdown
    | some (.failed nowUnixMs) => operation.apply state = state.scheduleFailure nowUnixMs
    | some .succeeded => ∃ nowUnixMs, operation.apply state = state.scheduleSuccess nowUnixMs
    | some .busy => ∃ nowUnixMs, operation.apply state = state.scheduleBusyRetry nowUnixMs
    | some .paused => operation.apply state = state.pauseForManualIntervention
    | some .resumed => ∃ nowUnixMs, operation.apply state = { state with
        pausedForManualIntervention := false
        consecutiveFailures := ⟨0, by decide⟩
        nextDueUnixMs := nowUnixMs } := by
  cases operation with
  | requestShutdown => exact .inr rfl
  | recordExternalFailure nowUnixMs =>
      cases hshutdown : state.shutdownRequested <;> cases hpaused : state.pausedForManualIntervention <;>
        simp [PeriodicEvent.of, apply, SelectedRootReceiveOnlyPeriodicState.recordExternalFailure,
          hshutdown, hpaused]
  | resumeAfterManualIntervention nowUnixMs =>
      cases hshutdown : state.shutdownRequested <;>
        simp [PeriodicEvent.of, apply,
          SelectedRootReceiveOnlyPeriodicState.resumeAfterManualIntervention, hshutdown]
  | tick nowUnixMs lock singleFlight =>
      simp only [PeriodicEvent.of, apply, executeSelectedRootReceiveOnlyPeriodicTick]
      cases state.decision nowUnixMs with
      | due =>
          match lock, singleFlight with
          | .error _, _ => exact rfl
          | .ok .busy, _ => exact ⟨nowUnixMs, rfl⟩
          | .ok .acquired, .error _ => exact rfl
          | .ok .acquired, .ok .busy => exact ⟨nowUnixMs, rfl⟩
          | .ok .acquired, .ok (.executed execution _) =>
              cases hmanual : execution.manualInterventionRequired with
              | true => simp [PeriodicEvent.ofDueTick, hmanual]
              | false => simp [PeriodicEvent.ofDueTick, hmanual]
      | waiting => exact .inl rfl
      | pausedForManualIntervention => exact .inl rfl
      | shutdown => exact .inl rfl

theorem PeriodicOperation.apply_failed {state : SelectedRootReceiveOnlyPeriodicState}
    {operation : PeriodicOperation} {nowUnixMs : I64}
    (hfailed : PeriodicEvent.of state operation = some (.failed nowUnixMs)) :
    operation.apply state = state.scheduleFailure nowUnixMs := by
  have happly := apply_cases state operation
  rw [hfailed] at happly
  exact happly

section Operations

variable {state : SelectedRootReceiveOnlyPeriodicState} {operation : PeriodicOperation}

/-- The counter counts, as far as a `u32` goes. -/
theorem PeriodicOperation.apply_consecutiveFailures {failures : ℕ}
    (hcount : state.consecutiveFailures.val = min failures (2 ^ 32 - 1)) :
    (operation.apply state).consecutiveFailures.val =
      min ((PeriodicEvent.of state operation).toList.foldl failuresAfter failures) (2 ^ 32 - 1) := by
  have happly := apply_cases state operation
  cases hevent : PeriodicEvent.of state operation with
  | none =>
      rw [hevent] at happly
      rcases happly with h | h <;>
        · rw [h]
          exact hcount
  | some event =>
      rw [hevent] at happly
      cases event with
      | failed nowUnixMs =>
          simp only [happly, Option.toList, List.foldl, failuresAfter,
            SelectedRootReceiveOnlyPeriodicState.scheduleFailure, U32.saturatingAdd, hcount]
          omega
      | busy =>
          obtain ⟨nowUnixMs, happly⟩ := happly
          rw [happly]
          exact hcount
      | succeeded =>
          obtain ⟨nowUnixMs, happly⟩ := happly
          simp [happly, failuresAfter, SelectedRootReceiveOnlyPeriodicState.scheduleSuccess]
      | paused =>
          simp [happly, failuresAfter,
            SelectedRootReceiveOnlyPeriodicState.pauseForManualIntervention]
      | resumed =>
          obtain ⟨nowUnixMs, happly⟩ := happly
          simp [happly, failuresAfter]

theorem PeriodicOperation.apply_shutdownRequested (hshutdown : state.shutdownRequested = true) :
    (operation.apply state).shutdownRequested = true := by
  have happly := apply_cases state operation
  cases hevent : PeriodicEvent.of state operation with
  | none =>
      rw [hevent] at happly
      rcases happly with h | h
      · rw [h, hshutdown]
      · rw [h]
        rfl
  | some event =>
      rw [hevent] at happly
      cases event with
      | failed | paused => exact happly ▸ hshutdown
      | succeeded | busy | resumed => exact happly.elim fun _ h => h ▸ hshutdown

theorem PeriodicOperation.apply_paused (hpaused : state.pausedForManualIntervention = true)
    (hresume : ∀ nowUnixMs, operation ≠ .resumeAfterManualIntervention nowUnixMs) :
    (operation.apply state).pausedForManualIntervention = true := by
  cases operation with
  | requestShutdown => exact hpaused
  | recordExternalFailure nowUnixMs =>
      simp [apply, SelectedRootReceiveOnlyPeriodicState.recordExternalFailure, hpaused]
  | resumeAfterManualIntervention nowUnixMs => exact absurd rfl (hresume nowUnixMs)
  | tick nowUnixMs lock singleFlight =>
      cases hshutdown : state.shutdownRequested <;>
        simp [apply, executeSelectedRootReceiveOnlyPeriodicTick,
          SelectedRootReceiveOnlyPeriodicState.decision, hshutdown, hpaused]

end Operations

/-! ## Any sequence of operations -/

section Sequences

variable {state : SelectedRootReceiveOnlyPeriodicState}

theorem run_append (operations rest : List PeriodicOperation) :
    run state (operations ++ rest) = run (run state operations) rest := List.foldl_append

theorem run_consecutiveFailures {failures : ℕ} (operations : List PeriodicOperation)
    (hcount : state.consecutiveFailures.val = min failures (2 ^ 32 - 1)) :
    (run state operations).consecutiveFailures.val =
      min ((history state operations).foldl failuresAfter failures) (2 ^ 32 - 1) := by
  induction operations generalizing state failures with
  | nil => exact hcount
  | cons operation rest ih =>
      rw [history, List.foldl_append]
      exact ih (PeriodicOperation.apply_consecutiveFailures hcount)

theorem run_shutdownRequested (operations : List PeriodicOperation)
    (hshutdown : state.shutdownRequested = true) :
    (run state operations).shutdownRequested = true := by
  induction operations generalizing state with
  | nil => exact hshutdown
  | cons operation rest ih => exact ih (PeriodicOperation.apply_shutdownRequested hshutdown)

theorem run_paused {operations : List PeriodicOperation}
    (hpaused : state.pausedForManualIntervention = true)
    (hresume : ∀ nowUnixMs, .resumeAfterManualIntervention nowUnixMs ∉ operations) :
    (run state operations).pausedForManualIntervention = true := by
  induction operations generalizing state with
  | nil => exact hpaused
  | cons operation rest ih =>
      refine ih (PeriodicOperation.apply_paused hpaused ?_) ?_
      · rintro nowUnixMs rfl
        exact hresume nowUnixMs List.mem_cons_self
      · exact fun nowUnixMs h => hresume nowUnixMs (List.mem_cons_of_mem _ h)

theorem history_concat (operations : List PeriodicOperation) (operation : PeriodicOperation) :
    history state (operations ++ [operation]) =
      history state operations ++ (PeriodicEvent.of (run state operations) operation).toList := by
  induction operations generalizing state with
  | nil => simp [history, run]
  | cons first rest ih =>
      rw [List.cons_append, history, ih, history, List.append_assoc]
      rfl

/-- Over any sequence of operations with any clock values, from a new schedule: a failure, the `k`-th in
    a row, is followed by a delay of `5000 * 2 ^ (k - 1)` milliseconds and of 300000 at most, and the next
    run is due that long after it, or at the last instant that an `i64` holds, so never before it; once the
    shutdown is requested every decision is to shut down; and while the schedule is paused no decision
    is that a run is due, up to the next resume. -/
theorem periodic_schedule_laws (startUnixMs : I64) (operations : List PeriodicOperation) :
    (∀ operation nowUnixMs,
      PeriodicEvent.of (run (newImmediate startUnixMs) operations) operation =
        some (.failed nowUnixMs) →
      let after := run (newImmediate startUnixMs) (operations ++ [operation])
      let k := consecutiveFailures (history (newImmediate startUnixMs) (operations ++ [operation]))
      let delay : ℤ := min 300000 (5000 * 2 ^ (k - 1))
      1 ≤ k ∧ after.errorBackoffMs.val = delay
        ∧ after.nextDueUnixMs.val = min (nowUnixMs.val + delay) (2 ^ 63 - 1)
        ∧ nowUnixMs ≤ after.nextDueUnixMs)
      ∧ (∀ rest nowUnixMs,
        (run (newImmediate startUnixMs) (operations ++ .requestShutdown :: rest)).decision nowUnixMs =
          .shutdown)
      ∧ (∀ rest, (run (newImmediate startUnixMs) operations).pausedForManualIntervention = true →
        (∀ nowUnixMs, .resumeAfterManualIntervention nowUnixMs ∉ rest) →
        ∀ nowUnixMs,
          (run (newImmediate startUnixMs) (operations ++ rest)).decision nowUnixMs ≠ .due) := by
  refine ⟨fun operation nowUnixMs hfailed => ?_, fun rest nowUnixMs => ?_,
    fun rest hpaused hresume nowUnixMs => ?_⟩
  · have hnew : (newImmediate startUnixMs).consecutiveFailures.val = min 0 (2 ^ 32 - 1) := rfl
    have hcount := run_consecutiveFailures (operations ++ [operation]) hnew
    have hdelay := SelectedRootReceiveOnlyPeriodicState.errorBackoffMs_eq hcount
    have hafter : run (newImmediate startUnixMs) (operations ++ [operation]) =
        (run (newImmediate startUnixMs) operations).scheduleFailure nowUnixMs :=
      (run_append operations [operation]).trans (PeriodicOperation.apply_failed hfailed)
    have hdue : (run (newImmediate startUnixMs) (operations ++ [operation])).nextDueUnixMs =
        nowUnixMs.saturatingAdd
          (run (newImmediate startUnixMs) (operations ++ [operation])).errorBackoffMs := by
      rw [hafter]
      rfl
    have hpositive := SelectedRootReceiveOnlyPeriodicState.errorBackoffMs_nonneg
      (run (newImmediate startUnixMs) (operations ++ [operation]))
    have hk : consecutiveFailures (history (newImmediate startUnixMs) (operations ++ [operation])) =
        consecutiveFailures (history (newImmediate startUnixMs) operations) + 1 := by
      rw [history_concat, hfailed, consecutiveFailures, List.foldl_append]
      rfl
    refine ⟨hk ▸ Nat.le_add_left _ _, ?_, ?_, ?_⟩
    · exact hdelay.trans (min_comm _ _)
    · rw [hdue, I64.val_saturatingAdd _ hpositive, hdelay, min_comm (300000 : ℤ)]
      rfl
    · rw [hdue]
      exact I64.le_saturatingAdd _ hpositive
  · have hshutdown : (run (newImmediate startUnixMs)
        (operations ++ .requestShutdown :: rest)).shutdownRequested = true := by
      have hrequested : (PeriodicOperation.requestShutdown.apply
          (run (newImmediate startUnixMs) operations)).shutdownRequested = true := rfl
      rw [run_append]
      exact run_shutdownRequested rest hrequested
    simp [SelectedRootReceiveOnlyPeriodicState.decision, hshutdown]
  · rw [run_append]
    have hpaused := run_paused hpaused hresume
    simp only [SelectedRootReceiveOnlyPeriodicState.decision, hpaused, if_true]
    split <;> simp

end Sequences

/-! A schedule starts at 0. Two runs fail, at 0 and at 5000 milliseconds; a tick in between comes too
early. -/

def twoFailedRuns : List PeriodicOperation :=
  [.tick ⟨0, by decide⟩ (.ok .acquired) (.error (.storage .sqlite)),
    .tick ⟨4000, by decide⟩ (.ok .acquired) (.error (.storage .sqlite)),
    .tick ⟨5000, by decide⟩ (.error (.storage .sqlite)) (.ok .busy)]

/-- A run that ends at a blocked plan. -/
def blockedRun : SelectedRootReceiveOnlyRunExecution where
  toConvergenceTotals := .zero
  maxRounds := supervisedReceiveOnlyRunMaxRounds
  roundsExecuted := 1
  metadataRounds := 1
  convergenceOnlyRounds := 0
  bootstrapRounds := 0
  collectChangePageRounds := 1
  executeWindowRounds := 0
  convergencePhasesExecuted := 0
  finalConvergenceKnown := true
  finalActions := 1
  finalBlockedActions := 1
  nextMetadataPhase := .collectChangePage
  nextConvergencePhase := none
  converged := false
  requiresAnotherInvocation := false
  manualInterventionRequired := true
  stopReason := .manualInterventionRequired

/-- A third failure at 15000 is followed by a delay of 20000; a shutdown in its place ends the schedule,
    and a blocked run pauses it past any tick. -/
theorem periodic_schedule_laws_two_failed :
    (run (newImmediate ⟨0, by decide⟩)
        (twoFailedRuns ++ [.recordExternalFailure ⟨15000, by decide⟩])).nextDueUnixMs.val = 35000
      ∧ (run (newImmediate ⟨0, by decide⟩) (twoFailedRuns ++ [.requestShutdown])).decision
        ⟨15000, by decide⟩ = .shutdown
      ∧ (run (newImmediate ⟨0, by decide⟩) (twoFailedRuns
        ++ [.tick ⟨15000, by decide⟩ (.ok .acquired) (.ok (.executed blockedRun .baselineMissing))]
        ++ [.tick ⟨90000, by decide⟩ (.ok .acquired) (.ok .busy)])).decision ⟨99999, by decide⟩ ≠ .due := by
  obtain ⟨hfailed, hshutdown, -⟩ := periodic_schedule_laws ⟨0, by decide⟩ twoFailedRuns
  obtain ⟨-, -, hpaused⟩ := periodic_schedule_laws ⟨0, by decide⟩ (twoFailedRuns
    ++ [.tick ⟨15000, by decide⟩ (.ok .acquired) (.ok (.executed blockedRun .baselineMissing))])
  obtain ⟨-, -, hdue, -⟩ := hfailed (.recordExternalFailure ⟨15000, by decide⟩) ⟨15000, by decide⟩ rfl
  exact ⟨hdue.trans (by decide), hshutdown [] _, hpaused _ (by decide) (by simp) _⟩

end NubiSync
