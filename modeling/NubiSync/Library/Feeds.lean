import Mathlib.Data.List.Basic
import Mathlib.Logic.Function.Basic

set_option autoImplicit false

/-! # Replaying a feed

A feed is a list of assignments: each gives a key a value, or takes it away. Replaying a feed on a state
leaves every key with its last assignment, and the keys without one as they were. So the state that a part
of a feed is replayed on may be wrong about the keys which that part assigns: `replay_drop` is the rule by
which a state that was read while the feed went on is brought up to date. -/

namespace Feeds

variable {κ ρ : Type} [DecidableEq κ]

/-- The state after the assignments of a feed. -/
def replay (state : κ → Option ρ) (feed : List (κ × Option ρ)) : κ → Option ρ :=
  feed.foldl (fun state assignment => Function.update state assignment.1 assignment.2) state

variable {state state' : κ → Option ρ} {feed : List (κ × Option ρ)} {key : κ}

@[simp] theorem replay_nil (state : κ → Option ρ) : replay state [] = state := rfl

@[simp] theorem replay_cons (state : κ → Option ρ) (assignment : κ × Option ρ)
    (feed : List (κ × Option ρ)) :
    replay state (assignment :: feed)
      = replay (Function.update state assignment.1 assignment.2) feed := rfl

theorem replay_append (state : κ → Option ρ) (feed more : List (κ × Option ρ)) :
    replay state (feed ++ more) = replay (replay state feed) more :=
  List.foldl_append

/-- The feed leaves a key alone. -/
def Untouched (feed : List (κ × Option ρ)) (key : κ) : Prop :=
  ∀ assignment ∈ feed, assignment.1 ≠ key

omit [DecidableEq κ] in
theorem Untouched.of_subset {more : List (κ × Option ρ)} (hsubset : feed ⊆ more)
    (h : Untouched more key) : Untouched feed key :=
  fun assignment hmem => h assignment (hsubset hmem)

/-- Two states come to the same value of a key, if they have it or the feed assigns it. -/
theorem replay_congr (h : Untouched feed key → state key = state' key) :
    replay state feed key = replay state' feed key := by
  induction feed generalizing state state' with
  | nil => exact h nofun
  | cons assignment rest ih =>
      rw [replay_cons, replay_cons]
      refine ih fun hrest => ?_
      by_cases hkey : key = assignment.1
      · rw [hkey, Function.update_self, Function.update_self]
      · rw [Function.update_of_ne hkey, Function.update_of_ne hkey]
        exact h (List.forall_mem_cons.mpr ⟨Ne.symm hkey, hrest⟩)

/-- What every assignment of a key gives it, and the state where there is none, the key is left with. -/
theorem replay_eq_of_forall {value : Option ρ}
    (hassigned : ∀ assignment ∈ feed, assignment.1 = key → assignment.2 = value)
    (huntouched : Untouched feed key → state key = value) : replay state feed key = value := by
  induction feed generalizing state with
  | nil => exact huntouched nofun
  | cons assignment rest ih =>
      obtain ⟨hfirst, hrest⟩ := List.forall_mem_cons.mp hassigned
      rw [replay_cons]
      refine ih hrest fun hkey => ?_
      by_cases hsame : assignment.1 = key
      · rw [hsame, Function.update_self, hfirst hsame]
      · rw [Function.update_of_ne (Ne.symm hsame)]
        exact huntouched (List.forall_mem_cons.mpr ⟨hsame, hkey⟩)

theorem replay_take_drop {earlier later : ℕ} (h : earlier ≤ later) (start : κ → Option ρ) :
    replay (replay start (feed.take earlier)) ((feed.take later).drop earlier)
      = replay start (feed.take later) := by
  have htake : feed.take earlier = (feed.take later).take earlier := by
    rw [List.take_take, Nat.min_eq_left h]
  rw [htake, ← replay_append, List.take_append_drop]

/-- **Catching up.** A state that is right, from a place of a feed on, about the keys which the feed leaves
    alone up to another place is right there once the part between the two is replayed on it. -/
theorem replay_drop {start : κ → Option ρ} {earlier later : ℕ} (h : earlier ≤ later)
    (hstate : ∀ key, Untouched ((feed.take later).drop earlier) key →
      state key = replay start (feed.take earlier) key) :
    replay state ((feed.take later).drop earlier) = replay start (feed.take later) := by
  rw [← replay_take_drop h]
  funext key
  exact replay_congr (hstate key)

end Feeds
