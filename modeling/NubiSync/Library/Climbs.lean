import Mathlib.Data.List.Nodup

set_option autoImplicit false

/-! # Climbs

A walk up single links: every point that lets the walk pass has at most one parent, and the walk ends
where there is no parent or at a point that does not let it pass. The walk is a function of its start,
so one that comes to an end never met a point twice. -/

variable {α : Type} {passes : α → Prop} {parent : α → Option α}

/-- From `start` the walk passes through `path`, in order, and stands at `top`. -/
inductive Climb (passes : α → Prop) (parent : α → Option α) :
    (path : List α) → (start top : Option α) → Prop where
  | here (start : Option α) : Climb passes parent [] start start
  | up {a : α} {path : List α} {top : Option α} (pass : passes a)
      (rest : Climb passes parent path (parent a) top) :
      Climb passes parent (a :: path) (some a) top

namespace Climb

/-- The walk ends at `top`. -/
def Stops (passes : α → Prop) (top : Option α) : Prop := ∀ a, top = some a → ¬ passes a

theorem stops_none : Stops passes none := nofun

theorem stops_some {a : α} (h : ¬ passes a) : Stops passes (some a) := by
  rintro _ ⟨⟩
  exact h

variable {path path' : List α} {start top top' : Option α}

/-- A walk that ends goes through what any other walk from its start goes through. -/
theorem extends_of_stops (h : Climb passes parent path start top)
    (h' : Climb passes parent path' start top') (hstops : Stops passes top') :
    ∃ rest, path' = path ++ rest ∧ Climb passes parent rest top top' := by
  induction h generalizing path' with
  | here => exact ⟨path', rfl, h'⟩
  | up pass _ ih =>
      cases h' with
      | here => exact absurd pass (hstops _ rfl)
      | up _ rest' =>
          obtain ⟨rest, rfl, hrest⟩ := ih rest'
          exact ⟨rest, rfl, hrest⟩

/-- A walk that ends is determined by its start. -/
theorem unique (h : Climb passes parent path start top) (h' : Climb passes parent path' start top')
    (hstops : Stops passes top) (hstops' : Stops passes top') : path' = path ∧ top = top' := by
  obtain ⟨rest, rfl, hrest⟩ := h.extends_of_stops h' hstops'
  cases hrest with
  | here => exact ⟨by simp, rfl⟩
  | up pass _ => exact absurd pass (hstops _ rfl)

theorem passes_of_mem (h : Climb passes parent path start top) {a : α} (ha : a ∈ path) :
    passes a := by
  induction h with
  | here => simp at ha
  | up pass _ ih =>
      rcases List.mem_cons.mp ha with rfl | ha
      · exact pass
      · exact ih ha

/-- What is left of a walk after a point that it passed. -/
theorem from_mem (h : Climb passes parent path start top) {a : α} (ha : a ∈ path) :
    ∃ rest, rest.length < path.length ∧ Climb passes parent (a :: rest) (some a) top := by
  induction h with
  | here => simp at ha
  | @up b path top pass rest ih =>
      rcases List.mem_cons.mp ha with rfl | ha
      · exact ⟨path, by simp, up pass rest⟩
      · obtain ⟨left, hlength, hleft⟩ := ih ha
        exact ⟨left, Nat.lt_trans hlength (by simp), hleft⟩

theorem nodup (h : Climb passes parent path start top) (hstops : Stops passes top) : path.Nodup := by
  induction h with
  | here => exact List.nodup_nil
  | @up a path top pass rest ih =>
      refine List.nodup_cons.mpr ⟨fun ha => ?_, ih hstops⟩
      -- from the second visit on, the walk would have to repeat itself for ever
      obtain ⟨left, hlength, hleft⟩ := rest.from_mem ha
      obtain ⟨hpath, -⟩ := (up pass rest).unique hleft hstops hstops
      rw [List.tail_eq_of_cons_eq hpath] at hlength
      exact absurd hlength (Nat.lt_irrefl _)

/-- The first steps of a walk; where more of it follows, they lead to a point that passes. -/
theorem exists_take (h : Climb passes parent path start top) {n : Nat} (hn : n < path.length) :
    ∃ a, passes a ∧ Climb passes parent (path.take n) start (some a) := by
  induction h generalizing n with
  | here => simp at hn
  | @up a path top pass rest ih =>
      cases n with
      | zero => exact ⟨a, pass, here _⟩
      | succ n =>
          obtain ⟨b, hb, hrest⟩ := ih (by simpa using hn)
          exact ⟨b, hb, up pass hrest⟩

end Climb
