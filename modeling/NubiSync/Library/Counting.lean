import Mathlib.Data.List.Count
import Mathlib.Data.List.Perm.Lattice

set_option autoImplicit false

/-! # Splitting counts

A counter of a loop that is bumped in one of several disjoint cases is the sum of the counters of the
cases. -/

namespace Counting

variable {α : Type*}

/-- A test that holds exactly when one of two exclusive tests does is counted by their sum. -/
theorem countP_eq_add {p a b : α → Bool} (l : List α)
    (h : ∀ x ∈ l, (p x).toNat = (a x).toNat + (b x).toNat) :
    l.countP p = l.countP a + l.countP b := by
  induction l with
  | nil => rfl
  | cons x rest ih =>
      have hx := h x List.mem_cons_self
      rw [List.countP_cons, List.countP_cons, List.countP_cons,
        ih fun y hy => h y (List.mem_cons_of_mem _ hy)]
      cases hp : p x <;> cases ha : a x <;> cases hb : b x <;> simp_all <;> omega

/-- No element passes a test that is counted zero times. -/
theorem eq_false_of_countP_eq_zero {p : α → Bool} {l : List α} (h : l.countP p = 0) {x : α}
    (hx : x ∈ l) : p x = false := by
  simpa using List.countP_eq_zero.mp h x hx

/-- Lists without repetition count a test alike when they agree on what passes it. -/
theorem countP_eq_of_mem_iff {p : α → Bool} {l l' : List α} (hl : l.Nodup) (hl' : l'.Nodup)
    (h : ∀ x, p x = true → (x ∈ l ↔ x ∈ l')) : l.countP p = l'.countP p := by
  rw [List.countP_eq_length_filter, List.countP_eq_length_filter]
  refine ((List.perm_ext_iff_of_nodup (hl.filter _) (hl'.filter _)).mpr fun x => ?_).length_eq
  rw [List.mem_filter, List.mem_filter]
  exact ⟨fun ⟨hx, hp⟩ => ⟨(h x hp).mp hx, hp⟩, fun ⟨hx, hp⟩ => ⟨(h x hp).mpr hx, hp⟩⟩

end Counting
