import Mathlib.Data.Finset.Card
import NubiSync.Library.Worklist

set_option autoImplicit false

/-! # Searches with a visited set

A breadth-first search that queues a successor only when it is seen for the first time. It ends on
every graph with finitely many successors, and what it has seen in the end is what it had seen in the
beginning together with everything below the queue (`mem_search_iff`). A recursive query that unites
its rows without duplicates is the same search. -/

namespace Worklist

variable {α : Type*} [DecidableEq α]

/-- The successors seen for the first time. -/
def fresh (next : α → List α) (seen : List α) (x : α) : List α :=
  (next x).dedup.filter (· ∉ seen)

/-- The search: the nodes seen once the queue is empty or `fuel` nodes are popped. -/
def search (next : α → List α) : ℕ → List α → List α → List α
  | 0, _, seen => seen
  | _ + 1, [], seen => seen
  | fuel + 1, x :: queue, seen =>
      search next fuel (queue ++ fresh next seen x) (seen ++ fresh next seen x)

variable {next : α → List α}

theorem mem_fresh {seen : List α} {x y : α} : y ∈ fresh next seen x ↔ y ∈ next x ∧ y ∉ seen := by
  simp [fresh]

theorem nodup_fresh (seen : List α) (x : α) : (fresh next seen x).Nodup :=
  (List.nodup_dedup _).filter _

theorem nodup_append_fresh {seen : List α} (h : seen.Nodup) (x : α) :
    (seen ++ fresh next seen x).Nodup :=
  List.nodup_append.mpr ⟨h, nodup_fresh seen x, fun _ ha _ hb hab => (mem_fresh.mp hb).2 (hab ▸ ha)⟩

theorem nodup_search (fuel : ℕ) {queue seen : List α} (h : seen.Nodup) :
    (search next fuel queue seen).Nodup := by
  induction fuel generalizing queue seen with
  | zero => exact h
  | succ fuel ih =>
      cases queue with
      | nil => exact h
      | cons x queue => exact ih (nodup_append_fresh h x)

omit [DecidableEq α] in
/-- A list without duplicates inside another is as long exactly when it is all of it. -/
theorem length_eq_iff_subset {xs ys : List α} (hxs : xs.Nodup) (hys : ys.Nodup) (hsub : xs ⊆ ys) :
    xs.length = ys.length ↔ ys ⊆ xs := by
  constructor
  · intro hlength
    exact ((List.subperm_of_subset hxs hsub).perm_of_length_le hlength.ge).symm.subset
  · intro hback
    exact (List.Subperm.antisymm (List.subperm_of_subset hxs hsub)
      (List.subperm_of_subset hys hback)).length_eq

/-- What is seen but no longer queued has had its successors seen. -/
def Expanded (next : α → List α) (queue seen : List α) : Prop :=
  ∀ x ∈ seen, x ∈ queue ∨ ∀ y ∈ next x, y ∈ seen

theorem Expanded.pop {queue seen : List α} {x : α} (h : Expanded next (x :: queue) seen) :
    Expanded next (queue ++ fresh next seen x) (seen ++ fresh next seen x) := by
  intro z hz
  rcases List.mem_append.mp hz with hz | hz
  · rcases h z hz with hqueue | hdone
    · rcases List.mem_cons.mp hqueue with rfl | hqueue
      · refine Or.inr fun y hy => ?_
        by_cases hseen : y ∈ seen
        · exact List.mem_append_left _ hseen
        · exact List.mem_append_right _ (mem_fresh.mpr ⟨hy, hseen⟩)
      · exact Or.inl (List.mem_append_left _ hqueue)
    · exact Or.inr fun y hy => List.mem_append_left _ (hdone y hy)
  · exact Or.inl (List.mem_append_right _ hz)

omit [DecidableEq α] in
/-- A walk from a seen node stays seen until it leaves through the queue. -/
theorem Expanded.walk {queue seen : List α} (h : Expanded next queue seen) {x y : α}
    (hx : x ∈ seen) (hwalk : Relation.ReflTransGen (Step next) x y) :
    y ∈ seen ∨ ∃ q ∈ queue, Reach next (next q) y := by
  induction hwalk using Relation.ReflTransGen.head_induction_on with
  | refl => exact Or.inl hx
  | @head a b hstep hrest ih =>
      rcases h a hx with hqueue | hdone
      · exact Or.inr ⟨a, hqueue, b, hstep, hrest⟩
      · exact ih (hdone b hstep)

/-- The nodes a search has still to see. -/
def unseen (nodes seen : List α) : Finset α := nodes.toFinset \ seen.toFinset

theorem card_unseen_append {nodes : List α} (seen : List α) {x : α} (hnodes : ∀ y ∈ next x, y ∈ nodes) :
    (unseen nodes (seen ++ fresh next seen x)).card + (fresh next seen x).length =
      (unseen nodes seen).card := by
  have hsub : (fresh next seen x).toFinset ⊆ unseen nodes seen := by
    intro y hy
    obtain ⟨hnext, hseen⟩ := mem_fresh.mp (List.mem_toFinset.mp hy)
    simpa [unseen, hseen] using hnodes y hnext
  have hsplit : unseen nodes (seen ++ fresh next seen x) =
      unseen nodes seen \ (fresh next seen x).toFinset := by
    ext y
    simp [unseen, and_assoc]
  rw [hsplit, ← List.toFinset_card_of_nodup (nodup_fresh seen x)]
  exact Finset.card_sdiff_add_card_eq_card hsub

/-- **What a search sees**, with a queued node for every pop and every node still to be seen. -/
theorem mem_search_iff {nodes : List α} (hnodes : ∀ x, ∀ y ∈ next x, y ∈ nodes) {fuel : ℕ}
    {queue seen : List α} (hfuel : queue.length + (unseen nodes seen).card ≤ fuel)
    (hexpanded : Expanded next queue seen) (y : α) :
    y ∈ search next fuel queue seen ↔ y ∈ seen ∨ ∃ x ∈ queue, Reach next (next x) y := by
  induction fuel generalizing queue seen with
  | zero =>
      have hempty : queue = [] := List.length_eq_zero_iff.mp (by omega)
      simp [search, hempty]
  | succ fuel ih =>
      cases queue with
      | nil => simp [search]
      | cons x queue =>
          have hcard := card_unseen_append seen (hnodes x)
          rw [search, ih (by simp only [List.length_append, List.length_cons] at hfuel ⊢; omega)
            hexpanded.pop]
          constructor
          · rintro (hy | ⟨z, hz, hreach⟩)
            · refine (List.mem_append.mp hy).imp_right fun hfresh => ?_
              exact ⟨x, List.mem_cons_self, Reach.of_mem (mem_fresh.mp hfresh).1⟩
            · rcases List.mem_append.mp hz with hz | hz
              · exact Or.inr ⟨z, List.mem_cons_of_mem _ hz, hreach⟩
              · obtain ⟨s, hs, hwalk⟩ := hreach
                exact Or.inr ⟨x, List.mem_cons_self, z, (mem_fresh.mp hz).1, hwalk.head hs⟩
          · rintro (hy | ⟨z, hz, s, hs, hwalk⟩)
            · exact Or.inl (List.mem_append_left _ hy)
            · rcases List.mem_cons.mp hz with rfl | hz
              · -- the successor is seen now, so the walk is caught by the invariant
                refine hexpanded.pop.walk ?_ hwalk
                by_cases hseen : s ∈ seen
                · exact List.mem_append_left _ hseen
                · exact List.mem_append_right _ (mem_fresh.mpr ⟨hs, hseen⟩)
              · exact Or.inr ⟨z, List.mem_append_left _ hz, s, hs, hwalk⟩

theorem card_unseen_le (nodes seen : List α) : (unseen nodes seen).card ≤ nodes.length :=
  (Finset.card_le_card Finset.sdiff_subset).trans (List.toFinset_card_le nodes)

/-- A search that has seen its seed sees what the seed reaches. -/
theorem mem_search_seed_iff {nodes : List α} (hnodes : ∀ x, ∀ y ∈ next x, y ∈ nodes) {fuel : ℕ}
    (hfuel : nodes.length + 1 ≤ fuel) (seed y : α) :
    y ∈ search next fuel [seed] [seed] ↔ Reach next [seed] y := by
  have hcard := card_unseen_le nodes [seed]
  rw [mem_search_iff hnodes (by simp only [List.length_singleton]; omega)
    (fun x hx => Or.inl hx)]
  simp only [List.mem_singleton, exists_eq_left]
  constructor
  · rintro (rfl | ⟨s, hs, hwalk⟩)
    · exact Reach.of_mem List.mem_cons_self
    · exact ⟨seed, List.mem_cons_self, hwalk.head hs⟩
  · rintro ⟨s, hs, hwalk⟩
    obtain rfl := List.mem_singleton.mp hs
    rcases Relation.ReflTransGen.cases_head hwalk with rfl | ⟨b, hb, hrest⟩
    · exact Or.inl rfl
    · exact Or.inr ⟨b, hb, hrest⟩

/-- A search that starts with nothing seen sees what lies below its seed. -/
theorem mem_search_below_iff {nodes : List α} (hnodes : ∀ x, ∀ y ∈ next x, y ∈ nodes) {fuel : ℕ}
    (hfuel : nodes.length + 1 ≤ fuel) (seed y : α) :
    y ∈ search next fuel [seed] [] ↔ Reach next (next seed) y := by
  have hcard := card_unseen_le nodes []
  rw [mem_search_iff hnodes (by simp only [List.length_singleton]; omega)
    (fun x hx => absurd hx List.not_mem_nil)]
  simp

/-! ## Walks through good nodes -/

section Through

variable {β : Type*} (link : β → β → Prop) (good : β → Prop) (x : β)

/-- What is reached from a node by links to good nodes only. -/
inductive Through : β → Prop where
  | here : Through x
  | next {y z : β} : Through y → link y z → good z → Through z

variable {link good x}

/-- Everything below a node is good exactly when no link leads from what is reached through good nodes
    to a bad one: the first bad node on a walk is enough. -/
theorem forall_transGen_iff_through :
    (∀ y, Relation.TransGen link x y → good y) ↔
      ∀ y z, Through link good x y → link y z → good z := by
  constructor
  · intro h y z hy hlink
    have hwalk : Relation.ReflTransGen link x y := by
      clear hlink
      induction hy with
      | here => exact .refl
      | next _ hlink _ ih => exact ih.tail hlink
    exact h z (Relation.TransGen.tail' hwalk hlink)
  · intro h y hy
    have hthrough : Through link good x y ∧ good y := by
      induction hy with
      | single hlink => exact ⟨.next .here hlink (h _ _ .here hlink), h _ _ .here hlink⟩
      | tail _ hlink ih => exact ⟨.next ih.1 hlink (h _ _ ih.1 hlink), h _ _ ih.1 hlink⟩
    exact hthrough.2

end Through

end Worklist
