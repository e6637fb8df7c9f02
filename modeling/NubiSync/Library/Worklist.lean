import Mathlib.Data.List.Perm.Subperm
import Mathlib.Logic.Relation

set_option autoImplicit false

/-! # Worklists over a successor function

A breadth-first worklist pops the head of a queue and appends its successors. `drain` is the worklist
without a visited set: it returns the pop order, or `none` when the fuel does not empty the queue.
Without a visited set the loop is only safe on forests, so the two results that matter are

* `drain_isSome_of_forest`: from seeds that no reachable node points back to, in a graph where every
  node has at most one predecessor, the queue empties after at most as many pops as there are nodes;
* `drain_eq_none_of_cycle`: a queue that holds a node of a cycle never empties.

`mem_drain_iff` says what an emptied queue has popped, in any graph. -/

namespace Worklist

variable {α : Type*}

/-- One edge of the graph a successor function describes. -/
def Step (next : α → List α) (x y : α) : Prop := y ∈ next x

/-- `y` is reachable from one of the seeds, in any number of steps. -/
def Reach (next : α → List α) (seeds : List α) (y : α) : Prop :=
  ∃ s ∈ seeds, Relation.ReflTransGen (Step next) s y

/-- The worklist without a visited set: the order in which nodes are popped, `none` when `fuel` pops
    leave the queue non-empty. -/
def drain (next : α → List α) : ℕ → List α → Option (List α)
  | _, [] => some []
  | 0, _ :: _ => none
  | fuel + 1, x :: queue => (drain next fuel (queue ++ next x)).map (x :: ·)

@[simp] theorem drain_nil (next : α → List α) (fuel : ℕ) : drain next fuel [] = some [] := by
  cases fuel <;> rfl

@[simp] theorem drain_zero_cons (next : α → List α) (x : α) (queue : List α) :
    drain next 0 (x :: queue) = none := rfl

theorem drain_succ_cons (next : α → List α) (fuel : ℕ) (x : α) (queue : List α) :
    drain next (fuel + 1) (x :: queue) = (drain next fuel (queue ++ next x)).map (x :: ·) := rfl

variable {next : α → List α}

/-- More fuel pops nothing else. -/
theorem drain_mono {fuel fuel' : ℕ} (hfuel : fuel ≤ fuel') {queue out : List α}
    (h : drain next fuel queue = some out) : drain next fuel' queue = some out := by
  induction fuel generalizing fuel' queue out with
  | zero =>
      cases queue with
      | nil => simpa using h
      | cons x queue => simp at h
  | succ fuel ih =>
      cases queue with
      | nil => simpa using h
      | cons x queue =>
          obtain ⟨more, rfl⟩ := Nat.exists_eq_add_of_le hfuel
          rw [drain_succ_cons, Option.map_eq_some_iff] at h
          obtain ⟨rest, hrest, rfl⟩ := h
          rw [Nat.add_right_comm, drain_succ_cons, ih (Nat.le_add_right fuel more) hrest]
          rfl

/-! ## What an emptied queue has popped -/

theorem Reach.of_mem {seeds : List α} {s : α} (h : s ∈ seeds) : Reach next seeds s :=
  ⟨s, h, .refl⟩

theorem Reach.step {seeds : List α} {x y : α} (hx : Reach next seeds x) (hy : y ∈ next x) :
    Reach next seeds y := by
  obtain ⟨s, hs, hsx⟩ := hx
  exact ⟨s, hs, hsx.tail hy⟩

/-- Soundness: only reachable nodes are popped. -/
theorem reach_of_mem_drain {fuel : ℕ} {queue out : List α} (h : drain next fuel queue = some out)
    {y : α} (hy : y ∈ out) : Reach next queue y := by
  induction fuel generalizing queue out with
  | zero =>
      cases queue with
      | nil => simp_all
      | cons x queue => simp at h
  | succ fuel ih =>
      cases queue with
      | nil => simp_all
      | cons x queue =>
          rw [drain_succ_cons, Option.map_eq_some_iff] at h
          obtain ⟨rest, hrest, rfl⟩ := h
          rcases List.mem_cons.mp hy with rfl | hy
          · exact Reach.of_mem List.mem_cons_self
          · obtain ⟨s, hs, hsy⟩ := ih hrest hy
            rcases List.mem_append.mp hs with hs | hs
            · exact ⟨s, List.mem_cons_of_mem _ hs, hsy⟩
            · exact ⟨x, List.mem_cons_self, hsy.head hs⟩

/-- Everything queued is popped, and the popped nodes are closed under successors. -/
theorem drain_closed {fuel : ℕ} {queue out : List α} (h : drain next fuel queue = some out) :
    (∀ x ∈ queue, x ∈ out) ∧ ∀ x ∈ out, ∀ y ∈ next x, y ∈ out := by
  induction fuel generalizing queue out with
  | zero =>
      cases queue with
      | nil => simp_all
      | cons x queue => simp at h
  | succ fuel ih =>
      cases queue with
      | nil => simp_all
      | cons x queue =>
          rw [drain_succ_cons, Option.map_eq_some_iff] at h
          obtain ⟨rest, hrest, rfl⟩ := h
          obtain ⟨hqueued, hclosed⟩ := ih hrest
          refine ⟨fun y hy => ?_, fun y hy z hz => ?_⟩
          · rcases List.mem_cons.mp hy with rfl | hy
            · exact List.mem_cons_self
            · exact List.mem_cons_of_mem _ (hqueued y (List.mem_append_left _ hy))
          · rcases List.mem_cons.mp hy with rfl | hy
            · exact List.mem_cons_of_mem _ (hqueued z (List.mem_append_right _ hz))
            · exact List.mem_cons_of_mem _ (hclosed y hy z hz)

/-- **What an emptied queue has popped.** Exactly the nodes reachable from the queue. -/
theorem mem_drain_iff {fuel : ℕ} {queue out : List α} (h : drain next fuel queue = some out) (y : α) :
    y ∈ out ↔ Reach next queue y := by
  refine ⟨reach_of_mem_drain h, ?_⟩
  rintro ⟨s, hs, hsy⟩
  obtain ⟨hqueued, hclosed⟩ := drain_closed h
  induction hsy with
  | refl => exact hqueued s hs
  | tail _ hstep ih => exact hclosed _ ih _ hstep

/-- **Predecessors first.** A popped node was queued at the start or is the successor of a node popped
    before it. -/
theorem drain_origin {fuel : ℕ} {queue out before after : List α} {x : α}
    (h : drain next fuel queue = some out) (hout : out = before ++ x :: after) :
    x ∈ queue ∨ ∃ y ∈ before, x ∈ next y := by
  induction fuel generalizing queue out before with
  | zero =>
      cases queue with
      | nil => simp_all
      | cons y queue => simp at h
  | succ fuel ih =>
      cases queue with
      | nil => simp_all
      | cons y queue =>
          rw [drain_succ_cons, Option.map_eq_some_iff] at h
          obtain ⟨rest, hrest, rfl⟩ := h
          cases before with
          | nil =>
              obtain ⟨rfl, -⟩ := List.cons.inj hout
              exact Or.inl List.mem_cons_self
          | cons z before =>
              obtain ⟨rfl, htail⟩ := List.cons.inj hout
              rcases ih hrest htail with hqueued | ⟨w, hw, hx⟩
              · rcases List.mem_append.mp hqueued with hqueued | hx
                · exact Or.inl (List.mem_cons_of_mem _ hqueued)
                · exact Or.inr ⟨y, List.mem_cons_self, hx⟩
              · exact Or.inr ⟨w, List.mem_cons_of_mem _ hw, hx⟩

/-! ## Termination on forests -/

/-- The graph below the seeds is a forest whose roots are the seeds: successor lists are duplicate
    free, a reachable node has one predecessor, and no reachable node points back to a seed. -/
structure Forest (next : α → List α) (seeds : List α) : Prop where
  nodup_seeds : seeds.Nodup
  nodup_next : ∀ x, Reach next seeds x → (next x).Nodup
  unique_pred : ∀ x y, Reach next seeds x → Reach next seeds y → ∀ c, c ∈ next x → c ∈ next y → x = y
  seed_fresh : ∀ x, Reach next seeds x → ∀ s ∈ seeds, s ∉ next x

/-- The loop invariant on a forest: nothing is popped or queued twice, everything seen is reachable,
    and every node seen is a seed or the successor of a popped node. -/
structure Progress (next : α → List α) (seeds popped queue : List α) : Prop where
  nodup : (popped ++ queue).Nodup
  reach : ∀ x ∈ popped ++ queue, Reach next seeds x
  origin : ∀ x ∈ popped ++ queue, x ∈ seeds ∨ ∃ y ∈ popped, x ∈ next y

theorem Progress.init {seeds : List α} (h : Forest next seeds) : Progress next seeds [] seeds where
  nodup := by simpa using h.nodup_seeds
  reach x hx := Reach.of_mem (by simpa using hx)
  origin x hx := Or.inl (by simpa using hx)

theorem Progress.pop {seeds popped queue : List α} {x : α} (hf : Forest next seeds)
    (h : Progress next seeds popped (x :: queue)) :
    Progress next seeds (popped ++ [x]) (queue ++ next x) := by
  have hx : Reach next seeds x := h.reach x (by simp)
  have hassoc : popped ++ [x] ++ (queue ++ next x) = (popped ++ x :: queue) ++ next x := by simp
  -- a successor of `x` already seen would be a seed or have `x` as an earlier popped predecessor
  have hfresh : ∀ c ∈ next x, c ∉ popped ++ x :: queue := by
    intro c hc hseen
    rcases h.origin c hseen with hseed | ⟨y, hy, hcy⟩
    · exact hf.seed_fresh x hx c hseed hc
    · have hyx : y = x := hf.unique_pred y x (h.reach y (by simp [hy])) hx c hcy hc
      have hnodup := h.nodup
      rw [List.nodup_append] at hnodup
      exact hnodup.2.2 x (hyx ▸ hy) x List.mem_cons_self rfl
  refine ⟨?_, ?_, ?_⟩
  · rw [hassoc, List.nodup_append]
    exact ⟨h.nodup, hf.nodup_next x hx, fun a ha b hb hab => hfresh b hb (hab ▸ ha)⟩
  · intro y hy
    rw [hassoc, List.mem_append] at hy
    rcases hy with hy | hy
    · exact h.reach y hy
    · exact hx.step hy
  · intro y hy
    rw [hassoc, List.mem_append] at hy
    rcases hy with hy | hy
    · rcases h.origin y hy with hseed | ⟨z, hz, hyz⟩
      · exact Or.inl hseed
      · exact Or.inr ⟨z, List.mem_append_left _ hz, hyz⟩
    · exact Or.inr ⟨x, by simp, hy⟩

/-- The run lemma behind both forest results: from a state of the invariant, the run empties within
    the nodes not yet popped and appends to `popped` without repetition. -/
theorem Progress.drain {seeds : List α} (hf : Forest next seeds) {nodes : List α}
    (hnodes : ∀ x, Reach next seeds x → x ∈ nodes) (fuel : ℕ) :
    ∀ popped queue, Progress next seeds popped queue → nodes.length ≤ popped.length + fuel →
      ∃ out, drain next fuel queue = some out ∧ (popped ++ out).Nodup := by
  induction fuel with
  | zero =>
      intro popped queue h hfuel
      have hle : (popped ++ queue).length ≤ nodes.length :=
        (List.subperm_of_subset h.nodup fun x hx => hnodes x (h.reach x hx)).length_le
      have hempty : queue = [] := by
        rw [← List.length_eq_zero_iff]
        simp only [List.length_append] at hle
        omega
      subst hempty
      exact ⟨[], by simp, by simpa using h.nodup⟩
  | succ fuel ih =>
      intro popped queue h hfuel
      cases queue with
      | nil => exact ⟨[], by simp, by simpa using h.nodup⟩
      | cons x queue =>
          obtain ⟨out, hout, hnodup⟩ :=
            ih (popped ++ [x]) (queue ++ next x) (h.pop hf) (by simp; omega)
          exact ⟨x :: out, by rw [drain_succ_cons, hout]; rfl, by simpa using hnodup⟩

/-- **The worklist terminates on a forest**, after at most as many pops as there are nodes, and pops
    no node twice. -/
theorem drain_isSome_of_forest {seeds : List α} (hf : Forest next seeds) {nodes : List α}
    (hnodes : ∀ x, Reach next seeds x → x ∈ nodes) (fuel : ℕ) (hfuel : nodes.length ≤ fuel) :
    ∃ out, drain next fuel seeds = some out ∧ out.Nodup := by
  simpa using Progress.drain hf hnodes fuel [] seeds (Progress.init hf) (by simpa using hfuel)

/-! ## Divergence on cycles -/

/-- **A queue that holds a node of a cycle never empties**, whatever the fuel. -/
theorem drain_eq_none_of_cycle {queue : List α} {x : α} (hx : x ∈ queue)
    (hcycle : Relation.TransGen (Step next) x x) (fuel : ℕ) : drain next fuel queue = none := by
  induction fuel generalizing queue x with
  | zero =>
      cases queue with
      | nil => simp at hx
      | cons y queue => rfl
  | succ fuel ih =>
      cases queue with
      | nil => simp at hx
      | cons y queue =>
          rw [drain_succ_cons, Option.map_eq_none_iff]
          rcases List.mem_cons.mp hx with rfl | hx
          · -- the node is popped: its successor on the cycle takes its place
            obtain ⟨c, hc, hback⟩ := Relation.TransGen.head'_iff.mp hcycle
            exact ih (List.mem_append_right _ hc) (Relation.TransGen.tail'_iff.mpr ⟨x, hback, hc⟩)
          · exact ih (List.mem_append_left _ hx) hcycle

end Worklist
