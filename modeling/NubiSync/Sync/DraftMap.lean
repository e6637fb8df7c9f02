import Mathlib.Data.List.Dedup
import NubiSync.Sync.Convergence

set_option autoImplicit false

/-! # The draft map, read as a list of candidates

`set_action` merges two candidates of different kinds at one path into a blocked one. When the kinds at
each path agree (`KindsAgree`) nothing is merged: the map holds the first candidate at every path, and
the only error left is the action limit, which counts paths. The planner's candidates agree
(`Sync/ConvergenceSpec.lean`), so its actions and counters are read off the candidate list. -/

namespace NubiSync

/-- Candidates at one path agree on the kind. -/
def KindsAgree (candidates : List ActionDraft) : Prop :=
  ∀ a ∈ candidates, ∀ b ∈ candidates, a.relativePath = b.relativePath → a.kind = b.kind

/-- The number of paths the candidates name. -/
def pathCount (candidates : List ActionDraft) : ℕ :=
  (candidates.map ActionDraft.relativePath).dedup.length

/-- The map holds the first candidate at every path. -/
def HoldsFirst (actions : ActionMap) (candidates : List ActionDraft) : Prop :=
  ∀ path, actions.lookup path = candidates.find? (·.relativePath = path)

theorem KindsAgree.of_append_left {xs ys : List ActionDraft} (h : KindsAgree (xs ++ ys)) :
    KindsAgree xs := fun a ha b hb =>
  h a (List.mem_append_left _ ha) b (List.mem_append_left _ hb)

theorem HoldsFirst.empty : HoldsFirst ∅ [] := fun _ => rfl

theorem HoldsFirst.mem_keys {actions : ActionMap} {candidates : List ActionDraft}
    (h : HoldsFirst actions candidates) (path : Text) :
    path ∈ actions.keys ↔ path ∈ candidates.map ActionDraft.relativePath := by
  rw [← AList.mem_keys, ← AList.lookup_isSome, h path, List.find?_isSome, List.mem_map]
  simp

theorem HoldsFirst.keys_length {actions : ActionMap} {candidates : List ActionDraft}
    (h : HoldsFirst actions candidates) : actions.keys.length = pathCount candidates := by
  refine List.Perm.length_eq ((List.perm_ext_iff_of_nodup actions.keys_nodup
    (List.nodup_dedup _)).mpr fun path => ?_)
  rw [h.mem_keys, List.mem_dedup]

theorem pathCount_append_le (xs ys : List ActionDraft) : pathCount xs ≤ pathCount (xs ++ ys) := by
  refine (List.subperm_of_subset (List.nodup_dedup _) fun path hpath => ?_).length_le
  rw [List.mem_dedup] at hpath ⊢
  rw [List.map_append]
  exact List.mem_append_left _ hpath

/-! ## Recording -/

/-- One candidate: it is kept when its path is new, dropped when an agreeing one is there, and
    refused when it would exceed the limit. -/
theorem setAction_spec {maxActions : ℕ} {actions : ActionMap} {prev : List ActionDraft}
    (h : HoldsFirst actions prev) (candidate : ActionDraft)
    (hagree : KindsAgree (prev ++ [candidate])) (hsize : pathCount prev ≤ maxActions) :
    (pathCount (prev ++ [candidate]) ≤ maxActions →
      ∃ actions', setAction maxActions actions candidate = .ok actions' ∧
        HoldsFirst actions' (prev ++ [candidate])) ∧
    (maxActions < pathCount (prev ++ [candidate]) →
      setAction maxActions actions candidate = .error .actionLimitExceeded) := by
  cases hlookup : actions.lookup candidate.relativePath with
  | some existing =>
      have hfound := hlookup
      rw [h] at hfound
      have hpath : existing.relativePath = candidate.relativePath := by
        simpa using List.find?_some hfound
      have hkind : existing.kind = candidate.kind :=
        hagree existing (List.mem_append_left _ (List.mem_of_find?_eq_some hfound)) candidate
          (by simp) hpath
      have hholds : HoldsFirst actions (prev ++ [candidate]) := by
        intro path
        rw [h path, List.find?_append]
        by_cases hp : candidate.relativePath = path
        · rw [← hp, hfound]
          rfl
        · simp [hp]
      have hsame : pathCount (prev ++ [candidate]) = pathCount prev := by
        rw [← hholds.keys_length, h.keys_length]
      refine ⟨fun _ => ⟨actions, ?_, hholds⟩, fun hbig => absurd hbig (by omega)⟩
      simp [setAction, hlookup, hkind]
  | none =>
      have hholds : HoldsFirst (actions.insert candidate.relativePath candidate)
          (prev ++ [candidate]) := by
        intro path
        by_cases hp : candidate.relativePath = path
        · rw [← hp, AList.lookup_insert, List.find?_append, ← h, hlookup]
          simp
        · rw [AList.lookup_insert_ne (Ne.symm hp), h path, List.find?_append]
          simp [hp]
      have hlen := hholds.keys_length
      constructor
      · intro hle
        exact ⟨_, by simp only [setAction, hlookup, hlen, if_neg (Nat.not_lt.mpr hle)], hholds⟩
      · intro hbig
        simp only [setAction, hlookup, hlen, gt_iff_lt, if_pos hbig]

/-- **Recording a candidate list** succeeds exactly when it names at most `maxActions` paths, and then
    the map holds the first candidate at every path. -/
theorem setActions_spec (maxActions : ℕ) (candidates : List ActionDraft) :
    ∀ (prev : List ActionDraft) (actions : ActionMap), HoldsFirst actions prev →
      KindsAgree (prev ++ candidates) → pathCount prev ≤ maxActions →
      (pathCount (prev ++ candidates) ≤ maxActions →
        ∃ actions', setActions maxActions actions candidates = .ok actions' ∧
          HoldsFirst actions' (prev ++ candidates)) ∧
      (maxActions < pathCount (prev ++ candidates) →
        setActions maxActions actions candidates = .error .actionLimitExceeded) := by
  induction candidates with
  | nil =>
      intro prev actions h _ hsize
      simp only [List.append_nil]
      exact ⟨fun _ => ⟨actions, rfl, h⟩, fun hbig => absurd hbig (by omega)⟩
  | cons candidate rest ih =>
      intro prev actions h hagree hsize
      have hassoc : prev ++ candidate :: rest = (prev ++ [candidate]) ++ rest := by simp
      rw [hassoc] at hagree ⊢
      obtain ⟨hok, herr⟩ := setAction_spec h candidate hagree.of_append_left hsize
      by_cases hle : pathCount (prev ++ [candidate]) ≤ maxActions
      · obtain ⟨actions', hstep, hholds⟩ := hok hle
        have hrun : setActions maxActions actions (candidate :: rest) =
            setActions maxActions actions' rest := by
          rw [setActions, List.foldlM_cons, hstep]
          rfl
        rw [hrun]
        exact ih (prev ++ [candidate]) actions' hholds hagree hle
      · have hmono := pathCount_append_le (prev ++ [candidate]) rest
        refine ⟨fun hsmall => absurd hsmall (by omega), fun _ => ?_⟩
        rw [setActions, List.foldlM_cons, herr (by omega)]
        rfl

theorem setActions_empty {maxActions : ℕ} {candidates : List ActionDraft}
    (hagree : KindsAgree candidates) (hle : pathCount candidates ≤ maxActions) :
    ∃ actions, setActions maxActions ∅ candidates = .ok actions ∧ HoldsFirst actions candidates :=
  (setActions_spec maxActions candidates [] ∅ HoldsFirst.empty hagree (Nat.zero_le _)).1 hle

theorem setActions_empty_ok {maxActions : ℕ} {candidates : List ActionDraft} {actions : ActionMap}
    (hagree : KindsAgree candidates) (h : setActions maxActions ∅ candidates = .ok actions) :
    pathCount candidates ≤ maxActions ∧ HoldsFirst actions candidates := by
  have hspec := setActions_spec maxActions candidates [] ∅ HoldsFirst.empty hagree
    (Nat.zero_le _)
  by_cases hle : pathCount candidates ≤ maxActions
  · obtain ⟨actions', hok, hholds⟩ := hspec.1 hle
    rw [h, Except.ok.injEq] at hok
    exact ⟨hle, hok ▸ hholds⟩
  · rw [hspec.2 (by simpa using hle)] at h
    exact absurd h (by simp)

/-! ## Actions and counters -/

/-- The actions of a draft map. -/
def actionsOf (drafts : ActionMap) : List ReceiveOnlyConvergenceAction :=
  ((intoValues drafts).map ActionDraft.toAction).insertionSort actionLe

theorem mem_intoValues (drafts : ActionMap) (draft : ActionDraft) :
    draft ∈ intoValues drafts ↔ ∃ path, drafts.lookup path = some draft := by
  rw [intoValues, List.mem_insertionSort, List.mem_map]
  constructor
  · rintro ⟨⟨path, d⟩, hmem, rfl⟩
    exact ⟨path, AList.mem_lookup_iff.mpr hmem⟩
  · rintro ⟨path, h⟩
    exact ⟨⟨path, draft⟩, AList.mem_lookup_iff.mp h, rfl⟩

theorem HoldsFirst.relativePath {drafts : ActionMap} {candidates : List ActionDraft}
    (h : HoldsFirst drafts candidates) {path : Text} {draft : ActionDraft}
    (hlookup : drafts.lookup path = some draft) : draft.relativePath = path := by
  rw [h] at hlookup
  simpa using List.find?_some hlookup

/-- The actions are the first candidates, path by path. -/
theorem HoldsFirst.mem_actionsOf {drafts : ActionMap} {candidates : List ActionDraft}
    (h : HoldsFirst drafts candidates) (action : ReceiveOnlyConvergenceAction) :
    action ∈ actionsOf drafts ↔
      ∃ draft, candidates.find? (·.relativePath = action.relativePath) = some draft ∧
        draft.toAction = action := by
  rw [actionsOf, List.mem_insertionSort, List.mem_map]
  simp only [mem_intoValues]
  constructor
  · rintro ⟨draft, ⟨path, hlookup⟩, rfl⟩
    have hpath := h.relativePath hlookup
    exact ⟨draft, by rw [← h, show draft.toAction.relativePath = path from hpath, hlookup], rfl⟩
  · rintro ⟨draft, hfind, rfl⟩
    exact ⟨draft, ⟨_, (h _).trans hfind⟩, rfl⟩

theorem HoldsFirst.nodup_paths {drafts : ActionMap} {candidates : List ActionDraft}
    (h : HoldsFirst drafts candidates) :
    ((actionsOf drafts).map ReceiveOnlyConvergenceAction.relativePath).Nodup := by
  have hperm : ((actionsOf drafts).map ReceiveOnlyConvergenceAction.relativePath).Perm
      drafts.keys := by
    have hsort := ((List.perm_insertionSort actionLe ((intoValues drafts).map
      ActionDraft.toAction)).map ReceiveOnlyConvergenceAction.relativePath)
    refine hsort.trans ?_
    rw [List.map_map, intoValues]
    refine ((List.perm_insertionSort _ _).map _).trans ?_
    rw [List.map_map, AList.keys, List.keys]
    refine List.Perm.of_eq (List.map_congr_left fun entry hentry => ?_)
    exact h.relativePath (AList.mem_lookup_iff.mpr hentry)
  exact hperm.nodup_iff.mpr drafts.keys_nodup

/-- An action of a kind stands at a path exactly when a candidate of that kind does. -/
theorem HoldsFirst.exists_action_iff {drafts : ActionMap} {candidates : List ActionDraft}
    (h : HoldsFirst drafts candidates) (hagree : KindsAgree candidates) (path : Text)
    (kind : ReceiveOnlyConvergenceActionKind) :
    (∃ action ∈ actionsOf drafts, action.relativePath = path ∧ action.kind = kind) ↔
      ∃ draft ∈ candidates, draft.relativePath = path ∧ draft.kind = kind := by
  constructor
  · rintro ⟨action, haction, rfl, rfl⟩
    obtain ⟨draft, hfind, rfl⟩ := (h.mem_actionsOf action).mp haction
    exact ⟨draft, List.mem_of_find?_eq_some hfind, rfl, rfl⟩
  · rintro ⟨draft, hdraft, rfl, rfl⟩
    cases hfind : candidates.find? (·.relativePath = draft.relativePath) with
    | none => exact absurd (List.find?_eq_none.mp hfind draft hdraft) (by simp)
    | some first =>
        have hpath : first.relativePath = draft.relativePath := by simpa using List.find?_some hfind
        refine ⟨first.toAction, (h.mem_actionsOf _).mpr ⟨first, ?_, rfl⟩, hpath, ?_⟩
        · rwa [show first.toAction.relativePath = draft.relativePath from hpath]
        · exact hagree first (List.mem_of_find?_eq_some hfind) draft hdraft hpath

/-- A counter is the length of any duplicate-free list of the paths that carry its kind. -/
theorem HoldsFirst.countP_kind {drafts : ActionMap} {candidates : List ActionDraft}
    (h : HoldsFirst drafts candidates) (hagree : KindsAgree candidates)
    (kind : ReceiveOnlyConvergenceActionKind) {paths : List Text} (hnodup : paths.Nodup)
    (hpaths : ∀ path, path ∈ paths ↔
      ∃ draft ∈ candidates, draft.relativePath = path ∧ draft.kind = kind) :
    (actionsOf drafts).countP (·.kind == kind) = paths.length := by
  rw [List.countP_eq_length_filter, ← List.length_map ReceiveOnlyConvergenceAction.relativePath]
  have hsub := (List.filter_sublist (p := fun a : ReceiveOnlyConvergenceAction => a.kind == kind)
    (l := actionsOf drafts)).map ReceiveOnlyConvergenceAction.relativePath
  refine ((List.perm_ext_iff_of_nodup (h.nodup_paths.sublist hsub) hnodup).mpr
    fun path => ?_).length_eq
  rw [hpaths, ← h.exists_action_iff hagree]
  simp only [List.mem_map, List.mem_filter, beq_iff_eq]
  constructor
  · rintro ⟨action, ⟨haction, hkind⟩, hpath⟩
    exact ⟨action, haction, hpath, hkind⟩
  · rintro ⟨action, haction, hpath, hkind⟩
    exact ⟨action, ⟨haction, hkind⟩, hpath⟩

end NubiSync
