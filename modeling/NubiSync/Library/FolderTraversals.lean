import Mathlib.Logic.Relation
import Mathlib.Data.List.Nodup
import NubiSync.Library.Checks
import NubiSync.Library.Transactions

set_option autoImplicit false

/-! # Traversals of a paginated folder tree

A tree of folders is listed breadth first through requests that give one page of one folder each. The
pages come from outside: they may hold anything, and their continuations may never end. `visit` asks
for a bounded number of pages, `Visited` says which pages a traversal got that came to its end, and
`visit_leaves` is its loop rule. What a traversal has listed, when every item names a parent listed
before it, is a tree that grew leaf by leaf (`Grown`). -/

/-! ## Trees grown leaf by leaf -/

section Growth

variable {ι κ : Type}

/-- Every item has a new key, and the root or an earlier item as its parent. -/
inductive Grown (key : ι → κ) (parent : ι → Option κ) (root : κ) : List ι → Prop where
  | nil : Grown key parent root []
  | snoc {items : List ι} {item : ι} {above : κ} (grown : Grown key parent root items)
      (link : parent item = some above) (known : above = root ∨ above ∈ items.map key)
      (below : key item ≠ root) (fresh : key item ∉ items.map key) :
      Grown key parent root (items ++ [item])

namespace Grown

variable {key : ι → κ} {parent : ι → Option κ} {root : κ} {items : List ι}

theorem nodup (h : Grown key parent root items) : (items.map key).Nodup := by
  induction h with
  | nil => exact List.nodup_nil
  | snoc _ _ _ _ fresh ih =>
      rw [List.map_append, List.map_singleton]
      exact List.nodup_append.mpr ⟨ih, List.nodup_singleton _, fun a ha b hb hab =>
        fresh (List.mem_singleton.mp hb ▸ hab ▸ ha)⟩

theorem ne_root (h : Grown key parent root items) : ∀ item ∈ items, key item ≠ root := by
  induction h with
  | nil => simp
  | snoc _ _ _ below _ ih =>
      intro other hother
      rcases List.mem_append.mp hother with hother | hother
      · exact ih other hother
      · rwa [List.mem_singleton.mp hother]

theorem parents (h : Grown key parent root items) :
    ∀ item ∈ items, ∃ above, parent item = some above ∧ (above = root ∨ above ∈ items.map key) := by
  induction h with
  | nil => simp
  | @snoc items item above _ link known _ _ ih =>
      have hmono : ∀ k, k = root ∨ k ∈ items.map key → k = root ∨ k ∈ (items ++ [item]).map key := by
        intro k hk
        rw [List.map_append, List.mem_append]
        exact hk.imp_right Or.inl
      intro other hother
      rcases List.mem_append.mp hother with hother | hother
      · obtain ⟨k, hlink, hk⟩ := ih other hother
        exact ⟨k, hlink, hmono k hk⟩
      · rw [List.mem_singleton.mp hother]
        exact ⟨above, link, hmono above known⟩

/-- Every item lies below the root. -/
theorem connected (h : Grown key parent root items) : ∀ item ∈ items,
    Relation.TransGen (fun above below => ∃ item ∈ items, parent item = some above ∧ key item = below)
      root (key item) := by
  induction h with
  | nil => simp
  | @snoc items item above _ link known _ _ ih =>
      have hlink : ∃ other ∈ items ++ [item], parent other = some above ∧ key other = key item :=
        ⟨item, by simp, link, rfl⟩
      have hmono : ∀ {a b : κ}, (∃ other ∈ items, parent other = some a ∧ key other = b) →
          ∃ other ∈ items ++ [item], parent other = some a ∧ key other = b := by
        rintro a b ⟨other, hother, hab⟩
        exact ⟨other, List.mem_append_left _ hother, hab⟩
      intro other hother
      rcases List.mem_append.mp hother with hother | hother
      · exact (ih other hother).lift id fun _ _ => hmono
      rw [List.mem_singleton.mp hother]
      rcases known with rfl | hknown
      · exact .single hlink
      · obtain ⟨parentItem, hmem, rfl⟩ := List.mem_map.mp hknown
        exact ((ih parentItem hmem).lift id fun _ _ => hmono).tail hlink

end Grown

end Growth

/-! ## Traversals -/

open Transactions Checks

/-- A folder tree as its pages show it: what a request gets, which may depend on the number of the
    request, what is done with a page, and the folders that a page lists. -/
structure FolderListing (σ ε κ τ π S : Type) where
  request : (number : ℕ) → κ → Option τ → Except ε π
  take : S → κ → π → Trace σ ε S
  folders : π → List κ
  continuation : π → Option τ
  tooManyPages : ε
  repeatedToken : ε

namespace FolderListing

variable {σ ε κ τ π S : Type} (listing : FolderListing σ ε κ τ π S)

/-- The traversal: `left` pages may still be asked for, `pages` have been, and `parent` is the folder
    whose pages come next. -/
def visit [DecidableEq τ] : (left pages : ℕ) → (queue : List κ) → (parent : κ) →
    (continuation : Option τ) → (seenTokens : List τ) → S → Trace σ ε (S × ℕ)
  | 0, _, _, _, _, _, _ => Trace.read (.error listing.tooManyPages)
  | left + 1, pages, queue, parent, continuation, seenTokens, s => do
      let page ← Trace.read (listing.request pages parent continuation)
      let s ← listing.take s parent page
      match listing.continuation page with
      | some next => do
          Trace.read (refuseIf (seenTokens.contains next) listing.repeatedToken)
          visit left (pages + 1) (queue ++ listing.folders page) parent (some next)
            (next :: seenTokens) s
      | none =>
          match queue ++ listing.folders page with
          | [] => pure (s, pages + 1)
          | parent :: queue => visit left (pages + 1) queue parent none [] s

/-- A traversal asks for its number of pages at most: what further requests would get is no matter. -/
theorem visit_congr [DecidableEq τ] {request : ℕ → κ → Option τ → Except ε π} {left number : ℕ}
    (h : ∀ n < number + left, listing.request n = request n) (queue : List κ) (parent : κ)
    (continuation : Option τ) (seenTokens : List τ) (s : S) :
    listing.visit left number queue parent continuation seenTokens s =
      { listing with request := request }.visit left number queue parent continuation seenTokens
        s := by
  induction left generalizing number queue parent continuation seenTokens s with
  | zero => rfl
  | succ left ih =>
      have hrest : ∀ n < number + 1 + left, listing.request n = request n :=
        fun n hn => h n (by omega)
      simp only [visit, h number (by omega), ih hrest]

/-- The pages that a traversal gets, in order, up to the last page of the last folder. -/
inductive Visited : (number : ℕ) → (queue : List κ) → (parent : κ) → (continuation : Option τ) →
    List π → Prop where
  | last {number : ℕ} {queue : List κ} {parent : κ} {continuation : Option τ} {page : π}
      (got : listing.request number parent continuation = .ok page)
      (ends : listing.continuation page = none) (empty : queue ++ listing.folders page = []) :
      Visited number queue parent continuation [page]
  | more {number : ℕ} {queue : List κ} {parent : κ} {continuation : Option τ} {page : π} {next : τ}
      {pages : List π} (got : listing.request number parent continuation = .ok page)
      (goes_on : listing.continuation page = some next)
      (rest : Visited (number + 1) (queue ++ listing.folders page) parent (some next) pages) :
      Visited number queue parent continuation (page :: pages)
  | pop {number : ℕ} {queue : List κ} {parent : κ} {continuation : Option τ} {page : π}
      {other : κ} {others : List κ} {pages : List π}
      (got : listing.request number parent continuation = .ok page)
      (ends : listing.continuation page = none)
      (popped : queue ++ listing.folders page = other :: others)
      (rest : Visited (number + 1) others other none pages) :
      Visited number queue parent continuation (page :: pages)

/-- **The loop rule.** What a page keeps, with the folders that are still to be listed and the pages that
    were got so far, holds when the traversal comes to its end. -/
theorem visit_leaves [DecidableEq τ] {P : σ → Prop} {I : List κ → S → List π → Prop}
    (hpop : ∀ parent queue s pages, I (parent :: queue) s pages → I queue s pages)
    (htake : ∀ number parent queue continuation s pages page, I (parent :: queue) s pages →
      listing.request number parent continuation = .ok page →
      (listing.take s parent page).Leaves P
        fun s' => I (parent :: (queue ++ listing.folders page)) s' (pages ++ [page]))
    {left number : ℕ} {queue : List κ} {parent : κ} {continuation : Option τ} {seenTokens : List τ}
    {s : S} {before : List π} (h : I (parent :: queue) s before) :
    (listing.visit left number queue parent continuation seenTokens s).Leaves P fun out =>
      ∃ pages, listing.Visited number queue parent continuation pages
        ∧ out.2 = number + pages.length ∧ I [] out.1 (before ++ pages) := by
  induction left generalizing number queue parent continuation seenTokens s before with
  | zero => exact .read fun _ h => (nomatch h)
  | succ left ih =>
      rw [visit]
      refine .read_bind fun page hpage => .bind (htake _ _ _ _ _ _ page h hpage) fun s' hs' => ?_
      cases hnext : listing.continuation page with
      | some next =>
          refine .read_bind fun _ _ => (ih hs').mono (fun _ => id) fun out => ?_
          rintro ⟨pages, hvisited, hcount, hlast⟩
          refine ⟨page :: pages, .more hpage hnext hvisited, ?_, by simpa using hlast⟩
          rw [hcount, List.length_cons]
          omega
      | none =>
          cases hqueue : queue ++ listing.folders page with
          | nil =>
              rw [hqueue] at hs'
              exact .pure ⟨[page], .last hpage hnext hqueue, rfl, hpop _ _ _ _ hs'⟩
          | cons other others =>
              rw [hqueue] at hs'
              refine (ih (hpop _ _ _ _ hs')).mono (fun _ => id) fun out => ?_
              rintro ⟨pages, hvisited, hcount, hlast⟩
              refine ⟨page :: pages, .pop hpage hnext hqueue hvisited, ?_, by simpa using hlast⟩
              rw [hcount, List.length_cons]
              omega

end FolderListing
